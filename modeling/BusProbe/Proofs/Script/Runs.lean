import BusProbe.Script.Handler
import BusProbe.Script.Run

/-!
# Runs of handled scripts

A script over one interface, met by a handler over another, is run against a device of the second.
The lemmas here take such a run apart: at a bind, at a request, at a request to one of two things
beside each other. What each met request preserves, the whole run preserves
(`handle_run_preserves`), and a script that makes only some kinds of requests (`Asks`) need only
have these looked at.
-/

set_option autoImplicit false
set_option relaxedAutoImplicit false

namespace BusProbe

/-! ### Events of two things beside each other -/

namespace Event

variable {I J : Interface}

/-- An event on the left of two things beside each other. -/
def onLeft : Event I → Event (I.beside J)
  | .exchange request reply => .exchange (.inl request) reply
  | .note notice => .note notice

/-- An event on the right of two things beside each other. -/
def onRight : Event J → Event (I.beside J)
  | .exchange request reply => .exchange (.inr request) reply
  | .note notice => .note notice

/-- What the left of two things beside each other sees of an event: its own exchanges and every
notice. -/
def left? : Event (I.beside J) → Option (Event I)
  | .exchange (.inl request) reply => some (.exchange request reply)
  | .exchange (.inr _) _ => none
  | .note notice => some (.note notice)

@[simp]
theorem filterMap_left?_map_onLeft (events : List (Event I)) :
    (events.map (onLeft (J := J))).filterMap left? = events := by
  induction events with
  | nil => rfl
  | cons event rest ih => cases event <;> simp [onLeft, left?, ih]

/-- Of what happens on the right, the left sees notices only. -/
theorem eq_note_of_mem_left?_map_onRight {events : List (Event J)} {event : Event I}
    (hevent : event ∈ (events.map onRight).filterMap left?) : ∃ notice, event = .note notice := by
  obtain ⟨_, hmem, hleft⟩ := List.mem_filterMap.mp hevent
  obtain ⟨inner, -, rfl⟩ := List.mem_map.mp hmem
  cases inner with
  | exchange request reply => simp [onRight, left?] at hleft
  | note notice => exact ⟨notice, (Option.some.inj hleft).symm⟩

end Event

/-- The left of two things beside each other, as a device of its own. -/
def Device.left {I J : Interface} {σ : Type} (device : Device (I.beside J) σ) : Device I σ :=
  fun request state ↦ device (.inl request) state

/-- The right of two things beside each other, as a device of its own. -/
def Device.right {I J : Interface} {σ : Type} (device : Device (I.beside J) σ) : Device J σ :=
  fun request state ↦ device (.inr request) state

namespace Script

variable {I J K : Interface} {σ τ δ α β : Type}

/-! ### Taking a run apart -/

/-- A run of two scripts one after the other has an outcome if the first has one and the second has
one from there. -/
theorem run_bind_eq_some {device : Device I σ} {script : Script I α} {next : α → Script I β}
    {state : σ} {outcome : Outcome I σ β} :
    (script >>= next).run device state = some outcome ↔
      ∃ first second, script.run device state = some first ∧
        (next first.value).run device first.state = some second ∧
          second.after first.events = outcome := by
  simp only [run_bind, Option.bind_eq_some_iff, Option.map_eq_some_iff]
  constructor
  · rintro ⟨first, hfirst, second, hsecond, rfl⟩
    exact ⟨first, second, hfirst, hsecond, rfl⟩
  · rintro ⟨first, second, hfirst, hsecond, rfl⟩
    exact ⟨first, hfirst, second, hsecond, rfl⟩

/-- The same for handled scripts: the second is handled from the state in which the first leaves
the handler. -/
theorem handle_run_bind_eq_some {handler : Handler I J σ} {device : Device J δ}
    {script : Script I α} {next : α → Script I β} {state : σ} {hardware : δ}
    {outcome : Outcome J δ (β × σ)} :
    ((script >>= next).handle handler state).run device hardware = some outcome ↔
      ∃ first second, (script.handle handler state).run device hardware = some first ∧
        ((next first.value.1).handle handler first.value.2).run device first.state = some second ∧
          second.after first.events = outcome := by
  rw [handle_bind, run_bind_eq_some]

theorem run_onLeft (device : Device (I.beside J) δ) (script : Script I α) (hardware : δ) :
    (script.onLeft (J := J)).run device hardware =
      (script.run device.left hardware).map fun outcome ↦
        ⟨outcome.value, outcome.state, outcome.events.map Event.onLeft⟩ := by
  induction script generalizing hardware with
  | done value => rfl
  | ask request next ih =>
    simp only [onLeft, run_ask, ih, Option.map_map]
    rfl
  | note notice next ih =>
    simp only [onLeft, run_note, ih, Option.map_map]
    rfl
  | stalled => rfl

theorem run_onRight (device : Device (I.beside J) δ) (script : Script J α) (hardware : δ) :
    (script.onRight (J := I)).run device hardware =
      (script.run device.right hardware).map fun outcome ↦
        ⟨outcome.value, outcome.state, outcome.events.map Event.onRight⟩ := by
  induction script generalizing hardware with
  | done value => rfl
  | ask request next ih =>
    simp only [onRight, run_ask, ih, Option.map_map]
    rfl
  | note notice next ih =>
    simp only [onRight, run_note, ih, Option.map_map]
    rfl
  | stalled => rfl

/-! ### What every met request preserves -/

/-- Every request that a script may make is of some kind. -/
def Asks (allowed : I.Request → Prop) : Script I α → Prop
  | .done _ => True
  | .ask request next => allowed request ∧ ∀ reply, (next reply).Asks allowed
  | .note _ next => next.Asks allowed
  | .stalled => True

theorem Asks.bind {allowed : I.Request → Prop} {script : Script I α} {next : α → Script I β}
    (hscript : script.Asks allowed) (hnext : ∀ value, (next value).Asks allowed) :
    (script >>= next).Asks allowed := by
  induction script with
  | done value => exact hnext value
  | ask request rest ih => exact ⟨hscript.1, fun reply ↦ ih reply (hscript.2 reply)⟩
  | note notice rest ih => exact ih hscript
  | stalled => trivial

theorem Asks.times {allowed : I.Request → Prop} {script : Script I Unit}
    (hscript : script.Asks allowed) (count : Nat) : (script.times count).Asks allowed := by
  induction count with
  | zero => trivial
  | succ count ih => exact hscript.bind fun _ ↦ ih

theorem Asks.mono {allowed more : I.Request → Prop} {script : Script I α}
    (hscript : script.Asks allowed) (hmore : ∀ request, allowed request → more request) :
    script.Asks more := by
  induction script with
  | done value => trivial
  | ask request rest ih =>
    exact ⟨hmore request hscript.1, fun reply ↦ ih reply (hscript.2 reply)⟩
  | note notice rest ih => exact ih hscript
  | stalled => trivial

/-- A property of the handler's state, the hardware and the events so far that a notice preserves,
and that each request of an allowed kind preserves when it is met, is preserved by a run of a
handled script that makes only such requests. -/
theorem handle_run_preserves {handler : Handler I J σ} {device : Device J δ}
    {allowed : I.Request → Prop} (holds : σ → δ → List (Event J) → Prop)
    (hnote : ∀ state hardware past notice, holds state hardware past →
      holds state hardware (past ++ [.note notice]))
    (hstep : ∀ request, allowed request → ∀ state hardware past answer,
      holds state hardware past → (handler request state).run device hardware = some answer →
        holds answer.value.2 answer.state (past ++ answer.events))
    {script : Script I α} (hasks : script.Asks allowed) {state : σ} {hardware : δ}
    {past : List (Event J)} {outcome : Outcome J δ (α × σ)} (hholds : holds state hardware past)
    (hrun : (script.handle handler state).run device hardware = some outcome) :
    holds outcome.value.2 outcome.state (past ++ outcome.events) := by
  induction script generalizing state hardware past outcome with
  | done value =>
    rw [handle_done, run_done, Option.some.injEq] at hrun
    subst hrun
    simpa using hholds
  | ask request next ih =>
    rw [handle_ask, run_bind_eq_some] at hrun
    obtain ⟨answer, rest, hanswer, hrest, rfl⟩ := hrun
    have hafter := hstep request hasks.1 state hardware past answer hholds hanswer
    have hend := ih answer.value.1 (hasks.2 _) hafter hrest
    rwa [List.append_assoc] at hend
  | note notice next ih =>
    rw [handle_note, run_note, Option.map_eq_some_iff] at hrun
    obtain ⟨rest, hrest, rfl⟩ := hrun
    have hend := ih hasks (hnote state hardware past notice hholds) hrest
    rwa [List.append_assoc] at hend
  | stalled => simp at hrun

end Script

/-! ### Handlers beside each other -/

namespace Handler

variable {I J K L : Interface} {σ τ δ α : Type}

/-- A script on the left, with the state of the right kept as it is. -/
theorem onLeft_run_eq_some {script : Script K (α × σ)} {other : τ}
    {device : Device (K.beside L) δ} {hardware : δ}
    {outcome : Outcome (K.beside L) δ (α × (σ × τ))} :
    (script.onLeft >>= fun answer ↦ pure (answer.1, answer.2, other)).run device hardware =
        some outcome ↔
      ∃ inner, script.run device.left hardware = some inner ∧
        outcome = ⟨(inner.value.1, inner.value.2, other), inner.state,
          inner.events.map Event.onLeft⟩ := by
  simp only [Script.run_bind_eq_some, Script.run_onLeft, Option.map_eq_some_iff]
  constructor
  · rintro ⟨first, second, ⟨inner, hinner, rfl⟩, hsecond, rfl⟩
    refine ⟨inner, hinner, ?_⟩
    rw [Script.pure_eq_done, Script.run_done, Option.some.injEq] at hsecond
    subst hsecond
    simp [Outcome.after]
  · rintro ⟨inner, hinner, rfl⟩
    exact ⟨_, _, ⟨inner, hinner, rfl⟩, rfl, by simp [Outcome.after]⟩

/-- A script on the right, with the state of the left kept as it is. -/
theorem onRight_run_eq_some {script : Script L (α × τ)} {other : σ}
    {device : Device (K.beside L) δ} {hardware : δ}
    {outcome : Outcome (K.beside L) δ (α × (σ × τ))} :
    (script.onRight >>= fun answer ↦ pure (answer.1, other, answer.2)).run device hardware =
        some outcome ↔
      ∃ inner, script.run device.right hardware = some inner ∧
        outcome = ⟨(inner.value.1, other, inner.value.2), inner.state,
          inner.events.map Event.onRight⟩ := by
  simp only [Script.run_bind_eq_some, Script.run_onRight, Option.map_eq_some_iff]
  constructor
  · rintro ⟨first, second, ⟨inner, hinner, rfl⟩, hsecond, rfl⟩
    refine ⟨inner, hinner, ?_⟩
    rw [Script.pure_eq_done, Script.run_done, Option.some.injEq] at hsecond
    subst hsecond
    simp [Outcome.after]
  · rintro ⟨inner, hinner, rfl⟩
    exact ⟨_, _, ⟨inner, hinner, rfl⟩, rfl, by simp [Outcome.after]⟩

/-- A request to the left of two handlers beside each other is met as if there were no right. -/
theorem beside_inl_run_eq_some {left : Handler I K σ} {right : Handler J L τ}
    {device : Device (K.beside L) δ} {request : I.Request} {state : σ × τ} {hardware : δ}
    {outcome : Outcome (K.beside L) δ (I.Reply request × (σ × τ))} :
    ((left.beside right) (.inl request) state).run device hardware = some outcome ↔
      ∃ inner, (left request state.1).run device.left hardware = some inner ∧
        outcome = ⟨(inner.value.1, inner.value.2, state.2), inner.state,
          inner.events.map Event.onLeft⟩ :=
  onLeft_run_eq_some

/-- A request to the right of two handlers beside each other is met as if there were no left. -/
theorem beside_inr_run_eq_some {left : Handler I K σ} {right : Handler J L τ}
    {device : Device (K.beside L) δ} {request : J.Request} {state : σ × τ} {hardware : δ}
    {outcome : Outcome (K.beside L) δ (J.Reply request × (σ × τ))} :
    ((left.beside right) (.inr request) state).run device hardware = some outcome ↔
      ∃ inner, (right request state.2).run device.right hardware = some inner ∧
        outcome = ⟨(inner.value.1, state.1, inner.value.2), inner.state,
          inner.events.map Event.onRight⟩ :=
  onRight_run_eq_some

end Handler

end BusProbe
