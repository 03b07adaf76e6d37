import BusProbe.Proofs.Script.Courses

/-!
# Scripts that go alike

A script may ask for something and go on in the same way whatever the reply is, apart from what it
records. Two scripts are alike if they make the same requests in the same order and have the same
value as long as the replies that they heed are the same; the other replies may differ, and each of
the two may record what it likes (`Alike`).

Two devices are compared by what happens on them, also where a script stalls and there is no run to
compare; `trace` gives these events. What it means that the heeded replies agree is left to the
interface: it is any relation between events that gives away one reply after another (`Settles`).
Then alike scripts make the same requests and come to the same value (`Alike.requests_eq`). On one
device they come out alike in any case (`Alike.run_unrecorded`).
-/

set_option autoImplicit false
set_option relaxedAutoImplicit false

namespace BusProbe.Script

variable {I : Interface} {σ τ α β : Type}

/-! ### What happens, with or without an end -/

/-- All that happens when a script is run, also if it stalls. -/
def trace (device : Device I σ) : Script I α → σ → List (Event I)
  | .done _, _ => []
  | .ask request next, state =>
    .exchange request (device request state).1 ::
      (next (device request state).1).trace device (device request state).2
  | .note notice next, state => .note notice :: next.trace device state
  | .stalled, _ => []

theorem trace_of_run {device : Device I σ} {script : Script I α} {state : σ}
    {outcome : Outcome I σ α} (hrun : script.run device state = some outcome) :
    script.trace device state = outcome.events := by
  induction script generalizing state outcome with
  | done value =>
    obtain rfl := Option.some.inj hrun
    rfl
  | ask request next ih =>
    rw [run_ask, Option.map_eq_some_iff] at hrun
    obtain ⟨rest, hrest, rfl⟩ := hrun
    exact congrArg (List.cons _) (ih _ hrest)
  | note notice next ih =>
    rw [run_note, Option.map_eq_some_iff] at hrun
    obtain ⟨rest, hrest, rfl⟩ := hrun
    exact congrArg (List.cons _) (ih hrest)
  | stalled => simp at hrun

/-- After a script that stalls nothing more happens. -/
theorem trace_bind (device : Device I σ) (script : Script I α) (next : α → Script I β)
    (state : σ) :
    (script >>= next).trace device state = script.trace device state ++
      (script.run device state).elim [] fun first ↦
        (next first.value).trace device first.state := by
  induction script generalizing state with
  | done value => rfl
  | ask request rest ih =>
    simp only [ask_bind, trace, run_ask, ih, List.cons_append]
    cases (rest (device request state).1).run device (device request state).2 <;> rfl
  | note notice rest ih =>
    simp only [note_bind, trace, run_note, ih, List.cons_append]
    cases rest.run device state <;> rfl
  | stalled => rfl

/-! ### Alike scripts -/

variable {heeded : I.Request → Prop}

/-- Two scripts make the same requests and have the same value, as long as the replies to the heeded
requests are the same. -/
inductive Alike (heeded : I.Request → Prop) : Script I α → Script I α → Prop
  | done (value : α) : Alike heeded (.done value) (.done value)
  | ask {request : I.Request} {next next' : I.Reply request → Script I α}
      (hnext : ∀ reply reply', (heeded request → reply = reply') →
        Alike heeded (next reply) (next' reply')) :
      Alike heeded (.ask request next) (.ask request next')
  | noteLeft {notice : Notice} {script script' : Script I α}
      (hscript : Alike heeded script script') :
      Alike heeded (.note notice script) script'
  | noteRight {notice : Notice} {script script' : Script I α}
      (hscript : Alike heeded script script') : Alike heeded script (.note notice script')
  | stalled : Alike heeded .stalled .stalled

/-- Scripts that are alike stay so when they are continued alike. -/
theorem Alike.bind {script script' : Script I α} {next next' : α → Script I β}
    (hscript : script.Alike heeded script')
    (hnext : ∀ value, (next value).Alike heeded (next' value)) :
    (script >>= next).Alike heeded (script' >>= next') := by
  induction hscript with
  | done value => exact hnext value
  | ask _ ih => exact .ask ih
  | noteLeft _ ih => exact .noteLeft ih
  | noteRight _ ih => exact .noteRight ih
  | stalled => exact .stalled

theorem Alike.times {script script' : Script I Unit} (hscript : script.Alike heeded script')
    (count : Nat) : (times count script).Alike heeded (times count script') := by
  induction count with
  | zero => exact .done ()
  | succ count ih => exact hscript.bind fun _ ↦ ih

theorem alike_recordAll (notices notices' : List Notice) :
    (recordAll notices : Script I Unit).Alike heeded (recordAll notices') := by
  induction notices with
  | nil =>
    induction notices' with
    | nil => exact .done ()
    | cons notice notices' ih => exact .noteRight ih
  | cons notice notices ih => exact .noteLeft ih

/-- A script that only records what the reply is goes alike whatever the reply is. -/
theorem AsksOnce.alike {script : Script I Unit} {request : I.Request}
    (hscript : script.AsksOnce request) : script.Alike heeded script := by
  obtain ⟨notices, rfl⟩ := hscript
  exact .ask fun reply reply' _ ↦ alike_recordAll (notices reply) (notices reply')

/-! ### Traces of alike scripts -/

/-- A relation between the events on two devices gives away that the replies to heeded requests are
the same, one after another, whatever was recorded in between. -/
structure Settles (heeded : I.Request → Prop)
    (agree : List (Event I) → List (Event I) → Prop) : Prop where
  note_left : ∀ notice events events', agree (.note notice :: events) events' →
    agree events events'
  note_right : ∀ notice events events', agree events (.note notice :: events') →
    agree events events'
  exchange : ∀ request reply reply' events events',
    agree (.exchange request reply :: events) (.exchange request reply' :: events') →
      (heeded request → reply = reply') ∧ agree events events'

variable {agree : List (Event I) → List (Event I) → Prop}

/-- If the events on two devices agree about the heeded replies, then alike scripts make the same
requests of them, and either both come to an end with the same value or both stall. -/
theorem Alike.requests_eq {script script' : Script I α} (hscript : script.Alike heeded script')
    (hsettles : Settles heeded agree) {device : Device I σ} {device' : Device I τ} {state : σ}
    {state' : τ} (hagree : agree (script.trace device state) (script'.trace device' state')) :
    Event.requests (script.trace device state) = Event.requests (script'.trace device' state') ∧
      (script.run device state).map Outcome.value =
        (script'.run device' state').map Outcome.value := by
  induction hscript generalizing state state' with
  | done value => exact ⟨rfl, rfl⟩
  | ask _ ih =>
    obtain ⟨hreply, hlater⟩ := hsettles.exchange _ _ _ _ _ hagree
    obtain ⟨hrequests, hvalue⟩ := ih _ _ hreply hlater
    simp only [run_ask, Option.map_map]
    exact ⟨congrArg (List.cons _) hrequests, hvalue⟩
  | noteLeft _ ih =>
    obtain ⟨hrequests, hvalue⟩ := ih (hsettles.note_left _ _ _ hagree)
    simp only [run_note, Option.map_map]
    exact ⟨hrequests, hvalue⟩
  | noteRight _ ih =>
    obtain ⟨hrequests, hvalue⟩ := ih (hsettles.note_right _ _ _ hagree)
    simp only [run_note, Option.map_map]
    exact ⟨hrequests, hvalue⟩
  | stalled => exact ⟨rfl, rfl⟩

/-! ### Alike scripts on one device -/

/-- A script goes like itself when all replies are heeded. -/
theorem alike_refl (script : Script I α) : script.Alike (fun _ ↦ True) script := by
  induction script with
  | done value => exact .done value
  | ask request next ih =>
    refine .ask fun reply reply' hreply ↦ ?_
    obtain rfl := hreply trivial
    exact ih reply
  | note notice next ih => exact .noteLeft (.noteRight ih)
  | stalled => exact .stalled

/-- What is recorded first makes no difference. -/
theorem Alike.afterNotices {script script' : Script I α} (hscript : script.Alike heeded script')
    (notices : List Notice) :
    (recordAll notices >>= fun _ ↦ script).Alike heeded script' :=
  (alike_recordAll notices []).bind fun _ ↦ hscript

/-- On one device alike scripts come out alike, or stall both. -/
theorem Alike.run_unrecorded {script script' : Script I α} (hscript : script.Alike heeded script')
    (device : Device I σ) (state : σ) :
    (script.run device state).map Outcome.unrecorded =
      (script'.run device state).map Outcome.unrecorded := by
  induction hscript generalizing state with
  | done value => rfl
  | @ask request next next' _ ih =>
    have hnext := ih (device request state).1 _ (fun _ ↦ rfl) (device request state).2
    have hafter := congrArg (Option.map fun (value, state, later) ↦
      (value, state, request :: later)) hnext
    rw [Option.map_map, Option.map_map] at hafter
    rw [run_ask, run_ask, Option.map_map, Option.map_map]
    exact hafter
  | noteLeft _ ih =>
    rw [run_note, Option.map_map, ← ih]
    rfl
  | noteRight _ ih =>
    rw [run_note, Option.map_map, ih]
    rfl
  | stalled => rfl

end BusProbe.Script
