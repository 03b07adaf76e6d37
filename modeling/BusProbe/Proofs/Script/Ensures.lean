import BusProbe.Proofs.Script.Runs

/-!
# What a script ensures

A statement about every run of a script needs no device: it quantifies over the replies. A script
ensures something if with every choice of replies of an allowed kind it comes to an end, and the
value it gives and what happened on the way are as stated. What is ensured holds of a run against
any device that answers in the allowed way, and there is such a run (`Ensures.run`); what scripts
ensure one after the other, their composition ensures (`ensures_bind`).
-/

set_option autoImplicit false
set_option relaxedAutoImplicit false

namespace BusProbe

/-- Which replies to a request are allowed for. -/
abbrev Interface.Replies (I : Interface) := (request : I.Request) → I.Reply request → Prop

/-- Every reply is allowed for. -/
def Interface.anyReply (I : Interface) : I.Replies := fun _ _ ↦ True

/-- The replies of two things beside each other, of which only the left is bound to some kind. -/
def Interface.Replies.leftOf {I : Interface} (allowed : I.Replies) (J : Interface) :
    (I.beside J).Replies
  | .inl request, reply => allowed request reply
  | .inr _, _ => True

/-- A device that answers in the allowed way, whatever its state. -/
def Device.Answers {I : Interface} {δ : Type} (device : Device I δ) (allowed : I.Replies) : Prop :=
  ∀ request state, allowed request (device request state).1

theorem Device.answers_any {I : Interface} {δ : Type} (device : Device I δ) :
    device.Answers I.anyReply :=
  fun _ _ ↦ trivial

theorem Device.Answers.of_left {I J : Interface} {δ : Type} {allowed : I.Replies}
    {device : Device (I.beside J) δ} (hdevice : device.left.Answers allowed) :
    device.Answers (allowed.leftOf J) := by
  intro request state
  cases request with
  | inl request => exact hdevice request state
  | inr request => trivial

namespace Script

variable {I J K : Interface} {σ τ δ α β : Type} {allowed : I.Replies}

/-- With replies of an allowed kind a script comes to an end, with a value and events of which
`post` holds. -/
def Ensures (allowed : I.Replies) : Script I α → (α → List (Event I) → Prop) → Prop
  | .done value, post => post value []
  | .ask request next, post => ∀ reply, allowed request reply →
      (next reply).Ensures allowed fun value events ↦ post value (.exchange request reply :: events)
  | .note notice next, post =>
      next.Ensures allowed fun value events ↦ post value (.note notice :: events)
  | .stalled, _ => False

variable {post : α → List (Event I) → Prop}

@[simp]
theorem ensures_done {value : α} : (Script.done value).Ensures allowed post ↔ post value [] :=
  Iff.rfl

@[simp]
theorem ensures_note {notice : Notice} {next : Script I α} :
    (Script.note notice next).Ensures allowed post ↔
      next.Ensures allowed fun value events ↦ post value (.note notice :: events) :=
  Iff.rfl

theorem Ensures.mono {weaker : α → List (Event I) → Prop} {script : Script I α}
    (hscript : script.Ensures allowed post)
    (hweaker : ∀ value events, post value events → weaker value events) :
    script.Ensures allowed weaker := by
  induction script generalizing post weaker with
  | done value => exact hweaker value [] hscript
  | ask request next ih =>
    intro reply hreply
    exact ih reply (hscript reply hreply) fun value events ↦ hweaker value _
  | note notice next ih => exact ih hscript fun value events ↦ hweaker value _
  | stalled => exact hscript

/-- A script ensures with its continuation what it ensures of the continuation. -/
theorem ensures_bind {script : Script I α} {next : α → Script I β}
    {post : β → List (Event I) → Prop} :
    (script >>= next).Ensures allowed post ↔ script.Ensures allowed fun first events ↦
      (next first).Ensures allowed fun value later ↦ post value (events ++ later) := by
  induction script generalizing post with
  | done value => rfl
  | ask request rest ih => exact forall₂_congr fun reply _ ↦ ih reply
  | note notice rest ih => exact ih
  | stalled => rfl

theorem Ensures.bind {script : Script I α} {next : α → Script I β}
    {post : α → List (Event I) → Prop} {last : β → List (Event I) → Prop}
    (hscript : script.Ensures allowed post)
    (hnext : ∀ first events, post first events →
      (next first).Ensures allowed fun value later ↦ last value (events ++ later)) :
    (script >>= next).Ensures allowed last :=
  ensures_bind.mpr (hscript.mono hnext)

/-- A device that answers in the allowed way leads a script to an end that the script ensures. -/
theorem Ensures.run {script : Script I α} (hscript : script.Ensures allowed post)
    {device : Device I δ} (hdevice : device.Answers allowed) (state : δ) :
    ∃ outcome, script.run device state = some outcome ∧ post outcome.value outcome.events := by
  induction script generalizing state post with
  | done value => exact ⟨_, rfl, hscript⟩
  | ask request next ih =>
    obtain ⟨outcome, hrun, hpost⟩ :=
      ih _ (hscript _ (hdevice request state)) (device request state).2
    exact ⟨_, by rw [run_ask, hrun, Option.map_some], hpost⟩
  | note notice next ih =>
    obtain ⟨outcome, hrun, hpost⟩ := ih hscript state
    exact ⟨_, by rw [run_note, hrun, Option.map_some], hpost⟩
  | stalled => exact hscript.elim

theorem Ensures.of_run {script : Script I α} (hscript : script.Ensures allowed post)
    {device : Device I δ} (hdevice : device.Answers allowed) {state : δ} {outcome : Outcome I δ α}
    (hrun : script.run device state = some outcome) : post outcome.value outcome.events := by
  obtain ⟨_, hother, hpost⟩ := hscript.run hdevice state
  obtain rfl := Option.some.inj (hrun.symm.trans hother)
  exact hpost

/-- What a script ensures by itself it ensures beside something that answers as it likes. -/
theorem Ensures.onLeft {script : Script I α} (hscript : script.Ensures allowed post) :
    (script.onLeft (J := J)).Ensures (allowed.leftOf J) fun value events ↦
      ∃ inner, events = inner.map Event.onLeft ∧ post value inner := by
  induction script generalizing post with
  | done value => exact ⟨[], rfl, hscript⟩
  | ask request next ih =>
    intro reply hreply
    refine (ih reply (hscript reply hreply)).mono ?_
    rintro value _ ⟨inner, rfl, hpost⟩
    exact ⟨_, rfl, hpost⟩
  | note notice next ih =>
    rw [Script.onLeft, ensures_note]
    refine (ih hscript).mono ?_
    rintro value _ ⟨inner, rfl, hpost⟩
    exact ⟨_, rfl, hpost⟩
  | stalled => exact hscript

end Script

end BusProbe
