import BusProbe.Script.Basic

/-!
# Running a script

A device is anything that answers the requests of an interface and may change its state when it
does. Running a script against a device gives the result of the script, the state in which the
device is left, and everything that happened, in order. A script that stalls gives nothing.

* `run_done`, `run_ask`, `run_note`, `run_stalled`, `run_bind` — how a run goes, step by step.
-/

set_option autoImplicit false
set_option relaxedAutoImplicit false

namespace BusProbe

/-- Something that answers requests from a state of type `σ`. -/
abbrev Device (I : Interface) (σ : Type) := (request : I.Request) → σ → I.Reply request × σ

/-- A thing that happens while a script runs. -/
inductive Event (I : Interface)
  /-- A request was made and answered. -/
  | exchange (request : I.Request) (reply : I.Reply request)
  | note (notice : Notice)

/-- How a run came out. -/
structure Outcome (I : Interface) (σ α : Type) where
  value : α
  state : σ
  events : List (Event I)

/-- An outcome with earlier events in front of its own. -/
def Outcome.after {I : Interface} {σ α : Type} (outcome : Outcome I σ α)
    (earlier : List (Event I)) : Outcome I σ α :=
  { outcome with events := earlier ++ outcome.events }

namespace Script

variable {I : Interface} {σ α β : Type}

/-- Runs a script when the events so far are given in reverse. -/
def runFrom (device : Device I σ) (script : Script I α) (state : σ) (past : List (Event I)) :
    Option (Outcome I σ α) :=
  match script with
  | .done value => some ⟨value, state, past.reverse⟩
  | .ask request next =>
    let answer := device request state
    (next answer.1).runFrom device answer.2 (.exchange request answer.1 :: past)
  | .note notice next => next.runFrom device state (.note notice :: past)
  | .stalled => none

/-- Runs a script against a device in a state. -/
def run (device : Device I σ) (script : Script I α) (state : σ) : Option (Outcome I σ α) :=
  script.runFrom device state []

theorem runFrom_eq (device : Device I σ) (script : Script I α) (state : σ) (past : List (Event I)) :
    script.runFrom device state past =
      (script.run device state).map (·.after past.reverse) := by
  unfold run
  induction script generalizing state past with
  | done value => simp [runFrom, Outcome.after]
  | ask request next ih =>
    simp only [runFrom]
    rw [ih, ih _ _ [_], Option.map_map]
    congr 1
    funext outcome
    simp [Outcome.after]
  | note notice next ih =>
    simp only [runFrom]
    rw [ih, ih _ [_], Option.map_map]
    congr 1
    funext outcome
    simp [Outcome.after]
  | stalled => rfl

@[simp]
theorem run_done (device : Device I σ) (value : α) (state : σ) :
    (Script.done value).run device state = some ⟨value, state, []⟩ := rfl

@[simp]
theorem run_ask (device : Device I σ) (request : I.Request) (next : I.Reply request → Script I α)
    (state : σ) :
    (Script.ask request next).run device state =
      ((next (device request state).1).run device (device request state).2).map
        (·.after [.exchange request (device request state).1]) := by
  rw [run, runFrom, runFrom_eq]
  rfl

@[simp]
theorem run_note (device : Device I σ) (notice : Notice) (next : Script I α) (state : σ) :
    (Script.note notice next).run device state =
      (next.run device state).map (·.after [.note notice]) := by
  rw [run, runFrom, runFrom_eq]
  rfl

@[simp]
theorem run_stalled (device : Device I σ) (state : σ) :
    (Script.stalled : Script I α).run device state = none := rfl

/-- A run of two scripts, one after the other, is a run of the first and then of the second from the
state in which the first left the device. -/
theorem run_bind (device : Device I σ) (script : Script I α) (next : α → Script I β) (state : σ) :
    (script >>= next).run device state =
      (script.run device state).bind fun first ↦
        ((next first.value).run device first.state).map (·.after first.events) := by
  induction script generalizing state with
  | done value => simp [Outcome.after]
  | ask request rest ih =>
    simp only [ask_bind, run_ask, ih, Option.map_bind, Option.bind_map]
    congr 1
    funext first
    simp [Function.comp_def, Outcome.after]
  | note notice rest ih =>
    simp only [note_bind, run_note, ih, Option.map_bind, Option.bind_map]
    congr 1
    funext first
    simp [Function.comp_def, Outcome.after]
  | stalled => rfl

end Script

end BusProbe
