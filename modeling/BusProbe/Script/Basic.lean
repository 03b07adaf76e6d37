import BusProbe.Notice

/-!
# Scripts

A script is a program that asks its surroundings for things and goes on with the replies. An
interface lists what may be asked and what kind of reply each request has. A script says nothing of
how requests are met, so a statement about a script holds for all hardware at once.

A script that polls for something which may never come is cut off after a number of attempts; it is
then stalled and has no result.

* `bind_bind` and the `LawfulMonad` instance — scripts can be put one after the other.
-/

set_option autoImplicit false
set_option relaxedAutoImplicit false

namespace BusProbe

/-- What may be asked, and the type of the reply to each request. -/
structure Interface where
  Request : Type
  Reply : Request → Type

/-- The interface of two things that stand beside each other. -/
abbrev Interface.beside (I J : Interface) : Interface where
  Request := I.Request ⊕ J.Request
  Reply
    | .inl request => I.Reply request
    | .inr request => J.Reply request

/-- A program over an interface, with a result of type `α`. -/
inductive Script (I : Interface) (α : Type) : Type
  | done (value : α)
  /-- Makes a request and goes on with the reply. -/
  | ask (request : I.Request) (next : I.Reply request → Script I α)
  /-- Records something and goes on. -/
  | note (notice : Notice) (next : Script I α)
  /-- Gave up waiting for something that did not come. -/
  | stalled

namespace Script

variable {I : Interface} {α β γ : Type}

/-- Goes on with the result of a script. -/
def bind (script : Script I α) (next : α → Script I β) : Script I β :=
  match script with
  | .done value => next value
  | .ask request rest => .ask request fun reply ↦ (rest reply).bind next
  | .note notice rest => .note notice (rest.bind next)
  | .stalled => .stalled

theorem bind_done (script : Script I α) : script.bind .done = script := by
  induction script with
  | done value => rfl
  | ask request rest ih => exact congrArg (ask request) (funext ih)
  | note notice rest ih => exact congrArg (note notice) ih
  | stalled => rfl

theorem bind_bind (script : Script I α) (f : α → Script I β) (g : β → Script I γ) :
    (script.bind f).bind g = script.bind fun value ↦ (f value).bind g := by
  induction script with
  | done value => rfl
  | ask request rest ih => exact congrArg (ask request) (funext ih)
  | note notice rest ih => exact congrArg (note notice) ih
  | stalled => rfl

instance : Monad (Script I) where
  pure := .done
  bind := bind

instance : LawfulMonad (Script I) :=
  LawfulMonad.mk' (Script I) (fun script ↦ bind_done script) (fun _ _ ↦ rfl) bind_bind

@[simp]
theorem pure_eq_done (value : α) : (pure value : Script I α) = .done value := rfl

@[simp]
theorem done_bind (value : α) (next : α → Script I β) : (Script.done value >>= next) = next value :=
  rfl

@[simp]
theorem ask_bind (request : I.Request) (rest : I.Reply request → Script I α)
    (next : α → Script I β) :
    (Script.ask request rest >>= next) = .ask request fun reply ↦ rest reply >>= next := rfl

@[simp]
theorem note_bind (notice : Notice) (rest : Script I α) (next : α → Script I β) :
    (Script.note notice rest >>= next) = .note notice (rest >>= next) := rfl

@[simp]
theorem stalled_bind (next : α → Script I β) :
    ((Script.stalled : Script I α) >>= next) = .stalled := rfl

/-- Makes one request; its reply is the result. -/
def request (r : I.Request) : Script I (I.Reply r) := .ask r .done

/-- Records one notice. -/
def record (notice : Notice) : Script I Unit := .note notice (.done ())

/-- Records some notices in order. -/
def recordAll : List Notice → Script I Unit
  | [] => .done ()
  | notice :: rest => .note notice (recordAll rest)

/-- A script that leaves the right of two things beside each other alone. -/
def onLeft {J : Interface} : Script I α → Script (I.beside J) α
  | .done value => .done value
  | .ask request next => .ask (.inl request) fun reply ↦ (next reply).onLeft
  | .note notice next => .note notice next.onLeft
  | .stalled => .stalled

/-- A script that leaves the left of two things beside each other alone. -/
def onRight {J : Interface} : Script I α → Script (J.beside I) α
  | .done value => .done value
  | .ask request next => .ask (.inr request) fun reply ↦ (next reply).onRight
  | .note notice next => .note notice next.onRight
  | .stalled => .stalled

/-- Does the same thing some number of times. -/
def times (count : Nat) (script : Script I Unit) : Script I Unit :=
  match count with
  | 0 => .done ()
  | count + 1 => script >>= fun _ ↦ times count script

end Script

end BusProbe
