import BusProbe.Script.Basic

/-!
# Handlers

A handler meets the requests of one interface by scripts over another, and may keep a state of its
own between requests. It turns every script over the first interface into one over the second; this
is how a bus is built from the hardware below it.

* `handle_bind` — a script is handled from its beginning to its end.
-/

set_option autoImplicit false
set_option relaxedAutoImplicit false

namespace BusProbe

/-- Meets the requests of `I` by scripts over `J`, with a state of type `σ` in between. -/
abbrev Handler (I J : Interface) (σ : Type) :=
  (request : I.Request) → σ → Script J (I.Reply request × σ)

namespace Script

variable {I J : Interface} {σ α β : Type}

/-- Meets every request of a script by a handler. The result comes with the last state. -/
def handle (handler : Handler I J σ) (script : Script I α) (state : σ) : Script J (α × σ) :=
  match script with
  | .done value => .done (value, state)
  | .ask request next =>
    handler request state >>= fun answer ↦ (next answer.1).handle handler answer.2
  | .note notice next => .note notice (next.handle handler state)
  | .stalled => .stalled

@[simp]
theorem handle_done (handler : Handler I J σ) (value : α) (state : σ) :
    (Script.done value).handle handler state = .done (value, state) := rfl

@[simp]
theorem handle_ask (handler : Handler I J σ) (request : I.Request)
    (next : I.Reply request → Script I α) (state : σ) :
    (Script.ask request next).handle handler state =
      handler request state >>= fun answer ↦ (next answer.1).handle handler answer.2 := rfl

@[simp]
theorem handle_note (handler : Handler I J σ) (notice : Notice) (next : Script I α) (state : σ) :
    (Script.note notice next).handle handler state =
      .note notice (next.handle handler state) := rfl

@[simp]
theorem handle_stalled (handler : Handler I J σ) (state : σ) :
    (Script.stalled : Script I α).handle handler state = .stalled := rfl

theorem handle_bind (handler : Handler I J σ) (script : Script I α) (next : α → Script I β)
    (state : σ) :
    (script >>= next).handle handler state =
      script.handle handler state >>= fun first ↦
        (next first.1).handle handler first.2 := by
  induction script generalizing state with
  | done value => rfl
  | ask request rest ih => simp [ih, bind_assoc]
  | note notice rest ih => simp [ih]
  | stalled => rfl

end Script

namespace Handler

variable {I J K L : Interface} {σ τ : Type}

/-- Two handlers for things that stand beside each other. Neither sees the other's state. -/
def beside (left : Handler I K σ) (right : Handler J L τ) :
    Handler (I.beside J) (K.beside L) (σ × τ)
  | .inl request, state => do
    let answer ← (left request state.1).onLeft
    return (answer.1, answer.2, state.2)
  | .inr request, state => do
    let answer ← (right request state.2).onRight
    return (answer.1, state.1, answer.2)

/-- Meets the requests of `I` by way of `J`. -/
def comp (upper : Handler I J σ) (lower : Handler J K τ) : Handler I K (σ × τ) :=
  fun request state ↦ do
    let ((reply, upperState), lowerState) ← (upper request state.1).handle lower state.2
    return (reply, upperState, lowerState)

/-- Passes every request on as it is. -/
def passOn : Handler I I Unit := fun request _ ↦ .ask request fun reply ↦ .done (reply, ())

end Handler

end BusProbe
