import BusProbe.Proofs.Script.Ensures

/-!
# Calls of a handler

A handler that is used by something from outside is given one request after another. Each is met by
a run of its own, from the states in which the one before left the handler and the device. A call
keeps what belongs to one request together, so that the order of requests and of the events below
them can be spoken of at once.
-/

set_option autoImplicit false
set_option relaxedAutoImplicit false

namespace BusProbe

/-- A request that was met: the reply to it, and everything that happened below meanwhile. -/
structure Call (I J : Interface) where
  request : I.Request
  reply : I.Reply request
  events : List (Event J)

variable {I J : Interface} {σ δ : Type}

/-- Everything that happened below during some calls, in order. -/
def Call.allEvents (calls : List (Call I J)) : List (Event J) := calls.flatMap Call.events

theorem Call.allEvents_cons (call : Call I J) (calls : List (Call I J)) :
    Call.allEvents (call :: calls) = call.events ++ Call.allEvents calls :=
  List.flatMap_cons

namespace Handler

/-- Makes requests of a handler on a device, one after another, and gives the call of each. -/
def calls (handler : Handler I J σ) (device : Device J δ) :
    List I.Request → σ → δ → Option (List (Call I J))
  | [], _, _ => some []
  | request :: rest, state, hardware => do
    let outcome ← (handler request state).run device hardware
    let later ← handler.calls device rest outcome.value.2 outcome.state
    return ⟨request, outcome.value.1, outcome.events⟩ :: later

variable {handler : Handler I J σ} {device : Device J δ} {request : I.Request}
  {rest : List I.Request} {state : σ} {hardware : δ}

/-- The calls of a list of requests are that of the first and then those of the rest. -/
theorem calls_cons_of_run {outcome : Outcome J δ (I.Reply request × σ)} {later : List (Call I J)}
    (hrun : (handler request state).run device hardware = some outcome)
    (hlater : handler.calls device rest outcome.value.2 outcome.state = some later) :
    handler.calls device (request :: rest) state hardware =
      some (⟨request, outcome.value.1, outcome.events⟩ :: later) := by
  simp [calls, hrun, hlater]

/-- There are calls of which something holds, if it holds of the first call, as the handler ensures
it, together with calls of the rest. -/
theorem exists_calls_cons {allowed : J.Replies} (hdevice : device.Answers allowed)
    {post : I.Reply request × σ → List (Event J) → Prop} {holds : List (Call I J) → Prop}
    (hfirst : (handler request state).Ensures allowed post)
    (hrest : ∀ answer events, post answer events → ∀ hardware, ∃ later,
      handler.calls device rest answer.2 hardware = some later ∧
        holds (⟨request, answer.1, events⟩ :: later)) :
    ∃ calls, handler.calls device (request :: rest) state hardware = some calls ∧ holds calls := by
  obtain ⟨outcome, hrun, hpost⟩ := hfirst.run hdevice hardware
  obtain ⟨later, hlater, hholds⟩ := hrest _ _ hpost outcome.state
  exact ⟨_, calls_cons_of_run hrun hlater, hholds⟩

end Handler

end BusProbe
