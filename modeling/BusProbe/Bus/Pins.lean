import BusProbe.Bus.Failure
import BusProbe.Script.Basic
import BusProbe.Word.Bits

/-!
# Pins

A bus that is worked by hand drives and samples pins one at a time and waits in between. The lines
of a bus are the members of a type `L`, so that each bus names its own. Driving an open-drain line
high releases it.

A sequence of pin requests ends at the first of them that fails.
-/

set_option autoImplicit false
set_option relaxedAutoImplicit false

namespace BusProbe

/-- A request to the pins of the lines `L`. -/
inductive PinRequest (L : Type)
  | drive (line : L) (level : Bool)
  | sample (line : L)
  | wait (micros : Nat)
  deriving DecidableEq, Repr

/-- The reply to each request to a pin. -/
abbrev PinRequest.Reply {L : Type} : PinRequest L → Type
  | .drive .. => Except Fault Unit
  | .sample _ => Except Fault Bool
  | .wait _ => Unit

/-- The interface of the pins of the lines `L`. -/
abbrev Pins (L : Type) : Interface := ⟨PinRequest L, PinRequest.Reply⟩

/-- Steps on the pins of the lines `L` up to a first failure. -/
abbrev PinSteps (L ε α : Type) := ExceptT ε (Script (Pins L)) α

namespace PinSteps

variable {L ε α : Type}

/-- Drives a line; a fault of the pin counts as the given failure. -/
def drive (failure : Fault → ε) (line : L) (level : Bool) : PinSteps L ε Unit :=
  ExceptT.mk (Script.ask (.drive line level) fun reply ↦ .done (reply.mapError failure))

/-- Samples a line; a fault of the pin counts as the given failure. -/
def sample (failure : Fault → ε) (line : L) : PinSteps L ε Bool :=
  ExceptT.mk (Script.ask (.sample line) fun reply ↦ .done (reply.mapError failure))

/-- Waits some number of microseconds. -/
def wait (micros : Nat) : PinSteps L ε Unit :=
  ExceptT.mk (Script.ask (.wait micros) fun _ ↦ .done (.ok ()))

/-- Takes steps for each bit of a list, in order. -/
def eachBit (steps : Bool → PinSteps L ε Unit) : List Bool → PinSteps L ε Unit
  | [] => return ()
  | bit :: rest => do
    steps bit
    eachBit steps rest

/-- Takes the same steps some number of times and lists the bits they give, the first one first. -/
def gather (steps : PinSteps L ε Bool) : Nat → PinSteps L ε (List Bool)
  | 0 => return []
  | count + 1 => do
    let bit ← steps
    return bit :: (← gather steps count)

end PinSteps

end BusProbe
