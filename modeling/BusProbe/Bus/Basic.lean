import BusProbe.Bus.Failure
import BusProbe.Bus.Levels
import BusProbe.Script.Basic
import BusProbe.Word.Bits

/-!
# The interface of a bus

What every kind of bus can be asked to do. A transaction lies between a start and a stop, and a
start inside a transaction is a repeated start. Values are at most a word wide; of a value to write
the lowest `width` bits count.
-/

set_option autoImplicit false
set_option relaxedAutoImplicit false

namespace BusProbe

/-- A request to a bus. -/
inductive BusRequest
  | start
  | stop
  /-- The other start condition of a bus that has two; elsewhere the usual one. -/
  | startAlt
  /-- The other stop condition of a bus that has two; elsewhere the usual one. -/
  | stopAlt
  | write (value : Word) (width : Nat)
  /-- One unit of data, which may not be there yet. -/
  | read (width : Nat)
  /-- Drives or samples a raw line. A bus without raw lines does nothing and gives no level. -/
  | line (action : LineAction)
  /-- Asks whether no transaction is open. -/
  | released
  deriving DecidableEq, Repr

/-- The reply to each request to a bus. -/
abbrev BusRequest.Reply : BusRequest → Type
  | .start | .stop | .startAlt | .stopAlt | .write .. => Except BusFailure Unit
  | .read _ => Poll BusFailure Word
  | .line _ => Except BusFailure (Option Bool)
  | .released => Bool

/-- The interface of a bus. -/
abbrev Bus : Interface := ⟨BusRequest, BusRequest.Reply⟩

end BusProbe
