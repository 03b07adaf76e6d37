import BusProbe.Bus.Levels
import BusProbe.Script.Basic
import BusProbe.Word.Bits

/-!
# The interface of a board

The services that a board offers next to its buses: delays, an auxiliary pin, the measurement of a
voltage, and one timer that runs out after some number of milliseconds.
-/

set_option autoImplicit false
set_option relaxedAutoImplicit false

namespace BusProbe

/-- A request to a board. -/
inductive BoardRequest
  | delayMicros (micros : Nat)
  | delayMillis (millis : Nat)
  | setAux (level : AuxLevel)
  /-- Measures a voltage in millivolts, if the board can. -/
  | measure
  | startTimer (millis : Nat)
  /-- Asks whether the time of the timer is over. -/
  | timedOut
  deriving DecidableEq, Repr

/-- The reply to each request to a board. -/
abbrev BoardRequest.Reply : BoardRequest → Type
  | .delayMicros _ | .delayMillis _ | .setAux _ | .startTimer _ => Unit
  | .measure => Option Word
  | .timedOut => Bool

/-- The interface of a board. -/
abbrev Board : Interface := ⟨BoardRequest, BoardRequest.Reply⟩

end BusProbe
