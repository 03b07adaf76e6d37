/-!
# Lines and levels

The requests that name a line directly: the clock and data lines of a bus that has them, and the
auxiliary pin of a board.
-/

set_option autoImplicit false
set_option relaxedAutoImplicit false

namespace BusProbe

/-- What can be asked of the clock and data lines. -/
inductive LineAction
  | clockHigh
  | clockLow
  | dataHigh
  | dataLow
  /-- One full pulse of the clock. -/
  | tick
  /-- A look at the data line. -/
  | sample
  deriving DecidableEq, Repr

/-- The name of a line action in a message. -/
def LineAction.name : LineAction → String
  | .clockHigh => "ClockHigh"
  | .clockLow => "ClockLow"
  | .dataHigh => "DataHigh"
  | .dataLow => "DataLow"
  | .tick => "Tick"
  | .sample => "ReadData"

/-- What can be asked of the auxiliary pin. -/
inductive AuxLevel
  | high
  | low
  /-- Left alone, to be driven from outside. -/
  | input
  deriving DecidableEq, Repr

/-- The name of an auxiliary level in a message. -/
def AuxLevel.name : AuxLevel → String
  | .high => "High"
  | .low => "Low"
  | .input => "Input"

end BusProbe
