import BusProbe.Bus.Basic
import BusProbe.Bus.Pins
import BusProbe.Script.Handler
import BusProbe.Word.BitOrder

/-!
# The clocked buses

A clock line and data driven by hand. The bus with two wires shares one open-drain data line for
both directions and frames a transaction by a start and a stop condition on the two lines; the bus
with three wires has a data line for each direction and frames a transaction by selecting the
device. These are the buses whose lines can also be worked one by one.

* `handler` — the bus on its pins.
-/

set_option autoImplicit false
set_option relaxedAutoImplicit false

namespace BusProbe.Clocked

/-- How a transaction is framed. -/
inductive Framing
  /-- By a data line that changes while the clock is high. -/
  | conditions
  /-- By selecting the device, with a low level. -/
  | selection
  deriving DecidableEq, Repr

/-- The wires for data. -/
inductive DataWires
  /-- One open-drain wire for both directions. -/
  | shared
  /-- One wire for each direction. -/
  | split
  deriving DecidableEq, Repr

/-- The lines of the bus. Data comes in on a line of its own only where the wires are split. -/
inductive WireLine
  | clock
  | data
  | incoming
  | select
  deriving DecidableEq, Repr

/-- The settings of the bus. -/
structure Config where
  framing : Framing
  wires : DataWires
  order : BitOrder
  /-- How long the clock stays at each level, in microseconds. -/
  halfPeriod : Nat
  /-- Whether there is a pin to select the device with. If not, selecting always works. -/
  hasSelect : Bool
  deriving DecidableEq, Repr

namespace Config

/-- The settings of the bus with two wires, if no others are chosen. -/
def twoWire : Config := ⟨.conditions, .shared, .highFirst, 5, false⟩

/-- The settings of the bus with three wires, if no others are chosen. -/
def threeWire : Config := { twoWire with framing := .selection, wires := .split, hasSelect := true }

/-- The line on which data comes in. -/
def incomingLine (config : Config) : WireLine :=
  match config.wires with
  | .shared => .data
  | .split => .incoming

end Config

/-- Steps on the lines of the bus. -/
abbrev Steps (α : Type) := PinSteps WireLine BusFailure α

/-- Drives a line. -/
def drive (line : WireLine) (level : Bool) : Steps Unit := PinSteps.drive (fun _ ↦ .pin) line level

/-- Samples the line on which data comes in. -/
def sample (config : Config) : Steps Bool := PinSteps.sample (fun _ ↦ .pin) config.incomingLine

/-- Waits for half a period of the clock. -/
def wait (config : Config) : Steps Unit := PinSteps.wait config.halfPeriod

/-- One pulse of the clock. -/
def tick (config : Config) : Steps Unit := do
  drive .clock true
  wait config
  drive .clock false
  wait config

/-- Drives the line that selects the device, if there is one. -/
def driveSelect (config : Config) (level : Bool) : Steps Unit :=
  if config.hasSelect then drive .select level else return ()

/-- Begins a transaction. -/
def start (config : Config) : Steps Unit :=
  match config.framing with
  | .selection => driveSelect config false
  | .conditions => do
    drive .data true
    drive .clock true
    wait config
    drive .data false
    wait config
    drive .clock false
    wait config

/-- Ends a transaction. -/
def stop (config : Config) : Steps Unit :=
  match config.framing with
  | .selection => driveSelect config true
  | .conditions => do
    drive .data false
    wait config
    drive .clock true
    wait config
    drive .data true
    wait config

/-- Sends one bit. -/
def writeBit (config : Config) (bit : Bool) : Steps Unit := do
  drive .data bit
  wait config
  tick config

/-- Sends the lowest bits of a value. -/
def write (config : Config) (value : Word) (width : Nat) : Steps Unit :=
  PinSteps.eachBit (writeBit config) (Word.bits (config.order.arrange value width) width)

/-- Receives one bit. -/
def readBit (config : Config) : Steps Bool := do
  wait config
  drive .clock true
  wait config
  let bit ← sample config
  drive .clock false
  return bit

/-- Receives a value while the data line is released. -/
def read (config : Config) (width : Nat) : Steps Word := do
  drive .data true
  let bits ← PinSteps.gather (readBit config) width
  return config.order.arrange (Word.ofBits bits) width

/-- Works a line by hand. Only a look at the data line gives a level. -/
def act (config : Config) (action : LineAction) : Steps (Option Bool) :=
  match action with
  | .clockHigh => do
    drive .clock true
    return none
  | .clockLow => do
    drive .clock false
    return none
  | .dataHigh => do
    drive .data true
    return none
  | .dataLow => do
    drive .data false
    return none
  | .tick => do
    tick config
    return none
  | .sample => do
    drive .data true
    return some (← sample config)

/-- The bus on its pins. It remembers whether a transaction is open. -/
def handler (config : Config) : Handler Bus (Pins WireLine) Bool
  | .start, _ => do return (← (start config).run, true)
  | .startAlt, _ => do return (← (start config).run, true)
  | .stop, _ => do return (← (stop config).run, false)
  | .stopAlt, _ => do return (← (stop config).run, false)
  | .write value width, isOpen => do return (← (write config value width).run, isOpen)
  | .read width, isOpen => do
    match ← (read config width).run with
    | .ok value => return (.ready value, isOpen)
    | .error failure => return (.failed failure, isOpen)
  | .line action, isOpen => do return (← (act config action).run, isOpen)
  | .released, isOpen => .done (!isOpen, isOpen)

end BusProbe.Clocked
