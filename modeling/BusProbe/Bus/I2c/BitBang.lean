import BusProbe.Bus.I2c.Controller
import BusProbe.Bus.Pins
import BusProbe.Script.Handler

/-!
# An I2C controller on two pins

The clock and data lines of an I2C bus driven by hand as open-drain pins. A data line that falls
while the clock is high is a start condition and one that rises is a stop condition; in between,
the data line changes only while the clock is low. The controller does not wait for a device that
holds the clock low.

* `handler` — the controller on its pins.
-/

set_option autoImplicit false
set_option relaxedAutoImplicit false

namespace BusProbe.I2c

/-- The clock rates of the bus. -/
inductive Speed
  | kHz5
  | kHz50
  | kHz100
  | kHz400
  deriving DecidableEq, Repr

/-- How long the clock stays at each level, in microseconds. -/
def Speed.halfPeriod : Speed → Nat
  | .kHz5 => 100
  | .kHz50 => 10
  | .kHz100 => 5
  | .kHz400 => 1

/-- The clock rate if no other is chosen. -/
def Speed.default : Speed := .kHz100

/-- The two lines of the bus. -/
inductive BusLine
  | clock
  | data
  deriving DecidableEq, Repr

namespace BitBang

/-- Steps on the two lines. -/
abbrev Steps (α : Type) := PinSteps BusLine Fault α

/-- Drives the clock line. -/
def clock (level : Bool) : Steps Unit := PinSteps.drive id .clock level

/-- Drives the data line. -/
def data (level : Bool) : Steps Unit := PinSteps.drive id .data level

/-- Waits for half a period of the clock. -/
def wait (speed : Speed) : Steps Unit := PinSteps.wait speed.halfPeriod

/-- Puts a bit on the data line and gives one pulse of the clock. The result is what the data line
showed during the pulse. -/
def clockBit (speed : Speed) (bit : Bool) : Steps Bool := do
  data bit
  wait speed
  clock true
  wait speed
  let level ← PinSteps.sample id .data
  clock false
  return level

/-- A start condition, with the clock low after it. -/
def start (speed : Speed) : Steps Unit := do
  data true
  clock true
  wait speed
  data false
  wait speed
  clock false
  wait speed

/-- A stop condition, with both lines high after it. -/
def stop (speed : Speed) : Steps Unit := do
  data false
  wait speed
  clock true
  wait speed
  data true
  wait speed

/-- Sends a byte and gives back whether the receiver pulled the data line low after it. -/
def writeByte (speed : Speed) (byte : UInt8) : Steps Bool := do
  PinSteps.eachBit (fun bit ↦ do let _ ← clockBit speed bit) (Word.bits byte.toUInt32 8)
  let released ← clockBit speed true
  return !released

/-- Receives a byte while the data line is released. -/
def readByte (speed : Speed) : Steps UInt8 := do
  let bits ← PinSteps.gather (clockBit speed true) 8
  return (Word.ofBits bits).toUInt8

/-- Pulls the data line low for one pulse to accept a byte, or leaves it high to refuse more. The
line is released after it. -/
def acknowledge (speed : Speed) (accept : Bool) : Steps Unit := do
  let _ ← clockBit speed !accept
  data true

/-- The controller on its pins. It remembers nothing between requests. -/
def handler (speed : Speed) : Handler Controller (Pins BusLine) Unit
  | .start, _ => do return (← (start speed).run, ())
  | .stop, _ => do return (← (stop speed).run, ())
  | .writeByte byte, _ => do return (← (writeByte speed byte).run, ())
  | .readByte, _ => do
    match ← (readByte speed).run with
    | .ok byte => return (.ready byte, ())
    | .error fault => return (.failed fault, ())
  | .acknowledge accept, _ => do return (← (acknowledge speed accept).run, ())

end BitBang

end BusProbe.I2c
