import BusProbe.Bus.Basic
import BusProbe.Bus.Pins
import BusProbe.Script.Handler

/-!
# The 1-Wire bus

One open-drain line carries everything. A start is a reset pulse, after which a device shows that
it is there by pulling the line low; there is no stop condition, so a stop only releases the line.
Each bit has a slot of its own, which begins when the line is pulled low: a short pulse is a one
and a long pulse a zero, and a slot to be read begins with a short pulse. The lowest bit goes
first.

* `handler` — the bus on its pin.
-/

set_option autoImplicit false
set_option relaxedAutoImplicit false

namespace BusProbe.OneWire

/-- How long the line is low for a reset, in microseconds. -/
def resetLow : Nat := 480

/-- How long after a reset a device is looked for. -/
def presenceWait : Nat := 70

/-- How long the line is left alone after that. -/
def resetRecovery : Nat := 410

/-- The low pulse at the beginning of a slot for a one, or of a slot that is read. -/
def slotStart : Nat := 6

/-- The low pulse of a slot for a zero. -/
def zeroLow : Nat := 60

/-- The rest of a slot for a one. -/
def oneHigh : Nat := 64

/-- The rest of a slot for a zero. -/
def zeroHigh : Nat := 10

/-- How long after the pulse the line is sampled. -/
def sampleWait : Nat := 9

/-- The rest of a slot that is read. -/
def readRecovery : Nat := 55

/-- Steps on the only line. -/
abbrev Steps (α : Type) := PinSteps Unit BusFailure α

/-- Drives the line. -/
def drive (level : Bool) : Steps Unit := PinSteps.drive (fun _ ↦ .busPin) () level

/-- Samples the line. -/
def sample : Steps Bool := PinSteps.sample (fun _ ↦ .busPin) ()

/-- A reset pulse. Fails when no device answers it. -/
def reset : Steps Unit := do
  drive false
  PinSteps.wait resetLow
  drive true
  PinSteps.wait presenceWait
  let level ← sample
  PinSteps.wait resetRecovery
  if level then throw .noPresence

/-- Sends one bit. -/
def writeBit (bit : Bool) : Steps Unit := do
  drive false
  if bit then
    PinSteps.wait slotStart
    drive true
    PinSteps.wait oneHigh
  else
    PinSteps.wait zeroLow
    drive true
    PinSteps.wait zeroHigh

/-- Receives one bit. -/
def readBit : Steps Bool := do
  drive false
  PinSteps.wait slotStart
  drive true
  PinSteps.wait sampleWait
  let bit ← sample
  PinSteps.wait readRecovery
  return bit

/-- Sends the lowest bits of a value. -/
def write (value : Word) (width : Nat) : Steps Unit :=
  PinSteps.eachBit writeBit (value.bits width).reverse

/-- Receives a value. -/
def read (width : Nat) : Steps Word := do
  let bits ← PinSteps.gather readBit width
  return Word.ofBits bits.reverse

/-- The bus on its pin. It remembers whether a transaction is open. -/
def handler : Handler Bus (Pins Unit) Bool
  | .start, _ => do return (← reset.run, true)
  | .startAlt, _ => do return (← reset.run, true)
  | .stop, _ => do return (← (drive true).run, false)
  | .stopAlt, _ => do return (← (drive true).run, false)
  | .write value width, isOpen => do return (← (write value width).run, isOpen)
  | .read width, isOpen => do
    match ← (read width).run with
    | .ok value => return (.ready value, isOpen)
    | .error failure => return (.failed failure, isOpen)
  | .line _, isOpen => .done (.ok none, isOpen)
  | .released, isOpen => .done (!isOpen, isOpen)

end BusProbe.OneWire
