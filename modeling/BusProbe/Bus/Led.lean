import BusProbe.Bus.Basic
import BusProbe.Script.Handler

/-!
# The LED bus

A chain of addressable LEDs takes its data from one line, on which a long pulse is a one and a
short pulse a zero. The pulses are shifted out by a peripheral that sends three bits of its own for
each bit of data: `110` for a one and `100` for a zero. The chain takes over what it received when
the line stays low for long enough, which is what a stop sees to. Nothing can be read from it.

* `encode` — the bytes that carry a value; `length_encode` — how many there are.
* `handler` — the bus over the peripheral.
-/

set_option autoImplicit false
set_option relaxedAutoImplicit false

namespace BusProbe.Led

/-- The clock rate, in hertz, at which three bits take as long as one pulse of an LED. -/
def shiftFrequency : Nat := 2400000

/-- The settings of the bus. -/
structure Config where
  /-- How long the line stays low for the chain to take over the data, in microseconds. -/
  resetMicros : Nat
  deriving DecidableEq, Repr

/-- The settings if no others are chosen. -/
def Config.default : Config := ⟨280⟩

/-- The three bits that are shifted out for a bit of data. -/
def pulse (bit : Bool) : List Bool := [true, bit, false]

/-- The bits that are shifted out for the lowest bits of a value. -/
def pulses (value : Word) (width : Nat) : List Bool := (value.bits width).flatMap pulse

/-- One byte of a list of bits, the highest first. Bits beyond the end of the list are low. -/
def byteAt (bits : List Bool) (i : Nat) : UInt8 :=
  UInt8.ofNat ((List.range 8).foldl (fun n j ↦ 2 * n + (bits.getD (8 * i + j) false).toNat) 0)

/-- How many bytes hold the pulses of a whole word. -/
def bufferSize : Nat := 12

/-- The pulses of a value in a buffer that would hold those of a whole word. -/
def buffer (value : Word) (width : Nat) : List UInt8 :=
  (List.range bufferSize).map (byteAt (pulses value width))

/-- How many bytes of the buffer the pulses of a width fill. -/
def bytesUsed (width : Nat) : Nat := (3 * width + 7) / 8

/-- The bytes that carry the lowest bits of a value. -/
def encode (value : Word) (width : Nat) : List UInt8 := (buffer value width).take (bytesUsed width)

theorem length_encode (value : Word) (width : Nat) (h : width ≤ Word.maxWidth) :
    (encode value width).length = (3 * width + 7) / 8 := by
  simp only [encode, buffer, bytesUsed, bufferSize, Word.maxWidth, List.length_take,
    List.length_map, List.length_range] at h ⊢
  omega

/-- A request to the hardware of the bus. -/
inductive ShifterRequest
  | send (bytes : List UInt8)
  | wait (micros : Nat)
  deriving DecidableEq, Repr

/-- The reply to each request to the hardware. -/
abbrev ShifterRequest.Reply : ShifterRequest → Type
  | .send _ => Except Fault Unit
  | .wait _ => Unit

/-- The interface of the hardware. -/
abbrev Shifter : Interface := ⟨ShifterRequest, ShifterRequest.Reply⟩

/-- Waits for the chain to take over what it received. -/
def latch (config : Config) : Script Shifter (Except BusFailure Unit × Bool) :=
  .ask (.wait config.resetMicros) fun _ ↦ .done (.ok (), false)

/-- The bus over its hardware. It remembers whether a transaction is open. -/
def handler (config : Config) : Handler Bus Shifter Bool
  | .start, _ => .done (.ok (), true)
  | .startAlt, _ => .done (.ok (), true)
  | .stop, _ => latch config
  | .stopAlt, _ => latch config
  | .write value width, isOpen =>
    .ask (.send (encode value width)) fun reply ↦ .done (reply.mapError .shifter, isOpen)
  | .read _, isOpen => .done (.failed .writeOnly, isOpen)
  | .line _, isOpen => .done (.ok none, isOpen)
  | .released, isOpen => .done (!isOpen, isOpen)

end BusProbe.Led
