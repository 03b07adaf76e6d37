import BusProbe.Bus.Clocked
import BusProbe.Bus.Spi
import BusProbe.Proofs.Led.Buffer
import BusProbe.Proofs.Word.Registers

/-!
# What the buses compute in registers

What the buses send for a value, and what they make of what they receive, computed in registers and
buffers. For a value of a width from one bit to a word no shift and no index of any bus leaves its
range, and the results are those of the definitions of the buses: `WritesInRange` for a write,
`ReadsInRange` for a read.
-/

set_option autoImplicit false
set_option relaxedAutoImplicit false

namespace BusProbe

open Register

namespace Spi

/-- The bytes that are sent for a value, in a buffer of four. -/
def sent? (order : BitOrder) (register : BitVec 32) (width : Nat) : Option (List UInt8) := do
  fill? (← arrange? order register width) (Word.byteCount width)

/-- The value that received bytes stand for. -/
def received? (order : BitOrder) (width : Nat) (bytes : List UInt8) : Option (BitVec 32) := do
  let wire ← shiftIn? 8 UInt8.toNat bytes
  arrange? order (wire &&& (← mask? width)) width

/-- A transfer computes in range what `transfer` sends and what it makes of the answer. -/
structure TransferInRange (order : BitOrder) (value : Word) (width : Nat) : Prop where
  sent : sent? order value.toBitVec width = some ((order.arrange value width).bytes width)
  received : ∀ bytes, received? order width bytes =
    some (order.arrange ((Word.ofBytes bytes).low width) width).toBitVec

theorem transferInRange (order : BitOrder) (value : Word) {width : Nat} (hpos : 1 ≤ width)
    (hwidth : width ≤ Word.maxWidth) : TransferInRange order value width where
  sent := by
    rw [sent?, arrange?_eq order value hpos hwidth]
    exact fill?_eq _ hwidth
  received bytes := by
    rw [received?, shiftIn?_bytes, mask?_eq]
    simp only [Option.bind_eq_bind, Option.bind_some]
    rw [and_mask _ hwidth, arrange?_eq order _ hpos hwidth]

end Spi

namespace Clocked

/-- The bits that are driven for a value. -/
def sent? (order : BitOrder) (register : BitVec 32) (width : Nat) : Option (List Bool) := do
  bits? (← arrange? order register width) (List.range width).reverse

/-- The value that sampled bits stand for. -/
def received? (order : BitOrder) (width : Nat) (bits : List Bool) : Option (BitVec 32) := do
  arrange? order (← shiftIn? 1 Bool.toNat bits) width

theorem sent?_eq (order : BitOrder) (value : Word) {width : Nat} (hpos : 1 ≤ width)
    (hwidth : width ≤ Word.maxWidth) :
    sent? order value.toBitVec width = some ((order.arrange value width).bits width) := by
  rw [sent?, arrange?_eq order value hpos hwidth]
  exact bits?_highFirst _ hwidth

theorem received?_eq (order : BitOrder) {width : Nat} (hpos : 1 ≤ width)
    (hwidth : width ≤ Word.maxWidth) (bits : List Bool) :
    received? order width bits = some (order.arrange (Word.ofBits bits) width).toBitVec := by
  rw [received?, shiftIn?_bits]
  exact arrange?_eq order _ hpos hwidth

end Clocked

/-- Every bus computes in range what it sends for a value. `I2c.write` and the serial bus send the
same bytes, and `I2c.BitBang.writeByte` sends each of them bit by bit; `OneWire.write` and
`Clocked.write` send the bits of the value itself, and the LED bus those of its pulses. -/
structure WritesInRange (value : Word) (width : Nat) : Prop where
  spi : ∀ order, Spi.TransferInRange order value width
  bytes : bytes? value.toBitVec (Word.byteCount width) = some (value.bytes width)
  byteBits : ∀ byte ∈ value.bytes width,
    bits? byte.toBitVec (List.range 8).reverse = some (Word.bits byte.toUInt32 8)
  oneWire : bits? value.toBitVec (List.range width) = some (value.bits width).reverse
  clocked : ∀ order, Clocked.sent? order value.toBitVec width =
    some ((order.arrange value width).bits width)
  led : Led.encode? value.toBitVec width = some (Led.encode value width)

/-- Every bus computes in range what it makes of what it receives: `OneWire.read` and `Clocked.read`
of the bits they sample, and the SPI bus, where a read also sends, of bytes. The other buses take a
byte as it is. -/
structure ReadsInRange (width : Nat) : Prop where
  ones : mask? width = some (Word.ones width).toBitVec
  spi : ∀ order, Spi.TransferInRange order (Word.ones width) width
  oneWire : ∀ bits, bits.length = width →
    collect? bits = some (Word.ofBits bits.reverse).toBitVec
  clocked : ∀ order bits, bits.length = width → Clocked.received? order width bits =
    some (order.arrange (Word.ofBits bits) width).toBitVec

theorem writesInRange (value : Word) {width : Nat} (hpos : 1 ≤ width)
    (hwidth : width ≤ Word.maxWidth) : WritesInRange value width where
  spi order := Spi.transferInRange order value hpos hwidth
  bytes := bytes?_eq value hwidth
  byteBits byte _ := bits?_byte byte
  oneWire := bits?_lowFirst value hwidth
  clocked order := Clocked.sent?_eq order value hpos hwidth
  led := Led.encode?_eq value hwidth

theorem readsInRange {width : Nat} (hpos : 1 ≤ width) (hwidth : width ≤ Word.maxWidth) :
    ReadsInRange width where
  ones := mask?_eq width
  spi order := Spi.transferInRange order (Word.ones width) hpos hwidth
  oneWire _ hlength := collect?_eq (hlength.symm ▸ hwidth)
  clocked order bits _ := Clocked.received?_eq order hpos hwidth bits

/-- A width of more than a word is out of range on each kind of bus. -/
example : Clocked.sent? .lowFirst 0#32 33 = none ∧ Spi.sent? .highFirst 0#32 33 = none ∧
    Led.encode? 0#32 33 = none := by
  decide

end BusProbe
