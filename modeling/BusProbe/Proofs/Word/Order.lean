import BusProbe.Proofs.Word.Bits
import BusProbe.Word.BitOrder

/-!
# Bits in the order of the wire

A value is turned round so that its highest-first bits are those on the wire. Turning a value round
and taking its bits is the same as taking its bits and putting them in the order of the wire
(`bits_arrange`), and the other way about for a value that is received (`arrange_ofBits`). So what
is sent in an order and received in the same order is what was sent, cut down to its width
(`arrange_ofBits_onWire`).
-/

set_option autoImplicit false
set_option relaxedAutoImplicit false

namespace BusProbe

namespace BitOrder

/-- Bits, given the highest first, in the order in which they are on the wire, or back. -/
def onWire : BitOrder → List Bool → List Bool
  | .highFirst, bits => bits
  | .lowFirst, bits => bits.reverse

/-- The places of the bits of a value, in the order in which they are on the wire: from the highest
place of the width down to place zero, or from place zero up. -/
def places : BitOrder → Nat → List Nat
  | .highFirst, width => (List.range width).reverse
  | .lowFirst, width => List.range width

@[simp]
theorem onWire_onWire (order : BitOrder) (bits : List Bool) :
    order.onWire (order.onWire bits) = bits := by
  cases order with
  | highFirst => rfl
  | lowFirst => exact List.reverse_reverse bits

@[simp]
theorem length_onWire (order : BitOrder) (bits : List Bool) :
    (order.onWire bits).length = bits.length := by
  cases order with
  | highFirst => rfl
  | lowFirst => exact List.length_reverse

end BitOrder

namespace Word

theorem clampWidth_of_bounds {width : Nat} (hpos : 1 ≤ width) (hwidth : width ≤ maxWidth) :
    clampWidth width = width := by
  rw [clampWidth, Nat.min_eq_left hwidth, Nat.max_eq_right hpos]

/-- The lowest bits of a word denote the word cut down to them. -/
theorem ofBits_bits (value : Word) {width : Nat} (hwidth : width ≤ maxWidth) :
    ofBits (value.bits width) = value.low width := by
  rw [← UInt32.toNat_inj, toNat_ofBits (by rwa [length_bits]), denoted_bits, toNat_low]
  rfl

theorem onWire_bits (order : BitOrder) (value : Word) (width : Nat) :
    order.onWire (value.bits width) = (order.places width).map value.toNat.testBit := by
  cases order with
  | highFirst => rfl
  | lowFirst =>
    rw [BitOrder.onWire, bits, List.map_reverse, List.reverse_reverse]
    rfl

theorem length_onWire_bits (order : BitOrder) (value : Word) (width : Nat) :
    (order.onWire (value.bits width)).length = width := by
  rw [BitOrder.length_onWire, length_bits]

section Arrange

variable (order : BitOrder) (value : Word) {width : Nat} (hpos : 1 ≤ width)
  (hwidth : width ≤ maxWidth)
include hpos hwidth

/-- With the lowest bit first, the word turned round is that of the bits in this order. -/
theorem arrange_lowFirst :
    BitOrder.lowFirst.arrange value width =
      ofBits (BitOrder.lowFirst.onWire (value.bits width)) := by
  rw [BitOrder.arrange, clampWidth_of_bounds hpos hwidth]
  rfl

/-- A word turned round has its bits in the order of the wire. -/
theorem bits_arrange :
    (order.arrange value width).bits width = order.onWire (value.bits width) := by
  cases order with
  | highFirst => rfl
  | lowFirst =>
    have hlength := length_onWire_bits .lowFirst value width
    have hbits := bits_ofBits (hlength.symm ▸ hwidth)
    rwa [hlength, ← arrange_lowFirst value hpos hwidth] at hbits

/-- With the lowest bit first, the bits of a word change places with those at the other end. -/
theorem testBit_arrange_lowFirst {i : Nat} (hi : i < width) :
    (BitOrder.lowFirst.arrange value width).toNat.testBit i =
      value.toNat.testBit (width - 1 - i) := by
  have hbits := bits_arrange .lowFirst value hpos hwidth
  rw [onWire_bits, bits] at hbits
  have hplace : width - 1 - (width - 1 - i) = i := by omega
  have hlt : width - 1 - i < width := by omega
  have hplaced := congrArg (·[width - 1 - i]?) hbits
  simpa [BitOrder.places, hlt, hplace] using hplaced

/-- With the lowest bit first, only the bits of the width are kept. -/
theorem toNat_arrange_lowFirst_lt : (BitOrder.lowFirst.arrange value width).toNat < 2 ^ width := by
  have hlength := length_onWire_bits .lowFirst value width
  have hlt := toNat_ofBits_lt (hlength.symm ▸ hwidth)
  rwa [hlength, ← arrange_lowFirst value hpos hwidth] at hlt

/-- A word within its width stays so when it is turned round. -/
theorem toNat_arrange_lt (hvalue : value.toNat < 2 ^ width) :
    (order.arrange value width).toNat < 2 ^ width := by
  cases order with
  | highFirst => exact hvalue
  | lowFirst => exact toNat_arrange_lowFirst_lt value hpos hwidth

end Arrange

/-- The word of some bits, turned round, is that of the bits in the other order. -/
theorem arrange_ofBits (order : BitOrder) {bits : List Bool} (hpos : 1 ≤ bits.length)
    (hlength : bits.length ≤ maxWidth) :
    order.arrange (ofBits bits) bits.length = ofBits (order.onWire bits) := by
  cases order with
  | highFirst => rfl
  | lowFirst => rw [arrange_lowFirst _ hpos hlength, bits_ofBits hlength]

/-- What is received in the order in which it was sent is what was sent. -/
theorem arrange_ofBits_onWire (order : BitOrder) (value : Word) {width : Nat} (hpos : 1 ≤ width)
    (hwidth : width ≤ maxWidth) :
    order.arrange (ofBits (order.onWire (value.bits width))) width = value.low width := by
  have hlength := length_onWire_bits order value width
  have harrange := arrange_ofBits order (hlength.symm ▸ hpos) (hlength.symm ▸ hwidth)
  rwa [hlength, BitOrder.onWire_onWire, ofBits_bits value hwidth] at harrange

end Word

end BusProbe
