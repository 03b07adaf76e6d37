import BusProbe.Proofs.Word.Registers

/-!
# Words turned round

With the lowest bit first, a value is turned round before it is sent and after it is received. Done
twice it leaves the value, cut down to its width (`arrange_arrange_lowFirst`), and two values become
the same just if they are the same in the bits of the width (`arrange_lowFirst_eq_iff`). In a
register it is a turn of all thirty-two bits and a shift down to the width
(`toBitVec_arrange_lowFirst`). So it takes the values of a width to the values of this width, each
of them back from where it went (`turned_round`).
-/

set_option autoImplicit false
set_option relaxedAutoImplicit false

namespace BusProbe.Word

theorem low_of_lt {value : Word} {width : Nat} (hvalue : value.toNat < 2 ^ width) :
    value.low width = value := by
  rw [← UInt32.toNat_inj, toNat_low]
  exact Nat.mod_eq_of_lt hvalue

/-- Values have the same bits of a width just if they are the same in this width. -/
theorem bits_eq_iff {value other : Word} {width : Nat} :
    value.bits width = other.bits width ↔ value.toNat % 2 ^ width = other.toNat % 2 ^ width := by
  rw [← denoted_bits, ← denoted_bits]
  refine ⟨congrArg denoted, denoted_inj ?_⟩
  rw [length_bits, length_bits]

section Width

variable {width : Nat} (hpos : 1 ≤ width) (hwidth : width ≤ maxWidth)
include hpos hwidth

/-- Turned round twice, a word is cut down to the width. -/
theorem arrange_arrange_lowFirst (value : Word) :
    BitOrder.lowFirst.arrange (BitOrder.lowFirst.arrange value width) width = value.low width := by
  rw [arrange_lowFirst _ hpos hwidth, bits_arrange _ _ hpos hwidth, BitOrder.onWire_onWire,
    ofBits_bits value hwidth]

/-- In either order, a word within its width comes back. -/
theorem arrange_arrange (order : BitOrder) {value : Word} (hvalue : value.toNat < 2 ^ width) :
    order.arrange (order.arrange value width) width = value := by
  cases order with
  | highFirst => rfl
  | lowFirst => rw [arrange_arrange_lowFirst hpos hwidth, low_of_lt hvalue]

/-- Words that become the same are those that are the same in the width. -/
theorem arrange_lowFirst_eq_iff (value other : Word) :
    BitOrder.lowFirst.arrange value width = BitOrder.lowFirst.arrange other width ↔
      value.toNat % 2 ^ width = other.toNat % 2 ^ width := by
  rw [← bits_eq_iff]
  constructor
  · intro hsame
    have hbits := congrArg (fun turned ↦ BitOrder.lowFirst.onWire (Word.bits turned width)) hsame
    simpa only [bits_arrange _ _ hpos hwidth, BitOrder.onWire_onWire] using hbits
  · intro hbits
    rw [arrange_lowFirst value hpos hwidth, arrange_lowFirst other hpos hwidth, hbits]

/-- In a register all the bits are turned round, and those of the width are shifted down. -/
theorem toBitVec_arrange_lowFirst (value : Word) :
    (BitOrder.lowFirst.arrange value width).toBitVec =
      value.toBitVec.reverse >>> (32 - width) := by
  have hshift : 32 - width < 32 := Nat.sub_lt (by decide) hpos
  have harrange := Register.arrange?_eq .lowFirst value hpos hwidth
  rw [Register.arrange?, clampWidth_of_bounds hpos hwidth,
    Register.shiftDown?_of_lt _ hshift] at harrange
  exact (Option.some.inj harrange).symm

end Width

/-- For every width from one bit to a word. In either order a value of the width is turned round to
a value of the width, and turned round again it is the value. With the lowest bit first each bit
changes places with the one at the other end, the bits beyond the width make no difference and all
others do, and the result is that of a turn of the whole word and a shift. -/
theorem turned_round {width : Nat} (hpos : 1 ≤ width) (hwidth : width ≤ 32) :
    (∀ (order : BitOrder) (value : Word), value.toNat < 2 ^ width →
      order.arrange (order.arrange value width) width = value ∧
      (order.arrange value width).toNat < 2 ^ width) ∧
    (∀ value : Word, ∀ i < width,
      (BitOrder.lowFirst.arrange value width).toNat.testBit i =
        value.toNat.testBit (width - 1 - i)) ∧
    (∀ value other : Word,
      BitOrder.lowFirst.arrange value width = BitOrder.lowFirst.arrange other width ↔
        value.toNat % 2 ^ width = other.toNat % 2 ^ width) ∧
    ∀ value : Word, (BitOrder.lowFirst.arrange value width).toBitVec =
      value.toBitVec.reverse >>> (32 - width) := by
  refine ⟨fun order value hvalue ↦ ?_, fun value i hi ↦ ?_, fun value other ↦ ?_, fun value ↦ ?_⟩
  · exact ⟨arrange_arrange hpos hwidth order hvalue,
      toNat_arrange_lt order value hpos hwidth hvalue⟩
  · exact testBit_arrange_lowFirst value hpos hwidth hi
  · exact arrange_lowFirst_eq_iff hpos hwidth value other
  · exact toBitVec_arrange_lowFirst hpos hwidth value

/-- Of twelve bits `0x01d` becomes `0xb80` and comes back, its lowest bit at the highest place; and
so it does from `0xfffff01d`. -/
theorem twelve_bits_turned_round :
    1 ≤ 12 ∧ 12 ≤ 32 ∧ (0x01d : Word).toNat < 2 ^ 12 ∧
      BitOrder.lowFirst.arrange 0x01d 12 = 0xb80 ∧ BitOrder.lowFirst.arrange 0xb80 12 = 0x01d ∧
      (0xb80 : Word).toNat < 2 ^ 12 ∧ 11 < 12 ∧ (0xb80 : Word).toNat.testBit 11 = true ∧
      BitOrder.lowFirst.arrange 0xfffff01d 12 = 0xb80 := by
  obtain ⟨hback, hplaces, hsame, -⟩ := turned_round (show 1 ≤ 12 by decide) (by decide)
  have hturned : BitOrder.lowFirst.arrange 0x01d 12 = 0xb80 := by decide
  obtain ⟨htwice, hlt⟩ := hback .lowFirst 0x01d (by decide)
  have hbit := hplaces 0x01d 11 (by decide)
  have hbeyond := (hsame 0xfffff01d 0x01d).mpr (by decide)
  rw [hturned] at htwice hlt hbit hbeyond
  exact ⟨by decide, by decide, by decide, hturned, htwice, hlt, by decide, hbit, hbeyond⟩

end BusProbe.Word
