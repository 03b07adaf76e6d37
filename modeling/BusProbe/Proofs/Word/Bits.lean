import BusProbe.Word.Bits
import Mathlib.Algebra.Group.Nat.Defs
import Mathlib.Data.Nat.Digits.Defs

/-!
# Bits and what they denote

A list of bits denotes a number, the highest bit first. The lowest bits of a word denote its
remainder (`denoted_bits`), and the word that bits denote has just these bits (`bits_ofBits`), as
long as there are no more of them than a word has. Read the other way round, with the lowest bit
first, a list has the bit of each place of its number at this place (`testBit_lowFirst`).
-/

set_option autoImplicit false
set_option relaxedAutoImplicit false

namespace BusProbe.Word

/-- The number that a list of bits denotes, the highest first. -/
def denoted (bits : List Bool) : Nat := bits.foldl (fun n b ↦ 2 * n + b.toNat) 0

@[simp]
theorem denoted_nil : denoted [] = 0 := rfl

theorem foldl_eq_denoted (bits : List Bool) (n : Nat) :
    bits.foldl (fun n b ↦ 2 * n + b.toNat) n = 2 ^ bits.length * n + denoted bits := by
  induction bits generalizing n with
  | nil => simp
  | cons bit rest ih =>
    rw [denoted, List.foldl_cons, List.foldl_cons, ih, ih (2 * 0 + bit.toNat), List.length_cons,
      Nat.pow_succ, Nat.mul_add, Nat.mul_zero, Nat.zero_add, Nat.mul_assoc, Nat.add_assoc]

/-- A further bit in front counts as much as the bits after it leave it to. -/
theorem denoted_cons (bit : Bool) (rest : List Bool) :
    denoted (bit :: rest) = 2 ^ rest.length * bit.toNat + denoted rest := by
  rw [denoted, List.foldl_cons, foldl_eq_denoted, Nat.mul_zero, Nat.zero_add]

theorem denoted_append (first second : List Bool) :
    denoted (first ++ second) = 2 ^ second.length * denoted first + denoted second := by
  rw [denoted, List.foldl_append, foldl_eq_denoted]
  rfl

theorem denoted_lt (bits : List Bool) : denoted bits < 2 ^ bits.length := by
  induction bits with
  | nil => simp
  | cons bit rest ih =>
    rw [denoted_cons, List.length_cons, Nat.pow_succ]
    cases bit with
    | false => simp only [Bool.toNat_false]; omega
    | true => simp only [Bool.toNat_true]; omega

/-- Bits of the same length are known by the number that they denote. -/
theorem denoted_inj {first second : List Bool} (hlength : first.length = second.length)
    (hdenoted : denoted first = denoted second) : first = second := by
  induction first generalizing second with
  | nil => exact (List.length_eq_zero_iff.mp hlength.symm).symm
  | cons bit rest ih =>
    cases second with
    | nil => exact absurd hlength (Nat.succ_ne_zero _)
    | cons bit' rest' =>
      have hrest : rest.length = rest'.length := Nat.succ.inj hlength
      have hlt := denoted_lt rest
      have hlt' := denoted_lt rest'
      rw [denoted_cons, denoted_cons, hrest] at hdenoted
      rw [hrest] at hlt
      have hbit : bit = bit' := by
        have htop := congrArg (· / 2 ^ rest'.length) hdenoted
        simp only [Nat.mul_add_div (Nat.two_pow_pos _), Nat.div_eq_of_lt hlt, Nat.div_eq_of_lt hlt',
          Nat.add_zero] at htop
        revert htop
        cases bit <;> cases bit' <;> decide
      subst hbit
      rw [ih hrest (by omega)]

/-! ### The lowest bit first -/

/-- The number that a list of bits denotes, the lowest first. -/
def lowFirst (bits : List Bool) : Nat := Nat.ofDigits 2 (bits.map Bool.toNat)

theorem lowFirst_cons (bit : Bool) (rest : List Bool) :
    lowFirst (bit :: rest) = bit.toNat + 2 * lowFirst rest := by
  rw [lowFirst, List.map_cons, Nat.ofDigits_cons, lowFirst]

/-- The bit at each place of the number is the one at this place of the list. -/
theorem testBit_lowFirst (bits : List Bool) (i : Nat) :
    (lowFirst bits).testBit i = bits.getD i false := by
  induction bits generalizing i with
  | nil => simp [lowFirst]
  | cons bit rest ih =>
    rw [lowFirst_cons]
    cases i with
    | zero =>
      rw [Nat.testBit_zero, Nat.add_mul_mod_self_left, List.getD_cons_zero]
      cases bit <;> rfl
    | succ i =>
      have hhalf : (bit.toNat + 2 * lowFirst rest) / 2 = lowFirst rest := by
        rw [Nat.add_mul_div_left _ _ Nat.two_pos, Nat.div_eq_of_lt bit.toNat_lt, Nat.zero_add]
      rw [Nat.testBit_succ, hhalf, ih, List.getD_cons_succ]

/-- Turned round, a list of bits denotes the same number. -/
theorem denoted_reverse (bits : List Bool) : denoted bits.reverse = lowFirst bits := by
  induction bits with
  | nil => rfl
  | cons bit rest ih =>
    have hlast : denoted [bit] = bit.toNat := by simp [denoted]
    rw [List.reverse_cons, denoted_append, hlast, ih, lowFirst_cons, List.length_singleton,
      Nat.pow_one, Nat.add_comm]

/-- Bits of the same length are known by the number that they denote in this order. -/
theorem lowFirst_inj {first second : List Bool} (hlength : first.length = second.length)
    (hnumber : lowFirst first = lowFirst second) : first = second := by
  rw [← denoted_reverse, ← denoted_reverse] at hnumber
  exact List.reverse_inj.mp (denoted_inj (by simpa using hlength) hnumber)

/-! ### Words from bits -/

theorem toNat_ofBits {bits : List Bool} (hlength : bits.length ≤ maxWidth) :
    (ofBits bits).toNat = denoted bits := by
  have hle : 2 ^ bits.length ≤ 2 ^ 32 := Nat.pow_le_pow_right Nat.two_pos hlength
  rw [ofBits, UInt32.toNat_ofNat']
  exact Nat.mod_eq_of_lt (Nat.lt_of_lt_of_le (denoted_lt bits) hle)

theorem toNat_ofBits_reverse {bits : List Bool} (hlength : bits.length ≤ maxWidth) :
    (ofBits bits.reverse).toNat = lowFirst bits := by
  rw [toNat_ofBits (by rwa [List.length_reverse]), denoted_reverse]

theorem toNat_ofBits_lt {bits : List Bool} (hlength : bits.length ≤ maxWidth) :
    (ofBits bits).toNat < 2 ^ bits.length := by
  rw [toNat_ofBits hlength]
  exact denoted_lt bits

/-! ### Bits of a word -/

@[simp]
theorem bits_zero (value : Word) : value.bits 0 = [] := rfl

theorem bits_succ (value : Word) (width : Nat) :
    value.bits (width + 1) = value.toNat.testBit width :: value.bits width := by
  simp [bits, List.range_succ]

/-- The lowest bits of a word denote its remainder. -/
theorem denoted_bits (value : Word) (width : Nat) :
    denoted (value.bits width) = value.toNat % 2 ^ width := by
  induction width with
  | zero => simp [Nat.mod_one]
  | succ width ih =>
    rw [bits_succ, denoted_cons, ih, length_bits, Nat.toNat_testBit, Nat.mod_pow_succ, Nat.add_comm]

theorem lowFirst_bits (value : Word) (width : Nat) :
    lowFirst (value.bits width).reverse = value.toNat % 2 ^ width := by
  rw [← denoted_reverse, List.reverse_reverse, denoted_bits]

/-- The lowest bits of a word are those of its remainder. -/
theorem bits_eq_map_testBit {value : Word} {n width : Nat}
    (hvalue : value.toNat % 2 ^ width = n % 2 ^ width) :
    value.bits width = (List.range width).reverse.map n.testBit := by
  refine List.map_congr_left fun i hmem ↦ ?_
  have hi : i < width := List.mem_range.mp (List.mem_reverse.mp hmem)
  have hbit := congrArg (·.testBit i) hvalue
  simpa [Nat.testBit_mod_two_pow, hi] using hbit

/-- The word that bits denote has these bits. -/
theorem bits_ofBits {bits : List Bool} (hlength : bits.length ≤ maxWidth) :
    (ofBits bits).bits bits.length = bits := by
  rw [bits_eq_map_testBit (congrArg (· % 2 ^ bits.length) (toNat_ofBits hlength))]
  clear hlength
  induction bits with
  | nil => rfl
  | cons bit rest ih =>
    have htop : (denoted (bit :: rest)).testBit rest.length = bit := by
      rw [denoted_cons, Nat.testBit_two_pow_mul_add _ (denoted_lt rest)]
      cases bit <;> simp
    have hlow : ∀ i ∈ (List.range rest.length).reverse,
        (denoted (bit :: rest)).testBit i = (denoted rest).testBit i := by
      intro i hmem
      have hi : i < rest.length := List.mem_range.mp (List.mem_reverse.mp hmem)
      rw [denoted_cons, Nat.testBit_two_pow_mul_add _ (denoted_lt rest), if_pos hi]
    rw [List.length_cons, List.range_succ, List.reverse_append, List.reverse_singleton,
      List.singleton_append, List.map_cons, htop, List.map_congr_left hlow, ih]

/-- The eight bits of a byte denote the byte. -/
theorem toUInt8_ofBits_bits (byte : UInt8) :
    (ofBits (Word.bits byte.toUInt32 8)).toUInt8 = byte := by
  have hbits : (ofBits (Word.bits byte.toUInt32 8)).toNat = byte.toNat := by
    rw [toNat_ofBits (by rw [length_bits]; decide), denoted_bits, UInt8.toNat_toUInt32]
    exact Nat.mod_eq_of_lt byte.toNat_lt
  rw [← UInt8.toNat_inj, UInt32.toNat_toUInt8, hbits]
  exact Nat.mod_eq_of_lt byte.toNat_lt

/-- A word of at most eight bits is a byte. -/
theorem toUInt32_toUInt8_ofBits {bits : List Bool} (hlength : bits.length ≤ 8) :
    (ofBits bits).toUInt8.toUInt32 = ofBits bits := by
  have hle : 2 ^ bits.length ≤ 2 ^ 8 := Nat.pow_le_pow_right Nat.two_pos hlength
  have hlt := toNat_ofBits_lt (Nat.le_trans hlength (show 8 ≤ maxWidth by decide))
  rw [← UInt32.toNat_inj, UInt8.toNat_toUInt32, UInt32.toNat_toUInt8]
  exact Nat.mod_eq_of_lt (Nat.lt_of_lt_of_le hlt hle)

end BusProbe.Word
