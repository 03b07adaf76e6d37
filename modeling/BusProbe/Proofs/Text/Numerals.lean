import BusProbe.Text.Digits
import Mathlib.Data.List.Forall2
import Mathlib.Data.Nat.Digits.Defs

/-!
# What written digits denote

Which digits a text consists of and which number they denote, said without the functions that read
and write numbers. A number of fixed width is written in just as many upper-case digits, which
denote it (`denotes_fixed`); and any text that denotes a number is read as that number, whatever the
case of its letters and however many leading zeros it has (`number?_of_denotes`), and no other text
is read (`number?_eq_some_iff`). Decimal digits denote a number however many they are
(`number?_of_isDigit`).
-/

set_option autoImplicit false
set_option relaxedAutoImplicit false

namespace BusProbe.Text

/-- The digits up to base sixteen, with upper-case letters. -/
def upperDigits : List Char :=
  ['0', '1', '2', '3', '4', '5', '6', '7', '8', '9', 'A', 'B', 'C', 'D', 'E', 'F']

/-- The digits up to base sixteen, with lower-case letters. -/
def lowerDigits : List Char :=
  ['0', '1', '2', '3', '4', '5', '6', '7', '8', '9', 'a', 'b', 'c', 'd', 'e', 'f']

/-- A character is the digit of a value, with letters in upper case. -/
def IsUpperDigit (digit : Nat) (c : Char) : Prop := upperDigits[digit]? = some c

/-- A character is the digit of a value, with letters in either case. -/
def IsDigit (digit : Nat) (c : Char) : Prop :=
  upperDigits[digit]? = some c ∨ lowerDigits[digit]? = some c

/-- A text consists of digits below a base, and they denote a number. Which characters count as
digits is left open. -/
def Denotes (isDigit : Nat → Char → Prop) (base : Nat) (text : List Char) (value : Nat) : Prop :=
  ∃ digits : List Nat, List.Forall₂ isDigit digits text ∧ (∀ digit ∈ digits, digit < base) ∧
    Nat.ofDigits base digits.reverse = value

/-- What denotes a number consists of digits below its base. -/
theorem Denotes.exists_isDigit {isDigit : Nat → Char → Prop} {base value : Nat}
    {text : List Char} (hdenotes : Denotes isDigit base text value) :
    ∀ c ∈ text, ∃ digit < base, isDigit digit c := by
  obtain ⟨digits, hdigits, hbelow, -⟩ := hdenotes
  clear value
  induction hdigits with
  | nil => exact fun c hmem ↦ absurd hmem List.not_mem_nil
  | @cons digit c digits text hdigit _ ih =>
    intro other hmem
    rcases List.mem_cons.mp hmem with rfl | hmem
    · exact ⟨digit, hbelow digit List.mem_cons_self, hdigit⟩
    · exact ih (fun lower hlower ↦ hbelow lower (List.mem_cons_of_mem digit hlower)) other hmem

theorem IsDigit.mem {digit : Nat} {c : Char} (hdigit : IsDigit digit c) :
    c ∈ upperDigits ++ lowerDigits := by
  rcases hdigit with hdigit | hdigit
  · exact List.mem_append_left _ (List.mem_of_getElem? hdigit)
  · exact List.mem_append_right _ (List.mem_of_getElem? hdigit)

/-- The decimal digits have no case. -/
theorem IsDigit.mem_take {digit : Nat} {c : Char} (hdigit : IsDigit digit c)
    (hbelow : digit < 10) : c ∈ upperDigits.take 10 := by
  have hsame : lowerDigits.take 10 = upperDigits.take 10 := rfl
  rcases hdigit with hdigit | hdigit
  · exact List.mem_of_getElem? ((List.getElem?_take_of_lt hbelow).trans hdigit)
  · rw [← hsame]
    exact List.mem_of_getElem? ((List.getElem?_take_of_lt hbelow).trans hdigit)

/-! ### Writing -/

theorem isUpperDigit_upperDigit : ∀ digit < 16, IsUpperDigit digit (upperDigit digit) := by
  unfold IsUpperDigit
  decide

/-- The lowest digits of a number denote what it leaves modulo a power of the base. -/
theorem ofDigits_range (base width n : Nat) :
    Nat.ofDigits base ((List.range width).map fun i ↦ n / Nat.pow base i % base) =
      n % base ^ width := by
  induction width with
  | zero => exact (Nat.mod_one n).symm
  | succ width ih =>
    rw [List.range_succ, List.map_append, Nat.ofDigits_append, ih, List.length_map,
      List.length_range, List.map_singleton, Nat.ofDigits_singleton, Nat.mod_pow_succ]
    rfl

/-- A number of fixed width that is wide enough is written in upper-case digits that denote it. -/
theorem denotes_fixed {width n : Nat} (hfits : n < 16 ^ width) :
    Denotes IsUpperDigit 16 (fixed 16 width n) n := by
  refine ⟨(List.range width).reverse.map fun i ↦ n / Nat.pow 16 i % 16, ?_, ?_, ?_⟩
  · rw [fixed, List.forall₂_map_left_iff, List.forall₂_map_right_iff, List.forall₂_same]
    exact fun i _ ↦ isUpperDigit_upperDigit _ (Nat.mod_lt _ (by decide))
  · intro digit hmem
    obtain ⟨i, -, rfl⟩ := List.mem_map.mp hmem
    exact Nat.mod_lt _ (by decide)
  · rw [← List.map_reverse, List.reverse_reverse, ofDigits_range, Nat.mod_eq_of_lt hfits]

/-! ### Reading -/

theorem digitValue?_eq {digit : Nat} {c : Char} (hdigit : IsDigit digit c) :
    digitValue? c = some digit := by
  have hupper : ∀ digit : Fin 16, digitValue? upperDigits[digit] = some digit.val := by decide
  have hlower : ∀ digit : Fin 16, digitValue? lowerDigits[digit] = some digit.val := by decide
  rcases hdigit with hdigit | hdigit
  · obtain ⟨hlt, rfl⟩ := List.getElem?_eq_some_iff.mp hdigit
    exact hupper ⟨digit, hlt⟩
  · obtain ⟨hlt, rfl⟩ := List.getElem?_eq_some_iff.mp hdigit
    exact hlower ⟨digit, hlt⟩

/-- A digit below the base is appended to the number so far. -/
theorem appendDigit?_eq {base digit : Nat} {c : Char} (hdigit : IsDigit digit c)
    (hbelow : digit < base) (value : Nat) :
    appendDigit? base value c = some (base * value + digit) := by
  simp [appendDigit?, digitBelow?, digitValue?_eq hdigit, hbelow]

/-- Digits that are read one after another move the number so far up by as many places. -/
theorem foldlM_appendDigit? {base : Nat} {digits : List Nat} {text : List Char}
    (hdigits : List.Forall₂ IsDigit digits text) (hbelow : ∀ digit ∈ digits, digit < base)
    (value : Nat) :
    text.foldlM (appendDigit? base) value =
      some (base ^ digits.length * value + Nat.ofDigits base digits.reverse) := by
  induction hdigits generalizing value with
  | nil => simp
  | @cons digit c digits text hdigit hrest ih =>
    have hlater := fun other hmem ↦ hbelow other (List.mem_cons_of_mem digit hmem)
    rw [List.foldlM_cons, appendDigit?_eq hdigit (hbelow digit List.mem_cons_self)]
    rw [Option.bind_eq_bind, Option.bind_some, ih hlater, List.reverse_cons, Nat.ofDigits_append,
      Nat.ofDigits_singleton, List.length_reverse, List.length_cons]
    congr 1
    ring

/-- A text that denotes a number is read as that number. -/
theorem number?_of_denotes {base value : Nat} {text : List Char}
    (hdenotes : Denotes IsDigit base text value) (hne : text ≠ []) :
    number? base text = some value := by
  obtain ⟨digits, hdigits, hbelow, rfl⟩ := hdenotes
  obtain ⟨c, rest, rfl⟩ := List.exists_cons_of_ne_nil hne
  rw [number?, foldlM_appendDigit? hdigits hbelow, Nat.mul_zero, Nat.zero_add]

/-- A character is the one as far behind the first of a range as it is. -/
theorem ofNat_toNat_sub {first c : Char} (hfirst : first ≤ c) :
    Char.ofNat (c.toNat - first.toNat + first.toNat) = c := by
  have hle : first.toNat ≤ c.toNat := hfirst
  rw [Nat.sub_add_cancel hle, Char.ofNat_toNat]

/-- A character with a value below sixteen is the digit of that value. -/
theorem isDigit_of_digitValue? {digit : Nat} {c : Char} (hvalue : digitValue? c = some digit)
    (hbelow : digit < 16) : IsDigit digit c := by
  have hdecimal : ∀ n < 10, upperDigits[n]? = some (Char.ofNat (n + '0'.toNat)) := by decide
  have hupper : ∀ n < 6, upperDigits[n + 10]? = some (Char.ofNat (n + 'A'.toNat)) := by decide
  have hlower : ∀ n < 6, lowerDigits[n + 10]? = some (Char.ofNat (n + 'a'.toNat)) := by decide
  unfold digitValue? at hvalue
  split_ifs at hvalue with hrange hrange hrange
  all_goals obtain rfl := Option.some.inj hvalue
  · have hmost : c.toNat - '0'.toNat ≤ '9'.toNat - '0'.toNat := Nat.sub_le_sub_right hrange.2 _
    have hdigit := hdecimal (c.toNat - '0'.toNat) (Nat.lt_succ_of_le hmost)
    rw [ofNat_toNat_sub hrange.1] at hdigit
    exact Or.inl hdigit
  · have hdigit := hlower (c.toNat - 'a'.toNat) (by omega)
    rw [ofNat_toNat_sub hrange.1] at hdigit
    exact Or.inr hdigit
  · have hdigit := hupper (c.toNat - 'A'.toNat) (by omega)
    rw [ofNat_toNat_sub hrange.1] at hdigit
    exact Or.inl hdigit

/-- A digit that is appended is one below the base. -/
theorem exists_isDigit_of_appendDigit? {base value next : Nat} {c : Char} (hbase : base ≤ 16)
    (hnext : appendDigit? base value c = some next) : ∃ digit < base, IsDigit digit c := by
  obtain ⟨digit, hdigit, -⟩ := Option.map_eq_some_iff.mp hnext
  obtain ⟨hvalue, hbelow⟩ := Option.filter_eq_some_iff.mp hdigit
  have hlt : digit < base := of_decide_eq_true hbelow
  exact ⟨digit, hlt, isDigit_of_digitValue? hvalue (Nat.lt_of_lt_of_le hlt hbase)⟩

/-- Only digits are read one after another. -/
theorem exists_digits_of_foldlM {base value last : Nat} {text : List Char} (hbase : base ≤ 16)
    (hlast : text.foldlM (appendDigit? base) value = some last) :
    ∃ digits, List.Forall₂ IsDigit digits text ∧ ∀ digit ∈ digits, digit < base := by
  induction text generalizing value with
  | nil => exact ⟨[], .nil, by simp⟩
  | cons c rest ih =>
    obtain ⟨next, hnext, hrest⟩ := Option.bind_eq_some_iff.mp hlast
    obtain ⟨digit, hbelow, hdigit⟩ := exists_isDigit_of_appendDigit? hbase hnext
    obtain ⟨digits, hdigits, hothers⟩ := ih hrest
    exact ⟨digit :: digits, .cons hdigit hdigits, List.forall_mem_cons.mpr ⟨hbelow, hothers⟩⟩

/-- Just the texts that denote numbers are read. -/
theorem number?_eq_some_iff {base value : Nat} {text : List Char} (hbase : base ≤ 16) :
    number? base text = some value ↔ text ≠ [] ∧ Denotes IsDigit base text value := by
  refine ⟨fun hread ↦ ?_, fun ⟨hne, hdenotes⟩ ↦ number?_of_denotes hdenotes hne⟩
  cases text with
  | nil => cases hread
  | cons c rest =>
    obtain ⟨digits, hdigits, hbelow⟩ := exists_digits_of_foldlM hbase hread
    refine ⟨by simp, digits, hdigits, hbelow, ?_⟩
    rw [number?, foldlM_appendDigit? hdigits hbelow, Nat.mul_zero, Nat.zero_add] at hread
    exact Option.some.inj hread

/-! ### Decimal digits -/

/-- A decimal digit stands as far behind zero as its value says. -/
theorem appendDigit?_of_isDigit {c : Char} (hdigit : c.isDigit = true) (value : Nat) :
    appendDigit? 10 value c = some (10 * value + (c.toNat - '0'.toNat)) := by
  have hrange : '0' ≤ c ∧ c ≤ '9' := by simpa [Char.isDigit, Char.le_def] using hdigit
  have hlast : c.toNat ≤ '9'.toNat := hrange.2
  have hbelow : c.toNat - '0'.toNat < 10 := Nat.lt_succ_of_le (Nat.sub_le_sub_right hlast _)
  rw [appendDigit?, digitBelow?, digitValue?, if_pos hrange, Option.filter_some,
    if_pos (decide_eq_true hbelow), Option.map_some]

/-- Decimal digits that are read one after another are appended to the number so far. -/
theorem foldlM_appendDigit?_of_isDigit {digits : List Char}
    (hdigits : ∀ c ∈ digits, c.isDigit = true) (value : Nat) :
    digits.foldlM (appendDigit? 10) value = some (Nat.ofDigitChars 10 digits value) := by
  induction digits generalizing value with
  | nil => rfl
  | cons c rest ih =>
    obtain ⟨hdigit, hrest⟩ := List.forall_mem_cons.mp hdigits
    rw [List.foldlM_cons, appendDigit?_of_isDigit hdigit, Option.bind_eq_bind, Option.bind_some,
      ih hrest, Nat.ofDigitChars_cons]

/-- Decimal digits, however many, are read as the number that they denote. -/
theorem number?_of_isDigit {digits : List Char} (hne : digits ≠ [])
    (hdigits : ∀ c ∈ digits, c.isDigit = true) :
    number? 10 digits = some (Nat.ofDigitChars 10 digits 0) := by
  obtain ⟨c, rest, rfl⟩ := List.exists_cons_of_ne_nil hne
  exact foldlM_appendDigit?_of_isDigit hdigits 0

end BusProbe.Text
