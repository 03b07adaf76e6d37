import BusProbe.Proofs.Token.Classes

/-!
# Repeated symbols

A symbol is repeated by writing it as often as it is meant or by writing a count behind it. Either
way it stands for one operation with this count, cut down to 255 (`repetitions_agree`). How often it
is written is counted in a word, and so it makes no difference for texts shorter than 2³² characters
which of the two ways is taken.

The digits of a count may denote any number. Read into a word they have no result if the word does
not hold it (`wordNumber?_eq`), and then the count is the largest there is, which is what the whole
number would have been cut down to (`min_wordNumber?`).
-/

set_option autoImplicit false
set_option relaxedAutoImplicit false

namespace BusProbe.Token

/-! ### Counts in a word -/

/-- A digit appended to a number, if a word still holds the result. -/
def appendInWord? (value : Nat) (c : Char) : Option Nat :=
  (Text.appendDigit? 10 value c).filter (· < UInt32.size)

/-- The number that digits denote, read into a word digit by digit. -/
def wordNumber? (digits : List Char) : Option Nat := digits.foldlM appendInWord? 0

/-- A number does not become less by digits that are appended. -/
theorem le_ofDigitChars (digits : List Char) (value : Nat) :
    value ≤ Nat.ofDigitChars 10 digits value := by
  induction digits generalizing value with
  | nil => exact Nat.le_refl value
  | cons c rest ih =>
    have happended := ih (10 * value + (c.toNat - '0'.toNat))
    rw [Nat.ofDigitChars_cons]
    omega

/-- Digits are appended to a number in a word just if the word holds the result. What it does not
hold at some digit it does not hold at the end, since the number only grows. -/
theorem foldlM_appendInWord? {digits : List Char} (hdigits : ∀ c ∈ digits, c.isDigit = true)
    {value : Nat} (hvalue : value < UInt32.size) :
    digits.foldlM appendInWord? value =
      if Nat.ofDigitChars 10 digits value < UInt32.size then
        some (Nat.ofDigitChars 10 digits value)
      else none := by
  induction digits generalizing value with
  | nil => exact (if_pos hvalue).symm
  | cons c rest ih =>
    obtain ⟨hdigit, hrest⟩ := List.forall_mem_cons.mp hdigits
    rw [List.foldlM_cons, appendInWord?, Text.appendDigit?_of_isDigit hdigit, Option.filter_some,
      Nat.ofDigitChars_cons]
    by_cases hnext : 10 * value + (c.toNat - '0'.toNat) < UInt32.size
    · rw [if_pos (decide_eq_true hnext), Option.bind_eq_bind, Option.bind_some, ih hrest hnext]
    · have hle := le_ofDigitChars rest (10 * value + (c.toNat - '0'.toNat))
      rw [if_neg (by simpa using hnext), if_neg (by omega)]
      rfl

/-- Digits are read into a word just if it holds the number that they denote. -/
theorem wordNumber?_eq {digits : List Char} (hdigits : ∀ c ∈ digits, c.isDigit = true) :
    wordNumber? digits =
      if Nat.ofDigitChars 10 digits 0 < UInt32.size then some (Nat.ofDigitChars 10 digits 0)
      else none :=
  foldlM_appendInWord? hdigits (by decide)

/-- Where a word does not hold the number, the largest count is what it is cut down to. -/
theorem min_wordNumber? {digits : List Char} (hdigits : ∀ c ∈ digits, c.isDigit = true) :
    min ((wordNumber? digits).getD 255) 255 = min (Nat.ofDigitChars 10 digits 0) 255 := by
  rw [wordNumber?_eq hdigits]
  split_ifs with hfits
  · rfl
  · simp only [UInt32.size] at hfits
    rw [Option.getD_none]
    omega

/-! ### The two ways -/

/-- The operation of a symbol that is done so many times, as far as a count goes. -/
theorem withCount_ofKind (kind : OpKind) (count : Nat) :
    (Operation.ofKind kind).withCount (min count 255) =
      ⟨kind, 0, 8, min count 255, false, true⟩ := by
  have hcount : Operation.clampCount (min count 255) = min count 255 := by
    rw [Operation.clampCount, Operation.maxCount, Nat.min_assoc, Nat.min_self]
  rw [Operation.withCount, hcount]
  rfl

section Letter

variable {letter : Char} {symbol : Symbol} (hletter : (letter, symbol) ∈ Symbol.letters)
include hletter

/-- A symbol with any digits behind a colon has the count that they denote, cut down to the largest
count. -/
theorem classify_counted {digits : List Char} (hne : digits ≠ [])
    (hdigits : ∀ c ∈ digits, c.isDigit = true) :
    classify (String.ofList (letter :: ':' :: digits)) =
      .counted symbol (min (Nat.ofDigitChars 10 digits 0) 255) := by
  obtain ⟨numeral, rfl, hvalue⟩ :=
    exists_numeral (by decide) (Text.number?_of_isDigit hne hdigits)
  rw [← hvalue]
  exact (Reads.counted letter symbol hletter numeral).classify_eq

theorem operations_counted {digits : List Char} (hne : digits ≠ [])
    (hdigits : ∀ c ∈ digits, c.isDigit = true) :
    (classify (String.ofList (letter :: ':' :: digits))).operations =
      [⟨symbol.kind, 0, 8, min (Nat.ofDigitChars 10 digits 0) 255, false, true⟩] := by
  rw [classify_counted hletter hne hdigits, operations, withCount_ofKind]

/-- A symbol that is written several times is counted. -/
theorem classify_run {times : Nat} (htimes : 2 ≤ times) (hword : times < 2 ^ 32) :
    classify (String.ofList (List.replicate times letter)) = .run symbol (min times 255) := by
  have hreads := Reads.run letter symbol hletter times htimes
  rw [Nat.mod_eq_of_lt hword] at hreads
  exact hreads.classify_eq

end Letter

/-- What is written in decimal, with any number of zeros in front, denotes the number. -/
theorem ofDigitChars_zeros_toDigits (zeros n : Nat) :
    Nat.ofDigitChars 10 (List.replicate zeros '0' ++ Nat.toDigits 10 n) 0 = n := by
  rw [Nat.ofDigitChars_append, Nat.ofDigitChars_replicate_zero, Nat.mul_zero,
    Nat.ofDigitChars_ten_toDigits]

theorem isDigit_of_mem_zeros_toDigits {zeros n : Nat} :
    ∀ c ∈ List.replicate zeros '0' ++ Nat.toDigits 10 n, c.isDigit = true := by
  intro c hmem
  rcases List.mem_append.mp hmem with hmem | hmem
  · rw [List.eq_of_mem_replicate hmem]
    rfl
  · exact Nat.isDigit_of_mem_toDigits (by decide) (by decide) hmem

/-- Every symbol, written at least twice and less than 2³² times, stands for the same single
operation as the symbol with its count in decimal behind a colon, with any number of leading zeros.
The operation has no value and no width of its own, and its count is the number up to 255. And
whatever digits stand behind the colon, however many, there is one operation whose count is the
number that they denote, up to 255, which is also the count if the digits are read into a word and
255 is taken where they do not fit. -/
theorem repetitions_agree {letter : Char} {symbol : Symbol}
    (hletter : (letter, symbol) ∈ Symbol.letters) :
    (∀ times zeros : Nat, 2 ≤ times → times < 2 ^ 32 →
      (classify (String.ofList (List.replicate times letter))).operations =
        [⟨symbol.kind, 0, 8, min times 255, false, true⟩] ∧
      (classify (String.ofList
        (letter :: ':' :: (List.replicate zeros '0' ++ Nat.toDigits 10 times)))).operations =
          [⟨symbol.kind, 0, 8, min times 255, false, true⟩]) ∧
    ∀ digits : List Char, digits ≠ [] → (∀ c ∈ digits, c.isDigit = true) →
      (classify (String.ofList (letter :: ':' :: digits))).operations =
        [⟨symbol.kind, 0, 8, min (Nat.ofDigitChars 10 digits 0) 255, false, true⟩] ∧
      min ((wordNumber? digits).getD 255) 255 = min (Nat.ofDigitChars 10 digits 0) 255 := by
  refine ⟨fun times zeros htimes hword ↦ ⟨?_, ?_⟩, fun digits hne hdigits ↦ ?_⟩
  · rw [classify_run hletter htimes hword, operations, withCount_ofKind]
  · have hne : List.replicate zeros '0' ++ Nat.toDigits 10 times ≠ [] :=
      List.append_ne_nil_of_right_ne_nil _ Nat.toDigits_ne_nil
    rw [operations_counted hletter hne isDigit_of_mem_zeros_toDigits, ofDigitChars_zeros_toDigits]
  · exact ⟨operations_counted hletter hne hdigits, min_wordNumber? hdigits⟩

/-- Three delays in a row are one operation, which can be written `d:003` as well. A word would hold
only the lowest bit of 2³² + 1, but with this number behind the colon the count is the largest. -/
theorem three_delays_agree :
    ('d', Symbol.delayMicros) ∈ Symbol.letters ∧ 2 ≤ 3 ∧ 3 < 2 ^ 32 ∧
      "4294967297".toList ≠ [] ∧ (∀ c ∈ "4294967297".toList, c.isDigit = true) ∧
      (classify "ddd").operations = [⟨.delayMicros, 0, 8, 3, false, true⟩] ∧
      (classify "d:003").operations = [⟨.delayMicros, 0, 8, 3, false, true⟩] ∧
      (classify "d:4294967297").operations = [⟨.delayMicros, 0, 8, 255, false, true⟩] ∧
      wordNumber? "4294967297".toList = none := by
  have hletter : ('d', Symbol.delayMicros) ∈ Symbol.letters := by decide
  have hne : "4294967297".toList ≠ [] := by decide
  have hdigits : ∀ c ∈ "4294967297".toList, c.isDigit = true :=
    List.all_eq_true.mp (by decide)
  obtain ⟨hboth, hany⟩ := repetitions_agree hletter
  obtain ⟨hrun, hcount⟩ := hboth 3 2 (by decide) (by decide)
  obtain ⟨hlong, -⟩ := hany _ hne hdigits
  exact ⟨hletter, by decide, by decide, hne, hdigits, hrun, hcount, hlong, by decide⟩

end BusProbe.Token
