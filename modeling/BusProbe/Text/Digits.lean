/-!
# Numbers in text

Reading and writing of natural numbers in a radix. A number is read from a non-empty run of digits;
the case of a letter digit does not matter, leading zeros are allowed and a sign is not. Numbers of
a fixed width are written with leading zeros.

* `length_fixed` — a number of fixed width has exactly that many digits.
-/

set_option autoImplicit false
set_option relaxedAutoImplicit false

namespace BusProbe.Text

/-- The value of a digit in bases up to 36, with letters of either case after `9`. -/
def digitValue? (c : Char) : Option Nat :=
  if '0' ≤ c ∧ c ≤ '9' then some (c.toNat - '0'.toNat)
  else if 'a' ≤ c ∧ c ≤ 'z' then some (c.toNat - 'a'.toNat + 10)
  else if 'A' ≤ c ∧ c ≤ 'Z' then some (c.toNat - 'A'.toNat + 10)
  else none

/-- The value of a digit that is below the radix. -/
def digitBelow? (radix : Nat) (c : Char) : Option Nat :=
  (digitValue? c).filter (· < radix)

/-- One step of reading a number: the number so far is moved up by one digit. -/
def appendDigit? (radix value : Nat) (c : Char) : Option Nat :=
  (digitBelow? radix c).map (radix * value + ·)

/-- The number that a non-empty run of digits denotes. -/
def number? (radix : Nat) : List Char → Option Nat
  | [] => none
  | cs@(_ :: _) => cs.foldlM (appendDigit? radix) 0

/-- The digit of a value below sixteen; letters are upper case. -/
def upperDigit (n : Nat) : Char :=
  (Nat.digitChar n).toUpper

/-- The lowest `width` digits of a number in a radix, the highest of them first. -/
def fixed (radix width n : Nat) : List Char :=
  (List.range width).reverse.map fun i ↦ upperDigit (n / Nat.pow radix i % radix)

theorem length_fixed (radix width n : Nat) : (fixed radix width n).length = width := by
  simp [fixed]

/-- A number in hexadecimal with lower-case letters and no leading zero. -/
def hexadecimal (n : Nat) : String :=
  String.ofList (Nat.toDigits 16 n)

end BusProbe.Text
