/-!
# Words, their bits and their bytes

A word is a 32-bit value. A bus carries the low `width` bits of it, or the bytes that hold them. The
lists here are in the order of the written number: the highest bit and the highest byte come first.

* `toNat_low` — the low bits of a word are its remainder modulo a power of two.
* `length_bits`, `length_bytes` — the number of bits is the width, the number of bytes the width
  divided by eight, rounded up.
-/

set_option autoImplicit false
set_option relaxedAutoImplicit false

namespace BusProbe

/-- A value as it is written to or read from a bus. -/
abbrev Word := UInt32

namespace Word

/-- The widest value that a bus carries in one unit. -/
def maxWidth : Nat := 32

/-- A width brought into the range from one bit to a whole word. -/
def clampWidth (width : Nat) : Nat := max 1 (min width maxWidth)

/-- The word with its lowest `width` bits set. -/
def ones (width : Nat) : Word := UInt32.ofNat (Nat.pow 2 (min width maxWidth) - 1)

/-- The word cut down to its lowest `width` bits. -/
def low (value : Word) (width : Nat) : Word := UInt32.ofNat (value.toNat % Nat.pow 2 width)

theorem toNat_low (value : Word) (width : Nat) :
    (value.low width).toNat = value.toNat % Nat.pow 2 width := by
  rw [low, UInt32.toNat_ofNat', Nat.mod_eq_of_lt]
  exact Nat.lt_of_le_of_lt (Nat.mod_le _ _) value.toNat_lt

/-- The lowest `width` bits of a word, the highest of them first. -/
def bits (value : Word) (width : Nat) : List Bool :=
  (List.range width).reverse.map value.toNat.testBit

theorem length_bits (value : Word) (width : Nat) : (value.bits width).length = width := by
  simp [bits]

/-- The word that a list of bits denotes, the highest first. -/
def ofBits (bits : List Bool) : Word :=
  UInt32.ofNat (bits.foldl (fun n b ↦ 2 * n + b.toNat) 0)

/-- How many bytes a value of a width fills. -/
def byteCount (width : Nat) : Nat := (width + 7) / 8

/-- The bytes that hold the lowest `width` bits of a word, the highest byte first. A first byte that
the width fills only in part still carries the bits of the word above it. -/
def bytes (value : Word) (width : Nat) : List UInt8 :=
  (List.range (byteCount width)).reverse.map fun i ↦ UInt8.ofNat (value.toNat / Nat.pow 256 i)

theorem length_bytes (value : Word) (width : Nat) :
    (value.bytes width).length = (width + 7) / 8 := by
  simp [bytes, byteCount]

/-- The word that a list of bytes denotes, the highest first; of more than four bytes the last four
count. -/
def ofBytes (bytes : List UInt8) : Word :=
  UInt32.ofNat (bytes.foldl (fun n b ↦ 256 * n + b.toNat) 0)

end Word

end BusProbe
