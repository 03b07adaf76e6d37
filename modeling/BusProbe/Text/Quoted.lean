import BusProbe.Text.Blank
import BusProbe.Text.Digits
import BusProbe.Text.Marks
import BusProbe.Text.Unassigned

/-!
# Quoted text

The form in which a message shows a piece of what was typed: between double quotes, with a
backslash before a quote and a backslash, with the usual short escapes for tab, line feed, carriage
return and NUL, and with every other character that leaves no mark of its own on a display written
as its code point in hexadecimal between braces. Marks that combine with the character before them
count among those.
-/

set_option autoImplicit false
set_option relaxedAutoImplicit false

namespace BusProbe.Text

/-- The closed ranges of code points of the format characters. -/
def formatRanges : List (Nat × Nat) :=
  [(0xAD, 0xAD), (0x600, 0x605), (0x61C, 0x61C), (0x6DD, 0x6DD), (0x70F, 0x70F), (0x890, 0x891),
    (0x8E2, 0x8E2), (0x180E, 0x180E), (0x200B, 0x200F), (0x202A, 0x202E), (0x2060, 0x2064),
    (0x2066, 0x206F), (0xFEFF, 0xFEFF), (0xFFF9, 0xFFFB), (0x110BD, 0x110BD), (0x110CD, 0x110CD),
    (0x13430, 0x1343F), (0x1BCA0, 0x1BCA3), (0x1D173, 0x1D17A), (0xE0001, 0xE0001),
    (0xE0020, 0xE007F)]

/-- The closed ranges of code points set aside for private use. -/
def privateRanges : List (Nat × Nat) :=
  [(0xE000, 0xF8FF), (0xF0000, 0xFFFFD), (0x100000, 0x10FFFD)]

/-- The closed ranges of code points of the Hangul fillers: letters that hold the place of a missing
one in a syllable and are shown as nothing. -/
def fillerRanges : List (Nat × Nat) :=
  [(0x115F, 0x1160), (0x3164, 0x3164), (0xFFA0, 0xFFA0)]

/-- The control characters. -/
def isControl (c : Char) : Bool :=
  c.toNat < 0x20 || (0x7F ≤ c.toNat && c.toNat ≤ 0x9F)

/-- A character that cannot be seen by itself. The plain space counts as visible. -/
def isInvisible (c : Char) : Bool :=
  isControl c || (isBlank c && c != ' ') || inRanges formatRanges c.toNat ||
    inRanges privateRanges c.toNat || inRanges fillerRanges c.toNat ||
    inRanges markRanges c.toNat || inRanges unassignedRanges c.toNat

/-- The form of one character between the quotes. -/
def escaped (c : Char) : String :=
  match c with
  | '"' => "\\\""
  | '\\' => "\\\\"
  | '\t' => "\\t"
  | '\n' => "\\n"
  | '\r' => "\\r"
  | '\x00' => "\\0"
  | c => if isInvisible c then "\\u\x7b" ++ hexadecimal c.toNat ++ "\x7d" else c.toString

/-- A text between double quotes. -/
def quoted (text : String) : String :=
  "\"" ++ String.join (text.toList.map escaped) ++ "\""

end BusProbe.Text
