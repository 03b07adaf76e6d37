/-!
# Blank characters

White space in the sense of the Unicode property `White_Space`. A line of instructions is split at
blanks, and the console trims them from both ends of what was typed. The property leaves out the
zero-width characters and the information separators U+001C to U+001F, so these are ordinary
characters of a token.

* `isBlank_of_isWhitespace` — every character that the core library calls white space is blank.
* `trimEndList_append` — a list is its trimmed part followed by the blanks it ends in.
-/

set_option autoImplicit false
set_option relaxedAutoImplicit false

namespace BusProbe.Text

/-- The white-space code points of Unicode. -/
def isBlank (c : Char) : Bool :=
  let n := c.toNat
  (0x09 ≤ n && n ≤ 0x0D) || n == 0x20 || n == 0x85 || n == 0xA0 || n == 0x1680 ||
    (0x2000 ≤ n && n ≤ 0x200A) || n == 0x2028 || n == 0x2029 || n == 0x202F || n == 0x205F ||
    n == 0x3000

theorem isBlank_of_isWhitespace (c : Char) (h : c.isWhitespace = true) : isBlank c = true := by
  simp only [Char.isWhitespace, Bool.or_eq_true, decide_eq_true_eq] at h
  rcases h with ((rfl | rfl) | rfl) | rfl <;> decide

/-- The blanks that a list of characters ends in. -/
def blankTail (cs : List Char) : List Char :=
  (cs.reverse.takeWhile isBlank).reverse

/-- A list of characters without the blanks at its end. -/
def trimEndList (cs : List Char) : List Char :=
  (cs.reverse.dropWhile isBlank).reverse

theorem trimEndList_append (cs : List Char) : trimEndList cs ++ blankTail cs = cs := by
  rw [trimEndList, blankTail, ← List.reverse_append, List.takeWhile_append_dropWhile,
    List.reverse_reverse]

/-- A text without the blanks at its two ends. -/
def trim (text : String) : String :=
  String.ofList (trimEndList (text.toList.dropWhile isBlank))

end BusProbe.Text
