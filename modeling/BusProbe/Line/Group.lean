/-!
# Groups of a line

What an operator types is a line of groups. A group starts with an opening character, which also
says what kind of group it is, holds tokens set off by blanks, and ends at its closer. Text between
groups means nothing. Reading a line divides it into pieces without losing a character of it.

* `ofChar?_char` — each opening character begins the kind of group it is the opener of.
-/

set_option autoImplicit false
set_option relaxedAutoImplicit false

namespace BusProbe

/-- The kind of a group, named for the character that begins it. -/
inductive Opener
  /-- A square bracket: the group is one whole transaction. -/
  | bracket
  /-- A curly brace. -/
  | brace
  /-- An arrow, which needs no closer. -/
  | arrow
  deriving DecidableEq, Repr

namespace Opener

/-- The kind of group that a character begins. -/
def ofChar? : Char → Option Opener
  | '[' => some .bracket
  | '{' => some .brace
  | '>' => some .arrow
  | _ => none

/-- The character that begins a group of this kind. -/
def char : Opener → Char
  | .bracket => '['
  | .brace => '{'
  | .arrow => '>'

theorem ofChar?_char (opener : Opener) : ofChar? opener.char = some opener := by
  cases opener <;> rfl

/-- Whether a character ends a group of this kind. The square bracket ends every group. -/
def closedBy (opener : Opener) (c : Char) : Bool :=
  c == ']' || (opener == .brace && c == '}')

end Opener

/-- A complete group: its kind, its text from the opening character to the closing one, and its
tokens in order. -/
structure Group where
  opener : Opener
  raw : String
  tokens : List String
  deriving DecidableEq, Repr

/-- Why the text of a group was given up. -/
inductive DropReason
  /-- Another group was opened before this one was closed. -/
  | reopened
  /-- The line ended before the group was closed. -/
  | unterminated
  deriving DecidableEq, Repr

/-- A stretch of a line. -/
inductive Piece
  /-- Text outside every group. -/
  | free (text : String)
  | complete (group : Group)
  /-- The text of a group that never became complete. -/
  | dropped (reason : DropReason) (text : String)
  deriving DecidableEq, Repr

namespace Piece

/-- The characters of the line that a piece stands for. -/
def text : Piece → String
  | .free text => text
  | .complete group => group.raw
  | .dropped _ text => text

/-- The complete group in a piece. -/
def group? : Piece → Option Group
  | .complete group => some group
  | _ => none

end Piece

end BusProbe
