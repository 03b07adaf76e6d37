import BusProbe.Line.Group
import BusProbe.Text.Blank

/-!
# Dividing a line

A line is read from left to right by a machine of three states: outside every group, inside a group,
and inside a quoted literal of a group. Each state carries the text read since the last piece was
finished, so that the pieces given out and the state together always hold all that was read.

Quotes open a literal only inside a group. A group with brackets that is opened again, or that the
line leaves open, is dropped; a group that an arrow began is complete at the next opening character
and at the end of the line, and the blanks before those are not part of it.

* `pieces` — the division of a line; `groups` — the complete groups among the pieces.
-/

set_option autoImplicit false
set_option relaxedAutoImplicit false

namespace BusProbe.Line

/-- A group that is still being read: its text and finished tokens so far, and the characters of the
token at hand, of which there are none between tokens. -/
structure Draft where
  opener : Opener
  raw : String
  tokens : List String
  word : String
  deriving DecidableEq, Repr

namespace Draft

/-- The draft of a group of which only the opening character was read. -/
def start (opener : Opener) (c : Char) : Draft := ⟨opener, c.toString, [], ""⟩

/-- Ends the token at hand, if there is one. -/
def endToken (draft : Draft) : Draft :=
  if draft.word.isEmpty then draft
  else { draft with tokens := draft.tokens ++ [draft.word], word := "" }

@[simp]
theorem endToken_opener (draft : Draft) : draft.endToken.opener = draft.opener := by
  unfold endToken
  split <;> rfl

@[simp]
theorem endToken_raw (draft : Draft) : draft.endToken.raw = draft.raw := by
  unfold endToken
  split <;> rfl

@[simp]
theorem endToken_word (draft : Draft) : draft.endToken.word = "" := by
  unfold endToken
  split
  · rename_i hempty
    exact String.isEmpty_iff.mp hempty
  · rfl

theorem endToken_of_word_eq {draft : Draft} (hword : draft.word = "") :
    draft.endToken = draft := by
  rw [endToken, if_pos (String.isEmpty_iff.mpr hword)]

theorem endToken_tokens_of_word_ne {draft : Draft} (hword : draft.word ≠ "") :
    draft.endToken.tokens = draft.tokens ++ [draft.word] := by
  rw [endToken, if_neg fun hempty ↦ hword (String.isEmpty_iff.mp hempty)]

/-- Takes in a character that belongs to no token. -/
def skip (draft : Draft) (c : Char) : Draft := { draft with raw := draft.raw.push c }

/-- Takes in a character of the token at hand. -/
def take (draft : Draft) (c : Char) : Draft :=
  { draft with raw := draft.raw.push c, word := draft.word.push c }

end Draft

/-- A stretch of text outside the groups, if there is any. -/
def freePiece (text : String) : List Piece :=
  if text.isEmpty then [] else [.free text]

/-- The pieces that a draft leaves when no closer can come any more: an arrow's group is complete
without the blanks at its end, any other group is dropped. -/
def Draft.abandon (draft : Draft) (reason : DropReason) : List Piece :=
  match draft.opener with
  | .arrow =>
    let raw := draft.raw.toList
    .complete ⟨.arrow, String.ofList (Text.trimEndList raw), draft.endToken.tokens⟩ ::
      freePiece (String.ofList (Text.blankTail raw))
  | _ => [.dropped reason draft.raw]

/-- Where in the line the reading stands. -/
inductive State
  /-- Outside every group, after some text that belongs to none. -/
  | outside (text : String)
  | inside (draft : Draft)
  /-- In a literal that ends at the next occurrence of its quote. -/
  | literal (quote : Char) (draft : Draft)
  deriving DecidableEq, Repr

/-- The characters that enclose a literal. -/
def isQuote (c : Char) : Bool := c == '\x27' || c == '"'

/-- The effect of one character inside a group: the pieces it completes and the state after it. -/
def Draft.step (draft : Draft) (c : Char) : List Piece × State :=
  if isQuote c then ([], .literal c (draft.endToken.take c))
  else if draft.opener.closedBy c then
    let last := draft.endToken.skip c
    ([.complete ⟨last.opener, last.raw, last.tokens⟩], .outside "")
  else if Text.isBlank c then ([], .inside (draft.endToken.skip c))
  else
    match Opener.ofChar? c with
    | some opener => (draft.abandon .reopened, .inside (Draft.start opener c))
    | none => ([], .inside (draft.take c))

/-- The effect of one character: the pieces it completes and the state after it. -/
def State.step (state : State) (c : Char) : List Piece × State :=
  match state with
  | .outside text =>
    match Opener.ofChar? c with
    | some opener => (freePiece text, .inside (Draft.start opener c))
    | none => ([], .outside (text.push c))
  | .inside draft => draft.step c
  | .literal quote draft =>
    if c = quote then ([], .inside (draft.take c).endToken) else ([], .literal quote (draft.take c))

/-- The pieces that the end of the line completes. -/
def State.finish : State → List Piece
  | .outside text => freePiece text
  | .inside draft => draft.abandon .unterminated
  | .literal _ draft => [.dropped .unterminated draft.raw]

/-- The pieces of the rest of a line from a state on. -/
def piecesFrom (state : State) : List Char → List Piece
  | [] => state.finish
  | c :: rest => (state.step c).1 ++ piecesFrom (state.step c).2 rest

/-- The pieces of a line, from left to right. -/
def pieces (line : String) : List Piece :=
  piecesFrom (.outside "") line.toList

/-- The complete groups of a line, in order. -/
def groups (line : String) : List Group :=
  (pieces line).filterMap Piece.group?

end BusProbe.Line
