import BusProbe.Line.Operations
import BusProbe.Proofs.Line.Rereading
import BusProbe.Proofs.Line.Appending

/-!
# Readings that mean the same

The operations of a group are known from its kind and from what its tokens stand for
(`Group.operations_eq`). So two drafts of one kind that have the same word at hand, and whose
finished tokens stand for the same, need not be told apart: whatever text follows, it completes
groups of the same operations from both (`State.MeansSame.piecesFrom`).
-/

set_option autoImplicit false
set_option relaxedAutoImplicit false

namespace BusProbe

/-! ### The operations of a group -/

namespace Group

/-- The operations of a group without those that frame it. -/
def body (group : Group) : List Operation :=
  match group.opener with
  | .bracket => group.operations.tail.dropLast
  | _ => group.operations

theorem body_eq (group : Group) : group.body = tokenOperations group.tokens := by
  obtain ⟨opener, raw, tokens⟩ := group
  cases opener with
  | bracket => exact List.dropLast_concat
  | brace => rfl
  | arrow => rfl

/-- The operations of a group are known from its kind and from what its tokens stand for. -/
theorem operations_eq {opener : Opener} {tokens tokens' : List String} (raw raw' : String)
    (htokens : tokenOperations tokens = tokenOperations tokens') :
    (Group.mk opener raw tokens).operations = (Group.mk opener raw' tokens').operations := by
  cases opener with
  | bracket =>
    exact congrArg (fun body ↦ Operation.ofKind .start :: (body ++ [Operation.ofKind .stop]))
      htokens
  | brace => exact htokens
  | arrow => exact htokens

end Group

namespace Line

/-- The operations of the groups among some pieces. -/
def pieceOperations (pieces : List Piece) : List (List Operation) :=
  (pieces.filterMap Piece.group?).map Group.operations

theorem pieceOperations_append (first second : List Piece) :
    pieceOperations (first ++ second) = pieceOperations first ++ pieceOperations second := by
  rw [pieceOperations, List.filterMap_append, List.map_append]
  rfl

theorem pieceOperations_complete (group : Group) (rest : List Piece) :
    pieceOperations (.complete group :: rest) = group.operations :: pieceOperations rest := rfl

theorem pieceOperations_freePiece (text : String) : pieceOperations (freePiece text) = [] := by
  rw [pieceOperations, filterMap_group?_freePiece, List.map_nil]

/-! ### Readings that mean the same -/

/-- Two drafts mean the same: they are of one kind, have the same word at hand, and their finished
tokens stand for the same operations. -/
structure Draft.MeansSame (draft other : Draft) : Prop where
  opener_eq : draft.opener = other.opener
  word_eq : draft.word = other.word
  operations_eq : tokenOperations draft.tokens = tokenOperations other.tokens

/-- Two states mean the same: they are outside the groups, or in the same place of drafts that mean
the same. -/
inductive State.MeansSame : State → State → Prop
  | outside (text other : String) : MeansSame (.outside text) (.outside other)
  | inside {draft other : Draft} (hsame : draft.MeansSame other) :
      MeansSame (.inside draft) (.inside other)
  | literal (quote : Char) {draft other : Draft} (hsame : draft.MeansSame other) :
      MeansSame (.literal quote draft) (.literal quote other)

/-- Between two tokens, drafts mean the same if the tokens that they have read stand for the
same. -/
theorem Draft.HasRead.meansSame {opener : Opener} {tokens tokens' : List String}
    {text text' : List Char} {draft other : Draft} (hread : draft.HasRead opener tokens text)
    (hread' : other.HasRead opener tokens' text')
    (htokens : tokenOperations tokens = tokenOperations tokens') :
    draft.endToken.MeansSame other.endToken where
  opener_eq := by
    rw [endToken_opener, endToken_opener, hread.opener_eq, hread'.opener_eq]
  word_eq := by
    rw [endToken_word, endToken_word]
  operations_eq := by
    rw [hread.tokens_eq, hread'.tokens_eq, htokens]

namespace Draft.MeansSame

variable {draft other : Draft}

theorem endToken (hsame : draft.MeansSame other) : draft.endToken.MeansSame other.endToken := by
  refine ⟨?_, ?_, ?_⟩
  · rw [endToken_opener, endToken_opener, hsame.opener_eq]
  · rw [endToken_word, endToken_word]
  · by_cases hword : draft.word = ""
    · have hword' : other.word = "" := hsame.word_eq.symm.trans hword
      rw [endToken_of_word_eq hword, endToken_of_word_eq hword', hsame.operations_eq]
    · have hword' : other.word ≠ "" := fun hempty ↦ hword (hsame.word_eq.trans hempty)
      rw [endToken_tokens_of_word_ne hword, endToken_tokens_of_word_ne hword',
        tokenOperations_append, tokenOperations_append, hsame.operations_eq, hsame.word_eq]

theorem take (hsame : draft.MeansSame other) (c : Char) : (draft.take c).MeansSame (other.take c) :=
  ⟨hsame.opener_eq, congrArg (String.push · c) hsame.word_eq, hsame.operations_eq⟩

theorem skip (hsame : draft.MeansSame other) (c : Char) : (draft.skip c).MeansSame (other.skip c) :=
  ⟨hsame.opener_eq, hsame.word_eq, hsame.operations_eq⟩

/-- Where no closer can come any more, the two leave groups of the same operations. -/
theorem abandon (hsame : draft.MeansSame other) (reason : DropReason) :
    pieceOperations (draft.abandon reason) = pieceOperations (other.abandon reason) := by
  by_cases harrow : draft.opener = .arrow
  · have harrow' : other.opener = .arrow := hsame.opener_eq.symm.trans harrow
    rw [abandon_of_arrow harrow, abandon_of_arrow harrow', pieceOperations_complete,
      pieceOperations_complete, pieceOperations_freePiece, pieceOperations_freePiece]
    exact congrArg (fun ops ↦ [ops]) (Group.operations_eq _ _ hsame.endToken.operations_eq)
  · have harrow' : other.opener ≠ .arrow := fun heq ↦ harrow (hsame.opener_eq.trans heq)
    rw [abandon_of_ne_arrow harrow, abandon_of_ne_arrow harrow']
    rfl

/-- One character completes groups of the same operations and leads to states that mean the same. -/
theorem step (hsame : draft.MeansSame other) (c : Char) :
    pieceOperations (draft.step c).1 = pieceOperations (other.step c).1 ∧
      (draft.step c).2.MeansSame (other.step c).2 := by
  rcases draft.step_cases c with ⟨hquote, hstep⟩ | ⟨hcloser, hstep⟩ | ⟨hblank, hstep⟩ |
    ⟨opener, rfl, hstep⟩ | ⟨hword, hstep⟩
  · rw [hstep, other.step_of_isQuote hquote]
    exact ⟨rfl, .literal c (hsame.endToken.take c)⟩
  · have hcloser' : other.opener.closedBy c = true := hsame.opener_eq ▸ hcloser
    rw [hstep, step_of_closedBy hcloser', hsame.opener_eq]
    exact ⟨congrArg (fun ops ↦ [ops]) (Group.operations_eq _ _ hsame.endToken.operations_eq),
      .outside "" ""⟩
  · rw [hstep, other.step_of_isBlank hblank]
    exact ⟨rfl, .inside (hsame.endToken.skip c)⟩
  · rw [hstep, other.step_char opener]
    exact ⟨hsame.abandon .reopened, .inside ⟨rfl, rfl, rfl⟩⟩
  · have hword' : isWordChar other.opener c = true := hsame.opener_eq ▸ hword
    rw [hstep, step_of_isWordChar hword']
    exact ⟨rfl, .inside (hsame.take c)⟩

end Draft.MeansSame

namespace State.MeansSame

variable {state other : State}

theorem step (hsame : state.MeansSame other) (c : Char) :
    pieceOperations (state.step c).1 = pieceOperations (other.step c).1 ∧
      (state.step c).2.MeansSame (other.step c).2 := by
  cases hsame with
  | outside text more =>
    rw [State.step, State.step]
    cases Opener.ofChar? c with
    | some opener =>
      exact ⟨(pieceOperations_freePiece text).trans (pieceOperations_freePiece more).symm,
        .inside ⟨rfl, rfl, rfl⟩⟩
    | none => exact ⟨rfl, .outside _ _⟩
  | inside hsame => exact hsame.step c
  | literal quote hsame =>
    rw [State.step, State.step]
    by_cases hc : c = quote
    · rw [if_pos hc, if_pos hc]
      exact ⟨rfl, .inside (hsame.take c).endToken⟩
    · rw [if_neg hc, if_neg hc]
      exact ⟨rfl, .literal quote (hsame.take c)⟩

theorem finish (hsame : state.MeansSame other) :
    pieceOperations state.finish = pieceOperations other.finish := by
  cases hsame with
  | outside text more =>
    exact (pieceOperations_freePiece text).trans (pieceOperations_freePiece more).symm
  | inside hsame => exact hsame.abandon .unterminated
  | literal quote hsame => rfl

/-- From states that mean the same, a text is divided into groups of the same operations. -/
theorem piecesFrom (hsame : state.MeansSame other) (rest : List Char) :
    pieceOperations (piecesFrom state rest) = pieceOperations (piecesFrom other rest) := by
  induction rest generalizing state other with
  | nil => exact hsame.finish
  | cons c rest ih =>
    obtain ⟨hdone, hnext⟩ := hsame.step c
    rw [Line.piecesFrom, Line.piecesFrom, pieceOperations_append, pieceOperations_append, hdone,
      ih hnext]

end State.MeansSame

end Line

end BusProbe
