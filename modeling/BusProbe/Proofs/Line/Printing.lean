import BusProbe.Notice
import BusProbe.Proofs.Line.Layout

/-!
# Reading a printed line back

Groups can be printed on a line in many ways: tokens with more or fewer blanks about them, one of
two closers or, for an arrow, none, other text around the closed groups, and unfinished groups
before any other or at the end. However it was printed, the line is read back as the groups that
were printed, and what was left unfinished is dropped, all in the order of the line.

* `Printout` — a way of printing a line.
* `reads_laid` — the inside of a group is read as the tokens that it was laid out from.
* `Printout.piecesFrom_text` — what a printed line is divided into, from any state that can meet it.
* `groups_line` — a printed line is read back.
-/

set_option autoImplicit false
set_option relaxedAutoImplicit false

namespace BusProbe.Line

/-! ### Printed lines -/

/-- The inside of a group as it is printed: tokens, and a text laid out from them. -/
structure Inside (opener : Opener) where
  tokens : List String
  text : List Char
  ended : Bool
  laid : Laid opener tokens text ended

/-- Any tokens of a group can be printed. -/
theorem exists_inside {opener : Opener} {tokens : List String}
    (htokens : ∀ token ∈ tokens, IsToken opener token) :
    ∃ inside : Inside opener, inside.tokens = tokens := by
  obtain ⟨text, hlaid⟩ := Laid.start.exists_append htokens
  exact ⟨⟨tokens, text, false, hlaid⟩, rfl⟩

/-- The printed group with a closer. -/
def Inside.closed {opener : Opener} (inside : Inside opener) (closer : Char) : Group :=
  ⟨opener, String.ofList (opener.char :: (inside.text ++ [closer])), inside.tokens⟩

/-- The printed group of an arrow without a closer. Its text ends before the blanks at the end. -/
def Inside.trimmed (inside : Inside .arrow) : Group :=
  ⟨.arrow, String.ofList (Text.trimEndList (Opener.arrow.char :: inside.text)), inside.tokens⟩

/-- A line as it is printed, from left to right. The flag says whether the line is empty or begins
with an opening character, which is what can follow a group that has no closer. -/
inductive Printout : Bool → Type
  | done : Printout true
  /-- Text outside the groups. -/
  | free {opening : Bool} (text : List Char) (htext : ∀ c ∈ text, c ∉ ['[', '{', '>'])
      (rest : Printout opening) : Printout false
  /-- A group with a closer: a square bracket, or a curly brace where one opens the group. -/
  | closed {opening : Bool} (opener : Opener) (inside : Inside opener) (closer : Char)
      (hcloser : closer = ']' ∨ opener = .brace ∧ closer = '}') (rest : Printout opening) :
      Printout true
  /-- A group of an arrow without a closer. -/
  | arrow (inside : Inside .arrow) (rest : Printout true) : Printout true
  /-- An unfinished group. -/
  | fragment (opener : Opener) (hopener : opener ≠ .arrow) (inside : Inside opener)
      (rest : Printout true) : Printout true

namespace Printout

/-- The characters of a printed line. -/
def text {opening : Bool} : Printout opening → List Char
  | done => []
  | free text _ rest => text ++ rest.text
  | closed opener inside closer _ rest => opener.char :: (inside.text ++ closer :: rest.text)
  | arrow inside rest => Opener.arrow.char :: (inside.text ++ rest.text)
  | fragment opener _ inside rest => opener.char :: (inside.text ++ rest.text)

/-- The line that is printed. -/
def line {opening : Bool} (printout : Printout opening) : String :=
  String.ofList printout.text

/-- The groups that are printed on a line. -/
def groups {opening : Bool} : Printout opening → List Group
  | done => []
  | free _ _ rest => rest.groups
  | closed _ inside closer _ rest => inside.closed closer :: rest.groups
  | arrow inside rest => inside.trimmed :: rest.groups
  | fragment _ _ _ rest => rest.groups

/-- Why an unfinished group that stands before a printed line is dropped. -/
def reason {opening : Bool} : Printout opening → DropReason
  | done => .unterminated
  | _ => .reopened

/-- The pieces of a printed line, without the text outside the groups. -/
def pieces {opening : Bool} : Printout opening → List Piece
  | done => []
  | free _ _ rest => rest.pieces
  | closed _ inside closer _ rest => .complete (inside.closed closer) :: rest.pieces
  | arrow inside rest => .complete inside.trimmed :: rest.pieces
  | fragment opener _ inside rest =>
    .dropped rest.reason (String.ofList (opener.char :: inside.text)) :: rest.pieces

/-- Any groups can be printed. -/
theorem exists_groups_eq {contents : List (Opener × List String)}
    (hcontents : ∀ content ∈ contents, ∀ token ∈ content.2, IsToken content.1 token) :
    ∃ printout : Printout true,
      printout.groups.map (fun group ↦ (group.opener, group.tokens)) = contents := by
  induction contents with
  | nil => exact ⟨done, rfl⟩
  | cons content contents ih =>
    obtain ⟨inside, hinside⟩ := exists_inside (hcontents content List.mem_cons_self)
    obtain ⟨rest, hrest⟩ := ih fun other hmem ↦ hcontents other (List.mem_cons_of_mem content hmem)
    refine ⟨closed content.1 inside ']' (Or.inl rfl) rest, ?_⟩
    rw [groups, List.map_cons, hrest, Inside.closed, hinside]

end Printout

/-- Whether a piece is more than text outside the groups. -/
def isMarked : Piece → Bool
  | .free _ => false
  | _ => true

theorem filter_freePiece (text : String) : (freePiece text).filter isMarked = [] := by
  unfold freePiece
  split
  · rfl
  · rfl

/-! ### Reading without completing -/

/-- From one state a text leads to another, whatever follows, and nothing is completed on the
way. -/
def Reads (state : State) (text : List Char) (next : State) : Prop :=
  ∀ rest, piecesFrom state (text ++ rest) = piecesFrom next rest

theorem reads_nil (state : State) : Reads state [] state :=
  fun _ ↦ rfl

theorem reads_of_step {state next : State} {c : Char} (hstep : state.step c = ([], next)) :
    Reads state [c] next := by
  intro rest
  rw [List.singleton_append, piecesFrom, hstep]
  rfl

theorem Reads.append {first second third : State} {text rest : List Char}
    (hfirst : Reads first text second) (hsecond : Reads second rest third) :
    Reads first (text ++ rest) third := by
  intro later
  rw [List.append_assoc, hfirst, hsecond]

theorem Reads.cons {first second third : State} {c : Char} {rest : List Char}
    (hstep : first.step c = ([], second)) (hsecond : Reads second rest third) :
    Reads first (c :: rest) third :=
  (reads_of_step hstep).append hsecond

/-- Text that opens no group is read over outside the groups. -/
theorem reads_outside {text : List Char} (htext : ∀ c ∈ text, c ∉ ['[', '{', '>'])
    (before : String) : ∃ after, Reads (.outside before) text (.outside after) := by
  induction text generalizing before with
  | nil => exact ⟨before, reads_nil _⟩
  | cons c text ih =>
    have hstep : (State.outside before).step c = ([], .outside (before.push c)) := by
      simp [State.step, ofChar?_eq_none_iff.mpr (htext c List.mem_cons_self)]
    obtain ⟨after, hafter⟩ :=
      ih (fun d hmem ↦ htext d (List.mem_cons_of_mem c hmem)) (before.push c)
    exact ⟨after, hafter.cons hstep⟩

namespace Draft

/-- Takes in some characters of the token at hand. -/
def takeAll (draft : Draft) (text : List Char) : Draft :=
  text.foldl take draft

theorem takeAll_opener (draft : Draft) (text : List Char) :
    (draft.takeAll text).opener = draft.opener := by
  induction text generalizing draft with
  | nil => rfl
  | cons c text ih => exact ih (draft.take c)

theorem takeAll_tokens (draft : Draft) (text : List Char) :
    (draft.takeAll text).tokens = draft.tokens := by
  induction text generalizing draft with
  | nil => rfl
  | cons c text ih => exact ih (draft.take c)

theorem takeAll_raw (draft : Draft) (text : List Char) :
    (draft.takeAll text).raw.toList = draft.raw.toList ++ text := by
  induction text generalizing draft with
  | nil => exact (List.append_nil _).symm
  | cons c text ih =>
    have hnext := ih (draft.take c)
    rw [take, String.toList_push, List.append_assoc] at hnext
    exact hnext

theorem takeAll_word (draft : Draft) (text : List Char) :
    (draft.takeAll text).word.toList = draft.word.toList ++ text := by
  induction text generalizing draft with
  | nil => exact (List.append_nil _).symm
  | cons c text ih =>
    have hnext := ih (draft.take c)
    rw [take, String.toList_push, List.append_assoc] at hnext
    exact hnext

/-- A token that was taken in between two others is the next one. -/
theorem takeAll_endToken_tokens {draft : Draft} (hword : draft.word = "") {token : String}
    (htoken : token ≠ "") :
    (draft.takeAll token.toList).endToken.tokens = draft.tokens ++ [token] := by
  have htaken : (draft.takeAll token.toList).word = token := by
    rw [← String.toList_inj, takeAll_word, hword]
    rfl
  rw [endToken_tokens_of_word_ne (by rwa [htaken]), htaken, takeAll_tokens]

/-- The inside of a literal is taken in as it is. -/
theorem reads_literal {quote : Char} {inside : List Char} (hinside : quote ∉ inside)
    (draft : Draft) :
    Reads (.literal quote draft) inside (.literal quote (draft.takeAll inside)) := by
  induction inside generalizing draft with
  | nil => exact reads_nil _
  | cons c inside ih =>
    have hc : c ≠ quote := fun heq ↦ hinside (heq ▸ List.mem_cons_self)
    have hstep : (State.literal quote draft).step c = ([], .literal quote (draft.take c)) := by
      simp [State.step, hc]
    exact (ih (fun hmem ↦ hinside (List.mem_cons_of_mem c hmem)) (draft.take c)).cons hstep

/-- The characters of a bare word are taken in as they are. -/
theorem reads_word {draft : Draft} {word : List Char}
    (hword : ∀ c ∈ word, isWordChar draft.opener c = true) :
    Reads (.inside draft) word (.inside (draft.takeAll word)) := by
  induction word generalizing draft with
  | nil => exact reads_nil _
  | cons c word ih =>
    have hstep : (State.inside draft).step c = ([], .inside (draft.take c)) :=
      step_of_isWordChar (hword c List.mem_cons_self)
    have hrest : ∀ d ∈ word, isWordChar (draft.take c).opener d = true :=
      fun d hmem ↦ hword d (List.mem_cons_of_mem c hmem)
    exact (ih hrest).cons hstep

/-- A literal ends the word at hand and is the next token. -/
theorem reads_of_isLiteral (draft : Draft) {token : String} (hliteral : IsLiteral token) :
    Reads (.inside draft) token.toList
      (.inside (draft.endToken.takeAll token.toList).endToken) := by
  obtain ⟨quote, inside, hquote, hinside, htoken⟩ := hliteral
  rw [htoken]
  have hopen : (State.inside draft).step quote = ([], .literal quote (draft.endToken.take quote)) :=
    draft.step_of_isQuote (isQuote_iff.mpr hquote)
  have hclose : (State.literal quote ((draft.endToken.take quote).takeAll inside)).step quote =
      ([], .inside (draft.endToken.takeAll (quote :: (inside ++ [quote]))).endToken) := by
    simp [State.step, takeAll]
  exact ((reads_literal hinside _).append (reads_of_step hclose)).cons hopen

/-- A draft has read a group up to some text of its inside, which is laid out from tokens. -/
structure HasRead (draft : Draft) (opener : Opener) (tokens : List String) (text : List Char) :
    Prop where
  opener_eq : draft.opener = opener
  raw_eq : draft.raw.toList = opener.char :: text
  tokens_eq : draft.endToken.tokens = tokens

/-- A laid out text is read within its group. Where it does not end in a bare word, the draft that
it leaves stands between two tokens. -/
theorem reads_laid {opener : Opener} {tokens : List String} {text : List Char} {ended : Bool}
    (hlaid : Laid opener tokens text ended) :
    ∃ draft : Draft, Reads (.inside (start opener opener.char)) text (.inside draft) ∧
      draft.HasRead opener tokens text ∧ (ended = false → draft.word = "") := by
  induction hlaid with
  | start =>
    refine ⟨start opener opener.char, reads_nil _, ⟨rfl, ?_, rfl⟩, fun _ ↦ rfl⟩
    simp [start]
  | @blank tokens text ended c hlaid hblank ih =>
    obtain ⟨draft, hreads, hread, -⟩ := ih
    have hstep : (State.inside draft).step c = ([], .inside (draft.endToken.skip c)) :=
      draft.step_of_isBlank hblank
    have hword : (draft.endToken.skip c).word = "" := draft.endToken_word
    refine ⟨draft.endToken.skip c, hreads.append (reads_of_step hstep), ⟨?_, ?_, ?_⟩,
      fun _ ↦ hword⟩
    · exact draft.endToken_opener.trans hread.opener_eq
    · simp [skip, hread.raw_eq]
    · rw [endToken_of_word_eq hword]
      exact hread.tokens_eq
  | @literal tokens text ended token hlaid hliteral ih =>
    obtain ⟨draft, hreads, hread, -⟩ := ih
    have htoken : token ≠ "" := by
      obtain ⟨quote, inside, -, -, htoken⟩ := hliteral
      intro hempty
      rw [hempty] at htoken
      exact List.cons_ne_nil _ _ htoken.symm
    refine ⟨(draft.endToken.takeAll token.toList).endToken,
      hreads.append (draft.reads_of_isLiteral hliteral), ⟨?_, ?_, ?_⟩, fun _ ↦ endToken_word _⟩
    · rw [endToken_opener, takeAll_opener, endToken_opener, hread.opener_eq]
    · rw [endToken_raw, takeAll_raw, endToken_raw, hread.raw_eq, List.cons_append]
    · rw [endToken_of_word_eq (endToken_word _),
        takeAll_endToken_tokens draft.endToken_word htoken, hread.tokens_eq]
  | @word tokens text token hlaid hword ih =>
    obtain ⟨draft, hreads, hread, hbetween⟩ := ih
    have hempty : draft.word = "" := hbetween rfl
    have hchars : ∀ c ∈ token.toList, isWordChar draft.opener c = true := by
      rw [hread.opener_eq]
      exact hword.2
    refine ⟨draft.takeAll token.toList, hreads.append (reads_word hchars), ⟨?_, ?_, ?_⟩,
      fun hended ↦ absurd hended.symm Bool.false_ne_true⟩
    · rw [takeAll_opener, hread.opener_eq]
    · rw [takeAll_raw, hread.raw_eq, List.cons_append]
    · rw [takeAll_endToken_tokens hempty hword.1, ← hread.tokens_eq, endToken_of_word_eq hempty]

/-- A closer completes the printed group. -/
theorem HasRead.step_closer {draft : Draft} {opener : Opener} {inside : Inside opener}
    (hread : draft.HasRead opener inside.tokens inside.text) {closer : Char}
    (hcloser : closer = ']' ∨ opener = .brace ∧ closer = '}') :
    draft.step closer = ([.complete (inside.closed closer)], .outside "") := by
  have hclosedBy : draft.opener.closedBy closer = true := by
    rw [hread.opener_eq]
    exact closedBy_iff.mpr hcloser
  have hraw : draft.raw.push closer =
      String.ofList (opener.char :: (inside.text ++ [closer])) := by
    rw [← String.toList_inj, String.toList_push, hread.raw_eq, String.toList_ofList]
    rfl
  rw [step_of_closedBy hclosedBy, hread.opener_eq, hread.tokens_eq, hraw]
  rfl

/-- The text of an arrow without a closer is the printed group and, after it, blanks. -/
theorem HasRead.abandon_arrow {draft : Draft} {inside : Inside .arrow}
    (hread : draft.HasRead .arrow inside.tokens inside.text) (reason : DropReason) :
    (draft.abandon reason).filter isMarked = [.complete inside.trimmed] := by
  have habandon : draft.abandon reason =
      .complete inside.trimmed :: freePiece (String.ofList (Text.blankTail draft.raw.toList)) := by
    rw [abandon_of_arrow hread.opener_eq, hread.tokens_eq, hread.raw_eq]
    rfl
  rw [habandon, List.filter_cons_of_pos rfl, filter_freePiece]

/-- The text of an unfinished group is dropped. -/
theorem HasRead.abandon_fragment {draft : Draft} {opener : Opener} {inside : Inside opener}
    (hread : draft.HasRead opener inside.tokens inside.text) (hopener : opener ≠ .arrow)
    (reason : DropReason) :
    (draft.abandon reason).filter isMarked =
      [.dropped reason (String.ofList (opener.char :: inside.text))] := by
  have harrow : draft.opener ≠ .arrow := by
    rw [hread.opener_eq]
    exact hopener
  rw [abandon_of_ne_arrow harrow, ← hread.raw_eq, String.ofList_toList]
  rfl

end Draft

/-! ### Reading a printed line -/

/-- What a state leaves where a group is opened or the line ends. -/
def State.leave (reason : DropReason) : State → List Piece
  | .outside text => freePiece text
  | .inside draft => draft.abandon reason
  | .literal _ draft => [.dropped reason draft.raw]

/-- Whether a state can meet a printed line, which has to begin with an opening character or be
empty where the state is inside a group. -/
def State.CanMeet (opening : Bool) : State → Prop
  | .outside _ => True
  | .inside _ => opening = true
  | .literal _ _ => False

namespace Printout

/-- An opening character is met with what the state leaves there. -/
theorem piecesFrom_char {state : State} {opening : Bool} (hstate : state.CanMeet opening)
    (opener : Opener) (rest : List Char) :
    piecesFrom state (opener.char :: rest) =
      state.leave .reopened ++ piecesFrom (.inside (Draft.start opener opener.char)) rest := by
  have hstep : state.step opener.char =
      (state.leave .reopened, .inside (Draft.start opener opener.char)) := by
    cases state with
    | outside before => simp [State.step, State.leave, Opener.ofChar?_char]
    | inside draft => exact draft.step_char opener
    | literal quote draft => exact hstate.elim
  rw [piecesFrom, hstep]

/-- A group that is read from its opening character on, after what the state leaves there. -/
theorem piecesFrom_inside {state : State} {opening : Bool} (hstate : state.CanMeet opening)
    {opener : Opener} (inside : Inside opener) :
    ∃ draft : Draft, draft.HasRead opener inside.tokens inside.text ∧
      ∀ rest, piecesFrom state (opener.char :: (inside.text ++ rest)) =
        state.leave .reopened ++ piecesFrom (.inside draft) rest := by
  obtain ⟨draft, hreads, hread, -⟩ := Draft.reads_laid inside.laid
  refine ⟨draft, hread, fun rest ↦ ?_⟩
  rw [piecesFrom_char hstate, hreads]

/-- A printed line is divided into what the state leaves where it meets the line, and the pieces
that were printed, with text outside the groups in between. -/
theorem piecesFrom_text {opening : Bool} (printout : Printout opening) {state : State}
    (hstate : state.CanMeet opening) :
    (piecesFrom state printout.text).filter isMarked =
      (state.leave printout.reason).filter isMarked ++ printout.pieces := by
  induction printout generalizing state with
  | done =>
    cases state with
    | outside before => exact (List.append_nil _).symm
    | inside draft => exact (List.append_nil _).symm
    | literal quote draft => exact hstate.elim
  | free text htext rest ih =>
    cases state with
    | outside before =>
      obtain ⟨after, hreads⟩ := reads_outside htext before
      have hrest : (piecesFrom (.outside after) rest.text).filter isMarked =
          (freePiece after).filter isMarked ++ rest.pieces := ih trivial
      rw [filter_freePiece] at hrest
      rw [Printout.text, hreads, hrest, State.leave, filter_freePiece]
      rfl
    | inside draft => exact absurd hstate Bool.false_ne_true
    | literal quote draft => exact hstate.elim
  | closed opener inside closer hcloser rest ih =>
    obtain ⟨draft, hread, hpieces⟩ := piecesFrom_inside hstate inside
    have hclose : piecesFrom (.inside draft) (closer :: rest.text) =
        .complete (inside.closed closer) :: piecesFrom (.outside "") rest.text := by
      rw [piecesFrom, State.step, hread.step_closer hcloser]
      rfl
    have hrest : (piecesFrom (.outside "") rest.text).filter isMarked =
        (freePiece "").filter isMarked ++ rest.pieces := ih trivial
    rw [filter_freePiece] at hrest
    rw [text, hpieces, hclose, List.filter_append, List.filter_cons_of_pos rfl, hrest]
    rfl
  | arrow inside rest ih =>
    obtain ⟨draft, hread, hpieces⟩ := piecesFrom_inside hstate inside
    have hrest : (piecesFrom (.inside draft) rest.text).filter isMarked =
        (draft.abandon rest.reason).filter isMarked ++ rest.pieces := ih rfl
    rw [hread.abandon_arrow] at hrest
    rw [text, hpieces, List.filter_append, hrest]
    rfl
  | fragment opener hopener inside rest ih =>
    obtain ⟨draft, hread, hpieces⟩ := piecesFrom_inside hstate inside
    have hrest : (piecesFrom (.inside draft) rest.text).filter isMarked =
        (draft.abandon rest.reason).filter isMarked ++ rest.pieces := ih rfl
    rw [hread.abandon_fragment hopener] at hrest
    rw [text, hpieces, List.filter_append, hrest]
    rfl

theorem filterMap_pieces {opening : Bool} (printout : Printout opening) :
    printout.pieces.filterMap Piece.group? = printout.groups := by
  induction printout with
  | done => rfl
  | free text htext rest ih => exact ih
  | closed opener inside closer hcloser rest ih => exact congrArg (List.cons _) ih
  | arrow inside rest ih => exact congrArg (List.cons _) ih
  | fragment opener hopener inside rest ih => exact ih

end Printout

/-- Text outside the groups does not count where nothing is taken from it. -/
theorem filterMap_filter_isMarked {α : Type} {f : Piece → Option α}
    (hf : ∀ text, f (.free text) = none) (pieces : List Piece) :
    (pieces.filter isMarked).filterMap f = pieces.filterMap f := by
  have hsame : (fun piece ↦ if isMarked piece then f piece else none) = f := by
    funext piece
    cases piece with
    | free text => exact (hf text).symm
    | complete group => rfl
    | dropped reason text => rfl
  rw [List.filterMap_filter, hsame]

/-- A printed line is read back. Its groups are those that were printed, with their kinds, tokens
and texts, and its notices are those of the unfinished groups. Aside from text outside the groups
the line is divided into the two, in the order in which they were printed. -/
theorem groups_line {opening : Bool} (printout : Printout opening) :
    groups printout.line = printout.groups ∧
      Notice.ofLine printout.line = printout.pieces.filterMap Notice.ofPiece? ∧
      (pieces printout.line).filter isMarked = printout.pieces := by
  have hpieces : (pieces printout.line).filter isMarked = printout.pieces := by
    have hmeet : (State.outside "").CanMeet opening := trivial
    have htext := printout.piecesFrom_text hmeet
    rw [State.leave, filter_freePiece] at htext
    rw [pieces, Printout.line, String.toList_ofList, htext]
    rfl
  refine ⟨?_, ?_, hpieces⟩
  · rw [groups, ← filterMap_filter_isMarked (fun _ ↦ rfl), hpieces, printout.filterMap_pieces]
  · rw [Notice.ofLine, ← filterMap_filter_isMarked (fun _ ↦ rfl), hpieces]

example : groups "a[ 1 'x'2]>y z \x7bw [v" =
    [⟨.bracket, "[ 1 'x'2]", ["1", "'x'", "2"]⟩, ⟨.arrow, ">y z", ["y", "z"]⟩] := by
  decide

end BusProbe.Line
