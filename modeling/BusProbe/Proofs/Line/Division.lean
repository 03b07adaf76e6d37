import BusProbe.Notice
import BusProbe.Proofs.Line.Layout

/-!
# The division of a line

A line is divided without loss: its pieces, put together, are the line, and each of them is what it
is called. Text outside the groups opens none. A complete group is its opening character, a layout
of its tokens and its closer. A group is opened only by the first character of a piece, unless the
opening character is within a quoted literal.

* `OpensOnce` — a text opens a group at its beginning and nowhere else.
* `Piece.Sound`, `State.Sound` — what is true of a piece and of the state between two characters.
* `State.step_sound` — one character keeps the state sound and completes only sound pieces.
* `pieces_sound` — the division of a line.
-/

set_option autoImplicit false
set_option relaxedAutoImplicit false

namespace BusProbe

namespace Line

/-! ### Quoting within a group -/

/-- The quote of the literal that is open after a character, if one is. -/
def quoteAfter : Option Char → Char → Option Char
  | none, c => if c = '\x27' ∨ c = '"' then some c else none
  | some quote, c => if c = quote then none else some quote

/-- The quote of the literal that a text from the beginning of a group leaves open, if one is. -/
def openQuote (text : List Char) : Option Char :=
  text.foldl quoteAfter none

/-- A text begins with the opening character of a group, and every later opening character in it is
within a literal. -/
structure OpensOnce (text : List Char) : Prop where
  opens : ∃ opener rest, text = Opener.char opener :: rest
  quoted : ∀ before c after, text = before ++ c :: after → c ∈ ['[', '{', '>'] →
    before = [] ∨ (openQuote before).isSome

theorem openQuote_append (text : List Char) (c : Char) :
    openQuote (text ++ [c]) = quoteAfter (openQuote text) c := by
  rw [openQuote, List.foldl_append]
  rfl

theorem opensOnce_singleton (opener : Opener) : OpensOnce [opener.char] where
  opens := ⟨opener, [], rfl⟩
  quoted := by
    intro before c after htext _
    cases before with
    | nil => exact Or.inl rfl
    | cons head tail => simp at htext

/-- Where a literal is open, or by a character that opens no group, a text may be continued. -/
theorem OpensOnce.append {text : List Char} (honce : OpensOnce text) {c : Char}
    (hc : c ∉ ['[', '{', '>'] ∨ (openQuote text).isSome) : OpensOnce (text ++ [c]) where
  opens := by
    obtain ⟨opener, rest, rfl⟩ := honce.opens
    exact ⟨opener, rest ++ [c], rfl⟩
  quoted := by
    intro before d after htext hopener
    rcases List.eq_nil_or_concat after with rfl | ⟨inside, last, rfl⟩
    · obtain ⟨rfl, hd⟩ := List.append_inj' htext rfl
      cases hd
      rcases hc with hnone | hquote
      · exact absurd hopener hnone
      · exact Or.inr hquote
    · rw [List.concat_eq_append, ← List.cons_append, ← List.append_assoc] at htext
      exact honce.quoted before d inside (List.append_inj' htext rfl).1 hopener

/-- The beginning of a text opens no more groups than the text. -/
theorem OpensOnce.left {opener : Opener} {text rest : List Char}
    (honce : OpensOnce (opener.char :: text ++ rest)) : OpensOnce (opener.char :: text) where
  opens := ⟨opener, text, rfl⟩
  quoted := by
    intro before c after htext
    exact honce.quoted before c (after ++ rest) (by rw [htext]; simp)

end Line

/-! ### Sound pieces -/

open Line

/-- A complete group is its opening character, a layout of its tokens and its closer: a square
bracket, or a curly brace where one opened the group, or nothing for an arrow. -/
def Group.Sound (group : Group) : Prop :=
  ∃ body ended closer, group.raw.toList = group.opener.char :: (body ++ closer) ∧
    Laid group.opener group.tokens body ended ∧
    (closer = [] ∧ group.opener = .arrow ∨
      ∃ c, closer = [c] ∧ (c = ']' ∨ group.opener = .brace ∧ c = '}'))

/-- A piece is what it is called. -/
def Piece.Sound : Piece → Prop
  | .free text => ∀ c ∈ text.toList, c ∉ ['[', '{', '>']
  | .complete group => group.Sound ∧ OpensOnce group.raw.toList
  | .dropped _ text => OpensOnce text.toList

namespace Line

/-- The characters of some pieces, one piece after the other. -/
def joined (pieces : List Piece) : List Char :=
  pieces.flatMap fun piece ↦ piece.text.toList

/-- Some pieces divide a text: each is sound, and one after the other they are the text. -/
structure Divide (pieces : List Piece) (text : List Char) : Prop where
  sound : ∀ piece ∈ pieces, piece.Sound
  joined_eq : joined pieces = text

theorem divide_nil : Divide [] [] where
  sound := fun _ hmem ↦ absurd hmem List.not_mem_nil
  joined_eq := rfl

theorem divide_singleton {piece : Piece} (hpiece : piece.Sound) :
    Divide [piece] piece.text.toList where
  sound := by
    intro other hmem
    rw [List.mem_singleton.mp hmem]
    exact hpiece
  joined_eq := List.flatMap_singleton _ _

theorem Divide.append {first second : List Piece} {text rest : List Char}
    (hfirst : Divide first text) (hsecond : Divide second rest) :
    Divide (first ++ second) (text ++ rest) where
  sound := by
    intro piece hmem
    rcases List.mem_append.mp hmem with hmem | hmem
    · exact hfirst.sound piece hmem
    · exact hsecond.sound piece hmem
  joined_eq := by
    rw [← hfirst.joined_eq, ← hsecond.joined_eq]
    exact List.flatMap_append

theorem freePiece_divide (text : String) (htext : ∀ c ∈ text.toList, c ∉ ['[', '{', '>']) :
    Divide (freePiece text) text.toList := by
  unfold freePiece
  split
  · rename_i hempty
    rw [String.isEmpty_iff.mp hempty]
    exact divide_nil
  · exact divide_singleton htext

/-! ### Sound states -/

/-- A draft between tokens or in a bare word: its text is the opening character, a layout of its
finished tokens that ends in no bare word, and the word at hand. -/
def Draft.InText (draft : Draft) : Prop :=
  ∃ text, Laid draft.opener draft.tokens text false ∧
    draft.raw.toList = draft.opener.char :: (text ++ draft.word.toList) ∧
    ∀ c ∈ draft.word.toList, isWordChar draft.opener c = true

/-- A draft in a literal that began with a quote. -/
def Draft.InLiteral (quote : Char) (draft : Draft) : Prop :=
  ∃ text ended inside, Laid draft.opener draft.tokens text ended ∧
    draft.raw.toList = draft.opener.char :: (text ++ draft.word.toList) ∧
    isQuote quote = true ∧ draft.word.toList = quote :: inside ∧ quote ∉ inside

/-- What is true of every state that a line can lead to. -/
def State.Sound : State → Prop
  | .outside text => ∀ c ∈ text.toList, c ∉ ['[', '{', '>']
  | .inside draft =>
    draft.InText ∧ OpensOnce draft.raw.toList ∧ openQuote draft.raw.toList = none
  | .literal quote draft =>
    draft.InLiteral quote ∧ OpensOnce draft.raw.toList ∧ openQuote draft.raw.toList = some quote

/-- The text that a state carries. -/
def State.text : State → List Char
  | .outside text => text.toList
  | .inside draft | .literal _ draft => draft.raw.toList

namespace Draft

/-- A draft between tokens is its opening character and a layout. -/
theorem inText_of_word_eq {draft : Draft} (text : List Char)
    (hlaid : Laid draft.opener draft.tokens text false)
    (hraw : draft.raw.toList = draft.opener.char :: text) (hword : draft.word = "") :
    draft.InText := by
  refine ⟨text, hlaid, ?_, ?_⟩
  · rw [hraw, hword, String.toList_empty, List.append_nil]
  · rw [hword]
    exact fun c hmem ↦ absurd hmem List.not_mem_nil

/-- The word at hand is the last token of a layout of all the text. -/
theorem InText.endToken {draft : Draft} (hdraft : draft.InText) :
    ∃ text ended, Laid draft.opener draft.endToken.tokens text ended ∧
      draft.raw.toList = draft.opener.char :: text := by
  obtain ⟨text, hlaid, hraw, hchars⟩ := hdraft
  by_cases hword : draft.word = ""
  · refine ⟨text, false, ?_, ?_⟩
    · rw [endToken_of_word_eq hword]
      exact hlaid
    · rw [hraw, hword, String.toList_empty, List.append_nil]
  · refine ⟨text ++ draft.word.toList, true, ?_, hraw⟩
    rw [endToken_tokens_of_word_ne hword]
    exact hlaid.word ⟨hword, hchars⟩

theorem start_text (opener : Opener) :
    (State.inside (start opener opener.char)).text = [opener.char] := by
  simp [State.text, start]

/-- The draft of a group of which only the opening character was read. -/
theorem start_sound (opener : Opener) : (State.inside (start opener opener.char)).Sound := by
  have hraw : (start opener opener.char).raw.toList = [opener.char] := start_text opener
  refine ⟨inText_of_word_eq [] Laid.start hraw rfl, ?_, ?_⟩
  · rw [hraw]
    exact opensOnce_singleton opener
  · rw [hraw]
    cases opener <;> rfl

/-- A quote ends the word at hand and begins a literal. -/
theorem InText.quote {draft : Draft} (hdraft : draft.InText) {c : Char}
    (hquote : isQuote c = true) : (draft.endToken.take c).InLiteral c := by
  obtain ⟨text, ended, hlaid, hraw⟩ := hdraft.endToken
  refine ⟨text, ended, [], ?_, ?_, hquote, ?_, List.not_mem_nil⟩
  · simpa [Draft.take] using hlaid
  · simp [Draft.take, hraw]
  · simp [Draft.take]

/-- A blank ends the word at hand. -/
theorem InText.blank {draft : Draft} (hdraft : draft.InText) {c : Char}
    (hblank : Text.isBlank c = true) : (draft.endToken.skip c).InText := by
  obtain ⟨text, ended, hlaid, hraw⟩ := hdraft.endToken
  have hblanked : Laid draft.opener draft.endToken.tokens (text ++ [c]) false := hlaid.blank hblank
  refine inText_of_word_eq (text ++ [c]) ?_ ?_ ?_
  · simpa [skip] using hblanked
  · simp [skip, hraw]
  · simp [skip]

/-- A character of a word goes on with the word at hand. -/
theorem InText.word {draft : Draft} (hdraft : draft.InText) {c : Char}
    (hc : isWordChar draft.opener c = true) : (draft.take c).InText := by
  obtain ⟨text, hlaid, hraw, hchars⟩ := hdraft
  refine ⟨text, hlaid, ?_, ?_⟩
  · simp [take, hraw]
  · intro d hmem
    simp only [take, String.toList_push, List.mem_append, List.mem_singleton] at hmem
    rcases hmem with hmem | rfl
    · exact hchars d hmem
    · exact hc

/-- A closer ends the word at hand and the group. -/
theorem InText.close {draft : Draft} (hdraft : draft.InText) {c : Char}
    (hcloser : draft.opener.closedBy c = true) :
    Group.Sound ⟨draft.opener, draft.raw.push c, draft.endToken.tokens⟩ := by
  obtain ⟨text, ended, hlaid, hraw⟩ := hdraft.endToken
  refine ⟨text, ended, [c], ?_, hlaid, Or.inr ⟨c, rfl, closedBy_iff.mp hcloser⟩⟩
  simp [hraw]

/-- The quote that began a literal ends it. -/
theorem InLiteral.close {draft : Draft} {quote : Char} (hdraft : draft.InLiteral quote) :
    (draft.take quote).endToken.InText := by
  obtain ⟨text, ended, inside, hlaid, hraw, hquote, hword, hinside⟩ := hdraft
  have hliteral : IsLiteral (draft.word.push quote) :=
    ⟨quote, inside, isQuote_iff.mp hquote, hinside, by simp [hword]⟩
  have htokens : (draft.take quote).endToken.tokens = draft.tokens ++ [draft.word.push quote] :=
    endToken_tokens_of_word_ne String.push_ne_empty
  have hclosed : Laid draft.opener (draft.tokens ++ [draft.word.push quote])
      (text ++ (draft.word.push quote).toList) false := hlaid.literal hliteral
  refine inText_of_word_eq (text ++ (draft.word.push quote).toList) ?_ ?_ ?_
  · rw [htokens]
    simpa [take] using hclosed
  · simp [take, hraw]
  · simp

/-- Every other character goes on with the literal. -/
theorem InLiteral.take {draft : Draft} {quote c : Char} (hdraft : draft.InLiteral quote)
    (hc : c ≠ quote) : (draft.take c).InLiteral quote := by
  obtain ⟨text, ended, inside, hlaid, hraw, hquote, hword, hinside⟩ := hdraft
  refine ⟨text, ended, inside ++ [c], hlaid, ?_, hquote, ?_, ?_⟩
  · simp [Draft.take, hraw]
  · simp [Draft.take, hword]
  · intro hmem
    rcases List.mem_append.mp hmem with hmem | hmem
    · exact hinside hmem
    · exact hc (List.mem_singleton.mp hmem).symm

/-- The pieces that a draft leaves when no closer can come any more divide its text. -/
theorem abandon_divide {draft : Draft} (hdraft : draft.InText) (honce : OpensOnce draft.raw.toList)
    (reason : DropReason) : Divide (draft.abandon reason) draft.raw.toList := by
  obtain ⟨text, ended, hlaid, hraw⟩ := hdraft.endToken
  unfold abandon
  split
  · rename_i harrow
    rw [harrow] at hlaid hraw
    obtain ⟨trimmedEnded, htrimmed⟩ := hlaid.trimEnd
    have htrim : Text.trimEndList draft.raw.toList =
        Opener.arrow.char :: Text.trimEndList text := by
      rw [hraw]
      exact trimEndList_cons (isBlank_char .arrow) text
    have hsplit : Opener.arrow.char :: Text.trimEndList text ++ Text.blankTail draft.raw.toList =
        draft.raw.toList := by
      rw [← htrim]
      exact Text.trimEndList_append draft.raw.toList
    have hgroup : Piece.Sound (.complete ⟨.arrow, String.ofList (Text.trimEndList draft.raw.toList),
        draft.endToken.tokens⟩) := by
      refine ⟨⟨Text.trimEndList text, trimmedEnded, [], ?_, htrimmed, Or.inl ⟨rfl, rfl⟩⟩, ?_⟩
      · rw [String.toList_ofList, htrim, List.append_nil]
      · rw [String.toList_ofList, htrim]
        rw [← hsplit] at honce
        exact honce.left
    have htail : ∀ c ∈ Text.blankTail draft.raw.toList, c ∉ ['[', '{', '>'] :=
      fun c hmem ↦ notMem_openers_of_isBlank (isBlank_of_mem_blankTail hmem)
    have hdivide := (divide_singleton hgroup).append
      (freePiece_divide (String.ofList (Text.blankTail draft.raw.toList))
        (by rwa [String.toList_ofList]))
    rw [List.singleton_append, Piece.text, String.toList_ofList, String.toList_ofList,
      Text.trimEndList_append] at hdivide
    exact hdivide
  · exact divide_singleton honce

end Draft

/-! ### The division -/

/-- A character inside a group, outside its literals, keeps the state sound, and what it completes
and the next state carries is the text of the group so far and the character. -/
theorem Draft.step_sound {draft : Draft} (hdraft : draft.InText)
    (honce : OpensOnce draft.raw.toList) (hquote : openQuote draft.raw.toList = none) (c : Char) :
    (draft.step c).2.Sound ∧ ∃ done, Divide (draft.step c).1 done ∧
      done ++ (draft.step c).2.text = draft.raw.toList ++ [c] := by
  have hopen : openQuote (draft.raw.toList ++ [c]) = if isQuote c then some c else none := by
    simp only [openQuote_append, hquote, quoteAfter, isQuote_iff]
  rcases draft.step_cases c with ⟨hc, hstep⟩ | ⟨hcloser, hstep⟩ | ⟨hblank, hstep⟩ |
    ⟨opener, rfl, hstep⟩ | ⟨hword, hstep⟩
  · have hraw : (draft.endToken.take c).raw.toList = draft.raw.toList ++ [c] := by
      simp [take]
    have hnext : (State.literal c (draft.endToken.take c)).Sound := by
      refine ⟨hdraft.quote hc, ?_, ?_⟩
      · rw [hraw]
        exact honce.append (Or.inl (notMem_openers_of_isQuote hc))
      · rw [hraw, hopen, if_pos hc]
    rw [hstep]
    exact ⟨hnext, [], divide_nil, hraw⟩
  · have hraw : (draft.raw.push c).toList = draft.raw.toList ++ [c] := String.toList_push c
    have hpiece : Piece.Sound
        (.complete ⟨draft.opener, draft.raw.push c, draft.endToken.tokens⟩) := by
      refine ⟨hdraft.close hcloser, ?_⟩
      rw [hraw]
      exact honce.append (Or.inl (notMem_openers_of_closedBy hcloser))
    rw [hstep]
    refine ⟨fun d hmem ↦ absurd hmem List.not_mem_nil, _, divide_singleton hpiece, ?_⟩
    exact (List.append_nil _).trans hraw
  · have hraw : (draft.endToken.skip c).raw.toList = draft.raw.toList ++ [c] := by
      simp [skip]
    have hnext : (State.inside (draft.endToken.skip c)).Sound := by
      refine ⟨hdraft.blank hblank, ?_, ?_⟩
      · rw [hraw]
        exact honce.append (Or.inl (notMem_openers_of_isBlank hblank))
      · rw [hraw, hopen, isQuote_of_isBlank hblank]
        rfl
    rw [hstep]
    exact ⟨hnext, [], divide_nil, hraw⟩
  · rw [hstep]
    refine ⟨start_sound opener, draft.raw.toList, abandon_divide hdraft honce .reopened, ?_⟩
    rw [start_text]
  · obtain ⟨hnquote, -, -, hopener⟩ := isWordChar_iff.mp hword
    have hraw : (draft.take c).raw.toList = draft.raw.toList ++ [c] := String.toList_push c
    have hnext : (State.inside (draft.take c)).Sound := by
      refine ⟨hdraft.word hword, ?_, ?_⟩
      · rw [hraw]
        exact honce.append (Or.inl (ofChar?_eq_none_iff.mp hopener))
      · rw [hraw, hopen, hnquote]
        rfl
    rw [hstep]
    exact ⟨hnext, [], divide_nil, hraw⟩

/-- A character in a literal keeps the state sound, completes nothing, and is not lost. -/
theorem literal_step_sound {quote : Char} {draft : Draft} (hdraft : draft.InLiteral quote)
    (honce : OpensOnce draft.raw.toList) (hquote : openQuote draft.raw.toList = some quote)
    (c : Char) :
    ((State.literal quote draft).step c).2.Sound ∧
      ∃ done, Divide ((State.literal quote draft).step c).1 done ∧
        done ++ ((State.literal quote draft).step c).2.text = draft.raw.toList ++ [c] := by
  have hopen : openQuote (draft.raw.toList ++ [c]) = if c = quote then none else some quote := by
    rw [openQuote_append, hquote]
    rfl
  have hquoted : (openQuote draft.raw.toList).isSome := by
    rw [hquote]
    rfl
  have honce' : OpensOnce (draft.raw.toList ++ [c]) := honce.append (Or.inr hquoted)
  by_cases hc : c = quote
  · have hraw : (draft.take c).endToken.raw.toList = draft.raw.toList ++ [c] := by
      simp [Draft.take]
    have hnext : (State.inside (draft.take c).endToken).Sound := by
      refine ⟨hc ▸ hdraft.close, ?_, ?_⟩
      · rw [hraw]
        exact honce'
      · rw [hraw, hopen, if_pos hc]
    rw [State.step, if_pos hc]
    exact ⟨hnext, [], divide_nil, hraw⟩
  · have hraw : (draft.take c).raw.toList = draft.raw.toList ++ [c] := String.toList_push c
    have hnext : (State.literal quote (draft.take c)).Sound := by
      refine ⟨hdraft.take hc, ?_, ?_⟩
      · rw [hraw]
        exact honce'
      · rw [hraw, hopen, if_neg hc]
    rw [State.step, if_neg hc]
    exact ⟨hnext, [], divide_nil, hraw⟩

/-- One character keeps a state sound, and what it completes and the next state carries is what the
state carried and the character. -/
theorem State.step_sound {state : State} (hstate : state.Sound) (c : Char) :
    (state.step c).2.Sound ∧ ∃ done, Divide (state.step c).1 done ∧
      done ++ (state.step c).2.text = state.text ++ [c] := by
  cases state with
  | outside text =>
    unfold State.step
    dsimp only
    split
    · rename_i opener hopener
      obtain rfl := eq_char_of_ofChar? hopener
      refine ⟨Draft.start_sound opener, text.toList, freePiece_divide text hstate, ?_⟩
      rw [Draft.start_text]
      rfl
    · rename_i hopener
      refine ⟨?_, [], divide_nil, ?_⟩
      · intro d hmem
        simp only [String.toList_push, List.mem_append, List.mem_singleton] at hmem
        rcases hmem with hmem | rfl
        · exact hstate d hmem
        · exact ofChar?_eq_none_iff.mp hopener
      · simp [State.text]
  | inside draft =>
    obtain ⟨hdraft, honce, hquote⟩ := hstate
    exact Draft.step_sound hdraft honce hquote c
  | literal quote draft =>
    obtain ⟨hdraft, honce, hquote⟩ := hstate
    exact literal_step_sound hdraft honce hquote c

/-- The end of the line leaves nothing of what a state carries. -/
theorem State.finish_divide {state : State} (hstate : state.Sound) :
    Divide state.finish state.text := by
  cases state with
  | outside text => exact freePiece_divide text hstate
  | inside draft =>
    obtain ⟨hdraft, honce, -⟩ := hstate
    exact Draft.abandon_divide hdraft honce .unterminated
  | literal quote draft =>
    obtain ⟨-, honce, -⟩ := hstate
    exact divide_singleton honce

/-- From a sound state on, a line is divided with what the state carries. -/
theorem piecesFrom_divide {state : State} (hstate : state.Sound) (rest : List Char) :
    Divide (piecesFrom state rest) (state.text ++ rest) := by
  induction rest generalizing state with
  | nil =>
    rw [List.append_nil]
    exact state.finish_divide hstate
  | cons c rest ih =>
    obtain ⟨hnext, done, hdone, htext⟩ := state.step_sound hstate c
    have hdivide := hdone.append (ih hnext)
    rw [← List.append_assoc, htext, List.append_assoc] at hdivide
    exact hdivide

/-- A text with an opening character in it begins a group there or has it in a literal. -/
theorem exists_opening {piece : Piece} (hpiece : piece.Sound) {before after : List Char} {c : Char}
    (htext : piece.text.toList = before ++ c :: after) (hopener : c ∈ ['[', '{', '>']) :
    (∀ text, piece ≠ .free text) ∧ (before = [] ∨ (openQuote before).isSome) := by
  cases piece with
  | free text =>
    have hmem : c ∈ text.toList := by
      rw [show text.toList = before ++ c :: after from htext]
      exact List.mem_append_right before List.mem_cons_self
    exact absurd hopener (hpiece c hmem)
  | complete group =>
    exact ⟨fun _ ↦ Piece.noConfusion, hpiece.2.quoted before c after htext hopener⟩
  | dropped reason text =>
    exact ⟨fun _ ↦ Piece.noConfusion, hpiece.quoted before c after htext hopener⟩

/-- An opening character after some text of the line is the first one of a piece that is not free
text, or is within a literal of one. -/
def Accounted (pieces : List Piece) (before : List Char) (c : Char) : Prop :=
  ∃ first piece last inner rest, pieces = first ++ piece :: last ∧ before = joined first ++ inner ∧
    piece.text.toList = inner ++ c :: rest ∧ (∀ text, piece ≠ .free text) ∧
    (inner = [] ∨ (openQuote inner).isSome)

theorem Accounted.cons {pieces : List Piece} {before : List Char} {c : Char}
    (haccounted : Accounted pieces before c) (piece : Piece) :
    Accounted (piece :: pieces) (piece.text.toList ++ before) c := by
  obtain ⟨first, other, last, inner, rest, rfl, rfl, hother⟩ := haccounted
  refine ⟨piece :: first, other, last, inner, rest, rfl, ?_, hother⟩
  rw [← List.append_assoc]
  rfl

/-- Every opening character of a divided text is accounted for. -/
theorem Divide.accounted {pieces : List Piece} {text before after : List Char} {c : Char}
    (hdivide : Divide pieces text) (htext : text = before ++ c :: after)
    (hopener : c ∈ ['[', '{', '>']) : Accounted pieces before c := by
  induction pieces generalizing text before with
  | nil =>
    have hjoined := hdivide.joined_eq
    rw [htext] at hjoined
    exact absurd hjoined.symm (List.append_ne_nil_of_right_ne_nil before (List.cons_ne_nil c after))
  | cons piece pieces ih =>
    have hpiece : piece.Sound := hdivide.sound piece List.mem_cons_self
    have hpieces : Divide pieces (joined pieces) :=
      ⟨fun other hmem ↦ hdivide.sound other (List.mem_cons_of_mem piece hmem), rfl⟩
    have hjoined : piece.text.toList ++ joined pieces = before ++ c :: after :=
      hdivide.joined_eq.trans htext
    rcases List.append_eq_append_iff.mp hjoined with ⟨inner, rfl, hinner⟩ | ⟨rest, hinner, hrest⟩
    · exact (ih hpieces hinner).cons piece
    · cases rest with
      | nil =>
        rw [List.append_nil] at hinner
        rw [← hinner, ← List.append_nil piece.text.toList]
        have hnext : joined pieces = [] ++ c :: after := hrest.symm
        exact (ih hpieces hnext).cons piece
      | cons d rest =>
        obtain ⟨rfl, -⟩ := List.cons.inj hrest
        exact ⟨[], piece, pieces, before, rest, rfl, rfl, hinner,
          exists_opening hpiece hinner hopener⟩

/-- A line is divided into free text, complete groups and dropped ones, without loss and in order;
the groups and the notices of the line are those of its pieces, all tokens are well formed, and
every opening character begins a group, complete or dropped, unless it is within a literal of
one. -/
theorem pieces_sound (line : String) :
    String.join ((pieces line).map Piece.text) = line ∧
      (pieces line).filterMap Piece.group? = groups line ∧
      (pieces line).filterMap Notice.ofPiece? = Notice.ofLine line ∧
      (∀ piece ∈ pieces line, piece.Sound) ∧
      (∀ group ∈ groups line, ∀ token ∈ group.tokens, IsToken group.opener token) ∧
      ∀ before c after, line.toList = before ++ c :: after → c ∈ ['[', '{', '>'] →
        Accounted (pieces line) before c := by
  have hstart : (State.outside "").Sound := fun c hmem ↦ absurd hmem List.not_mem_nil
  have hdivide : Divide (pieces line) line.toList := piecesFrom_divide hstart line.toList
  refine ⟨?_, rfl, rfl, hdivide.sound, ?_, fun before c after ↦ hdivide.accounted⟩
  · rw [← String.toList_inj, String.toList_join, List.flatMap_map]
    exact hdivide.joined_eq
  · intro group hmem
    obtain ⟨piece, hpiece, hgroup⟩ := List.mem_filterMap.mp hmem
    cases piece with
    | complete other =>
      obtain rfl := Option.some.inj hgroup
      obtain ⟨⟨body, ended, closer, -, hlaid, -⟩, -⟩ := hdivide.sound _ hpiece
      exact hlaid.isToken
    | free text => cases hgroup
    | dropped reason text => cases hgroup

end Line

end BusProbe
