import BusProbe.Proofs.Line.Beginning
import BusProbe.Proofs.Line.Meaning

/-!
# Tokens that stand for nothing

A token of no known class stands for no operation, and that it is there does not change how its
neighbours are read. An `Insertion` puts a bare word in between the tokens of a complete group, with
blanks about it. Up to the word the group is read as before; after it there is no word at hand that
could go on, so that the rest of the line is read from drafts that mean the same
(`Insertion.lineOperations_result`). Such a place there is between any two tokens of every complete
group (`exists_insertion`).
-/

set_option autoImplicit false
set_option relaxedAutoImplicit false

namespace BusProbe

namespace Line

/-! ### Words -/

/-- A bare word, told by the characters that it does without. -/
theorem isWord_iff {opener : Opener} {token : String} :
    IsWord opener token ↔ token ≠ "" ∧ ∀ c ∈ token.toList, Text.isBlank c = false ∧
      c ∉ ['\x27', '"', '[', '{', '>', ']'] ∧ (opener = .brace → c ≠ '}') :=
  and_congr_right fun _ ↦ forall₂_congr fun _ _ ↦ isWordChar_iff_notMem

/-! ### The end of a word -/

/-- No word goes on from a draft into a text: there is none at hand, or the text does not begin with
a character of one. -/
def Draft.Pauses (draft : Draft) (rest : List Char) : Prop :=
  draft.word = "" ∨ ∀ c ∈ rest.head?, isWordChar draft.opener c = false

theorem Draft.endToken_endToken (draft : Draft) : draft.endToken.endToken = draft.endToken :=
  endToken_of_word_eq draft.endToken_word

theorem Draft.abandon_endToken (draft : Draft) (reason : DropReason) :
    draft.endToken.abandon reason = draft.abandon reason := by
  unfold abandon
  rw [endToken_opener, endToken_raw, endToken_endToken]

/-- A character that goes on with no word ends the one at hand, if there is one. -/
theorem Draft.step_endToken {draft : Draft} {c : Char}
    (hc : isWordChar draft.opener c = false) : draft.endToken.step c = draft.step c := by
  rcases draft.step_cases c with ⟨hquote, hstep⟩ | ⟨hcloser, hstep⟩ | ⟨hblank, hstep⟩ |
    ⟨opener, rfl, hstep⟩ | ⟨hword, hstep⟩
  · rw [hstep, step_of_isQuote _ hquote, endToken_endToken]
  · have hcloser' : draft.endToken.opener.closedBy c = true := by rwa [endToken_opener]
    rw [hstep, step_of_closedBy hcloser', endToken_opener, endToken_raw, endToken_endToken]
  · rw [hstep, step_of_isBlank _ hblank, endToken_endToken]
  · rw [hstep, step_char, abandon_endToken]
  · rw [hc] at hword
    exact absurd hword Bool.false_ne_true

/-- Where no word goes on, the one at hand may be ended at once. -/
theorem Draft.Pauses.piecesFrom_endToken {draft : Draft} {rest : List Char}
    (hpauses : draft.Pauses rest) :
    piecesFrom (.inside draft.endToken) rest = piecesFrom (.inside draft) rest := by
  rcases hpauses with hword | hhead
  · rw [Draft.endToken_of_word_eq hword]
  · cases rest with
    | nil => exact draft.abandon_endToken .unterminated
    | cons c rest =>
      rw [piecesFrom, piecesFrom, State.step, State.step, Draft.step_endToken (hhead c rfl)]

/-! ### Places in a layout -/

/-- A layout that ends in a blank does not end in a word. -/
theorem Laid.ended_eq_false {opener : Opener} {tokens : List String} {text : List Char} {c : Char}
    {ended : Bool} (hlaid : Laid opener tokens (text ++ [c]) ended)
    (hblank : Text.isBlank c = true) : ended = false := by
  generalize hwhole : text ++ [c] = whole at hlaid
  cases hlaid with
  | start => rfl
  | blank hlaid hother => rfl
  | literal hlaid hliteral => rfl
  | @word tokens before token hlaid hword =>
    obtain ⟨hne, hchars⟩ := hword
    rcases List.eq_nil_or_concat token.toList with hnil | ⟨inside, last, htoken⟩
    · exact absurd (String.toList_eq_nil_iff.mp hnil) hne
    · rw [htoken, List.concat_eq_append, ← List.append_assoc] at hwhole
      obtain ⟨-, hlast⟩ := List.append_inj' hwhole rfl
      have hc : isWordChar opener last = true := hchars last (by simp [htoken])
      rw [← List.singleton_inj.mp hlast, isWordChar_iff, hblank] at hc
      exact absurd hc.2.2.1 nofun

theorem Laid.append_blanks {opener : Opener} {tokens : List String} {text : List Char}
    {ended : Bool} (hlaid : Laid opener tokens text ended) {blanks : List Char}
    (hblanks : ∀ c ∈ blanks, Text.isBlank c = true) :
    ∃ ended, Laid opener tokens (text ++ blanks) ended := by
  induction blanks generalizing text ended with
  | nil =>
    rw [List.append_nil]
    exact ⟨ended, hlaid⟩
  | cons c blanks ih =>
    have hnext : Laid opener tokens (text ++ [c]) false :=
      hlaid.blank (hblanks c List.mem_cons_self)
    rw [← List.singleton_append, ← List.append_assoc]
    exact ih hnext fun d hmem ↦ hblanks d (List.mem_cons_of_mem c hmem)

/-- A layout begins with a layout of all of its tokens but the last. -/
theorem Laid.exists_init {opener : Opener} {tokens : List String} {last : String}
    {text : List Char} {ended : Bool} (hlaid : Laid opener (tokens ++ [last]) text ended) :
    ∃ left right ended, text = left ++ right ∧ Laid opener tokens left ended := by
  generalize hwhole : tokens ++ [last] = whole at hlaid
  induction hlaid with
  | start => exact absurd hwhole (List.append_ne_nil_of_right_ne_nil _ (List.cons_ne_nil _ _))
  | @blank _ text ended c hlaid hblank ih =>
    obtain ⟨left, right, leftEnded, rfl, hleft⟩ := ih hwhole
    exact ⟨left, right ++ [c], leftEnded, List.append_assoc _ _ _, hleft⟩
  | @literal _ text ended token hlaid hliteral =>
    obtain ⟨rfl, -⟩ := List.append_inj' hwhole rfl
    exact ⟨text, token.toList, ended, rfl, hlaid⟩
  | @word _ text token hlaid hword =>
    obtain ⟨rfl, -⟩ := List.append_inj' hwhole rfl
    exact ⟨text, token.toList, false, rfl, hlaid⟩

/-- A layout of some tokens and others begins with a layout of the former. -/
theorem Laid.exists_left {opener : Opener} {first second : List String} {text : List Char}
    {ended : Bool} (hlaid : Laid opener (first ++ second) text ended) :
    ∃ left right ended, text = left ++ right ∧ Laid opener first left ended := by
  induction second using List.reverseRecOn generalizing text ended with
  | nil =>
    rw [List.append_nil] at hlaid
    exact ⟨text, [], ended, (List.append_nil text).symm, hlaid⟩
  | append_singleton second last ih =>
    rw [← List.append_assoc] at hlaid
    obtain ⟨whole, more, wholeEnded, rfl, hwhole⟩ := hlaid.exists_init
    obtain ⟨left, right, leftEnded, rfl, hleft⟩ := ih hwhole
    exact ⟨left, right ++ more, leftEnded, List.append_assoc _ _ _, hleft⟩

/-! ### Insertions -/

/-- A place in the text of a group, with some of its tokens before it and the others after it: up to
the place the text is the opening character and a layout of the former. -/
structure Place (group : Group) (first second : List String) (left right : List Char) : Prop where
  tokens_eq : group.tokens = first ++ second
  raw_eq : group.raw.toList = group.opener.char :: (left ++ right)
  laid : ∃ ended, Laid group.opener first left ended

/-- What stands between two texts is set off by blanks: the text before it ends in one, and the text
after it begins with one. -/
structure SetOff (before after : List Char) : Prop where
  before_eq : ∃ text c, before = text ++ [c] ∧ Text.isBlank c = true
  after_eq : ∃ c text, after = c :: text ∧ Text.isBlank c = true

/-- A token that is put in between the tokens of a complete group of a line. It is a bare word of
such a group, and it may bring blanks along (`lead` and `trail`), as it must where the place has
none on that side. -/
structure Insertion (line : String) where
  before : List Piece
  group : Group
  after : List Piece
  pieces_eq : pieces line = before ++ .complete group :: after
  first : List String
  second : List String
  left : List Char
  right : List Char
  place : Place group first second left right
  lead : List Char
  token : String
  trail : List Char
  blank : ∀ c ∈ lead ++ trail, Text.isBlank c = true
  setOff : SetOff (left ++ lead) (trail ++ right)
  isWord : IsWord group.opener token

namespace Insertion

variable {line : String}

/-- The text of the group with the token in it. -/
def raw (insertion : Insertion line) : List Char :=
  insertion.group.opener.char :: (insertion.left ++ insertion.lead ++ insertion.token.toList ++
    insertion.trail ++ insertion.right)

/-- The line with the token in it. -/
def result (insertion : Insertion line) : String :=
  String.ofList (joined insertion.before ++ insertion.raw ++ joined insertion.after)

theorem isBlank_of_mem_lead (insertion : Insertion line) :
    ∀ c ∈ insertion.lead, Text.isBlank c = true :=
  fun c hmem ↦ insertion.blank c (List.mem_append_left _ hmem)

theorem isBlank_of_mem_trail (insertion : Insertion line) :
    ∀ c ∈ insertion.trail, Text.isBlank c = true :=
  fun c hmem ↦ insertion.blank c (List.mem_append_right _ hmem)

/-- With the token in it, the text of the group up to the place is a layout of one token more. -/
theorem exists_laid (insertion : Insertion line) :
    ∃ ended, Laid insertion.group.opener (insertion.first ++ [insertion.token])
      (insertion.left ++ insertion.lead ++ insertion.token.toList ++ insertion.trail) ended := by
  obtain ⟨ended, hlaid⟩ := insertion.place.laid
  obtain ⟨leadEnded, hlead⟩ := hlaid.append_blanks insertion.isBlank_of_mem_lead
  obtain ⟨text, c, hbefore, hblank⟩ := insertion.setOff.before_eq
  have hbetween : leadEnded = false := by
    rw [hbefore] at hlead
    exact hlead.ended_eq_false hblank
  subst hbetween
  exact (hlead.word insertion.isWord).append_blanks insertion.isBlank_of_mem_trail

/-- The place is not within a word, since the tokens before it are tokens of the group. -/
theorem pauses_of_hasRead (insertion : Insertion line) {draft : Draft}
    (hread : draft.HasRead insertion.group.opener insertion.first insertion.left)
    {rest : List Char}
    (hpieces : piecesFrom (.inside draft) rest = .complete insertion.group :: insertion.after) :
    draft.Pauses rest := by
  by_cases hword : draft.word = ""
  · exact Or.inl hword
  refine Or.inr fun c hhead ↦ ?_
  obtain ⟨rest, rfl⟩ := List.head?_eq_some_iff.mp hhead
  cases hc : isWordChar draft.opener c with
  | false => rfl
  | true =>
    rw [piecesFrom, State.step, Draft.step_of_isWordChar hc] at hpieces
    have hinside : (State.inside (draft.take c)).isOutside = false := rfl
    have hleads : (draft.take c).LeadsTo insertion.group.tokens :=
      State.leadsTo_of_piecesFrom hinside hpieces
    rw [insertion.place.tokens_eq, ← hread.tokens_eq] at hleads
    exact absurd (Draft.word_eq_of_leadsTo hleads) hword

/-- With the token in it the group is read up to the place, and no word goes on there: a blank comes
next, or one stands behind the token. -/
theorem exists_draft (insertion : Insertion line) (rest : List Char) :
    ∃ draft : Draft,
      Reads (.inside (Draft.start insertion.group.opener insertion.group.opener.char))
        (insertion.left ++ insertion.lead ++ insertion.token.toList ++ insertion.trail)
        (.inside draft) ∧
      draft.HasRead insertion.group.opener (insertion.first ++ [insertion.token])
        (insertion.left ++ insertion.lead ++ insertion.token.toList ++ insertion.trail) ∧
      draft.Pauses (insertion.right ++ rest) := by
  obtain ⟨ended, hlaid⟩ := insertion.exists_laid
  obtain ⟨draft, hreads, hread, hbetween⟩ := Draft.reads_laid hlaid
  refine ⟨draft, hreads, hread, ?_⟩
  rcases List.eq_nil_or_concat insertion.trail with htrail | ⟨blanks, c, htrail⟩
  · obtain ⟨c, text, hafter, hblank⟩ := insertion.setOff.after_eq
    rw [htrail, List.nil_append] at hafter
    refine Or.inr fun d hhead ↦ ?_
    rw [hafter] at hhead
    obtain rfl := Option.some.inj hhead
    cases hd : isWordChar draft.opener c with
    | false => rfl
    | true => exact absurd (hblank.symm.trans (isWordChar_iff.mp hd).2.2.1) nofun
  · refine Or.inl (hbetween ?_)
    have hblank : Text.isBlank c = true :=
      insertion.isBlank_of_mem_trail c (by rw [htrail]; simp)
    rw [htrail, List.concat_eq_append, ← List.append_assoc] at hlaid
    exact hlaid.ended_eq_false hblank

/-- A token that stands for nothing leaves the operations of the groups of the line as they are.
With the token and without it no word goes on at the place, so that both times the rest of the line
may be read as from between two tokens. -/
theorem lineOperations_result (insertion : Insertion line)
    (htoken : Token.classify insertion.token = .unrecognized) :
    lineOperations insertion.result = lineOperations line := by
  obtain ⟨ended, hlaid⟩ := insertion.place.laid
  obtain ⟨draft, hreads, hread, -⟩ := Draft.reads_laid hlaid
  obtain ⟨other, hreads', hread', hpauses'⟩ := insertion.exists_draft (joined insertion.after)
  have hbegins := beginsAfter_joined insertion.pieces_eq insertion.place.raw_eq
  have hrest : piecesFrom (.inside draft) (insertion.right ++ joined insertion.after) =
      .complete insertion.group :: insertion.after := by
    rw [← hreads, ← List.append_assoc, hbegins.rest_eq]
  have hpauses := insertion.pauses_of_hasRead hread hrest
  have hnone : tokenOperations [insertion.token] = [] := by
    rw [tokenOperations, List.flatMap_singleton, htoken]
    rfl
  have hsame : draft.endToken.MeansSame other.endToken :=
    hread.meansSame hread' (by rw [tokenOperations_append, hnone, List.append_nil])
  have hrest' : pieceOperations (piecesFrom (.inside other)
      (insertion.right ++ joined insertion.after)) =
        pieceOperations (.complete insertion.group :: insertion.after) := by
    rw [← hpauses'.piecesFrom_endToken, ← (State.MeansSame.inside hsame).piecesFrom,
      hpauses.piecesFrom_endToken, hrest]
  have hresult : pieces insertion.result = insertion.before ++
      piecesFrom (.inside other) (insertion.right ++ joined insertion.after) := by
    rw [← hreads', ← hbegins.piecesFrom_eq, pieces, result, String.toList_ofList, raw]
    simp only [List.append_assoc, List.cons_append]
  calc lineOperations insertion.result
      = pieceOperations (pieces insertion.result) := rfl
    _ = pieceOperations (insertion.before ++ .complete insertion.group :: insertion.after) := by
        rw [hresult, pieceOperations_append, hrest', ← pieceOperations_append]
    _ = lineOperations line := by
        rw [← insertion.pieces_eq]
        rfl

end Insertion

/-- Between any tokens of a complete group of a line there is a place for any bare word. -/
theorem exists_insertion {line : String} {group : Group} (hgroup : group ∈ groups line)
    {first second : List String} (htokens : group.tokens = first ++ second) {token : String}
    (htoken : IsWord group.opener token) :
    ∃ insertion : Insertion line, insertion.group = group ∧ insertion.first = first ∧
      insertion.second = second ∧ insertion.token = token := by
  obtain ⟨⟨body, ended, closer, hraw, hlaid, -⟩, -⟩ := sound_of_mem_groups hgroup
  rw [htokens] at hlaid
  obtain ⟨left, right, leftEnded, rfl, hleft⟩ := hlaid.exists_left
  obtain ⟨before, after, hpieces⟩ := List.append_of_mem (complete_mem_pieces hgroup)
  have hblank : Text.isBlank ' ' = true := by decide
  refine ⟨⟨before, group, after, hpieces, first, second, left, right ++ closer,
    ⟨htokens, ?_, leftEnded, hleft⟩, [' '], token, [' '], ?_,
    ⟨⟨left, ' ', rfl, hblank⟩, ⟨' ', right ++ closer, rfl, hblank⟩⟩, htoken⟩, rfl, rfl, rfl, rfl⟩
  · rw [hraw, List.append_assoc]
  · intro c hmem
    rcases List.mem_append.mp hmem with hmem | hmem
    · rwa [List.mem_singleton.mp hmem]
    · rwa [List.mem_singleton.mp hmem]

/-! ### What the tokens of a group contribute -/

/-- The body of a group is compiled from its tokens one after the other, and a bracket frames it
with a start and a stop, whatever stands in it. Between any tokens of a complete group of a line
there is a place for any text that is a single bare word there, and a word of no known class changes
nothing of what the line stands for, wherever it is put in. -/
theorem lineOperations_insertion (line : String) :
    (∀ opener raw rawFirst rawSecond first second,
      (Group.mk opener raw (first ++ second)).body =
        (Group.mk opener rawFirst first).body ++ (Group.mk opener rawSecond second).body) ∧
    (∀ raw rawBrace tokens, (Group.mk .bracket raw tokens).operations =
      .ofKind .start :: ((Group.mk .brace rawBrace tokens).body ++ [.ofKind .stop])) ∧
    (∀ group ∈ groups line, ∀ first second, group.tokens = first ++ second →
      ∀ token, token ≠ "" → (∀ c ∈ token.toList, Text.isBlank c = false ∧
        c ∉ ['\x27', '"', '[', '{', '>', ']'] ∧ (group.opener = .brace → c ≠ '}')) →
      ∃ insertion : Insertion line, insertion.group = group ∧ insertion.first = first ∧
        insertion.second = second ∧ insertion.token = token) ∧
    ∀ insertion : Insertion line, Token.classify insertion.token = .unrecognized →
      lineOperations insertion.result = lineOperations line := by
  refine ⟨?_, fun _ _ _ ↦ rfl, ?_, fun insertion ↦ insertion.lineOperations_result⟩
  · intro opener raw rawFirst rawSecond first second
    rw [Group.body_eq, Group.body_eq, Group.body_eq, tokenOperations_append]
  · intro group hgroup first second htokens token hne hchars
    exact exists_insertion hgroup htokens (isWord_iff.mpr ⟨hne, hchars⟩)

/-- A repeat count without a number, put in between a literal and the number that follows it at once
in the second of three groups. -/
def insertionInBracket : Insertion "{1}x[0x5 'a'2] > r" :=
  have hblank : Text.isBlank ' ' = true := by decide
  have hnumber : IsWord .bracket "0x5" := ⟨by decide, List.all_eq_true.mp rfl⟩
  have hliteral : IsLiteral "'a'" := ⟨'\x27', ['a'], Or.inl rfl, by decide, by decide⟩
  { before := [.complete ⟨.brace, "{1}", ["1"]⟩, .free "x"]
    group := ⟨.bracket, "[0x5 'a'2]", ["0x5", "'a'", "2"]⟩
    after := [.free " ", .complete ⟨.arrow, "> r", ["r"]⟩]
    pieces_eq := by decide
    first := ["0x5", "'a'"]
    second := ["2"]
    left := "0x5 'a'".toList
    right := "2]".toList
    place := ⟨rfl, by decide, false, ((Laid.start.word hnumber).blank hblank).literal hliteral⟩
    lead := [' ']
    token := "r:?"
    trail := [' ']
    blank := List.all_eq_true.mp rfl
    setOff := ⟨⟨"0x5 'a'".toList, ' ', rfl, hblank⟩, ⟨' ', "2]".toList, rfl, hblank⟩⟩
    isWord := ⟨by decide, List.all_eq_true.mp rfl⟩ }

theorem lineOperations_insertionInBracket :
    Token.classify "r:?" = .unrecognized ∧
      insertionInBracket.result = "{1}x[0x5 'a' r:? 2] > r" ∧
      lineOperations "{1}x[0x5 'a' r:? 2] > r" = lineOperations "{1}x[0x5 'a'2] > r" := by
  have hclass : Token.classify "r:?" = .unrecognized := by decide
  have hresult : insertionInBracket.result = "{1}x[0x5 'a' r:? 2] > r" := by decide
  refine ⟨hclass, hresult, ?_⟩
  rw [← hresult]
  exact (lineOperations_insertion "{1}x[0x5 'a'2] > r").2.2.2 insertionInBracket hclass

end Line

end BusProbe
