import BusProbe.Line.Scan

/-!
# The layout of a group

What may stand between the two ends of a group: tokens, each a quoted literal or a bare word, set
off by blanks. Only two bare words in a row need a blank between them, since a quote ends a word and
begins a literal at once. The same relation serves both directions: every group that a line is
divided into has such an inside, and every such inside is read back as its tokens.

* `Laid` — a text is laid out from a list of tokens.
* `isWordChar_iff` and those before it — which characters the machine takes for which.
* `Draft.step_of_isQuote` and those after it — what one character does inside a group, and
  `Draft.step_cases`, all that it can do.
* `Laid.isToken`, `Laid.exists_append` — what is laid out is tokens, and all tokens can be laid out.
* `Laid.trimEnd` — the blanks at the end of a layout are no part of a token.
-/

set_option autoImplicit false
set_option relaxedAutoImplicit false

namespace BusProbe.Line

/-- A quoted literal: a text without a quote of its kind, between two such quotes. -/
def IsLiteral (token : String) : Prop :=
  ∃ quote inside, (quote = '\x27' ∨ quote = '"') ∧ quote ∉ inside ∧
    token.toList = quote :: (inside ++ [quote])

/-- Whether a character may stand in a bare word of a group: it is neither blank nor a quote, and
neither opens a group nor closes this one. -/
def isWordChar (opener : Opener) (c : Char) : Bool :=
  !Text.isBlank c && !(['\x27', '"', '[', '{', '>', ']'].contains c) &&
    !(opener == .brace && c == '}')

/-- A bare word of a group. -/
def IsWord (opener : Opener) (token : String) : Prop :=
  token ≠ "" ∧ ∀ c ∈ token.toList, isWordChar opener c = true

/-- A token of a group. -/
def IsToken (opener : Opener) (token : String) : Prop :=
  IsLiteral token ∨ IsWord opener token

/-- A text is laid out from tokens: it is the tokens in order, with blanks before, between and after
them. The flag says whether the text ends in a bare word; no bare word can follow that at once. -/
inductive Laid (opener : Opener) : List String → List Char → Bool → Prop
  | start : Laid opener [] [] false
  | blank {tokens : List String} {text : List Char} {ended : Bool} {c : Char}
      (hlaid : Laid opener tokens text ended) (hblank : Text.isBlank c = true) :
      Laid opener tokens (text ++ [c]) false
  | literal {tokens : List String} {text : List Char} {ended : Bool} {token : String}
      (hlaid : Laid opener tokens text ended) (hliteral : IsLiteral token) :
      Laid opener (tokens ++ [token]) (text ++ token.toList) false
  | word {tokens : List String} {text : List Char} {token : String}
      (hlaid : Laid opener tokens text false) (hword : IsWord opener token) :
      Laid opener (tokens ++ [token]) (text ++ token.toList) true

/-! ### Kinds of characters -/

theorem isQuote_iff {c : Char} : isQuote c = true ↔ c = '\x27' ∨ c = '"' := by
  simp [isQuote]

theorem closedBy_iff {opener : Opener} {c : Char} :
    opener.closedBy c = true ↔ c = ']' ∨ opener = .brace ∧ c = '}' := by
  simp [Opener.closedBy]

theorem ofChar?_eq_none_iff {c : Char} : Opener.ofChar? c = none ↔ c ∉ ['[', '{', '>'] := by
  unfold Opener.ofChar?
  split <;> simp_all

/-- A character of a bare word, told by the characters that it is not. -/
theorem isWordChar_iff_notMem {opener : Opener} {c : Char} :
    isWordChar opener c = true ↔ Text.isBlank c = false ∧
      c ∉ ['\x27', '"', '[', '{', '>', ']'] ∧ (opener = .brace → c ≠ '}') := by
  simp [isWordChar, and_assoc, Decidable.imp_iff_not_or]

/-- The four ways in which the machine takes a character that is in a word. -/
theorem isWordChar_iff {opener : Opener} {c : Char} :
    isWordChar opener c = true ↔
      isQuote c = false ∧ opener.closedBy c = false ∧ Text.isBlank c = false ∧
        Opener.ofChar? c = none := by
  have hquote : isQuote c = false ↔ c ∉ ['\x27', '"'] := by
    rw [← Bool.not_eq_true, isQuote_iff]
    simp
  have hcloser : opener.closedBy c = false ↔ c ≠ ']' ∧ (opener = .brace → c ≠ '}') := by
    rw [← Bool.not_eq_true, closedBy_iff, not_or, not_and]
  have hmem : c ∉ ['\x27', '"', '[', '{', '>', ']'] ↔
      c ∉ ['\x27', '"'] ∧ c ∉ ['[', '{', '>'] ∧ c ≠ ']' := by
    simp [and_assoc]
  rw [isWordChar_iff_notMem, hmem, hquote, hcloser, ofChar?_eq_none_iff]
  constructor
  · rintro ⟨hblank, ⟨hnquote, hnopener, hnbracket⟩, hnbrace⟩
    exact ⟨hnquote, ⟨hnbracket, hnbrace⟩, hblank, hnopener⟩
  · rintro ⟨hnquote, ⟨hnbracket, hnbrace⟩, hblank, hnopener⟩
    exact ⟨hblank, ⟨hnquote, hnopener, hnbracket⟩, hnbrace⟩

theorem eq_char_of_ofChar? {opener : Opener} {c : Char} (hopener : Opener.ofChar? c = some opener) :
    c = opener.char := by
  unfold Opener.ofChar? at hopener
  split at hopener
  · cases hopener
    rfl
  · cases hopener
    rfl
  · cases hopener
    rfl
  · cases hopener

theorem isQuote_char (opener : Opener) : isQuote opener.char = false := by
  cases opener <;> decide

theorem isBlank_char (opener : Opener) : Text.isBlank opener.char = false := by
  cases opener <;> decide

theorem closedBy_char (opener next : Opener) : opener.closedBy next.char = false := by
  cases opener <;> cases next <;> decide

theorem isBlank_of_isQuote {c : Char} (hquote : isQuote c = true) : Text.isBlank c = false := by
  rcases isQuote_iff.mp hquote with rfl | rfl <;> decide

theorem isQuote_of_isBlank {c : Char} (hblank : Text.isBlank c = true) : isQuote c = false := by
  cases hquote : isQuote c with
  | false => rfl
  | true =>
    rw [isBlank_of_isQuote hquote] at hblank
    exact absurd hblank Bool.false_ne_true

theorem notMem_openers_of_isQuote {c : Char} (hquote : isQuote c = true) :
    c ∉ ['[', '{', '>'] := by
  rcases isQuote_iff.mp hquote with rfl | rfl <;> decide

theorem isQuote_of_closedBy {opener : Opener} {c : Char} (hcloser : opener.closedBy c = true) :
    isQuote c = false := by
  rcases closedBy_iff.mp hcloser with rfl | ⟨-, rfl⟩ <;> decide

theorem notMem_openers_of_closedBy {opener : Opener} {c : Char}
    (hcloser : opener.closedBy c = true) : c ∉ ['[', '{', '>'] := by
  rcases closedBy_iff.mp hcloser with rfl | ⟨-, rfl⟩ <;> decide

theorem notMem_openers_of_isBlank {c : Char} (hblank : Text.isBlank c = true) :
    c ∉ ['[', '{', '>'] := by
  intro hmem
  simp only [List.mem_cons, List.not_mem_nil, or_false] at hmem
  rcases hmem with rfl | rfl | rfl <;> exact absurd hblank (by decide)

theorem closedBy_of_isBlank {opener : Opener} {c : Char} (hblank : Text.isBlank c = true) :
    opener.closedBy c = false := by
  cases hcloser : opener.closedBy c with
  | false => rfl
  | true =>
    rcases closedBy_iff.mp hcloser with rfl | ⟨-, rfl⟩
    · exact absurd hblank (by decide)
    · exact absurd hblank (by decide)

/-! ### One character inside a group -/

namespace Draft

theorem step_of_isQuote (draft : Draft) {c : Char} (hquote : isQuote c = true) :
    draft.step c = ([], .literal c (draft.endToken.take c)) := by
  rw [step, if_pos hquote]

theorem step_of_closedBy {draft : Draft} {c : Char} (hcloser : draft.opener.closedBy c = true) :
    draft.step c =
      ([.complete ⟨draft.opener, draft.raw.push c, draft.endToken.tokens⟩], .outside "") := by
  simp [step, isQuote_of_closedBy hcloser, hcloser, skip]

theorem step_of_isBlank (draft : Draft) {c : Char} (hblank : Text.isBlank c = true) :
    draft.step c = ([], .inside (draft.endToken.skip c)) := by
  simp [step, isQuote_of_isBlank hblank, closedBy_of_isBlank hblank, hblank]

theorem step_char (draft : Draft) (opener : Opener) :
    draft.step opener.char =
      (draft.abandon .reopened, .inside (start opener opener.char)) := by
  simp [step, isQuote_char, closedBy_char, isBlank_char, Opener.ofChar?_char]

theorem step_of_isWordChar {draft : Draft} {c : Char}
    (hc : isWordChar draft.opener c = true) : draft.step c = ([], .inside (draft.take c)) := by
  obtain ⟨hquote, hcloser, hblank, hopener⟩ := isWordChar_iff.mp hc
  simp [step, hquote, hcloser, hblank, hopener]

/-- All that a character can do inside a group. -/
theorem step_cases (draft : Draft) (c : Char) :
    (isQuote c = true ∧ draft.step c = ([], .literal c (draft.endToken.take c))) ∨
    (draft.opener.closedBy c = true ∧ draft.step c =
      ([.complete ⟨draft.opener, draft.raw.push c, draft.endToken.tokens⟩], .outside "")) ∨
    (Text.isBlank c = true ∧ draft.step c = ([], .inside (draft.endToken.skip c))) ∨
    (∃ opener, c = Opener.char opener ∧
      draft.step c = (draft.abandon .reopened, .inside (start opener c))) ∨
    (isWordChar draft.opener c = true ∧ draft.step c = ([], .inside (draft.take c))) := by
  by_cases hquote : isQuote c = true
  · exact Or.inl ⟨hquote, draft.step_of_isQuote hquote⟩
  by_cases hcloser : draft.opener.closedBy c = true
  · exact Or.inr (Or.inl ⟨hcloser, step_of_closedBy hcloser⟩)
  by_cases hblank : Text.isBlank c = true
  · exact Or.inr (Or.inr (Or.inl ⟨hblank, draft.step_of_isBlank hblank⟩))
  refine Or.inr (Or.inr (Or.inr ?_))
  cases hopener : Opener.ofChar? c with
  | some opener =>
    obtain rfl := eq_char_of_ofChar? hopener
    exact Or.inl ⟨opener, rfl, draft.step_char opener⟩
  | none =>
    have hword : isWordChar draft.opener c = true :=
      isWordChar_iff.mpr ⟨eq_false_of_ne_true hquote, eq_false_of_ne_true hcloser,
        eq_false_of_ne_true hblank, hopener⟩
    exact Or.inr ⟨hword, step_of_isWordChar hword⟩

/-- Where no closer can come any more, the group of an arrow is complete. -/
theorem abandon_of_arrow {draft : Draft} (harrow : draft.opener = .arrow) (reason : DropReason) :
    draft.abandon reason =
      .complete ⟨.arrow, String.ofList (Text.trimEndList draft.raw.toList),
        draft.endToken.tokens⟩ ::
          freePiece (String.ofList (Text.blankTail draft.raw.toList)) := by
  simp only [abandon, harrow]

/-- Any other group is dropped there. -/
theorem abandon_of_ne_arrow {draft : Draft} (harrow : draft.opener ≠ .arrow)
    (reason : DropReason) : draft.abandon reason = [.dropped reason draft.raw] := by
  unfold abandon
  split
  · contradiction
  · rfl

end Draft

/-! ### Blanks at the end -/

theorem trimEndList_append_blank {c : Char} (hblank : Text.isBlank c = true) (cs : List Char) :
    Text.trimEndList (cs ++ [c]) = Text.trimEndList cs := by
  simp [Text.trimEndList, hblank]

theorem trimEndList_append_visible {c : Char} (hvisible : Text.isBlank c = false)
    (cs : List Char) : Text.trimEndList (cs ++ [c]) = cs ++ [c] := by
  simp [Text.trimEndList, hvisible]

theorem trimEndList_cons {c : Char} (hvisible : Text.isBlank c = false) (cs : List Char) :
    Text.trimEndList (c :: cs) = c :: Text.trimEndList cs := by
  simp [Text.trimEndList, List.dropWhile_append, hvisible]

theorem isBlank_of_mem_blankTail {c : Char} {cs : List Char} (hmem : c ∈ Text.blankTail cs) :
    Text.isBlank c = true := by
  rw [Text.blankTail, List.mem_reverse] at hmem
  exact List.all_eq_true.mp List.all_takeWhile c hmem

/-! ### What a layout holds -/

theorem Laid.isToken {opener : Opener} {tokens : List String} {text : List Char} {ended : Bool}
    (hlaid : Laid opener tokens text ended) : ∀ token ∈ tokens, IsToken opener token := by
  induction hlaid with
  | start => exact fun token hmem ↦ absurd hmem List.not_mem_nil
  | blank hlaid hblank ih => exact ih
  | literal hlaid hliteral ih =>
    intro token hmem
    rcases List.mem_append.mp hmem with hmem | hmem
    · exact ih token hmem
    · rw [List.mem_singleton.mp hmem]
      exact Or.inl hliteral
  | word hlaid hword ih =>
    intro token hmem
    rcases List.mem_append.mp hmem with hmem | hmem
    · exact ih token hmem
    · rw [List.mem_singleton.mp hmem]
      exact Or.inr hword

/-- Any more tokens can be laid out after some: a blank after each of them is enough. -/
theorem Laid.exists_append {opener : Opener} {tokens more : List String} {text : List Char}
    (hlaid : Laid opener tokens text false) (hmore : ∀ token ∈ more, IsToken opener token) :
    ∃ text, Laid opener (tokens ++ more) text false := by
  have hblank : Text.isBlank ' ' = true := by decide
  induction more generalizing tokens text with
  | nil =>
    rw [List.append_nil]
    exact ⟨text, hlaid⟩
  | cons token more ih =>
    have hnext : Laid opener (tokens ++ [token]) (text ++ token.toList ++ [' ']) false := by
      rcases hmore token List.mem_cons_self with hliteral | hword
      · exact (hlaid.literal hliteral).blank hblank
      · exact (hlaid.word hword).blank hblank
    rw [← List.singleton_append, ← List.append_assoc]
    exact ih hnext fun other hmem ↦ hmore other (List.mem_cons_of_mem token hmem)

/-- A layout without the blanks at its end is a layout of the same tokens. -/
theorem Laid.trimEnd {opener : Opener} {tokens : List String} {text : List Char} {ended : Bool}
    (hlaid : Laid opener tokens text ended) :
    ∃ ended, Laid opener tokens (Text.trimEndList text) ended := by
  induction hlaid with
  | start => exact ⟨false, Laid.start⟩
  | blank hlaid hblank ih =>
    rw [trimEndList_append_blank hblank]
    exact ih
  | @literal _ text _ token hlaid hliteral ih =>
    obtain ⟨quote, inside, hquote, -, htoken⟩ := id hliteral
    have htrim : Text.trimEndList (text ++ token.toList) = text ++ token.toList := by
      rw [htoken, ← List.cons_append, ← List.append_assoc]
      exact trimEndList_append_visible (isBlank_of_isQuote (isQuote_iff.mpr hquote)) _
    rw [htrim]
    exact ⟨false, hlaid.literal hliteral⟩
  | @word _ text token hlaid hword ih =>
    have htrim : Text.trimEndList (text ++ token.toList) = text ++ token.toList := by
      rcases List.eq_nil_or_concat token.toList with hnil | ⟨inside, c, htoken⟩
      · exact absurd (String.toList_eq_nil_iff.mp hnil) hword.1
      · have hc : isWordChar opener c = true := hword.2 c (by simp [htoken])
        rw [htoken, List.concat_eq_append, ← List.append_assoc]
        exact trimEndList_append_visible (isWordChar_iff.mp hc).2.2.1 _
    rw [htrim]
    exact ⟨true, hlaid.word hword⟩

end BusProbe.Line
