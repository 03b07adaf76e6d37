import BusProbe.Proofs.Line.Appending
import BusProbe.Proofs.Line.Rereading

/-!
# Where a group begins

A complete group of a line was begun by its opening character, and from there on the line is read as
the group and what comes after it, whatever came before (`exists_beginning`). Between its beginning
and its end the group only grows: the tokens that a draft has finished are the first tokens of the
group, and the word it has at hand is the beginning of the next (`State.leadsTo_of_piecesFrom`).
-/

set_option autoImplicit false
set_option relaxedAutoImplicit false

namespace BusProbe.Line

/-! ### Where a group of a line begins -/

theorem char_inj {opener other : Opener} (hchar : opener.char = other.char) : opener = other := by
  have hsome := Opener.ofChar?_char opener
  rw [hchar, Opener.ofChar?_char] at hsome
  exact (Option.some.inj hsome).symm

theorem notMem_freePiece (group : Group) (text : String) : .complete group ∉ freePiece text :=
  fun hmem ↦ Piece.noConfusion (eq_free_of_mem_freePiece hmem)

namespace State

theorem finish_eq_leave (state : State) : state.finish = state.leave .unterminated := by
  cases state <;> rfl

/-- Of what a state leaves, a complete group is the first piece, and it was begun before. -/
theorem eq_nil_of_leave_eq {state : State} {reason : DropReason} {before after : List Piece}
    {group : Group} (hleave : state.leave reason = before ++ .complete group :: after) :
    before = [] ∧ state.isOutside = false := by
  have hmem : .complete group ∈ state.leave reason := by
    rw [hleave]
    exact List.mem_append_right before List.mem_cons_self
  cases state with
  | outside text => exact absurd hmem (notMem_freePiece group text)
  | literal quote draft => exact absurd (List.mem_singleton.mp hmem) nofun
  | inside draft =>
    refine ⟨?_, rfl⟩
    rw [leave] at hleave hmem
    by_cases harrow : draft.opener = .arrow
    · rw [Draft.abandon_of_arrow harrow] at hleave
      cases before with
      | nil => rfl
      | cons piece before =>
        have hfree := (List.cons.inj hleave).2
        refine absurd ?_ (notMem_freePiece group (String.ofList (Text.blankTail draft.raw.toList)))
        rw [hfree]
        exact List.mem_append_right before List.mem_cons_self
    · rw [Draft.abandon_of_ne_arrow harrow] at hmem
      exact absurd (List.mem_singleton.mp hmem) nofun

/-- A character opens a group, or closes one, or completes nothing and stays where it is: within the
group at hand or outside every group. -/
theorem step_cases (state : State) (c : Char) :
    (∃ opener, c = Opener.char opener ∧ state.CanMeet true ∧
      state.step c = (state.leave .reopened, .inside (Draft.start opener c))) ∨
    (∃ group, state.isOutside = false ∧ state.step c = ([.complete group], .outside "")) ∨
    ((state.step c).1 = [] ∧ (state.step c).2.isOutside = state.isOutside) := by
  cases state with
  | outside text =>
    rw [State.step]
    cases hopener : Opener.ofChar? c with
    | some opener => exact Or.inl ⟨opener, eq_char_of_ofChar? hopener, trivial, rfl⟩
    | none => exact Or.inr (Or.inr ⟨rfl, rfl⟩)
  | inside draft =>
    rw [State.step]
    rcases draft.step_cases c with ⟨-, hstep⟩ | ⟨-, hstep⟩ | ⟨-, hstep⟩ | ⟨opener, hc, hstep⟩ |
      ⟨-, hstep⟩
    · rw [hstep]
      exact Or.inr (Or.inr ⟨rfl, rfl⟩)
    · rw [hstep]
      exact Or.inr (Or.inl ⟨_, rfl, rfl⟩)
    · rw [hstep]
      exact Or.inr (Or.inr ⟨rfl, rfl⟩)
    · rw [hstep]
      exact Or.inl ⟨opener, hc, rfl, rfl⟩
    · rw [hstep]
      exact Or.inr (Or.inr ⟨rfl, rfl⟩)
  | literal quote draft =>
    rw [State.step]
    by_cases hc : c = quote
    · rw [if_pos hc]
      exact Or.inr (Or.inr ⟨rfl, rfl⟩)
    · rw [if_neg hc]
      exact Or.inr (Or.inr ⟨rfl, rfl⟩)

end State

/-- If a character completes a group, nothing is completed before it, and it was begun before. -/
theorem State.eq_nil_of_step_eq {state : State} {c : Char} {before after : List Piece}
    {group : Group} (hdone : (state.step c).1 = before ++ .complete group :: after) :
    before = [] ∧ state.isOutside = false := by
  rcases state.step_cases c with ⟨opener, rfl, hmeet, hstep⟩ | ⟨other, hinside, hstep⟩ |
    ⟨hnone, hsame⟩
  · rw [hstep] at hdone
    exact eq_nil_of_leave_eq hdone
  · rw [hstep] at hdone
    refine ⟨?_, hinside⟩
    cases before with
    | nil => rfl
    | cons piece before => simp at hdone
  · rw [hnone] at hdone
    simp at hdone

/-- In a text a group begins: after `earlier` comes its opening character, which does not stand in a
literal. The pieces before it are those that were completed by then, and the others are read from
there on. -/
structure BeginsAfter (state : State) (text earlier : List Char) (opener : Opener)
    (later : List Char) (before rest : List Piece) : Prop where
  text_eq : text = earlier ++ opener.char :: later
  canMeet : (state.after earlier).CanMeet true
  before_eq : before = state.completed earlier ++ (state.after earlier).leave .reopened
  rest_eq : piecesFrom (.inside (Draft.start opener opener.char)) later = rest

theorem BeginsAfter.cons {state : State} {c : Char} {text earlier later : List Char}
    {opener : Opener} {before rest : List Piece}
    (hbegins : BeginsAfter (state.step c).2 text earlier opener later before rest) :
    BeginsAfter state (c :: text) (c :: earlier) opener later ((state.step c).1 ++ before)
      rest where
  text_eq := congrArg (List.cons c) hbegins.text_eq
  canMeet := hbegins.canMeet
  before_eq := by
    rw [hbegins.before_eq, ← List.append_assoc]
    rfl
  rest_eq := hbegins.rest_eq

/-- A complete group among the pieces of a text was begun before the text, and then it is the first
of them, or it begins somewhere in the text. A group that is at hand after a character was opened by
it, or was at hand before. -/
theorem exists_beginning {state : State} {text : List Char} {before after : List Piece}
    {group : Group} (hpieces : piecesFrom state text = before ++ .complete group :: after) :
    before = [] ∧ state.isOutside = false ∨
      ∃ earlier opener later,
        BeginsAfter state text earlier opener later before (.complete group :: after) := by
  induction text generalizing state before with
  | nil =>
    rw [piecesFrom, state.finish_eq_leave] at hpieces
    exact Or.inl (State.eq_nil_of_leave_eq hpieces)
  | cons c text ih =>
    rw [piecesFrom] at hpieces
    have hcases : before = [] ∧ state.isOutside = false ∨
        ∃ more, before = (state.step c).1 ++ more ∧
          piecesFrom (state.step c).2 text = more ++ .complete group :: after := by
      rcases List.append_eq_append_iff.mp hpieces with hmore | ⟨more, hdone, hrest⟩
      · exact Or.inr hmore
      · cases more with
        | nil => exact Or.inr ⟨[], by rw [hdone, List.append_nil, List.append_nil], hrest.symm⟩
        | cons piece more =>
          obtain ⟨rfl, -⟩ := List.cons.inj hrest
          exact Or.inl (State.eq_nil_of_step_eq hdone)
    rcases hcases with hbegun | ⟨more, rfl, hmore⟩
    · exact Or.inl hbegun
    rcases ih hmore with ⟨rfl, hinside⟩ | ⟨earlier, opener, later, hbegins⟩
    · rw [List.append_nil]
      rcases state.step_cases c with ⟨opener, rfl, hmeet, hstep⟩ | ⟨other, -, hstep⟩ |
        ⟨hnone, hsame⟩
      · rw [hstep] at hmore ⊢
        exact Or.inr ⟨[], opener, text, rfl, hmeet, rfl, hmore⟩
      · rw [hstep] at hinside
        exact absurd hinside.symm Bool.false_ne_true
      · exact Or.inl ⟨hnone, hsame ▸ hinside⟩
    · exact Or.inr ⟨_, opener, later, hbegins.cons⟩

/-- What is read from the beginning of the group on does not change what was completed before. -/
theorem BeginsAfter.piecesFrom_eq {state : State} {text earlier later : List Char}
    {opener : Opener} {before rest : List Piece}
    (hbegins : BeginsAfter state text earlier opener later before rest) (other : List Char) :
    piecesFrom state (earlier ++ opener.char :: other) =
      before ++ piecesFrom (.inside (Draft.start opener opener.char)) other := by
  rw [piecesFrom_append, Printout.piecesFrom_char hbegins.canMeet, hbegins.before_eq,
    List.append_assoc]

theorem joined_append (first second : List Piece) :
    joined (first ++ second) = joined first ++ joined second :=
  List.flatMap_append

/-- A complete group of a line begins where the pieces before it end. -/
theorem beginsAfter_joined {line : String} {before after : List Piece} {group : Group}
    {text : List Char} (hpieces : pieces line = before ++ .complete group :: after)
    (hraw : group.raw.toList = group.opener.char :: text) :
    BeginsAfter (.outside "") line.toList (joined before) group.opener (text ++ joined after)
      before (.complete group :: after) := by
  rcases exists_beginning hpieces with ⟨-, hinside⟩ | ⟨earlier, opener, later, hbegins⟩
  · exact absurd hinside.symm Bool.false_ne_true
  have hline : joined (pieces line) = line.toList :=
    (piecesFrom_divide outside_sound line.toList).joined_eq
  have hlater : joined (.complete group :: after) = opener.char :: later := by
    have hdivide := piecesFrom_divide (Draft.start_sound opener) later
    rw [hbegins.rest_eq, Draft.start_text] at hdivide
    exact hdivide.joined_eq
  have hearlier : joined before = earlier := by
    rw [hpieces, joined_append, hlater, hbegins.text_eq] at hline
    exact List.append_cancel_right hline
  have hgroup : joined (.complete group :: after) = group.raw.toList ++ joined after := rfl
  rw [hgroup, hraw, List.cons_append] at hlater
  obtain ⟨hchar, hrest⟩ := List.cons.inj hlater
  rw [hearlier, char_inj hchar, hrest]
  exact hbegins

/-! ### The tokens that come of a draft -/

theorem Draft.tokens_prefix_endToken (draft : Draft) : draft.tokens <+: draft.endToken.tokens := by
  by_cases hword : draft.word = ""
  · exact ⟨[], by rw [endToken_of_word_eq hword, List.append_nil]⟩
  · rw [endToken_tokens_of_word_ne hword]
    exact List.prefix_append _ _

/-- Some tokens come of a draft: they are its finished tokens and its word at hand, which may be
gone on with, and then others. -/
def Draft.LeadsTo (draft : Draft) (tokens : List String) : Prop :=
  ∃ more, (draft.takeAll more).endToken.tokens <+: tokens

namespace Draft.LeadsTo

variable {draft : Draft} {tokens : List String}

theorem of_endToken (htokens : draft.endToken.tokens <+: tokens) : draft.LeadsTo tokens :=
  ⟨[], htokens⟩

theorem of_take {c : Char} (hleads : (draft.take c).LeadsTo tokens) : draft.LeadsTo tokens := by
  obtain ⟨more, htokens⟩ := hleads
  exact ⟨c :: more, htokens⟩

theorem isPrefix (hleads : draft.LeadsTo tokens) : draft.tokens <+: tokens := by
  obtain ⟨more, htokens⟩ := hleads
  have hfinished := (draft.takeAll more).tokens_prefix_endToken
  rw [takeAll_tokens] at hfinished
  exact hfinished.trans htokens

end Draft.LeadsTo

/-- The tokens that come of a state. -/
def State.LeadsTo (tokens : List String) : State → Prop
  | .outside _ => True
  | .inside draft | .literal _ draft => draft.LeadsTo tokens

theorem Draft.leadsTo_of_abandon {draft : Draft} {reason : DropReason} {group : Group}
    {more rest : List Piece} (habandon : draft.abandon reason ++ more = .complete group :: rest) :
    draft.LeadsTo group.tokens := by
  by_cases harrow : draft.opener = .arrow
  · rw [abandon_of_arrow harrow] at habandon
    obtain rfl := Piece.complete.inj (List.cons.inj habandon).1
    exact .of_endToken List.prefix_rfl
  · rw [abandon_of_ne_arrow harrow] at habandon
    exact absurd (List.cons.inj habandon).1 nofun

/-- Within a group, if the first piece to come is complete, its tokens come of the state. -/
theorem State.leadsTo_of_piecesFrom {state : State} (hinside : state.isOutside = false)
    {text : List Char} {group : Group} {rest : List Piece}
    (hpieces : piecesFrom state text = .complete group :: rest) : state.LeadsTo group.tokens := by
  induction text generalizing state with
  | nil =>
    cases state with
    | outside before => exact absurd hinside.symm Bool.false_ne_true
    | literal quote draft => exact absurd (List.cons.inj hpieces).1 nofun
    | inside draft =>
      rw [← List.append_nil (piecesFrom _ _)] at hpieces
      exact Draft.leadsTo_of_abandon hpieces
  | cons c text ih =>
    rw [piecesFrom] at hpieces
    cases state with
    | outside before => exact absurd hinside.symm Bool.false_ne_true
    | literal quote draft =>
      rw [State.step] at hpieces
      by_cases hc : c = quote
      · rw [if_pos hc] at hpieces
        have hleads : (draft.take c).endToken.LeadsTo group.tokens := ih rfl hpieces
        exact .of_take (.of_endToken hleads.isPrefix)
      · rw [if_neg hc] at hpieces
        have hleads : (draft.take c).LeadsTo group.tokens := ih rfl hpieces
        exact .of_take hleads
    | inside draft =>
      rw [State.step] at hpieces
      rcases draft.step_cases c with ⟨-, hstep⟩ | ⟨-, hstep⟩ | ⟨-, hstep⟩ | ⟨opener, -, hstep⟩ |
        ⟨-, hstep⟩
      · rw [hstep] at hpieces
        have hleads : (draft.endToken.take c).LeadsTo group.tokens := ih rfl hpieces
        exact .of_endToken hleads.of_take.isPrefix
      · rw [hstep] at hpieces
        obtain rfl := Piece.complete.inj (List.cons.inj hpieces).1
        exact .of_endToken List.prefix_rfl
      · rw [hstep] at hpieces
        have hleads : (draft.endToken.skip c).LeadsTo group.tokens := ih rfl hpieces
        exact .of_endToken hleads.isPrefix
      · rw [hstep] at hpieces
        exact Draft.leadsTo_of_abandon hpieces
      · rw [hstep] at hpieces
        have hleads : (draft.take c).LeadsTo group.tokens := ih rfl hpieces
        exact .of_take hleads

/-- A word that is gone on with is not one of the tokens that come of the draft, so where the tokens
go on after it with others there was none at hand. -/
theorem Draft.word_eq_of_leadsTo {draft : Draft} {c : Char} {more : List String}
    (hleads : (draft.take c).LeadsTo (draft.endToken.tokens ++ more)) : draft.word = "" := by
  by_contra hword
  obtain ⟨text, htokens⟩ := hleads
  have hgone : (draft.takeAll (c :: text)).word.toList = draft.word.toList ++ c :: text :=
    draft.takeAll_word (c :: text)
  have hne : (draft.takeAll (c :: text)).word ≠ "" := by
    intro hempty
    rw [hempty] at hgone
    exact List.append_ne_nil_of_right_ne_nil _ (List.cons_ne_nil c text) hgone.symm
  have hlonger : (draft.takeAll (c :: text)).endToken.tokens <+: draft.endToken.tokens ++ more :=
    htokens
  rw [endToken_tokens_of_word_ne hne, endToken_tokens_of_word_ne hword, takeAll_tokens,
    List.append_assoc, List.prefix_append_right_inj, List.singleton_append,
    List.cons_prefix_cons] at hlonger
  rw [hlonger.1] at hgone
  exact List.cons_ne_nil c text (List.append_right_eq_self.mp hgone.symm)

end BusProbe.Line
