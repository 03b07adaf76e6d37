import BusProbe.Proofs.Line.Appending

/-!
# Blanks at the ends of a line

Blanks before and after what was typed make no difference to the groups of a line. Before it the
reading is outside every group, and blanks open none. What blanks at the end do depends on where the
reading stands there: outside the groups they mean nothing, within the group of an arrow they end
the word at hand and are left out of the text, and any other group is lost with them as without
them. One lemma says this of one blank (`State.step_blank`), and by induction it holds of all of
them. So a line may be trimmed before it is divided (`groups_trim`).
-/

set_option autoImplicit false
set_option relaxedAutoImplicit false

namespace BusProbe

/-! ### Trimming -/

namespace Text

theorem eq_append_trim (text : String) :
    text.toList = text.toList.takeWhile isBlank ++ (trim text).toList ++
      blankTail (text.toList.dropWhile isBlank) := by
  rw [trim, String.toList_ofList, List.append_assoc, trimEndList_append,
    List.takeWhile_append_dropWhile]

theorem isBlank_of_mem_head?_trim {text : String} {c : Char}
    (hmem : c ∈ (trim text).toList.head?) : isBlank c = false := by
  rw [trim, String.toList_ofList] at hmem
  have hhead := List.head?_dropWhile_not isBlank text.toList
  rw [← trimEndList_append (text.toList.dropWhile isBlank), List.head?_append, hmem] at hhead
  simpa using hhead

theorem isBlank_of_mem_getLast?_trim {text : String} {c : Char}
    (hmem : c ∈ (trim text).toList.getLast?) : isBlank c = false := by
  rw [trim, String.toList_ofList, trimEndList, List.getLast?_reverse] at hmem
  have hhead := List.head?_dropWhile_not isBlank (text.toList.dropWhile isBlank).reverse
  rw [hmem] at hhead
  simpa using hhead

end Text

namespace Line

/-! ### Blanks at the end -/

/-- A blank completes nothing, and if the line ends after it, its end completes the same groups as
before it. In a literal a blank is no quote, so that the group is lost either way. -/
theorem State.step_blank {state : State} (hstate : state.Sound) {c : Char}
    (hblank : Text.isBlank c = true) :
    (state.step c).1 = [] ∧
      (state.step c).2.finish.filterMap Piece.group? = state.finish.filterMap Piece.group? := by
  cases state with
  | outside text =>
    have hstep : (State.outside text).step c = ([], .outside (text.push c)) := by
      simp [State.step, ofChar?_eq_none_iff.mpr (notMem_openers_of_isBlank hblank)]
    rw [hstep]
    refine ⟨rfl, ?_⟩
    rw [State.finish, State.finish, filterMap_group?_freePiece, filterMap_group?_freePiece]
  | inside draft =>
    rw [State.step, draft.step_of_isBlank hblank]
    refine ⟨rfl, ?_⟩
    by_cases harrow : draft.opener = .arrow
    · have harrow' : (draft.endToken.skip c).opener = .arrow := draft.endToken_opener.trans harrow
      have hraw : (draft.endToken.skip c).raw.toList = draft.raw.toList ++ [c] := by
        simp [Draft.skip]
      have htokens : (draft.endToken.skip c).endToken.tokens = draft.endToken.tokens := by
        rw [Draft.endToken_of_word_eq (show (draft.endToken.skip c).word = "" from
          draft.endToken_word)]
        rfl
      rw [State.finish, State.finish, Draft.abandon_of_arrow harrow', Draft.abandon_of_arrow harrow,
        hraw, htokens, trimEndList_append_blank hblank, List.filterMap_cons, List.filterMap_cons,
        filterMap_group?_freePiece, filterMap_group?_freePiece]
    · have harrow' : (draft.endToken.skip c).opener ≠ .arrow := by
        rwa [show (draft.endToken.skip c).opener = draft.opener from draft.endToken_opener]
      rw [State.finish, State.finish, Draft.abandon_of_ne_arrow harrow',
        Draft.abandon_of_ne_arrow harrow]
      rfl
  | literal quote draft =>
    obtain ⟨⟨_, _, _, _, _, hquote, _, _⟩, -, -⟩ := hstate
    have hc : c ≠ quote := by
      rintro rfl
      rw [isQuote_of_isBlank hblank] at hquote
      exact absurd hquote Bool.false_ne_true
    have hstep : (State.literal quote draft).step c = ([], .literal quote (draft.take c)) := by
      simp [State.step, hc]
    rw [hstep]
    exact ⟨rfl, rfl⟩

/-- Wherever the reading stands, a line that goes on with blanks has the groups that it would have
if it ended there. -/
theorem State.filterMap_group?_blanks {state : State} (hstate : state.Sound) {blanks : List Char}
    (hblanks : ∀ c ∈ blanks, Text.isBlank c = true) :
    (piecesFrom state blanks).filterMap Piece.group? = state.finish.filterMap Piece.group? := by
  induction blanks generalizing state with
  | nil => rfl
  | cons c blanks ih =>
    have hblank : Text.isBlank c = true := hblanks c List.mem_cons_self
    have hrest : ∀ d ∈ blanks, Text.isBlank d = true :=
      fun d hmem ↦ hblanks d (List.mem_cons_of_mem c hmem)
    obtain ⟨hnone, hsame⟩ := state.step_blank hstate hblank
    rw [piecesFrom, hnone, List.nil_append, ih (state.step_sound hstate c).1 hrest, hsame]

theorem groups_append_blanks (line : String) {blanks : String}
    (hblanks : ∀ c ∈ blanks.toList, Text.isBlank c = true) :
    groups (line ++ blanks) = groups line := by
  have hstate : (stateAfter line).Sound := (State.after_divide outside_sound line.toList).1
  rw [groups_append_eq, groups_eq line, State.filterMap_group?_blanks hstate hblanks]

/-! ### Blanks at the beginning -/

theorem groups_blanks_append {blanks : String}
    (hblanks : ∀ c ∈ blanks.toList, Text.isBlank c = true) (line : String) :
    groups (blanks ++ line) = groups line := by
  have hopens : ∀ c ∈ blanks.toList, c ∉ ['[', '{', '>'] :=
    fun c hmem ↦ notMem_openers_of_isBlank (hblanks c hmem)
  obtain ⟨after, hreads⟩ := reads_outside hopens ""
  rw [groups, pieces, String.toList_append, hreads]
  exact filterMap_group?_piecesFrom rfl line

/-! ### Trimmed lines -/

/-- A line is its trimmed form between blanks, and the trimmed form has no blank at its ends. Both
are divided into the same groups, of the same kinds and with the same texts and tokens, wherever the
reading stands when it comes to the blanks at the end. -/
theorem groups_trim (line : String) :
    (∃ before after : String, (∀ c ∈ before.toList, Text.isBlank c = true) ∧
      (∀ c ∈ after.toList, Text.isBlank c = true) ∧ line = before ++ Text.trim line ++ after) ∧
      (∀ c ∈ (Text.trim line).toList.head?, Text.isBlank c = false) ∧
      (∀ c ∈ (Text.trim line).toList.getLast?, Text.isBlank c = false) ∧
      groups (Text.trim line) = groups line := by
  let before := String.ofList (line.toList.takeWhile Text.isBlank)
  let after := String.ofList (Text.blankTail (line.toList.dropWhile Text.isBlank))
  have hbefore : ∀ c ∈ before.toList, Text.isBlank c = true := by
    rw [String.toList_ofList]
    exact fun c hmem ↦ List.all_eq_true.mp List.all_takeWhile c hmem
  have hafter : ∀ c ∈ after.toList, Text.isBlank c = true := by
    rw [String.toList_ofList]
    exact fun c hmem ↦ isBlank_of_mem_blankTail hmem
  have hline : line = before ++ Text.trim line ++ after := by
    rw [← String.toList_inj, String.toList_append, String.toList_append, String.toList_ofList,
      String.toList_ofList]
    exact Text.eq_append_trim line
  refine ⟨⟨before, after, hbefore, hafter, hline⟩, fun c ↦ Text.isBlank_of_mem_head?_trim,
    fun c ↦ Text.isBlank_of_mem_getLast?_trim, ?_⟩
  calc groups (Text.trim line)
      = groups (before ++ Text.trim line) := (groups_blanks_append hbefore _).symm
    _ = groups (before ++ Text.trim line ++ after) := (groups_append_blanks _ hafter).symm
    _ = groups line := congrArg groups hline.symm

end Line

end BusProbe
