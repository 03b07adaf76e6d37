import BusProbe.Proofs.Line.Division
import BusProbe.Proofs.Line.Printing
import Mathlib.Data.List.DropRight

/-!
# Reading a group by itself

The text of a group stands for the group. Where a group was read, its surroundings may have ended
it: the next opening character or the end of the line, before which blanks are left out. Its text
then ends in no blank (`trimmed_of_mem_groups`), and the end of this text ends the group again, in
the same place. So a line of nothing but the text of a group is divided into just this group
(`pieces_raw`).
-/

set_option autoImplicit false
set_option relaxedAutoImplicit false

namespace BusProbe.Line

/-! ### Texts without blanks at their end -/

/-- A text that does not end in a blank. -/
def Trimmed (text : String) : Prop := Text.trimEndList text.toList = text.toList

theorem trimmed_trimEndList (cs : List Char) : Trimmed (String.ofList (Text.trimEndList cs)) := by
  rw [Trimmed, String.toList_ofList, Text.trimEndList, Text.trimEndList, List.reverse_reverse,
    List.dropWhile_idempotent]

theorem trimmed_push {c : Char} (hvisible : Text.isBlank c = false) (text : String) :
    Trimmed (text.push c) := by
  rw [Trimmed, String.toList_push]
  exact trimEndList_append_visible hvisible text.toList

theorem Trimmed.blankTail_eq {text : String} (htrimmed : Trimmed text) :
    Text.blankTail text.toList = [] := by
  have happend := Text.trimEndList_append text.toList
  rw [show Text.trimEndList text.toList = text.toList from htrimmed] at happend
  exact List.append_right_eq_self.mp happend

theorem isBlank_of_closedBy {opener : Opener} {c : Char} (hcloser : opener.closedBy c = true) :
    Text.isBlank c = false := by
  rcases closedBy_iff.mp hcloser with rfl | ⟨-, rfl⟩ <;> decide

theorem eq_free_of_mem_freePiece {piece : Piece} {text : String} (hmem : piece ∈ freePiece text) :
    piece = .free text := by
  unfold freePiece at hmem
  split at hmem
  · exact absurd hmem List.not_mem_nil
  · exact List.mem_singleton.mp hmem

/-! ### The groups of a line -/

/-- A group that is complete for want of a closer has a trimmed text. -/
theorem Draft.trimmed_of_mem_abandon {draft : Draft} {reason : DropReason} {group : Group}
    (hmem : .complete group ∈ draft.abandon reason) : Trimmed group.raw := by
  by_cases harrow : draft.opener = .arrow
  · rw [abandon_of_arrow harrow] at hmem
    rcases List.mem_cons.mp hmem with hgroup | hfree
    · cases hgroup
      exact trimmed_trimEndList draft.raw.toList
    · cases eq_free_of_mem_freePiece hfree
  · rw [abandon_of_ne_arrow harrow] at hmem
    cases List.mem_singleton.mp hmem

/-- A group that is complete with a character has a trimmed text. -/
theorem State.trimmed_of_mem_step {state : State} {c : Char} {group : Group}
    (hmem : .complete group ∈ (state.step c).1) : Trimmed group.raw := by
  cases state with
  | outside text =>
    unfold State.step at hmem
    dsimp only at hmem
    split at hmem
    · cases eq_free_of_mem_freePiece hmem
    · exact absurd hmem List.not_mem_nil
  | inside draft =>
    rw [State.step] at hmem
    rcases draft.step_cases c with ⟨-, hstep⟩ | ⟨hcloser, hstep⟩ | ⟨-, hstep⟩ | ⟨opener, -, hstep⟩ |
      ⟨-, hstep⟩
    · rw [hstep] at hmem
      exact absurd hmem List.not_mem_nil
    · rw [hstep] at hmem
      cases List.mem_singleton.mp hmem
      exact trimmed_push (isBlank_of_closedBy hcloser) draft.raw
    · rw [hstep] at hmem
      exact absurd hmem List.not_mem_nil
    · rw [hstep] at hmem
      exact Draft.trimmed_of_mem_abandon hmem
    · rw [hstep] at hmem
      exact absurd hmem List.not_mem_nil
  | literal quote draft =>
    unfold State.step at hmem
    dsimp only at hmem
    split at hmem
    · exact absurd hmem List.not_mem_nil
    · exact absurd hmem List.not_mem_nil

theorem trimmed_of_mem_piecesFrom {state : State} {rest : List Char} {group : Group}
    (hmem : .complete group ∈ piecesFrom state rest) : Trimmed group.raw := by
  induction rest generalizing state with
  | nil =>
    cases state with
    | outside text => cases eq_free_of_mem_freePiece hmem
    | inside draft => exact Draft.trimmed_of_mem_abandon hmem
    | literal quote draft => cases List.mem_singleton.mp hmem
  | cons c rest ih =>
    rcases List.mem_append.mp hmem with hstep | hrest
    · exact State.trimmed_of_mem_step hstep
    · exact ih hrest

theorem complete_mem_pieces {line : String} {group : Group} (hmem : group ∈ groups line) :
    .complete group ∈ pieces line := by
  obtain ⟨piece, hpiece, hgroup⟩ := List.mem_filterMap.mp hmem
  cases piece with
  | free text => cases hgroup
  | dropped reason text => cases hgroup
  | complete other => rwa [← Option.some.inj hgroup]

/-- Every group of a line is sound, and its text does not end in a blank. -/
theorem sound_of_mem_groups {line : String} {group : Group} (hmem : group ∈ groups line) :
    group.Sound ∧ Trimmed group.raw := by
  have hpiece : .complete group ∈ pieces line := complete_mem_pieces hmem
  have hstart : (State.outside "").Sound := fun c hmem ↦ absurd hmem List.not_mem_nil
  have hsound := (piecesFrom_divide hstart line.toList).sound _ hpiece
  exact ⟨hsound.1, trimmed_of_mem_piecesFrom hpiece⟩

/-! ### The text of a group -/

/-- The trimmed text of a sound group is divided into this group and nothing else. For want of a
closer the end of the line completes the group, and there is no blank that it leaves out. -/
theorem pieces_raw {group : Group} (hgroup : group.Sound) (htrimmed : Trimmed group.raw) :
    pieces group.raw = [.complete group] := by
  obtain ⟨opener, raw, tokens⟩ := group
  obtain ⟨body, ended, closer, hraw, hlaid, hend⟩ := hgroup
  dsimp only at hraw hlaid hend htrimmed
  have hmeet : (State.outside "").CanMeet true := trivial
  obtain ⟨draft, hread, hpieces⟩ :=
    Printout.piecesFrom_inside hmeet ⟨tokens, body, ended, hlaid⟩
  have hleave : (State.outside "").leave .reopened = [] := rfl
  rw [pieces, hraw, hpieces, hleave, List.nil_append]
  rcases hend with ⟨rfl, rfl⟩ | ⟨c, rfl, hcloser⟩
  · have hsame : draft.raw = raw := by
      rw [← String.toList_inj, hread.raw_eq, hraw, List.append_nil]
    rw [piecesFrom, State.finish, Draft.abandon_of_arrow hread.opener_eq, hread.tokens_eq, hsame,
      htrimmed.blankTail_eq, show Text.trimEndList raw.toList = raw.toList from htrimmed,
      String.ofList_toList]
    rfl
  · have hclosed : draft.step c = ([.complete ⟨opener, raw, tokens⟩], .outside "") := by
      rw [hread.step_closer hcloser, Inside.closed, ← hraw, String.ofList_toList]
    rw [piecesFrom, State.step, hclosed]
    rfl

/-- The text of a group of a line is read as exactly this group, with the same kind, text and
tokens, and nothing of it is dropped. -/
theorem groups_raw {line : String} {group : Group} (hgroup : group ∈ groups line) :
    groups group.raw = [group] ∧ Notice.ofLine group.raw = [] := by
  obtain ⟨hsound, htrimmed⟩ := sound_of_mem_groups hgroup
  rw [groups, Notice.ofLine, pieces_raw hsound htrimmed]
  exact ⟨rfl, rfl⟩

/-- The group of an arrow that another group ends, after one that is opened again and among literals
with the characters that would end it. -/
theorem arrow_stands_alone :
    ⟨.arrow, "> 'x]' r\"[\" 3", ["'x]'", "r", "\"[\"", "3"]⟩ ∈
        groups "[1 > 'x]' r\"[\" 3  [S] 4" ∧
      groups "> 'x]' r\"[\" 3" =
        [⟨.arrow, "> 'x]' r\"[\" 3", ["'x]'", "r", "\"[\"", "3"]⟩] ∧
      Notice.ofLine "> 'x]' r\"[\" 3" = [] := by
  have hmem : ⟨.arrow, "> 'x]' r\"[\" 3", ["'x]'", "r", "\"[\"", "3"]⟩ ∈
      groups "[1 > 'x]' r\"[\" 3  [S] 4" := by
    decide
  exact ⟨hmem, groups_raw hmem⟩

end BusProbe.Line
