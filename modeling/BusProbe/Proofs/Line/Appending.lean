import BusProbe.Proofs.Line.Division
import BusProbe.Proofs.Line.Printing

/-!
# Going on with a line

A line that is gone on with keeps the groups that were complete before. What the machine has read of
it is in the pieces it has given out and in its state (`piecesFrom_append`), and nothing that comes
later takes a piece back. Only the group of an arrow is given out before it was closed, when the
line ends inside it, and so may still change: without this one, the groups of a line are those it
has given out (`settled_eq`). Outside the groups the state holds nothing that the groups to come
depend on (`filter_piecesFrom_outside`), so a text that is put there is read as if it stood alone.
-/

set_option autoImplicit false
set_option relaxedAutoImplicit false

namespace BusProbe.Line

namespace State

/-- The state to which some characters lead. -/
def after (state : State) (text : List Char) : State :=
  text.foldl (fun state c ↦ (state.step c).2) state

/-- The pieces that some characters complete. -/
def completed (state : State) : List Char → List Piece
  | [] => []
  | c :: rest => (state.step c).1 ++ (state.step c).2.completed rest

/-- Whether a state is inside the group of an arrow, and in no literal of it. -/
def isInArrow : State → Bool
  | .inside draft => draft.opener == .arrow
  | _ => false

/-- Whether a state is outside every group. -/
def isOutside : State → Bool
  | .outside _ => true
  | _ => false

end State

/-- Where the reading stands at the end of a line. -/
def stateAfter (line : String) : State := (State.outside "").after line.toList

/-- The groups of a line that nothing after it can change: all, or all but the last if the line ends
inside the group of an arrow. -/
def settled (line : String) : List Group :=
  if (stateAfter line).isInArrow then (groups line).dropLast else groups line

/-! ### Reading in two parts -/

/-- A text in two parts is divided into what the first part completes and into what the second is
divided into from the state that the first leads to. -/
theorem piecesFrom_append (state : State) (first second : List Char) :
    piecesFrom state (first ++ second) =
      state.completed first ++ piecesFrom (state.after first) second := by
  induction first generalizing state with
  | nil => rfl
  | cons c first ih =>
    rw [List.cons_append, piecesFrom, ih, State.completed, List.append_assoc]
    rfl

/-- Some characters keep a state sound, and what they complete and the state that they lead to carry
between them what was read. -/
theorem State.after_divide {state : State} (hstate : state.Sound) (text : List Char) :
    (state.after text).Sound ∧ ∃ done, Divide (state.completed text) done ∧
      done ++ (state.after text).text = state.text ++ text := by
  induction text generalizing state with
  | nil => exact ⟨hstate, [], divide_nil, (List.append_nil state.text).symm⟩
  | cons c text ih =>
    obtain ⟨hnext, first, hfirst, hstep⟩ := state.step_sound hstate c
    obtain ⟨hafter, later, hlater, hrest⟩ := ih hnext
    refine ⟨hafter, first ++ later, hfirst.append hlater, ?_⟩
    have hcarried : later ++ (state.after (c :: text)).text = (state.step c).2.text ++ text := hrest
    rw [List.append_assoc, hcarried, ← List.append_assoc, hstep, List.append_assoc,
      List.singleton_append]

theorem outside_sound : (State.outside "").Sound :=
  fun _ hmem ↦ absurd hmem List.not_mem_nil

/-- The groups among the pieces that a line has completed before its end. -/
def completedGroups (line : String) : List Group :=
  ((State.outside "").completed line.toList).filterMap Piece.group?

theorem groups_append_eq (first second : String) :
    groups (first ++ second) = completedGroups first ++
      (piecesFrom (stateAfter first) second.toList).filterMap Piece.group? := by
  rw [groups, pieces, String.toList_append, piecesFrom_append, List.filterMap_append]
  rfl

/-- The groups of a line are those that it has completed and those that its end completes. -/
theorem groups_eq (line : String) :
    groups line = completedGroups line ++ (stateAfter line).finish.filterMap Piece.group? := by
  have happend := groups_append_eq line ""
  rwa [String.append_empty] at happend

/-! ### The end of a line -/

theorem filterMap_group?_freePiece (text : String) :
    (freePiece text).filterMap Piece.group? = [] := by
  rw [← filterMap_filter_isMarked (fun _ ↦ rfl), filter_freePiece, List.filterMap_nil]

/-- The end of a line completes one group inside the group of an arrow. -/
theorem exists_group_of_isInArrow {state : State} (hstate : state.isInArrow = true) :
    ∃ group, state.finish.filterMap Piece.group? = [group] := by
  cases state with
  | outside text => exact absurd hstate Bool.false_ne_true
  | literal quote draft => exact absurd hstate Bool.false_ne_true
  | inside draft =>
    have harrow : draft.opener = .arrow := beq_iff_eq.mp hstate
    rw [State.finish, Draft.abandon_of_arrow harrow]
    exact ⟨_, congrArg (List.cons _) (filterMap_group?_freePiece _)⟩

/-- Elsewhere it completes none. -/
theorem filterMap_group?_finish {state : State} (hstate : state.isInArrow = false) :
    state.finish.filterMap Piece.group? = [] := by
  cases state with
  | outside text => exact filterMap_group?_freePiece text
  | literal quote draft => rfl
  | inside draft =>
    have harrow : draft.opener ≠ .arrow := beq_eq_false_iff_ne.mp hstate
    rw [State.finish, Draft.abandon_of_ne_arrow harrow]
    rfl

/-- The settled groups of a line are those that it has completed before its end. -/
theorem settled_eq (line : String) : settled line = completedGroups line := by
  rw [settled, groups_eq]
  split
  · rename_i hstate
    obtain ⟨group, hgroup⟩ := exists_group_of_isInArrow hstate
    rw [hgroup, List.dropLast_concat]
  · rename_i hstate
    rw [filterMap_group?_finish (eq_false_of_ne_true hstate), List.append_nil]

/-- Outside the groups, what was read before does not matter to what is marked in the rest. -/
theorem filter_piecesFrom_outside (text other : String) (rest : List Char) :
    (piecesFrom (.outside text) rest).filter isMarked =
      (piecesFrom (.outside other) rest).filter isMarked := by
  induction rest generalizing text other with
  | nil =>
    rw [piecesFrom, piecesFrom, State.finish, State.finish, filter_freePiece, filter_freePiece]
  | cons c rest ih =>
    rw [piecesFrom, piecesFrom, State.step, State.step]
    cases Opener.ofChar? c with
    | some opener => simp [filter_freePiece]
    | none => exact ih _ _

/-- From any state outside the groups, a line is read as the groups of the line. -/
theorem filterMap_group?_piecesFrom {state : State} (hstate : state.isOutside = true)
    (line : String) : (piecesFrom state line.toList).filterMap Piece.group? = groups line := by
  cases state with
  | inside draft => exact absurd hstate Bool.false_ne_true
  | literal quote draft => exact absurd hstate Bool.false_ne_true
  | outside text =>
    rw [groups, pieces, ← filterMap_filter_isMarked (fun _ ↦ rfl),
      filter_piecesFrom_outside text "", filterMap_filter_isMarked (fun _ ↦ rfl)]

theorem isInArrow_of_isOutside {state : State} (hstate : state.isOutside = true) :
    state.isInArrow = false := by
  cases state with
  | outside text => rfl
  | inside draft => exact absurd hstate Bool.false_ne_true
  | literal quote draft => rfl

/-- However a line is gone on with, its settled groups come first. If it ends outside every group,
they are all of its groups, and those of the text that is added come after them. -/
theorem groups_append (first second : String) :
    settled first <+: groups (first ++ second) ∧
      ((stateAfter first).isOutside = true →
        groups (first ++ second) = groups first ++ groups second) := by
  refine ⟨?_, fun houtside ↦ ?_⟩
  · rw [settled_eq, groups_append_eq]
    exact List.prefix_append _ _
  · rw [groups_append_eq, groups_eq first,
      filterMap_group?_finish (isInArrow_of_isOutside houtside), List.append_nil,
      filterMap_group?_piecesFrom houtside]

/-- The group of an arrow goes on with what is added, and the group before it stays; outside the
groups, what is added is read for itself. -/
theorem arrow_goes_on :
    settled "[1] >2 " = [⟨.bracket, "[1]", ["1"]⟩] ∧
      settled "[1] >2 " <+: groups ("[1] >2 " ++ "3]") ∧
      groups ("[1] >2 " ++ "3]") ≠ groups "[1] >2 " ++ groups "3]" ∧
      (stateAfter "[1] x").isOutside = true ∧
      groups ("[1] x" ++ " >2") = groups "[1] x" ++ groups " >2" :=
  ⟨by decide, (groups_append _ _).1, by decide, by decide, (groups_append _ _).2 (by decide)⟩

end BusProbe.Line
