import BusProbe.Line.Operations
import BusProbe.Proofs.Line.Printing
import BusProbe.Proofs.Operation.Ready
import BusProbe.Proofs.Token.Items

/-!
# From a typed group to the bus

Numbers and reads typed in square brackets, with whatever blanks about them, make the bus requests
that they say, in order and between a start and a stop, and the text holds what was read. This puts
together how a line is divided, how a token is classified, how operations are carried out and how
units are written (`bracket_run`).
-/

set_option autoImplicit false
set_option relaxedAutoImplicit false

namespace BusProbe

open Script

/-! ### The operations of a typed group -/

namespace Line

/-- A group in square brackets is read back from a line of its own. -/
theorem groups_bracket {tokens : List String} {inside : List Char} {ended : Bool}
    (hlaid : Laid .bracket tokens inside ended) :
    ∃ raw, groups (String.ofList ('[' :: (inside ++ [']']))) = [⟨.bracket, raw, tokens⟩] := by
  have hpieces := (Printout.closed .bracket ⟨tokens, inside, ended, hlaid⟩ ']' (Or.inl rfl)
    .done).piecesFrom_text (show (State.outside "").CanMeet true from trivial)
  rw [State.leave, filter_freePiece] at hpieces
  refine ⟨String.ofList ('[' :: (inside ++ [']'])), ?_⟩
  rw [groups, pieces, String.toList_ofList, ← filterMap_filter_isMarked fun _ ↦ rfl]
  exact congrArg (List.filterMap Piece.group?) hpieces

end Line

theorem tokenOperations_items (items : List Item) :
    tokenOperations (items.map Item.text) = items.map Item.operation := by
  rw [tokenOperations, List.flatMap_map]
  simp only [Item.operations_classify]
  exact List.map_eq_flatMap.symm

/-- Items typed in square brackets stand for a start, their own operations and a stop. -/
theorem lineOperations_bracket {items : List Item} {inside : List Char} {ended : Bool}
    (hlaid : Line.Laid .bracket (items.map Item.text) inside ended) :
    lineOperations (String.ofList ('[' :: (inside ++ [']']))) =
      [(Operation.ofKind .start :: items.map Item.operation) ++ [Operation.ofKind .stop]] := by
  obtain ⟨raw, hgroups⟩ := Line.groups_bracket hlaid
  rw [lineOperations, hgroups, List.map_singleton, Group.operations, tokenOperations_items]
  rfl

/-- The operations of items ask for what the items say. -/
theorem requests_bracket (items : List Item) :
    (Operation.ofKind .start :: items.map Item.operation).flatMap Operation.requests =
      .start :: items.flatMap Item.requests := by
  rw [List.flatMap_cons, List.flatMap_map]
  simp only [Item.requests_operation]
  rfl

/-- Items read units of eight bits. -/
theorem Item.width_eq {item : Item} {width : Nat} (hmem : .read width ∈ item.requests) :
    width = 8 := by
  cases item with
  | literal radix capital numeral hfits count width widthFirst =>
    exact absurd (List.eq_of_mem_replicate hmem) nofun
  | read count => exact BusRequest.read.inj (List.eq_of_mem_replicate hmem)

theorem width_eq_of_mem_units {items : List Item} {events : List (Event Probe)}
    (hrequests : busRequests events =
      .start :: (items.flatMap Item.requests ++ [.stop, .released]))
    {unit : Nat × Word} (hmem : unit ∈ units events) : unit.1 = 8 := by
  have hasked := read_mem_of_mem_units hmem
  rw [hrequests, List.mem_cons, List.mem_append] at hasked
  rcases hasked with hasked | hasked | hasked
  · exact absurd hasked nofun
  · obtain ⟨item, -, hread⟩ := List.mem_flatMap.mp hasked
    exact item.width_eq hread
  · exact absurd hasked (by simp)

/-! ### The whole way -/

/-- The token of a byte: two upper-case digits, which denote the low eight bits of what was read. -/
def IsByteToken (value : Word) (token : String) : Prop :=
  token.length = 2 ∧ Text.Denotes Text.IsUpperDigit 16 token.toList (value.toNat % 256)

/-- Items that are typed in square brackets, with any blanks before, between and after them, are
carried out as they say. The line is one group. The bus is asked for a start, then for what each
item asks, in order, and then for a stop; after that it is only asked whether it is released. The
text is a token for each value that the bus gave, in order, with a blank after each.

It is enough that the bus has a unit ready for every read and says after a stop that it is
released; what else it replies does not matter, and neither does the flag of an earlier
transaction. -/
theorem bracket_run {σ : Type} {device : Device Probe σ} {limits : Limits} {items : List Item}
    {inside : List Char} {ended : Bool}
    (hready : ∀ width state, ∃ value, (device (.inl (.read width)) state).1 = .ready value)
    (hreleased : ∀ state, (device (.inl .released) (device (.inl .stop) state).2).1 = true)
    (hpatience : 0 < limits.patience)
    (hlaid : Line.Laid .bracket (items.map Item.text) inside ended) (isOpen : Bool) (state : σ) :
    ∃ ops outcome values tokens,
      lineOperations (String.ofList ('[' :: (inside ++ [']']))) = [ops] ∧
      (Operation.execute limits ops isOpen).run device state = some outcome ∧
      busRequests outcome.events =
        .start :: (items.flatMap Item.requests ++ [.stop, .released]) ∧
      reads outcome.events = values.map .ready ∧
      List.Forall₂ IsByteToken values tokens ∧
      outcome.value = (String.join (tokens.map (· ++ " ")), false) := by
  obtain ⟨outcome, hrun, hanswered, hflag⟩ := Operation.execute_run_stopped
    (Operation.answers_readsReady hready) hreleased hpatience
    (.ofKind .start :: items.map Item.operation) isOpen state
  have hrequests := hanswered.busRequests_eq
  rw [requests_bracket, List.cons_append] at hrequests
  refine ⟨_, outcome, (units outcome.events).map Prod.snd,
    (units outcome.events).map Operation.token, lineOperations_bracket hlaid, hrun, hrequests,
    ?_, ?_, ?_⟩
  · rw [hanswered.reads_eq, List.map_map]
    rfl
  · rw [List.forall₂_map_left_iff, List.forall₂_map_right_iff, List.forall₂_same]
    intro unit hmem
    have htoken := Operation.isToken_token unit
    rw [Operation.IsToken, width_eq_of_mem_units hrequests hmem] at htoken
    exact htoken
  · refine Prod.ext ?_ hflag
    rw [hanswered.text_eq, Operation.textOf, List.map_map]
    rfl

/-- A probe that gives the same unit for every read, and that is released after a stop until the
next start. -/
def steady (value : Word) : Device Probe Bool
  | .inl (.read _), released => (.ready value, released)
  | .inl .start, _ | .inl .startAlt, _ => (.ok (), false)
  | .inl .stop, _ | .inl .stopAlt, _ => (.ok (), true)
  | .inl (.write _ _), released => (.ok (), released)
  | .inl (.line _), released => (.ok none, released)
  | .inl .released, released => (released, released)
  | .inr .timedOut, released => (false, released)
  | .inr .measure, released => (none, released)
  | .inr (.delayMicros _), released | .inr (.delayMillis _), released
  | .inr (.setAux _), released | .inr (.startTimer _), released => ((), released)

/-- A number with a width and then a count, and a read. -/
theorem bracket_run_steady :
    ∃ ops outcome, lineOperations "[0XfF5.12:03 r:2 ]" = [ops] ∧
      (Operation.execute ⟨2000, 1⟩ ops true).run (steady 0x1A5) false = some outcome ∧
      busRequests outcome.events = [.start, .write 0xFF5 12, .write 0xFF5 12, .write 0xFF5 12,
        .read 8, .read 8, .stop, .released] ∧
      outcome.value = ("A5 A5 ", false) := by
  let data : Numeral 16 := ⟨['f', 'F', '5'], 0xFF5, nofun,
    [15, 15, 5], .cons (.inr rfl) (.cons (.inl rfl) (.cons (.inl rfl) .nil)), by decide, rfl⟩
  let width : Numeral 10 := ⟨['1', '2'], 12, nofun,
    [1, 2], .cons (.inl rfl) (.cons (.inl rfl) .nil), by decide, rfl⟩
  let three : Numeral 10 := ⟨['0', '3'], 3, nofun,
    [0, 3], .cons (.inl rfl) (.cons (.inl rfl) .nil), by decide, rfl⟩
  let two : Numeral 10 := ⟨['2'], 2, nofun, [2], .cons (.inl rfl) .nil, by decide, rfl⟩
  let number : Item :=
    .literal .hexadecimal true data (by decide : 0xFF5 < UInt32.size) (some three) (some width) true
  let read : Item := .read two
  let inside : List Char :=
    [] ++ number.text.toList ++ [' '] ++ read.text.toList ++ [' ']
  have hblank : Text.isBlank ' ' = true := by decide
  have hlaid : Line.Laid .bracket ([number, read].map Item.text) inside false :=
    (((Line.Laid.start.word (number.isWord_text .bracket)).blank hblank).word
      (read.isWord_text .bracket)).blank hblank
  have hline : String.ofList ('[' :: (inside ++ [']'])) = "[0XfF5.12:03 r:2 ]" := by
    decide +kernel
  have hready : ∀ width state, ∃ value,
      (steady 0x1A5 (.inl (.read width)) state).1 = .ready value := fun _ _ ↦ ⟨0x1A5, rfl⟩
  have hpatience : 0 < (⟨2000, 1⟩ : Limits).patience := Nat.one_pos
  obtain ⟨ops, outcome, _, _, hops, hrun, hrequests, -, -, -⟩ :=
    bracket_run hready (fun _ ↦ rfl) hpatience hlaid true false
  have hvalue : (lineOperations "[0XfF5.12:03 r:2 ]").map (fun ops ↦
      ((Operation.execute ⟨2000, 1⟩ ops true).run (steady 0x1A5) false).map Outcome.value) =
        [some ("A5 A5 ", false)] := by
    decide +kernel
  rw [hline] at hops
  rw [hops, List.map_singleton, hrun, List.singleton_inj] at hvalue
  exact ⟨ops, outcome, hops, hrun, hrequests, Option.some.inj hvalue⟩

end BusProbe
