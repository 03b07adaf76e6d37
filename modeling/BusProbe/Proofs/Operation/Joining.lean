import BusProbe.Proofs.Operation.Courses

/-!
# Sequences one after the other

From one sequence to the next nothing is kept but the flag and the states of the bus and the board,
and a sequence whose operations leave no transaction open ends with a mere question: whether the bus
is released. So it makes no difference whether two sequences are carried out one after the other or
as one, if the operations of the first leave no transaction open (`execute_append_run_eq`). What the
bus and the board reply, and whether anything fails or keeps a read waiting, does not matter.
-/

set_option autoImplicit false
set_option relaxedAutoImplicit false

namespace BusProbe

/-- Whether an event is the question whether the bus is released. -/
def Event.isQuestion : Event Probe → Bool
  | .exchange (.inl .released) _ => true
  | _ => false

/-- An outcome without the questions whether the bus is released. -/
def Outcome.unquestioned {σ α : Type} (outcome : Outcome Probe σ α) : Outcome Probe σ α :=
  { outcome with events := outcome.events.filter (!·.isQuestion) }

theorem Outcome.unquestioned_after {σ α : Type} (outcome : Outcome Probe σ α)
    (earlier : List (Event Probe)) :
    (outcome.after earlier).unquestioned =
      outcome.unquestioned.after (earlier.filter (!·.isQuestion)) := by
  rw [after, unquestioned, List.filter_append]
  rfl

namespace Operation

open Script Probe

variable {σ : Type} {device : Device Probe σ} {state : σ} {isOpen : Bool}

/-- Carries out two sequences, one after the other. Gives the text of both. -/
def executeBoth (limits : Limits) (first second : List Operation) (isOpen : Bool) :
    Script Probe (String × Bool) := do
  let (text, isOpen) ← execute limits first isOpen
  let (more, isOpen) ← execute limits second isOpen
  return (text ++ more, isOpen)

theorem performAll_append (limits : Limits) (first second : List Operation) :
    performAll limits (first ++ second) = (do
      let text ← performAll limits first
      return text ++ (← performAll limits second)) := by
  induction first with
  | nil =>
    simp only [List.nil_append, performAll, pure_bind, String.empty_append]
    exact (bind_pure _).symm
  | cons op first ih => simp [performAll, ih, String.append_assoc]

/-- Of two sequences that are carried out as one, the first is performed and the second is carried
out with the flag as the first leaves it. -/
theorem execute_append (limits : Limits) (first second : List Operation) (isOpen : Bool) :
    execute limits (first ++ second) isOpen = (do
      let text ← performAll limits first
      let (more, isOpen) ← execute limits second (first.foldl openAfter isOpen)
      return (text ++ more, isOpen)) := by
  simp [execute, performAll_append, List.foldl_append]

/-- Where nothing counts as open and the bus is released, the closing only asks for the latter. -/
theorem closeIfOpen_run_released (hreleased : (device (.inl .released) state).1 = true) :
    (closeIfOpen false).run device state = some ⟨(), (device (.inl .released) state).2,
      [.exchange (.inl .released) true]⟩ := by
  simp [closeIfOpen, onBus, hreleased, Outcome.after]

/-- Of two sequences that are carried out one after the other, the first is performed and then
closed, and the second starts with the flag clear. -/
theorem executeBoth_eq (limits : Limits) (first second : List Operation) (isOpen : Bool) :
    executeBoth limits first second isOpen = (do
      let text ← performAll limits first
      closeIfOpen (first.foldl openAfter isOpen)
      let (more, isOpen) ← execute limits second false
      return (text ++ more, isOpen)) := by
  simp only [executeBoth, execute, bind_assoc, pure_bind]

/-- If the operations of a first sequence leave no transaction open, for the station and for the
bus, then two sequences come out as one: with the same text and flag, the same state of the bus and
the board, and the same requests, replies and notices in the same order. Only the question whether
the bus is released is left aside. It is asked once more between the two, and asking it changes
nothing, so that what follows starts in the same state on both sides. -/
theorem execute_append_run_eq {limits : Limits} {first : List Operation}
    (hquestion : ∀ state, (device (.inl .released) state).2 = state)
    (hclosed : first.foldl openAfter isOpen = false)
    (hreleased : ∀ performed, (performAll limits first).run device state = some performed →
      (device (.inl .released) performed.state).1 = true)
    (second : List Operation) :
    ((execute limits (first ++ second) isOpen).run device state).map Outcome.unquestioned =
      ((executeBoth limits first second isOpen).run device state).map Outcome.unquestioned := by
  rw [execute_append, executeBoth_eq, hclosed, run_bind, run_bind]
  cases hperformed : (performAll limits first).run device state with
  | none => rfl
  | some performed =>
    have hclosing := closeIfOpen_run_released (hreleased performed hperformed)
    rw [hquestion] at hclosing
    simp only [Option.bind_some, run_bind, hclosing, Option.map_map]
    congr 1
    funext rest
    simp only [Function.comp_apply, Outcome.unquestioned_after]
    rfl

/-- A read that has to be polled for twice in a transaction that is stopped, and then two reads of
which the second fails in a transaction that is left open, at a station whose flag is set from
before. -/
theorem stopped_then_open_joined :
    let first := [ofKind .start, write 7, ofKind .read, ofKind .stop]
    let second := [ofKind .start, (ofKind .read).withCount 2]
    let left : Rehearsal := ⟨[.pending, .ready 171, .ready 5, .failed .pin], [false]⟩
    ∃ joined, (execute ⟨2000, 9⟩ (first ++ second) true).run (rehearsed true) left = some joined ∧
      joined.value.1 = "AB 05 " ∧
      busRequests joined.events = [.start, .write 7 8, .read 8, .read 8, .stop, .start, .read 8,
        .read 8, .stop] ∧
      some joined.unquestioned =
        ((executeBoth ⟨2000, 9⟩ first second true).run (rehearsed true) left).map
          Outcome.unquestioned := by
  intro first second left
  have hquestion : ∀ state, (rehearsed true (.inl .released) state).2 = state := fun _ ↦ rfl
  have hreleased : ∀ performed, (performAll ⟨2000, 9⟩ first).run (rehearsed true) left =
      some performed → (rehearsed true (.inl .released) performed.state).1 = true := fun _ _ ↦ rfl
  have hclosed : first.foldl openAfter true = false := rfl
  have hjoined := execute_append_run_eq hquestion hclosed hreleased second
  have hshown : ((execute ⟨2000, 9⟩ (first ++ second) true).run (rehearsed true) left).map
      (fun joined ↦ (joined.value.1, busRequests joined.events)) = some ("AB 05 ", [.start,
        .write 7 8, .read 8, .read 8, .stop, .start, .read 8, .read 8, .stop]) := by
    decide +kernel
  obtain ⟨joined, hrun, hvalue⟩ := Option.map_eq_some_iff.mp hshown
  rw [hrun] at hjoined
  exact ⟨joined, hrun, congrArg Prod.fst hvalue, congrArg Prod.snd hvalue, hjoined⟩

end Operation

end BusProbe
