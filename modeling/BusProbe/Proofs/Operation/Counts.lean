import BusProbe.Proofs.Operation.BoardOnly
import BusProbe.Proofs.Operation.Closing
import BusProbe.Proofs.Operation.Joining

/-!
# The count of an operation

For most kinds of operation the count says how often one thing is done. Such an operation is the
same script as that many operations done once (`perform_eq_performAll_replicate`), so that a
sequence may be written out in full and nothing that can be observed changes (`execute_unroll`). A
read differs from single reads only in how often the timer is armed, which no bus can notice as long
as it has every unit ready.

A count of zero is nothing to do. There is one exception: the auxiliary pin is set once whatever the
count, so also if the count is zero (`perform_zero_cases`).
-/

set_option autoImplicit false
set_option relaxedAutoImplicit false

namespace BusProbe

namespace OpKind

/-- The kinds of operation whose count says how often something is done by itself. The count of a
delay is its length, the units of a read share one time limit, and the auxiliary pin is set once. -/
def repeats : OpKind → Bool
  | .read | .delayMicros | .delayMillis | .auxHigh | .auxLow | .auxInput => false
  | _ => true

/-- The level to which a kind of operation sets the auxiliary pin. -/
def auxLevel? : OpKind → Option AuxLevel
  | .auxHigh => some .high
  | .auxLow => some .low
  | .auxInput => some .input
  | _ => none

end OpKind

/-- The next reads of a bus, some number of them, each find a unit ready. -/
def Device.HasReady {σ : Type} (bus : Device Bus σ) (width : Nat) : Nat → σ → Prop
  | 0, _ => True
  | count + 1, state =>
    (∃ value, (bus (.read width) state).1 = .ready value) ∧
      bus.HasReady width count (bus (.read width) state).2

/-- The requests that come to nothing: to arm the timer, and to wait for no time at all. -/
def Probe.IsIdle : Probe.Request → Prop
  | .inr (.startTimer _) => True
  | .inr (.delayMicros micros) => micros = 0
  | .inr (.delayMillis millis) => millis = 0
  | _ => False

namespace Operation

open Script Probe

variable {σ τ : Type} {limits : Limits}

/-- The operation with a count of one. -/
def once (op : Operation) : Operation := { op with count := 1 }

@[simp]
theorem once_kind (op : Operation) : op.once.kind = op.kind := rfl

@[simp]
theorem once_width (op : Operation) : op.once.width = op.width := rfl

@[simp]
theorem once_count (op : Operation) : op.once.count = 1 := rfl

/-! ### The flag -/

theorem openAfter_of_count_eq_zero {op : Operation} (hcount : op.count = 0) (isOpen : Bool) :
    openAfter isOpen op = isOpen := by
  have hnone : op.requests = [] := by simp [requests, hcount]
  rw [openAfter_eq, hnone]
  rfl

theorem flatMap_requests_replicate (op : Operation) :
    (List.replicate op.count op.once).flatMap requests = op.requests := by
  have honce : op.once.requests = op.request?.toList := List.append_nil _
  rw [List.flatMap_replicate, honce, requests]

/-- The flag follows the requests, and these are the same at once and one after another. -/
theorem foldl_openAfter_replicate (op : Operation) (isOpen : Bool) :
    (List.replicate op.count op.once).foldl openAfter isOpen = openAfter isOpen op := by
  rw [foldl_openAfter, flatMap_requests_replicate, openAfter_eq]

/-! ### Nothing to do -/

/-- With a count of zero an operation does nothing or makes one idle request, unless it sets the
auxiliary pin. -/
theorem perform_zero_cases (limits : Limits) {op : Operation} (hcount : op.count = 0) :
    op.kind.auxLevel? = none ∧ perform limits op = .done "" ∨
      (∃ request, op.kind.auxLevel? = none ∧ IsIdle (.inr request) ∧
        perform limits op = .ask (.inr request) fun _ ↦ .done "") ∨
      ∃ level, op.kind.auxLevel? = some level ∧
        perform limits op = .ask (.inr (.setAux level)) fun _ ↦ .done "" := by
  unfold perform
  rw [hcount]
  cases hkind : op.kind with
  | read => exact Or.inr (Or.inl ⟨.startTimer limits.readMillis, rfl, trivial, rfl⟩)
  | delayMicros => exact Or.inr (Or.inl ⟨.delayMicros 0, rfl, rfl, rfl⟩)
  | delayMillis => exact Or.inr (Or.inl ⟨.delayMillis 0, rfl, rfl, rfl⟩)
  | auxHigh => exact Or.inr (Or.inr ⟨.high, rfl, rfl⟩)
  | auxLow => exact Or.inr (Or.inr ⟨.low, rfl, rfl⟩)
  | auxInput => exact Or.inr (Or.inr ⟨.input, rfl, rfl⟩)
  | _ => exact Or.inl ⟨rfl, rfl⟩

/-- With a count of zero an operation comes to its end on any bus and board, gives no text and
leaves the flag as it was. It asks for nothing but what is idle, or else it sets the auxiliary pin,
and asks for nothing besides. -/
theorem perform_run_zero (limits : Limits) {op : Operation} (hcount : op.count = 0)
    (device : Device Probe σ) (state : σ) (isOpen : Bool) :
    ∃ outcome, (perform limits op).run device state = some outcome ∧ outcome.value = "" ∧
      openAfter isOpen op = isOpen ∧
      match op.kind.auxLevel? with
      | none => ∀ request ∈ Event.requests outcome.events, IsIdle request
      | some level => Event.requests outcome.events = [.inr (.setAux level)] := by
  have hflag : openAfter isOpen op = isOpen := openAfter_of_count_eq_zero hcount isOpen
  rcases perform_zero_cases limits hcount with ⟨hnone, heq⟩ | ⟨request, hnone, hidle, heq⟩ |
    ⟨level, hlevel, heq⟩
  · rw [heq, hnone]
    exact ⟨_, rfl, rfl, hflag, nofun⟩
  · rw [heq, hnone]
    refine ⟨_, rfl, rfl, hflag, fun asked hmem ↦ ?_⟩
    rwa [List.mem_singleton.mp hmem]
  · rw [heq, hlevel]
    exact ⟨_, rfl, rfl, hflag, rfl⟩

/-- The auxiliary pin is set high no times, which sets it high. -/
theorem auxHigh_run_zero :
    let op := (ofKind .auxHigh).withCount 0
    op.count = 0 ∧
      ∃ outcome, (perform ⟨2000, 1⟩ op).run (returning.beside counting) ([], 0) = some outcome ∧
        outcome.value = "" ∧ openAfter true op = true ∧
        Event.requests outcome.events = [.inr (.setAux .high)] :=
  ⟨rfl, perform_run_zero ⟨2000, 1⟩ rfl (returning.beside counting) ([], 0) true⟩

/-! ### Operations that repeat themselves -/

theorem perform_of_repeats (limits : Limits) {op : Operation} (hrepeats : op.kind.repeats = true) :
    perform limits op = quietly (times op.count (performOnce op)) := by
  unfold perform
  cases hkind : op.kind with
  | read | delayMicros | delayMillis | auxHigh | auxLow | auxInput =>
    rw [hkind] at hrepeats
    exact absurd hrepeats Bool.false_ne_true
  | _ => rfl

/-- Once after another, an operation that repeats itself does what it does at once. -/
theorem performAll_replicate (limits : Limits) {op : Operation}
    (hrepeats : op.kind.repeats = true) (count : Nat) :
    performAll limits (List.replicate count op.once) =
      quietly (times count (performOnce op)) := by
  have honce : perform limits op.once = quietly (times 1 (performOnce op)) :=
    perform_of_repeats limits hrepeats
  induction count with
  | zero => rfl
  | succ count ih =>
    rw [List.replicate_succ, performAll, honce, ih]
    simp [quietly, times]

theorem perform_eq_performAll_replicate (limits : Limits) {op : Operation}
    (hrepeats : op.kind.repeats = true) :
    perform limits op = performAll limits (List.replicate op.count op.once) := by
  rw [perform_of_repeats limits hrepeats, performAll_replicate limits hrepeats]

/-- An operation, written out as operations that are done once if it repeats itself. -/
def unroll (op : Operation) : List Operation :=
  if op.kind.repeats then List.replicate op.count op.once else [op]

theorem performAll_unroll (limits : Limits) (op : Operation) :
    performAll limits op.unroll = perform limits op := by
  unfold unroll
  split
  · rename_i hrepeats
    exact (perform_eq_performAll_replicate limits hrepeats).symm
  · simp only [performAll, pure_bind, String.append_empty]
    exact bind_pure _

theorem foldl_openAfter_unroll (op : Operation) (isOpen : Bool) :
    op.unroll.foldl openAfter isOpen = openAfter isOpen op := by
  unfold unroll
  split
  · exact foldl_openAfter_replicate op isOpen
  · rfl

/-- A sequence that is written out in full is the same script. -/
theorem execute_unroll (limits : Limits) (ops : List Operation) (isOpen : Bool) :
    execute limits (ops.flatMap unroll) isOpen = execute limits ops isOpen := by
  have hperform : performAll limits (ops.flatMap unroll) = performAll limits ops := by
    induction ops with
    | nil => rfl
    | cons op ops ih =>
      rw [List.flatMap_cons, performAll_append, performAll_unroll, ih, performAll]
  have hflag : (ops.flatMap unroll).foldl openAfter isOpen = ops.foldl openAfter isOpen := by
    rw [List.foldl_flatMap]
    simp only [foldl_openAfter_unroll]
  rw [execute, execute, hperform, hflag]

/-! ### Reads -/

section Reads

variable {bus : Device Bus σ} (board : Device Board τ) {width : Nat} {state : σ} {value : Word}

/-- A read of one more unit, where it is ready, gives its text and goes on from there. -/
theorem readUnits_succ_run (hpatience : 0 < limits.patience)
    (hready : (bus (.read width) state).1 = .ready value) (count : Nat) (other : τ) :
    (readUnits limits width (count + 1)).run (bus.beside board) (state, other) =
      ((readUnits limits width count).run (bus.beside board)
        ((bus (.read width) state).2, other)).map fun rest ↦
          ⟨unitText value width ++ rest.value, rest.state,
            .exchange (.inl (.read width)) (.ready value) :: rest.events⟩ := by
  obtain ⟨patience, hsucc⟩ := Nat.exists_eq_succ_of_ne_zero hpatience.ne'
  have hreply : bus.beside board (.inl (.read width)) (state, other) =
      (.ready value, (bus (.read width) state).2, other) := by
    rw [Device.beside, hready]
  rw [readUnits, hsucc, awaitUnit]
  rw [Option.map_eq_bind]
  simp [onBus, hreply, run_bind, Outcome.after]

/-- A read arms the timer and then takes its units. -/
theorem perform_read_run {op : Operation} (hread : op.kind = .read) (other : τ) :
    (perform limits op).run (bus.beside board) (state, other) =
      ((readUnits limits op.width op.count).run (bus.beside board)
        (state, (board (.startTimer limits.readMillis) other).2)).map
          (·.after [.exchange (.inr (.startTimer limits.readMillis)) ()]) := by
  simp only [perform, hread]
  exact run_ask ..

/-- Where a unit is ready, a single read in front of others gives its text and leaves the rest to
them. -/
theorem performAll_once_cons_run {op : Operation} (hread : op.kind = .read)
    (hpatience : 0 < limits.patience)
    (hready : (bus (.read op.width) state).1 = .ready value) (ops : List Operation) (other : τ) :
    (performAll limits (op.once :: ops)).run (bus.beside board) (state, other) =
      ((performAll limits ops).run (bus.beside board) ((bus (.read op.width) state).2,
        (board (.startTimer limits.readMillis) other).2)).map fun rest ↦
          ⟨unitText value op.width ++ rest.value, rest.state,
            .exchange (.inr (.startTimer limits.readMillis)) () ::
              .exchange (.inl (.read op.width)) (.ready value) :: rest.events⟩ := by
  have honce : (perform limits op.once).run (bus.beside board) (state, other) =
      some ⟨unitText value op.width, ((bus (.read op.width) state).2,
        (board (.startTimer limits.readMillis) other).2),
        [.exchange (.inr (.startTimer limits.readMillis)) (),
          .exchange (.inl (.read op.width)) (.ready value)]⟩ := by
    have hunit := readUnits_succ_run board hpatience hready 0
      (board (.startTimer limits.readMillis) other).2
    rw [Nat.zero_add] at hunit
    rw [perform_read_run board (op.once_kind.trans hread), once_width, once_count, hunit]
    simp [readUnits, Outcome.after]
  rw [performAll, run_bind, honce, Option.bind_some, run_bind, Option.map_bind, Option.map_eq_bind]
  simp [Outcome.after]

/-- On a bus that has every unit ready, reading some number of units does the same on the bus as
that many single reads, whatever the state of the board is in the two cases. -/
theorem readUnits_run_onBus {op : Operation} (hread : op.kind = .read)
    (hpatience : 0 < limits.patience) {count : Nat} (hready : bus.HasReady op.width count state)
    (other other' : τ) :
    ∃ outcome outcome',
      (readUnits limits op.width count).run (bus.beside board) (state, other) = some outcome ∧
      (performAll limits (List.replicate count op.once)).run (bus.beside board) (state, other') =
        some outcome' ∧
      outcome.onBus = outcome'.onBus := by
  induction count generalizing state other other' with
  | zero => exact ⟨_, _, rfl, rfl, rfl⟩
  | succ count ih =>
    obtain ⟨⟨value, hvalue⟩, hrest⟩ := hready
    obtain ⟨outcome, outcome', hrun, hrun', hsame⟩ :=
      ih hrest other (board (.startTimer limits.readMillis) other').2
    rw [readUnits_succ_run board hpatience hvalue, List.replicate_succ,
      performAll_once_cons_run board hread hpatience hvalue, hrun, hrun']
    refine ⟨_, _, rfl, rfl, ?_⟩
    exact congrArg (fun (text, state, asked) ↦
      (unitText value op.width ++ text, state, BusRequest.read op.width :: asked)) hsame

end Reads

/-! ### Repeating -/

/-- An operation with a count is that many operations done once, for the flag and, if it repeats
itself, for the bus and the board: the requests, their order, the replies, the text and the states
are the same, whatever is replied. A read is the same for the bus as that many single reads, if the
bus has each unit ready. -/
theorem perform_unrolls (limits : Limits) (op : Operation) (isOpen : Bool) :
    (List.replicate op.count op.once).foldl openAfter isOpen = openAfter isOpen op ∧
    (op.kind.repeats = true → ∀ (σ : Type) (device : Device Probe σ) (state : σ),
      ∃ outcome, (perform limits op).run device state = some outcome ∧
        (performAll limits (List.replicate op.count op.once)).run device state = some outcome) ∧
    (op.kind = .read → 0 < limits.patience →
      ∀ (σ τ : Type) (bus : Device Bus σ) (board : Device Board τ) (state : σ) (other : τ),
        bus.HasReady op.width op.count state →
        ∃ outcome outcome',
          (perform limits op).run (bus.beside board) (state, other) = some outcome ∧
          (performAll limits (List.replicate op.count op.once)).run (bus.beside board)
            (state, other) = some outcome' ∧
          outcome.onBus = outcome'.onBus) := by
  refine ⟨foldl_openAfter_replicate op isOpen, ?_, ?_⟩
  · intro hrepeats σ device state
    have hread : op.kind ≠ .read := by
      intro hread
      rw [hread] at hrepeats
      exact Bool.false_ne_true hrepeats
    obtain ⟨outcome, hrun, -⟩ := (perform_halts hread).run device.answers_any state
    refine ⟨outcome, hrun, ?_⟩
    rw [← perform_eq_performAll_replicate limits hrepeats, hrun]
  · intro hread hpatience σ τ bus board state other hready
    obtain ⟨outcome, outcome', hrun, hrun', hsame⟩ := readUnits_run_onBus board hread hpatience
      hready (board (.startTimer limits.readMillis) other).2 other
    refine ⟨outcome.after [.exchange (.inr (.startTimer limits.readMillis)) ()], outcome', ?_,
      hrun', hsame⟩
    rw [perform_read_run board hread, hrun, Option.map_some]

/-- Three writes and three times a write, and on a bus that has kept two units a read of two and two
reads, which the board can tell apart. -/
theorem write_and_read_unrolled :
    let writes := (write 7).withCount 3
    let reads := (ofKind .read).withCount 2
    (∃ outcome,
      (perform ⟨2000, 1⟩ writes).run (returning.beside counting) ([], 0) = some outcome ∧
      (performAll ⟨2000, 1⟩ [writes.once, writes.once, writes.once]).run
        (returning.beside counting) ([], 0) = some outcome) ∧
    ∃ outcome outcome',
      (perform ⟨2000, 1⟩ reads).run (returning.beside counting) ([171, 9], 0) = some outcome ∧
      (performAll ⟨2000, 1⟩ [reads.once, reads.once]).run (returning.beside counting)
        ([171, 9], 0) = some outcome' ∧
      outcome.onBus = outcome'.onBus ∧ outcome.state.2 = 1 ∧ outcome'.state.2 = 2 := by
  intro writes reads
  have hready : returning.HasReady reads.width reads.count [171, 9] :=
    ⟨⟨171, rfl⟩, ⟨9, rfl⟩, trivial⟩
  refine ⟨(perform_unrolls ⟨2000, 1⟩ writes false).2.1 rfl _ _ _, ?_⟩
  obtain ⟨outcome, outcome', hrun, hrun', hsame⟩ := (perform_unrolls ⟨2000, 1⟩ reads false).2.2 rfl
    Nat.one_pos _ _ returning counting [171, 9] 0 hready
  refine ⟨outcome, outcome', hrun, hrun', hsame, ?_, ?_⟩
  · exact (Option.some.inj (congrArg (Option.map (·.state.2)) hrun)).symm
  · exact (Option.some.inj (congrArg (Option.map (·.state.2)) hrun')).symm

end Operation

end BusProbe
