import BusProbe.Proofs.Operation.Locality
import BusProbe.Proofs.Operation.Ready

/-!
# Operations that concern the board alone

Delays, the auxiliary pin and the measurement of a voltage are matters of the board. A bus that
never keeps a read waiting notices nothing of them, since the only thing the board is asked for on
behalf of the bus is whether a wait is over. So these operations can be deleted from a sequence and
the bus is asked for the same things in the same order, is left in the same state, and the text is
the same (`execute_run_eq_without_boardOnly`); in particular a delay neither splits nor closes a
transaction.

Two scripts of which this can be said are alike on the bus (`AlikeOnBus`), whatever they ask of the
board.
-/

set_option autoImplicit false
set_option relaxedAutoImplicit false

namespace BusProbe

variable {σ τ α β : Type}

/-- Two devices beside each other. Neither sees the state of the other. -/
def Device.beside {I J : Interface} (left : Device I σ) (right : Device J τ) :
    Device (I.beside J) (σ × τ)
  | .inl request, state => ((left request state.1).1, (left request state.1).2, state.2)
  | .inr request, state => ((right request state.2).1, state.1, (right request state.2).2)

/-- What an outcome is for the bus: the value, the state of the bus and the requests made of it. -/
def Outcome.onBus (outcome : Outcome Probe (σ × τ) α) : α × σ × List BusRequest :=
  (outcome.value, outcome.state.1, busRequests outcome.events)

/-! ### Scripts that are alike on the bus -/

namespace Script

/-- Two scripts ask the bus for the same things in the same order and have the same value, whatever
they ask of the board and whatever it replies, as long as the bus replies in an allowed way. -/
inductive AlikeOnBus (allowed : Bus.Replies) : Script Probe α → Script Probe α → Prop
  | done (value : α) : AlikeOnBus allowed (.done value) (.done value)
  | ask {request : BusRequest} {next next' : BusRequest.Reply request → Script Probe α}
      (hnext : ∀ reply, allowed request reply → AlikeOnBus allowed (next reply) (next' reply)) :
      AlikeOnBus allowed (.ask (.inl request) next) (.ask (.inl request) next')
  | boardLeft {request : BoardRequest} {next : BoardRequest.Reply request → Script Probe α}
      {script' : Script Probe α} (hnext : ∀ reply, AlikeOnBus allowed (next reply) script') :
      AlikeOnBus allowed (.ask (.inr request) next) script'
  | boardRight {request : BoardRequest} {script : Script Probe α}
      {next' : BoardRequest.Reply request → Script Probe α}
      (hnext : ∀ reply, AlikeOnBus allowed script (next' reply)) :
      AlikeOnBus allowed script (.ask (.inr request) next')
  | noteLeft {notice : Notice} {script script' : Script Probe α}
      (hscript : AlikeOnBus allowed script script') :
      AlikeOnBus allowed (.note notice script) script'
  | noteRight {notice : Notice} {script script' : Script Probe α}
      (hscript : AlikeOnBus allowed script script') :
      AlikeOnBus allowed script (.note notice script')
  | stalled : AlikeOnBus allowed .stalled .stalled

variable {allowed : Bus.Replies}

theorem AlikeOnBus.bind {script script' : Script Probe α} {next next' : α → Script Probe β}
    (hscript : script.AlikeOnBus allowed script')
    (hnext : ∀ value, (next value).AlikeOnBus allowed (next' value)) :
    (script >>= next).AlikeOnBus allowed (script' >>= next') := by
  induction hscript with
  | done value => exact hnext value
  | ask _ ih => exact .ask ih
  | boardLeft _ ih => exact .boardLeft ih
  | boardRight _ ih => exact .boardRight ih
  | noteLeft _ ih => exact .noteLeft ih
  | noteRight _ ih => exact .noteRight ih
  | stalled => exact .stalled

theorem AlikeOnBus.times {script script' : Script Probe Unit}
    (hscript : script.AlikeOnBus allowed script') (count : Nat) :
    (times count script).AlikeOnBus allowed (times count script') := by
  induction count with
  | zero => exact .done ()
  | succ count ih => exact hscript.bind fun _ ↦ ih

theorem alikeOnBus_recordAll (notices notices' : List Notice) :
    (recordAll notices).AlikeOnBus allowed (recordAll notices') := by
  induction notices with
  | nil =>
    induction notices' with
    | nil => exact .done ()
    | cons notice notices' ih => exact .noteRight ih
  | cons notice notices ih => exact .noteLeft ih

theorem AsksOnce.alikeOnBus {script : Script Probe Unit} {request : BusRequest}
    (hscript : script.AsksOnce (.inl request)) : script.AlikeOnBus allowed script := by
  obtain ⟨notices, rfl⟩ := hscript
  exact .ask fun reply _ ↦ alikeOnBus_recordAll (notices reply) (notices reply)

/-- To ask the board for something is nothing to the bus. -/
theorem AsksOnce.alikeOnBus_done {script : Script Probe Unit} {request : BoardRequest}
    (hscript : script.AsksOnce (.inr request)) : script.AlikeOnBus allowed (.done ()) := by
  obtain ⟨notices, rfl⟩ := hscript
  exact .boardLeft fun reply ↦ alikeOnBus_recordAll (notices reply) []

/-- Beside any board, a bus that replies in the allowed way makes no difference between scripts that
are alike on it, also where the boards are not in the same state. -/
theorem AlikeOnBus.run_onBus {script script' : Script Probe α}
    (hscript : script.AlikeOnBus allowed script') {bus : Device Bus σ} (hbus : bus.Answers allowed)
    (board : Device Board τ) (state : σ) (other other' : τ) :
    (script.run (bus.beside board) (state, other)).map Outcome.onBus =
      (script'.run (bus.beside board) (state, other')).map Outcome.onBus := by
  induction hscript generalizing state other other' with
  | done value => rfl
  | @ask request next next' _ ih =>
    have hnext := ih (bus request state).1 (hbus request state) (bus request state).2 other other'
    have hafter := congrArg (Option.map fun (value, state, later) ↦
      (value, state, request :: later)) hnext
    rw [Option.map_map, Option.map_map] at hafter
    rw [run_ask, run_ask, Option.map_map, Option.map_map]
    exact hafter
  | boardLeft _ ih =>
    rw [run_ask, Option.map_map, ← ih (board _ other).1 state (board _ other).2 other']
    rfl
  | boardRight _ ih =>
    rw [run_ask, Option.map_map, ih (board _ other').1 state other (board _ other').2]
    rfl
  | noteLeft _ ih =>
    rw [run_note, Option.map_map, ← ih]
    rfl
  | noteRight _ ih =>
    rw [run_note, Option.map_map, ih]
    rfl
  | stalled => rfl

end Script

/-! ### Operations -/

/-- The kinds of operation that ask nothing of the bus. -/
def OpKind.isBoardOnly : OpKind → Bool
  | .delayMicros | .delayMillis | .auxHigh | .auxLow | .auxInput | .sampleVoltage | .nothing => true
  | _ => false

namespace Operation

open Script Probe

/-- Whether an operation concerns the board alone. -/
def isBoardOnly (op : Operation) : Bool := op.kind.isBoardOnly

/-- The operations of a sequence that concern the bus. -/
def withoutBoardOnly (ops : List Operation) : List Operation := ops.filter (!·.isBoardOnly)

/-- No read is kept waiting. -/
def neverPending : Bus.Replies
  | .read _, reply => reply ≠ .pending
  | _, _ => True

theorem answers_neverPending {bus : Device Bus σ}
    (hbus : ∀ width state, (bus (.read width) state).1 ≠ .pending) : bus.Answers neverPending := by
  intro request state
  cases request with
  | read width => exact hbus width state
  | _ => trivial

theorem isBoardOnly_iff {op : Operation} : op.isBoardOnly = true ↔ op.request? = none := by
  unfold isBoardOnly request?
  cases op.kind <;> simp [OpKind.isBoardOnly]

theorem ne_read_of_isBoardOnly {op : Operation} (hboard : op.isBoardOnly = true) :
    op.kind ≠ .read := by
  intro hread
  rw [isBoardOnly, hread] at hboard
  exact absurd hboard Bool.false_ne_true

theorem openAfter_of_isBoardOnly {op : Operation} (hboard : op.isBoardOnly = true)
    (isOpen : Bool) : openAfter isOpen op = isOpen := by
  unfold isBoardOnly at hboard
  unfold openAfter
  cases hkind : op.kind <;> simp_all [OpKind.isBoardOnly]

variable {limits : Limits} {allowed : Bus.Replies}

theorem quietly_alikeOnBus {script script' : Script Probe Unit}
    (hscript : script.AlikeOnBus allowed script') :
    (quietly script).AlikeOnBus allowed (quietly script') :=
  hscript.bind fun _ ↦ .done ""

theorem times_done (count : Nat) : times count (.done () : Script Probe Unit) = .done () := by
  induction count with
  | zero => rfl
  | succ count ih => exact ih

/-- To the bus, an operation that concerns the board alone is nothing. -/
theorem perform_alikeOnBus_done {op : Operation} (hboard : op.isBoardOnly = true) :
    (perform limits op).AlikeOnBus allowed (.done "") := by
  rcases perform_cases limits (ne_read_of_isBoardOnly hboard) with
    ⟨request, script, heq, honce, -⟩ | heq
  · rw [heq]
    exact quietly_alikeOnBus honce.alikeOnBus_done
  · have honce : (performOnce op).AlikeOnBus allowed (.done ()) := by
      rcases performOnce_cases op with ⟨hdone, -⟩ | ⟨request, honce, hrequest⟩
      · rw [hdone]
        exact .done ()
      · rw [isBoardOnly_iff.mp hboard] at hrequest
        rcases request with request | request
        · exact absurd hrequest nofun
        · exact honce.alikeOnBus_done
    have htimes := honce.times op.count
    rw [times_done] at htimes
    rw [heq]
    exact quietly_alikeOnBus htimes

theorem awaitUnit_alikeOnBus (width patience : Nat) :
    (awaitUnit limits width patience).AlikeOnBus neverPending
      (awaitUnit limits width patience) := by
  cases patience with
  | zero => exact .stalled
  | succ patience =>
    refine .ask fun reply hreply ↦ ?_
    cases reply with
    | ready value => exact .done (some value)
    | failed failure => exact .noteLeft (.noteRight (.done none))
    | pending => exact absurd rfl hreply

theorem readUnits_alikeOnBus (width count : Nat) :
    (readUnits limits width count).AlikeOnBus neverPending (readUnits limits width count) := by
  induction count with
  | zero => exact .done ""
  | succ count ih =>
    refine (awaitUnit_alikeOnBus width limits.patience).bind fun unit? ↦ ?_
    cases unit? with
    | none => exact .done ""
    | some value => exact ih.bind fun text ↦ .done (unitText value width ++ text)

/-- An operation that concerns the bus asks it for the same whatever the board replies. -/
theorem perform_alikeOnBus {op : Operation} (hbus : op.isBoardOnly = false) :
    (perform limits op).AlikeOnBus neverPending (perform limits op) := by
  have hrequest : op.request? ≠ none := fun hnone ↦
    Bool.false_ne_true (hbus.symm.trans (isBoardOnly_iff.mpr hnone))
  by_cases hread : op.kind = .read
  · simp only [perform, hread]
    exact .boardLeft fun _ ↦ .boardRight fun _ ↦ readUnits_alikeOnBus op.width op.count
  · rcases perform_cases limits hread with ⟨_, _, -, -, hnone⟩ | heq
    · exact absurd hnone hrequest
    · rw [heq]
      refine quietly_alikeOnBus (AlikeOnBus.times ?_ op.count)
      rcases performOnce_cases op with ⟨hdone, -⟩ | ⟨request, honce, hleft⟩
      · rw [hdone]
        exact .done ()
      · rcases request with request | request
        · exact honce.alikeOnBus
        · exact absurd hleft.symm hrequest

/-! ### Sequences -/

theorem performAll_alikeOnBus (ops : List Operation) :
    (performAll limits ops).AlikeOnBus neverPending (performAll limits (withoutBoardOnly ops)) := by
  induction ops with
  | nil => exact .done ""
  | cons op ops ih =>
    have hrest : ∀ text,
        (performAll limits ops >>= fun more ↦ .done (text ++ more)).AlikeOnBus neverPending
          (performAll limits (withoutBoardOnly ops) >>= fun more ↦ .done (text ++ more)) :=
      fun text ↦ ih.bind fun more ↦ .done (text ++ more)
    cases hboard : op.isBoardOnly with
    | true =>
      have hops : withoutBoardOnly (op :: ops) = withoutBoardOnly ops :=
        List.filter_cons_of_neg (by simp [hboard])
      have hnothing : performAll limits (withoutBoardOnly ops) = (Script.done "" >>= fun text ↦
          performAll limits (withoutBoardOnly ops) >>= fun more ↦ .done (text ++ more)) := by
        simp only [done_bind, String.empty_append]
        exact (bind_pure _).symm
      rw [hops, hnothing]
      exact (perform_alikeOnBus_done hboard).bind hrest
    | false =>
      have hops : withoutBoardOnly (op :: ops) = op :: withoutBoardOnly ops :=
        List.filter_cons_of_pos (by simp [hboard])
      rw [hops]
      exact (perform_alikeOnBus hboard).bind hrest

theorem foldl_openAfter_withoutBoardOnly (ops : List Operation) (isOpen : Bool) :
    (withoutBoardOnly ops).foldl openAfter isOpen = ops.foldl openAfter isOpen := by
  rw [withoutBoardOnly, List.foldl_filter]
  congr 1
  funext flag op
  split
  · rfl
  · rename_i hboard
    exact (openAfter_of_isBoardOnly (by simpa using hboard) flag).symm

theorem close_alikeOnBus : close.AlikeOnBus allowed close :=
  .noteLeft (.noteRight (attempt_asksOnce .stopFailed (.inl .stop) id).alikeOnBus)

theorem closeIfOpen_alikeOnBus (isOpen : Bool) :
    (closeIfOpen isOpen).AlikeOnBus allowed (closeIfOpen isOpen) := by
  cases isOpen with
  | true => exact close_alikeOnBus
  | false =>
    refine .ask fun released _ ↦ ?_
    cases released with
    | true => exact .done ()
    | false => exact close_alikeOnBus

/-- With the operations that concern the board alone deleted, a sequence does the same on the
bus. -/
theorem execute_alikeOnBus (ops : List Operation) (isOpen : Bool) :
    (execute limits ops isOpen).AlikeOnBus neverPending
      (execute limits (withoutBoardOnly ops) isOpen) := by
  unfold execute
  rw [foldl_openAfter_withoutBoardOnly]
  exact (performAll_alikeOnBus ops).bind fun text ↦
    (closeIfOpen_alikeOnBus (ops.foldl openAfter isOpen)).bind fun _ ↦ .done (text, false)

/-! ### Coming to an end -/

theorem awaitUnit_halts {width patience : Nat} (hpatience : 0 < patience) :
    (awaitUnit limits width patience).Halts (neverPending.leftOf Board) := by
  obtain ⟨patience, rfl⟩ := Nat.exists_eq_succ_of_ne_zero hpatience.ne'
  intro reply hreply
  cases reply with
  | ready value => trivial
  | failed failure => trivial
  | pending => exact absurd rfl hreply

theorem readUnits_halts (hpatience : 0 < limits.patience) (width count : Nat) :
    (readUnits limits width count).Halts (neverPending.leftOf Board) := by
  induction count with
  | zero => trivial
  | succ count ih =>
    refine (awaitUnit_halts hpatience).bind fun unit? ↦ ?_
    cases unit? with
    | none => trivial
    | some value => exact ih.bind fun _ ↦ trivial

theorem performAll_halts (hpatience : 0 < limits.patience) (ops : List Operation) :
    (performAll limits ops).Halts (neverPending.leftOf Board) := by
  induction ops with
  | nil => trivial
  | cons op ops ih =>
    refine Halts.bind ?_ fun _ ↦ ih.bind fun _ ↦ trivial
    by_cases hread : op.kind = .read
    · simp only [perform, hread]
      exact fun _ _ ↦ readUnits_halts hpatience op.width op.count
    · exact perform_halts hread

theorem closeIfOpen_halts {allowed : Probe.Replies} (isOpen : Bool) :
    (closeIfOpen isOpen).Halts allowed := by
  have hclose : close.Halts allowed :=
    ensures_note.mpr (attempt_asksOnce .stopFailed (.inl .stop) id).halts
  cases isOpen with
  | true => exact hclose
  | false =>
    intro released _
    cases released with
    | true => trivial
    | false => exact hclose

theorem execute_halts (hpatience : 0 < limits.patience) (ops : List Operation) (isOpen : Bool) :
    (execute limits ops isOpen).Halts (neverPending.leftOf Board) :=
  (performAll_halts hpatience ops).bind fun _ ↦ (closeIfOpen_halts _).bind fun _ ↦ trivial

/-- On a bus that keeps no read waiting, beside a board that has nothing to do with it, the
operations that concern the board alone can be deleted from a sequence: the text and the flag are
the same, the bus is asked for the same things in the same order and is left in the same state, and
the flag was the same when the closing came. On such a bus a sequence always comes to an end. -/
theorem execute_run_eq_without_boardOnly {bus : Device Bus σ}
    (hbus : ∀ width state, (bus (.read width) state).1 ≠ .pending) (board : Device Board τ)
    (limits : Limits) (ops : List Operation) (isOpen : Bool) (state : σ) (other : τ) :
    ((execute limits ops isOpen).run (bus.beside board) (state, other)).map Outcome.onBus =
      ((execute limits (withoutBoardOnly ops) isOpen).run (bus.beside board) (state, other)).map
        Outcome.onBus ∧
      ops.foldl openAfter isOpen = (withoutBoardOnly ops).foldl openAfter isOpen ∧
      (0 < limits.patience →
        ∃ outcome, (execute limits ops isOpen).run (bus.beside board) (state, other) =
          some outcome) := by
  have hanswers := answers_neverPending hbus
  refine ⟨(execute_alikeOnBus ops isOpen).run_onBus hanswers board state other other,
    (foldl_openAfter_withoutBoardOnly ops isOpen).symm, fun hpatience ↦ ?_⟩
  have hbeside : (bus.beside board).left.Answers neverPending :=
    fun request state ↦ hanswers request state.1
  obtain ⟨outcome, hrun, -⟩ :=
    (execute_halts hpatience ops isOpen).run hbeside.of_left (state, other)
  exact ⟨outcome, hrun⟩

/-- A bus that gives back what was written to it, and on which nothing else works. -/
def returning : Device Bus (List Word)
  | .write value _, kept => (.ok (), kept ++ [value])
  | .read _, [] => (.failed .pin, [])
  | .read _, value :: kept => (.ready value, kept)
  | .start, kept | .startAlt, kept | .stop, kept | .stopAlt, kept => (.error .pin, kept)
  | .line _, kept => (.error .pin, kept)
  | .released, kept => (kept.isEmpty, kept)

/-- A board that counts what it is asked for. -/
def counting : Device Board Nat
  | .delayMicros _, count | .delayMillis _, count | .setAux _, count | .startTimer _, count =>
    ((), count + 1)
  | .measure, count => (some (UInt32.ofNat count), count + 1)
  | .timedOut, count => (true, count + 1)

/-- A delay, the auxiliary pin and a measurement in the middle of a transaction that is left open:
they are asked of the board, and the bus is asked for the same with and without them. -/
theorem delay_in_transaction :
    let ops := [ofKind .start, (ofKind .delayMicros).withCount 9, write 7, ofKind .auxHigh,
      (ofKind .sampleVoltage).withCount 2, ofKind .read, ofKind .nothing]
    ∃ outcome outcome',
      (execute ⟨2000, 1⟩ ops false).run (returning.beside counting) ([], 0) = some outcome ∧
      (execute ⟨2000, 1⟩ [ofKind .start, write 7, ofKind .read] false).run
        (returning.beside counting) ([], 0) = some outcome' ∧
      busRequests outcome.events = [.start, .write 7 8, .read 8, .stop] ∧
      outcome.state.2 = 5 ∧ outcome'.state.2 = 1 ∧ outcome.onBus = outcome'.onBus := by
  intro ops
  have hbus : ∀ width kept, (returning (.read width) kept).1 ≠ .pending := by
    intro width kept
    cases kept <;> exact nofun
  have hsame := execute_run_eq_without_boardOnly hbus counting ⟨2000, 1⟩ ops false [] 0
  exact ⟨_, _, rfl, rfl, by decide +kernel, rfl, rfl, Option.some.inj hsame.1⟩

end Operation

end BusProbe
