import BusProbe.Operation.Perform
import BusProbe.Proofs.Script.Runs

/-!
# Runs of operations

What a run of the script of an operation consists of, for any handler of bus and board and any
device below it. A property that each operation carries along with the flag holds after a whole
sequence (`performAll_preserves`), and the run of a sequence with its closing is a run of the
operations and then of the closing (`execute_run_eq_some`).
-/

set_option autoImplicit false
set_option relaxedAutoImplicit false

namespace BusProbe.Operation

open Probe Script

variable {J : Interface} {σ δ : Type} {handler : Handler Probe J σ} {device : Device J δ}

theorem handle_onBus (request : BusRequest) (state : σ) :
    (onBus request).handle handler state = handler (.inl request) state := by
  simp only [onBus, handle_ask, handle_done]
  exact bind_done _

/-- What is recorded of a reply: the failure, if it is one. -/
def complaint (notice : BusFailure → Notice) : Except BusFailure Unit → List (Event J)
  | .ok () => []
  | .error failure => [.note (notice failure)]

/-- Trying something on the bus is meeting the request and recording a failure. -/
theorem attempt_run_eq_some {notice : BusFailure → Notice}
    {script : Script Probe (Except BusFailure Unit)} {state : σ} {hardware : δ}
    {outcome : Outcome J δ (Unit × σ)} :
    ((attempt notice script).handle handler state).run device hardware = some outcome ↔
      ∃ answer, (script.handle handler state).run device hardware = some answer ∧
        outcome = ⟨((), answer.value.2), answer.state,
          answer.events ++ complaint notice answer.value.1⟩ := by
  rw [attempt, handle_run_bind_eq_some]
  constructor
  · rintro ⟨answer, rest, hanswer, hrest, rfl⟩
    refine ⟨answer, hanswer, ?_⟩
    cases hreply : answer.value.1 with
    | ok value =>
      rw [hreply, pure_eq_done, handle_done, run_done, Option.some.injEq] at hrest
      subst hrest
      rfl
    | error failure =>
      simp only [hreply, Script.record, handle_note, handle_done, run_note, run_done,
        Option.map_some, Option.some.injEq] at hrest
      subst hrest
      rfl
  · rintro ⟨answer, hanswer, rfl⟩
    refine ⟨answer, ⟨((), answer.value.2), answer.state, complaint notice answer.value.1⟩,
      hanswer, ?_, rfl⟩
    cases hreply : answer.value.1 with
    | ok value => rfl
    | error failure => rfl

/-- What each repetition of a script leads from `before` to `after`, where `after` is no weaker,
holds after any number of repetitions but none. -/
theorem times_run_preserves {script : Script Probe Unit}
    (before after : σ → δ → List (Event J) → Prop)
    (hweaken : ∀ state hardware past, after state hardware past → before state hardware past)
    (hstep : ∀ state hardware past outcome, before state hardware past →
      (script.handle handler state).run device hardware = some outcome →
        after outcome.value.2 outcome.state (past ++ outcome.events))
    {count : Nat} {state : σ} {hardware : δ} {past : List (Event J)}
    {outcome : Outcome J δ (Unit × σ)} (hbefore : before state hardware past)
    (hrun : ((times count script).handle handler state).run device hardware = some outcome) :
    before outcome.value.2 outcome.state (past ++ outcome.events) ∧
      (count ≠ 0 → after outcome.value.2 outcome.state (past ++ outcome.events)) := by
  induction count generalizing state hardware past outcome with
  | zero =>
    rw [times, handle_done, run_done, Option.some.injEq] at hrun
    subst hrun
    simpa using hbefore
  | succ count ih =>
    rw [times, handle_run_bind_eq_some] at hrun
    obtain ⟨first, rest, hfirst, hrest, rfl⟩ := hrun
    have hafter := hstep _ _ _ _ hbefore hfirst
    have hmore := ih (hweaken _ _ _ hafter) hrest
    rw [List.append_assoc] at hmore
    refine ⟨hmore.1, fun _ ↦ ?_⟩
    by_cases hcount : count = 0
    · subst hcount
      rw [times, handle_done, run_done, Option.some.injEq] at hrest
      subst hrest
      simpa [Outcome.after] using hafter
    · exact hmore.2 hcount

/-- Doing something quietly is doing it; the text is empty. -/
theorem quietly_run_eq_some {script : Script Probe Unit} {state : σ} {hardware : δ}
    {outcome : Outcome J δ (String × σ)} :
    ((quietly script).handle handler state).run device hardware = some outcome ↔
      ∃ inner, (script.handle handler state).run device hardware = some inner ∧
        outcome = ⟨("", inner.value.2), inner.state, inner.events⟩ := by
  rw [quietly, handle_run_bind_eq_some]
  constructor
  · rintro ⟨inner, rest, hinner, hrest, rfl⟩
    refine ⟨inner, hinner, ?_⟩
    rw [pure_eq_done, handle_done, run_done, Option.some.injEq] at hrest
    subst hrest
    simp [Outcome.after]
  · rintro ⟨inner, hinner, rfl⟩
    exact ⟨inner, _, hinner, rfl, by simp [Outcome.after]⟩

/-! ### Sequences -/

variable {limits : Limits}

/-- A sequence is its first operation and then the rest; its text is theirs. -/
theorem performAll_cons_run_eq_some {op : Operation} {ops : List Operation} {state : σ}
    {hardware : δ} {outcome : Outcome J δ (String × σ)} :
    ((performAll limits (op :: ops)).handle handler state).run device hardware = some outcome ↔
      ∃ first rest, ((perform limits op).handle handler state).run device hardware = some first ∧
        ((performAll limits ops).handle handler first.value.2).run device first.state =
          some rest ∧
        outcome = ⟨(first.value.1 ++ rest.value.1, rest.value.2), rest.state,
          first.events ++ rest.events⟩ := by
  simp only [performAll, handle_run_bind_eq_some]
  constructor
  · rintro ⟨first, _, hfirst, ⟨rest, last, hrest, hlast, rfl⟩, rfl⟩
    refine ⟨first, rest, hfirst, hrest, ?_⟩
    rw [pure_eq_done, handle_done, run_done, Option.some.injEq] at hlast
    subst hlast
    simp [Outcome.after]
  · rintro ⟨first, rest, hfirst, hrest, rfl⟩
    exact ⟨first, _, hfirst, ⟨rest, _, hrest, rfl, rfl⟩, by simp [Outcome.after]⟩

/-- What each operation of a sequence carries along with the flag holds after the whole sequence,
with the flag as the sequence leaves it. -/
theorem performAll_run_preserves (holds : Bool → σ → δ → List (Event J) → Prop)
    {ops : List Operation}
    (hop : ∀ op ∈ ops, ∀ flag state hardware past outcome, holds flag state hardware past →
      ((perform limits op).handle handler state).run device hardware = some outcome →
        holds (openAfter flag op) outcome.value.2 outcome.state (past ++ outcome.events))
    {flag : Bool} {state : σ} {hardware : δ} {past : List (Event J)}
    {outcome : Outcome J δ (String × σ)} (hholds : holds flag state hardware past)
    (hrun : ((performAll limits ops).handle handler state).run device hardware = some outcome) :
    holds (ops.foldl openAfter flag) outcome.value.2 outcome.state (past ++ outcome.events) := by
  induction ops generalizing flag state hardware past outcome with
  | nil =>
    rw [performAll, pure_eq_done, handle_done, run_done, Option.some.injEq] at hrun
    subst hrun
    simpa using hholds
  | cons op ops ih =>
    obtain ⟨first, rest, hfirst, hrest, rfl⟩ := performAll_cons_run_eq_some.mp hrun
    have hnext := hop op List.mem_cons_self _ _ _ _ _ hholds hfirst
    have hend := ih (fun other hother ↦ hop other (List.mem_cons_of_mem op hother)) hnext hrest
    rwa [List.append_assoc] at hend

/-- Carrying out a sequence is performing its operations and then closing what they left open. The
text is that of the operations, and no transaction counts as open afterwards. -/
theorem execute_run_eq_some {ops : List Operation} {isOpen : Bool} {state : σ} {hardware : δ}
    {outcome : Outcome J δ ((String × Bool) × σ)} :
    ((execute limits ops isOpen).handle handler state).run device hardware = some outcome ↔
      ∃ first last, ((performAll limits ops).handle handler state).run device hardware =
          some first ∧
        ((closeIfOpen (ops.foldl openAfter isOpen)).handle handler first.value.2).run device
          first.state = some last ∧
        outcome = ⟨((first.value.1, false), last.value.2), last.state,
          first.events ++ last.events⟩ := by
  simp only [execute, handle_run_bind_eq_some]
  constructor
  · rintro ⟨first, _, hfirst, ⟨last, done, hlast, hdone, rfl⟩, rfl⟩
    refine ⟨first, last, hfirst, hlast, ?_⟩
    rw [pure_eq_done, handle_done, run_done, Option.some.injEq] at hdone
    subst hdone
    simp [Outcome.after]
  · rintro ⟨first, last, hfirst, hlast, rfl⟩
    exact ⟨first, _, hfirst, ⟨last, _, hlast, rfl, rfl⟩, by simp [Outcome.after]⟩

/-- Closing is a stop on the bus whose failure is recorded. -/
theorem close_run_eq_some {state : σ} {hardware : δ} {outcome : Outcome J δ (Unit × σ)} :
    (close.handle handler state).run device hardware = some outcome ↔
      ∃ answer, ((attempt .stopFailed (onBus .stop)).handle handler state).run device hardware =
          some answer ∧
        outcome = answer.after [.note .closing] := by
  simp only [close, record, note_bind, done_bind, handle_note, run_note, Option.map_eq_some_iff]
  constructor
  · rintro ⟨answer, hanswer, rfl⟩
    exact ⟨answer, hanswer, rfl⟩
  · rintro ⟨answer, hanswer, rfl⟩
    exact ⟨answer, hanswer, rfl⟩

/-- On a bus that knows whether it is held without a look at the hardware, the closing is a stop
where the flag is set or the bus is held, and otherwise nothing. -/
theorem closeIfOpen_run_cases {held : σ → Bool}
    (hreleased : ∀ state, handler (.inl .released) state = .done (!held state, state))
    {isOpen : Bool} {state : σ} {hardware : δ} {outcome : Outcome J δ (Unit × σ)}
    (hrun : ((closeIfOpen isOpen).handle handler state).run device hardware = some outcome) :
    (isOpen || held state) = true ∧
        (close.handle handler state).run device hardware = some outcome ∨
      (isOpen || held state) = false ∧ outcome = ⟨((), state), hardware, []⟩ := by
  cases isOpen with
  | true => exact Or.inl ⟨rfl, hrun⟩
  | false =>
    rw [closeIfOpen, handle_bind, handle_onBus, hreleased, done_bind] at hrun
    cases hheld : held state with
    | true =>
      rw [hheld] at hrun
      exact Or.inl ⟨rfl, hrun⟩
    | false =>
      rw [hheld] at hrun
      exact Or.inr ⟨rfl, (Option.some.inj hrun).symm⟩

/-! ### The requests of an operation -/

/-- A request that begins or ends a transaction. -/
def IsFraming : Probe.Request → Prop
  | .inl .start | .inl .startAlt | .inl .stop | .inl .stopAlt => True
  | _ => False

/-- The bus requests that an operation may make: those of its own kind, with its own value and
width. What it asks of the board or of a line is left open. -/
def MayAsk (op : Operation) : Probe.Request → Prop
  | .inl .start => op.kind = .start
  | .inl .startAlt => op.kind = .startAlt
  | .inl .stop => op.kind = .stop
  | .inl .stopAlt => op.kind = .stopAlt
  | .inl (.write value width) => op.kind = .write ∧ value = op.value ∧ width = op.width
  | .inl (.read width) => op.kind = .read ∧ width = op.width
  | .inl (.line _) => True
  | .inl .released => False
  | .inr _ => True

section Asks

variable {allowed : Probe.Request → Prop}

theorem attempt_asks {notice : BusFailure → Notice}
    {script : Script Probe (Except BusFailure Unit)} (hscript : script.Asks allowed) :
    (attempt notice script).Asks allowed := by
  refine hscript.bind fun reply ↦ ?_
  cases reply with
  | ok value => trivial
  | error failure => trivial

theorem quietly_asks {script : Script Probe Unit} (hscript : script.Asks allowed) :
    (quietly script).Asks allowed :=
  hscript.bind fun _ ↦ trivial

theorem onBus_asks {request : BusRequest} (hrequest : allowed (.inl request)) :
    (onBus request).Asks allowed :=
  ⟨hrequest, fun _ ↦ trivial⟩

theorem onBoard_asks {request : BoardRequest} (hrequest : allowed (.inr request)) :
    (onBoard request).Asks allowed :=
  ⟨hrequest, fun _ ↦ trivial⟩

theorem awaitUnit_asks {width : Nat} (hread : allowed (.inl (.read width)))
    (htimer : allowed (.inr .timedOut)) (patience : Nat) :
    (awaitUnit limits width patience).Asks allowed := by
  induction patience with
  | zero => trivial
  | succ patience ih =>
    refine (onBus_asks hread).bind fun reply ↦ ?_
    cases reply with
    | ready value => trivial
    | failed failure => trivial
    | pending =>
      refine (onBoard_asks htimer).bind fun timedOut ↦ ?_
      cases timedOut with
      | true => trivial
      | false => exact ih

theorem readUnits_asks {width : Nat} (hread : allowed (.inl (.read width)))
    (htimer : allowed (.inr .timedOut)) (count : Nat) :
    (readUnits limits width count).Asks allowed := by
  induction count with
  | zero => trivial
  | succ count ih =>
    refine (awaitUnit_asks hread htimer _).bind fun unit? ↦ ?_
    cases unit? with
    | none => trivial
    | some value => exact ih.bind fun _ ↦ trivial

theorem measure_asks (hmeasure : allowed (.inr .measure)) : measure.Asks allowed := by
  refine (onBoard_asks hmeasure).bind fun reply ↦ ?_
  cases reply with
  | none => trivial
  | some millivolts => trivial

theorem workLine_asks {action : LineAction} (hline : allowed (.inl (.line action))) :
    (workLine action).Asks allowed := by
  refine (onBus_asks hline).bind fun reply ↦ ?_
  cases reply with
  | error failure => trivial
  | ok level =>
    cases level with
    | none => trivial
    | some level => trivial

end Asks

/-- What is done once for each count makes the requests of the operation. -/
theorem performOnce_asks (op : Operation) : (performOnce op).Asks op.MayAsk := by
  unfold performOnce
  split <;> rename_i hkind
  · exact attempt_asks (onBus_asks ⟨hkind, rfl, rfl⟩)
  · exact attempt_asks (onBus_asks hkind)
  · exact attempt_asks (onBus_asks hkind)
  · exact attempt_asks (onBus_asks hkind)
  · exact attempt_asks (onBus_asks hkind)
  iterate 6 exact workLine_asks trivial
  · exact measure_asks trivial
  all_goals trivial

/-- An operation makes its own requests and no others. -/
theorem perform_asks (op : Operation) : (perform limits op).Asks op.MayAsk := by
  unfold perform
  split
  · rename_i hkind
    exact (onBoard_asks trivial).bind fun _ ↦ readUnits_asks ⟨hkind, rfl⟩ trivial op.count
  iterate 5 exact quietly_asks (onBoard_asks trivial)
  · exact quietly_asks ((performOnce_asks op).times op.count)

/-- An operation that is neither a start nor a stop makes no request of framing. -/
theorem perform_asks_not_framing {op : Operation} (hstart : op.kind ≠ .start ∧ op.kind ≠ .startAlt)
    (hstop : op.kind ≠ .stop ∧ op.kind ≠ .stopAlt) :
    (perform limits op).Asks fun request ↦ ¬ IsFraming request := by
  refine (perform_asks op).mono fun request hrequest hframing ↦ ?_
  unfold IsFraming at hframing
  split at hframing
  · exact hstart.1 hrequest
  · exact hstart.2 hrequest
  · exact hstop.1 hrequest
  · exact hstop.2 hrequest
  · exact hframing

end BusProbe.Operation
