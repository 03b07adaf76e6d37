import BusProbe.Proofs.Operation.Locality
import BusProbe.Proofs.Operation.Ready

/-!
# Waiting for data

A read asks the bus for one unit after another and, where a unit is not there yet, asks the timer
whether the time is over. The timer is started once for all units of a read. On a board whose timer
is found to be over after a bounded number of questions, a read therefore comes to an end, even if
the bus never has anything: it asks the bus at most once for each unit and once for each question,
and the timer at most as often as the bound says (`perform_run_waits`). So a sequence always comes
to an end, and what its reads ask for adds up (`execute_run_waits`). None of this depends on the
patience of a script, as long as it does not run out before the timer does.
-/

set_option autoImplicit false
set_option relaxedAutoImplicit false

namespace BusProbe

variable {σ : Type}

/-! ### Timers -/

/-- When the timer was started during some events, and for how many milliseconds. -/
def timerStarts (events : List (Event Probe)) : List Nat :=
  events.filterMap fun
    | .exchange (.inr (.startTimer millis)) _ => some millis
    | _ => none

theorem timerStarts_append (first second : List (Event Probe)) :
    timerStarts (first ++ second) = timerStarts first ++ timerStarts second :=
  List.filterMap_append

/-- Whether a request asks if the time is over. -/
def asksTimer : Probe.Request → Bool
  | .inr .timedOut => true
  | _ => false

/-- Of the next `polls` questions whether the time is over, one is answered with yes, whatever else
is asked for in between, as long as the timer is not started again. -/
def Expires (device : Device Probe σ) (polls : Nat) (state : σ) : Prop :=
  ∀ asked : List Probe.Request, (∀ millis, .inr (.startTimer millis) ∉ asked) →
    asked.countP asksTimer = polls →
      ∃ before after, asked = before ++ .inr .timedOut :: after ∧
        (device (.inr .timedOut) (device.after before state)).1 = true

/-- Each time that the timer is started, one of the next `polls` questions whether the time is over
is answered with yes. -/
def ExpiresWithin (device : Device Probe σ) (polls : Nat) (state : σ) : Prop :=
  ∀ (asked : List Probe.Request) (millis : Nat),
    Expires device polls (device.after (asked ++ [.inr (.startTimer millis)]) state)

namespace Expires

variable {device : Device Probe σ} {polls : Nat} {state : σ}

/-- Without a question there is no answer. -/
theorem pos (hexpires : Expires device polls state) : 0 < polls := by
  refine Nat.pos_of_ne_zero fun hzero ↦ ?_
  obtain ⟨before, after, hasked, -⟩ :=
    hexpires [] (fun _ ↦ List.not_mem_nil) (hzero ▸ List.countP_nil)
  simp at hasked

/-- What is asked for besides does not hold the timer up. -/
theorem of_other (hexpires : Expires device polls state) {request : Probe.Request}
    (hstart : ∀ millis, request ≠ .inr (.startTimer millis)) (htimer : asksTimer request = false) :
    Expires device polls (device request state).2 := by
  intro asked hasked hcount
  obtain ⟨before, after, heq, hreply⟩ := hexpires (request :: asked)
    (fun millis hmem ↦ (List.mem_cons.mp hmem).elim (fun h ↦ hstart millis h.symm) (hasked millis))
    (by rw [List.countP_cons_of_neg (by rw [htimer]; exact Bool.false_ne_true), hcount])
  cases before with
  | nil =>
    rw [(List.cons.inj heq).1] at htimer
    exact absurd htimer.symm Bool.false_ne_true
  | cons first before =>
    obtain ⟨rfl, rfl⟩ := List.cons.inj heq
    exact ⟨before, after, rfl, hreply⟩

/-- A question that is answered with no leaves one question less. -/
theorem of_not_over (hexpires : Expires device (polls + 1) state)
    (hreply : (device (.inr .timedOut) state).1 = false) :
    Expires device polls (device (.inr .timedOut) state).2 := by
  intro asked hasked hcount
  obtain ⟨before, after, heq, hover⟩ := hexpires (.inr .timedOut :: asked)
    (fun millis hmem ↦ (List.mem_cons.mp hmem).elim nofun (hasked millis))
    (by rw [List.countP_cons_of_pos rfl, hcount])
  cases before with
  | nil => exact absurd (hreply.symm.trans hover) Bool.false_ne_true
  | cons first before =>
    obtain ⟨rfl, rfl⟩ := List.cons.inj heq
    exact ⟨before, after, rfl, hover⟩

end Expires

theorem ExpiresWithin.after {device : Device Probe σ} {polls : Nat} {state : σ}
    (hexpires : ExpiresWithin device polls state) (asked : List Probe.Request) :
    ExpiresWithin device polls (device.after asked state) := by
  intro more millis
  rw [← Device.after_append, ← List.append_assoc]
  exact hexpires (asked ++ more) millis

namespace Operation

open Script Probe

/-! ### What is asked for while waiting -/

/-- During some events the timer is asked at most `polls` times whether the time is over and the bus
at most `units + polls` times for data, and the timer is not started. -/
structure WaitsWithin (units polls : Nat) (events : List (Event Probe)) : Prop where
  reads_le : (reads events).length ≤ units + polls
  expiries_le : (expiries events).length ≤ polls
  timerStarts_eq : timerStarts events = []

namespace WaitsWithin

variable {units more polls others : Nat} {first second : List (Event Probe)}

theorem append (hfirst : WaitsWithin units polls first) (hsecond : WaitsWithin more others second) :
    WaitsWithin (units + more) (polls + others) (first ++ second) where
  reads_le := by
    rw [reads_append, List.length_append]
    have hreads := Nat.add_le_add hfirst.reads_le hsecond.reads_le
    omega
  expiries_le := by
    rw [expiries_append, List.length_append]
    exact Nat.add_le_add hfirst.expiries_le hsecond.expiries_le
  timerStarts_eq := by
    rw [timerStarts_append, hfirst.timerStarts_eq, hsecond.timerStarts_eq, List.append_nil]

theorem mono (hfirst : WaitsWithin units polls first) (hunits : units ≤ more)
    (hpolls : polls ≤ others) : WaitsWithin more others first where
  reads_le := hfirst.reads_le.trans (Nat.add_le_add hunits hpolls)
  expiries_le := hfirst.expiries_le.trans hpolls
  timerStarts_eq := hfirst.timerStarts_eq

end WaitsWithin

/-! ### One unit after another -/

variable {device : Device Probe σ} {state : σ} {polls : Nat}

/-- Polling for one unit comes to an end before the questions to the timer are used up. If the unit
came, those that were not used are left for the next one. -/
theorem awaitUnit_run_waits (hexpires : Expires device polls state) (millis width : Nat) :
    ∃ outcome used left,
      (∀ patience more, (awaitUnit ⟨millis, patience⟩ width (more + polls)).run device state =
        some outcome) ∧
      used + left = polls ∧ WaitsWithin 1 used outcome.events ∧
      (outcome.value ≠ none → Expires device left outcome.state) := by
  induction polls generalizing state with
  | zero => exact absurd hexpires.pos (Nat.lt_irrefl 0)
  | succ polls ih =>
    have hread : Expires device (polls + 1) (device (.inl (.read width)) state).2 :=
      hexpires.of_other nofun rfl
    simp only [awaitUnit, onBus, onBoard, ask_bind, done_bind, run_ask]
    cases hreply : (device (.inl (.read width)) state).1 with
    | ready value =>
      exact ⟨_, 0, polls + 1, fun _ _ ↦ rfl, Nat.zero_add _, ⟨Nat.le_refl 1, Nat.le_refl 0, rfl⟩,
        fun _ ↦ hread⟩
    | failed failure =>
      exact ⟨_, 0, polls + 1, fun _ _ ↦ rfl, Nat.zero_add _, ⟨Nat.le_refl 1, Nat.le_refl 0, rfl⟩,
        fun hnone ↦ absurd rfl hnone⟩
    | pending =>
      simp only [run_ask]
      cases hover : (device (.inr .timedOut) (device (.inl (.read width)) state).2).1 with
      | true =>
        exact ⟨_, 1, polls, fun _ _ ↦ rfl, Nat.add_comm 1 polls,
          ⟨Nat.le_succ 1, Nat.le_refl 1, rfl⟩, fun hnone ↦ absurd rfl hnone⟩
      | false =>
        obtain ⟨outcome, used, left, hrun, hleft, hwaits, hnext⟩ := ih (hread.of_not_over hover)
        have hasked : WaitsWithin 0 1 [Event.exchange (I := Probe) (.inl (.read width)) .pending,
            .exchange (.inr .timedOut) false] := ⟨Nat.le_refl 1, Nat.le_refl 1, rfl⟩
        refine ⟨outcome.after [.exchange (.inl (.read width)) .pending,
          .exchange (.inr .timedOut) false], 1 + used, left, fun patience more ↦ ?_, ?_,
          hasked.append hwaits, hnext⟩
        · simp only [Bool.false_eq_true, if_false]
          change (((awaitUnit _ width (more + polls)).run device _).map _).map _ = _
          rw [hrun patience more]
          rfl
        · rw [Nat.add_assoc, hleft, Nat.add_comm]

/-- Reading some number of units comes to an end, with one allowance of questions to the timer for
all of them. -/
theorem readUnits_run_waits (hexpires : Expires device polls state) (millis width count : Nat) :
    ∃ outcome,
      (∀ patience, polls ≤ patience →
        (readUnits ⟨millis, patience⟩ width count).run device state = some outcome) ∧
      WaitsWithin count polls outcome.events := by
  induction count generalizing state polls with
  | zero => exact ⟨_, fun _ _ ↦ rfl, ⟨Nat.zero_le _, Nat.zero_le _, rfl⟩⟩
  | succ count ih =>
    obtain ⟨first, used, left, hfirst, hleft, hwaits, hnext⟩ :=
      awaitUnit_run_waits hexpires millis width
    have hrun : ∀ patience, polls ≤ patience →
        (awaitUnit ⟨millis, patience⟩ width patience).run device state = some first := by
      intro patience hpatience
      have hmore := hfirst patience (patience - polls)
      rwa [Nat.sub_add_cancel hpatience] at hmore
    cases hvalue : first.value with
    | none =>
      refine ⟨⟨"", first.state, first.events⟩, fun patience hpatience ↦ ?_,
        hwaits.mono (Nat.succ_le_succ (Nat.zero_le count)) (by omega)⟩
      refine run_bind_eq_some.mpr ⟨first, _, hrun patience hpatience, by rw [hvalue]; rfl, ?_⟩
      simp [Outcome.after]
    | some value =>
      obtain ⟨rest, hrest, hlater⟩ := ih (hnext (by rw [hvalue]; exact Option.some_ne_none value))
      refine ⟨⟨unitText value width ++ rest.value, rest.state, first.events ++ rest.events⟩,
        fun patience hpatience ↦ ?_, ?_⟩
      · refine run_bind_eq_some.mpr ⟨first,
          ⟨unitText value width ++ rest.value, rest.state, rest.events⟩,
          hrun patience hpatience, ?_, rfl⟩
        rw [hvalue]
        refine run_bind_eq_some.mpr ⟨rest, _, hrest patience (by omega), rfl, ?_⟩
        simp [Outcome.after]
      · have hboth := hwaits.append hlater
        rwa [hleft, Nat.add_comm 1 count] at hboth

/-! ### Operations -/

/-- A request that only reads make: for data, or to the timer. -/
def IsWaiting : Probe.Request → Prop
  | .inl (.read _) | .inr .timedOut | .inr (.startTimer _) => True
  | _ => False

theorem waitsWithin_of_not_waiting {events : List (Event Probe)}
    (hevents : ∀ request ∈ Event.requests events, ¬ IsWaiting request) :
    WaitsWithin 0 0 events := by
  induction events with
  | nil => exact ⟨Nat.le_refl 0, Nat.le_refl 0, rfl⟩
  | cons event events ih =>
    cases event with
    | note notice =>
      obtain ⟨hreads, hexpiries, hstarts⟩ := ih hevents
      exact ⟨hreads, hexpiries, hstarts⟩
    | exchange request reply =>
      obtain ⟨hrequest, hmore⟩ := List.forall_mem_cons.mp hevents
      have hone : WaitsWithin 0 0 [.exchange request reply] := by
        rcases request with request | request
        · cases request with
          | read width => exact absurd trivial hrequest
          | _ => exact ⟨Nat.le_refl 0, Nat.le_refl 0, rfl⟩
        · cases request with
          | timedOut | startTimer millis => exact absurd trivial hrequest
          | _ => exact ⟨Nat.le_refl 0, Nat.le_refl 0, rfl⟩
      exact hone.append (ih hmore)

theorem performOnce_asks_not_waiting (op : Operation) :
    (performOnce op).Asks fun request ↦ ¬ IsWaiting request := by
  unfold performOnce
  split
  iterate 5 exact attempt_asks (onBus_asks id)
  iterate 6 exact workLine_asks id
  · exact measure_asks id
  all_goals trivial

theorem perform_asks_not_waiting {limits : Limits} {op : Operation} (hread : op.kind ≠ .read) :
    (perform limits op).Asks fun request ↦ ¬ IsWaiting request := by
  unfold perform
  split
  · rename_i hkind
    exact absurd hkind hread
  iterate 5 exact quietly_asks (onBoard_asks id)
  · exact quietly_asks ((performOnce_asks_not_waiting op).times op.count)

/-- Only reads look at the limits on waiting. -/
theorem perform_eq_of_ne_read {op : Operation} (hread : op.kind ≠ .read) (limits other : Limits) :
    perform limits op = perform other op := by
  unfold perform
  split
  · rename_i hkind
    exact absurd hkind hread
  all_goals rfl

/-- How an operation waits during its own part of the events. A read starts the timer once, before
anything else, and then asks for data and about the time within the allowance; no other operation
asks for any of this. -/
structure Waits (millis polls : Nat) (op : Operation) (events : List (Event Probe)) : Prop where
  course : ∃ text, (perform ⟨millis, polls⟩ op).Ends text events
  read : op.kind = .read → ∃ later, events = .exchange (.inr (.startTimer millis)) () :: later ∧
    WaitsWithin op.count polls later
  other : op.kind ≠ .read → WaitsWithin 0 0 events

/-- An operation comes to an end, and waits as it should. -/
theorem perform_run_waits (hexpires : ExpiresWithin device polls state) (millis : Nat)
    (op : Operation) :
    ∃ outcome,
      (∀ patience, polls ≤ patience →
        (perform ⟨millis, patience⟩ op).run device state = some outcome) ∧
      Waits millis polls op outcome.events := by
  by_cases hread : op.kind = .read
  · obtain ⟨rest, hrest, hwaits⟩ :=
      readUnits_run_waits (hexpires [] millis) millis op.width op.count
    have hrun : ∀ patience, polls ≤ patience →
        (perform ⟨millis, patience⟩ op).run device state =
          some (rest.after [.exchange (.inr (.startTimer millis)) ()]) := by
      intro patience hpatience
      simp only [perform, hread, onBoard, ask_bind, done_bind, run_ask]
      exact congrArg (Option.map _) (hrest patience hpatience)
    exact ⟨_, hrun, ⟨_, ends_of_run (hrun polls (Nat.le_refl polls))⟩,
      fun _ ↦ ⟨rest.events, rfl, hwaits⟩, fun hother ↦ absurd hread hother⟩
  · have hhalts : (perform ⟨millis, polls⟩ op).Halts Probe.anyReply := perform_halts hread
    obtain ⟨outcome, hrun, -⟩ := hhalts.run device.answers_any state
    have hends := ends_of_run hrun
    refine ⟨outcome, fun patience _ ↦ ?_, ⟨_, hends⟩, fun hkind ↦ absurd hkind hread, fun _ ↦ ?_⟩
    · rw [perform_eq_of_ne_read hread _ ⟨millis, polls⟩, hrun]
    · exact waitsWithin_of_not_waiting ((perform_asks_not_waiting hread).of_ends hends)

/-! ### Sequences -/

/-- The operations of a sequence that read. -/
def readOperations (ops : List Operation) : List Operation := ops.filter (·.kind = .read)

/-- What the operations of a sequence ask for while waiting adds up. -/
theorem waits_flatten {millis : Nat} {ops : List Operation} {parts : List (List (Event Probe))}
    (hparts : List.Forall₂ (Waits millis polls) ops parts) :
    (reads parts.flatten).length ≤ ((readOperations ops).map (·.count + polls)).sum ∧
      (expiries parts.flatten).length ≤ (readOperations ops).length * polls ∧
      timerStarts parts.flatten = List.replicate (readOperations ops).length millis := by
  induction hparts with
  | nil => exact ⟨Nat.le_refl 0, Nat.zero_le _, rfl⟩
  | @cons op part ops parts hpart hparts ih =>
    obtain ⟨hreads, hexpiries, hstarts⟩ := ih
    rw [List.flatten_cons, reads_append, expiries_append, timerStarts_append, List.length_append,
      List.length_append, hstarts]
    by_cases hread : op.kind = .read
    · obtain ⟨later, rfl, hwaits⟩ := hpart.read hread
      have hops : readOperations (op :: ops) = op :: readOperations ops :=
        List.filter_cons_of_pos (decide_eq_true hread)
      rw [hops, List.map_cons, List.sum_cons, List.length_cons, Nat.succ_mul,
        List.replicate_succ]
      refine ⟨Nat.add_le_add hwaits.reads_le hreads, ?_, ?_⟩
      · rw [Nat.add_comm]
        exact Nat.add_le_add hexpiries hwaits.expiries_le
      · exact congrArg (List.cons millis · ++ _) hwaits.timerStarts_eq
    · have hwaits := hpart.other hread
      have hops : readOperations (op :: ops) = readOperations ops :=
        List.filter_cons_of_neg (by simpa using hread)
      rw [hops, hwaits.timerStarts_eq]
      exact ⟨(Nat.add_le_add hwaits.reads_le hreads).trans_eq (Nat.zero_add _),
        (Nat.add_le_add hwaits.expiries_le hexpiries).trans_eq (Nat.zero_add _), rfl⟩

theorem performAll_run_waits (hexpires : ExpiresWithin device polls state) (millis : Nat)
    (ops : List Operation) :
    ∃ outcome parts,
      (∀ patience, polls ≤ patience →
        (performAll ⟨millis, patience⟩ ops).run device state = some outcome) ∧
      List.Forall₂ (Waits millis polls) ops parts ∧ outcome.events = parts.flatten := by
  induction ops generalizing state with
  | nil => exact ⟨_, [], fun _ _ ↦ rfl, .nil, rfl⟩
  | cons op ops ih =>
    obtain ⟨first, hfirst, hwaits⟩ := perform_run_waits hexpires millis op
    have hstate := state_of_run (hfirst polls (Nat.le_refl polls))
    obtain ⟨rest, parts, hrest, hparts, hevents⟩ := ih (hstate ▸ hexpires.after _)
    refine ⟨⟨first.value ++ rest.value, rest.state, first.events ++ rest.events⟩,
      first.events :: parts, fun patience hpatience ↦ ?_, .cons hwaits hparts, ?_⟩
    · refine run_bind_eq_some.mpr ⟨first, ⟨first.value ++ rest.value, rest.state, rest.events⟩,
        hfirst patience hpatience, ?_, rfl⟩
      refine run_bind_eq_some.mpr ⟨rest, _, hrest patience hpatience, rfl, ?_⟩
      simp [Outcome.after]
    · rw [hevents, List.flatten_cons]

theorem Closed.waitsWithin {isOpen : Bool} {closing : List (Event Probe)}
    (hclosed : Closed isOpen closing) : WaitsWithin 0 0 closing := by
  cases hclosed with
  | released => exact ⟨Nat.le_refl 0, Nat.le_refl 0, rfl⟩
  | held reply => cases reply <;> exact ⟨Nat.le_refl 0, Nat.le_refl 0, rfl⟩
  | opened reply => cases reply <;> exact ⟨Nat.le_refl 0, Nat.le_refl 0, rfl⟩

/-- A sequence comes to an end if the timer does, whatever the bus replies: each operation waits as
it should, the closing does not wait at all, and what the reads ask for adds up. -/
theorem execute_run_waits (hexpires : ExpiresWithin device polls state) (millis : Nat)
    (ops : List Operation) (isOpen : Bool) :
    ∃ outcome parts closing,
      (∀ patience, polls ≤ patience →
        (execute ⟨millis, patience⟩ ops isOpen).run device state = some outcome) ∧
      outcome.events = parts.flatten ++ closing ∧
      List.Forall₂ (Waits millis polls) ops parts ∧ WaitsWithin 0 0 closing ∧
      (reads outcome.events).length ≤ ((readOperations ops).map (·.count + polls)).sum ∧
      (expiries outcome.events).length ≤ (readOperations ops).length * polls ∧
      timerStarts outcome.events = List.replicate (readOperations ops).length millis := by
  obtain ⟨first, parts, hfirst, hparts, hevents⟩ := performAll_run_waits hexpires millis ops
  obtain ⟨last, hlast⟩ := closeIfOpen_run device (ops.foldl openAfter isOpen) first.state
  have hclosing := (closeIfOpen_ends (ends_of_run hlast)).waitsWithin
  obtain ⟨hreads, hexpiries, hstarts⟩ := waits_flatten hparts
  refine ⟨⟨(first.value, false), last.state, first.events ++ last.events⟩, parts, last.events,
    fun patience hpatience ↦ ?_, congrArg (· ++ _) hevents, hparts, hclosing, ?_⟩
  · refine run_bind_eq_some.mpr ⟨first, ⟨(first.value, false), last.state, last.events⟩,
      hfirst patience hpatience, ?_, rfl⟩
    refine run_bind_eq_some.mpr ⟨last, _, hlast, rfl, ?_⟩
    simp [Outcome.after]
  · rw [hevents, reads_append, expiries_append, timerStarts_append, List.length_append,
      List.length_append, hclosing.timerStarts_eq, List.append_nil]
    exact ⟨Nat.add_le_add hreads hclosing.reads_le, Nat.add_le_add hexpiries hclosing.expiries_le,
      hstarts⟩

/-! ### A silent bus -/

/-- A bus that never has data, beside a board that counts down from `polls` once its timer is
started. The state is the number of questions that are still answered with no. -/
def silent (polls : Nat) : Device Probe Nat
  | .inl (.read _), left => (.pending, left)
  | .inl .start, left | .inl .startAlt, left | .inl .stop, left | .inl .stopAlt, left
  | .inl (.write _ _), left => (.ok (), left)
  | .inl (.line _), left => (.ok none, left)
  | .inl .released, left => (true, left)
  | .inr .timedOut, left => (left == 0, left - 1)
  | .inr .measure, left => (none, left)
  | .inr (.startTimer _), _ => ((), polls - 1)
  | .inr (.delayMicros _), left | .inr (.delayMillis _), left | .inr (.setAux _), left => ((), left)

/-- Whatever else is asked for, the board counts down with each question. -/
theorem silent_expires (polls left : Nat) : Expires (silent polls) (left + 1) left := by
  intro asked hasked hcount
  induction asked generalizing left with
  | nil => exact absurd hcount (Nat.succ_ne_zero left).symm
  | cons request asked ih =>
    have hmore : ∀ millis, .inr (.startTimer millis) ∉ asked :=
      fun millis hmem ↦ hasked millis (List.mem_cons_of_mem _ hmem)
    rcases request with request | request
    · obtain ⟨before, after, rfl, hreply⟩ := ih left hmore hcount
      refine ⟨.inl request :: before, after, rfl, ?_⟩
      cases request <;> exact hreply
    · cases request with
      | startTimer millis => exact absurd List.mem_cons_self (hasked millis)
      | timedOut =>
        cases left with
        | zero => exact ⟨[], asked, rfl, rfl⟩
        | succ left =>
          rw [List.countP_cons_of_pos rfl] at hcount
          obtain ⟨before, after, rfl, hreply⟩ := ih left hmore (Nat.succ.inj hcount)
          exact ⟨.inr .timedOut :: before, after, rfl, hreply⟩
      | _ =>
        obtain ⟨before, after, rfl, hreply⟩ := ih left hmore hcount
        exact ⟨_ :: before, after, rfl, hreply⟩

theorem silent_expiresWithin (polls left : Nat) :
    ExpiresWithin (silent (polls + 1)) (polls + 1) left := by
  intro asked millis
  rw [Device.after_append]
  exact silent_expires (polls + 1) polls

/-- Two reads of a bus that never has data ask the timer three times each, and end. -/
theorem silent_reads_end :
    ExpiresWithin (silent 3) 3 0 ∧
      ∃ outcome, (execute ⟨2000, 3⟩ [(ofKind .read).withCount 2, write 7, ofKind .read] false).run
          (silent 3) 0 = some outcome ∧
        (reads outcome.events).length ≤ (2 + 3) + (1 + 3) ∧
        (expiries outcome.events).length ≤ 2 * 3 ∧
        timerStarts outcome.events = [2000, 2000] := by
  refine ⟨silent_expiresWithin 2 0, ?_⟩
  obtain ⟨outcome, _, _, hrun, -, -, -, hreads, hexpiries, hstarts⟩ :=
    execute_run_waits (silent_expiresWithin 2 0) 2000
      [(ofKind .read).withCount 2, write 7, ofKind .read] false
  exact ⟨outcome, hrun 3 (Nat.le_refl 3), hreads, hexpiries, hstarts⟩

end Operation

end BusProbe
