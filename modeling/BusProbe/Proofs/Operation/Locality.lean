import BusProbe.Proofs.Operation.Courses
import BusProbe.Proofs.Script.Alike

/-!
# Failures stay local

What is done next depends on the replies to reads and on the timer, and on nothing else: whether a
start, a stop, a write or the work on a line fails, and what voltage is measured, is recorded and
then forgotten. So an operation goes alike whatever these replies are (`perform_alike`), and on two
probes whose reads and timers reply the same, one after another, a sequence makes the same requests
and gives the same text (`execute_trace_eq`). Only the closing may differ, since it asks the bus
whether it is released.
-/

set_option autoImplicit false
set_option relaxedAutoImplicit false

namespace BusProbe

/-! ### The replies that matter -/

/-- What was replied during some events to the question whether the time is over, in order. -/
def expiries (events : List (Event Probe)) : List Bool :=
  events.filterMap fun
    | .exchange (.inr .timedOut) reply => some reply
    | _ => none

theorem expiries_append (first second : List (Event Probe)) :
    expiries (first ++ second) = expiries first ++ expiries second :=
  List.filterMap_append

/-- Two successions have the same members as far as both of them go. -/
def Agree {γ : Type} (first second : List γ) : Prop :=
  ∀ (index : Nat) value value', first[index]? = some value → second[index]? = some value' →
    value = value'

namespace Agree

variable {γ : Type} {first second : List γ}

theorem of_eq (heq : first = second) : Agree first second := by
  intro index value value' hfirst hsecond
  rw [heq] at hfirst
  exact Option.some.inj (hfirst.symm.trans hsecond)

theorem head {value value' : γ} (hagree : Agree (value :: first) (value' :: second)) :
    value = value' :=
  hagree 0 value value' rfl rfl

theorem tail {value value' : γ} (hagree : Agree (value :: first) (value' :: second)) :
    Agree first second :=
  fun index ↦ hagree (index + 1)

/-- What agrees with more agrees at the beginning. -/
theorem of_append {more more' : List γ} (hagree : Agree (first ++ more) (second ++ more')) :
    Agree first second := by
  intro index value value' hfirst hsecond
  have hleft : (first ++ more)[index]? = some value := by
    rw [List.getElem?_append_left (List.getElem?_eq_some_iff.mp hfirst).1, hfirst]
  have hright : (second ++ more')[index]? = some value' := by
    rw [List.getElem?_append_left (List.getElem?_eq_some_iff.mp hsecond).1, hsecond]
  exact hagree index value value' hleft hright

end Agree

namespace Operation

open Script Probe

/-- The requests whose replies decide what is done next. -/
def IsHeeded : Probe.Request → Prop
  | .inl (.read _) | .inr .timedOut => True
  | _ => False

/-- On two probes the reads and the timers reply the same, as far as both are asked. -/
def RepliesAgree (events events' : List (Event Probe)) : Prop :=
  Agree (reads events) (reads events') ∧ Agree (expiries events) (expiries events')

theorem RepliesAgree.of_append {events events' more more' : List (Event Probe)}
    (hagree : RepliesAgree (events ++ more) (events' ++ more')) : RepliesAgree events events' := by
  unfold RepliesAgree at hagree
  rw [reads_append, reads_append, expiries_append, expiries_append] at hagree
  exact ⟨hagree.1.of_append, hagree.2.of_append⟩

theorem repliesAgree_settles : Settles IsHeeded RepliesAgree where
  note_left _ _ _ hagree := hagree
  note_right _ _ _ hagree := hagree
  exchange request reply reply' events events' hagree := by
    rcases request with request | request
    · cases request with
      | read width => exact ⟨fun _ ↦ hagree.1.head, hagree.1.tail, hagree.2⟩
      | _ => exact ⟨False.elim, hagree⟩
    · cases request with
      | timedOut => exact ⟨fun _ ↦ hagree.2.head, hagree.1, hagree.2.tail⟩
      | _ => exact ⟨False.elim, hagree⟩

/-! ### Operations -/

variable {heeded : Probe.Request → Prop}

theorem performOnce_alike (op : Operation) : (performOnce op).Alike heeded (performOnce op) := by
  rcases performOnce_cases op with ⟨hdone, -⟩ | ⟨request, honce, -⟩
  · rw [hdone]
    exact .done ()
  · exact honce.alike

theorem quietly_alike {script : Script Probe Unit} (hscript : script.Alike heeded script) :
    (quietly script).Alike heeded (quietly script) :=
  hscript.bind fun _ ↦ .done ""

variable {limits : Limits}

/-- Polling goes alike if both the bus and the timer reply the same. -/
theorem awaitUnit_alike (width patience : Nat) :
    (awaitUnit limits width patience).Alike IsHeeded (awaitUnit limits width patience) := by
  induction patience with
  | zero => exact .stalled
  | succ patience ih =>
    refine .ask fun reply reply' hreply ↦ ?_
    obtain rfl := hreply trivial
    cases reply with
    | ready value => exact .done (some value)
    | failed failure => exact .noteLeft (.noteRight (.done none))
    | pending =>
      refine .ask fun timedOut timedOut' htimedOut ↦ ?_
      obtain rfl := htimedOut trivial
      cases timedOut with
      | true => exact .noteLeft (.noteRight (.done none))
      | false => exact ih

theorem readUnits_alike (width count : Nat) :
    (readUnits limits width count).Alike IsHeeded (readUnits limits width count) := by
  induction count with
  | zero => exact .done ""
  | succ count ih =>
    refine (awaitUnit_alike width limits.patience).bind fun unit? ↦ ?_
    cases unit? with
    | none => exact .done ""
    | some value => exact ih.bind fun text ↦ .done (unitText value width ++ text)

/-- An operation goes alike whatever is replied, as long as the heeded replies are the same. -/
theorem perform_alike (op : Operation) :
    (perform limits op).Alike IsHeeded (perform limits op) := by
  by_cases hread : op.kind = .read
  · simp only [perform, hread]
    exact .ask fun _ _ _ ↦ readUnits_alike op.width op.count
  · rcases perform_cases limits hread with ⟨request, script, heq, honce, -⟩ | heq
    · rw [heq]
      exact quietly_alike honce.alike
    · rw [heq]
      exact quietly_alike ((performOnce_alike op).times op.count)

theorem performAll_alike (ops : List Operation) :
    (performAll limits ops).Alike IsHeeded (performAll limits ops) := by
  induction ops with
  | nil => exact .done ""
  | cons op ops ih =>
    exact (perform_alike op).bind fun first ↦ ih.bind fun rest ↦ .done (first ++ rest)

/-! ### Sequences -/

variable {σ τ : Type} {ops : List Operation} {isOpen : Bool}

theorem close_run (device : Device Probe σ) (state : σ) :
    ∃ outcome, close.run device state = some outcome := by
  simp only [close, record, note_bind, done_bind, run_note, attempt, onBus, ask_bind, run_ask]
  cases (device (.inl .stop) state).1 <;> exact ⟨_, rfl⟩

/-- The closing always comes to an end. -/
theorem closeIfOpen_run (device : Device Probe σ) (isOpen : Bool) (state : σ) :
    ∃ outcome, (closeIfOpen isOpen).run device state = some outcome := by
  cases isOpen with
  | true => exact close_run device state
  | false =>
    simp only [closeIfOpen, onBus, ask_bind, done_bind, run_ask]
    cases (device (.inl .released) state).1 with
    | true => exact ⟨_, rfl⟩
    | false =>
      obtain ⟨outcome, hrun⟩ := close_run device (device (.inl .released) state).2
      exact ⟨_, congrArg (Option.map _) hrun⟩

/-- What the closing may ask for: it stops, or asks first whether the bus is released, or has no
occasion because the operations stalled. -/
def closings : List (List Probe.Request) :=
  [[], [.inl .stop], [.inl .released], [.inl .released, .inl .stop]]

theorem requests_complaint (notice : BusFailure → Notice) (reply : Except BusFailure Unit) :
    Event.requests (complaint notice reply : List (Event Probe)) = [] := by
  cases reply <;> rfl

theorem Closed.requests_mem_closings {closing : List (Event Probe)}
    (hclosed : Closed isOpen closing) : Event.requests closing ∈ closings := by
  cases hclosed with
  | released => simp [closings]
  | held reply => simp [closings, closingEvents, requests_complaint]
  | opened reply => simp [closings, closingEvents, requests_complaint]

/-- When a sequence is carried out, its operations are and then the closing is, unless the
operations stall. The closing does not matter for the text. -/
theorem execute_eq_performAll (limits : Limits) (ops : List Operation) (isOpen : Bool)
    (device : Device Probe σ) (state : σ) :
    ∃ closing, (execute limits ops isOpen).trace device state =
        (performAll limits ops).trace device state ++ closing ∧
      Event.requests closing ∈ closings ∧
      ((execute limits ops isOpen).run device state).map (·.value.1) =
        ((performAll limits ops).run device state).map Outcome.value := by
  rw [execute, trace_bind, run_bind]
  refine ⟨_, rfl, ?_⟩
  cases hfirst : (performAll limits ops).run device state with
  | none => exact ⟨List.mem_cons_self, rfl⟩
  | some first =>
    obtain ⟨last, hlast⟩ := closeIfOpen_run device (ops.foldl openAfter isOpen) first.state
    have hclosed := closeIfOpen_ends (ends_of_run hlast)
    simp only [Option.elim_some, Option.bind_some, trace_bind, trace_of_run hlast, run_bind, hlast,
      pure_eq_done, trace, List.append_nil]
    exact ⟨hclosed.requests_mem_closings, rfl⟩

/-- Two probes that reply the same to reads and about the timer are asked for the same things, in
the same order, by the operations of a sequence, and the sequence has the same text on both or
stalls on both. The other replies may differ as they like. What is asked after the operations is the
closing. -/
theorem execute_trace_eq {device : Device Probe σ} {device' : Device Probe τ} {state : σ}
    {state' : τ}
    (hreads : Agree (reads ((execute limits ops isOpen).trace device state))
      (reads ((execute limits ops isOpen).trace device' state')))
    (hexpiries : Agree (expiries ((execute limits ops isOpen).trace device state))
      (expiries ((execute limits ops isOpen).trace device' state'))) :
    ∃ asked closing closing',
      asked = Event.requests ((performAll limits ops).trace device state) ∧
      asked = Event.requests ((performAll limits ops).trace device' state') ∧
      Event.requests ((execute limits ops isOpen).trace device state) = asked ++ closing ∧
      Event.requests ((execute limits ops isOpen).trace device' state') = asked ++ closing' ∧
      closing ∈ closings ∧ closing' ∈ closings ∧
      ((execute limits ops isOpen).run device state).map (·.value.1) =
        ((execute limits ops isOpen).run device' state').map (·.value.1) := by
  obtain ⟨closing, htrace, hclosing, htext⟩ :=
    execute_eq_performAll limits ops isOpen device state
  obtain ⟨closing', htrace', hclosing', htext'⟩ :=
    execute_eq_performAll limits ops isOpen device' state'
  have hagree : RepliesAgree ((execute limits ops isOpen).trace device state)
    ((execute limits ops isOpen).trace device' state') := ⟨hreads, hexpiries⟩
  rw [htrace, htrace'] at hagree
  obtain ⟨hrequests, hvalue⟩ :=
    (performAll_alike ops).requests_eq repliesAgree_settles hagree.of_append
  refine ⟨_, Event.requests closing, Event.requests closing', rfl, hrequests, ?_, ?_, hclosing,
    hclosing', ?_⟩
  · rw [htrace, Event.requests_append]
  · rw [htrace', Event.requests_append, hrequests]
  · rw [htext, htext', hvalue]

/-- A probe on which nothing works is asked for what one is asked on which everything does, and for
one stop more, and the text is the same. -/
theorem failing_probe_same_text :
    let script := execute ⟨2000, 9⟩ [ofKind .start, write 7, (ofKind .read).withCount 3,
      ofKind .clockHigh, ofKind .sampleVoltage, ofKind .stop] false
    let left : Rehearsal := ⟨[.pending, .ready 171, .failed .pin], [false]⟩
    let asked : List Probe.Request := [.inl .start, .inl (.write 7 8), .inr (.startTimer 2000),
      .inl (.read 8), .inr .timedOut, .inl (.read 8), .inl (.read 8), .inl (.line .clockHigh),
      .inr .measure, .inl .stop]
    Event.requests (script.trace (rehearsed true) left) = asked ++ [.inl .released] ∧
      Event.requests (script.trace (rehearsed false) left) =
        asked ++ [.inl .released, .inl .stop] ∧
      (script.run (rehearsed true) left).map (·.value.1) = some "AB " ∧
      (script.run (rehearsed true) left).map (·.value.1) =
        (script.run (rehearsed false) left).map (·.value.1) := by
  intro script left asked
  have hreads : Agree (reads (script.trace (rehearsed true) left))
      (reads (script.trace (rehearsed false) left)) := .of_eq (by decide +kernel)
  have hexpiries : Agree (expiries (script.trace (rehearsed true) left))
      (expiries (script.trace (rehearsed false) left)) := .of_eq (by decide +kernel)
  obtain ⟨_, _, _, -, -, -, -, -, -, htext⟩ := execute_trace_eq hreads hexpiries
  exact ⟨by decide +kernel, by decide +kernel, by decide +kernel, htext⟩

end Operation

end BusProbe
