import BusProbe.Proofs.Operation.Runs
import BusProbe.Proofs.Script.Courses

/-!
# Courses of operations

What a sequence of operations comes to, whatever the bus and the board reply. An operation that is
not a read makes its own request as often as its count says and gives no text, whether its requests
work or not (`perform_ends`). A read polls for one unit after another and ends early where a poll
fails or the time is over; `Polled` and `Collected` say how far it came. After the operations the
closing makes at most one stop (`Closed`).
-/

set_option autoImplicit false
set_option relaxedAutoImplicit false

namespace BusProbe

/-! ### Requests to the bus -/

/-- The request to the bus in an event, if there is one. -/
def Event.busRequest? : Event Probe → Option BusRequest
  | .exchange (.inl request) _ => some request
  | _ => none

/-- The requests that were made to the bus during some events, in order. -/
def busRequests (events : List (Event Probe)) : List BusRequest :=
  events.filterMap Event.busRequest?

@[simp]
theorem busRequests_nil : busRequests [] = [] := rfl

@[simp]
theorem busRequests_append (first second : List (Event Probe)) :
    busRequests (first ++ second) = busRequests first ++ busRequests second :=
  List.filterMap_append

@[simp]
theorem busRequests_flatten (parts : List (List (Event Probe))) :
    busRequests parts.flatten = parts.flatMap busRequests :=
  List.filterMap_flatten

/-- The replies to reads during some events, in order. -/
def reads (events : List (Event Probe)) : List (Poll BusFailure Word) :=
  events.filterMap fun
    | .exchange (.inl (.read _)) reply => some reply
    | _ => none

theorem reads_append (first second : List (Event Probe)) :
    reads (first ++ second) = reads first ++ reads second :=
  List.filterMap_append

/-- What was replied to a read was asked for. -/
theorem read_mem_of_mem_reads {events : List (Event Probe)} {reply : Poll BusFailure Word}
    (hmem : reply ∈ reads events) : ∃ width, .read width ∈ busRequests events := by
  obtain ⟨event, hevent, hreply⟩ := List.mem_filterMap.mp hmem
  split at hreply
  · exact ⟨_, List.mem_filterMap.mpr ⟨_, hevent, rfl⟩⟩
  · exact absurd hreply nofun

namespace Operation

open Script Probe

/-- What an operation asks of the bus once for each count. -/
def request? (op : Operation) : Option BusRequest :=
  match op.kind with
  | .write => some (.write op.value op.width)
  | .read => some (.read op.width)
  | .start => some .start
  | .startAlt => some .startAlt
  | .stop => some .stop
  | .stopAlt => some .stopAlt
  | .clockHigh => some (.line .clockHigh)
  | .clockLow => some (.line .clockLow)
  | .dataHigh => some (.line .dataHigh)
  | .dataLow => some (.line .dataLow)
  | .tickClock => some (.line .tick)
  | .sampleData => some (.line .sample)
  | _ => none

/-- What an operation asks of the bus. -/
def requests (op : Operation) : List BusRequest :=
  (List.replicate op.count op.request?.toList).flatten

theorem requests_eq_replicate {op : Operation} {request : BusRequest}
    (hrequest : op.request? = some request) : op.requests = List.replicate op.count request := by
  simp [requests, hrequest]

theorem read_notMem_requests {op : Operation} (hread : op.kind ≠ .read) (width : Nat) :
    .read width ∉ op.requests := by
  intro hmem
  obtain ⟨_, hreplicate, hasked⟩ := List.mem_flatten.mp hmem
  rw [List.eq_of_mem_replicate hreplicate, Option.mem_toList, request?] at hasked
  split at hasked <;> simp_all

/-! ### One operation -/

theorem onBus_ends {request : BusRequest} {reply : BusRequest.Reply request}
    {events : List (Event Probe)} (hends : (onBus request).Ends reply events) :
    events = [.exchange (.inl request) reply] := by
  obtain ⟨_, _, hdone, rfl⟩ := ends_ask_iff.mp hends
  obtain ⟨rfl, rfl⟩ := ends_done_iff.mp hdone
  rfl

theorem onBoard_ends {request : BoardRequest} {reply : BoardRequest.Reply request}
    {events : List (Event Probe)} (hends : (onBoard request).Ends reply events) :
    events = [.exchange (.inr request) reply] := by
  obtain ⟨_, _, hdone, rfl⟩ := ends_ask_iff.mp hends
  obtain ⟨rfl, rfl⟩ := ends_done_iff.mp hdone
  rfl

theorem busRequests_complaint (notice : BusFailure → Notice) (reply : Except BusFailure Unit) :
    busRequests (complaint notice reply) = [] := by
  cases reply <;> rfl

/-- What is recorded of a failure comes after the request that failed. -/
theorem attempt_ends {notice : BusFailure → Notice}
    {script : Script Probe (Except BusFailure Unit)} {events : List (Event Probe)}
    (hends : (attempt notice script).Ends () events) :
    ∃ reply first, script.Ends reply first ∧ events = first ++ complaint notice reply := by
  obtain ⟨reply, first, second, hfirst, hsecond, rfl⟩ := ends_bind_iff.mp hends
  refine ⟨reply, first, hfirst, ?_⟩
  cases reply with
  | ok value =>
    obtain ⟨-, rfl⟩ := ends_done_iff.mp hsecond
    rfl
  | error failure =>
    obtain ⟨_, hdone, rfl⟩ := ends_note_iff.mp hsecond
    obtain ⟨-, rfl⟩ := ends_done_iff.mp hdone
    rfl

/-! ### What is done once for each count -/

/-- What trying something records of a reply. -/
def complaints (notice : BusFailure → Notice) : Except BusFailure Unit → List Notice
  | .ok () => []
  | .error failure => [notice failure]

/-- Trying something is asking for it and recording a failure. -/
theorem attempt_asksOnce (notice : BusFailure → Notice) (request : Probe.Request)
    (result : Probe.Reply request → Except BusFailure Unit) :
    (attempt notice (.ask request fun reply ↦ .done (result reply))).AsksOnce request := by
  refine ⟨fun reply ↦ complaints notice (result reply),
    congrArg (Script.ask request) (funext fun reply ↦ ?_)⟩
  show (Script.done (result reply) >>= _) = recordAll (complaints notice (result reply))
  rw [done_bind]
  cases result reply <;> rfl

theorem workLine_asksOnce (action : LineAction) :
    (workLine action).AsksOnce (.inl (.line action)) := by
  refine ⟨fun
    | .ok (some level) => [.sampled level]
    | .ok none => []
    | .error failure => [.lineFailed action failure],
    congrArg (Script.ask (I := Probe) (.inl (.line action))) (funext fun reply ↦ ?_)⟩
  rcases reply with failure | _ | level <;> rfl

theorem measure_asksOnce : measure.AsksOnce (.inr .measure) := by
  refine ⟨fun
    | some millivolts => [.measured millivolts]
    | none => [.cannotMeasure],
    congrArg (Script.ask (I := Probe) (.inr .measure)) (funext fun reply ↦ ?_)⟩
  cases reply <;> rfl

/-- What is done once for each count asks for one thing, which is the request of the operation if
the bus is asked, or else it does nothing. -/
theorem performOnce_cases (op : Operation) :
    performOnce op = .done () ∧ (op.kind = .read ∨ op.request? = none) ∨
      ∃ request, (performOnce op).AsksOnce request ∧ Sum.getLeft? request = op.request? := by
  unfold performOnce request?
  split <;> rename_i hkind <;> rw [hkind]
  · exact Or.inr ⟨_, attempt_asksOnce _ (.inl (.write op.value op.width)) id, rfl⟩
  · exact Or.inr ⟨_, attempt_asksOnce _ (.inl .start) id, rfl⟩
  · exact Or.inr ⟨_, attempt_asksOnce _ (.inl .startAlt) id, rfl⟩
  · exact Or.inr ⟨_, attempt_asksOnce _ (.inl .stop) id, rfl⟩
  · exact Or.inr ⟨_, attempt_asksOnce _ (.inl .stopAlt) id, rfl⟩
  iterate 6 exact Or.inr ⟨_, workLine_asksOnce _, rfl⟩
  · exact Or.inr ⟨_, measure_asksOnce, rfl⟩
  · exact Or.inl ⟨rfl, Or.inl rfl⟩
  all_goals exact Or.inl ⟨rfl, Or.inr rfl⟩

theorem busRequests_map_note (notices : List Notice) :
    busRequests (notices.map .note) = [] := by
  induction notices with
  | nil => rfl
  | cons notice notices ih => exact ih

/-- What is done once for each count makes the request of the operation. -/
theorem performOnce_ends {op : Operation} (hread : op.kind ≠ .read) {events : List (Event Probe)}
    (hends : (performOnce op).Ends () events) : busRequests events = op.request?.toList := by
  rcases performOnce_cases op with ⟨hdone, hkind | hnone⟩ | ⟨request, honce, hrequest⟩
  · exact absurd hkind hread
  · rw [hdone] at hends
    obtain ⟨-, rfl⟩ := ends_done_iff.mp hends
    rw [hnone]
    rfl
  · obtain ⟨reply, notices, rfl⟩ := honce.ends hends
    rw [← hrequest]
    rcases request with request | request
    · exact congrArg (List.cons request) (busRequests_map_note notices)
    · exact busRequests_map_note notices

/-- Doing something quietly gives no text. -/
theorem quietly_ends {script : Script Probe Unit} {text : String} {events : List (Event Probe)}
    (hends : (quietly script).Ends text events) : text = "" ∧ script.Ends () events := by
  obtain ⟨_, first, second, hfirst, hsecond, rfl⟩ := ends_bind_iff.mp hends
  obtain ⟨rfl, rfl⟩ := ends_done_iff.mp hsecond
  exact ⟨rfl, by rwa [List.append_nil]⟩

variable {limits : Limits}

/-- An operation that is not a read asks the board for one thing, or does something as often as its
count says. -/
theorem perform_cases (limits : Limits) {op : Operation} (hread : op.kind ≠ .read) :
    (∃ request script, perform limits op = quietly script ∧ script.AsksOnce (.inr request) ∧
        op.request? = none) ∨
      perform limits op = quietly (times op.count (performOnce op)) := by
  unfold perform
  split <;> rename_i hkind
  · exact absurd hkind hread
  iterate 5 exact Or.inl ⟨_, _, rfl, ⟨fun _ ↦ [], rfl⟩, by rw [request?, hkind]⟩
  · exact Or.inr rfl

/-- An operation that is not a read makes its own requests, whether or not they work, and gives no
text. -/
theorem perform_ends {op : Operation} (hread : op.kind ≠ .read) {text : String}
    {events : List (Event Probe)} (hends : (perform limits op).Ends text events) :
    text = "" ∧ busRequests events = op.requests := by
  rcases perform_cases limits hread with ⟨request, script, heq, honce, hnone⟩ | heq
  · rw [heq] at hends
    obtain ⟨rfl, hinner⟩ := quietly_ends hends
    obtain ⟨reply, notices, rfl⟩ := honce.ends hinner
    have hrequests : op.requests = [] := by simp [requests, hnone]
    rw [hrequests]
    exact ⟨rfl, busRequests_map_note notices⟩
  · rw [heq] at hends
    obtain ⟨rfl, htimes⟩ := quietly_ends hends
    obtain ⟨parts, hlength, rfl, hparts⟩ := ends_times htimes
    have hmap : parts.map busRequests = List.replicate op.count op.request?.toList := by
      rw [← hlength, ← List.map_const']
      exact List.map_congr_left fun part hmem ↦ performOnce_ends hread (hparts part hmem)
    exact ⟨rfl, by rw [busRequests_flatten, List.flatMap_def, hmap, requests]⟩

/-! ### Reads -/

/-- How polling for one unit of data can go: some polls find nothing yet while there is time left,
and then a unit comes, a poll fails or the time is over. -/
inductive Polled (limits : Limits) (width : Nat) : Option Word → List (Event Probe) → Prop
  | ready (value : Word) :
      Polled limits width (some value) [.exchange (.inl (.read width)) (.ready value)]
  | failed (failure : BusFailure) :
      Polled limits width none
        [.exchange (.inl (.read width)) (.failed failure), .note (.readFailed failure)]
  | expired :
      Polled limits width none
        [.exchange (.inl (.read width)) .pending, .exchange (.inr .timedOut) true,
          .note (.readTimedOut limits.readMillis)]
  | again {unit? : Option Word} {events : List (Event Probe)}
      (hlater : Polled limits width unit? events) :
      Polled limits width unit?
        (.exchange (.inl (.read width)) .pending :: .exchange (.inr .timedOut) false :: events)

/-- How reading some number of units can go: one unit after another is polled for, until there are
enough of them or the polling for one is given up. -/
inductive Collected (limits : Limits) (width : Nat) : Nat → List Word → List (Event Probe) → Prop
  | enough : Collected limits width 0 [] []
  | unit {count : Nat} {value : Word} {values : List Word} {first later : List (Event Probe)}
      (hfirst : Polled limits width (some value) first)
      (hlater : Collected limits width count values later) :
      Collected limits width (count + 1) (value :: values) (first ++ later)
  | givenUp {count : Nat} {events : List (Event Probe)}
      (hevents : Polled limits width none events) :
      Collected limits width (count + 1) [] events

theorem awaitUnit_ends {width patience : Nat} {unit? : Option Word} {events : List (Event Probe)}
    (hends : (awaitUnit limits width patience).Ends unit? events) :
    Polled limits width unit? events := by
  induction patience generalizing unit? events with
  | zero => exact absurd hends not_ends_stalled
  | succ patience ih =>
    obtain ⟨reply, first, second, hfirst, hsecond, rfl⟩ := ends_bind_iff.mp hends
    obtain rfl := onBus_ends hfirst
    cases reply with
    | ready value =>
      obtain ⟨rfl, rfl⟩ := ends_done_iff.mp hsecond
      exact .ready value
    | failed failure =>
      obtain ⟨_, hdone, rfl⟩ := ends_note_iff.mp hsecond
      obtain ⟨rfl, rfl⟩ := ends_done_iff.mp hdone
      exact .failed failure
    | pending =>
      obtain ⟨timedOut, asked, later, hasked, hlater, rfl⟩ := ends_bind_iff.mp hsecond
      obtain rfl := onBoard_ends hasked
      cases timedOut with
      | true =>
        obtain ⟨_, hdone, rfl⟩ := ends_note_iff.mp hlater
        obtain ⟨rfl, rfl⟩ := ends_done_iff.mp hdone
        exact .expired
      | false => exact .again (ih hlater)

/-- The text of some units of one width. -/
def unitsText (width : Nat) (values : List Word) : String :=
  String.join (values.map (unitText · width))

theorem readUnits_ends {width count : Nat} {text : String} {events : List (Event Probe)}
    (hends : (readUnits limits width count).Ends text events) :
    ∃ values, Collected limits width count values events ∧ text = unitsText width values := by
  induction count generalizing text events with
  | zero =>
    obtain ⟨rfl, rfl⟩ := ends_done_iff.mp hends
    exact ⟨[], .enough, rfl⟩
  | succ count ih =>
    obtain ⟨unit?, first, second, hfirst, hsecond, rfl⟩ := ends_bind_iff.mp hends
    have hpolled := awaitUnit_ends hfirst
    cases unit? with
    | none =>
      obtain ⟨rfl, rfl⟩ := ends_done_iff.mp hsecond
      rw [List.append_nil]
      exact ⟨[], .givenUp hpolled, rfl⟩
    | some value =>
      obtain ⟨more, later, done, hlater, hdone, rfl⟩ := ends_bind_iff.mp hsecond
      obtain ⟨rfl, rfl⟩ := ends_done_iff.mp hdone
      obtain ⟨values, hvalues, rfl⟩ := ih hlater
      rw [List.append_nil]
      exact ⟨value :: values, .unit hpolled hvalues, by simp [unitsText]⟩

/-- A read starts the timer once, and then collects its units. -/
theorem perform_read_ends {op : Operation} (hread : op.kind = .read) {text : String}
    {events : List (Event Probe)} (hends : (perform limits op).Ends text events) :
    ∃ values later, Collected limits op.width op.count values later ∧
      events = .exchange (.inr (.startTimer limits.readMillis)) () :: later ∧
      text = unitsText op.width values := by
  simp only [perform, hread] at hends
  obtain ⟨_, first, later, hfirst, hlater, rfl⟩ := ends_bind_iff.mp hends
  obtain rfl := onBoard_ends hfirst
  obtain ⟨values, hvalues, rfl⟩ := readUnits_ends hlater
  exact ⟨values, later, hvalues, rfl, rfl⟩

/-! ### Sequences -/

theorem performAll_nil_ends {text : String} {events : List (Event Probe)}
    (hends : (performAll limits []).Ends text events) : text = "" ∧ events = [] :=
  ends_done_iff.mp hends

/-- A course of a sequence is one of its first operation and then one of the rest. -/
theorem performAll_cons_ends {op : Operation} {ops : List Operation} {text : String}
    {events : List (Event Probe)} (hends : (performAll limits (op :: ops)).Ends text events) :
    ∃ first rest before later, (perform limits op).Ends first before ∧
      (performAll limits ops).Ends rest later ∧ text = first ++ rest ∧
      events = before ++ later := by
  obtain ⟨first, before, _, hfirst, hsecond, rfl⟩ := ends_bind_iff.mp hends
  obtain ⟨rest, later, done, hrest, hdone, rfl⟩ := ends_bind_iff.mp hsecond
  obtain ⟨rfl, rfl⟩ := ends_done_iff.mp hdone
  exact ⟨first, rest, before, later, hfirst, hrest, rfl, by rw [List.append_nil]⟩

/-- What happens when a transaction is closed, with the reply to the stop. -/
def closingEvents (reply : Except BusFailure Unit) : List (Event Probe) :=
  .note .closing :: .exchange (.inl .stop) reply :: complaint .stopFailed reply

theorem busRequests_closingEvents (reply : Except BusFailure Unit) :
    busRequests (closingEvents reply) = [.stop] :=
  congrArg (List.cons BusRequest.stop) (busRequests_complaint .stopFailed reply)

/-- How the closing can go: a transaction that counts as open is closed, and otherwise the bus is
asked whether it is released, and the transaction is closed if it is not. -/
inductive Closed : Bool → List (Event Probe) → Prop
  | released : Closed false [.exchange (.inl .released) true]
  | held (reply : Except BusFailure Unit) :
      Closed false (.exchange (.inl .released) false :: closingEvents reply)
  | opened (reply : Except BusFailure Unit) : Closed true (closingEvents reply)

theorem close_ends {events : List (Event Probe)} (hends : close.Ends () events) :
    ∃ reply, events = closingEvents reply := by
  obtain ⟨later, hlater, rfl⟩ := ends_note_iff.mp hends
  obtain ⟨reply, first, hfirst, rfl⟩ := attempt_ends hlater
  obtain rfl := onBus_ends hfirst
  exact ⟨reply, rfl⟩

theorem closeIfOpen_ends {isOpen : Bool} {events : List (Event Probe)}
    (hends : (closeIfOpen isOpen).Ends () events) : Closed isOpen events := by
  cases isOpen with
  | true =>
    obtain ⟨reply, rfl⟩ := close_ends hends
    exact .opened reply
  | false =>
    obtain ⟨released, first, later, hfirst, hlater, rfl⟩ := ends_bind_iff.mp hends
    obtain rfl := onBus_ends hfirst
    cases released with
    | true =>
      obtain ⟨-, rfl⟩ := ends_done_iff.mp hlater
      exact .released
    | false =>
      obtain ⟨reply, rfl⟩ := close_ends hlater
      exact .held reply

/-- A run of a sequence with its closing is a run of the operations and then of the closing. -/
theorem execute_run_eq {σ : Type} {device : Device Probe σ} {state : σ} {ops : List Operation}
    {isOpen : Bool} {outcome : Outcome Probe σ (String × Bool)}
    (hrun : (execute limits ops isOpen).run device state = some outcome) :
    ∃ first last, (performAll limits ops).run device state = some first ∧
      (closeIfOpen (ops.foldl openAfter isOpen)).run device first.state = some last ∧
      outcome = ⟨(first.value, false), last.state, first.events ++ last.events⟩ := by
  obtain ⟨first, _, hfirst, hsecond, rfl⟩ := run_bind_eq_some.mp hrun
  obtain ⟨last, done, hlast, hdone, rfl⟩ := run_bind_eq_some.mp hsecond
  obtain rfl := Option.some.inj hdone
  exact ⟨first, last, hfirst, hlast, by simp [Outcome.after]⟩

/-! ### A rehearsed probe -/

/-- What a rehearsed probe will still reply: to reads, and when asked whether the time is over. -/
structure Rehearsal where
  polls : List (Poll BusFailure Word)
  expiries : List Bool

/-- A probe whose replies to reads and about the timer are laid down beforehand. Everything else
works, or else nothing does and the bus is never released. -/
def rehearsed (works : Bool) : Device Probe Rehearsal
  | .inl (.read _), left => (left.polls.headD .pending, { left with polls := left.polls.tail })
  | .inl .start, left | .inl .startAlt, left | .inl .stop, left | .inl .stopAlt, left
  | .inl (.write _ _), left => (if works then .ok () else .error .pin, left)
  | .inl (.line _), left => (if works then .ok (some true) else .error .pin, left)
  | .inl .released, left => (works, left)
  | .inr .timedOut, left =>
    (left.expiries.headD true, { left with expiries := left.expiries.tail })
  | .inr .measure, left => (if works then some 3300 else none, left)
  | .inr (.delayMicros _), left | .inr (.delayMillis _), left | .inr (.setAux _), left
  | .inr (.startTimer _), left => ((), left)

end Operation

end BusProbe
