import BusProbe.Proofs.Operation.Courses

/-!
# The closing of a sequence

A sequence of operations may leave a transaction open, by a start without a stop or because the bus
holds on to it. The flag says whether the last request that began or ended a transaction began one
(`foldl_openAfter`), whatever counts the operations have and whether their requests worked. The
closing adds one stop exactly where the flag is set or the bus says that it is not released, so that
the last such request of a whole sequence never begins a transaction (`execute_run_framings`).
-/

set_option autoImplicit false
set_option relaxedAutoImplicit false

namespace BusProbe

namespace BusRequest

/-- Whether a request begins a transaction. -/
def begins : BusRequest → Bool
  | .start | .startAlt => true
  | _ => false

/-- Whether a request begins or ends a transaction. -/
def isFraming : BusRequest → Bool
  | .start | .startAlt | .stop | .stopAlt => true
  | _ => false

end BusRequest

/-- The requests that begin or end a transaction. -/
def framings (requests : List BusRequest) : List BusRequest :=
  requests.filter BusRequest.isFraming

@[simp]
theorem framings_append (first second : List BusRequest) :
    framings (first ++ second) = framings first ++ framings second :=
  List.filter_append first second

/-- Whether a transaction counts as open after some framing requests: whether the last of them
begins one. -/
def openAfterAll (isOpen : Bool) (requests : List BusRequest) : Bool :=
  requests.getLast?.elim isOpen BusRequest.begins

theorem openAfterAll_append (isOpen : Bool) (first second : List BusRequest) :
    openAfterAll isOpen (first ++ second) = openAfterAll (openAfterAll isOpen first) second := by
  simp only [openAfterAll, List.getLast?_append]
  cases second.getLast? <;> rfl

namespace Operation

open Script Probe

variable {limits : Limits}

/-! ### The framing requests of operations -/

theorem Polled.busRequests_eq {width : Nat} {unit? : Option Word} {events : List (Event Probe)}
    (hpolled : Polled limits width unit? events) :
    ∀ request ∈ busRequests events, request = .read width := by
  induction hpolled with
  | ready value => exact fun request hmem ↦ List.mem_singleton.mp hmem
  | failed failure => exact fun request hmem ↦ List.mem_singleton.mp hmem
  | expired => exact fun request hmem ↦ List.mem_singleton.mp hmem
  | again hlater ih =>
    intro request hmem
    rcases List.mem_cons.mp hmem with rfl | hmem
    · rfl
    · exact ih request hmem

/-- Reading makes no other requests to the bus than reads. -/
theorem Collected.busRequests_eq {width count : Nat} {values : List Word}
    {events : List (Event Probe)} (hcollected : Collected limits width count values events) :
    ∀ request ∈ busRequests events, request = .read width := by
  induction hcollected with
  | enough => simp
  | givenUp hevents => exact hevents.busRequests_eq
  | unit hfirst hlater ih =>
    intro request hmem
    rw [busRequests_append, List.mem_append] at hmem
    rcases hmem with hmem | hmem
    · exact hfirst.busRequests_eq request hmem
    · exact ih request hmem

theorem framings_eq_nil {requests : List BusRequest} {width : Nat}
    (hrequests : ∀ request ∈ requests, request = .read width) : framings requests = [] := by
  refine List.filter_eq_nil_iff.mpr fun request hmem ↦ ?_
  rw [hrequests request hmem]
  exact Bool.false_ne_true

/-- An operation begins and ends transactions as it says, whether its requests work or not. -/
theorem perform_framings {op : Operation} {text : String} {events : List (Event Probe)}
    (hends : (perform limits op).Ends text events) :
    framings (busRequests events) = framings op.requests := by
  by_cases hread : op.kind = .read
  · obtain ⟨values, later, hcollected, rfl, -⟩ := perform_read_ends hread hends
    have hmade : framings (busRequests later) = [] := framings_eq_nil hcollected.busRequests_eq
    have hrequest : op.request? = some (.read op.width) := by rw [request?, hread]
    have hreads : ∀ request ∈ op.requests, request = .read op.width := by
      intro request hmem
      rw [requests_eq_replicate hrequest] at hmem
      exact List.eq_of_mem_replicate hmem
    have hasked : framings op.requests = [] := framings_eq_nil hreads
    rw [hasked, ← hmade]
    rfl
  · rw [(perform_ends hread hends).2]

/-- The framing requests of a sequence are those of its operations, in order. -/
theorem performAll_framings {ops : List Operation} {text : String} {events : List (Event Probe)}
    (hends : (performAll limits ops).Ends text events) :
    framings (busRequests events) = framings (ops.flatMap requests) := by
  induction ops generalizing text events with
  | nil =>
    obtain ⟨-, rfl⟩ := performAll_nil_ends hends
    rfl
  | cons op ops ih =>
    obtain ⟨_, _, before, later, hfirst, hrest, -, rfl⟩ := performAll_cons_ends hends
    rw [busRequests_append, framings_append, perform_framings hfirst, ih hrest,
      List.flatMap_cons, framings_append]

/-! ### The flag -/

/-- An operation that asks for a framing request makes it as often as its count says. -/
theorem framings_requests {op : Operation} {request : BusRequest}
    (hrequest : op.request? = some request) (hframing : request.isFraming = true) :
    framings op.requests = List.replicate op.count request := by
  simp [framings, requests_eq_replicate hrequest, hframing]

/-- The flag follows the framing requests that an operation makes. A count of zero makes none. -/
theorem openAfter_eq (isOpen : Bool) (op : Operation) :
    openAfter isOpen op = openAfterAll isOpen (framings op.requests) := by
  have hframing : ∀ request, op.request? = some request → request.isFraming = true →
      openAfterAll isOpen (framings op.requests) =
        if op.count = 0 then isOpen else request.begins := by
    intro request hrequest hframing
    rw [framings_requests hrequest hframing, openAfterAll, List.getLast?_replicate]
    split <;> rfl
  obtain ⟨kind, data, width, count, widthGiven, countGiven⟩ := op
  cases kind with
  | start =>
    rw [hframing .start rfl rfl]
    cases count <;> simp [openAfter, BusRequest.begins]
  | startAlt =>
    rw [hframing .startAlt rfl rfl]
    cases count <;> simp [openAfter, BusRequest.begins]
  | stop =>
    rw [hframing .stop rfl rfl]
    cases count <;> simp [openAfter, BusRequest.begins]
  | stopAlt =>
    rw [hframing .stopAlt rfl rfl]
    cases count <;> simp [openAfter, BusRequest.begins]
  | _ => simp [openAfter, openAfterAll, framings, requests, request?, BusRequest.isFraming]

/-- The flag after some operations says whether the last framing request that they make begins a
transaction, or is as before if they make none. -/
theorem foldl_openAfter (ops : List Operation) (isOpen : Bool) :
    ops.foldl openAfter isOpen = openAfterAll isOpen (framings (ops.flatMap requests)) := by
  induction ops generalizing isOpen with
  | nil => rfl
  | cons op ops ih =>
    rw [List.foldl_cons, ih, openAfter_eq, List.flatMap_cons, framings_append,
      openAfterAll_append]

/-! ### The closing -/

/-- The closing asks the bus for one stop, where it is needed, and otherwise only whether the bus is
released. -/
theorem Closed.busRequests_eq {isOpen : Bool} {closing : List (Event Probe)}
    (hclosed : Closed isOpen closing) :
    isOpen = true ∧ busRequests closing = [.stop] ∨
      isOpen = false ∧ busRequests closing = [.released, .stop] ∧
        .exchange (.inl .released) false ∈ closing ∨
      isOpen = false ∧ busRequests closing = [.released] ∧
        .exchange (.inl .released) true ∈ closing := by
  cases hclosed with
  | opened reply => exact Or.inl ⟨rfl, busRequests_closingEvents reply⟩
  | held reply =>
    refine Or.inr (Or.inl ⟨rfl, ?_, List.mem_cons_self⟩)
    exact congrArg (List.cons BusRequest.released) (busRequests_closingEvents reply)
  | released => exact Or.inr (Or.inr ⟨rfl, rfl, List.mem_cons_self⟩)

/-- If the flag is as some framing requests leave it, none that begins a transaction is the last
after the closing. -/
theorem Closed.begins_getLast? {isOpen before : Bool} {asked : List BusRequest}
    {closing : List (Event Probe)} (hclosed : Closed isOpen closing)
    (hflag : isOpen = openAfterAll before asked) {request : BusRequest}
    (hlast : (asked ++ framings (busRequests closing)).getLast? = some request) :
    request.begins = false := by
  rcases hclosed.busRequests_eq with ⟨-, hstop⟩ | ⟨-, hstop, -⟩ | ⟨hnot, hnone, -⟩
  · rw [hstop, List.getLast?_append] at hlast
    obtain rfl := Option.some.inj hlast
    rfl
  · rw [hstop, List.getLast?_append] at hlast
    obtain rfl := Option.some.inj hlast
    rfl
  · have hnil : asked ++ framings [BusRequest.released] = asked := List.append_nil asked
    rw [hnone, hnil] at hlast
    rw [hnot, openAfterAll, hlast] at hflag
    exact hflag.symm

/-- After a sequence no transaction is left open, whatever bus and board reply and whatever the
counts are. The framing requests of the sequence are those that the operations ask for, and one stop
more if a transaction still counts as open or the bus says that it is not released; the closing asks
the bus for nothing else. So the last framing request is none that begins a transaction, and none
counts as open afterwards. -/
theorem execute_run_framings {σ : Type} {device : Device Probe σ} {state : σ}
    {ops : List Operation} {isOpen : Bool} {outcome : Outcome Probe σ (String × Bool)}
    (hrun : (execute limits ops isOpen).run device state = some outcome) :
    ∃ first closing, (performAll limits ops).run device state = some first ∧
      outcome.events = first.events ++ closing ∧
      framings (busRequests first.events) = framings (ops.flatMap requests) ∧
      ops.foldl openAfter isOpen = openAfterAll isOpen (framings (busRequests first.events)) ∧
      (ops.foldl openAfter isOpen = true ∧ busRequests closing = [.stop] ∨
        ops.foldl openAfter isOpen = false ∧ busRequests closing = [.released, .stop] ∧
          .exchange (.inl .released) false ∈ closing ∨
        ops.foldl openAfter isOpen = false ∧ busRequests closing = [.released] ∧
          .exchange (.inl .released) true ∈ closing) ∧
      (∀ request, (framings (busRequests outcome.events)).getLast? = some request →
        request.begins = false) ∧
      outcome.value.2 = false := by
  obtain ⟨first, last, hfirst, hlast, rfl⟩ := execute_run_eq hrun
  have hasked := performAll_framings (ends_of_run hfirst)
  have hflag := foldl_openAfter ops isOpen
  rw [← hasked] at hflag
  have hclosed := closeIfOpen_ends (ends_of_run hlast)
  refine ⟨first, last.events, hfirst, rfl, hasked, hflag, hclosed.busRequests_eq, ?_, rfl⟩
  intro request hrequest
  rw [busRequests_append, framings_append] at hrequest
  exact hclosed.begins_getLast? hflag hrequest

/-- Two starts, no stop at all and another start, none of which works, are followed by one stop. -/
theorem failing_starts_closed :
    ∃ outcome, (execute ⟨2000, 1⟩ [(ofKind .start).withCount 2, (ofKind .stopAlt).withCount 0,
          ofKind .startAlt] false).run (rehearsed false) ⟨[], []⟩ = some outcome ∧
      framings (busRequests outcome.events) = [.start, .start, .startAlt, .stop] ∧
      (∀ request, (framings (busRequests outcome.events)).getLast? = some request →
        request.begins = false) ∧
      outcome.value.2 = false := by
  refine ⟨_, rfl, rfl, ?_⟩
  obtain ⟨-, -, -, -, -, -, -, hlast, hflag⟩ := execute_run_framings
    (show (execute ⟨2000, 1⟩ [(ofKind .start).withCount 2, (ofKind .stopAlt).withCount 0,
      ofKind .startAlt] false).run (rehearsed false) ⟨[], []⟩ = some _ from rfl)
  exact ⟨hlast, hflag⟩

end Operation

end BusProbe
