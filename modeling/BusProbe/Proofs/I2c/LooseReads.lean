import BusProbe.Proofs.I2c.Acknowledge
import BusProbe.Proofs.I2c.Release
import BusProbe.Proofs.Operation.Closing
import BusProbe.Proofs.Operation.Ready

/-!
# Bytes that a sequence leaves owed

On a controller that does all it is asked for, every byte that a sequence reads is acknowledged
before anything else happens on the bus. The last one waits for something that refuses it, and at
the end of a sequence that is the closing stop. It is made where a transaction is open and nowhere
else. So a sequence leaves a byte behind if its last operation on the bus is a read and no
transaction is open then, and in no other case (`acknowledged_iff_not_endsLoose`); the byte is
accepted if the next sequence begins with a read. `loose_byte_accepted` is a run in which that
happens.
-/

set_option autoImplicit false
set_option relaxedAutoImplicit false

namespace BusProbe.I2c

open Script Operation Probe

/-! ### Acknowledged bytes -/

/-- Whenever the controller is asked for a byte, it is asked for an acknowledgement next. -/
def EachAcknowledged (requests : List ControllerRequest) : Prop :=
  ∀ before after, requests = before ++ .readByte :: after →
    ∃ accept later, after = .acknowledge accept :: later

/-- Every byte is acknowledged, and the last of them is refused. -/
structure Acknowledged (requests : List ControllerRequest) : Prop where
  each : EachAcknowledged requests
  last_refused : .readByte ∈ requests → ∃ before after,
    requests = before ++ .readByte :: .acknowledge false :: after ∧ .readByte ∉ after

theorem eachAcknowledged_of_notMem {requests : List ControllerRequest}
    (hrequests : .readByte ∉ requests) : EachAcknowledged requests := by
  rintro before after rfl
  exact absurd (List.mem_append_right before List.mem_cons_self) hrequests

theorem eachAcknowledged_pair (accept : Bool) :
    EachAcknowledged [.readByte, .acknowledge accept] := by
  intro before after heq
  cases before with
  | nil => exact ⟨accept, [], (List.cons.inj heq).2.symm⟩
  | cons first before =>
    have hmem : ControllerRequest.readByte ∈ [.acknowledge accept] := by
      rw [(List.cons.inj heq).2]
      exact List.mem_append_right before List.mem_cons_self
    exact absurd (List.mem_singleton.mp hmem) nofun

theorem EachAcknowledged.append {first second : List ControllerRequest}
    (hfirst : EachAcknowledged first) (hsecond : EachAcknowledged second) :
    EachAcknowledged (first ++ second) := by
  intro before after heq
  rcases List.append_eq_append_iff.mp heq with ⟨middle, rfl, hmiddle⟩ | ⟨middle, hmiddle, heq⟩
  · exact hsecond middle after hmiddle
  · cases middle with
    | nil => exact hsecond [] after heq.symm
    | cons request middle =>
      obtain ⟨rfl, rfl⟩ := List.cons.inj heq
      obtain ⟨accept, later, rfl⟩ := hfirst before middle hmiddle
      exact ⟨accept, later ++ second, rfl⟩

/-- A byte that nothing follows is not acknowledged. -/
theorem not_acknowledged_of_readByte_last (requests : List ControllerRequest) :
    ¬ Acknowledged (requests ++ [.readByte]) := by
  intro hacknowledged
  obtain ⟨accept, later, hlater⟩ := hacknowledged.each requests [] rfl
  exact absurd hlater nofun

/-- A refusal settles the byte before it. -/
theorem EachAcknowledged.refuse {earlier others : List ControllerRequest}
    (hearlier : EachAcknowledged earlier) (hothers : .readByte ∉ others) :
    Acknowledged (earlier ++ .readByte :: .acknowledge false :: others) where
  each := hearlier.append
    ((eachAcknowledged_pair false).append (eachAcknowledged_of_notMem hothers))
  last_refused _ := ⟨earlier, others, rfl, hothers⟩

theorem Acknowledged.append {requests others : List ControllerRequest}
    (hrequests : Acknowledged requests) (hothers : .readByte ∉ others) :
    Acknowledged (requests ++ others) where
  each := hrequests.each.append (eachAcknowledged_of_notMem hothers)
  last_refused hmem := by
    have hread := (List.mem_append.mp hmem).resolve_right hothers
    obtain ⟨before, after, rfl, hafter⟩ := hrequests.last_refused hread
    exact ⟨before, after ++ others, by simp, fun h ↦ (List.mem_append.mp h).elim hafter hothers⟩

/-! ### The invariant -/

/-- Whether the last operation on the bus, of some requests to it, is a read. -/
def endsInRead (asked : List BusRequest) : Bool := (asked.filter isOperation).getLast?.any isRead

theorem endsInRead_append_singleton (asked : List BusRequest) (request : BusRequest) :
    endsInRead (asked ++ [request]) =
      if isOperation request then isRead request else endsInRead asked := by
  rw [endsInRead, List.filter_append]
  cases hrequest : isOperation request <;> simp [hrequest, endsInRead]

/-- What holds of a bus that was `held` at first, once it was asked for some things and asked its
controller for others: it is held as the requests say, and a byte is owed exactly if the last
operation is a read. Every byte is acknowledged but the one that is owed. -/
structure Follows (held : Bool) (asked : List BusRequest) (state : State)
    (requests : List ControllerRequest) : Prop where
  held_eq : state.held = openAfterAll held (framings asked)
  owed_eq : state.ackOwed = endsInRead asked
  acknowledged : state.ackOwed = false → Acknowledged requests
  owed : state.ackOwed = true → ∃ earlier, requests = earlier ++ [.readByte] ∧
    EachAcknowledged earlier

/-- The acknowledgement that a state owes. -/
def settling (accept : Bool) (state : State) : List ControllerRequest :=
  if state.ackOwed then [.acknowledge accept] else []

namespace Follows

variable {held : Bool} {asked : List BusRequest} {state : State}
  {requests : List ControllerRequest}

theorem framings_append_eq (hfollows : Follows held asked state requests) (request : BusRequest) :
    openAfterAll state.held (framings [request]) =
      openAfterAll held (framings (asked ++ [request])) := by
  rw [framings_append, openAfterAll_append, hfollows.held_eq]

/-- What is no operation on the bus changes nothing. -/
theorem idle (hfollows : Follows held asked state requests) {request : BusRequest}
    (hrequest : isOperation request = false) :
    Follows held (asked ++ [request]) state requests where
  held_eq := by
    rw [← hfollows.framings_append_eq]
    cases request <;> first | rfl | exact absurd hrequest nofun
  owed_eq := by
    rw [endsInRead_append_singleton, hrequest]
    exact hfollows.owed_eq
  acknowledged := hfollows.acknowledged
  owed := hfollows.owed

/-- A read accepts the byte that is owed and owes another, which is then the only one without an
acknowledgement. -/
theorem read (hfollows : Follows held asked state requests) (width : Nat) :
    Follows held (asked ++ [.read width]) ⟨state.held, true⟩
      (requests ++ (settling true state ++ [.readByte])) where
  held_eq := hfollows.framings_append_eq (.read width)
  owed_eq := (endsInRead_append_singleton asked (.read width)).symm
  acknowledged howed := absurd howed nofun
  owed _ := by
    cases howed : state.ackOwed with
    | false =>
      refine ⟨requests, ?_, (hfollows.acknowledged howed).each⟩
      rw [settling, howed]
      rfl
    | true =>
      obtain ⟨earlier, rfl, hearlier⟩ := hfollows.owed howed
      refine ⟨earlier ++ [.readByte, .acknowledge true], ?_,
        hearlier.append (eachAcknowledged_pair true)⟩
      simp [settling, howed]

/-- Any other operation refuses the byte that is owed. -/
theorem other (hfollows : Follows held asked state requests) {request : BusRequest}
    {own : List ControllerRequest} (hrequest : isOperation request = true)
    (hread : isRead request = false) (hown : .readByte ∉ own) :
    Follows held (asked ++ [request]) ⟨openAfterAll state.held (framings [request]), false⟩
      (requests ++ (settling false state ++ own)) where
  held_eq := hfollows.framings_append_eq request
  owed_eq := by rw [endsInRead_append_singleton, hrequest, hread]; rfl
  acknowledged _ := by
    cases howed : state.ackOwed with
    | false =>
      rw [settling, howed]
      exact (hfollows.acknowledged howed).append hown
    | true =>
      obtain ⟨earlier, rfl, hearlier⟩ := hfollows.owed howed
      have hrefused := hearlier.refuse hown
      simpa [settling, howed] using hrefused
  owed howed := absurd howed nofun

end Follows

/-! ### A controller that works -/

/-- The controller does what it is asked for, without a fault and without a wait. A byte that is
sent may be refused all the same. -/
def works : Controller.Replies
  | .start, reply | .stop, reply | .acknowledge _, reply => reply = .ok ()
  | .writeByte _, reply => ∃ acknowledged, reply = .ok acknowledged
  | .readByte, reply => ∃ byte, reply = .ready byte

theorem settle_works (accept : Bool) (state : State) :
    (settle accept state).Ensures works fun answer events ↦
      answer = (.ok (), ⟨state.held, false⟩) ∧ Event.requests events = settling accept state := by
  obtain ⟨held, owed⟩ := state
  cases owed with
  | false => exact ⟨rfl, rfl⟩
  | true =>
    rintro _ rfl
    exact ⟨rfl, rfl⟩

/-- A request to the bus makes the acknowledgement that is owed, then requests of its own, of which
and of the reply something holds, and leaves the bus in the state `last`. -/
def Settled {α : Type} (accept : Bool) (state last : State)
    (holds : α → List ControllerRequest → Prop) (answer : α × State)
    (events : List (Event Controller)) : Prop :=
  ∃ own, Event.requests events = settling accept state ++ own ∧ holds answer.1 own ∧
    answer.2 = last

theorem after_settle_works {α : Type} {accept : Bool} {state last : State}
    {next : Except Fault Unit × State → Script Controller (α × State)}
    {holds : α → List ControllerRequest → Prop}
    (hnext : (next (.ok (), ⟨state.held, false⟩)).Ensures works fun answer events ↦
      holds answer.1 (Event.requests events) ∧ answer.2 = last) :
    (settle accept state >>= next).Ensures works (Settled accept state last holds) := by
  refine (settle_works accept state).bind ?_
  rintro _ events ⟨rfl, hevents⟩
  refine hnext.mono ?_
  rintro answer later ⟨hholds, hlast⟩
  exact ⟨Event.requests later, by rw [Event.requests_append, hevents], hholds, hlast⟩

theorem sendBytes_works (bytes : List UInt8) :
    (sendBytes bytes).Ensures works fun _ events ↦ .readByte ∉ Event.requests events := by
  induction bytes with
  | nil => exact List.not_mem_nil
  | cons byte rest ih =>
    rintro _ ⟨acknowledged, rfl⟩
    cases acknowledged with
    | false => exact List.not_mem_cons_of_ne_of_not_mem nofun List.not_mem_nil
    | true => exact ih.mono fun _ _ hrest ↦ List.not_mem_cons_of_ne_of_not_mem nofun hrest

theorem start_works (state : State) :
    (start state).Ensures works
      (Settled false state ⟨true, false⟩ fun _ own ↦ .readByte ∉ own) := by
  refine after_settle_works ?_
  rintro _ rfl
  exact ⟨List.not_mem_cons_of_ne_of_not_mem nofun List.not_mem_nil, rfl⟩

theorem stop_works (state : State) :
    (stop state).Ensures works
      (Settled false state ⟨false, false⟩ fun _ own ↦ .readByte ∉ own) := by
  refine after_settle_works ?_
  rintro _ rfl
  exact ⟨List.not_mem_cons_of_ne_of_not_mem nofun List.not_mem_nil, rfl⟩

theorem write_works (value : Word) (width : Nat) (state : State) :
    (write value width state).Ensures works
      (Settled false state ⟨state.held, false⟩ fun _ own ↦ .readByte ∉ own) := by
  refine after_settle_works ?_
  refine (sendBytes_works (value.bytes width)).bind fun reply events hevents ↦ ?_
  exact ⟨by rwa [List.append_nil], rfl⟩

theorem read_works (state : State) :
    (read state).Ensures works (Settled true state ⟨state.held, true⟩ fun reply own ↦
      (∃ value, reply = .ready value) ∧ own = [.readByte]) := by
  refine after_settle_works ?_
  rintro _ ⟨byte, rfl⟩
  exact ⟨⟨⟨byte.toUInt32, rfl⟩, rfl⟩, rfl⟩

/-- Where nothing is read, no read goes unanswered. -/
theorem readsReady_of_not_read {request : BusRequest} (hread : isRead request = false)
    (reply : request.Reply) : ReadsReady [.exchange (.inl request) reply] := by
  intro answer hmem
  obtain ⟨width, hasked⟩ := read_mem_of_mem_reads hmem
  obtain rfl : BusRequest.read width = request := List.mem_singleton.mp hasked
  exact absurd hread nofun

/-- The bus keeps the invariant in every request, and has a byte for every read. -/
theorem handler_follows {held : Bool} {asked : List BusRequest} {state : State}
    {requests : List ControllerRequest} (hfollows : Follows held asked state requests)
    (request : BusRequest) :
    (handler request state).Ensures works fun answer events ↦
      Follows held (asked ++ [request]) answer.2 (requests ++ Event.requests events) ∧
        ReadsReady [.exchange (.inl request) answer.1] := by
  have hother : ∀ request, isOperation request = true → isRead request = false →
      (handler request state).Ensures works (Settled false state
        ⟨openAfterAll state.held (framings [request]), false⟩ fun _ own ↦ .readByte ∉ own) →
      (handler request state).Ensures works fun answer events ↦
        Follows held (asked ++ [request]) answer.2 (requests ++ Event.requests events) ∧
          ReadsReady [.exchange (.inl request) answer.1] := by
    intro request hrequest hread hsettled
    refine hsettled.mono ?_
    rintro answer events ⟨own, hevents, hown, hlast⟩
    rw [hevents, hlast]
    exact ⟨hfollows.other hrequest hread hown, readsReady_of_not_read hread answer.1⟩
  cases request with
  | start => exact hother .start rfl rfl (start_works state)
  | startAlt => exact hother .startAlt rfl rfl (start_works state)
  | stop => exact hother .stop rfl rfl (stop_works state)
  | stopAlt => exact hother .stopAlt rfl rfl (stop_works state)
  | write value width => exact hother (.write value width) rfl rfl (write_works value width state)
  | read width =>
    refine (read_works state).mono ?_
    rintro ⟨_, last⟩ events ⟨_, hevents, ⟨⟨value, rfl⟩, rfl⟩, rfl⟩
    rw [hevents]
    exact ⟨hfollows.read width, fun reply hmem ↦ ⟨value, List.mem_singleton.mp hmem⟩⟩
  | line action =>
    rw [handler, ensures_done, Event.requests_nil, List.append_nil]
    exact ⟨hfollows.idle rfl, readsReady_of_not_read rfl _⟩
  | released =>
    rw [handler, ensures_done, Event.requests_nil, List.append_nil]
    exact ⟨hfollows.idle rfl, readsReady_of_not_read rfl _⟩

/-! ### Sequences -/

section Sequences

variable {K : Interface} {τ δ : Type} {board : Handler Board K τ} {limits : Limits}
  {device : Device (Controller.beside K) δ} {hardware : δ}

/-- The invariant, for what was asked on the way through a script and for what was seen of the
hardware. Every read so far was answered. -/
structure Keeps (held : Bool) (state : State) (asked : List (Event Probe))
    (past : List (Event (Controller.beside K))) : Prop where
  ready : ReadsReady asked
  follows : Follows held (busRequests asked) state (Event.requests (seen past))

theorem keeps_nil {state : State} (howed : state.ackOwed = false) :
    Keeps state.held state [] ([] : List (Event (Controller.beside K))) where
  ready := List.forall_mem_nil _
  follows := ⟨rfl, howed, fun _ ↦ ⟨eachAcknowledged_of_notMem List.not_mem_nil,
    fun hmem ↦ absurd hmem List.not_mem_nil⟩, fun h ↦ absurd (howed.symm.trans h) nofun⟩

/-- What the bus has no part in changes nothing. -/
theorem Keeps.append_idle {held : Bool} {state : State} {asked more : List (Event Probe)}
    {past events : List (Event (Controller.beside K))} (hkeeps : Keeps held state asked past)
    (hready : reads more = []) (hmore : busRequests more = [])
    (hevents : Event.requests (seen events) = []) :
    Keeps held state (asked ++ more) (past ++ events) where
  ready := readsReady_append.mpr ⟨hkeeps.ready, by
    rw [ReadsReady, hready]
    exact List.forall_mem_nil _⟩
  follows := by
    rw [busRequests_append, seen_append, Event.requests_append, hmore, hevents, List.append_nil,
      List.append_nil]
    exact hkeeps.follows

/-- The invariant is kept whenever something is asked of the bus or the board. -/
theorem Keeps.exchange (hworks : device.left.Answers works) {held : Bool}
    {asked : List (Event Probe)} {past : List (Event (Controller.beside K))} {state : State × τ}
    (hkeeps : Keeps held state.1 asked past) (request : Probe.Request)
    {answer : Outcome (Controller.beside K) δ (Probe.Reply request × (State × τ))}
    (hrun : ((handler.beside board) request state).run device hardware = some answer) :
    Keeps held answer.value.2.1 (asked ++ [.exchange request answer.value.1])
      (past ++ answer.events) := by
  cases request with
  | inl request =>
    obtain ⟨inner, hinner, rfl⟩ := Handler.beside_inl_run_eq_some.mp hrun
    obtain ⟨hfollows, hready⟩ := (handler_follows hkeeps.follows request).of_run hworks hinner
    refine ⟨readsReady_append.mpr ⟨hkeeps.ready, hready⟩, ?_⟩
    rw [busRequests_append, seen_append, Event.requests_append, seen, seen,
      Event.filterMap_left?_map_onLeft]
    exact hfollows
  | inr request =>
    obtain ⟨inner, -, rfl⟩ := Handler.beside_inr_run_eq_some.mp hrun
    exact hkeeps.append_idle rfl rfl (Event.requests_filterMap_left?_map_onRight inner.events)

/-- A run of a handled script keeps the invariant together with its course. -/
theorem handle_run_keeps (hworks : device.left.Answers works) {held : Bool}
    {asked : List (Event Probe)} {past : List (Event (Controller.beside K))} {state : State × τ}
    (hkeeps : Keeps held state.1 asked past) {α : Type} {script : Script Probe α}
    {outcome : Outcome (Controller.beside K) δ (α × (State × τ))}
    (hrun : (script.handle (handler.beside board) state).run device hardware = some outcome) :
    ∃ events, script.Ends outcome.value.1 events ∧
      Keeps held outcome.value.2.1 (asked ++ events) (past ++ outcome.events) := by
  refine handle_run_ends (fun later _ asked past ↦ Keeps held later.1 asked past) ?_ ?_ hkeeps hrun
  · intro later _ asked past notice hlater
    exact hlater.append_idle rfl rfl rfl
  · intro request later hardware asked past answer hlater hanswer
    exact hlater.exchange hworks request hanswer

theorem foldl_openAfter_or (ops : List Operation) (first second : Bool) :
    ops.foldl openAfter (first || second) =
      (ops.foldl openAfter first || ops.foldl openAfter second) := by
  simp only [foldl_openAfter, openAfterAll]
  cases (framings (ops.flatMap requests)).getLast? with
  | none => rfl
  | some request => exact (Bool.or_self _).symm

/-- The last operation of a sequence on the bus is a read, and no transaction is open at its end, if
`isOpen` says whether one is before. -/
def EndsLoose (isOpen : Bool) (ops : List Operation) : Prop :=
  endsInRead (ops.flatMap requests) = true ∧ ops.foldl openAfter isOpen = false

/-- The closing settles what is owed where a transaction is open, and otherwise changes nothing. -/
theorem closeIfOpen_run_keeps (hworks : device.left.Answers works) {held isOpen : Bool}
    {asked : List (Event Probe)} {past : List (Event (Controller.beside K))} {state : State × τ}
    (hkeeps : Keeps held state.1 asked past)
    {outcome : Outcome (Controller.beside K) δ (Unit × (State × τ))}
    (hrun : ((closeIfOpen isOpen).handle (handler.beside board) state).run device hardware =
      some outcome) :
    (isOpen || state.1.held) = true ∧ outcome.value.2.1.ackOwed = false ∧
        Acknowledged (Event.requests (seen (past ++ outcome.events))) ∨
      (isOpen || state.1.held) = false ∧ outcome.value.2 = state ∧ outcome.events = [] := by
  have hreleased : ∀ state : State × τ,
      (handler.beside board) (.inl .released) state = .done (!state.1.held, state) := fun _ ↦ rfl
  rcases closeIfOpen_run_cases hreleased hrun with ⟨hopen, hclose⟩ | ⟨hclosed, rfl⟩
  · obtain ⟨closing, hclosing, hlater⟩ := handle_run_keeps hworks hkeeps hclose
    obtain ⟨reply, rfl⟩ := close_ends hclosing
    have hsettled : outcome.value.2.1.ackOwed = false := by
      rw [hlater.follows.owed_eq, busRequests_append, busRequests_closingEvents,
        endsInRead_append_singleton]
      rfl
    exact Or.inl ⟨hopen, hsettled, hlater.follows.acknowledged hsettled⟩
  · exact Or.inr ⟨hclosed, rfl, rfl⟩

/-- A byte is owed after a sequence exactly if the sequence ends loose, and exactly then not all
bytes are acknowledged. Where no transaction is left to be closed, nothing comes after the
operations, and what they leave owed stays so. -/
theorem execute_run_owed (hworks : device.left.Answers works) {state : State × τ}
    (howed : state.1.ackOwed = false) {ops : List Operation} {isOpen : Bool}
    {outcome : Outcome (Controller.beside K) δ ((String × Bool) × (State × τ))}
    (hrun : ((execute limits ops isOpen).handle (handler.beside board) state).run device hardware =
      some outcome) :
    (outcome.value.2.1.ackOwed = true ↔ EndsLoose (isOpen || state.1.held) ops) ∧
      (Acknowledged (Event.requests (seen outcome.events)) ↔
        ¬ EndsLoose (isOpen || state.1.held) ops) := by
  obtain ⟨first, last, hfirst, hlast, rfl⟩ := execute_run_eq_some.mp hrun
  obtain ⟨events, hends, hkeeps⟩ := handle_run_keeps hworks (keeps_nil howed) hfirst
  rw [List.nil_append, List.nil_append] at hkeeps
  have hasked := performAll_busRequests_eq hends hkeeps.ready
  have hfollows := hkeeps.follows
  rw [hasked] at hfollows
  have hopen : (ops.foldl openAfter isOpen || first.value.2.1.held) =
      ops.foldl openAfter (isOpen || state.1.held) := by
    rw [hfollows.held_eq, ← foldl_openAfter, foldl_openAfter_or]
  have hclosing := closeIfOpen_run_keeps hworks hkeeps hlast
  rw [hopen] at hclosing
  unfold EndsLoose
  rw [← hfollows.owed_eq]
  rcases hclosing with ⟨hopened, hsettled, hacknowledged⟩ | ⟨hclosed, hstate, hevents⟩
  · simp [hopened, hsettled, hacknowledged]
  · rw [hclosed, hstate, hevents, List.append_nil]
    cases howed : first.value.2.1.ackOwed with
    | false => simp [hfollows.acknowledged howed]
    | true =>
      obtain ⟨earlier, hearlier, -⟩ := hfollows.owed howed
      simp [hearlier, not_acknowledged_of_readByte_last]

/-- With a controller that works, every byte that a sequence reads is acknowledged and the last of
them refused, unless the sequence ends in a read while no transaction is open. Then the last byte is
left behind, and if a read comes next it accepts that byte. -/
theorem acknowledged_iff_not_endsLoose (hworks : device.left.Answers works)
    {station : Station State τ} {ops : List Operation}
    {outcome : Outcome (Controller.beside K) δ (String × Station State τ)}
    (howed : station.bus.ackOwed = false)
    (hrun : (station.execute (fixture board limits) ops).run device hardware = some outcome) :
    (Acknowledged (Event.requests (seen outcome.events)) ↔
        ¬ EndsLoose (station.isOpen || station.bus.held) ops) ∧
      ∀ width hardware answer,
        (handler (.read width) outcome.value.2.bus).run device.left hardware = some answer →
          (.acknowledge true ∈ Event.requests answer.events ↔
            EndsLoose (station.isOpen || station.bus.held) ops) := by
  obtain ⟨inner, hinner, rfl⟩ := Station.execute_run_eq_some.mp hrun
  obtain ⟨hlast, hacknowledged⟩ := execute_run_owed hworks howed hinner
  refine ⟨hacknowledged, fun width hardware answer hanswer ↦ ?_⟩
  obtain ⟨own, hevents, ⟨-, rfl⟩, -⟩ := (read_works inner.value.2.1).of_run hworks hanswer
  rw [hevents, ← hlast, settling]
  cases inner.value.2.1.ackOwed <;> simp

end Sequences

/-- A controller that does everything it is asked for, beside a board without hardware. -/
def obliging : Device (Controller.beside Board) Unit
  | .inl (.acknowledge _), _ => (.ok (), ())
  | request, hardware => refusing request hardware

theorem obliging_works : obliging.left.Answers works := by
  intro request hardware
  cases request with
  | writeByte byte => exact ⟨true, rfl⟩
  | readByte => exact ⟨5, rfl⟩
  | _ => rfl

/-- A read outside of a transaction leaves its byte behind, and a read in the next sequence accepts
it. -/
theorem loose_byte_accepted :
    ∃ outcome later, ((Station.fresh State.idle ()).execute (fixture Handler.passOn ⟨2000, 1⟩)
        [ofKind .read]).run obliging () = some outcome ∧
      (outcome.value.2.execute (fixture Handler.passOn ⟨2000, 1⟩) [ofKind .read]).run obliging
        outcome.state = some later ∧
      ¬ Acknowledged (Event.requests (seen outcome.events)) ∧
      Event.requests (seen later.events) = [.acknowledge true, .readByte] := by
  refine ⟨_, _, rfl, rfl, fun hacknowledged ↦ ?_, rfl⟩
  have hacknowledged_iff := (acknowledged_iff_not_endsLoose obliging_works rfl
    (show ((Station.fresh State.idle ()).execute (fixture Handler.passOn ⟨2000, 1⟩)
      [ofKind .read]).run obliging () = some _ from rfl)).1
  exact hacknowledged_iff.mp hacknowledged ⟨rfl, rfl⟩

end BusProbe.I2c
