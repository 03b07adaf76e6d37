import BusProbe.Bus.Uart
import BusProbe.Proofs.Script.Calls

/-!
# Echoes on a shared wire

On a shared wire what is sent and what a device sends end up in one queue, and a byte that is taken
off the queue does not tell where it came from. A write takes one byte off for each byte that it
sends, and a read takes one off as data. Bytes are taken off in the order in which they were put on,
so that it is the order of arrivals, writes and reads that decides whether a write drops its own
echo. It does if everything that a device sent before was read; otherwise it drops a byte of the
device, and a later read reports the echo (`echoes_dropped_iff_clear`). `early_arrival_lost` is a
run in which that happens.
-/

set_option autoImplicit false
set_option relaxedAutoImplicit false

namespace BusProbe.Uart

open Script

/-! ### The wire -/

/-- A link on a shared wire that never fails and echoes at once. It may take its time before it
takes a byte or has sent it. A byte that it takes joins the queue of what can be received, and so
does a byte that a device sends. -/
structure SharedWire (δ : Type) where
  link : Device Link δ
  queue : δ → List UInt8
  /-- The state after a device has sent a byte. -/
  arrive : UInt8 → δ → δ
  send_cases : ∀ byte state,
    (link (.send byte) state).1 = .pending ∧
        queue (link (.send byte) state).2 = queue state ∨
      (link (.send byte) state).1 = .ready () ∧
        queue (link (.send byte) state).2 = queue state ++ [byte]
  flush_cases : ∀ state,
    ((link .flush state).1 = .pending ∨ (link .flush state).1 = .ready ()) ∧
      queue (link .flush state).2 = queue state
  receive_nil : ∀ state, queue state = [] →
    (link .receive state).1 = .pending ∧ queue (link .receive state).2 = []
  receive_cons : ∀ state byte rest, queue state = byte :: rest →
    (link .receive state).1 = .ready byte ∧ queue (link .receive state).2 = rest
  queue_arrive : ∀ byte state, queue (arrive byte state) = queue state ++ [byte]

/-- The bytes that the link took during some events, in order. -/
def sent (events : List (Event Link)) : List UInt8 :=
  events.filterMap fun
    | .exchange (.send byte) (.ready ()) => some byte
    | _ => none

/-- The bytes that were taken off the queue during some events, in order. -/
def received (events : List (Event Link)) : List UInt8 :=
  events.filterMap fun
    | .exchange .receive (.ready byte) => some byte
    | _ => none

theorem sent_append (first second : List (Event Link)) :
    sent (first ++ second) = sent first ++ sent second :=
  List.filterMap_append

theorem received_append (first second : List (Event Link)) :
    received (first ++ second) = received first ++ received second :=
  List.filterMap_append

namespace SharedWire

variable {δ α β : Type} {wire : SharedWire δ} {state : δ}

/-- Something that was done at the wire put some bytes on the queue and took others off. -/
structure Moves (wire : SharedWire δ) (put taken : List UInt8) (state : δ)
    (outcome : Outcome Link δ α) : Prop where
  sent_eq : sent outcome.events = put
  received_eq : received outcome.events = taken
  queue_eq : wire.queue state ++ put = taken ++ wire.queue outcome.state

theorem Moves.after {put taken more others : List UInt8} {first : Outcome Link δ α}
    {second : Outcome Link δ β} (hfirst : wire.Moves put taken state first)
    (hsecond : wire.Moves more others first.state second) :
    wire.Moves (put ++ more) (taken ++ others) state (second.after first.events) where
  sent_eq := by rw [Outcome.after, sent_append, hfirst.sent_eq, hsecond.sent_eq]
  received_eq := by
    rw [Outcome.after, received_append, hfirst.received_eq, hsecond.received_eq]
  queue_eq := by
    rw [← List.append_assoc, hfirst.queue_eq, List.append_assoc, hsecond.queue_eq,
      List.append_assoc]
    rfl

/-- A request that moves nothing and what is done after it. -/
theorem Moves.after_idle {put taken : List UInt8} {request : LinkRequest}
    {outcome : Outcome Link δ α} (hsent : sent [.exchange request (wire.link request state).1] = [])
    (hreceived : received [.exchange request (wire.link request state).1] = [])
    (hqueue : wire.queue (wire.link request state).2 = wire.queue state)
    (hmoves : wire.Moves put taken (wire.link request state).2 outcome) :
    wire.Moves put taken state
      (outcome.after [.exchange request (wire.link request state).1]) := by
  have hidle : wire.Moves [] [] state
      ⟨(), (wire.link request state).2, [.exchange request (wire.link request state).1]⟩ :=
    ⟨hsent, hreceived, by rw [List.append_nil, hqueue, List.nil_append]⟩
  exact hidle.after hmoves

/-! ### Bytes -/

/-- A byte joins the queue once the link takes it. -/
theorem sendWhenReady_run {byte : UInt8} {patience : Nat}
    {outcome : Outcome Link δ (Except BusFailure Unit)}
    (hrun : (sendWhenReady byte patience).run wire.link state = some outcome) :
    outcome.value = .ok () ∧ wire.Moves [byte] [] state outcome := by
  induction patience generalizing state outcome with
  | zero => exact absurd hrun nofun
  | succ patience ih =>
    rw [sendWhenReady, run_ask, Option.map_eq_some_iff] at hrun
    obtain ⟨rest, hrest, rfl⟩ := hrun
    rcases wire.send_cases byte state with ⟨hreply, hqueue⟩ | ⟨hreply, hqueue⟩
    · rw [hreply] at hrest
      obtain ⟨hvalue, hmoves⟩ := ih hrest
      exact ⟨hvalue, hmoves.after_idle (by rw [hreply]; rfl) (by rw [hreply]; rfl) hqueue⟩
    · rw [hreply] at hrest
      obtain rfl := Option.some.inj hrest
      exact ⟨rfl, by rw [hreply]; rfl, by rw [hreply]; rfl, hqueue.symm⟩

/-- Waiting until everything is sent moves nothing. -/
theorem flush_run {patience : Nat} {outcome : Outcome Link δ (Except BusFailure Unit)}
    (hrun : (flush patience).run wire.link state = some outcome) :
    outcome.value = .ok () ∧ wire.Moves [] [] state outcome := by
  induction patience generalizing state outcome with
  | zero => exact absurd hrun nofun
  | succ patience ih =>
    rw [flush, run_ask, Option.map_eq_some_iff] at hrun
    obtain ⟨rest, hrest, rfl⟩ := hrun
    obtain ⟨hreply | hreply, hqueue⟩ := wire.flush_cases state
    · rw [hreply] at hrest
      obtain ⟨hvalue, hmoves⟩ := ih hrest
      exact ⟨hvalue, hmoves.after_idle rfl rfl hqueue⟩
    · rw [hreply] at hrest
      obtain rfl := Option.some.inj hrest
      exact ⟨rfl, rfl, rfl, by rw [List.append_nil]; exact hqueue.symm⟩

/-- Looking for an echo takes off whatever byte is the first on the queue. -/
theorem dropEcho_run {polls : Nat} {byte : UInt8} {rest : List UInt8}
    (hqueue : wire.queue state = byte :: rest) (hpolls : 0 < polls)
    {outcome : Outcome Link δ (Except BusFailure Unit)}
    (hrun : (dropEcho polls).run wire.link state = some outcome) :
    outcome.value = .ok () ∧ wire.Moves [] [byte] state outcome := by
  obtain ⟨polls, rfl⟩ := Nat.exists_eq_succ_of_ne_zero (Nat.ne_of_gt hpolls)
  obtain ⟨hreply, hafter⟩ := wire.receive_cons state byte rest hqueue
  rw [dropEcho, run_ask, Option.map_eq_some_iff] at hrun
  obtain ⟨done, hdone, rfl⟩ := hrun
  rw [hreply] at hdone
  obtain rfl := Option.some.inj hdone
  refine ⟨rfl, rfl, by rw [hreply]; rfl, ?_⟩
  rw [hqueue, List.append_nil]
  exact congrArg (List.cons byte) hafter.symm

variable {config : Config} {patience : Nat}

/-- A byte that is sent on a shared wire joins the queue, and then the first byte of the queue is
taken off. -/
theorem sendByte_run (hhalf : config.duplex = .half) (hpolls : 0 < config.echoPolls) {byte : UInt8}
    {outcome : Outcome Link δ (Except BusFailure Unit)}
    (hrun : (sendByte config patience byte).run wire.link state = some outcome) :
    outcome.value = .ok () ∧ ∃ first, wire.Moves [byte] [first] state outcome := by
  obtain ⟨started, rest, hstarted, hrest, rfl⟩ := run_bind_eq_some.mp hrun
  obtain ⟨hvalue, hsend⟩ := sendWhenReady_run hstarted
  rw [hvalue] at hrest
  obtain ⟨flushed, last, hflushed, hlast, rfl⟩ := run_bind_eq_some.mp hrest
  obtain ⟨hvalue, hflush⟩ := flush_run hflushed
  simp only [hvalue, hhalf] at hlast
  have hnext := hsend.after hflush
  have hqueue : wire.queue flushed.state = wire.queue state ++ [byte] := hnext.queue_eq.symm
  cases hfirst : wire.queue flushed.state with
  | nil =>
    rw [hqueue] at hfirst
    exact absurd (List.append_eq_nil_iff.mp hfirst).2 (List.cons_ne_nil _ _)
  | cons first others =>
    obtain ⟨hdone, hdrop⟩ := dropEcho_run hfirst hpolls hlast
    exact ⟨hdone, first, hsend.after (hflush.after hdrop)⟩

/-- Bytes that are sent join the queue, and as many bytes are taken off at its beginning. -/
theorem sendBytes_run (hhalf : config.duplex = .half) (hpolls : 0 < config.echoPolls)
    {bytes : List UInt8} {outcome : Outcome Link δ (Except BusFailure Unit)}
    (hrun : (sendBytes config patience bytes).run wire.link state = some outcome) :
    ∃ taken, taken.length = bytes.length ∧ wire.Moves bytes taken state outcome := by
  induction bytes generalizing state outcome with
  | nil =>
    obtain rfl := Option.some.inj hrun
    exact ⟨[], rfl, rfl, rfl, List.append_nil _⟩
  | cons byte bytes ih =>
    obtain ⟨sent, rest, hsent, hrest, rfl⟩ := run_bind_eq_some.mp hrun
    obtain ⟨hvalue, first, hfirst⟩ := sendByte_run hhalf hpolls hsent
    rw [hvalue] at hrest
    obtain ⟨taken, hlength, hmoves⟩ := ih hrest
    exact ⟨first :: taken, congrArg Nat.succ hlength, hfirst.after hmoves⟩

/-! ### Requests to the bus -/

variable {isOpen : Bool}

theorem write_run (hhalf : config.duplex = .half) (hpolls : 0 < config.echoPolls) {value : Word}
    {width : Nat} {outcome : Outcome Link δ (Except BusFailure Unit × Bool)}
    (hrun : (handler config patience (.write value width) isOpen).run wire.link state =
      some outcome) :
    outcome.value.2 = isOpen ∧ ∃ taken, taken.length = (value.bytes width).length ∧
      wire.Moves (value.bytes width) taken state outcome := by
  obtain ⟨written, last, hwritten, hlast, rfl⟩ := run_bind_eq_some.mp hrun
  obtain ⟨taken, hlength, hmoves⟩ := sendBytes_run hhalf hpolls hwritten
  obtain rfl := Option.some.inj hlast
  refine ⟨rfl, taken, hlength, ?_, ?_, hmoves.queue_eq⟩
  · rw [← hmoves.sent_eq]
    exact congrArg sent (List.append_nil _)
  · rw [← hmoves.received_eq]
    exact congrArg received (List.append_nil _)

/-- A read gives the first byte of the queue and takes it off, or finds nothing there. -/
theorem read_run {width : Nat} {outcome : Outcome Link δ (Poll BusFailure Word × Bool)}
    (hrun : (handler config patience (.read width) isOpen).run wire.link state = some outcome) :
    wire.queue state = [] ∧ outcome.value = (.pending, isOpen) ∧ wire.Moves [] [] state outcome ∨
      ∃ byte rest, wire.queue state = byte :: rest ∧
        outcome.value = (.ready byte.toUInt32, isOpen) ∧ wire.Moves [] [byte] state outcome := by
  simp only [handler, receive, ask_bind, run_ask, Option.map_eq_some_iff] at hrun
  obtain ⟨done, hdone, rfl⟩ := hrun
  cases hqueue : wire.queue state with
  | nil =>
    obtain ⟨hreply, hafter⟩ := wire.receive_nil state hqueue
    rw [hreply] at hdone
    obtain rfl := Option.some.inj hdone
    refine Or.inl ⟨rfl, rfl, rfl, by rw [hreply]; rfl, ?_⟩
    rw [hqueue]
    exact hafter.symm
  | cons byte rest =>
    obtain ⟨hreply, hafter⟩ := wire.receive_cons state byte rest hqueue
    rw [hreply] at hdone
    obtain rfl := Option.some.inj hdone
    refine Or.inr ⟨byte, rest, rfl, rfl, rfl, by rw [hreply]; rfl, ?_⟩
    rw [hqueue, List.append_nil]
    exact congrArg (List.cons byte) hafter.symm

end SharedWire

/-! ### Histories -/

/-- Something that happens at a bus: a device sends a byte, or the bus is asked for something. -/
inductive Happening
  | arrives (byte : UInt8)
  | asks (request : BusRequest)

/-- A write of at least one bit, or a read. -/
def IsTransfer : BusRequest → Prop
  | .write _ width => 0 < width
  | .read _ => True
  | _ => False

/-- What a happening comes to. -/
inductive Moment
  | arrived (byte : UInt8)
  | called (call : Call Bus Link)

/-- The moments of a bus on a shared wire, on which one thing happens after another. -/
def SharedWire.history {δ : Type} (wire : SharedWire δ) (bus : Handler Bus Link Bool) :
    List Happening → Bool → δ → Option (List Moment)
  | [], _, _ => some []
  | .arrives byte :: rest, isOpen, state => do
    let later ← wire.history bus rest isOpen (wire.arrive byte state)
    return .arrived byte :: later
  | .asks request :: rest, isOpen, state => do
    let outcome ← (bus request isOpen).run wire.link state
    let later ← wire.history bus rest outcome.value.2 outcome.state
    return .called ⟨request, outcome.value.1, outcome.events⟩ :: later

/-- The bytes that a device sends. -/
def arrivals (happenings : List Happening) : List UInt8 :=
  happenings.filterMap fun
    | .arrives byte => some byte
    | .asks _ => none

/-- The values that reads give. -/
def returned (moments : List Moment) : List Word :=
  moments.filterMap fun
    | .called ⟨.read _, .ready value, _⟩ => some value
    | _ => none

/-- Who put a byte on the queue: a device, or the bus by sending it. -/
inductive Origin
  | device
  | echo
  deriving DecidableEq

/-- The bytes that are put on the queue, with their origin. -/
def Moment.carried : Moment → List (Origin × UInt8)
  | .arrived byte => [(.device, byte)]
  | .called call => (sent call.events).map (.echo, ·)

/-- The bytes that are taken off the queue, with the origin that they are taken to have: a read
takes a byte for one of the device, and anything else takes it for an echo. -/
def Moment.taken : Moment → List (Origin × UInt8)
  | .arrived _ => []
  | .called ⟨.read _, _, events⟩ => (received events).map (.device, ·)
  | .called call => (received call.events).map (.echo, ·)

/-- All bytes that are put on the queue, in order. -/
def carried (moments : List Moment) : List (Origin × UInt8) := moments.flatMap Moment.carried

/-- All bytes that are taken off the queue, in order. -/
def taken (moments : List Moment) : List (Origin × UInt8) := moments.flatMap Moment.taken

section Moments

variable {events : List (Event Link)} {later : List Moment} {width : Nat}

theorem carried_called (call : Call Bus Link) :
    carried (.called call :: later) = (sent call.events).map (.echo, ·) ++ carried later := rfl

theorem taken_write {value : Word} {reply : Except BusFailure Unit} :
    taken (.called ⟨.write value width, reply, events⟩ :: later) =
      (received events).map (.echo, ·) ++ taken later := rfl

theorem taken_read {reply : Poll BusFailure Word} :
    taken (.called ⟨.read width, reply, events⟩ :: later) =
      (received events).map (.device, ·) ++ taken later := rfl

end Moments

/-- The bytes of a device among bytes of any origin. -/
def ofDevice (bytes : List (Origin × UInt8)) : List UInt8 :=
  bytes.filterMap fun
    | (.device, byte) => some byte
    | (.echo, _) => none

theorem ofDevice_echo_append (bytes : List UInt8) (more : List (Origin × UInt8)) :
    ofDevice (bytes.map (.echo, ·) ++ more) = ofDevice more := by
  induction bytes with
  | nil => rfl
  | cons byte bytes ih => exact ih

theorem map_snd_tagged (origin : Origin) (bytes : List UInt8) :
    (bytes.map (origin, ·)).map Prod.snd = bytes := by
  rw [List.map_map]
  exact List.map_id bytes

/-- How a history can go from a queue, whatever the wire. -/
inductive Goes : List UInt8 → List Happening → List Moment → Prop
  | nil (queue : List UInt8) : Goes queue [] []
  | arrives {queue : List UInt8} {byte : UInt8} {rest : List Happening} {later : List Moment}
      (hlater : Goes (queue ++ [byte]) rest later) :
      Goes queue (.arrives byte :: rest) (.arrived byte :: later)
  | write {queue off left : List UInt8} {value : Word} {width : Nat}
      {reply : Except BusFailure Unit} {events : List (Event Link)} {rest : List Happening}
      {later : List Moment} (hwidth : 0 < width) (hsent : sent events = value.bytes width)
      (hreceived : received events = off) (hlength : off.length = (value.bytes width).length)
      (hqueue : queue ++ value.bytes width = off ++ left) (hlater : Goes left rest later) :
      Goes queue (.asks (.write value width) :: rest)
        (.called ⟨.write value width, reply, events⟩ :: later)
  | readNothing {width : Nat} {events : List (Event Link)} {rest : List Happening}
      {later : List Moment} (hsent : sent events = []) (hreceived : received events = [])
      (hlater : Goes [] rest later) :
      Goes [] (.asks (.read width) :: rest) (.called ⟨.read width, .pending, events⟩ :: later)
  | readByte {byte : UInt8} {left : List UInt8} {width : Nat} {events : List (Event Link)}
      {rest : List Happening} {later : List Moment} (hsent : sent events = [])
      (hreceived : received events = [byte]) (hlater : Goes left rest later) :
      Goes (byte :: left) (.asks (.read width) :: rest)
        (.called ⟨.read width, .ready byte.toUInt32, events⟩ :: later)

theorem SharedWire.history_goes {δ : Type} {wire : SharedWire δ} {config : Config} {patience : Nat}
    (hhalf : config.duplex = .half) (hpolls : 0 < config.echoPolls) {happenings : List Happening}
    (htransfers : ∀ request, .asks request ∈ happenings → IsTransfer request) {isOpen : Bool}
    {state : δ} {moments : List Moment}
    (hhistory : wire.history (handler config patience) happenings isOpen state = some moments) :
    Goes (wire.queue state) happenings moments := by
  induction happenings generalizing isOpen state moments with
  | nil =>
    obtain rfl := Option.some.inj hhistory
    exact .nil _
  | cons happening rest ih =>
    have hrest : ∀ request, .asks request ∈ rest → IsTransfer request :=
      fun request hmem ↦ htransfers request (List.mem_cons_of_mem _ hmem)
    cases happening with
    | arrives byte =>
      obtain ⟨later, hlater, hmoments⟩ := Option.bind_eq_some_iff.mp hhistory
      obtain rfl := Option.some.inj hmoments
      have hgoes := ih hrest hlater
      rw [wire.queue_arrive] at hgoes
      exact .arrives hgoes
    | asks request =>
      obtain ⟨outcome, hrun, hmore⟩ := Option.bind_eq_some_iff.mp hhistory
      obtain ⟨later, hlater, hmoments⟩ := Option.bind_eq_some_iff.mp hmore
      obtain rfl := Option.some.inj hmoments
      have hgoes := ih hrest hlater
      have htransfer := htransfers request List.mem_cons_self
      cases request with
      | write value width =>
        obtain ⟨-, off, hlength, hmoves⟩ := write_run hhalf hpolls hrun
        exact .write htransfer hmoves.sent_eq hmoves.received_eq hlength hmoves.queue_eq hgoes
      | read width =>
        rcases read_run hrun with ⟨hqueue, hvalue, hmoves⟩ | ⟨byte, left, hqueue, hvalue, hmoves⟩
        · have hleft : wire.queue outcome.state = [] := by
            rw [← List.nil_append (wire.queue outcome.state), ← hmoves.queue_eq, hqueue]
            rfl
          rw [hleft] at hgoes
          rw [hqueue, hvalue]
          exact .readNothing hmoves.sent_eq hmoves.received_eq hgoes
        · have hleft : wire.queue outcome.state = left := by
            have heq := hmoves.queue_eq
            rw [hqueue, List.append_nil] at heq
            exact (List.cons.inj heq).2.symm
          rw [hleft] at hgoes
          rw [hqueue, hvalue]
          exact .readByte hmoves.sent_eq hmoves.received_eq hgoes
      | _ => exact htransfer.elim

namespace Goes

variable {queue : List UInt8} {happenings : List Happening} {moments : List Moment}

/-- Bytes are taken off the queue in the order in which they were put on. -/
theorem fifo (hgoes : Goes queue happenings moments) :
    (taken moments).map Prod.snd <+: queue ++ (carried moments).map Prod.snd := by
  induction hgoes with
  | nil queue => exact List.nil_prefix
  | arrives hlater ih =>
    rw [List.append_assoc] at ih
    exact ih
  | @write queue off left _ _ _ _ _ _ hwidth hsent hreceived hlength hqueue hlater ih =>
    rw [taken_write, carried_called, List.map_append, List.map_append, map_snd_tagged,
      map_snd_tagged, hsent, hreceived, ← List.append_assoc, hqueue, List.append_assoc]
    exact (List.prefix_append_right_inj off).mpr ih
  | readNothing hsent hreceived hlater ih =>
    rw [taken_read, carried_called, hsent, hreceived]
    exact ih
  | readByte hsent hreceived hlater ih =>
    rw [taken_read, carried_called, hsent, hreceived]
    exact List.cons_prefix_cons.mpr ⟨rfl, ih⟩

/-- What arrives is put on the queue. -/
theorem ofDevice_carried (hgoes : Goes queue happenings moments) :
    ofDevice (carried moments) = arrivals happenings := by
  induction hgoes with
  | nil queue => rfl
  | arrives hlater ih => exact congrArg (List.cons _) ih
  | write hwidth hsent hreceived hlength hqueue hlater ih =>
    rw [carried_called, ofDevice_echo_append, ih]
    rfl
  | readNothing hsent hreceived hlater ih =>
    rw [carried_called, ofDevice_echo_append, ih]
    rfl
  | readByte hsent hreceived hlater ih =>
    rw [carried_called, ofDevice_echo_append, ih]
    rfl

/-- Reads give the bytes that they take off the queue. -/
theorem returned_eq (hgoes : Goes queue happenings moments) :
    returned moments = (ofDevice (taken moments)).map UInt8.toUInt32 := by
  induction hgoes with
  | nil queue => rfl
  | arrives hlater ih => exact ih
  | write hwidth hsent hreceived hlength hqueue hlater ih =>
    rw [taken_write, ofDevice_echo_append, ← ih]
    rfl
  | readNothing hsent hreceived hlater ih =>
    rw [taken_read, hreceived]
    exact ih
  | readByte hsent hreceived hlater ih =>
    rw [taken_read, hreceived]
    exact congrArg (List.cons _) ih

end Goes

/-- Every write comes when all the bytes that a device has sent were read, if `backlog` of them were
not at first. A read takes one of them if there is one. -/
def Clear : Nat → List Happening → Prop
  | _, [] => True
  | backlog, .arrives _ :: rest => Clear (backlog + 1) rest
  | backlog, .asks (.write _ _) :: rest => backlog = 0 ∧ Clear backlog rest
  | backlog, .asks (.read _) :: rest => Clear (backlog - 1) rest
  | backlog, .asks _ :: rest => Clear backlog rest

/-- From a queue of bytes of a device, all bytes are taken for what they are exactly if each write
comes when there are none of a device left. A write to an empty queue takes off its own echoes, and
any other takes off a byte of the device first. -/
theorem Goes.taken_prefix_iff {queue : List UInt8} {happenings : List Happening}
    {moments : List Moment} (hgoes : Goes queue happenings moments) :
    taken moments <+: queue.map (.device, ·) ++ carried moments ↔
      Clear queue.length happenings := by
  induction hgoes with
  | nil queue => exact iff_of_true List.nil_prefix trivial
  | arrives hlater ih =>
    rw [List.map_append, List.append_assoc, List.length_append] at ih
    exact ih
  | @write queue off left value width _ _ _ _ hwidth hsent hreceived hlength hqueue hlater ih =>
    rw [taken_write, carried_called, hsent, hreceived, Clear]
    cases queue with
    | nil =>
      obtain ⟨rfl, rfl⟩ := List.append_inj (hqueue.symm.trans (List.append_nil _).symm) hlength
      exact (List.prefix_append_right_inj _).trans (ih.trans (and_iff_right rfl).symm)
    | cons byte queue =>
      cases off with
      | nil =>
        rw [Word.length_bytes] at hlength
        exact absurd hlength.symm (by rw [List.length_nil]; omega)
      | cons first off =>
        obtain rfl : byte = first := (List.cons.inj hqueue).1
        exact iff_of_false (fun h ↦ absurd (List.cons_prefix_cons.mp h).1 nofun)
          (fun h ↦ absurd h.1 (Nat.succ_ne_zero _))
  | readNothing hsent hreceived hlater ih =>
    rw [taken_read, carried_called, hsent, hreceived]
    exact ih
  | readByte hsent hreceived hlater ih =>
    rw [taken_read, carried_called, hsent, hreceived]
    exact List.cons_prefix_cons.trans ((and_iff_right rfl).trans ih)

/-- On a shared wire bytes are taken off in the order in which they are put on. The reads give the
bytes of the device, in order and without a gap, and no write and no read takes a byte of the wrong
origin, exactly if each write comes when all that the device has sent was read. -/
theorem echoes_dropped_iff_clear {δ : Type} {wire : SharedWire δ} {config : Config} {patience : Nat}
    (hhalf : config.duplex = .half) (hpolls : 0 < config.echoPolls) {happenings : List Happening}
    (htransfers : ∀ request, .asks request ∈ happenings → IsTransfer request) {isOpen : Bool}
    {state : δ} (hempty : wire.queue state = []) {moments : List Moment}
    (hhistory : wire.history (handler config patience) happenings isOpen state = some moments) :
    (taken moments).map Prod.snd <+: (carried moments).map Prod.snd ∧
      (returned moments <+: (arrivals happenings).map UInt8.toUInt32 ∧
          taken moments <+: carried moments ↔ Clear 0 happenings) := by
  have hgoes := wire.history_goes hhalf hpolls htransfers hhistory
  rw [hempty] at hgoes
  refine ⟨hgoes.fifo, fun h ↦ hgoes.taken_prefix_iff.mp h.2, fun hclear ↦ ?_⟩
  have htaken : taken moments <+: carried moments := hgoes.taken_prefix_iff.mpr hclear
  refine ⟨?_, htaken⟩
  rw [hgoes.returned_eq, ← hgoes.ofDevice_carried]
  exact (htaken.filterMap _).map _

/-- A shared wire on which nothing takes any time. The state is the queue. -/
def promptWire : SharedWire (List UInt8) where
  link
    | .send byte, queue => (.ready (), queue ++ [byte])
    | .flush, queue => (.ready (), queue)
    | .receive, [] => (.pending, [])
    | .receive, byte :: rest => (.ready byte, rest)
  queue := id
  arrive byte queue := queue ++ [byte]
  send_cases _ _ := Or.inr ⟨rfl, rfl⟩
  flush_cases _ := ⟨Or.inr rfl, rfl⟩
  receive_nil _ hqueue := by subst hqueue; exact ⟨rfl, rfl⟩
  receive_cons _ _ _ hqueue := by subst hqueue; exact ⟨rfl, rfl⟩
  queue_arrive _ _ := rfl

/-- A byte that a device sends before a write is dropped for the echo, and a read gives the echo. -/
theorem early_arrival_lost :
    ∃ moments, promptWire.history (handler .halfDuplex 1)
        [.arrives 0x55, .asks (.write 0xaa 8), .asks (.read 8)] false [] = some moments ∧
      returned moments = [0xaa] ∧ taken moments = [(.echo, 0x55), (.device, 0xaa)] ∧
      carried moments = [(.device, 0x55), (.echo, 0xaa)] ∧
      ¬ (returned moments <+: [0x55] ∧ taken moments <+: carried moments) := by
  refine ⟨_, rfl, rfl, rfl, rfl, fun hdropped ↦ ?_⟩
  have htransfers : ∀ request, .asks request ∈
      [Happening.arrives 0x55, .asks (.write 0xaa 8), .asks (.read 8)] → IsTransfer request := by
    intro request hmem
    simp only [List.mem_cons, reduceCtorEq, Happening.asks.injEq, List.not_mem_nil, or_false,
      false_or] at hmem
    rcases hmem with rfl | rfl
    · exact Nat.zero_lt_succ 7
    · trivial
  have hclear := (echoes_dropped_iff_clear rfl (Nat.zero_lt_succ 9999) htransfers rfl
    (show promptWire.history (handler .halfDuplex 1)
      [.arrives 0x55, .asks (.write 0xaa 8), .asks (.read 8)] false [] = some _ from rfl)).2.mp
      hdropped
  exact absurd hclear.1 Nat.one_ne_zero

end BusProbe.Uart
