import BusProbe.Proofs.Uart.Echo

/-!
# Opening a session

A start takes what was received off the queue, one entry after another, until there is nothing left
or the link reports an error. It opens a session in either case. What stands behind the first error
is still there then (`leftBehind`), and the reads of the session give it out before anything that
arrives later. The reads give only bytes that arrived after the start exactly if no byte stands
behind an error (`session_after_start`); `byte_behind_error_returned` is a session in which one
does.

What happens to the queue is said of every script over the link at once: what was there and what
came back is what was taken off and what is left (`Port.run_moves`).
-/

set_option autoImplicit false
set_option relaxedAutoImplicit false

namespace BusProbe.Uart

open Script

/-! ### The receiving side of a link -/

/-- What stands in the queue of a link: a byte, or an error in its place. -/
abbrev Entry := Except Fault UInt8

/-- The reply to a request that takes an entry off. -/
def Entry.reply : Entry → Poll Fault UInt8
  | .ok byte => .ready byte
  | .error fault => .failed fault

/-- The bytes among some entries. -/
def bytesOf (entries : List Entry) : List UInt8 := entries.filterMap Except.toOption

theorem bytesOf_append (first second : List Entry) :
    bytesOf (first ++ second) = bytesOf first ++ bytesOf second :=
  List.filterMap_append

/-- A link with a queue of received entries, which has nothing to give only when the queue is empty.
A byte that is sent may come back in some form, as it does on a shared wire. -/
structure Port (δ : Type) where
  link : Device Link δ
  queue : δ → List Entry
  /-- The state after a device has sent a byte. -/
  arrive : UInt8 → δ → δ
  /-- What comes back of a byte, by the link's reply to it. -/
  echo : UInt8 → Poll Fault Unit → List Entry
  receive_nil : ∀ state, queue state = [] →
    (link .receive state).1 = .pending ∧ queue (link .receive state).2 = []
  receive_cons : ∀ state entry rest, queue state = entry :: rest →
    (link .receive state).1 = entry.reply ∧ queue (link .receive state).2 = rest
  queue_send : ∀ byte state, queue (link (.send byte) state).2 =
    queue state ++ echo byte (link (.send byte) state).1
  queue_flush : ∀ state, queue (link .flush state).2 = queue state
  queue_arrive : ∀ byte state, queue (arrive byte state) = queue state ++ [.ok byte]

/-- The entries that were taken off the queue during some events. -/
def takenOff (events : List (Event Link)) : List Entry :=
  events.filterMap fun
    | .exchange .receive (.ready byte) => some (.ok byte)
    | .exchange .receive (.failed fault) => some (.error fault)
    | _ => none

theorem takenOff_append (first second : List (Event Link)) :
    takenOff (first ++ second) = takenOff first ++ takenOff second :=
  List.filterMap_append

namespace Port

variable {δ α : Type} {port : Port δ} {state : δ}

/-- What came back of the bytes that were sent during some events. -/
def echoed (port : Port δ) (events : List (Event Link)) : List Entry :=
  events.flatMap fun
    | .exchange (.send byte) reply => port.echo byte reply
    | _ => []

theorem echoed_append (first second : List (Event Link)) :
    port.echoed (first ++ second) = port.echoed first ++ port.echoed second :=
  List.flatMap_append

/-- One request takes off the queue what its reply says. -/
theorem exchange_moves (request : LinkRequest) (state : δ) :
    port.queue state ++ port.echoed [.exchange request (port.link request state).1] =
      takenOff [.exchange request (port.link request state).1] ++
        port.queue (port.link request state).2 := by
  cases request with
  | send byte =>
    rw [port.queue_send]
    simp [echoed, takenOff]
  | flush =>
    rw [port.queue_flush]
    simp [echoed, takenOff]
  | receive =>
    cases hqueue : port.queue state with
    | nil =>
      obtain ⟨hreply, hafter⟩ := port.receive_nil state hqueue
      rw [hreply, hafter]
      rfl
    | cons entry rest =>
      obtain ⟨hreply, hafter⟩ := port.receive_cons state entry rest hqueue
      rw [hreply, hafter]
      cases entry <;> simp [echoed, takenOff, Entry.reply]

/-- Whatever a script does at the link, what was in the queue and what came back is what was taken
off and what is left. -/
theorem run_moves {script : Script Link α} {outcome : Outcome Link δ α}
    (hrun : script.run port.link state = some outcome) :
    port.queue state ++ port.echoed outcome.events =
      takenOff outcome.events ++ port.queue outcome.state := by
  induction script generalizing state outcome with
  | done value =>
    obtain rfl := Option.some.inj hrun
    exact List.append_nil _
  | ask request next ih =>
    rw [run_ask, Option.map_eq_some_iff] at hrun
    obtain ⟨rest, hrest, rfl⟩ := hrun
    have hfirst := port.exchange_moves request state
    have hlater := ih _ hrest
    rw [Outcome.after, echoed_append, takenOff_append, ← List.append_assoc, hfirst,
      List.append_assoc, hlater, List.append_assoc]
  | note notice next ih =>
    rw [run_note, Option.map_eq_some_iff] at hrun
    obtain ⟨rest, hrest, rfl⟩ := hrun
    have hlater := ih hrest
    exact hlater
  | stalled =>
    rw [run_stalled] at hrun
    cases hrun

end Port

/-! ### Clearing the queue -/

/-- What stands in a queue behind its first error. -/
def leftBehind : List Entry → List Entry
  | [] => []
  | .ok _ :: rest => leftBehind rest
  | .error _ :: rest => rest

/-- What clearing a queue comes to: it is given up at the first error. -/
def cleared : List Entry → Except BusFailure Unit
  | [] => .ok ()
  | .ok _ :: rest => cleared rest
  | .error fault :: _ => .error (.receive fault)

section Start

variable {δ : Type} {port : Port δ} {config : Config} {patience : Nat} {state : δ}

/-- A finite queue is cleared up to its first error. -/
theorem drain_run (hpatience : (port.queue state).length < patience) :
    ∃ outcome, (drain patience).run port.link state = some outcome ∧
      outcome.value = cleared (port.queue state) ∧
        port.queue outcome.state = leftBehind (port.queue state) := by
  induction patience generalizing state with
  | zero => exact absurd hpatience (Nat.not_lt_zero _)
  | succ patience ih =>
    rw [drain, run_ask]
    cases hqueue : port.queue state with
    | nil =>
      obtain ⟨hreply, hafter⟩ := port.receive_nil state hqueue
      rw [hreply]
      exact ⟨_, rfl, rfl, hafter⟩
    | cons entry rest =>
      obtain ⟨hreply, hafter⟩ := port.receive_cons state entry rest hqueue
      rw [hreply]
      cases entry with
      | error fault => exact ⟨_, rfl, rfl, hafter⟩
      | ok byte =>
        rw [hqueue, List.length_cons, Nat.succ_lt_succ_iff, ← hafter] at hpatience
        obtain ⟨outcome, hrun, hvalue, hleft⟩ := ih hpatience
        rw [hafter] at hvalue hleft
        exact ⟨_, congrArg _ hrun, hvalue, hleft⟩

/-- A start opens a session, whether or not it could clear the queue. -/
theorem start_run (hpatience : (port.queue state).length < patience) (isOpen : Bool) :
    ∃ outcome, (handler config patience .start isOpen).run port.link state = some outcome ∧
      outcome.value = (cleared (port.queue state), true) ∧
        port.queue outcome.state = leftBehind (port.queue state) := by
  obtain ⟨drained, hrun, hvalue, hleft⟩ := drain_run hpatience
  rw [← hvalue]
  exact ⟨_, run_bind_eq_some.mpr ⟨drained, _, hrun, rfl, rfl⟩, rfl, hleft⟩

end Start

/-! ### Sessions -/

/-- Things happen at a bus one after another, from a state of the bus and one of the link up to a
last one. -/
inductive Port.Session {δ : Type} (port : Port δ) (bus : Handler Bus Link Bool) :
    List Happening → Bool → δ → List Moment → δ → Prop
  | nil (isOpen : Bool) (state : δ) : Session port bus [] isOpen state [] state
  | arrives {byte : UInt8} {rest : List Happening} {isOpen : Bool} {state final : δ}
      {later : List Moment}
      (hlater : Session port bus rest isOpen (port.arrive byte state) later final) :
      Session port bus (.arrives byte :: rest) isOpen state (.arrived byte :: later) final
  | asks {request : BusRequest} {rest : List Happening} {isOpen : Bool} {state final : δ}
      {outcome : Outcome Link δ (Bus.Reply request × Bool)} {later : List Moment}
      (hrun : (bus request isOpen).run port.link state = some outcome)
      (hlater : Session port bus rest outcome.value.2 outcome.state later final) :
      Session port bus (.asks request :: rest) isOpen state
        (.called ⟨request, outcome.value.1, outcome.events⟩ :: later) final

/-- The entries that joined the queue in a session: what a device sent and what came back. -/
def Port.joined {δ : Type} (port : Port δ) (moments : List Moment) : List Entry :=
  moments.flatMap fun
    | .arrived byte => [.ok byte]
    | .called call => port.echoed call.events

/-- The entries that were taken off the queue in a session. -/
def entriesTaken (moments : List Moment) : List Entry :=
  moments.flatMap fun
    | .arrived _ => []
    | .called call => takenOff call.events

theorem Port.joined_called {δ : Type} (port : Port δ) (call : Call Bus Link)
    (later : List Moment) :
    port.joined (.called call :: later) = port.echoed call.events ++ port.joined later := rfl

theorem entriesTaken_called (call : Call Bus Link) (later : List Moment) :
    entriesTaken (.called call :: later) = takenOff call.events ++ entriesTaken later := rfl

theorem returned_cons (moment : Moment) (later : List Moment) :
    returned (moment :: later) = returned [moment] ++ returned later := by
  rw [returned, ← List.singleton_append, List.filterMap_append]
  rfl

section Sessions

variable {δ : Type} {port : Port δ} {config : Config} {patience : Nat}
  {happenings : List Happening} {isOpen : Bool} {state final : δ} {moments : List Moment}

/-- What was in the queue and what joined it in a session is what was taken off and what is left. -/
theorem Port.Session.moves {bus : Handler Bus Link Bool}
    (hsession : port.Session bus happenings isOpen state moments final) :
    port.queue state ++ port.joined moments = entriesTaken moments ++ port.queue final := by
  induction hsession with
  | nil isOpen state => exact List.append_nil _
  | arrives _ ih =>
    rw [port.queue_arrive, List.append_assoc] at ih
    exact ih
  | @asks request rest isOpen state final outcome later hrun _ ih =>
    rw [Port.joined_called, entriesTaken_called]
    calc port.queue state ++ (port.echoed outcome.events ++ port.joined later)
        = takenOff outcome.events ++ port.queue outcome.state ++ port.joined later := by
          rw [← List.append_assoc, Port.run_moves hrun]
      _ = takenOff outcome.events ++ entriesTaken later ++ port.queue final := by
          rw [List.append_assoc, ih, List.append_assoc]

/-- A read gives the byte that it takes off the queue, and nothing otherwise. -/
theorem returned_read {width : Nat} {outcome : Outcome Link δ (Poll BusFailure Word × Bool)}
    (hrun : (handler config patience (.read width) isOpen).run port.link state = some outcome) :
    returned [.called ⟨.read width, outcome.value.1, outcome.events⟩] =
      (bytesOf (takenOff outcome.events)).map UInt8.toUInt32 := by
  simp only [handler, receive, ask_bind, run_ask, Option.map_eq_some_iff] at hrun
  obtain ⟨done, hdone, rfl⟩ := hrun
  cases hreply : (port.link .receive state).1 with
  | _ =>
    rw [hreply] at hdone
    obtain rfl := Option.some.inj hdone
    rfl

/-- The bytes that reads give are taken off the queue, in this order. -/
theorem Port.Session.returned_sublist
    (hsession : port.Session (handler config patience) happenings isOpen state moments final) :
    (returned moments).Sublist ((bytesOf (entriesTaken moments)).map UInt8.toUInt32) := by
  induction hsession with
  | nil isOpen state => exact .slnil
  | arrives _ ih => exact ih
  | @asks request rest isOpen state final outcome later hrun _ ih =>
    have hreturned : (returned [.called ⟨request, outcome.value.1, outcome.events⟩]).Sublist
        ((bytesOf (takenOff outcome.events)).map UInt8.toUInt32) := by
      cases request with
      | read width =>
        simp only [returned_read hrun, List.Sublist.refl]
      | _ => exact List.nil_sublist _
    rw [returned_cons, entriesTaken_called, bytesOf_append, List.map_append]
    exact hreturned.append ih

/-- A read takes the first entry off the queue. -/
theorem exists_read_run (config : Config) (patience width : Nat) (isOpen : Bool) {entry : Entry}
    {rest : List Entry} (hqueue : port.queue state = entry :: rest) :
    ∃ outcome, (handler config patience (.read width) isOpen).run port.link state = some outcome ∧
      outcome.value.2 = isOpen ∧ port.queue outcome.state = rest ∧
        takenOff outcome.events = [entry] ∧ port.echoed outcome.events = [] := by
  obtain ⟨hreply, hafter⟩ := port.receive_cons state entry rest hqueue
  simp only [handler, receive, ask_bind, run_ask]
  rw [hreply]
  cases entry with
  | _ => exact ⟨_, rfl, rfl, hafter, rfl, rfl⟩

/-- With as many reads as there are entries in the queue, all bytes in it are given. -/
theorem exists_session_reading_all (port : Port δ) (isOpen : Bool) (state : δ) :
    ∃ happenings moments final,
      port.Session (handler config patience) happenings isOpen state moments final ∧
        returned moments = (bytesOf (port.queue state)).map UInt8.toUInt32 ∧
          port.joined moments = [] := by
  generalize hqueue : port.queue state = queue
  induction queue generalizing state with
  | nil => exact ⟨[], [], state, .nil isOpen state, rfl, rfl⟩
  | cons entry rest ih =>
    obtain ⟨outcome, hrun, hopen, hafter, htaken, hechoed⟩ :=
      exists_read_run config patience 8 isOpen hqueue
    obtain ⟨happenings, moments, final, hsession, hreturned, hjoined⟩ := ih _ hafter
    rw [← hopen] at hsession
    refine ⟨_, _, final, .asks hrun hsession, ?_, ?_⟩
    · rw [returned_cons, returned_read hrun, htaken, hreturned, ← List.map_append,
        ← bytesOf_append, List.singleton_append]
    · rw [Port.joined_called, hechoed, hjoined, List.append_nil]

end Sessions

/-- A start with a finite queue of received entries always comes to an end, and a session is open
then. The entries behind the first error stay in the queue. Whatever happens in the session, entries
are taken off in the order in which they stand, those left behind first and then those that joined
since, and reads give bytes that were taken off, in order. They give only bytes that joined the
queue after the start, in every session, exactly if no byte stood behind an error. -/
theorem session_after_start {δ : Type} {port : Port δ} {config : Config} {patience : Nat}
    {state : δ} (hpatience : (port.queue state).length < patience) (isOpen : Bool) :
    ∃ opened, (handler config patience .start isOpen).run port.link state = some opened ∧
      opened.value = (cleared (port.queue state), true) ∧
      (∀ happenings moments final,
        port.Session (handler config patience) happenings true opened.state moments final →
          entriesTaken moments ++ port.queue final =
              leftBehind (port.queue state) ++ port.joined moments ∧
            (returned moments).Sublist ((bytesOf (entriesTaken moments)).map UInt8.toUInt32)) ∧
      ((∀ happenings moments final,
        port.Session (handler config patience) happenings true opened.state moments final →
          (returned moments).Sublist ((bytesOf (port.joined moments)).map UInt8.toUInt32)) ↔
        bytesOf (leftBehind (port.queue state)) = []) := by
  obtain ⟨opened, hrun, hvalue, hqueue⟩ := start_run hpatience isOpen
  refine ⟨opened, hrun, hvalue, fun happenings moments final hsession ↦ ?_, fun hfresh ↦ ?_,
    fun hnone happenings moments final hsession ↦ ?_⟩
  · rw [← hqueue, hsession.moves]
    exact ⟨rfl, hsession.returned_sublist⟩
  · obtain ⟨happenings, moments, final, hsession, hreturned, hjoined⟩ :=
      exists_session_reading_all port true opened.state
    have hsublist := hfresh happenings moments final hsession
    rw [hreturned, hjoined, hqueue] at hsublist
    exact List.map_eq_nil_iff.mp (List.sublist_nil.mp hsublist)
  · have hmoves := congrArg bytesOf hsession.moves
    rw [hqueue, bytesOf_append, bytesOf_append, hnone, List.nil_append] at hmoves
    refine hsession.returned_sublist.trans (List.Sublist.map _ ?_)
    rw [hmoves]
    exact List.sublist_append_left _ _

/-- A link on which nothing comes back. The state is the queue. -/
def plainPort : Port (List Entry) where
  link
    | .send _, queue => (.ready (), queue)
    | .flush, queue => (.ready (), queue)
    | .receive, [] => (.pending, [])
    | .receive, entry :: rest => (entry.reply, rest)
  queue := id
  arrive byte queue := queue ++ [.ok byte]
  echo _ _ := []
  receive_nil _ hqueue := by subst hqueue; exact ⟨rfl, rfl⟩
  receive_cons _ _ _ hqueue := by subst hqueue; exact ⟨rfl, rfl⟩
  queue_send _ _ := (List.append_nil _).symm
  queue_flush _ := rfl
  queue_arrive _ _ := rfl

/-- A byte that stands behind an error when a session is opened is returned by a read of it, before
the byte that arrives later. -/
theorem byte_behind_error_returned :
    ∃ opened, (handler .default 4 .start false).run plainPort.link
          [.ok 0x01, .error ⟨"parity"⟩, .ok 0x02] = some opened ∧
        opened.value = (.error (.receive ⟨"parity"⟩), true) ∧
      (∃ moments final, plainPort.Session (handler .default 4)
          [.arrives 0x03, .asks (.read 8), .asks (.read 8)] true opened.state moments final ∧
        returned moments = [0x02, 0x03] ∧ plainPort.joined moments = [.ok 0x03]) ∧
      ¬ ∀ happenings moments final,
        plainPort.Session (handler .default 4) happenings true opened.state moments final →
          (returned moments).Sublist ((bytesOf (plainPort.joined moments)).map UInt8.toUInt32) := by
  have hpatience : (plainPort.queue [.ok 0x01, .error ⟨"parity"⟩, .ok 0x02]).length < 4 := by decide
  obtain ⟨opened, hrun, hvalue, -, hfresh⟩ :=
    @session_after_start _ plainPort .default 4 _ hpatience false
  refine ⟨opened, hrun, hvalue, ?_, fun hall ↦ absurd (hfresh.mp hall) nofun⟩
  obtain rfl := Option.some.inj hrun
  exact ⟨_, _, .arrives (.asks rfl (.asks rfl (.nil _ _))), rfl, rfl⟩

end BusProbe.Uart
