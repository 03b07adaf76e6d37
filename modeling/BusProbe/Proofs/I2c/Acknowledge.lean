import BusProbe.Proofs.I2c.Steps
import BusProbe.Proofs.Script.Calls

/-!
# Acknowledgement on the I2C bus

A byte that was read is acknowledged when the next operation is asked for: another read accepts it,
anything else refuses it. The moments of a run are the operations asked for, each followed by what
happened at the controller. They are read by a monitor that knows only whether an acknowledgement is
owed or due (`Debt`); a run is never at odds with it, whatever the controller answers
(`exists_calls_read`). So between a byte that was read and the next call of the controller there is
one acknowledgement, with the answer that the next operation gives, and an acknowledgement comes at
no other time (`acknowledged_exactly_once`).
-/

set_option autoImplicit false
set_option relaxedAutoImplicit false

namespace BusProbe.I2c

open Script

/-- Whether a request is an operation on the bus: a start, a stop, a write or a read. Raw lines and
questions do not concern the controller. -/
def isOperation : BusRequest → Bool
  | .line _ | .released => false
  | _ => true

/-- Whether a request is a read. -/
def isRead : BusRequest → Bool
  | .read _ => true
  | _ => false

/-! ### Moments -/

/-- A moment of a run: something is asked of the bus, or happens at its controller. -/
inductive Moment
  | asked (request : BusRequest)
  | atController (event : Event Controller)

namespace Moment

/-- The controller gives a byte that it received. -/
def received (byte : UInt8) : Moment := .atController (.exchange .readByte (.ready byte))

/-- The controller is asked for an acknowledgement. -/
def acknowledged (accept : Bool) (reply : Except Fault Unit) : Moment :=
  .atController (.exchange (.acknowledge accept) reply)

/-- The operation that is asked of the bus. -/
def operation? : Moment → Option BusRequest
  | .asked request => if isOperation request then some request else none
  | .atController _ => none

/-- What an acknowledgement that the controller is asked for says. -/
def accept? : Moment → Option Bool
  | .atController (.exchange (.acknowledge accept) _) => some accept
  | _ => none

/-- The controller is called. -/
def IsCall : Moment → Prop
  | .atController (.exchange _ _) => True
  | _ => False

/-- The controller is called for something other than an acknowledgement. -/
def IsOtherCall (moment : Moment) : Prop := moment.IsCall ∧ moment.accept? = none

theorem isOtherCall_received (byte : UInt8) : (received byte).IsOtherCall := ⟨trivial, rfl⟩

end Moment

/-- The moments of a call of the bus. -/
def callMoments (call : Call Bus Controller) : List Moment :=
  .asked call.request :: call.events.map .atController

/-- The moments of a run of calls. -/
def moments (calls : List (Call Bus Controller)) : List Moment := calls.flatMap callMoments

/-- Bytes are acknowledged as they should be. -/
structure Disciplined (moments : List Moment) : Prop where
  /-- Between a byte and the next call of another kind there is one acknowledgement. It accepts the
  byte exactly if the first operation asked for after the byte is a read. -/
  once : ∀ before byte between call after,
    moments = before ++ .received byte :: (between ++ call :: after) →
      (∀ moment ∈ between, ¬ moment.IsOtherCall) → call.IsOtherCall →
        ∃ operation, between.findSome? Moment.operation? = some operation ∧
          between.filterMap Moment.accept? = [isRead operation]
  /-- The call before an acknowledgement is the one that gave a byte, and the first operation asked
  for since then decides what it says. -/
  never_else : ∀ before accept reply after,
    moments = before ++ .acknowledged accept reply :: after →
      ∃ earlier byte between operation, before = earlier ++ .received byte :: between ∧
        (∀ moment ∈ between, ¬ moment.IsCall) ∧
          between.findSome? Moment.operation? = some operation ∧ accept = isRead operation

/-! ### The monitor -/

/-- Where a run stands with the byte that was read last. -/
inductive Debt
  | settled
  /-- A byte was read and no operation was asked for since. -/
  | owed
  /-- An operation was asked for after a byte; the acknowledgement has to come next. -/
  | due (accept : Bool)
  deriving DecidableEq

namespace Debt

/-- How a moment changes the debt, if it may come then at all. -/
def after : Debt → Moment → Option Debt
  | .settled, .atController (.exchange (.acknowledge _) _) => none
  | .settled, .atController (.exchange .readByte (.ready _)) => some .owed
  | .settled, _ => some .settled
  | .owed, .asked request =>
    some (if isOperation request then .due (isRead request) else .owed)
  | .owed, .atController (.note _) => some .owed
  | .owed, .atController (.exchange _ _) => none
  | .due accept, .atController (.exchange (.acknowledge given) _) =>
    if given = accept then some .settled else none
  | .due _, _ => none

/-- How some moments change the debt, if each of them may come when it does. -/
def read (debt : Debt) (moments : List Moment) : Option Debt := moments.foldlM after debt

/-- What the acknowledgement says that is due. -/
def accept? : Debt → Option Bool
  | .due accept => some accept
  | _ => none

/-- The debt of a state of the bus. -/
def ofState (state : State) : Debt := if state.ackOwed then .owed else .settled

theorem read_cons (debt : Debt) (moment : Moment) (rest : List Moment) :
    debt.read (moment :: rest) = (debt.after moment).bind (·.read rest) :=
  List.foldlM_cons

theorem read_append (debt : Debt) (first second : List Moment) :
    debt.read (first ++ second) = (debt.read first).bind (·.read second) :=
  List.foldlM_append

/-- Moments read one after the other are read in two parts. -/
theorem read_append_eq_some {debt last : Debt} {first second : List Moment} :
    debt.read (first ++ second) = some last ↔
      ∃ middle, debt.read first = some middle ∧ middle.read second = some last := by
  rw [read_append, Option.bind_eq_some_iff]

theorem read_cons_eq_some {debt last : Debt} {moment : Moment} {rest : List Moment} :
    debt.read (moment :: rest) = some last ↔
      ∃ middle, debt.after moment = some middle ∧ middle.read rest = some last := by
  rw [read_cons, Option.bind_eq_some_iff]

/-! ### What the monitor allows -/

/-- While nothing is owed no acknowledgement may come, and only a byte makes one owed. -/
theorem after_settled {moment : Moment} {last : Debt}
    (hafter : Debt.settled.after moment = some last) : moment.accept? = none ∧
      ((∃ byte, moment = .received byte ∧ last = .owed) ∨ last = .settled) := by
  unfold after at hafter
  split at hafter
  · cases hafter
  · exact ⟨rfl, Or.inl ⟨_, rfl, (Option.some.inj hafter).symm⟩⟩
  · rename_i hacknowledge hready
    refine ⟨?_, Or.inr (Option.some.inj hafter).symm⟩
    unfold Moment.accept?
    split
    · exact (hacknowledge _ _ rfl).elim
    · rfl
  all_goals contradiction

/-- While a byte is owed the controller may not be called, and the first operation asked for makes
the acknowledgement due. -/
theorem after_owed {moment : Moment} {last : Debt} (hafter : Debt.owed.after moment = some last) :
    ¬ moment.IsCall ∧ moment.accept? = none ∧
      last = moment.operation?.elim .owed fun operation ↦ .due (isRead operation) := by
  cases moment with
  | asked request =>
    refine ⟨id, rfl, ?_⟩
    rw [← Option.some.inj hafter, Moment.operation?]
    split <;> rfl
  | atController event =>
    cases event with
    | note notice => exact ⟨id, rfl, (Option.some.inj hafter).symm⟩
    | exchange request reply => cases hafter

/-- Once it is due, the acknowledgement has to come next. -/
theorem after_due {moment : Moment} {accept : Bool} {last : Debt}
    (hafter : (Debt.due accept).after moment = some last) :
    moment.accept? = some accept ∧ moment.IsCall ∧ last = .settled := by
  unfold after at hafter
  split at hafter
  case h_7 expected given reply hdue =>
    obtain ⟨rfl, hlast⟩ := Option.ite_none_right_eq_some.mp hafter
    rw [Debt.due.inj hdue]
    exact ⟨rfl, trivial, (Option.some.inj hlast).symm⟩
  all_goals contradiction

/-- A call of another kind may come only when nothing is owed. -/
theorem eq_settled_of_isOtherCall {debt last : Debt} {call : Moment} (hcall : call.IsOtherCall)
    (hafter : debt.after call = some last) : debt = .settled := by
  cases debt with
  | settled => rfl
  | owed => exact absurd hcall.1 (after_owed hafter).1
  | due accept =>
    have hother := hcall.2
    rw [(after_due hafter).1] at hother
    cases hother

/-- A byte may be received only when no other is owed, and is owed from then on. -/
theorem after_received {debt last : Debt} {byte : UInt8}
    (hafter : debt.after (.received byte) = some last) : last = .owed := by
  obtain rfl := eq_settled_of_isOtherCall (Moment.isOtherCall_received byte) hafter
  exact (Option.some.inj hafter).symm

/-- What a debt says of the moments before: unless all is settled, the last call of the controller
gave a byte, and if an operation was asked for since then, the acknowledgement is due that the first
of them calls for. -/
def Backed (debt : Debt) (past : List Moment) : Prop :=
  debt ≠ .settled → ∃ earlier byte between, past = earlier ++ .received byte :: between ∧
    (∀ moment ∈ between, ¬ moment.IsCall) ∧
      (between.findSome? Moment.operation?).map isRead = debt.accept?

theorem Backed.after {debt last : Debt} {past : List Moment} {moment : Moment}
    (hbacked : debt.Backed past) (hafter : debt.after moment = some last) :
    last.Backed (past ++ [moment]) := by
  intro hlast
  cases debt with
  | settled =>
    rcases (after_settled hafter).2 with ⟨byte, rfl, rfl⟩ | hsettled
    · exact ⟨past, byte, [], rfl, fun _ hmem ↦ absurd hmem List.not_mem_nil, rfl⟩
    · exact absurd hsettled hlast
  | owed =>
    obtain ⟨earlier, byte, between, rfl, hbetween, hnone⟩ := hbacked Debt.noConfusion
    obtain ⟨hcall, -, rfl⟩ := after_owed hafter
    refine ⟨earlier, byte, between ++ [moment], by simp, fun other hmem ↦ ?_, ?_⟩
    · rcases List.mem_append.mp hmem with hmem | hmem
      · exact hbetween other hmem
      · rwa [List.mem_singleton.mp hmem]
    · have hfirst : between.findSome? Moment.operation? = none := Option.map_eq_none_iff.mp hnone
      rw [List.findSome?_append, hfirst, Option.none_or, List.findSome?_singleton]
      cases moment.operation? with
      | none => rfl
      | some operation => rfl
  | due accept => exact absurd (after_due hafter).2.2 hlast

theorem Backed.read {debt last : Debt} {past moments : List Moment} (hbacked : debt.Backed past)
    (hread : debt.read moments = some last) : last.Backed (past ++ moments) := by
  induction moments generalizing debt past with
  | nil =>
    rw [← Option.some.inj hread, List.append_nil]
    exact hbacked
  | cons moment rest ih =>
    obtain ⟨middle, hafter, hrest⟩ := read_cons_eq_some.mp hread
    have hend := ih (hbacked.after hafter) hrest
    rwa [List.append_assoc] at hend

/-! ### Stretches without a call of another kind -/

section Between

variable {moments : List Moment} {last : Debt}

/-- Nothing is acknowledged before another byte comes. -/
theorem read_settled (hread : Debt.settled.read moments = some last)
    (hmoments : ∀ moment ∈ moments, ¬ moment.IsOtherCall) :
    moments.filterMap Moment.accept? = [] := by
  induction moments with
  | nil => rfl
  | cons moment rest ih =>
    obtain ⟨middle, hafter, hrest⟩ := read_cons_eq_some.mp hread
    obtain ⟨haccept, hmiddle⟩ := after_settled hafter
    obtain rfl : middle = .settled := by
      rcases hmiddle with ⟨byte, rfl, -⟩ | hmiddle
      · exact absurd (Moment.isOtherCall_received byte) (hmoments _ List.mem_cons_self)
      · exact hmiddle
    rw [List.filterMap_cons, haccept]
    exact ih hrest fun other hmem ↦ hmoments other (List.mem_cons_of_mem moment hmem)

/-- An acknowledgement that is due comes next, and no other before another byte comes. -/
theorem read_due {accept : Bool} (hread : (Debt.due accept).read moments = some .settled)
    (hmoments : ∀ moment ∈ moments, ¬ moment.IsOtherCall) :
    moments.filterMap Moment.accept? = [accept] := by
  cases moments with
  | nil => cases hread
  | cons moment rest =>
    obtain ⟨middle, hafter, hrest⟩ := read_cons_eq_some.mp hread
    obtain ⟨haccept, -, rfl⟩ := after_due hafter
    have hnone := read_settled hrest fun other hmem ↦
      hmoments other (List.mem_cons_of_mem moment hmem)
    rw [List.filterMap_cons, haccept, hnone]

/-- A byte that is owed is settled by one acknowledgement, which the first operation decides. -/
theorem read_owed (hread : Debt.owed.read moments = some .settled)
    (hmoments : ∀ moment ∈ moments, ¬ moment.IsOtherCall) :
    ∃ operation, moments.findSome? Moment.operation? = some operation ∧
      moments.filterMap Moment.accept? = [isRead operation] := by
  induction moments with
  | nil => cases hread
  | cons moment rest ih =>
    obtain ⟨middle, hafter, hrest⟩ := read_cons_eq_some.mp hread
    obtain ⟨-, haccept, rfl⟩ := after_owed hafter
    have hothers : ∀ moment ∈ rest, ¬ moment.IsOtherCall :=
      fun other hmem ↦ hmoments other (List.mem_cons_of_mem moment hmem)
    rw [List.findSome?_cons, List.filterMap_cons, haccept]
    cases hoperation : moment.operation? with
    | none =>
      rw [hoperation] at hrest
      exact ih hrest hothers
    | some operation =>
      rw [hoperation] at hrest
      exact ⟨operation, rfl, read_due hrest hothers⟩

end Between

/-- Moments with which the monitor is not at odds are disciplined. -/
theorem disciplined_of_read {moments : List Moment} {last : Debt}
    (hread : Debt.settled.read moments = some last) : Disciplined moments := by
  constructor
  · rintro before byte between call after rfl hbetween hcall
    obtain ⟨first, -, hafterwards⟩ := read_append_eq_some.mp hread
    obtain ⟨second, hreceived, hmore⟩ := read_cons_eq_some.mp hafterwards
    obtain ⟨third, hmiddle, hrest⟩ := read_append_eq_some.mp hmore
    obtain ⟨fourth, hother, -⟩ := read_cons_eq_some.mp hrest
    obtain rfl := after_received hreceived
    obtain rfl := eq_settled_of_isOtherCall hcall hother
    exact read_owed hmiddle hbetween
  · rintro before accept reply after rfl
    obtain ⟨first, hbefore, hmore⟩ := read_append_eq_some.mp hread
    obtain ⟨second, hacknowledged, -⟩ := read_cons_eq_some.mp hmore
    have hstart : Debt.settled.Backed [] := fun hne ↦ absurd rfl hne
    have hbacked : first.Backed before := hstart.read hbefore
    cases first with
    | settled => cases (after_settled hacknowledged).1
    | owed => exact absurd trivial (after_owed hacknowledged).1
    | due expected =>
      obtain ⟨earlier, byte, between, hpast, hbetween, haccept⟩ := hbacked Debt.noConfusion
      obtain ⟨operation, hoperation, hexpected⟩ := Option.map_eq_some_iff.mp haccept
      refine ⟨earlier, byte, between, operation, hpast, hbetween, hoperation, ?_⟩
      rw [hexpected]
      exact Option.some.inj (after_due hacknowledged).1

end Debt

/-! ### What the bus does -/

/-- The moments of some events at the controller turn one debt into another. -/
def Turns (debt last : Debt) (events : List (Event Controller)) : Prop :=
  debt.read (events.map .atController) = some last

theorem Turns.append {debt middle last : Debt} {first second : List (Event Controller)}
    (hfirst : Turns debt middle first) (hsecond : Turns middle last second) :
    Turns debt last (first ++ second) := by
  rw [Turns, List.map_append]
  exact Debt.read_append_eq_some.mpr ⟨middle, hfirst, hsecond⟩

/-- The debt of a state once an operation is asked for that calls for some acknowledgement. -/
def debtAt (state : State) (accept : Bool) : Debt :=
  if state.ackOwed then .due accept else .settled

/-- Giving the acknowledgement that is owed settles the debt, whether or not it can be given. -/
theorem settle_turns (accept : Bool) (state : State) :
    (settle accept state).Ensures Controller.anyReply fun answer events ↦
      answer.2.ackOwed = false ∧ Turns (debtAt state accept) .settled events := by
  obtain ⟨held, owed⟩ := state
  cases owed with
  | false => exact ⟨rfl, rfl⟩
  | true =>
    intro reply _
    refine ⟨rfl, ?_⟩
    exact Debt.read_cons_eq_some.mpr ⟨.settled, if_pos rfl, rfl⟩

/-- A request that is carried out once nothing is owed, by work that settles what it makes. -/
theorem after_settle_turns {α : Type} {accept : Bool} {state : State}
    {next : Except Fault Unit × State → Script Controller (α × State)}
    (hnext : ∀ reply settled, settled.ackOwed = false →
      (next (reply, settled)).Ensures Controller.anyReply fun answer events ↦
        Turns .settled (.ofState answer.2) events) :
    (settle accept state >>= next).Ensures Controller.anyReply fun answer events ↦
      Turns (debtAt state accept) (.ofState answer.2) events := by
  refine (settle_turns accept state).bind ?_
  rintro ⟨reply, settled⟩ events ⟨howed, hevents⟩
  exact (hnext reply settled howed).mono fun answer later hlater ↦ hevents.append hlater

theorem turns_nil_of_not_owed {state : State} (howed : state.ackOwed = false) :
    Turns .settled (.ofState state) [] := by
  rw [Debt.ofState, howed]
  rfl

theorem sendBytes_turns (bytes : List UInt8) :
    (sendBytes bytes).Ensures Controller.anyReply fun _ events ↦
      Turns .settled .settled events := by
  induction bytes with
  | nil => rfl
  | cons byte rest ih =>
    rintro (fault | acknowledged) -
    · rfl
    · cases acknowledged with
      | false => rfl
      | true => exact ih.mono fun _ events hevents ↦ hevents

theorem start_turns (state : State) :
    (start state).Ensures Controller.anyReply fun answer events ↦
      Turns (debtAt state false) (.ofState answer.2) events := by
  refine after_settle_turns ?_
  rintro (fault | _) settled howed
  · exact turns_nil_of_not_owed howed
  · rintro (fault | _) -
    · exact turns_nil_of_not_owed howed
    · exact turns_nil_of_not_owed howed

theorem stop_turns (state : State) :
    (stop state).Ensures Controller.anyReply fun answer events ↦
      Turns (debtAt state false) (.ofState answer.2) events := by
  refine after_settle_turns ?_
  rintro (fault | _) settled howed
  · exact turns_nil_of_not_owed howed
  · exact fun reply _ ↦ turns_nil_of_not_owed howed

theorem write_turns (value : Word) (width : Nat) (state : State) :
    (write value width state).Ensures Controller.anyReply fun answer events ↦
      Turns (debtAt state false) (.ofState answer.2) events := by
  refine after_settle_turns ?_
  rintro (fault | _) settled howed
  · exact turns_nil_of_not_owed howed
  · refine (sendBytes_turns _).bind fun reply events hevents ↦ ?_
    exact hevents.append (turns_nil_of_not_owed howed)

theorem read_turns (state : State) :
    (read state).Ensures Controller.anyReply fun answer events ↦
      Turns (debtAt state true) (.ofState answer.2) events := by
  refine after_settle_turns ?_
  rintro (fault | _) settled howed
  · exact turns_nil_of_not_owed howed
  · rintro (byte | _ | fault) -
    · rfl
    · exact turns_nil_of_not_owed howed
    · exact turns_nil_of_not_owed howed

/-- Asking for an operation makes the acknowledgement due that the operation calls for. -/
theorem after_asked {state : State} {request : BusRequest}
    (hrequest : isOperation request = true) :
    (Debt.ofState state).after (.asked request) = some (debtAt state (isRead request)) := by
  unfold Debt.ofState debtAt
  split
  · rw [Debt.after, if_pos hrequest]
  · rfl

/-- No request to the bus, with all that happens at the controller, is at odds with the monitor. -/
theorem handler_read (request : BusRequest) (state : State) :
    (handler request state).Ensures Controller.anyReply fun answer events ↦
      (Debt.ofState state).read (callMoments ⟨request, answer.1, events⟩) =
        some (.ofState answer.2) := by
  have hoperation : isOperation request = true →
      ((handler request state).Ensures Controller.anyReply fun answer events ↦
        Turns (debtAt state (isRead request)) (.ofState answer.2) events) →
      (handler request state).Ensures Controller.anyReply fun answer events ↦
        (Debt.ofState state).read (callMoments ⟨request, answer.1, events⟩) =
          some (.ofState answer.2) := fun hrequest hturns ↦
    hturns.mono fun answer events hevents ↦
      Debt.read_cons_eq_some.mpr ⟨_, after_asked hrequest, hevents⟩
  have hnone : isOperation request = false →
      (Debt.ofState state).read [.asked request] = some (.ofState state) := by
    intro hrequest
    refine Debt.read_cons_eq_some.mpr ⟨.ofState state, ?_, rfl⟩
    unfold Debt.ofState
    split
    · rw [Debt.after, hrequest]
      rfl
    · rfl
  cases request with
  | start => exact hoperation rfl (start_turns state)
  | startAlt => exact hoperation rfl (start_turns state)
  | stop => exact hoperation rfl (stop_turns state)
  | stopAlt => exact hoperation rfl (stop_turns state)
  | write value width => exact hoperation rfl (write_turns value width state)
  | read width => exact hoperation rfl (read_turns state)
  | line action => exact hnone rfl
  | released => exact hnone rfl

variable {δ : Type}

/-- Any requests can be made of the bus on any controller, and the monitor reads the moments of the
run to their end. -/
theorem exists_calls_read (device : Device Controller δ) (requests : List BusRequest)
    (state : State) (hardware : δ) :
    ∃ calls, handler.calls device requests state hardware = some calls ∧
      ∃ last, (Debt.ofState state).read (moments calls) = some last := by
  induction requests generalizing state hardware with
  | nil => exact ⟨[], rfl, _, rfl⟩
  | cons request rest ih =>
    refine Handler.exists_calls_cons device.answers_any (handler_read request state) ?_
    intro answer events hread hardware
    obtain ⟨later, hlater, last, hlast⟩ := ih answer.2 hardware
    exact ⟨later, hlater, last, Debt.read_append_eq_some.mpr ⟨_, hread, hlast⟩⟩

/-- Whatever is asked of the bus and whatever the controller answers, between a byte that was read
and the next call of another kind the controller is asked for one acknowledgement, which accepts the
byte exactly if the next operation is a read, and it is asked for one at no other time. -/
theorem acknowledged_exactly_once (device : Device Controller δ) (requests : List BusRequest)
    (hardware : δ) :
    ∃ calls, handler.calls device requests .idle hardware = some calls ∧
      Disciplined (moments calls) := by
  obtain ⟨calls, hcalls, last, hread⟩ := exists_calls_read device requests .idle hardware
  exact ⟨calls, hcalls, Debt.disciplined_of_read hread⟩

end BusProbe.I2c
