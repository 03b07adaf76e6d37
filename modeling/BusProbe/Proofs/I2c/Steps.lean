import BusProbe.Bus.I2c
import BusProbe.Proofs.Script.Runs

/-!
# Steps of the I2C bus

What a request to the bus can do, for any controller. An owed acknowledgement comes first, and if
giving it fails nothing else happens; otherwise the controller is asked for what the request is
about (`start_cases`, `stop_cases`, `write_cases`, `read_cases`).
-/

set_option autoImplicit false
set_option relaxedAutoImplicit false

namespace BusProbe.I2c

open Script

variable {δ : Type} {device : Device Controller δ} {state : State} {hardware : δ}

/-- The acknowledgement that a state owes, given without a fault. -/
def discharge (state : State) (accept : Bool) : List (Event Controller) :=
  if state.ackOwed then [.exchange (.acknowledge accept) (.ok ())] else []

/-- What remains of a request when the acknowledgement that is owed cannot be given: its fault, and
nothing owed any more. -/
structure Refused {α : Type} (state : State) (accept : Bool)
    (outcome : Outcome Controller δ (α × State)) (fault : Fault) : Prop where
  owed : state.ackOwed = true
  events : outcome.events = [.exchange (.acknowledge accept) (.error fault)]
  state : outcome.value.2 = ⟨state.held, false⟩

/-- Giving the acknowledgement that is owed ends in a fault or with nothing owed. -/
theorem settle_cases {accept : Bool} {outcome : Outcome Controller δ (Except Fault Unit × State)}
    (hrun : (settle accept state).run device hardware = some outcome) :
    (∃ fault, Refused state accept outcome fault ∧ outcome.value.1 = .error fault) ∨
      outcome.events = discharge state accept ∧ outcome.value = (.ok (), ⟨state.held, false⟩) := by
  obtain ⟨held, owed⟩ := state
  cases owed with
  | false =>
    simp only [settle, Bool.false_eq_true, if_false, run_done, Option.some.injEq] at hrun
    subst hrun
    exact Or.inr ⟨rfl, rfl⟩
  | true =>
    simp only [settle, if_true, run_ask, run_done, Option.map_some, Option.some.injEq] at hrun
    subst hrun
    cases hreply : (device (.acknowledge accept) hardware).1 with
    | error fault => exact Or.inl ⟨fault, ⟨rfl, rfl, rfl⟩, rfl⟩
    | ok value => exact Or.inr ⟨rfl, rfl⟩

/-- A request after the acknowledgement that is owed: it is refused with the fault of the latter, or
goes on from a state in which nothing is owed. -/
theorem run_after_settle {α : Type} {accept : Bool} (failed : Fault → α)
    {next : Except Fault Unit × State → Script Controller (α × State)}
    (hfailed : ∀ fault state, next (.error fault, state) = .done (failed fault, state))
    {outcome : Outcome Controller δ (α × State)}
    (hrun : (settle accept state >>= next).run device hardware = some outcome) :
    (∃ fault, Refused state accept outcome fault ∧ outcome.value.1 = failed fault) ∨
      ∃ hardware' rest, (next (.ok (), ⟨state.held, false⟩)).run device hardware' = some rest ∧
        outcome = rest.after (discharge state accept) := by
  obtain ⟨first, rest, hfirst, hrest, rfl⟩ := run_bind_eq_some.mp hrun
  rcases settle_cases hfirst with ⟨fault, hrefused, hvalue⟩ | ⟨hevents, hvalue⟩
  · left
    have hpair : first.value = (.error fault, ⟨state.held, false⟩) :=
      Prod.ext hvalue hrefused.state
    rw [hpair, hfailed, run_done, Option.some.injEq] at hrest
    subst hrest
    exact ⟨fault, ⟨hrefused.owed, by simp [Outcome.after, hrefused.events], rfl⟩, rfl⟩
  · right
    rw [hvalue] at hrest
    exact ⟨first.state, rest, hrest, by rw [hevents]⟩

/-- A script that begins with a request to the controller goes on with the reply. -/
theorem run_after_control {α : Type} {request : ControllerRequest}
    {next : request.Reply → Script Controller α} {outcome : Outcome Controller δ α}
    (hrun : (control request >>= next).run device hardware = some outcome) :
    ∃ reply hardware' rest, (next reply).run device hardware' = some rest ∧
      outcome = rest.after [.exchange request reply] := by
  simp only [control, ask_bind, done_bind, run_ask, Option.map_eq_some_iff] at hrun
  obtain ⟨rest, hrest, rfl⟩ := hrun
  exact ⟨_, _, rest, hrest, rfl⟩

/-- A start is refused at the acknowledgement, or asks the controller for a start and holds the bus
if that works. -/
theorem start_cases {outcome : Outcome Controller δ (Except BusFailure Unit × State)}
    (hrun : (start state).run device hardware = some outcome) :
    (∃ fault, Refused state false outcome fault ∧
        outcome.value.1 = .error (.controller fault)) ∨
      ∃ reply, outcome.events = discharge state false ++ [.exchange .start reply] ∧
        outcome.value = (reply.mapError .controller, ⟨state.held || reply.isOk, false⟩) := by
  rcases run_after_settle (fun fault ↦ Except.error (.controller fault)) (fun _ _ ↦ rfl) hrun with
    hrefused | ⟨_, rest, hrest, rfl⟩
  · exact Or.inl hrefused
  · right
    obtain ⟨reply, _, last, hlast, rfl⟩ := run_after_control hrest
    refine ⟨reply, ?_⟩
    cases reply with
    | error fault =>
      simp only [pure_eq_done, run_done, Option.some.injEq] at hlast
      subst hlast
      have hheld : (state.held || (Except.error fault : Except Fault Unit).isOk) = state.held :=
        Bool.or_false state.held
      rw [hheld]
      exact ⟨rfl, rfl⟩
    | ok value =>
      simp only [pure_eq_done, run_done, Option.some.injEq] at hlast
      subst hlast
      have hheld : (state.held || (Except.ok value : Except Fault Unit).isOk) = true :=
        Bool.or_true state.held
      rw [hheld]
      exact ⟨rfl, rfl⟩

/-- A stop is refused at the acknowledgement, or asks the controller for a stop and lets go of the
bus whether or not that works. -/
theorem stop_cases {outcome : Outcome Controller δ (Except BusFailure Unit × State)}
    (hrun : (stop state).run device hardware = some outcome) :
    (∃ fault, Refused state false outcome fault ∧
        outcome.value.1 = .error (.controller fault)) ∨
      ∃ reply, outcome.events = discharge state false ++ [.exchange .stop reply] ∧
        outcome.value = (reply.mapError .controller, ⟨false, false⟩) := by
  rcases run_after_settle (fun fault ↦ Except.error (.controller fault)) (fun _ _ ↦ rfl) hrun with
    hrefused | ⟨_, rest, hrest, rfl⟩
  · exact Or.inl hrefused
  · right
    obtain ⟨reply, _, last, hlast, rfl⟩ := run_after_control hrest
    simp only [pure_eq_done, run_done, Option.some.injEq] at hlast
    subst hlast
    exact ⟨reply, rfl, rfl⟩

/-- Sending bytes makes no request but those of sending them. -/
theorem sendBytes_events {bytes : List UInt8}
    {outcome : Outcome Controller δ (Except BusFailure Unit)}
    (hrun : (sendBytes bytes).run device hardware = some outcome) :
    ∀ event ∈ outcome.events, ∃ byte reply, event = .exchange (.writeByte byte) reply := by
  induction bytes generalizing hardware outcome with
  | nil =>
    rw [sendBytes, pure_eq_done, run_done, Option.some.injEq] at hrun
    subst hrun
    simp
  | cons byte rest ih =>
    obtain ⟨reply, _, last, hlast, rfl⟩ := run_after_control hrun
    have hmore : ∀ event ∈ last.events,
        ∃ byte reply, event = .exchange (.writeByte byte) reply := by
      cases reply with
      | error fault =>
        simp only [pure_eq_done, run_done, Option.some.injEq] at hlast
        simp [← hlast]
      | ok acknowledged =>
        cases acknowledged with
        | false =>
          simp only [pure_eq_done, run_done, Option.some.injEq] at hlast
          simp [← hlast]
        | true => exact ih hlast
    intro event hevent
    rcases List.mem_cons.mp hevent with rfl | hrest
    · exact ⟨byte, reply, rfl⟩
    · exact hmore event hrest

/-- A write is refused at the acknowledgement, or sends bytes and leaves the state with nothing
owed. -/
theorem write_cases {value : Word} {width : Nat}
    {outcome : Outcome Controller δ (Except BusFailure Unit × State)}
    (hrun : (write value width state).run device hardware = some outcome) :
    (∃ fault, Refused state false outcome fault ∧
        outcome.value.1 = .error (.controller fault)) ∨
      ∃ hardware' sent, (sendBytes (value.bytes width)).run device hardware' = some sent ∧
        outcome.events = discharge state false ++ sent.events ∧
          outcome.value = (sent.value, ⟨state.held, false⟩) := by
  rcases run_after_settle (fun fault ↦ Except.error (.controller fault)) (fun _ _ ↦ rfl) hrun with
    hrefused | ⟨hardware', rest, hrest, rfl⟩
  · exact Or.inl hrefused
  · right
    obtain ⟨sent, last, hsent, hlast, rfl⟩ := run_bind_eq_some.mp hrest
    simp only [pure_eq_done, run_done, Option.some.injEq] at hlast
    subst hlast
    exact ⟨hardware', sent, hsent, by simp [Outcome.after], rfl⟩

/-- A read is refused at the acknowledgement, or asks the controller for a byte and owes an
acknowledgement if one came. -/
theorem read_cases {outcome : Outcome Controller δ (Poll BusFailure Word × State)}
    (hrun : (read state).run device hardware = some outcome) :
    (∃ fault, Refused state true outcome fault ∧
        outcome.value.1 = .failed (.controller fault)) ∨
      ∃ reply, outcome.events = discharge state true ++ [.exchange .readByte reply] ∧
        outcome.value = match reply with
          | .ready byte => (.ready byte.toUInt32, ⟨state.held, true⟩)
          | .pending => (.pending, ⟨state.held, false⟩)
          | .failed fault => (.failed (.controller fault), ⟨state.held, false⟩) := by
  rcases run_after_settle (fun fault ↦ Poll.failed (.controller fault)) (fun _ _ ↦ rfl) hrun with
    hrefused | ⟨_, rest, hrest, rfl⟩
  · exact Or.inl hrefused
  · right
    obtain ⟨reply, _, last, hlast, rfl⟩ := run_after_control hrest
    refine ⟨reply, ?_⟩
    cases reply with
    | ready byte =>
      simp only [pure_eq_done, run_done, Option.some.injEq] at hlast
      subst hlast
      exact ⟨rfl, rfl⟩
    | pending =>
      simp only [pure_eq_done, run_done, Option.some.injEq] at hlast
      subst hlast
      exact ⟨rfl, rfl⟩
    | failed fault =>
      simp only [pure_eq_done, run_done, Option.some.injEq] at hlast
      subst hlast
      exact ⟨rfl, rfl⟩

end BusProbe.I2c
