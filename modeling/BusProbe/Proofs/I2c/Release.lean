import BusProbe.Proofs.I2c.Steps
import BusProbe.Proofs.StationRuns

/-!
# Release of the I2C bus

After a sequence of operations the bus should be released and a controller that was started should
have been stopped. Two flags watch over this, one of the station and one of the bus, and one closing
stop is made where either asks for it. A stop first gives an acknowledgement that is owed, and if
that fails the controller is not stopped at all. `released_iff_not_givenUp` says that this is the
only way in which a sequence can leave the bus behind: the bus is released, and the last start of
the controller is followed by a stop, unless a stop was given up at its acknowledgement while the
controller was engaged and no later stop reached the controller. `refused_stop_leaves_bus_held` is a
run in which that happens.
-/

set_option autoImplicit false
set_option relaxedAutoImplicit false

namespace BusProbe.I2c

open Script Operation Probe

/-! ### What the controller has seen -/

/-- Whether the controller is engaged after an event: it was started, whether or not that worked,
and not stopped since. -/
def engagedAfter (engaged : Bool) : Event Controller → Bool
  | .exchange .start _ => true
  | .exchange .stop _ => false
  | _ => engaged

/-- The controller is engaged after some events, if `held` says whether it was before them. -/
def Engaged (held : Bool) (events : List (Event Controller)) : Prop :=
  events.foldl engagedAfter held = true

/-- The controller was not asked for a stop. -/
def Unstopped (events : List (Event Controller)) : Prop :=
  ∀ reply, .exchange .stop reply ∉ events

/-- A stop of the bus was given up: the refusal that the last byte was owed failed while the
controller was engaged, and the controller was not asked for a stop later either. -/
def GivenUp (held : Bool) (events : List (Event Controller)) : Prop :=
  ∃ before fault after,
    events = before ++ .exchange (.acknowledge false) (.error fault) ::
      .note (.stopFailed (.controller fault)) :: after ∧
    Engaged held before ∧ Unstopped after

/-- Every start that the controller was asked for is followed by a stop that it was asked for. -/
def StartsStopped (events : List (Event Controller)) : Prop :=
  ∀ before reply after, events = before ++ .exchange .start reply :: after →
    ∃ reply, .exchange .stop reply ∈ after

theorem unstopped_nil : Unstopped [] := fun _ ↦ List.not_mem_nil

theorem unstopped_append {first second : List (Event Controller)} :
    Unstopped (first ++ second) ↔ Unstopped first ∧ Unstopped second := by
  simp only [Unstopped, List.mem_append, not_or]
  exact forall_and

theorem engaged_append {held : Bool} {past events : List (Event Controller)} :
    Engaged held (past ++ events) ↔ Engaged (past.foldl engagedAfter held) events := by
  rw [Engaged, Engaged, List.foldl_append]

/-- Only a stop ends the engagement of the controller. -/
theorem engaged_of_unstopped {events : List (Event Controller)} (hevents : Unstopped events) :
    Engaged true events := by
  induction events with
  | nil => rfl
  | cons event rest ih =>
    have hrest : Unstopped rest := fun reply hmem ↦ hevents reply (List.mem_cons_of_mem event hmem)
    have hevent : engagedAfter true event = true := by
      unfold engagedAfter
      split
      · rfl
      · exact absurd List.mem_cons_self (hevents _)
      · rfl
    rw [Engaged, List.foldl_cons, hevent]
    exact ih hrest

theorem Engaged.append {held : Bool} {past events : List (Event Controller)}
    (hpast : Engaged held past) (hevents : Unstopped events) : Engaged held (past ++ events) := by
  rw [engaged_append, hpast]
  exact engaged_of_unstopped hevents

/-- A controller that is engaged was started and not stopped since, or was engaged from the
beginning and never stopped. -/
theorem unstopped_of_engaged {held : Bool} {events : List (Event Controller)}
    (hengaged : Engaged held events) :
    (∃ before reply after, events = before ++ .exchange .start reply :: after ∧ Unstopped after) ∨
      held = true ∧ Unstopped events := by
  induction events generalizing held with
  | nil => exact Or.inr ⟨hengaged, unstopped_nil⟩
  | cons event rest ih =>
    rcases ih hengaged with ⟨before, reply, after, rfl, hafter⟩ | ⟨hevent, hrest⟩
    · exact Or.inl ⟨event :: before, reply, after, rfl, hafter⟩
    · unfold engagedAfter at hevent
      split at hevent
      · exact Or.inl ⟨[], _, rest, rfl, hrest⟩
      · exact absurd hevent Bool.false_ne_true
      · rename_i hstart hstop
        refine Or.inr ⟨hevent, fun reply hmem ↦ ?_⟩
        rcases List.mem_cons.mp hmem with heq | hmem
        · exact hstop reply heq.symm
        · exact hrest reply hmem

/-- If a stop was given up and none followed, the controller is still engaged. -/
theorem GivenUp.engaged {held : Bool} {events : List (Event Controller)}
    (hgivenUp : GivenUp held events) : Engaged held events := by
  obtain ⟨before, fault, after, rfl, hbefore, hafter⟩ := hgivenUp
  refine hbefore.append fun reply hmem ↦ ?_
  simp only [List.mem_cons, reduceCtorEq, false_or] at hmem
  rcases hmem with heq | hmem
  · simp at heq
  · exact hafter reply hmem

theorem GivenUp.append {held : Bool} {past events : List (Event Controller)}
    (hpast : GivenUp held past) (hevents : Unstopped events) : GivenUp held (past ++ events) := by
  obtain ⟨before, fault, after, rfl, hbefore, hafter⟩ := hpast
  exact ⟨before, fault, after ++ events, by simp, hbefore, unstopped_append.mpr ⟨hafter, hevents⟩⟩

/-! ### The invariant -/

/-- What the bus knows of the controller: a bus that is held has its controller engaged, and one
that was held from the beginning stays so until the controller is asked for a stop. -/
structure Aware (held : Bool) (state : State) (past : List (Event Controller)) : Prop where
  engaged_of_held : state.held = true → Engaged held past
  held_of_unstopped : held = true → Unstopped past → state.held = true

/-- An engaged controller is accounted for: the flag is set, the bus is held or a stop was given
up. -/
def Accounted (held flag : Bool) (state : State) (past : List (Event Controller)) : Prop :=
  Engaged held past → flag = true ∨ state.held = true ∨ GivenUp held past

/-- What holds after a stop: the bus is aware of its controller, which is engaged only if a stop was
given up. -/
structure Stopped (held : Bool) (state : State) (past : List (Event Controller)) : Prop where
  aware : Aware held state past
  givenUp_of_engaged : Engaged held past → GivenUp held past

/-- No event of a list is a start or a stop of the controller. -/
def Quiet (events : List (Event Controller)) : Prop :=
  ∀ event ∈ events, ∀ engaged, engagedAfter engaged event = engaged

theorem Quiet.unstopped {events : List (Event Controller)} (hquiet : Quiet events) :
    Unstopped events := by
  intro reply hmem
  have hstop := hquiet _ hmem true
  simp [engagedAfter] at hstop

theorem Quiet.engaged_iff {held : Bool} {past events : List (Event Controller)}
    (hquiet : Quiet events) : Engaged held (past ++ events) ↔ Engaged held past := by
  have hfold : ∀ engaged, events.foldl engagedAfter engaged = engaged := by
    intro engaged
    induction events with
    | nil => rfl
    | cons event rest ih =>
      rw [List.foldl_cons, hquiet event List.mem_cons_self]
      exact ih fun other hother ↦ hquiet other (List.mem_cons_of_mem event hother)
  rw [Engaged, List.foldl_append, hfold]
  rfl

theorem Quiet.append {first second : List (Event Controller)} (hfirst : Quiet first)
    (hsecond : Quiet second) : Quiet (first ++ second) := by
  intro event hmem
  rcases List.mem_append.mp hmem with hmem | hmem
  · exact hfirst event hmem
  · exact hsecond event hmem

theorem quiet_discharge (state : State) (accept : Bool) : Quiet (discharge state accept) := by
  intro event hmem engaged
  unfold discharge at hmem
  split at hmem
  · rw [List.mem_singleton.mp hmem]
    rfl
  · exact absurd hmem List.not_mem_nil

theorem Refused.quiet {δ α : Type} {state : State} {accept : Bool} {fault : Fault}
    {outcome : Outcome Controller δ (α × State)} (hrefused : Refused state accept outcome fault) :
    Quiet outcome.events := by
  intro event hmem engaged
  rw [hrefused.events] at hmem
  rw [List.mem_singleton.mp hmem]
  rfl

theorem Aware.append_quiet {held : Bool} {state state' : State}
    {past events : List (Event Controller)} (haware : Aware held state past)
    (hquiet : Quiet events) (hheld : state'.held = state.held) :
    Aware held state' (past ++ events) where
  engaged_of_held h := hquiet.engaged_iff.mpr (haware.engaged_of_held (hheld ▸ h))
  held_of_unstopped h hunstopped :=
    hheld ▸ haware.held_of_unstopped h (unstopped_append.mp hunstopped).1

theorem Accounted.append_quiet {held flag : Bool} {state state' : State}
    {past events : List (Event Controller)} (haccounted : Accounted held flag state past)
    (hquiet : Quiet events) (hheld : state'.held = state.held) :
    Accounted held flag state' (past ++ events) := by
  intro hengaged
  rcases haccounted (hquiet.engaged_iff.mp hengaged) with hflag | hstate | hgivenUp
  · exact Or.inl hflag
  · exact Or.inr (Or.inl (hheld ▸ hstate))
  · exact Or.inr (Or.inr (hgivenUp.append hquiet.unstopped))

/-! ### Requests to the bus -/

section Requests

variable {δ : Type} {device : Device Controller δ} {hardware : δ} {held : Bool} {state : State}
  {past : List (Event Controller)}

/-- What is recorded of a reply is no request to the controller. -/
theorem quiet_complaint (notice : BusFailure → Notice) (reply : Except BusFailure Unit) :
    Quiet (complaint notice reply) := by
  intro event hmem engaged
  cases reply with
  | ok value => exact absurd hmem List.not_mem_nil
  | error failure =>
    rw [complaint, List.mem_singleton] at hmem
    rw [hmem]
    rfl

theorem Aware.start {outcome : Outcome Controller δ (Except BusFailure Unit × State)}
    (haware : Aware held state past)
    (hrun : (start state).run device hardware = some outcome) :
    Aware held outcome.value.2 (past ++ outcome.events) := by
  rcases start_cases hrun with ⟨fault, hrefused, -⟩ | ⟨reply, hevents, hvalue⟩
  · exact haware.append_quiet hrefused.quiet (by rw [hrefused.state])
  · rw [hevents, hvalue]
    constructor
    · intro _
      rw [← List.append_assoc, engaged_append]
      rfl
    · intro hheld hunstopped
      simp [haware.held_of_unstopped hheld (unstopped_append.mp hunstopped).1]

theorem Aware.stop {outcome : Outcome Controller δ (Except BusFailure Unit × State)}
    (haware : Aware held state past)
    (hrun : (stop state).run device hardware = some outcome) :
    Stopped held outcome.value.2
      (past ++ (outcome.events ++ complaint .stopFailed outcome.value.1)) := by
  have hcomplaint := quiet_complaint .stopFailed outcome.value.1
  rcases stop_cases hrun with ⟨fault, hrefused, hreply⟩ | ⟨reply, hevents, hvalue⟩
  · have hquiet := hrefused.quiet.append hcomplaint
    refine ⟨haware.append_quiet hquiet (by rw [hrefused.state]), fun hengaged ↦ ?_⟩
    refine ⟨past, fault, [], ?_, hquiet.engaged_iff.mp hengaged, unstopped_nil⟩
    rw [hrefused.events, hreply]
    rfl
  · have hdisengaged :
        ¬ Engaged held (past ++ (outcome.events ++ complaint .stopFailed outcome.value.1)) := by
      rw [← List.append_assoc, hcomplaint.engaged_iff, hevents, ← List.append_assoc,
        engaged_append]
      exact Bool.false_ne_true
    refine ⟨⟨fun hstate ↦ ?_, fun _ hunstopped ↦ ?_⟩, fun hengaged ↦ absurd hengaged hdisengaged⟩
    · rw [hvalue] at hstate
      exact absurd hstate Bool.false_ne_true
    · rw [hevents] at hunstopped
      have hstop := (unstopped_append.mp (unstopped_append.mp hunstopped).2).1
      exact absurd (List.mem_append_right _ (List.mem_singleton_self _)) (hstop reply)

/-- A request that is neither a start nor a stop leaves the bus as held as it was, and makes no
start and no stop of the controller. -/
theorem handler_quiet {request : BusRequest}
    {outcome : Outcome Controller δ (request.Reply × State)} (hframing : ¬ IsFraming (.inl request))
    (hrun : (handler request state).run device hardware = some outcome) :
    Quiet outcome.events ∧ outcome.value.2.held = state.held := by
  cases request with
  | start => exact absurd trivial hframing
  | startAlt => exact absurd trivial hframing
  | stop => exact absurd trivial hframing
  | stopAlt => exact absurd trivial hframing
  | write value width =>
    rcases write_cases hrun with ⟨fault, hrefused, -⟩ | ⟨_, sent, hsent, hevents, hvalue⟩
    · exact ⟨hrefused.quiet, by rw [hrefused.state]⟩
    · refine ⟨?_, by rw [hvalue]⟩
      rw [hevents]
      refine (quiet_discharge state false).append fun event hmem engaged ↦ ?_
      obtain ⟨byte, reply, rfl⟩ := sendBytes_events hsent event hmem
      rfl
  | read width =>
    rcases read_cases hrun with ⟨fault, hrefused, -⟩ | ⟨reply, hevents, hvalue⟩
    · exact ⟨hrefused.quiet, by rw [hrefused.state]⟩
    · constructor
      · rw [hevents]
        refine (quiet_discharge state true).append fun event hmem engaged ↦ ?_
        rw [List.mem_singleton.mp hmem]
        rfl
      · rw [hvalue]
        cases reply <;> rfl
  | line action =>
    rw [handler, run_done, Option.some.injEq] at hrun
    subst hrun
    exact ⟨fun _ hmem ↦ absurd hmem List.not_mem_nil, rfl⟩
  | released =>
    rw [handler, run_done, Option.some.injEq] at hrun
    subst hrun
    exact ⟨fun _ hmem ↦ absurd hmem List.not_mem_nil, rfl⟩

end Requests

/-! ### Operations -/

section Station

variable {K : Interface} {τ δ : Type} {board : Handler Board K τ} {limits : Limits}
  {device : Device (Controller.beside K) δ} {state : State × τ} {hardware : δ} {held flag : Bool}
  {past : List (Event (Controller.beside K))}

/-- What the controller and the notices show of the events of a station. -/
def seen (events : List (Event (Controller.beside K))) : List (Event Controller) :=
  events.filterMap Event.left?

theorem seen_append (first second : List (Event (Controller.beside K))) :
    seen (first ++ second) = seen first ++ seen second :=
  List.filterMap_append

theorem quiet_seen_note (notice : Notice) :
    Quiet (seen [(.note notice : Event (Controller.beside K))]) := by
  intro event hmem engaged
  obtain rfl : event = .note notice := List.mem_singleton.mp hmem
  rfl

/-- A script that asks for something is met by some work of the bus over its controller. -/
def MetBy (board : Handler Board K τ) (script : Script Probe (Except BusFailure Unit))
    (work : State → Script Controller (Except BusFailure Unit × State)) : Prop :=
  ∀ state : State × τ, script.handle (handler.beside board) state =
    (work state.1).onLeft >>= fun answer ↦ pure (answer.1, answer.2, state.2)

/-- Trying something on the bus is a run of the bus over its controller, and a notice if it
fails. -/
theorem attempt_run_seen {notice : BusFailure → Notice}
    {script : Script Probe (Except BusFailure Unit)}
    {work : State → Script Controller (Except BusFailure Unit × State)}
    (hscript : MetBy board script work)
    {outcome : Outcome (Controller.beside K) δ (Unit × (State × τ))}
    (hrun : ((attempt notice script).handle (handler.beside board) state).run device hardware =
      some outcome) :
    ∃ inner, (work state.1).run device.left hardware = some inner ∧
      outcome.value.2.1 = inner.value.2 ∧
        seen outcome.events = inner.events ++ complaint notice inner.value.1 := by
  obtain ⟨answer, hanswer, rfl⟩ := attempt_run_eq_some.mp hrun
  rw [hscript] at hanswer
  obtain ⟨inner, hinner, rfl⟩ := Handler.onLeft_run_eq_some.mp hanswer
  refine ⟨inner, hinner, rfl, ?_⟩
  rw [seen_append]
  congr 1
  · exact Event.filterMap_left?_map_onLeft inner.events
  · cases inner.value.1 <;> rfl

/-- The invariant: the bus is aware of its controller, and an engaged controller is accounted
for. -/
structure Watched (held flag : Bool) (state : State) (past : List (Event Controller)) : Prop where
  aware : Aware held state past
  accounted : Accounted held flag state past

theorem start_attempt_run {script : Script Probe (Except BusFailure Unit)}
    (hscript : MetBy board script I2c.start)
    {outcome : Outcome (Controller.beside K) δ (Unit × (State × τ))}
    (haware : Aware held state.1 (seen past))
    (hrun : ((attempt .startFailed script).handle (handler.beside board) state).run device
      hardware = some outcome) :
    Aware held outcome.value.2.1 (seen (past ++ outcome.events)) := by
  obtain ⟨inner, hinner, hstate, hseen⟩ := attempt_run_seen hscript hrun
  rw [seen_append, hseen, hstate, ← List.append_assoc]
  exact (haware.start hinner).append_quiet (quiet_complaint _ _) rfl

theorem stop_attempt_run {script : Script Probe (Except BusFailure Unit)}
    (hscript : MetBy board script I2c.stop)
    {outcome : Outcome (Controller.beside K) δ (Unit × (State × τ))}
    (haware : Aware held state.1 (seen past))
    (hrun : ((attempt .stopFailed script).handle (handler.beside board) state).run device
      hardware = some outcome) :
    Stopped held outcome.value.2.1 (seen (past ++ outcome.events)) := by
  obtain ⟨inner, hinner, hstate, hseen⟩ := attempt_run_seen hscript hrun
  rw [seen_append, hseen, hstate]
  exact haware.stop hinner

/-- Starts keep the invariant; once one was made the flag accounts for the controller. -/
theorem starts_run {script : Script Probe (Except BusFailure Unit)}
    (hscript : MetBy board script I2c.start)
    {count : Nat} {outcome : Outcome (Controller.beside K) δ (Unit × (State × τ))}
    (hwatched : Watched held flag state.1 (seen past))
    (hrun : ((times count (attempt .startFailed script)).handle (handler.beside board) state).run
      device hardware = some outcome) :
    Watched held (flag || count != 0) outcome.value.2.1 (seen (past ++ outcome.events)) := by
  have hall := times_run_preserves (fun state _ past ↦ Aware held state.1 (seen past))
    (fun state _ past ↦ Aware held state.1 (seen past)) (fun _ _ _ h ↦ h)
    (fun _ _ _ _ haware hattempt ↦ start_attempt_run hscript haware hattempt) hwatched.aware hrun
  refine ⟨hall.1, ?_⟩
  cases count with
  | zero =>
    rw [times, handle_done, run_done, Option.some.injEq] at hrun
    subst hrun
    simpa using hwatched.accounted
  | succ count =>
    intro _
    left
    simp

/-- Stops keep the invariant; once one was made the flag is not needed any more. -/
theorem stops_run {script : Script Probe (Except BusFailure Unit)}
    (hscript : MetBy board script I2c.stop)
    {count : Nat} {outcome : Outcome (Controller.beside K) δ (Unit × (State × τ))}
    (hwatched : Watched held flag state.1 (seen past))
    (hrun : ((times count (attempt .stopFailed script)).handle (handler.beside board) state).run
      device hardware = some outcome) :
    Watched held (flag && count == 0) outcome.value.2.1 (seen (past ++ outcome.events)) := by
  have hall := times_run_preserves (fun state _ past ↦ Aware held state.1 (seen past))
    (fun state _ past ↦ Stopped held state.1 (seen past)) (fun _ _ _ h ↦ h.aware)
    (fun _ _ _ _ haware hattempt ↦ stop_attempt_run hscript haware hattempt) hwatched.aware hrun
  refine ⟨hall.1, ?_⟩
  cases count with
  | zero =>
    rw [times, handle_done, run_done, Option.some.injEq] at hrun
    subst hrun
    simpa using hwatched.accounted
  | succ count =>
    have hstopped := hall.2 (Nat.succ_ne_zero count)
    exact fun hengaged ↦ Or.inr (Or.inr (hstopped.givenUp_of_engaged hengaged))

/-- What is neither a start nor a stop keeps the invariant. -/
theorem quiet_run {α : Type} {script : Script Probe α}
    (hasks : script.Asks fun request ↦ ¬ IsFraming request)
    {outcome : Outcome (Controller.beside K) δ (α × (State × τ))}
    (hwatched : Watched held flag state.1 (seen past))
    (hrun : (script.handle (handler.beside board) state).run device hardware = some outcome) :
    Watched held flag outcome.value.2.1 (seen (past ++ outcome.events)) := by
  have hquiet : ∀ {state state' : State} {past events : List (Event (Controller.beside K))},
      Watched held flag state (seen past) → Quiet (seen events) → state'.held = state.held →
        Watched held flag state' (seen (past ++ events)) := by
    intro state state' past events hwatched hevents hheld
    rw [seen_append]
    exact ⟨hwatched.aware.append_quiet hevents hheld,
      hwatched.accounted.append_quiet hevents hheld⟩
  refine handle_run_preserves (fun state _ past ↦ Watched held flag state.1 (seen past)) ?_ ?_
    hasks hwatched hrun
  · intro state _ past notice hwatched
    exact hquiet hwatched (quiet_seen_note notice) rfl
  · intro request hrequest state hardware past answer hwatched hanswer
    cases request with
    | inl request =>
      obtain ⟨inner, hinner, rfl⟩ := Handler.beside_inl_run_eq_some.mp hanswer
      have hinner := handler_quiet hrequest hinner
      refine hquiet hwatched ?_ hinner.2
      rw [seen, Event.filterMap_left?_map_onLeft]
      exact hinner.1
    | inr request =>
      obtain ⟨inner, -, rfl⟩ := Handler.beside_inr_run_eq_some.mp hanswer
      refine hquiet hwatched (fun event hmem engaged ↦ ?_) rfl
      obtain ⟨notice, rfl⟩ := Event.eq_note_of_mem_left?_map_onRight hmem
      rfl

/-- An operation keeps the invariant, with the flag as the operation leaves it. -/
theorem perform_run {op : Operation}
    {outcome : Outcome (Controller.beside K) δ (String × (State × τ))}
    (hwatched : Watched held flag state.1 (seen past))
    (hrun : ((perform limits op).handle (handler.beside board) state).run device hardware =
      some outcome) :
    Watched held (openAfter flag op) outcome.value.2.1 (seen (past ++ outcome.events)) := by
  have hstarts : ∀ {script : Script Probe (Except BusFailure Unit)},
      MetBy board script I2c.start →
      perform limits op = quietly (times op.count (attempt .startFailed script)) →
        Watched held (flag || op.count != 0) outcome.value.2.1 (seen (past ++ outcome.events)) := by
    intro script hscript hperform
    rw [hperform] at hrun
    obtain ⟨inner, hinner, rfl⟩ := quietly_run_eq_some.mp hrun
    exact starts_run hscript hwatched hinner
  have hstops : ∀ {script : Script Probe (Except BusFailure Unit)},
      MetBy board script I2c.stop →
      perform limits op = quietly (times op.count (attempt .stopFailed script)) →
        Watched held (flag && op.count == 0) outcome.value.2.1 (seen (past ++ outcome.events)) := by
    intro script hscript hperform
    rw [hperform] at hrun
    obtain ⟨inner, hinner, rfl⟩ := quietly_run_eq_some.mp hrun
    exact stops_run hscript hwatched hinner
  unfold openAfter
  split
  · rename_i hkind
    exact hstarts (fun state ↦ handle_onBus .start state)
      (by simp only [perform, performOnce, hkind])
  · rename_i hkind
    exact hstarts (fun state ↦ handle_onBus .startAlt state)
      (by simp only [perform, performOnce, hkind])
  · rename_i hkind
    exact hstops (fun state ↦ handle_onBus .stop state)
      (by simp only [perform, performOnce, hkind])
  · rename_i hkind
    exact hstops (fun state ↦ handle_onBus .stopAlt state)
      (by simp only [perform, performOnce, hkind])
  · rename_i hstart hstartAlt hstop hstopAlt
    exact quiet_run (perform_asks_not_framing ⟨hstart, hstartAlt⟩ ⟨hstop, hstopAlt⟩) hwatched hrun

/-- The closing stop, which is recorded first. -/
theorem close_run {outcome : Outcome (Controller.beside K) δ (Unit × (State × τ))}
    (haware : Aware held state.1 (seen past))
    (hrun : (close.handle (handler.beside board) state).run device hardware = some outcome) :
    Stopped held outcome.value.2.1 (seen (past ++ outcome.events)) := by
  obtain ⟨answer, hanswer, rfl⟩ := close_run_eq_some.mp hrun
  have hnoted : Aware held state.1 (seen (past ++ [.note .closing])) := by
    rw [seen_append]
    exact haware.append_quiet (quiet_seen_note .closing) rfl
  have hstop := stop_attempt_run (fun state ↦ handle_onBus .stop state) hnoted hanswer
  rwa [List.append_assoc] at hstop

/-- After the closing, the controller is engaged only if a stop was given up. -/
theorem closeIfOpen_run {outcome : Outcome (Controller.beside K) δ (Unit × (State × τ))}
    (hwatched : Watched held flag state.1 (seen past))
    (hrun : ((closeIfOpen flag).handle (handler.beside board) state).run device hardware =
      some outcome) :
    Stopped held outcome.value.2.1 (seen (past ++ outcome.events)) := by
  cases flag with
  | true => exact close_run hwatched.aware hrun
  | false =>
    obtain ⟨asked, rest, hasked, hrest, rfl⟩ := handle_run_bind_eq_some.mp hrun
    obtain rfl : ⟨(!state.1.held, state), hardware, []⟩ = asked := Option.some.inj hasked
    by_cases hheld : state.1.held = true
    · simp only [hheld, Bool.not_true, Bool.false_eq_true, if_false] at hrest
      exact close_run hwatched.aware hrest
    · simp only [hheld, Bool.not_false, if_true] at hrest
      obtain rfl : ⟨((), state), hardware, []⟩ = rest := Option.some.inj hrest
      change Stopped held state.1 (seen (past ++ []))
      rw [List.append_nil]
      refine ⟨hwatched.aware, fun hengaged ↦ ?_⟩
      rcases hwatched.accounted hengaged with hflag | hstate | hgivenUp
      · exact absurd hflag Bool.false_ne_true
      · exact absurd hstate hheld
      · exact hgivenUp

end Station

/-! ### Sequences -/

section Release

variable {K : Interface} {τ δ : Type} {board : Handler Board K τ} {limits : Limits}
  {device : Device (Controller.beside K) δ} {station : Station State τ} {hardware : δ}
  {ops : List Operation} {outcome : Outcome (Controller.beside K) δ (String × Station State τ)}

/-- A station whose bus is an I2C bus, with any board and any limits. -/
def fixture (board : Handler Board K τ) (limits : Limits) : Fixture Controller K State τ :=
  ⟨handler, board, limits⟩

/-- Whether the bus of a station is released is the reply of the bus, without a look at the
hardware. -/
theorem released_run (board : Handler Board K τ) (limits : Limits) (station : Station State τ)
    (device : Device (Controller.beside K) δ) (hardware : δ) :
    (station.released (fixture board limits)).run device hardware =
      some ⟨(!station.bus.held, station), hardware, []⟩ := rfl

/-- After a sequence the bus is aware of its controller, which is engaged only if a stop was given
up. -/
theorem execute_run
    (hrun : (station.execute (fixture board limits) ops).run device hardware = some outcome) :
    Stopped station.bus.held outcome.value.2.bus (seen outcome.events) := by
  obtain ⟨inner, hinner, rfl⟩ := Station.execute_run_eq_some.mp hrun
  obtain ⟨first, last, hfirst, hlast, rfl⟩ := execute_run_eq_some.mp hinner
  have hstart : Watched station.bus.held station.isOpen station.bus (seen (K := K) []) :=
    ⟨⟨id, fun hheld _ ↦ hheld⟩, fun hheld ↦ Or.inr (Or.inl hheld)⟩
  have hops := performAll_run_preserves
    (fun flag state _ past ↦ Watched station.bus.held flag state.1 (seen past))
    (fun _ _ _ _ _ _ _ hwatched hop ↦ perform_run hwatched hop) hstart hfirst
  rw [List.nil_append] at hops
  exact closeIfOpen_run hops hlast

/-- After a sequence the bus is released and the last start of the controller is followed by a stop
exactly if no stop was given up for good: none that failed at the acknowledgement it owed, while the
controller was engaged, without a later stop of the controller. -/
theorem released_iff_not_givenUp
    (hrun : (station.execute (fixture board limits) ops).run device hardware = some outcome) :
    ((outcome.value.2.released (fixture board limits)).run device outcome.state =
        some ⟨(true, outcome.value.2), outcome.state, []⟩ ∧
      StartsStopped (seen outcome.events)) ↔
        ¬ GivenUp station.bus.held (seen outcome.events) := by
  obtain ⟨haware, hgivenUp⟩ := execute_run hrun
  rw [released_run]
  constructor
  · rintro ⟨hreleased, hstarts⟩ hgiven
    rcases unstopped_of_engaged hgiven.engaged with
      ⟨before, reply, after, hevents, hafter⟩ | ⟨hheld, hunstopped⟩
    · obtain ⟨reply, hstop⟩ := hstarts before reply after hevents
      exact hafter reply hstop
    · rw [haware.held_of_unstopped hheld hunstopped] at hreleased
      simp at hreleased
  · intro hnot
    have hdisengaged : ¬ Engaged station.bus.held (seen outcome.events) :=
      fun hengaged ↦ hnot (hgivenUp hengaged)
    constructor
    · have hheld : outcome.value.2.bus.held = false :=
        Bool.eq_false_iff.mpr fun hheld ↦ hdisengaged (haware.engaged_of_held hheld)
      rw [hheld]
      rfl
    · intro before reply after hevents
      refine Classical.byContradiction fun hstops ↦ ?_
      have hafter : Unstopped after := fun reply hmem ↦ hstops ⟨reply, hmem⟩
      apply hdisengaged
      rw [hevents, engaged_append]
      exact engaged_of_unstopped hafter

/-- A controller that does everything it is asked for but cannot acknowledge, beside a board without
hardware. -/
def refusing : Device (Controller.beside Board) Unit
  | .inl .start, _ => (.ok (), ())
  | .inl .stop, _ => (.ok (), ())
  | .inl (.writeByte _), _ => (.ok true, ())
  | .inl .readByte, _ => (.ready 5, ())
  | .inl (.acknowledge _), _ => (.error ⟨"Fail"⟩, ())
  | .inr (.delayMicros _), _ => ((), ())
  | .inr (.delayMillis _), _ => ((), ())
  | .inr (.setAux _), _ => ((), ())
  | .inr .measure, _ => (none, ())
  | .inr (.startTimer _), _ => ((), ())
  | .inr .timedOut, _ => (false, ())

/-- A start and a read leave the bus held if the byte that was read cannot be refused. -/
theorem refused_stop_leaves_bus_held :
    ∃ outcome, ((Station.fresh State.idle ()).execute (fixture Handler.passOn ⟨2000, 1⟩)
        [ofKind .start, ofKind .read]).run refusing () = some outcome ∧
      outcome.value.2.bus.held = true ∧ GivenUp false (seen outcome.events) ∧
      ¬ ((outcome.value.2.released (fixture Handler.passOn ⟨2000, 1⟩)).run refusing outcome.state =
          some ⟨(true, outcome.value.2), outcome.state, []⟩ ∧
        StartsStopped (seen outcome.events)) := by
  refine ⟨_, rfl, rfl, ?_⟩
  have hgivenUp : GivenUp false _ := ⟨[.exchange .start (.ok ()), .exchange .readByte (.ready 5),
    .note .closing], ⟨"Fail"⟩, [], rfl, rfl, unstopped_nil⟩
  refine ⟨hgivenUp, fun hreleased ↦ ?_⟩
  exact (released_iff_not_givenUp
    (show ((Station.fresh State.idle ()).execute (fixture Handler.passOn ⟨2000, 1⟩)
      [ofKind .start, ofKind .read]).run refusing () = some _ from rfl)).mp hreleased hgivenUp

end Release

end BusProbe.I2c
