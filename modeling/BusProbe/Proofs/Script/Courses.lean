import BusProbe.Proofs.Script.Ensures

/-!
# Courses of a script

A script can come to its end in many ways, one for each choice of replies. A course is one of these
ways: the value that the script gives and all that happened before, with no word about who replied.
Every run against a device is a course (`ends_of_run`), so that what holds of all courses holds of
all runs, and the lemmas here take a course apart where the script is put together (`ends_bind_iff`,
`ends_times`). A script that comes to an end at all ensures what its courses have in common
(`Halts.ensures_ends`). Most scripts that operations consist of ask for one thing and record the
reply (`AsksOnce`), and their courses and their end are known from that alone.

What a course leaves out is the state of the device. A device only changes when it is asked for
something, so its state after a run is given by the requests of the run (`state_of_run`). Where a
script is met by a handler, a run of the whole follows a course of the script, and what each met
request preserves the two preserve together (`handle_run_ends`).
-/

set_option autoImplicit false
set_option relaxedAutoImplicit false

namespace BusProbe

variable {I : Interface} {σ α β : Type}

namespace Event

/-- The request of an exchange. -/
def request? : Event I → Option I.Request
  | .exchange request _ => some request
  | .note _ => none

/-- The requests that were made during some events, in order. -/
def requests (events : List (Event I)) : List I.Request := events.filterMap request?

@[simp]
theorem requests_nil : requests ([] : List (Event I)) = [] := rfl

@[simp]
theorem requests_exchange (request : I.Request) (reply : I.Reply request)
    (events : List (Event I)) :
    requests (.exchange request reply :: events) = request :: requests events := rfl

@[simp]
theorem requests_note (notice : Notice) (events : List (Event I)) :
    requests (.note notice :: events) = requests events := rfl

@[simp]
theorem requests_append (first second : List (Event I)) :
    requests (first ++ second) = requests first ++ requests second :=
  List.filterMap_append

/-- Of what happens on the right of two things beside each other, nothing is a request to the
left. -/
theorem requests_filterMap_left?_map_onRight {J : Interface} (events : List (Event J)) :
    requests ((events.map (onRight (I := I))).filterMap left?) = [] := by
  refine List.filterMap_eq_nil_iff.mpr fun event hmem ↦ ?_
  obtain ⟨notice, rfl⟩ := eq_note_of_mem_left?_map_onRight hmem
  rfl

end Event

/-- An outcome without what was recorded: the value, the state in which the device is left and the
requests that were made of it. -/
def Outcome.unrecorded (outcome : Outcome I σ α) : α × σ × List I.Request :=
  (outcome.value, outcome.state, Event.requests outcome.events)

namespace Device

/-- The state of a device after it was asked for some things, one after another. -/
def after (device : Device I σ) (requests : List I.Request) (state : σ) : σ :=
  requests.foldl (fun state request ↦ (device request state).2) state

theorem after_append (device : Device I σ) (first second : List I.Request) (state : σ) :
    device.after (first ++ second) state = device.after second (device.after first state) :=
  List.foldl_append

end Device

namespace Script

/-- With some replies a script comes to its end, with a value and after some events. -/
inductive Ends : Script I α → α → List (Event I) → Prop
  | done (value : α) : Ends (.done value) value []
  | ask {request : I.Request} {next : I.Reply request → Script I α} {reply : I.Reply request}
      {value : α} {events : List (Event I)} (hnext : Ends (next reply) value events) :
      Ends (.ask request next) value (.exchange request reply :: events)
  | note {notice : Notice} {next : Script I α} {value : α} {events : List (Event I)}
      (hnext : Ends next value events) : Ends (.note notice next) value (.note notice :: events)

@[simp]
theorem ends_done_iff {value result : α} {events : List (Event I)} :
    (Script.done value).Ends result events ↔ result = value ∧ events = [] := by
  constructor
  · rintro ⟨⟩
    exact ⟨rfl, rfl⟩
  · rintro ⟨rfl, rfl⟩
    exact .done result

@[simp]
theorem ends_ask_iff {request : I.Request} {next : I.Reply request → Script I α} {result : α}
    {events : List (Event I)} :
    (Script.ask request next).Ends result events ↔
      ∃ reply later, (next reply).Ends result later ∧
        events = .exchange request reply :: later := by
  constructor
  · rintro (_ | hnext)
    exact ⟨_, _, hnext, rfl⟩
  · rintro ⟨reply, later, hnext, rfl⟩
    exact .ask hnext

@[simp]
theorem ends_note_iff {notice : Notice} {next : Script I α} {result : α}
    {events : List (Event I)} :
    (Script.note notice next).Ends result events ↔
      ∃ later, next.Ends result later ∧ events = .note notice :: later := by
  constructor
  · rintro (_ | _ | hnext)
    exact ⟨_, hnext, rfl⟩
  · rintro ⟨later, hnext, rfl⟩
    exact .note hnext

@[simp]
theorem not_ends_stalled {result : α} {events : List (Event I)} :
    ¬ (Script.stalled : Script I α).Ends result events := by
  rintro ⟨⟩

/-- A course of two scripts one after the other is a course of the first and then one of the
second. -/
theorem ends_bind_iff {script : Script I α} {next : α → Script I β} {result : β}
    {events : List (Event I)} :
    (script >>= next).Ends result events ↔
      ∃ value first second, script.Ends value first ∧ (next value).Ends result second ∧
        events = first ++ second := by
  induction script generalizing events with
  | done value =>
    constructor
    · exact fun hnext ↦ ⟨value, [], events, .done value, hnext, rfl⟩
    · rintro ⟨_, _, second, hfirst, hsecond, rfl⟩
      obtain ⟨rfl, rfl⟩ := ends_done_iff.mp hfirst
      exact hsecond
  | ask request rest ih =>
    simp only [ask_bind, ends_ask_iff, ih]
    constructor
    · rintro ⟨reply, _, ⟨value, first, second, hfirst, hsecond, rfl⟩, rfl⟩
      exact ⟨value, _, second, ⟨reply, first, hfirst, rfl⟩, hsecond, rfl⟩
    · rintro ⟨value, _, second, ⟨reply, first, hfirst, rfl⟩, hsecond, rfl⟩
      exact ⟨reply, _, ⟨value, first, second, hfirst, hsecond, rfl⟩, rfl⟩
  | note notice rest ih =>
    simp only [note_bind, ends_note_iff, ih]
    constructor
    · rintro ⟨_, ⟨value, first, second, hfirst, hsecond, rfl⟩, rfl⟩
      exact ⟨value, _, second, ⟨first, hfirst, rfl⟩, hsecond, rfl⟩
    · rintro ⟨value, _, second, ⟨first, hfirst, rfl⟩, hsecond, rfl⟩
      exact ⟨_, ⟨value, first, second, hfirst, hsecond, rfl⟩, rfl⟩
  | stalled => simp

/-- A course of a script that is done some number of times is that many courses of it. -/
theorem ends_times {script : Script I Unit} {count : Nat} {events : List (Event I)}
    (hends : (times count script).Ends () events) :
    ∃ parts : List (List (Event I)), parts.length = count ∧ events = parts.flatten ∧
      ∀ part ∈ parts, script.Ends () part := by
  induction count generalizing events with
  | zero =>
    obtain ⟨-, rfl⟩ := ends_done_iff.mp hends
    exact ⟨[], rfl, rfl, fun part hmem ↦ absurd hmem List.not_mem_nil⟩
  | succ count ih =>
    obtain ⟨_, first, second, hfirst, hsecond, rfl⟩ := ends_bind_iff.mp hends
    obtain ⟨parts, hlength, rfl, hparts⟩ := ih hsecond
    refine ⟨first :: parts, congrArg Nat.succ hlength, rfl, fun part hmem ↦ ?_⟩
    rcases List.mem_cons.mp hmem with rfl | hmem
    · exact hfirst
    · exact hparts part hmem

/-- A run is a course. -/
theorem ends_of_run {device : Device I σ} {script : Script I α} {state : σ}
    {outcome : Outcome I σ α} (hrun : script.run device state = some outcome) :
    script.Ends outcome.value outcome.events := by
  induction script generalizing state outcome with
  | done value =>
    obtain rfl := Option.some.inj hrun
    exact .done value
  | ask request next ih =>
    rw [run_ask, Option.map_eq_some_iff] at hrun
    obtain ⟨rest, hrest, rfl⟩ := hrun
    have hcourse := ih _ hrest
    exact .ask hcourse
  | note notice next ih =>
    rw [run_note, Option.map_eq_some_iff] at hrun
    obtain ⟨rest, hrest, rfl⟩ := hrun
    have hcourse := ih hrest
    exact .note hcourse
  | stalled => simp at hrun

/-- On every course a script makes only requests of the kind that it may make. -/
theorem Asks.of_ends {allowed : I.Request → Prop} {script : Script I α} {value : α}
    {events : List (Event I)} (hasks : script.Asks allowed) (hends : script.Ends value events) :
    ∀ request ∈ Event.requests events, allowed request := by
  induction hends with
  | done value => exact List.forall_mem_nil _
  | ask hnext ih => exact List.forall_mem_cons.mpr ⟨hasks.1, ih (hasks.2 _)⟩
  | note hnext ih => exact ih hasks

/-- A run leaves the device as its requests do. -/
theorem state_of_run {device : Device I σ} {script : Script I α} {state : σ}
    {outcome : Outcome I σ α} (hrun : script.run device state = some outcome) :
    outcome.state = device.after (Event.requests outcome.events) state := by
  induction script generalizing state outcome with
  | done value =>
    obtain rfl := Option.some.inj hrun
    rfl
  | ask request next ih =>
    rw [run_ask, Option.map_eq_some_iff] at hrun
    obtain ⟨rest, hrest, rfl⟩ := hrun
    have hstate := ih _ hrest
    exact hstate
  | note notice next ih =>
    rw [run_note, Option.map_eq_some_iff] at hrun
    obtain ⟨rest, hrest, rfl⟩ := hrun
    have hstate := ih hrest
    exact hstate
  | stalled => simp at hrun

/-- A run of a handled script follows a course of the script. A property of the handler's state, the
hardware and the events so far, of the script and below it, that a notice preserves and that each
exchange preserves when the request is met, is preserved by the run and the course together. -/
theorem handle_run_ends {J : Interface} {δ : Type} {handler : Handler I J σ} {device : Device J δ}
    (holds : σ → δ → List (Event I) → List (Event J) → Prop)
    (hnote : ∀ state hardware asked past notice, holds state hardware asked past →
      holds state hardware (asked ++ [.note notice]) (past ++ [.note notice]))
    (hstep : ∀ request state hardware asked past answer, holds state hardware asked past →
      (handler request state).run device hardware = some answer →
        holds answer.value.2 answer.state (asked ++ [.exchange request answer.value.1])
          (past ++ answer.events))
    {script : Script I α} {state : σ} {hardware : δ} {asked : List (Event I)}
    {past : List (Event J)} {outcome : Outcome J δ (α × σ)}
    (hholds : holds state hardware asked past)
    (hrun : (script.handle handler state).run device hardware = some outcome) :
    ∃ events, script.Ends outcome.value.1 events ∧
      holds outcome.value.2 outcome.state (asked ++ events) (past ++ outcome.events) := by
  induction script generalizing state hardware asked past outcome with
  | done value =>
    rw [handle_done, run_done, Option.some.injEq] at hrun
    subst hrun
    exact ⟨[], .done value, by simpa using hholds⟩
  | ask request next ih =>
    rw [handle_ask, run_bind_eq_some] at hrun
    obtain ⟨answer, rest, hanswer, hrest, rfl⟩ := hrun
    obtain ⟨events, hends, hend⟩ := ih _ (hstep _ _ _ _ _ _ hholds hanswer) hrest
    rw [List.append_assoc, List.append_assoc] at hend
    exact ⟨_, .ask hends, hend⟩
  | note notice next ih =>
    rw [handle_note, run_note, Option.map_eq_some_iff] at hrun
    obtain ⟨rest, hrest, rfl⟩ := hrun
    obtain ⟨events, hends, hend⟩ := ih (hnote _ _ _ _ notice hholds) hrest
    rw [List.append_assoc, List.append_assoc] at hend
    exact ⟨_, .note hends, hend⟩
  | stalled => simp at hrun

/-! ### Coming to an end -/

variable {allowed : I.Replies}

/-- With replies of an allowed kind a script comes to an end. -/
def Halts (allowed : I.Replies) (script : Script I α) : Prop :=
  script.Ensures allowed fun _ _ ↦ True

theorem Halts.bind {script : Script I α} {next : α → Script I β}
    (hscript : script.Halts allowed) (hnext : ∀ value, (next value).Halts allowed) :
    (script >>= next).Halts allowed :=
  Ensures.bind hscript fun value _ _ ↦ hnext value

theorem Halts.times {script : Script I Unit} (hscript : script.Halts allowed) (count : Nat) :
    (times count script).Halts allowed := by
  induction count with
  | zero => trivial
  | succ count ih => exact hscript.bind fun _ ↦ ih

/-- A script that comes to an end ensures what all its courses have in common. -/
theorem Halts.ensures_ends {script : Script I α} (hscript : script.Halts allowed) :
    script.Ensures allowed script.Ends := by
  induction script with
  | done value => exact .done value
  | ask request next ih =>
    intro reply hreply
    exact (ih reply (hscript reply hreply)).mono fun _ _ hends ↦ .ask hends
  | note notice next ih =>
    exact ensures_note.mpr ((ih hscript).mono fun _ _ hends ↦ .note hends)
  | stalled => exact hscript.elim

/-! ### One request -/

theorem ends_recordAll {notices : List Notice} {events : List (Event I)}
    (hends : (recordAll notices).Ends () events) : events = notices.map .note := by
  induction notices generalizing events with
  | nil => exact (ends_done_iff.mp hends).2
  | cons notice notices ih =>
    obtain ⟨later, hlater, rfl⟩ := ends_note_iff.mp hends
    exact congrArg (List.cons _) (ih hlater)

theorem recordAll_halts (notices : List Notice) :
    (recordAll notices : Script I Unit).Halts allowed := by
  induction notices with
  | nil => trivial
  | cons notice notices ih => exact ih

/-- A script asks for one thing and only records what the reply is. -/
def AsksOnce (script : Script I Unit) (request : I.Request) : Prop :=
  ∃ notices : I.Reply request → List Notice,
    script = .ask request fun reply ↦ recordAll (notices reply)

theorem AsksOnce.ends {script : Script I Unit} {request : I.Request} {events : List (Event I)}
    (hscript : script.AsksOnce request) (hends : script.Ends () events) :
    ∃ reply notices, events = .exchange request reply :: List.map .note notices := by
  obtain ⟨notices, rfl⟩ := hscript
  obtain ⟨reply, later, hlater, rfl⟩ := ends_ask_iff.mp hends
  exact ⟨reply, notices reply, congrArg (List.cons _) (ends_recordAll hlater)⟩

theorem AsksOnce.halts {script : Script I Unit} {request : I.Request}
    (hscript : script.AsksOnce request) : script.Halts allowed := by
  obtain ⟨notices, rfl⟩ := hscript
  exact fun reply _ ↦ recordAll_halts (notices reply)

end Script

end BusProbe
