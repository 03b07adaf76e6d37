import BusProbe.Bus.Pins
import BusProbe.Proofs.Pins.Signals
import BusProbe.Proofs.Script.Ensures

/-!
# Steps on pins that do not fail

Steps on pins that do not fail succeed, and what happens on the way is known but for the levels that
are sampled. `Completes` states of steps what they give and what happens. There is one rule for each
step and one for steps in a row, so that a fixed sequence of steps is followed by rewriting;
`completes_eachBit` and `completes_gather` are the rules for steps that are repeated.

Often only the wires that are driven and the levels that are sampled count. `Shows` states of a
script what it gives, drives and samples when no pin fails, and `Takes` the same of steps, with the
same rules.
-/

set_option autoImplicit false
set_option relaxedAutoImplicit false

namespace BusProbe

variable {L ε α β : Type}

/-- The reply of a pin that does not fail. -/
def PinRequest.Succeeds : (Pins L).Replies
  | .drive .., reply => reply = .ok ()
  | .sample _, reply => ∃ level, reply = .ok level
  | .wait _, _ => True

/-- Pins that do not fail, with the levels that are sampled listed in advance. A line that nothing
else is known of is high. -/
def listed : Device (Pins L) (List Bool)
  | .drive .., levels => (.ok (), levels)
  | .sample _, levels => (.ok (levels.headD true), levels.tail)
  | .wait _, levels => ((), levels)

theorem listed_succeeds : (listed (L := L)).Answers PinRequest.Succeeds := by
  intro request levels
  cases request with
  | drive line level => rfl
  | sample line => exact ⟨_, rfl⟩
  | wait micros => trivial

/-- The drive of a wire in an event, where `wire?` tells which lines are the wires. -/
def drive? (wire? : L → Option Wire) : Event (Pins L) → Option Drive
  | .exchange (.drive line level) _ => (wire? line).map (·, level)
  | _ => none

/-- The level that is sampled in an event. -/
def sample? : Event (Pins L) → Option Bool
  | .exchange (.sample _) (.ok level) => some level
  | _ => none

/-- How the wires are driven during some events. -/
def driven (wire? : L → Option Wire) (events : List (Event (Pins L))) : List Drive :=
  events.filterMap (drive? wire?)

/-- What is sampled during some events. -/
def sampled (events : List (Event (Pins L))) : List Bool := events.filterMap sample?

variable {wire? : L → Option Wire}

theorem driven_append (first second : List (Event (Pins L))) :
    driven wire? (first ++ second) = driven wire? first ++ driven wire? second :=
  List.filterMap_append

theorem sampled_append (first second : List (Event (Pins L))) :
    sampled (first ++ second) = sampled first ++ sampled second :=
  List.filterMap_append

/-! ### What happens -/

/-- If no pin fails, steps succeed, and `post` holds of their value and of all that happens. -/
def Completes (steps : PinSteps L ε α) (post : α → List (Event (Pins L)) → Prop) : Prop :=
  steps.run.Ensures PinRequest.Succeeds fun result events ↦
    ∃ value, result = .ok value ∧ post value events

theorem Completes.mono {steps : PinSteps L ε α} {post weaker : α → List (Event (Pins L)) → Prop}
    (hsteps : Completes steps post)
    (hweaker : ∀ value events, post value events → weaker value events) :
    Completes steps weaker := by
  refine Script.Ensures.mono hsteps ?_
  rintro result events ⟨value, hresult, hpost⟩
  exact ⟨value, hresult, hweaker value events hpost⟩

@[simp]
theorem completes_pure {value : α} {post : α → List (Event (Pins L)) → Prop} :
    Completes (pure value : PinSteps L ε α) post ↔ post value [] := by
  constructor
  · rintro ⟨other, hvalue, hpost⟩
    rwa [Except.ok.inj hvalue]
  · exact fun hpost ↦ ⟨value, rfl, hpost⟩

/-- Steps one after the other. -/
theorem completes_bind {steps : PinSteps L ε α} {next : α → PinSteps L ε β}
    {post : β → List (Event (Pins L)) → Prop} :
    Completes (steps >>= next) post ↔ Completes steps fun first events ↦
      Completes (next first) fun value later ↦ post value (events ++ later) := by
  rw [Completes, ExceptT.run_bind, Script.ensures_bind, Completes]
  refine iff_of_eq (congrArg (steps.run.Ensures PinRequest.Succeeds) ?_)
  funext result events
  cases result with
  | ok value => simp [Completes]
  | error failure =>
    refine propext ⟨?_, ?_⟩
    · rintro ⟨value, hvalue, -⟩
      cases hvalue
    · rintro ⟨value, hvalue, -⟩
      cases hvalue

theorem Completes.bind {steps : PinSteps L ε α} {next : α → PinSteps L ε β}
    {post : α → List (Event (Pins L)) → Prop} {last : β → List (Event (Pins L)) → Prop}
    (hsteps : Completes steps post)
    (hnext : ∀ first events, post first events →
      Completes (next first) fun value later ↦ last value (events ++ later)) :
    Completes (steps >>= next) last :=
  completes_bind.mpr (hsteps.mono hnext)

@[simp]
theorem completes_drive {failure : Fault → ε} {line : L} {level : Bool}
    {post : Unit → List (Event (Pins L)) → Prop} :
    Completes (PinSteps.drive failure line level) post ↔
      post () [.exchange (.drive line level) (.ok ())] := by
  constructor
  · intro hsteps
    obtain ⟨value, -, hpost⟩ := hsteps (.ok ()) rfl
    exact hpost
  · rintro hpost reply rfl
    exact ⟨(), rfl, hpost⟩

@[simp]
theorem completes_sample {failure : Fault → ε} {line : L}
    {post : Bool → List (Event (Pins L)) → Prop} :
    Completes (PinSteps.sample failure line) post ↔
      ∀ level, post level [.exchange (.sample line) (.ok level)] := by
  constructor
  · intro hsteps level
    obtain ⟨value, hvalue, hpost⟩ := hsteps (.ok level) ⟨level, rfl⟩
    rwa [← Except.ok.inj hvalue] at hpost
  · rintro hpost reply ⟨level, rfl⟩
    exact ⟨level, rfl, hpost level⟩

@[simp]
theorem completes_wait {micros : Nat} {post : Unit → List (Event (Pins L)) → Prop} :
    Completes (PinSteps.wait micros : PinSteps L ε Unit) post ↔
      post () [.exchange (.wait micros) ()] := by
  constructor
  · intro hsteps
    obtain ⟨value, -, hpost⟩ := hsteps () trivial
    exact hpost
  · exact fun hpost reply _ ↦ ⟨(), rfl, hpost⟩

/-- Steps whose events are known for each bit. -/
theorem completes_eachBit {steps : Bool → PinSteps L ε Unit}
    {shape : Bool → List (Event (Pins L))}
    (hsteps : ∀ bit, Completes (steps bit) fun _ events ↦ events = shape bit) (bits : List Bool) :
    Completes (PinSteps.eachBit steps bits) fun _ events ↦ events = bits.flatMap shape := by
  induction bits with
  | nil => exact completes_pure.mpr rfl
  | cons bit rest ih =>
    refine (hsteps bit).bind ?_
    rintro _ _ rfl
    refine ih.mono ?_
    rintro _ _ rfl
    rfl

/-- Steps whose events are known from the bit that they give, taken some number of times. -/
theorem completes_gather {steps : PinSteps L ε Bool} {shape : Bool → List (Event (Pins L))}
    (hsteps : Completes steps fun bit events ↦ events = shape bit) (count : Nat) :
    Completes (PinSteps.gather steps count) fun bits events ↦
      bits.length = count ∧ events = bits.flatMap shape := by
  induction count with
  | zero => exact completes_pure.mpr ⟨rfl, rfl⟩
  | succ count ih =>
    refine hsteps.bind ?_
    rintro bit _ rfl
    refine ih.bind ?_
    rintro bits _ ⟨hcount, rfl⟩
    refine completes_pure.mpr ⟨congrArg (· + 1) hcount, ?_⟩
    rw [List.append_nil]
    rfl

/-- A request that is met by some steps, and the state in which it leaves the one who meets it. -/
theorem Completes.ensures {σ : Type} {steps : PinSteps L ε α}
    {post : α → List (Event (Pins L)) → Prop} (hsteps : Completes steps post) (state : σ) :
    (do return (← steps.run, state) : Script (Pins L) (Except ε α × σ)).Ensures
      PinRequest.Succeeds fun answer events ↦
        ∃ value, answer = (.ok value, state) ∧ post value events := by
  refine Script.ensures_bind.mpr (Script.Ensures.mono hsteps ?_)
  rintro result events ⟨value, rfl, hpost⟩
  refine ⟨value, rfl, ?_⟩
  rwa [List.append_nil]

/-! ### Scripts -/

/-- If no pin fails, a script comes to an end, and `post` holds of its value, of how it drives the
wires and of what it samples. -/
def Shows (wire? : L → Option Wire) (script : Script (Pins L) α)
    (post : α → List Drive → List Bool → Prop) : Prop :=
  script.Ensures PinRequest.Succeeds fun value events ↦
    post value (driven wire? events) (sampled events)

theorem Shows.mono {script : Script (Pins L) α} {post weaker : α → List Drive → List Bool → Prop}
    (hscript : Shows wire? script post)
    (hweaker : ∀ value drives samples, post value drives samples → weaker value drives samples) :
    Shows wire? script weaker :=
  Script.Ensures.mono hscript fun value _ ↦ hweaker value _ _

theorem shows_bind {script : Script (Pins L) α} {next : α → Script (Pins L) β}
    {post : β → List Drive → List Bool → Prop} :
    Shows wire? (script >>= next) post ↔ Shows wire? script fun first drives samples ↦
      Shows wire? (next first) fun value later more ↦
        post value (drives ++ later) (samples ++ more) := by
  simp only [Shows, Script.ensures_bind, driven_append, sampled_append]

@[simp]
theorem shows_done {value : α} {post : α → List Drive → List Bool → Prop} :
    Shows wire? (.done value) post ↔ post value [] [] :=
  Iff.rfl

/-! ### Steps -/

/-- If no pin fails, steps succeed, and `post` holds of their value, of how they drive the wires and
of what they sample. -/
def Takes (wire? : L → Option Wire) (steps : PinSteps L ε α)
    (post : α → List Drive → List Bool → Prop) : Prop :=
  Shows wire? steps.run fun result drives samples ↦
    ∃ value, result = .ok value ∧ post value drives samples

theorem takes_iff_completes {steps : PinSteps L ε α} {post : α → List Drive → List Bool → Prop} :
    Takes wire? steps post ↔
      Completes steps fun value events ↦ post value (driven wire? events) (sampled events) :=
  Iff.rfl

theorem Takes.mono {steps : PinSteps L ε α} {post weaker : α → List Drive → List Bool → Prop}
    (hsteps : Takes wire? steps post)
    (hweaker : ∀ value drives samples, post value drives samples → weaker value drives samples) :
    Takes wire? steps weaker :=
  Completes.mono hsteps fun value _ ↦ hweaker value _ _

@[simp]
theorem takes_pure {value : α} {post : α → List Drive → List Bool → Prop} :
    Takes wire? (pure value : PinSteps L ε α) post ↔ post value [] [] :=
  completes_pure

/-- Steps one after the other. -/
theorem takes_bind {steps : PinSteps L ε α} {next : α → PinSteps L ε β}
    {post : β → List Drive → List Bool → Prop} :
    Takes wire? (steps >>= next) post ↔ Takes wire? steps fun first drives samples ↦
      Takes wire? (next first) fun value later more ↦
        post value (drives ++ later) (samples ++ more) := by
  simp only [takes_iff_completes, completes_bind, driven_append, sampled_append]

theorem Takes.bind {steps : PinSteps L ε α} {next : α → PinSteps L ε β}
    {post : α → List Drive → List Bool → Prop} {last : β → List Drive → List Bool → Prop}
    (hsteps : Takes wire? steps post)
    (hnext : ∀ first drives samples, post first drives samples →
      Takes wire? (next first) fun value later more ↦
        last value (drives ++ later) (samples ++ more)) :
    Takes wire? (steps >>= next) last :=
  takes_bind.mpr (hsteps.mono hnext)

@[simp]
theorem takes_drive {failure : Fault → ε} {line : L} {level : Bool}
    {post : Unit → List Drive → List Bool → Prop} :
    Takes wire? (PinSteps.drive failure line level) post ↔
      post () ((wire? line).map (·, level)).toList [] := by
  have hdriven : driven wire? [.exchange (.drive line level) (.ok ())] =
      ((wire? line).map (·, level)).toList := by
    rw [driven, List.filterMap_cons]
    simp only [drive?, List.filterMap_nil]
    cases wire? line <;> rfl
  rw [← hdriven]
  exact completes_drive

@[simp]
theorem takes_sample {failure : Fault → ε} {line : L}
    {post : Bool → List Drive → List Bool → Prop} :
    Takes wire? (PinSteps.sample failure line) post ↔ ∀ level, post level [] [level] :=
  completes_sample

@[simp]
theorem takes_wait {micros : Nat} {post : Unit → List Drive → List Bool → Prop} :
    Takes wire? (PinSteps.wait micros : PinSteps L ε Unit) post ↔ post () [] [] :=
  completes_wait

/-- A request that is met by some steps, and the state in which it leaves the one who meets it. -/
theorem Takes.shows {σ : Type} {steps : PinSteps L ε α} {post : α → List Drive → List Bool → Prop}
    (hsteps : Takes wire? steps post) (state : σ) :
    Shows wire? (do return (← steps.run, state)) fun answer drives samples ↦
      ∃ value, answer = (.ok value, state) ∧ post value drives samples :=
  Completes.ensures hsteps state

/-- Steps that drive each bit in its own way and sample some number of times. -/
theorem takes_eachBit {steps : Bool → PinSteps L ε Unit} {shape : Bool → List Drive} {count : Nat}
    (hsteps : ∀ bit, Takes wire? (steps bit) fun _ drives samples ↦
      drives = shape bit ∧ samples.length = count) (bits : List Bool) :
    Takes wire? (PinSteps.eachBit steps bits) fun _ drives samples ↦
      drives = bits.flatMap shape ∧ samples.length = bits.length * count := by
  induction bits with
  | nil => simp [PinSteps.eachBit]
  | cons bit rest ih =>
    refine (hsteps bit).bind ?_
    rintro _ _ samples ⟨rfl, hcount⟩
    refine ih.mono ?_
    rintro _ _ more ⟨rfl, hmore⟩
    rw [List.length_append, hcount, hmore, List.length_cons, Nat.succ_mul, Nat.add_comm]
    exact ⟨rfl, rfl⟩

/-- Steps that give what they sample, taken some number of times. -/
theorem takes_gather {steps : PinSteps L ε Bool} {shape : List Drive}
    (hsteps : Takes wire? steps fun bit drives samples ↦ drives = shape ∧ samples = [bit])
    (count : Nat) :
    Takes wire? (PinSteps.gather steps count) fun bits drives samples ↦
      bits.length = count ∧ drives = (List.replicate count shape).flatten ∧ samples = bits := by
  induction count with
  | zero => simp [PinSteps.gather]
  | succ count ih =>
    refine hsteps.bind ?_
    rintro bit _ _ ⟨rfl, rfl⟩
    refine ih.bind ?_
    rintro bits _ _ ⟨hcount, rfl, rfl⟩
    simp [hcount, List.replicate_succ]

end BusProbe
