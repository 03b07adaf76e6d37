import BusProbe.Console
import BusProbe.Proofs.Script.Alike

/-!
# What a submitted line does

Submitting a line hands the sequences of its groups to what is attached in the active mode, each of
them once and in order, and to nothing else (`handOver`). For each group a page is written: the
listing of its operations and then the answer, which depends on what the groups before it left
behind. With nothing attached nothing is handed over, and each page ends with the refusal.

* `submitGroups_alike` — apart from what is recorded, submitting groups is handing over their
  sequences.
* `submit_hands_over` — the same for a whole line, from any state of the switchboard and for every
  writer that takes all it is given.
-/

set_option autoImplicit false
set_option relaxedAutoImplicit false

namespace BusProbe.Switchboard

open Script

variable {X W δ : Type} {I : Interface} {heeded : I.Request → Prop}
  (run : X → List Operation → Script I (String × X)) {writer : Writer W}
  {accept : W → String → W} {panel : Switchboard X} {written : W}

/-! ### The specification -/

/-- Hands sequences of operations to an attachment, one after another. Gives the text that it
answered to each, and what became of it. -/
def handOver (run : X → List Operation → Script I (String × X)) (attachment : X) :
    List (List Operation) → Script I (List String × X)
  | [] => return ([], attachment)
  | ops :: rest => do
    let (text, attachment) ← run attachment ops
    let (texts, attachment) ← handOver run attachment rest
    return (text :: texts, attachment)

/-- What is shown of the answer to a sequence; there is none if nothing is attached. -/
def answerText : Option String → String
  | some text => if text = "" then "" else "READ: " ++ text ++ "\n"
  | none => "cannot execute instruction in this mode\n"

/-- What is written for a sequence. -/
def page (ops : List Operation) (answer : Option String) : String :=
  Operation.listing ops ++ answerText answer

/-- There is one answer to each sequence. -/
theorem length_of_handOver_run {device : Device I δ} {attachment : X}
    {sequences : List (List Operation)} {state : δ} {given : Outcome I δ (List String × X)}
    (hrun : (handOver run attachment sequences).run device state = some given) :
    given.value.1.length = sequences.length := by
  induction sequences generalizing attachment state given with
  | nil =>
    obtain rfl := Option.some.inj hrun
    rfl
  | cons ops rest ih =>
    obtain ⟨first, later, -, hlater, rfl⟩ := run_bind_eq_some.mp hrun
    obtain ⟨others, last, hothers, hlast, rfl⟩ := run_bind_eq_some.mp hlater
    obtain rfl := Option.some.inj hlast
    exact congrArg Nat.succ (ih hothers)

/-! ### Attachments -/

theorem setAttached_self (panel : Switchboard X) (mode : Mode) :
    panel.setAttached mode (panel.attached? mode) = panel := by
  have hattached : (fun other ↦ if other = mode then panel.attached? mode
      else panel.attached? other) = panel.attached? := by
    funext other
    split
    · rename_i hmode
      rw [hmode]
    · rfl
  rw [setAttached, hattached]

theorem setAttached_setAttached (panel : Switchboard X) (mode : Mode) (first last : Option X) :
    (panel.setAttached mode first).setAttached mode last = panel.setAttached mode last := by
  simp only [setAttached, mk.injEq, true_and]
  funext other
  split <;> rfl

@[simp]
theorem mode_setAttached (panel : Switchboard X) (mode : Mode) (attachment : Option X) :
    (panel.setAttached mode attachment).mode = panel.mode := rfl

theorem attached?_setAttached (panel : Switchboard X) (mode : Mode) (attachment : Option X) :
    (panel.setAttached mode attachment).attached? mode = attachment :=
  if_pos rfl

theorem attached?_setAttached_of_ne (panel : Switchboard X) {mode other : Mode}
    (hother : other ≠ mode) (attachment : Option X) :
    (panel.setAttached mode attachment).attached? other = panel.attached? other :=
  if_neg hother

/-! ### Groups -/

theorem resultText_ok (text : String) : resultText (.ok text) = answerText (some text) := by
  simp only [resultText, answerText, String.isEmpty_iff]

section Groups

variable (hwriter : ∀ written text, writer.put written text = .ok (accept written text))
include hwriter

/-- Submitting groups hands their sequences over and writes their pages. -/
theorem submitGroups_alike (groups : List Group) {panel : Switchboard X} {attachment : X}
    (hattached : panel.attached? panel.mode = some attachment) (written : W) :
    (panel.submitGroups run writer written groups).Alike (fun _ ↦ True) (do
      let (texts, attachment) ← handOver run attachment (groups.map Group.operations)
      let pages := List.zipWith page (groups.map Group.operations) (texts.map some)
      return (.ok (pages.foldl accept written),
        panel.setAttached panel.mode (some attachment))) := by
  induction groups generalizing panel attachment written with
  | nil =>
    have hpanel := setAttached_self panel panel.mode
    rw [hattached] at hpanel
    simp only [List.map_nil, handOver, pure_bind, List.zipWith_nil_left, List.foldl_nil, hpanel]
    exact .done _
  | cons group rest ih =>
    simp only [submitGroups, submitGroup, record, execute, hattached, hwriter, resultText_ok,
      handOver, bind_assoc, note_bind, done_bind, pure_bind, List.map_cons, List.zipWith_cons_cons,
      List.foldl_cons]
    refine Alike.afterNotices (.noteLeft ((alike_refl _).bind fun answer ↦ ?_)) _
    have hrest := ih (attached?_setAttached panel panel.mode (some answer.2))
      (accept written (page group.operations (some answer.1)))
    simp only [mode_setAttached, setAttached_setAttached] at hrest
    exact hrest

/-- With nothing attached, submitting groups only writes their pages. -/
theorem submitGroups_alike_of_none (hnone : panel.attached? panel.mode = none)
    (groups : List Group) (written : W) :
    (panel.submitGroups run writer written groups).Alike (fun _ ↦ True)
      (.done (.ok (((groups.map Group.operations).map (page · none)).foldl accept written),
        panel)) := by
  induction groups generalizing written with
  | nil => exact .done _
  | cons group rest ih =>
    simp only [submitGroups, submitGroup, record, execute, hnone, hwriter, bind_assoc, note_bind,
      done_bind, pure_bind, List.map_cons, List.foldl_cons]
    exact Alike.afterNotices (.noteLeft (ih _)) _

end Groups

/-! ### Lines -/

/-- Whatever the writer does, submitting a line is never refused for want of an attachment. -/
theorem submit_ne_nothingAttached {line : String} {device : Device I δ} {state : δ}
    {outcome : Outcome I δ (Except Refusal Nat × W × Switchboard X)}
    (hrun : (panel.submit run writer written line).run device state = some outcome) (mode : Mode) :
    outcome.value.1 ≠ .error (.nothingAttached mode) := by
  rw [submit, run_bind_eq_some] at hrun
  obtain ⟨recorded, submitted, -, hsubmitted, rfl⟩ := hrun
  obtain ⟨groups, last, -, hlast, rfl⟩ := run_bind_eq_some.mp hsubmitted
  rcases hvalue : groups.value with ⟨_ | _, after⟩
  all_goals
    rw [hvalue] at hlast
    obtain rfl := Option.some.inj hlast
    simp [Outcome.after]

/-- Submitting a line goes on after its groups with their number. -/
theorem submit_alike {line : String} {script : Script I (Except W W × Switchboard X)}
    (hgroups : (panel.submitGroups run writer written (Line.groups line)).Alike heeded script) :
    (panel.submit run writer written line).Alike heeded (do
      match ← script with
      | (.ok written, panel) => return (.ok (Line.groups line).length, written, panel)
      | (.error written, panel) => return (.error .output, written, panel)) :=
  Alike.afterNotices (hgroups.bind fun (value, after) ↦ by
    cases value <;> exact .done _) _

section Line

variable (hwriter : ∀ written text, writer.put written text = .ok (accept written text))
include hwriter

/-- Where something is attached, submitting a line comes out as handing its sequences over. -/
theorem submit_run_of_attached {attachment : X}
    (hattached : panel.attached? panel.mode = some attachment) (written : W) (line : String)
    (device : Device I δ) (state : δ) :
    ((panel.submit run writer written line).run device state).map Outcome.unrecorded =
      ((handOver run attachment (lineOperations line)).run device state).map fun given ↦
        ((.ok (Line.groups line).length,
          (List.zipWith page (lineOperations line) (given.value.1.map some)).foldl accept written,
          panel.setAttached panel.mode (some given.value.2)),
        given.state, Event.requests given.events) := by
  have halike := submit_alike run
    (submitGroups_alike run hwriter (Line.groups line) hattached written)
  rw [halike.run_unrecorded device state, bind_assoc, run_bind, Option.map_bind, lineOperations]
  cases (handOver run attachment ((Line.groups line).map Group.operations)).run device state with
  | none => rfl
  | some given => simp [Outcome.unrecorded, Outcome.after]

/-- Where nothing is attached, submitting a line only writes its pages. -/
theorem submit_run_of_none (hnone : panel.attached? panel.mode = none) (written : W)
    (line : String) (device : Device I δ) (state : δ) :
    ((panel.submit run writer written line).run device state).map Outcome.unrecorded =
      some ((.ok (Line.groups line).length,
        ((lineOperations line).map (page · none)).foldl accept written, panel), state, []) := by
  have halike := submit_alike run (submitGroups_alike_of_none run hwriter hnone
    (Line.groups line) written)
  rw [halike.run_unrecorded device state]
  rfl

/-- Submitting a line leaves the mode and what is attached in the others as they are. -/
theorem submit_keeps_others {line : String} {device : Device I δ} {state : δ}
    {outcome : Outcome I δ (Except Refusal Nat × W × Switchboard X)}
    (hrun : (panel.submit run writer written line).run device state = some outcome) :
    outcome.value.2.2.mode = panel.mode ∧
      ∀ other ≠ panel.mode, outcome.value.2.2.attached? other = panel.attached? other := by
  cases hattached : panel.attached? panel.mode with
  | none =>
    have hsubmitted := submit_run_of_none run hwriter hattached written line device state
    rw [hrun] at hsubmitted
    have hafter : outcome.value.2.2 = panel := congrArg (·.1.2.2) (Option.some.inj hsubmitted)
    rw [hafter]
    exact ⟨rfl, fun other _ ↦ rfl⟩
  | some attachment =>
    have hsubmitted := submit_run_of_attached run hwriter hattached written line device
      state
    rw [hrun] at hsubmitted
    obtain ⟨given, -, hgiven⟩ := Option.map_eq_some_iff.mp hsubmitted.symm
    have hafter : panel.setAttached panel.mode (some given.value.2) = outcome.value.2.2 :=
      congrArg (·.1.2.2) hgiven
    rw [← hafter]
    exact ⟨rfl, fun other hother ↦ attached?_setAttached_of_ne panel hother _⟩

/-- From any state of the switchboard, and with a writer that takes all it is given, a line is
submitted in this way. Where something is attached in the active mode, it is handed the sequences of
the line, and the pages are written with its answers, of which there is one to each sequence. Where
nothing is attached, nothing is asked for and the pages are refusals. The number of groups is given,
and no other mode is touched. Whatever the writer does, the line itself is not refused for want of
an attachment. -/
theorem submit_hands_over (panel : Switchboard X) (written : W) (line : String)
    (device : Device I δ) (state : δ) :
    (∀ attachment, panel.attached? panel.mode = some attachment →
      ((panel.submit run writer written line).run device state).map Outcome.unrecorded =
        (((handOver run attachment (lineOperations line)).run device state).map fun given ↦
          ((.ok (Line.groups line).length,
            (List.zipWith page (lineOperations line) (given.value.1.map some)).foldl accept written,
            panel.setAttached panel.mode (some given.value.2)),
          given.state, Event.requests given.events)) ∧
      ∀ given, (handOver run attachment (lineOperations line)).run device state = some given →
        given.value.1.length = (lineOperations line).length) ∧
    (panel.attached? panel.mode = none →
      ((panel.submit run writer written line).run device state).map Outcome.unrecorded =
        some ((.ok (Line.groups line).length,
          ((lineOperations line).map (page · none)).foldl accept written, panel), state, [])) ∧
    (∀ outcome, (panel.submit run writer written line).run device state = some outcome →
      outcome.value.2.2.mode = panel.mode ∧
        ∀ other ≠ panel.mode, outcome.value.2.2.attached? other = panel.attached? other) ∧
    ∀ (another : Writer W) outcome,
      (panel.submit run another written line).run device state = some outcome →
        ∀ mode, outcome.value.1 ≠ .error (.nothingAttached mode) :=
  ⟨fun _ hattached ↦ ⟨submit_run_of_attached run hwriter hattached written line device state,
      fun _ ↦ length_of_handOver_run run⟩,
    fun hnone ↦ submit_run_of_none run hwriter hnone written line device state,
    fun _ ↦ submit_keeps_others run hwriter, fun _ _ ↦ submit_ne_nothingAttached run⟩

end Line

/-- An attachment that keeps the sequences it is handed, and has data for all but the first. -/
def keeping (kept : List (List Operation)) (ops : List Operation) :
    Script Console.NoHardware (String × List (List Operation)) :=
  .done (if kept = [] then "" else "2A ", kept ++ [ops])

/-- Two groups in the mode of the SPI bus: both are handed over, the answer to the second depends on
the first, and what is attached for the I2C bus is handed nothing. -/
theorem two_groups_handed_over :
    let panel : Switchboard (List (List Operation)) :=
      ⟨.spi, fun mode ↦ if mode = .highImpedance then none else some []⟩
    ∃ outcome, (panel.submit keeping Writer.text "> " "[0x41] >r").run Console.noDevice () =
        some outcome ∧
      outcome.value.1 = .ok 2 ∧
      outcome.value.2.1 = "> Start | data=0 | bits=8 | repeat=1\n" ++
        "Write | data=65 | bits=8 | repeat=1\n" ++ "Stop | data=0 | bits=8 | repeat=1\n" ++
        "Read | data=0 | bits=8 | repeat=1\n" ++ "READ: 2A \n" ∧
      outcome.value.2.2.attached? .spi = some (lineOperations "[0x41] >r") ∧
      outcome.value.2.2.attached? .i2c = some [] := by
  intro panel
  have hops : lineOperations "[0x41] >r" = [[.ofKind .start, .write 0x41, .ofKind .stop],
      [.ofKind .read]] := by
    decide +kernel
  have hcount : (Line.groups "[0x41] >r").length = 2 := by decide +kernel
  have hwriter : ∀ shown text, Writer.text.put shown text = .ok (shown ++ text) := fun _ _ ↦ rfl
  obtain ⟨hattached, -, hothers, -⟩ :=
    submit_hands_over keeping hwriter panel "> " "[0x41] >r" Console.noDevice ()
  have hsubmitted := (hattached [] rfl).1
  rw [hops, hcount] at hsubmitted
  obtain ⟨outcome, hrun, houtcome⟩ := Option.map_eq_some_iff.mp hsubmitted
  have hvalue : outcome.value = _ := congrArg Prod.fst houtcome
  refine ⟨outcome, hrun, by rw [hvalue], ?_, ?_, ?_⟩
  · rw [hvalue]
    decide +kernel
  · rw [hvalue, hops]
    rfl
  · exact (hothers outcome hrun).2 .i2c (by decide)

end BusProbe.Switchboard
