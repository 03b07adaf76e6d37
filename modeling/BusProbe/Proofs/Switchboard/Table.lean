import BusProbe.Proofs.Script.Calls
import BusProbe.Proofs.Switchboard.Submitting

/-!
# The switchboard as a table

What a switchboard does depends on the calls before: on which mode was activated last, and for each
mode on what was attached there last, if it was not detached since, in the state in which the
sequences that it carried out since have left it (`Holds`). That is what is handed back when it is
displaced, and what is handed the sequences while its mode is active, and nothing else is. Nothing
is ever attached in high impedance (`reached_holds`).

The attachments are seen here as one party that answers each sequence at once, with a text and with
the attachment that is left (`handed`). Attachments that need a script for it only put that script
in the place of the answer (`handler_handled`).
-/

set_option autoImplicit false
set_option relaxedAutoImplicit false

namespace BusProbe

/-- The attachments as one party. Given an attachment and a sequence of operations, it answers with
a text and with what became of the attachment. -/
abbrev Attachments (X : Type) : Interface := ⟨X × List Operation, fun _ ↦ String × X⟩

namespace Switchboard

open Script

variable {X W δ : Type} {I : Interface}

/-- A request to a switchboard. -/
inductive Request (X W : Type)
  | attach (mode : Mode) (attachment : X)
  | detach (mode : Mode)
  | activate (mode : Mode)
  | execute (ops : List Operation)
  | submit (writer : Writer W) (written : W) (line : String)

namespace Request

/-- The reply to each request to a switchboard. -/
abbrev Reply : Request X W → Type
  | .attach _ _ | .detach _ => Option X
  | .activate _ => Unit
  | .execute _ => Except Refusal String
  | .submit _ _ _ => Except Refusal Nat × W

/-- The mode that is active after a request. -/
def modeAfter (active : Mode) : Request X W → Mode
  | .activate mode => mode
  | _ => active

/-- The request is about what is attached in a mode. -/
def Replaces (mode : Mode) : Request X W → Prop
  | .attach other _ | .detach other => other = mode
  | _ => False

theorem replaces_iff {mode : Mode} {request : Request X W} :
    request.Replaces mode ↔
      (∃ offered, request = .attach mode offered) ∨ request = .detach mode := by
  cases request with
  | attach other attachment => simp [Replaces]
  | detach other => simp [Replaces]
  | _ => simp [Replaces]

end Request

/-- The interface of a switchboard. -/
abbrev Requests (X W : Type) : Interface := ⟨Request X W, Request.Reply⟩

/-- What was asked of a switchboard, in order, and what came of it. -/
abbrev History (X W : Type) := List (Call (Requests X W) (Attachments X))

/-- Has a sequence of operations carried out by an attachment. -/
def handed (attachment : X) (ops : List Operation) : Script (Attachments X) (String × X) :=
  .ask (attachment, ops) .done

/-- The switchboard meets the requests that are made of it. -/
def handler (run : X → List Operation → Script I (String × X)) :
    Handler (Requests X W) I (Switchboard X)
  | .attach mode attachment, panel => panel.attach mode attachment
  | .detach mode, panel => .done (panel.detach mode)
  | .activate mode, panel => do return ((), ← panel.activate mode)
  | .execute ops, panel => panel.execute run ops
  | .submit writer written line, panel => do
    let (result, written, panel) ← panel.submit run writer written line
    return ((result, written), panel)

/-! ### Attachments that need a script -/

section Handled

variable (run : X → List Operation → Script I (String × X))

/-- Puts a script in the place of each answer of the attachments. -/
def carriedOutBy : Handler (Attachments X) I Unit :=
  fun (attachment, ops) _ ↦ do return (← run attachment ops, ())

theorem execute_handled (panel : Switchboard X) (ops : List Operation) :
    (panel.execute handed ops).handle (carriedOutBy run) () = do
      return (← panel.execute run ops, ()) := by
  unfold execute
  cases panel.attached? panel.mode with
  | none => rfl
  | some attachment => simp [handed, carriedOutBy]

theorem recordAll_handled (notices : List Notice) :
    (recordAll notices : Script (Attachments X) Unit).handle (carriedOutBy run) () =
      recordAll notices >>= fun _ ↦ .done ((), ()) := by
  induction notices with
  | nil => rfl
  | cons notice rest ih => exact congrArg (Script.note notice) ih

theorem submitGroups_handled (writer : Writer W) (panel : Switchboard X) (written : W)
    (groups : List Group) :
    (panel.submitGroups handed writer written groups).handle (carriedOutBy run) () = do
      return (← panel.submitGroups run writer written groups, ()) := by
  induction groups generalizing panel written with
  | nil => rfl
  | cons group rest ih =>
    simp only [submitGroups, submitGroup, record, handle_bind, recordAll_handled, execute_handled,
      bind_assoc, done_bind, note_bind, handle_note, pure_eq_done]
    refine congrArg _ (funext fun _ ↦ ?_)
    refine congrArg _ (congrArg _ (funext fun answer ↦ ?_))
    cases writer.put written (Operation.listing group.operations ++ resultText answer.1) with
    | error written => rfl
    | ok written => exact ih answer.2 written

/-- A switchboard with attachments that need a script meets its requests like one whose attachments
answer at once, with the script in the place of each answer. -/
theorem handler_handled (request : Request X W) (panel : Switchboard X) :
    (handler handed request panel).handle (carriedOutBy run) () = do
      return (← handler run request panel, ()) := by
  cases request with
  | attach mode attachment =>
    simp only [handler, attach]
    split <;> rfl
  | detach mode => rfl
  | activate mode => rfl
  | execute ops => exact execute_handled run panel ops
  | submit writer written line =>
    simp only [handler, submit, handle_bind, recordAll_handled, submitGroups_handled, bind_assoc,
      done_bind, pure_eq_done]
    refine congrArg _ (funext fun _ ↦ congrArg _ (funext fun answer ↦ ?_))
    rcases answer with ⟨_ | _, after⟩ <;> rfl

end Handled

/-! ### Executions -/

/-- A sequence that an attachment carried out, with its answer. -/
structure Execution (X : Type) where
  before : X
  ops : List Operation
  text : String
  after : X

/-- The sequences that were carried out during some events, in order. -/
def executions (events : List (Event (Attachments X))) : List (Execution X) :=
  events.filterMap fun
    | .exchange (before, ops) (text, after) => some ⟨before, ops, text, after⟩
    | .note _ => none

@[simp]
theorem executions_nil : executions ([] : List (Event (Attachments X))) = [] := rfl

@[simp]
theorem executions_append (first second : List (Event (Attachments X))) :
    executions (first ++ second) = executions first ++ executions second :=
  List.filterMap_append

/-- Executions lead from one state of an attachment to another: each finds it in the state in which
the one before has left it. -/
def Leads : X → List (Execution X) → X → Prop
  | x, [], last => last = x
  | x, execution :: rest, last => execution.before = x ∧ Leads execution.after rest last

theorem leads_append {first second : List (Execution X)} {x last : X} :
    Leads x (first ++ second) last ↔ ∃ middle, Leads x first middle ∧ Leads middle second last := by
  induction first generalizing x with
  | nil => exact ⟨fun hleads ↦ ⟨x, rfl, hleads⟩, fun ⟨_, hmiddle, hleads⟩ ↦ hmiddle ▸ hleads⟩
  | cons execution rest ih =>
    simp only [List.cons_append, Leads, ih, exists_and_left, and_assoc]

/-- Executions lead to one state only. -/
theorem Leads.unique {work : List (Execution X)} {x last other : X} (hleads : Leads x work last)
    (hother : Leads x work other) : last = other := by
  induction work generalizing x with
  | nil => exact hleads.trans hother.symm
  | cons execution rest ih => exact ih hleads.2 hother.2

/-! ### What the calls say -/

section Calls

variable {mode : Mode} {calls : History X W}

/-- The mode that is active after some calls, if one is active before. -/
def activeAfter (active : Mode) (calls : History X W) : Mode :=
  calls.foldl (fun active call ↦ call.request.modeAfter active) active

/-- The mode that was activated last, and high impedance if none was. -/
def activeMode (calls : History X W) : Mode := activeAfter .highImpedance calls

/-- What was carried out while a mode was active, in calls before which some mode is active. -/
def executionsIn (mode : Mode) : Mode → History X W → List (Execution X)
  | _, [] => []
  | active, call :: rest =>
    (if active = mode then executions call.events else []) ++
      executionsIn mode (call.request.modeAfter active) rest

/-- Among the calls is one that offers an attachment for a mode, with some before it and some
after. -/
def OfferedBetween (calls : History X W) (mode : Mode) (offered : X)
    (earlier later : History X W) : Prop :=
  ∃ reply events, calls = earlier ++ ⟨.attach mode offered, reply, events⟩ :: later

/-- An attachment was offered for a mode after the mode was last detached from. -/
def OfferedLast (calls : History X W) (mode : Mode) : Prop :=
  ∃ offered earlier later, OfferedBetween calls mode offered earlier later ∧
    ∀ call ∈ later, call.request ≠ .detach mode

/-- What a mode holds after some calls: what was offered for it last, if it was not detached since,
as the sequences that were carried out in the mode since have left it. High impedance holds
nothing. -/
def Holds (calls : History X W) (mode : Mode) (x : X) : Prop :=
  mode ≠ .highImpedance ∧ ∃ offered earlier later, OfferedBetween calls mode offered earlier later ∧
    (∀ call ∈ later, ¬ call.request.Replaces mode) ∧
      Leads offered (executionsIn mode (activeMode earlier) later) x

theorem activeMode_append (calls later : History X W) :
    activeMode (calls ++ later) = activeAfter (activeMode calls) later :=
  List.foldl_append

theorem executionsIn_append (mode active : Mode) (calls later : History X W) :
    executionsIn mode active (calls ++ later) =
      executionsIn mode active calls ++ executionsIn mode (activeAfter active calls) later := by
  induction calls generalizing active with
  | nil => rfl
  | cons call rest ih =>
    rw [List.cons_append, executionsIn, ih, executionsIn, List.append_assoc]
    rfl

theorem not_offeredBetween_nil {offered : X} {earlier later : History X W} :
    ¬ OfferedBetween [] mode offered earlier later := by
  rintro ⟨reply, events, hcalls⟩
  exact List.append_ne_nil_of_right_ne_nil earlier (List.cons_ne_nil _ _) hcalls.symm

/-- An offer among calls is that of the last call or is among those before it. -/
theorem offeredBetween_append {call : Call (Requests X W) (Attachments X)} {offered : X}
    {earlier later : History X W} :
    OfferedBetween (calls ++ [call]) mode offered earlier later ↔
      call.request = .attach mode offered ∧ earlier = calls ∧ later = [] ∨
        ∃ between, later = between ++ [call] ∧
          OfferedBetween calls mode offered earlier between := by
  constructor
  · rintro ⟨reply, events, hcalls⟩
    rcases List.eq_nil_or_concat later with rfl | ⟨between, last, rfl⟩
    · obtain ⟨rfl, hcall⟩ := List.append_inj' hcalls rfl
      obtain rfl := List.singleton_inj.mp hcall
      exact Or.inl ⟨rfl, rfl, rfl⟩
    · rw [List.concat_eq_append, ← List.cons_append, ← List.append_assoc] at hcalls
      obtain ⟨rfl, hcall⟩ := List.append_inj' hcalls rfl
      obtain rfl := List.singleton_inj.mp hcall
      exact Or.inr ⟨between, List.concat_eq_append, reply, events, rfl⟩
  · rintro (⟨hrequest, rfl, rfl⟩ | ⟨between, rfl, reply, events, rfl⟩)
    · obtain ⟨request, reply, events⟩ := call
      obtain rfl := hrequest
      exact ⟨reply, events, rfl⟩
    · exact ⟨reply, events, by simp⟩

variable {call : Call (Requests X W) (Attachments X)} {x : X}

/-- What was carried out since an offer, with the last call among it. -/
theorem OfferedBetween.executionsIn_append {offered : X} {earlier later : History X W}
    (hoffered : OfferedBetween calls mode offered earlier later) :
    executionsIn mode (activeMode earlier) (later ++ [call]) =
      executionsIn mode (activeMode earlier) later ++
        if activeMode calls = mode then executions call.events else [] := by
  obtain ⟨reply, events, rfl⟩ := hoffered
  rw [Switchboard.executionsIn_append, activeMode_append, executionsIn, executionsIn,
    List.append_nil]
  rfl

theorem holds_of_attach {offered : X} (hcall : call.request = .attach mode offered)
    (hmode : mode ≠ .highImpedance) : Holds (calls ++ [call]) mode x ↔ x = offered := by
  constructor
  · rintro ⟨-, first, earlier, later, hoffered, hkept, hleads⟩
    rcases offeredBetween_append.mp hoffered with ⟨hfirst, rfl, rfl⟩ | ⟨between, rfl, -⟩
    · obtain ⟨-, rfl⟩ := Request.attach.inj (hcall.symm.trans hfirst)
      exact hleads
    · rw [List.forall_mem_append, List.forall_mem_singleton, hcall] at hkept
      exact absurd rfl hkept.2
  · rintro rfl
    exact ⟨hmode, x, calls, [], offeredBetween_append.mpr (Or.inl ⟨hcall, rfl, rfl⟩), nofun, rfl⟩

theorem not_holds_of_detach (hcall : call.request = .detach mode) :
    ¬ Holds (calls ++ [call]) mode x := by
  rintro ⟨-, first, earlier, later, hoffered, hkept, -⟩
  rcases offeredBetween_append.mp hoffered with ⟨hfirst, -, -⟩ | ⟨between, rfl, -⟩
  · rw [hcall] at hfirst
    exact absurd hfirst nofun
  · rw [List.forall_mem_append, List.forall_mem_singleton, hcall] at hkept
    exact absurd rfl hkept.2

/-- A request that is not about what is attached in a mode leaves it there, as what was carried out
has left it. -/
theorem holds_of_kept (hcall : ¬ call.request.Replaces mode) :
    Holds (calls ++ [call]) mode x ↔ ∃ before, Holds calls mode before ∧
      Leads before (if activeMode calls = mode then executions call.events else []) x := by
  constructor
  · rintro ⟨hmode, offered, earlier, later, hoffered, hkept, hleads⟩
    rcases offeredBetween_append.mp hoffered with ⟨hfirst, -, -⟩ | ⟨between, rfl, hbetween⟩
    · rw [hfirst] at hcall
      exact absurd rfl hcall
    · rw [hbetween.executionsIn_append, leads_append] at hleads
      rw [List.forall_mem_append] at hkept
      obtain ⟨before, hbefore, hlast⟩ := hleads
      exact ⟨before, ⟨hmode, offered, earlier, between, hbetween, hkept.1, hbefore⟩, hlast⟩
  · rintro ⟨before, ⟨hmode, offered, earlier, between, hbetween, hkept, hbefore⟩, hlast⟩
    refine ⟨hmode, offered, earlier, between ++ [call],
      offeredBetween_append.mpr (Or.inr ⟨between, rfl, hbetween⟩), ?_, ?_⟩
    · rw [List.forall_mem_append, List.forall_mem_singleton]
      exact ⟨hkept, hcall⟩
    · rw [hbetween.executionsIn_append, leads_append]
      exact ⟨before, hbefore, hlast⟩

/-- The last offer for a mode is that of the last call, or is still the last offer if that call does
not detach. -/
theorem offeredLast_append :
    OfferedLast (calls ++ [call]) mode ↔ (∃ offered, call.request = .attach mode offered) ∨
      call.request ≠ .detach mode ∧ OfferedLast calls mode := by
  constructor
  · rintro ⟨offered, earlier, later, hoffered, hkept⟩
    rcases offeredBetween_append.mp hoffered with ⟨hfirst, -, -⟩ | ⟨between, rfl, hbetween⟩
    · exact Or.inl ⟨offered, hfirst⟩
    · rw [List.forall_mem_append, List.forall_mem_singleton] at hkept
      exact Or.inr ⟨hkept.2, offered, earlier, between, hbetween, hkept.1⟩
  · rintro (⟨offered, hcall⟩ | ⟨hcall, offered, earlier, between, hbetween, hkept⟩)
    · exact ⟨offered, calls, [], offeredBetween_append.mpr (Or.inl ⟨hcall, rfl, rfl⟩), nofun⟩
    · refine ⟨offered, earlier, between ++ [call],
        offeredBetween_append.mpr (Or.inr ⟨between, rfl, hbetween⟩), ?_⟩
      rw [List.forall_mem_append, List.forall_mem_singleton]
      exact ⟨hkept, hcall⟩

end Calls

/-! ### One request -/

/-- How a request is answered, and what is carried out for it, if a mode is active and the modes
hold something or nothing. What is offered for high impedance is given back; apart from that,
attaching and detaching give what the mode holds. A sequence is carried out by what the active mode
holds. Of the sequences of a line the first few are, and all of them if the line can be written. If
the active mode holds nothing, nothing is carried out. -/
def Answered (active : Mode) (holds : Mode → X → Prop) :
    (request : Request X W) → request.Reply → List (Execution X) → Prop
  | .attach mode offered, reply, work =>
    work = [] ∧ if mode = .highImpedance then reply = some offered
      else ∀ x, reply = some x ↔ holds mode x
  | .detach mode, reply, work => work = [] ∧ ∀ x, reply = some x ↔ holds mode x
  | .activate _, _, work => work = []
  | .execute ops, reply, work =>
    (∃ x text after, holds active x ∧ reply = .ok text ∧ work = [⟨x, ops, text, after⟩]) ∨
      (∀ x, ¬ holds active x) ∧ reply = .error (.nothingAttached active) ∧ work = []
  | .submit _ _ line, reply, work =>
    (∃ x after, holds active x ∧ Leads x work after ∧
      work.map Execution.ops <+: lineOperations line ∧
        ∀ count, reply.1 = .ok count → work.map Execution.ops = lineOperations line) ∨
      (∀ x, ¬ holds active x) ∧ work = []

/-- What executions make of what a mode holds. -/
def Carries (work : List (Execution X)) : Option X → Option X → Prop
  | none, after => after = none
  | some x, after => ∃ last, after = some last ∧ Leads x work last

theorem carries_nil {held after : Option X} : Carries [] held after ↔ after = held := by
  cases held with
  | none => rfl
  | some x => exact ⟨fun ⟨_, hafter, hlast⟩ ↦ hlast ▸ hafter, fun hafter ↦ ⟨x, hafter, rfl⟩⟩

theorem Carries.isSome_eq {work : List (Execution X)} {held after : Option X}
    (hcarries : Carries work held after) : after.isSome = held.isSome := by
  cases held with
  | none => rw [hcarries]
  | some x =>
    obtain ⟨last, rfl, -⟩ := hcarries
    rfl

theorem Carries.eq_some_iff {work : List (Execution X)} {held after : Option X} {last : X}
    (hcarries : Carries work held after) :
    after = some last ↔ ∃ x, held = some x ∧ Leads x work last := by
  cases held with
  | none =>
    rw [hcarries]
    exact ⟨nofun, fun ⟨_, hheld, _⟩ ↦ absurd hheld nofun⟩
  | some x =>
    obtain ⟨own, rfl, hleads⟩ := hcarries
    constructor
    · rintro ⟨⟩
      exact ⟨x, rfl, hleads⟩
    · rintro ⟨_, ⟨⟩, hlast⟩
      rw [hleads.unique hlast]

/-- What a call does to a switchboard. -/
structure Step (panel : Switchboard X) (call : Call (Requests X W) (Attachments X))
    (after : Switchboard X) : Prop where
  mode_eq : after.mode = call.request.modeAfter panel.mode
  kept : ∀ mode, ¬ call.request.Replaces mode →
    Carries (if panel.mode = mode then executions call.events else [])
      (panel.attached? mode) (after.attached? mode)
  attached : ∀ mode offered, call.request = .attach mode offered →
    after.attached? mode =
      if mode = .highImpedance then panel.attached? mode else some offered
  detached : ∀ mode, call.request = .detach mode → after.attached? mode = none

/-- A call in which nothing is carried out. -/
theorem Step.idle {panel after : Switchboard X} {call : Call (Requests X W) (Attachments X)}
    (hidle : executions call.events = []) (hmode : after.mode = call.request.modeAfter panel.mode)
    (hkept : ∀ mode, ¬ call.request.Replaces mode → after.attached? mode = panel.attached? mode)
    (hattached : ∀ mode offered, call.request = .attach mode offered →
      after.attached? mode = if mode = .highImpedance then panel.attached? mode else some offered)
    (hdetached : ∀ mode, call.request = .detach mode → after.attached? mode = none) :
    Step panel call after where
  mode_eq := hmode
  kept mode hreplaces := by
    rw [hidle, ite_self]
    exact carries_nil.mpr (hkept mode hreplaces)
  attached := hattached
  detached := hdetached

/-- How a line or a part of it is served: by what the active mode holds, from the first of some
sequences on, and to the last of them if there is nothing that keeps it from that. -/
def Served (sequences : List (List Operation)) (complete : Prop) (panel after : Switchboard X)
    (work : List (Execution X)) : Prop :=
  match panel.attached? panel.mode with
  | none => after = panel ∧ work = []
  | some x => ∃ last, after = panel.setAttached panel.mode (some last) ∧ Leads x work last ∧
      work.map Execution.ops <+: sequences ∧ (complete → work.map Execution.ops = sequences)

section Served

variable {sequences later : List (List Operation)} {complete more : Prop}
  {panel middle after : Switchboard X} {work first second : List (Execution X)}

theorem served_of_none (hnone : panel.attached? panel.mode = none) :
    Served sequences complete panel after work ↔ after = panel ∧ work = [] := by
  rw [Served, hnone]

theorem served_of_some {x : X} (hattached : panel.attached? panel.mode = some x) :
    Served sequences complete panel after work ↔
      ∃ last, after = panel.setAttached panel.mode (some last) ∧ Leads x work last ∧
        work.map Execution.ops <+: sequences ∧
          (complete → work.map Execution.ops = sequences) := by
  rw [Served, hattached]

theorem served_nil (complete : Prop) (panel : Switchboard X) :
    Served [] complete panel panel [] := by
  cases hattached : panel.attached? panel.mode with
  | none => exact (served_of_none hattached).mpr ⟨rfl, rfl⟩
  | some x =>
    refine (served_of_some hattached).mpr ⟨x, ?_, rfl, List.nil_prefix, fun _ ↦ rfl⟩
    rw [← hattached, setAttached_self]

theorem Served.append (hfirst : Served sequences True panel middle first)
    (hsecond : Served later complete middle after second) :
    Served (sequences ++ later) complete panel after (first ++ second) := by
  cases hattached : panel.attached? panel.mode with
  | none =>
    obtain ⟨rfl, rfl⟩ := (served_of_none hattached).mp hfirst
    exact (served_of_none hattached).mpr ((served_of_none hattached).mp hsecond)
  | some x =>
    obtain ⟨last, rfl, hleads, -, hall⟩ := (served_of_some hattached).mp hfirst
    have hmiddle := attached?_setAttached panel panel.mode (some last)
    obtain ⟨final, rfl, hmore, hprefix, hrest⟩ := (served_of_some hmiddle).mp hsecond
    refine (served_of_some hattached).mpr
      ⟨final, setAttached_setAttached .., leads_append.mpr ⟨last, hleads, hmore⟩, ?_, ?_⟩
    · rw [List.map_append, hall trivial]
      exact (List.prefix_append_right_inj _).mpr hprefix
    · intro hcomplete
      rw [List.map_append, hall trivial, hrest hcomplete]

/-- What is served of some sequences is served of more, if not all of these have to be served. -/
theorem Served.weaken {wider : List (List Operation)}
    (hserved : Served sequences complete panel after work) (hwider : sequences <+: wider)
    (hmore : more → complete ∧ sequences = wider) : Served wider more panel after work := by
  cases hattached : panel.attached? panel.mode with
  | none => exact (served_of_none hattached).mpr ((served_of_none hattached).mp hserved)
  | some x =>
    obtain ⟨last, hafter, hleads, hprefix, hall⟩ := (served_of_some hattached).mp hserved
    refine (served_of_some hattached).mpr
      ⟨last, hafter, hleads, hprefix.trans hwider, fun h ↦ ?_⟩
    rw [hall (hmore h).1, (hmore h).2]

theorem Served.mode_eq (hserved : Served sequences complete panel after work) :
    after.mode = panel.mode := by
  cases hattached : panel.attached? panel.mode with
  | none => rw [((served_of_none hattached).mp hserved).1]
  | some x =>
    obtain ⟨last, rfl, -⟩ := (served_of_some hattached).mp hserved
    rfl

/-- Only what the active mode holds is carried on. -/
theorem Served.carries (hserved : Served sequences complete panel after work) (mode : Mode) :
    Carries (if panel.mode = mode then work else []) (panel.attached? mode)
      (after.attached? mode) := by
  cases hattached : panel.attached? panel.mode with
  | none =>
    obtain ⟨rfl, rfl⟩ := (served_of_none hattached).mp hserved
    rw [ite_self]
    exact carries_nil.mpr rfl
  | some x =>
    obtain ⟨last, rfl, hleads, -⟩ := (served_of_some hattached).mp hserved
    by_cases hactive : panel.mode = mode
    · subst hactive
      rw [if_pos rfl, hattached, attached?_setAttached]
      exact ⟨last, rfl, hleads⟩
    · rw [if_neg hactive, attached?_setAttached_of_ne panel (Ne.symm hactive)]
      exact carries_nil.mpr rfl

/-- A call that activates nothing, is not about what is attached anywhere, and has sequences
served. -/
theorem Served.step {call : Call (Requests X W) (Attachments X)}
    (hserved : Served sequences complete panel after (executions call.events))
    (hmode : call.request.modeAfter panel.mode = panel.mode)
    (hreplaces : ∀ mode, ¬ call.request.Replaces mode) : Step panel call after where
  mode_eq := hserved.mode_eq.trans hmode.symm
  kept mode _ := hserved.carries mode
  attached mode offered hcall :=
    absurd (Request.replaces_iff.mpr (Or.inl ⟨offered, hcall⟩)) (hreplaces mode)
  detached mode hcall := absurd (Request.replaces_iff.mpr (Or.inr hcall)) (hreplaces mode)

end Served

theorem recordAll_ensures (notices : List Notice) :
    (recordAll notices).Ensures (Attachments X).anyReply fun _ events ↦ executions events = [] := by
  induction notices with
  | nil => rfl
  | cons notice rest ih => exact ih

/-- A sequence is carried out by what the active mode holds, which answers it, or is refused. -/
theorem execute_ensures (panel : Switchboard X) (ops : List Operation) :
    (panel.execute handed ops).Ensures (Attachments X).anyReply fun answer events ↦
      Served [ops] True panel answer.2 (executions events) ∧
        ((∃ x text last, panel.attached? panel.mode = some x ∧ answer.1 = .ok text ∧
            executions events = [⟨x, ops, text, last⟩]) ∨
          (∀ x, panel.attached? panel.mode ≠ some x) ∧
            answer.1 = .error (.nothingAttached panel.mode) ∧ executions events = []) := by
  unfold execute Served
  cases hattached : panel.attached? panel.mode with
  | none => exact ⟨⟨rfl, rfl⟩, Or.inr ⟨nofun, rfl, rfl⟩⟩
  | some x =>
    rintro ⟨text, last⟩ -
    exact ⟨⟨last, rfl, ⟨rfl, rfl⟩, List.prefix_rfl, fun _ ↦ rfl⟩,
      Or.inl ⟨x, text, last, rfl, rfl, rfl⟩⟩

theorem submitGroup_ensures (writer : Writer W) (panel : Switchboard X) (written : W)
    (group : Group) :
    (panel.submitGroup handed writer written group).Ensures (Attachments X).anyReply
      fun answer events ↦ Served [group.operations] True panel answer.2 (executions events) := by
  refine (recordAll_ensures (Notice.ofGroup group)).bind fun _ recorded hrecorded ↦ ?_
  rw [record, note_bind, done_bind, ensures_note]
  refine (execute_ensures panel group.operations).bind ?_
  rintro ⟨result, after⟩ events ⟨hserved, -⟩
  simp only [pure_eq_done, ensures_done, executions_append, hrecorded, List.append_nil,
    List.nil_append]
  exact hserved

/-- Groups are served in order until the writer fails. -/
theorem submitGroups_ensures (writer : Writer W) (panel : Switchboard X) (written : W)
    (groups : List Group) :
    (panel.submitGroups handed writer written groups).Ensures (Attachments X).anyReply
      fun answer events ↦ Served (groups.map Group.operations) (∃ written, answer.1 = .ok written)
        panel answer.2 (executions events) := by
  induction groups generalizing panel written with
  | nil => exact served_nil _ panel
  | cons group rest ih =>
    refine (submitGroup_ensures writer panel written group).bind ?_
    rintro ⟨result, middle⟩ events hfirst
    cases result with
    | error written =>
      simp only [pure_eq_done, ensures_done, List.append_nil]
      refine hfirst.weaken (List.prefix_append [group.operations] _) ?_
      rintro ⟨_, ⟨⟩⟩
    | ok written =>
      refine (ih middle written).mono fun answer later hlater ↦ ?_
      rw [executions_append]
      exact hfirst.append hlater

/-- A line is served, and all of it if it is answered with the number of its groups. -/
theorem submit_ensures (writer : Writer W) (panel : Switchboard X) (written : W) (line : String) :
    (panel.submit handed writer written line).Ensures (Attachments X).anyReply fun answer events ↦
      Served (lineOperations line) (∃ count, answer.1 = .ok count) panel answer.2.2
        (executions events) := by
  refine (recordAll_ensures (Notice.ofLine line)).bind fun _ recorded hrecorded ↦ ?_
  refine (submitGroups_ensures writer panel written (Line.groups line)).bind ?_
  rintro ⟨result, after⟩ events hserved
  cases result with
  | error written =>
    simp only [pure_eq_done, ensures_done, executions_append, executions_nil, hrecorded,
      List.append_nil, List.nil_append]
    refine hserved.weaken List.prefix_rfl ?_
    rintro ⟨_, ⟨⟩⟩
  | ok written =>
    simp only [pure_eq_done, ensures_done, executions_append, executions_nil, hrecorded,
      List.append_nil, List.nil_append]
    exact hserved.weaken List.prefix_rfl fun _ ↦ ⟨⟨written, rfl⟩, rfl⟩

/-- How a request is met, whatever the attachments answer. -/
theorem handler_ensures (request : Request X W) (panel : Switchboard X) :
    (handler handed request panel).Ensures (Attachments X).anyReply fun answer events ↦
      Step panel ⟨request, answer.1, events⟩ answer.2 ∧
        Answered panel.mode (fun mode x ↦ panel.attached? mode = some x) request answer.1
          (executions events) := by
  cases request with
  | attach mode offered =>
    rw [handler, attach]
    by_cases hmode : mode = .highImpedance
    · rw [if_pos hmode]
      refine ⟨Step.idle rfl rfl (fun _ _ ↦ rfl) ?_ ?_, rfl, ?_⟩
      · rintro _ _ ⟨⟩
        rw [if_pos hmode]
      · rintro _ ⟨⟩
      · rw [if_pos hmode]
    · rw [if_neg hmode]
      refine ⟨Step.idle rfl rfl (fun other hother ↦ ?_) ?_ ?_, rfl, ?_⟩
      · exact attached?_setAttached_of_ne panel (Ne.symm hother) (some offered)
      · rintro _ _ ⟨⟩
        rw [if_neg hmode, attached?_setAttached]
      · rintro _ ⟨⟩
      · rw [if_neg hmode]
        exact fun x ↦ Iff.rfl
  | detach mode =>
    refine ⟨Step.idle rfl rfl (fun other hother ↦ ?_) ?_ ?_, rfl, fun x ↦ Iff.rfl⟩
    · exact attached?_setAttached_of_ne panel (Ne.symm hother) none
    · rintro _ _ ⟨⟩
    · rintro _ ⟨⟩
      exact attached?_setAttached panel mode none
  | activate mode =>
    refine ⟨Step.idle rfl rfl (fun _ _ ↦ rfl) ?_ ?_, rfl⟩
    · rintro _ _ ⟨⟩
    · rintro _ ⟨⟩
  | execute ops =>
    refine (execute_ensures panel ops).mono fun answer events hpost ↦ ?_
    exact ⟨Served.step hpost.1 rfl fun _ ↦ id, hpost.2⟩
  | submit writer written line =>
    refine (submit_ensures writer panel written line).bind fun answer events hserved ↦ ?_
    simp only [pure_eq_done, ensures_done, List.append_nil]
    refine ⟨Served.step hserved rfl fun _ ↦ id, ?_⟩
    cases hattached : panel.attached? panel.mode with
    | none =>
      exact Or.inr ⟨fun x hx ↦ Option.some_ne_none x (hx.symm.trans hattached),
        ((served_of_none hattached).mp hserved).2⟩
    | some x =>
      obtain ⟨last, -, hleads, hprefix, hall⟩ := (served_of_some hattached).mp hserved
      exact Or.inl ⟨x, last, hattached, hleads, hprefix, fun count hcount ↦ hall ⟨count, hcount⟩⟩

/-! ### Any number of requests -/

/-- A switchboard is in the state that the calls up to now speak of. -/
structure Follows (calls : History X W) (panel : Switchboard X) : Prop where
  mode_eq : panel.mode = activeMode calls
  attached?_iff : ∀ mode x, panel.attached? mode = some x ↔ Holds calls mode x
  isSome_iff : ∀ mode, (panel.attached? mode).isSome = true ↔
    mode ≠ .highImpedance ∧ OfferedLast calls mode

theorem follows_empty : Follows ([] : History X W) Switchboard.empty where
  mode_eq := rfl
  attached?_iff _ _ := iff_of_false nofun fun ⟨_, _, _, _, hoffered, _⟩ ↦
    not_offeredBetween_nil hoffered
  isSome_iff _ := iff_of_false nofun fun ⟨_, _, _, _, hoffered, _⟩ ↦
    not_offeredBetween_nil hoffered

section Step

variable {calls : History X W} {panel after : Switchboard X}
  {call : Call (Requests X W) (Attachments X)}

/-- Nothing is attached in high impedance. -/
theorem Follows.attached?_highImpedance (hfollows : Follows calls panel) :
    panel.attached? .highImpedance = none :=
  Option.eq_none_iff_forall_ne_some.mpr fun _ hattached ↦
    ((hfollows.attached?_iff _ _).mp hattached).1 rfl

theorem Follows.attached?_iff_after (hfollows : Follows calls panel) (hstep : Step panel call after)
    (mode : Mode) (x : X) : after.attached? mode = some x ↔ Holds (calls ++ [call]) mode x := by
  by_cases hreplaces : call.request.Replaces mode
  · rcases Request.replaces_iff.mp hreplaces with ⟨offered, hcall⟩ | hcall
    · rw [hstep.attached mode offered hcall]
      by_cases hmode : mode = .highImpedance
      · subst hmode
        rw [if_pos rfl, hfollows.attached?_highImpedance]
        exact iff_of_false nofun fun hholds ↦ hholds.1 rfl
      · rw [if_neg hmode, holds_of_attach hcall hmode, Option.some_inj, eq_comm]
    · rw [hstep.detached mode hcall]
      exact iff_of_false nofun (not_holds_of_detach hcall)
  · rw [holds_of_kept hreplaces, (hstep.kept mode hreplaces).eq_some_iff, hfollows.mode_eq]
    simp only [hfollows.attached?_iff]

theorem Follows.isSome_iff_after (hfollows : Follows calls panel) (hstep : Step panel call after)
    (mode : Mode) : (after.attached? mode).isSome = true ↔
      mode ≠ .highImpedance ∧ OfferedLast (calls ++ [call]) mode := by
  rw [offeredLast_append]
  by_cases hreplaces : call.request.Replaces mode
  · rcases Request.replaces_iff.mp hreplaces with ⟨offered, hcall⟩ | hcall
    · rw [hstep.attached mode offered hcall]
      by_cases hmode : mode = .highImpedance
      · subst hmode
        rw [if_pos rfl, hfollows.attached?_highImpedance]
        exact iff_of_false nofun fun h ↦ h.1 rfl
      · rw [if_neg hmode]
        exact iff_of_true rfl ⟨hmode, Or.inl ⟨offered, hcall⟩⟩
    · rw [hstep.detached mode hcall, hcall]
      exact iff_of_false nofun fun ⟨_, hlast⟩ ↦
        hlast.elim (fun ⟨_, hattach⟩ ↦ absurd hattach nofun) fun hdetach ↦ hdetach.1 rfl
  · rw [(hstep.kept mode hreplaces).isSome_eq, hfollows.isSome_iff]
    obtain ⟨hattach, hdetach⟩ := not_or.mp (mt Request.replaces_iff.mpr hreplaces)
    rw [or_iff_right hattach, and_iff_right hdetach]

/-- A call keeps a switchboard in the state that the calls speak of. -/
theorem Follows.append (hfollows : Follows calls panel) (hstep : Step panel call after) :
    Follows (calls ++ [call]) after where
  mode_eq := by
    rw [activeMode_append, hstep.mode_eq, hfollows.mode_eq]
    rfl
  attached?_iff := hfollows.attached?_iff_after hstep
  isSome_iff := hfollows.isSome_iff_after hstep

end Step

/-- The calls that can be made of a switchboard from the beginning, and the state in which they
leave it. What the attachments answer is up to them and to a world that may change on its own
between the calls. -/
inductive Reached (attachments : Device (Attachments X) δ) : History X W → Switchboard X → Prop
  | start : Reached attachments [] .empty
  | call {calls : History X W} {panel : Switchboard X} (request : Request X W) (world : δ)
      {outcome : Outcome (Attachments X) δ (request.Reply × Switchboard X)}
      (hreached : Reached attachments calls panel)
      (hrun : (handler handed request panel).run attachments world = some outcome) :
      Reached attachments (calls ++ [⟨request, outcome.value.1, outcome.events⟩]) outcome.value.2

theorem Reached.follows {attachments : Device (Attachments X) δ} {calls : History X W}
    {panel : Switchboard X} (hreached : Reached attachments calls panel) : Follows calls panel := by
  induction hreached with
  | start => exact follows_empty
  | call request world _ hrun ih =>
    exact ih.append ((handler_ensures _ _).of_run (Device.answers_any _) hrun).1

/-- After any calls nothing is attached in high impedance, each mode has attached what the calls say
that it holds, and something can be carried out exactly if the active mode is not high impedance and
something was offered for it after it was last detached from. Every further request is met; it is
answered by what the modes hold, and leaves what they hold except where it attaches or detaches or,
in the active mode, has sequences carried out. -/
theorem reached_holds {attachments : Device (Attachments X) δ} {calls : History X W}
    {panel : Switchboard X} (hreached : Reached attachments calls panel) :
    panel.attached? .highImpedance = none ∧
      (∀ mode x, panel.attached? mode = some x ↔ Holds calls mode x) ∧
      (panel.canExecute = true ↔
        activeMode calls ≠ .highImpedance ∧ OfferedLast calls (activeMode calls)) ∧
      ∀ (request : Request X W) (world : δ), ∃ outcome,
        (handler handed request panel).run attachments world = some outcome ∧
          Answered (activeMode calls) (Holds calls) request outcome.value.1
            (executions outcome.events) ∧
          ∀ mode ≠ activeMode calls, ¬ request.Replaces mode →
            outcome.value.2.attached? mode = panel.attached? mode := by
  have hfollows := hreached.follows
  have hholds : (fun mode x ↦ panel.attached? mode = some x) = Holds calls :=
    funext fun mode ↦ funext fun x ↦ propext (hfollows.attached?_iff mode x)
  refine ⟨hfollows.attached?_highImpedance, hfollows.attached?_iff, ?_, fun request world ↦ ?_⟩
  · rw [canExecute, hfollows.isSome_iff, hfollows.mode_eq]
  · obtain ⟨outcome, hrun, hstep, hanswered⟩ :=
      (handler_ensures request panel).run attachments.answers_any world
    rw [hholds, hfollows.mode_eq] at hanswered
    refine ⟨outcome, hrun, hanswered, fun mode hmode hreplaces ↦ ?_⟩
    have hkept := hstep.kept mode hreplaces
    rw [hfollows.mode_eq, if_neg (Ne.symm hmode)] at hkept
    exact carries_nil.mp hkept

/-- Attachments that count the operations they are handed. -/
def tallying : Device (Attachments Nat) Unit :=
  fun (count, ops) _ ↦ (("", count + ops.length), ())

/-- What was attached for the SPI bus and carried out two operations is kept while the mode of the
I2C bus is active, and is given back as they left it when something else takes its place. -/
theorem parked_attachment_given_back :
    ∃ (calls : History Nat String) (panel : Switchboard Nat), Reached tallying calls panel ∧
      calls.map Call.request = [.attach .spi 0, .activate .spi,
        .execute [.ofKind .start, .ofKind .stop], .activate .i2c] ∧
      panel.canExecute = false ∧ Holds calls .spi 2 ∧
      ∃ outcome, (handler handed (.attach .spi 7 : Request Nat String) panel).run tallying () =
          some outcome ∧ outcome.value.1 = some 2 := by
  have hstart : Reached tallying ([] : History Nat String) .empty := .start
  have hparked := (((hstart.call (.attach .spi 0) () rfl).call (.activate .spi) () rfl).call
    (.execute [.ofKind .start, .ofKind .stop]) () rfl).call (.activate .i2c) () rfl
  obtain ⟨-, hholds, -, hrequests⟩ := reached_holds hparked
  obtain ⟨outcome, hrun, ⟨-, hreply⟩, -⟩ := hrequests (.attach .spi 7) ()
  have hheld := (hholds .spi 2).mp rfl
  exact ⟨_, _, hparked, rfl, rfl, hheld, outcome, hrun, (hreply 2).mpr hheld⟩

end Switchboard

end BusProbe
