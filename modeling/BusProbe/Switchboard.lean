import BusProbe.Notice
import BusProbe.Script.Basic
import BusProbe.Writer

/-!
# The switchboard

The switchboard knows what is attached in each mode and sends what is typed to the attachment of the
mode that is active. An attachment is anything that can carry out a sequence of operations. High
impedance is the mode in which every pin is released, so nothing can be attached in it.

For each group of a line the listing is written whether or not the group could be carried out,
followed by the data that was read or by the reason why nothing was done.

* `attach`, `detach`, `activate` — what is attached and which mode is active.
* `execute`, `submit` — one sequence, and all sequences of a line.
-/

set_option autoImplicit false
set_option relaxedAutoImplicit false

namespace BusProbe

/-- Why something that was typed could not be done. -/
inductive Refusal
  /-- Nothing is attached in the active mode. -/
  | nothingAttached (mode : Mode)
  /-- No mode has this name. -/
  | unknownMode (name : String)
  /-- The output could not be written. -/
  | output
  deriving DecidableEq, Repr

/-- The wording of a refusal. -/
def Refusal.text : Refusal → String
  | .nothingAttached _ => "cannot execute instruction in this mode"
  | .unknownMode name => "unknown mode " ++ Text.quoted name
  | .output => "an error occurred when formatting an argument"

/-- The mode that was named, or a refusal that repeats the name. -/
def Mode.parse (name : String) : Except Refusal Mode :=
  match Mode.ofName? name with
  | some mode => .ok mode
  | none => .error (.unknownMode name)

/-- The active mode and the attachments, of type `X`, of all modes. -/
structure Switchboard (X : Type) where
  mode : Mode
  attached? : Mode → Option X

namespace Switchboard

variable {X W : Type} {I : Interface}

/-- A switchboard with nothing attached. -/
def empty : Switchboard X := ⟨.highImpedance, fun _ ↦ none⟩

/-- Sets or clears the attachment of a mode. -/
def setAttached (panel : Switchboard X) (mode : Mode) (attachment : Option X) : Switchboard X :=
  { panel with
    attached? := fun other ↦ if other = mode then attachment else panel.attached? other }

/-- Whether something is attached in the active mode. -/
def canExecute (panel : Switchboard X) : Bool := (panel.attached? panel.mode).isSome

/-- Attaches something in a mode and gives back what was attached there before. What is offered for
high impedance is given straight back. -/
def attach (panel : Switchboard X) (mode : Mode) (attachment : X) :
    Script I (Option X × Switchboard X) :=
  if mode = .highImpedance then .note .attachRefused (.done (some attachment, panel))
  else .done (panel.attached? mode, panel.setAttached mode (some attachment))

/-- Takes away what is attached in a mode and gives it back. -/
def detach (panel : Switchboard X) (mode : Mode) : Option X × Switchboard X :=
  (panel.attached? mode, panel.setAttached mode none)

/-- Makes a mode the active one. -/
def activate (panel : Switchboard X) (mode : Mode) : Script I (Switchboard X) :=
  .note (.modeChanged panel.mode mode) (.done { panel with mode := mode })

/-- Gives a sequence of operations to the attachment of the active mode. -/
def execute (run : X → List Operation → Script I (String × X)) (panel : Switchboard X)
    (ops : List Operation) : Script I (Except Refusal String × Switchboard X) :=
  match panel.attached? panel.mode with
  | none => .done (.error (.nothingAttached panel.mode), panel)
  | some attachment => do
    let (text, attachment) ← run attachment ops
    return (.ok text, panel.setAttached panel.mode (some attachment))

/-- What is written after the listing of a group. -/
def resultText : Except Refusal String → String
  | .ok text => if text.isEmpty then "" else "READ: " ++ text ++ "\n"
  | .error refusal => refusal.text ++ "\n"

/-- Carries out a group and writes its listing and its result. -/
def submitGroup (run : X → List Operation → Script I (String × X)) (writer : Writer W)
    (panel : Switchboard X) (written : W) (group : Group) :
    Script I (Except W W × Switchboard X) := do
  Script.recordAll (Notice.ofGroup group)
  Script.record (.compiled group.raw group.operations.length)
  let (result, panel) ← panel.execute run group.operations
  return (writer.put written (Operation.listing group.operations ++ resultText result), panel)

/-- Carries out groups in order until the writer fails. -/
def submitGroups (run : X → List Operation → Script I (String × X)) (writer : Writer W)
    (panel : Switchboard X) (written : W) : List Group → Script I (Except W W × Switchboard X)
  | [] => return (.ok written, panel)
  | group :: rest => do
    match ← panel.submitGroup run writer written group with
    | (.error written, panel) => return (.error written, panel)
    | (.ok written, panel) => panel.submitGroups run writer written rest

/-- Carries out the groups of a line. Gives the number of groups, unless the writer fails, and the
writer and the switchboard after it. -/
def submit (run : X → List Operation → Script I (String × X)) (writer : Writer W)
    (panel : Switchboard X) (written : W) (line : String) :
    Script I (Except Refusal Nat × W × Switchboard X) := do
  Script.recordAll (Notice.ofLine line)
  match ← panel.submitGroups run writer written (Line.groups line) with
  | (.ok written, panel) => return (.ok (Line.groups line).length, written, panel)
  | (.error written, panel) => return (.error .output, written, panel)

end Switchboard

end BusProbe
