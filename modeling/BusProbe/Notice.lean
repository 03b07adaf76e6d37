import BusProbe.Bus.Failure
import BusProbe.Bus.Levels
import BusProbe.Line.Operations
import BusProbe.Mode
import BusProbe.Text.Quoted

/-!
# Notices

What the probe records about its own work. A failure on a bus never stops a sequence of operations,
so a notice is all that is ever seen of it.

* `level` and `text` — how grave a notice is and how it reads.
* `ofLine`, `ofGroup` — the notices that come from reading a line and from compiling a group.
-/

set_option autoImplicit false
set_option relaxedAutoImplicit false

namespace BusProbe

/-- How grave a notice is. -/
inductive Level
  | trace
  | debug
  | info
  | warn
  deriving DecidableEq, Repr

/-- The name of a level. -/
def Level.name : Level → String
  | .trace => "TRACE"
  | .debug => "DEBUG"
  | .info => "INFO"
  | .warn => "WARN"

/-- Something that happened and is worth a record. -/
inductive Notice
  /-- The text of a group was given up while a line was read. -/
  | dropped (reason : DropReason) (text : String)
  /-- A token of a group belongs to no class. -/
  | unrecognized (token : String)
  /-- A group was turned into some number of operations. -/
  | compiled (raw : String) (size : Nat)
  | writeFailed (value : Word) (failure : BusFailure)
  | startFailed (failure : BusFailure)
  | stopFailed (failure : BusFailure)
  | readFailed (failure : BusFailure)
  /-- No data came within some number of milliseconds. -/
  | readTimedOut (millis : Nat)
  | lineFailed (action : LineAction) (failure : BusFailure)
  /-- The data line was sampled. -/
  | sampled (level : Bool)
  /-- A voltage was measured, in millivolts. -/
  | measured (millivolts : Word)
  /-- The board cannot measure a voltage. -/
  | cannotMeasure
  /-- A transaction that a sequence left open is closed. -/
  | closing
  /-- A byte sent on a shared wire did not come back. -/
  | noEcho
  | auxFailed (level : AuxLevel) (fault : Fault)
  /-- The board has no auxiliary pin to set. -/
  | auxUnconnected (level : AuxLevel)
  /-- Something was to be attached in the mode in which nothing can be. -/
  | attachRefused
  | modeChanged (old new : Mode)
  deriving DecidableEq, Repr

namespace Notice

/-- How grave a notice is. -/
def level : Notice → Level
  | .dropped .. => .trace
  | .unrecognized _ | .compiled .. | .cannotMeasure | .closing | .noEcho => .debug
  | .sampled _ | .measured _ | .auxUnconnected _ | .modeChanged .. => .info
  | .writeFailed .. | .startFailed _ | .stopFailed _ | .readFailed _ | .readTimedOut _
  | .lineFailed .. | .auxFailed .. | .attachRefused => .warn

/-- A voltage in volts with three decimals. -/
def volts (millivolts : Nat) : String :=
  toString (millivolts / 1000) ++ "." ++ String.ofList (Text.fixed 10 3 (millivolts % 1000)) ++ "V"

/-- The wording of a notice. -/
def text : Notice → String
  | .dropped .reopened text => "dropping group " ++ Text.quoted text ++ " reopened"
  | .dropped .unterminated text => "dropping unterminated group " ++ Text.quoted text
  | .unrecognized token => "skipping unrecognized token " ++ Text.quoted token
  | .compiled raw size => raw ++ " compiled to " ++ toString size ++ " ops"
  | .writeFailed value failure =>
    "write of 0x" ++ Text.hexadecimal value.toNat ++ " failed: " ++ failure.text
  | .startFailed failure => "start failed: " ++ failure.text
  | .stopFailed failure => "stop failed: " ++ failure.text
  | .readFailed failure => "read failed: " ++ failure.text
  | .readTimedOut millis => "read timed out after " ++ toString millis ++ "ms"
  | .lineFailed action failure => action.name ++ " failed: " ++ failure.text
  | .sampled level => "data line: " ++ (if level then "1" else "0")
  | .measured millivolts => "adc: " ++ volts millivolts.toNat
  | .cannotMeasure => "no adc on this board"
  | .closing => "closing transaction left open"
  | .noEcho => "no echo received in half duplex"
  | .auxFailed level fault => "aux " ++ level.name ++ " failed: " ++ fault.text
  | .auxUnconnected level => "aux pin " ++ level.name ++ " (not connected on this host)"
  | .attachRefused => "HiZ mode cannot execute instructions"
  | .modeChanged old new => "mode " ++ old.name ++ " -> " ++ new.name

/-- The notice of a piece of a line that was given up. -/
def ofPiece? : Piece → Option Notice
  | .dropped reason text => some (.dropped reason text)
  | _ => none

/-- The notices that come from dividing a line into groups. -/
def ofLine (line : String) : List Notice :=
  (Line.pieces line).filterMap ofPiece?

/-- The notices that come from turning a group into operations. -/
def ofGroup (group : Group) : List Notice :=
  group.unrecognized.map .unrecognized

end Notice

end BusProbe
