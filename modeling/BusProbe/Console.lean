import BusProbe.Script.Run
import BusProbe.Switchboard

/-!
# The console

The console shows a prompt with the active mode, reads a line, answers it, and begins again, until
a line asks it to end or there are no more lines. A line is a command if it is one of a few short
words and is otherwise carried out group by group. No bus is attached to this console, so a group
is listed and refused.

* `answer` — the answer to one line; `session` — the output of a whole session.
-/

set_option autoImplicit false
set_option relaxedAutoImplicit false

namespace BusProbe.Console

/-- What the help command shows. -/
def help : String :=
  "\ncommands:\n" ++
  "    m MODE    switch to MODE (HiZ, 1-WIRE, UART, HDUART, I2C, SPI, 2WIRE, 3WIRE, LED)\n" ++
  "    ?         show this help\n" ++
  "    q         quit\n" ++
  "\n" ++
  "anything else is run as bus instructions in the current mode, e.g.\n" ++
  "    [0xA0 0x00 r:4]\n"

/-- What a line asks the console to do. -/
inductive Command
  | nothing
  | quit
  | help
  /-- Makes the mode with some name the active one. -/
  | switch (name : String)
  /-- Carries out the groups of a text. -/
  | instructions (text : String)
  deriving DecidableEq, Repr

/-- The command that a line is, without regard to blanks around it. -/
def Command.ofLine (line : String) : Command :=
  let text := Text.trim line
  match text.toList with
  | [] => .nothing
  | ['q'] => .quit
  | ['?'] => .help
  | 'm' :: ' ' :: name => .switch (Text.trim (String.ofList name))
  | _ => .instructions text

/-- What is shown before a line is read. -/
def prompt (mode : Mode) : String := mode.name ++ "> "

/-- Nothing is attached to the console, so there is nothing to ask. -/
abbrev NoHardware : Interface := ⟨Empty, fun _ ↦ Unit⟩

/-- The device that answers no request. -/
def noDevice : Device NoHardware Unit := fun request _ ↦ nomatch request

/-- The switchboard of the console in a mode. -/
def switchboard (mode : Mode) : Switchboard Empty := { Switchboard.empty with mode := mode }

/-- The submission of a text to the switchboard of the console. -/
def submission (mode : Mode) (text : String) :
    Script NoHardware (Except Refusal Nat × String × Switchboard Empty) :=
  (switchboard mode).submit (fun attachment _ ↦ attachment.elim) Writer.text "" text

/-- What is shown for the groups of a text, unless it could not be written. -/
def listGroups (mode : Mode) (text : String) : Except Refusal String :=
  match (submission mode text).run noDevice () with
  | some outcome =>
    match outcome.value with
    | (.ok _, shown, _) => .ok shown
    | (.error refusal, _) => .error refusal
  | none => .error .output

/-- What follows a line. -/
inductive Sequel
  /-- The next line is read in a mode. -/
  | goOn (mode : Mode)
  | quit
  /-- The session is broken off. -/
  | fail (refusal : Refusal)
  deriving DecidableEq, Repr

/-- The answer to a line: what is shown, and what follows. -/
def answer (mode : Mode) (line : String) : String × Sequel :=
  match Command.ofLine line with
  | .nothing => ("", .goOn mode)
  | .quit => ("", .quit)
  | .help => (help ++ "\n", .goOn mode)
  | .switch name =>
    match Mode.parse name with
    | .ok mode => ("", .goOn mode)
    | .error refusal => (refusal.text ++ "\n", .goOn mode)
  | .instructions text =>
    match listGroups mode text with
    | .ok shown => (shown, .goOn mode)
    | .error refusal => ("", .fail refusal)

/-- What is reported when an input is no text. -/
def notText : String :=
  "Error: Error \x7b kind: InvalidData, message: \"stream did not contain valid UTF-8\" \x7d\n"

/-- What is reported when a line could not be carried out. -/
def notCarriedOut (refusal : Refusal) : String := "Error: " ++ Text.quoted refusal.text ++ "\n"

/-- The output of a session, and what is reported if it came to no good end. -/
structure Transcript where
  output : String
  report : Option String
  deriving DecidableEq, Repr

/-- A transcript with earlier output in front of its own. -/
def Transcript.after (transcript : Transcript) (earlier : String) : Transcript :=
  { transcript with output := earlier ++ transcript.output }

/-- The session from a mode on. A line that is no text at all breaks it off. -/
def sessionFrom (mode : Mode) : List (Option String) → Transcript
  | [] => ⟨prompt mode, none⟩
  | none :: _ => ⟨prompt mode, some notText⟩
  | some line :: rest =>
    match answer mode line with
    | (shown, .goOn mode') => (sessionFrom mode' rest).after (prompt mode ++ shown)
    | (shown, .quit) => ⟨prompt mode ++ shown, none⟩
    | (shown, .fail refusal) => ⟨prompt mode ++ shown, some (notCarriedOut refusal)⟩

/-- The session on a list of lines. -/
def session (lines : List (Option String)) : Transcript := sessionFrom .highImpedance lines

/-- Divides bytes into lines. A line feed ends its line and belongs to it. -/
def splitLines : List UInt8 → List (List UInt8)
  | [] => []
  | byte :: rest =>
    if byte = 10 then [byte] :: splitLines rest
    else
      match splitLines rest with
      | [] => [[byte]]
      | line :: lines => (byte :: line) :: lines

/-- The text of a line, if its bytes are UTF-8. -/
def decode (bytes : List UInt8) : Option String := String.fromUTF8? ⟨bytes.toArray⟩

/-- The session on the bytes of an input. -/
def sessionOfBytes (input : List UInt8) : Transcript := session ((splitLines input).map decode)

/-- What a transcript puts on the error output. -/
def Transcript.errorOutput (transcript : Transcript) : String := transcript.report.getD ""

/-- The exit code of a session. -/
def Transcript.exitCode (transcript : Transcript) : UInt32 :=
  if transcript.report.isSome then 1 else 0

end BusProbe.Console
