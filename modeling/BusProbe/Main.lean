import BusProbe.Console

/-!
# The command line

The console on the standard streams, one line at a time.
-/

set_option autoImplicit false
set_option relaxedAutoImplicit false

namespace BusProbe.Console

/-- Answers the lines of an input until it ends or one of them ends the session. -/
partial def converse (input output : IO.FS.Stream) (mode : Mode) : IO UInt32 := do
  output.putStr (prompt mode)
  output.flush
  let bytes ← readLine input ByteArray.empty
  if bytes.isEmpty then return 0
  match decode bytes.toList with
  | none =>
    (← IO.getStderr).putStr notText
    return 1
  | some line =>
    let (shown, next) := answer mode line
    output.putStr shown
    match next with
    | .goOn mode => converse input output mode
    | .quit => return 0
    | .fail refusal =>
      (← IO.getStderr).putStr (notCarriedOut refusal)
      return 1
where
  /-- Reads up to and with the next line feed. -/
  readLine (input : IO.FS.Stream) (line : ByteArray) : IO ByteArray := do
    let byte ← input.read 1
    if byte.isEmpty then return line
    else if byte.toList = [10] then return line ++ byte
    else readLine input (line ++ byte)

end BusProbe.Console

def main : IO UInt32 := do
  BusProbe.Console.converse (← IO.getStdin) (← IO.getStdout) .highImpedance
