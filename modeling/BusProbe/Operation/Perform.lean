import BusProbe.Probe

/-!
# Carrying out operations

The rules by which a sequence of operations becomes requests to a bus and a board. They are the
same for every bus: the order of the operations, the meaning of a count, one time limit for all
units of a read, and the closing of a transaction that a sequence leaves open. A failure is
recorded and changes nothing about what is done next, except that a read ends at its first failure.

A flag says whether a start was asked for since the last stop, whether or not either of them worked.

* `perform` — one operation; `performAll` — a sequence without the closing; `execute` — a sequence
  with the closing.
-/

set_option autoImplicit false
set_option relaxedAutoImplicit false

namespace BusProbe.Operation

open Probe

/-- Tries something on the bus and records a failure. -/
def attempt (notice : BusFailure → Notice) (script : Script Probe (Except BusFailure Unit)) :
    Script Probe Unit := do
  match ← script with
  | .ok () => return ()
  | .error failure => Script.record (notice failure)

/-- The text of one unit of data: the digits that its width needs, in upper case, and a blank. -/
def unitText (value : Word) (width : Nat) : String :=
  String.ofList (Text.fixed 16 ((width + 3) / 4) (value.low width).toNat) ++ " "

/-- Polls the bus for one unit of data. Gives up when the bus fails or the timer has run out. -/
def awaitUnit (limits : Limits) (width : Nat) : Nat → Script Probe (Option Word)
  | 0 => .stalled
  | patience + 1 => do
    match ← onBus (.read width) with
    | .ready value => return some value
    | .failed failure =>
      Script.record (.readFailed failure)
      return none
    | .pending =>
      if ← onBoard .timedOut then
        Script.record (.readTimedOut limits.readMillis)
        return none
      else
        awaitUnit limits width patience

/-- Reads some number of units and gives their text. -/
def readUnits (limits : Limits) (width : Nat) : Nat → Script Probe String
  | 0 => return ""
  | count + 1 => do
    match ← awaitUnit limits width limits.patience with
    | none => return ""
    | some value => return unitText value width ++ (← readUnits limits width count)

/-- Measures a voltage and records it. -/
def measure : Script Probe Unit := do
  match ← onBoard .measure with
  | some millivolts => Script.record (.measured millivolts)
  | none => Script.record .cannotMeasure

/-- Drives or samples a line and records a level that was seen. -/
def workLine (action : LineAction) : Script Probe Unit := do
  match ← onBus (.line action) with
  | .ok (some level) => Script.record (.sampled level)
  | .ok none => return ()
  | .error failure => Script.record (.lineFailed action failure)

/-- What is done once for each count of an operation. -/
def performOnce (op : Operation) : Script Probe Unit :=
  match op.kind with
  | .write => attempt (.writeFailed op.value) (onBus (.write op.value op.width))
  | .start => attempt .startFailed (onBus .start)
  | .startAlt => attempt .startFailed (onBus .startAlt)
  | .stop => attempt .stopFailed (onBus .stop)
  | .stopAlt => attempt .stopFailed (onBus .stopAlt)
  | .clockHigh => workLine .clockHigh
  | .clockLow => workLine .clockLow
  | .dataHigh => workLine .dataHigh
  | .dataLow => workLine .dataLow
  | .tickClock => workLine .tick
  | .sampleData => workLine .sample
  | .sampleVoltage => measure
  | .read | .delayMicros | .delayMillis | .auxHigh | .auxLow | .auxInput | .nothing => return ()

/-- Does something that gives no text. -/
def quietly (script : Script Probe Unit) : Script Probe String := do
  script
  return ""

/-- Does what an operation says and gives the text that was read. The count of a delay is its
length; the auxiliary pin is set once whatever the count. -/
def perform (limits : Limits) (op : Operation) : Script Probe String :=
  match op.kind with
  | .read => do
    onBoard (.startTimer limits.readMillis)
    readUnits limits op.width op.count
  | .delayMicros => quietly (onBoard (.delayMicros op.count))
  | .delayMillis => quietly (onBoard (.delayMillis op.count))
  | .auxHigh => quietly (onBoard (.setAux .high))
  | .auxLow => quietly (onBoard (.setAux .low))
  | .auxInput => quietly (onBoard (.setAux .input))
  | _ => quietly (Script.times op.count (performOnce op))

/-- Does what a sequence of operations says, in order, and gives the text that was read. -/
def performAll (limits : Limits) : List Operation → Script Probe String
  | [] => return ""
  | op :: rest => do
    let text ← perform limits op
    return text ++ (← performAll limits rest)

/-- Whether a transaction counts as open after an operation: a start opens it and a stop closes it,
unless their count is zero. -/
def openAfter (isOpen : Bool) (op : Operation) : Bool :=
  match op.kind with
  | .start | .startAlt => isOpen || op.count != 0
  | .stop | .stopAlt => isOpen && op.count == 0
  | _ => isOpen

/-- Closes a transaction and records that it had to be done. -/
def close : Script Probe Unit := do
  Script.record .closing
  attempt .stopFailed (onBus .stop)

/-- Closes a transaction that counts as open. If none does, the bus is asked whether it is released
and the transaction is closed if it is not. -/
def closeIfOpen : Bool → Script Probe Unit
  | true => close
  | false => do
    if ← onBus .released then return ()
    else close

/-- Carries out a sequence of operations and leaves no transaction open. Gives the text that was
read and whether a transaction counts as open afterwards. -/
def execute (limits : Limits) (ops : List Operation) (isOpen : Bool) :
    Script Probe (String × Bool) := do
  let text ← performAll limits ops
  closeIfOpen (ops.foldl openAfter isOpen)
  return (text, false)

end BusProbe.Operation
