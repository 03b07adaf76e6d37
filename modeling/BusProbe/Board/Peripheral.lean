import BusProbe.Board.Basic
import BusProbe.Bus.Failure
import BusProbe.Script.Handler

/-!
# A board of peripherals

A board made of an open-drain auxiliary pin, a source of delays and a timer. Releasing the auxiliary
pin is the same as driving it high, so it is then free to be driven from outside. There is no
measurement of voltages.
-/

set_option autoImplicit false
set_option relaxedAutoImplicit false

namespace BusProbe.PeripheralBoard

/-- A request to the peripherals of a board. -/
inductive Request
  | driveAux (level : Bool)
  | delayMicros (micros : Nat)
  | delayMillis (millis : Nat)
  | startTimer (millis : Nat)
  /-- Asks whether the timer has run out. -/
  | pollTimer
  deriving DecidableEq, Repr

/-- The reply to each request to the peripherals. -/
abbrev Request.Reply : Request → Type
  | .driveAux _ => Except Fault Unit
  | .delayMicros _ | .delayMillis _ | .startTimer _ => Unit
  | .pollTimer => Bool

/-- The interface of the peripherals. -/
abbrev Peripherals : Interface := ⟨Request, Request.Reply⟩

/-- The level to which the auxiliary pin is driven. -/
def auxDrive : AuxLevel → Bool
  | .high | .input => true
  | .low => false

/-- The board over its peripherals. Where there is no auxiliary pin, setting it always works. -/
def handler (hasAux : Bool) : Handler Board Peripherals Unit
  | .delayMicros micros, _ => .ask (.delayMicros micros) fun _ ↦ .done ((), ())
  | .delayMillis millis, _ => .ask (.delayMillis millis) fun _ ↦ .done ((), ())
  | .setAux level, _ =>
    if hasAux then
      .ask (.driveAux (auxDrive level)) fun
        | .ok () => .done ((), ())
        | .error fault => .note (.auxFailed level fault) (.done ((), ()))
    else .done ((), ())
  | .measure, _ => .done (none, ())
  | .startTimer millis, _ => .ask (.startTimer millis) fun _ ↦ .done ((), ())
  | .timedOut, _ => .ask .pollTimer fun expired ↦ .done (expired, ())

end BusProbe.PeripheralBoard
