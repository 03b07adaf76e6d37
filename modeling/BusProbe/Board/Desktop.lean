import BusProbe.Board.Basic
import BusProbe.Script.Handler

/-!
# A desktop computer as a board

A desktop computer in the place of a board: delays and the timer come from its clock, and there is
neither an auxiliary pin nor a measurement of voltages. A timer that was never started has run out.
-/

set_option autoImplicit false
set_option relaxedAutoImplicit false

namespace BusProbe.DesktopBoard

/-- A request to a clock that counts microseconds. -/
inductive ClockRequest
  | now
  | sleep (micros : Nat)
  deriving DecidableEq, Repr

/-- The reply to each request to a clock. -/
abbrev ClockRequest.Reply : ClockRequest → Type
  | .now => Nat
  | .sleep _ => Unit

/-- The interface of a clock. -/
abbrev Clock : Interface := ⟨ClockRequest, ClockRequest.Reply⟩

/-- The board over its clock. It remembers when its timer runs out. -/
def handler : Handler Board Clock (Option Nat)
  | .delayMicros micros, deadline => .ask (.sleep micros) fun _ ↦ .done ((), deadline)
  | .delayMillis millis, deadline => .ask (.sleep (1000 * millis)) fun _ ↦ .done ((), deadline)
  | .setAux level, deadline => .note (.auxUnconnected level) (.done ((), deadline))
  | .measure, deadline => .done (none, deadline)
  | .startTimer millis, _ => .ask .now fun now ↦ .done ((), some (now + 1000 * millis))
  | .timedOut, none => .done (true, none)
  | .timedOut, some deadline => .ask .now fun now ↦ .done (decide (deadline ≤ now), some deadline)

end BusProbe.DesktopBoard
