import BusProbe.Bus.Failure
import BusProbe.Script.Basic

/-!
# The controller of an I2C bus

What the leading side of an I2C bus does byte by byte. A byte that was received is acknowledged by a
request of its own.
-/

set_option autoImplicit false
set_option relaxedAutoImplicit false

namespace BusProbe.I2c

/-- A request to a controller. -/
inductive ControllerRequest
  /-- A start condition, or a repeated one if the bus is held. -/
  | start
  | stop
  /-- Sends a byte; the reply says whether it was acknowledged. -/
  | writeByte (byte : UInt8)
  /-- Receives a byte without acknowledging it. -/
  | readByte
  /-- Accepts the byte just received, or refuses to take more. -/
  | acknowledge (accept : Bool)
  deriving DecidableEq, Repr

/-- The reply to each request to a controller. -/
abbrev ControllerRequest.Reply : ControllerRequest → Type
  | .start | .stop | .acknowledge _ => Except Fault Unit
  | .writeByte _ => Except Fault Bool
  | .readByte => Poll Fault UInt8

/-- The interface of a controller. -/
abbrev Controller : Interface := ⟨ControllerRequest, ControllerRequest.Reply⟩

/-- Makes one request to the controller. -/
def control (request : ControllerRequest) : Script Controller request.Reply := .ask request .done

end BusProbe.I2c
