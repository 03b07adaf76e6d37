/-!
# Failures

What can go wrong on a bus. A piece of hardware reports a fault in words of its own; a bus says in
which of its steps the fault came up, or reports a failure that no single piece of hardware noticed.
-/

set_option autoImplicit false
set_option relaxedAutoImplicit false

namespace BusProbe

/-- A fault in the words of the hardware that reported it. -/
structure Fault where
  text : String
  deriving DecidableEq, Repr

/-- The answer to a request that may have to be made again: a value, nothing yet, or a failure. -/
inductive Poll (ε α : Type)
  | ready (value : α)
  | pending
  | failed (failure : ε)
  deriving DecidableEq, Repr

/-- Why a bus could not do what it was asked to. -/
inductive BusFailure
  /-- No device acknowledged a byte. -/
  | notAcknowledged (byte : UInt8)
  /-- The controller that makes the conditions and carries the bytes of a bus failed. -/
  | controller (fault : Fault)
  /-- An exchange of bytes failed. -/
  | transfer (fault : Fault)
  /-- The pin that selects a device failed. -/
  | chipSelect (fault : Fault)
  /-- The sending side of a serial link failed. -/
  | transmit (fault : Fault)
  /-- The receiving side of a serial link failed. -/
  | receive (fault : Fault)
  /-- No device answered a reset. -/
  | noPresence
  /-- The only pin of a bus failed. -/
  | busPin
  /-- One of several pins of a bus failed. -/
  | pin
  /-- A bus that only carries data away from the probe was asked for data. -/
  | writeOnly
  /-- The shift register behind a bus failed. -/
  | shifter (fault : Fault)
  /-- A bus of some other kind failed. -/
  | other (fault : Fault)
  deriving DecidableEq, Repr

/-- The form of a failure in a message. -/
def BusFailure.text : BusFailure → String
  | .notAcknowledged byte => "Nack(" ++ toString byte.toNat ++ ")"
  | .controller fault => "Controller(" ++ fault.text ++ ")"
  | .transfer fault => "Transfer(" ++ fault.text ++ ")"
  | .chipSelect fault => "ChipSelect(" ++ fault.text ++ ")"
  | .transmit fault => "Write(" ++ fault.text ++ ")"
  | .receive fault => "Read(" ++ fault.text ++ ")"
  | .noPresence => "NoPresence"
  | .busPin => "Pin(PinError)"
  | .pin => "PinError"
  | .writeOnly => "WriteOnly"
  | .shifter fault => "Spi(" ++ fault.text ++ ")"
  | .other fault => fault.text

end BusProbe
