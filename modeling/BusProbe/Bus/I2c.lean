import BusProbe.Bus.Basic
import BusProbe.Bus.I2c.Controller
import BusProbe.Script.Handler

/-!
# The I2C bus

A byte that was read is not acknowledged at once, because only what is asked for next shows whether
more are wanted. The acknowledgement is owed until then: another read accepts the byte, and a start,
a stop or a write refuses it. So the last byte of several is always refused.

* `handler` — the bus over its controller.
-/

set_option autoImplicit false
set_option relaxedAutoImplicit false

namespace BusProbe.I2c

/-- What the bus remembers: whether it is held by a transaction, and whether the byte read last
still has to be acknowledged. -/
structure State where
  held : Bool
  ackOwed : Bool
  deriving DecidableEq, Repr

/-- The state of a bus that has not been used. -/
def State.idle : State := ⟨false, false⟩

/-- Gives the acknowledgement that is owed, if one is. It is no longer owed even if giving it
fails. -/
def settle (accept : Bool) (state : State) : Script Controller (Except Fault Unit × State) :=
  if state.ackOwed then
    .ask (.acknowledge accept) fun reply ↦ .done (reply, { state with ackOwed := false })
  else .done (.ok (), state)

/-- Sends bytes up to the first that fails or is not acknowledged. -/
def sendBytes : List UInt8 → Script Controller (Except BusFailure Unit)
  | [] => return .ok ()
  | byte :: rest => do
    match ← control (.writeByte byte) with
    | .error fault => return .error (.controller fault)
    | .ok false => return .error (.notAcknowledged byte)
    | .ok true => sendBytes rest

/-- A start, or a repeated one. The bus is held if it works. -/
def start (state : State) : Script Controller (Except BusFailure Unit × State) := do
  match ← settle false state with
  | (.error fault, state) => return (.error (.controller fault), state)
  | (.ok (), state) =>
    match ← control .start with
    | .error fault => return (.error (.controller fault), state)
    | .ok () => return (.ok (), { state with held := true })

/-- A stop. Once nothing is owed, the bus counts as released even if the stop itself fails, since
nothing more could be done about it. -/
def stop (state : State) : Script Controller (Except BusFailure Unit × State) := do
  match ← settle false state with
  | (.error fault, state) => return (.error (.controller fault), state)
  | (.ok (), state) =>
    let reply ← control .stop
    return (reply.mapError .controller, { state with held := false })

/-- Sends the bytes of a value, the highest first. -/
def write (value : Word) (width : Nat) (state : State) :
    Script Controller (Except BusFailure Unit × State) := do
  match ← settle false state with
  | (.error fault, state) => return (.error (.controller fault), state)
  | (.ok (), state) => return (← sendBytes (value.bytes width), state)

/-- Receives one byte, whatever the width. -/
def read (state : State) : Script Controller (Poll BusFailure Word × State) := do
  match ← settle true state with
  | (.error fault, state) => return (.failed (.controller fault), state)
  | (.ok (), state) =>
    match ← control .readByte with
    | .pending => return (.pending, state)
    | .failed fault => return (.failed (.controller fault), state)
    | .ready byte => return (.ready byte.toUInt32, { state with ackOwed := true })

/-- The bus over its controller. -/
def handler : Handler Bus Controller State
  | .start, state => start state
  | .startAlt, state => start state
  | .stop, state => stop state
  | .stopAlt, state => stop state
  | .write value width, state => write value width state
  | .read _, state => read state
  | .line _, state => .done (.ok none, state)
  | .released, state => .done (!state.held, state)

end BusProbe.I2c
