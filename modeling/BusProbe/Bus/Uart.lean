import BusProbe.Bus.Basic
import BusProbe.Script.Handler

/-!
# The serial bus

A serial link carries bytes and knows no transactions. A start opens a session and throws away what
was received before it; a stop waits until everything is sent. On a shared wire every byte that is
sent comes back, and that echo is thrown away before the next byte is sent.

* `handler` — the bus over a serial link.
-/

set_option autoImplicit false
set_option relaxedAutoImplicit false

namespace BusProbe.Uart

/-- Whether sending and receiving have a wire each or share one. -/
inductive Duplex
  | full
  | half
  deriving DecidableEq, Repr

/-- The settings of the bus. -/
structure Config where
  duplex : Duplex
  /-- How often an echo is looked for. -/
  echoPolls : Nat
  deriving DecidableEq, Repr

namespace Config

/-- The settings with a wire for each direction, if no others are chosen. -/
def default : Config := ⟨.full, 10000⟩

/-- The settings on a shared wire, if no others are chosen. -/
def halfDuplex : Config := { default with duplex := .half }

end Config

/-- A request to a serial link. -/
inductive LinkRequest
  | send (byte : UInt8)
  /-- Waits until everything is sent. -/
  | flush
  | receive
  deriving DecidableEq, Repr

/-- The reply to each request to a serial link. -/
abbrev LinkRequest.Reply : LinkRequest → Type
  | .send _ | .flush => Poll Fault Unit
  | .receive => Poll Fault UInt8

/-- The interface of a serial link. -/
abbrev Link : Interface := ⟨LinkRequest, LinkRequest.Reply⟩

/-- Sends a byte as soon as the link takes it. -/
def sendWhenReady (byte : UInt8) : Nat → Script Link (Except BusFailure Unit)
  | 0 => .stalled
  | patience + 1 => .ask (.send byte) fun
    | .ready () => .done (.ok ())
    | .pending => sendWhenReady byte patience
    | .failed fault => .done (.error (.transmit fault))

/-- Waits until everything is sent. -/
def flush : Nat → Script Link (Except BusFailure Unit)
  | 0 => .stalled
  | patience + 1 => .ask .flush fun
    | .ready () => .done (.ok ())
    | .pending => flush patience
    | .failed fault => .done (.error (.transmit fault))

/-- Throws away what was received, until nothing more is there. -/
def drain : Nat → Script Link (Except BusFailure Unit)
  | 0 => .stalled
  | patience + 1 => .ask .receive fun
    | .ready _ => drain patience
    | .pending => .done (.ok ())
    | .failed fault => .done (.error (.receive fault))

/-- Throws away one echo, looking for it some number of times. An echo that does not come is no
failure. -/
def dropEcho : Nat → Script Link (Except BusFailure Unit)
  | 0 => .note .noEcho (.done (.ok ()))
  | polls + 1 => .ask .receive fun
    | .ready _ => .done (.ok ())
    | .pending => dropEcho polls
    | .failed fault => .done (.error (.receive fault))

/-- Sends a byte, and on a shared wire throws away its echo. -/
def sendByte (config : Config) (patience : Nat) (byte : UInt8) :
    Script Link (Except BusFailure Unit) := do
  match ← sendWhenReady byte patience with
  | .error failure => return .error failure
  | .ok () =>
    match ← flush patience with
    | .error failure => return .error failure
    | .ok () =>
      match config.duplex with
      | .full => return .ok ()
      | .half => dropEcho config.echoPolls

/-- Sends bytes up to the first that fails. -/
def sendBytes (config : Config) (patience : Nat) :
    List UInt8 → Script Link (Except BusFailure Unit)
  | [] => return .ok ()
  | byte :: rest => do
    match ← sendByte config patience byte with
    | .error failure => return .error failure
    | .ok () => sendBytes config patience rest

/-- Looks once for a byte. -/
def receive : Script Link (Poll BusFailure Word) :=
  .ask .receive fun
    | .ready byte => .done (.ready byte.toUInt32)
    | .pending => .done .pending
    | .failed fault => .done (.failed (.receive fault))

/-- The bus over a serial link, with a bound on how often a pending request is made again. It
remembers whether a session is open. -/
def handler (config : Config) (patience : Nat) : Handler Bus Link Bool
  | .start, _ => do return (← drain patience, true)
  | .startAlt, _ => do return (← drain patience, true)
  | .stop, _ => do return (← flush patience, false)
  | .stopAlt, _ => do return (← flush patience, false)
  | .write value width, isOpen => do
    return (← sendBytes config patience (value.bytes width), isOpen)
  | .read _, isOpen => do return (← receive, isOpen)
  | .line _, isOpen => .done (.ok none, isOpen)
  | .released, isOpen => .done (!isOpen, isOpen)

end BusProbe.Uart
