import BusProbe.Bus.Basic
import BusProbe.Script.Handler
import BusProbe.Word.BitOrder

/-!
# The SPI bus

A transaction selects the device by a pin. The bytes of a value are exchanged for as many bytes from
the device; a write does not look at them, and a read sends ones. The peripheral always shifts out
the highest bit first, so a value in the other order is turned round.

* `Config.mode`, `Config.frequency` — how the peripheral has to be set up.
* `handler` — the bus over the peripheral and the selecting pin.
-/

set_option autoImplicit false
set_option relaxedAutoImplicit false

namespace BusProbe.Spi

/-- The clock rates of the bus. -/
inductive Speed
  | kHz30
  | kHz125
  | kHz250
  | mHz1
  | mHz2
  | mHz2_6
  | mHz4
  | mHz8
  deriving DecidableEq, Repr

/-- A clock rate in hertz. -/
def Speed.hertz : Speed → Nat
  | .kHz30 => 30000
  | .kHz125 => 125000
  | .kHz250 => 250000
  | .mHz1 => 1000000
  | .mHz2 => 2000000
  | .mHz2_6 => 2600000
  | .mHz4 => 4000000
  | .mHz8 => 8000000

/-- The level of the clock while nothing is sent. -/
inductive Polarity
  | idleHigh
  | idleLow
  deriving DecidableEq, Repr

/-- The change of the clock on which data that is sent changes. -/
inductive Edge
  | activeToIdle
  | idleToActive
  deriving DecidableEq, Repr

/-- The level of the selecting pin that selects the device. -/
inductive Selection
  | activeLow
  | activeHigh
  deriving DecidableEq, Repr

/-- The change of the clock, counted from its idle level, on which data is taken over. -/
inductive Capture
  | first
  | second
  deriving DecidableEq, Repr

/-- The settings of the bus. -/
structure Config where
  speed : Speed
  polarity : Polarity
  edge : Edge
  order : BitOrder
  selection : Selection
  deriving DecidableEq, Repr

/-- The clock mode of a peripheral. -/
structure ClockMode where
  polarity : Polarity
  capture : Capture
  deriving DecidableEq, Repr

namespace Config

/-- The settings if no others are chosen. -/
def default : Config := ⟨.mHz1, .idleLow, .activeToIdle, .highFirst, .activeLow⟩

/-- The clock mode to set the peripheral to. Data that changes when the clock goes back to its idle
level is taken over on the change before. -/
def mode (config : Config) : ClockMode where
  polarity := config.polarity
  capture :=
    match config.edge with
    | .activeToIdle => .first
    | .idleToActive => .second

/-- The clock rate to set the peripheral to, in hertz. -/
def frequency (config : Config) : Nat := config.speed.hertz

/-- The level of the selecting pin when the device is or is not to be selected. -/
def selectLevel (config : Config) (selected : Bool) : Bool :=
  match config.selection with
  | .activeLow => !selected
  | .activeHigh => selected

end Config

/-- A request to the hardware of the bus. -/
inductive PeripheralRequest
  | setSelect (level : Bool)
  /-- Sends bytes and receives as many. -/
  | exchange (bytes : List UInt8)
  deriving DecidableEq, Repr

/-- The reply to each request to the hardware. -/
abbrev PeripheralRequest.Reply : PeripheralRequest → Type
  | .setSelect _ => Except Fault Unit
  | .exchange _ => Except Fault (List UInt8)

/-- The interface of the hardware. -/
abbrev Peripheral : Interface := ⟨PeripheralRequest, PeripheralRequest.Reply⟩

/-- Selects or deselects the device. The state says which was asked for, even if the pin failed. -/
def select (config : Config) (selected : Bool) :
    Script Peripheral (Except BusFailure Unit × Bool) :=
  .ask (.setSelect (config.selectLevel selected)) fun reply ↦
    .done (reply.mapError .chipSelect, selected)

/-- Sends a value and gives the value received for it. -/
def transfer (config : Config) (value : Word) (width : Nat) :
    Script Peripheral (Except BusFailure Word) :=
  .ask (.exchange ((config.order.arrange value width).bytes width)) fun
    | .ok bytes => .done (.ok (config.order.arrange ((Word.ofBytes bytes).low width) width))
    | .error fault => .done (.error (.transfer fault))

/-- The bus over its hardware. It remembers whether the device is selected. -/
def handler (config : Config) : Handler Bus Peripheral Bool
  | .start, _ => select config true
  | .startAlt, _ => select config true
  | .stop, _ => select config false
  | .stopAlt, _ => select config false
  | .write value width, selected => do
    return ((← transfer config value width).map fun _ ↦ (), selected)
  | .read width, selected => do
    match ← transfer config (Word.ones width) width with
    | .ok value => return (.ready value, selected)
    | .error failure => return (.failed failure, selected)
  | .line _, selected => .done (.ok none, selected)
  | .released, selected => .done (!selected, selected)

end BusProbe.Spi
