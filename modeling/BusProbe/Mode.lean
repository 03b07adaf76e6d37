/-!
# Modes

A mode names the bus that the probe is attached to. In the first of them every pin is released and
no instruction can be carried out. An operator may write the name of a mode in letters of either
case and may leave out a hyphen.

* `ofName?_name` — every mode is found by its own name.
-/

set_option autoImplicit false
set_option relaxedAutoImplicit false

namespace BusProbe

/-- What the probe is attached to. -/
inductive Mode
  /-- Every pin is released; nothing can be carried out. -/
  | highImpedance
  | oneWire
  | uart
  | halfDuplexUart
  | i2c
  | spi
  | twoWire
  | threeWire
  | led
  deriving DecidableEq, Repr

namespace Mode

/-- Every mode, in the order in which names are looked up. -/
def all : List Mode :=
  [.highImpedance, .oneWire, .uart, .halfDuplexUart, .i2c, .spi, .twoWire, .threeWire, .led]

/-- The name under which an operator knows a mode. -/
def name : Mode → String
  | .highImpedance => "HiZ"
  | .oneWire => "1-WIRE"
  | .uart => "UART"
  | .halfDuplexUart => "HDUART"
  | .i2c => "I2C"
  | .spi => "SPI"
  | .twoWire => "2WIRE"
  | .threeWire => "3WIRE"
  | .led => "LED"

/-- The characters of a name with the difference between upper and lower case letters removed. -/
def foldCase (name : String) : List Char := name.toList.map Char.toLower

/-- Whether a text names a mode. -/
def isNamed (mode : Mode) (text : String) : Bool :=
  let name := foldCase mode.name
  name == foldCase text || name.filter (· != '-') == foldCase text

/-- The mode that a text names. -/
def ofName? (text : String) : Option Mode := all.find? (isNamed · text)

theorem ofName?_name (mode : Mode) : ofName? mode.name = some mode := by
  cases mode <;> decide +kernel

end Mode

end BusProbe
