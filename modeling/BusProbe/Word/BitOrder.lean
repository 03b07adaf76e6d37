import BusProbe.Word.Bits

/-!
# Bit order

Which end of a value a bus shifts out first. A bus whose hardware always starts with the highest bit
carries values of the other order by turning their bits round before sending and after receiving.
-/

set_option autoImplicit false
set_option relaxedAutoImplicit false

namespace BusProbe

/-- The end of a value that is shifted out first. -/
inductive BitOrder
  | highFirst
  | lowFirst
  deriving DecidableEq, Repr

/-- Turns a value of a width into the value whose highest-first bits are those on the wire, and
back. With the highest bit first nothing changes, not even the bits above the width; with the
lowest first exactly the bits of the width are kept, in the other direction. -/
def BitOrder.arrange (order : BitOrder) (value : Word) (width : Nat) : Word :=
  match order with
  | .highFirst => value
  | .lowFirst => Word.ofBits (value.bits (Word.clampWidth width)).reverse

end BusProbe
