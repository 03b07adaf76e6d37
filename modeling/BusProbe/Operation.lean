import BusProbe.Word.Bits

/-!
# Operations

A group of a line stands for a sequence of operations, and an operation for something every kind of
bus or board can be asked to do. An operation carries a value, the width of that value in bits and a
count; what an operator may give are the width and the count, and both are brought into range when
they are given.

The listing shows a sequence to the operator, one line for each operation. It shows a value cut down
to the width that is sent.

* `count_withCount_le`, `width_withWidth_bounds` — a count given by the operator is at most
  `maxCount`, and a width is between one bit and a whole word.
-/

set_option autoImplicit false
set_option relaxedAutoImplicit false

namespace BusProbe

/-- What an operation does. -/
inductive OpKind
  | write
  | read
  | start
  | stop
  | delayMicros
  | delayMillis
  | clockHigh
  | clockLow
  | dataHigh
  | dataLow
  | auxHigh
  | auxLow
  | auxInput
  | sampleVoltage
  | sampleData
  | tickClock
  /-- The other start condition of a bus that has two of them. -/
  | startAlt
  /-- The other stop condition of a bus that has two of them. -/
  | stopAlt
  /-- The meaning of a punctuation mark to which none is assigned. -/
  | nothing
  deriving DecidableEq, Repr

namespace OpKind

/-- The name that a listing gives to a kind of operation. -/
def name : OpKind → String
  | .write => "Write"
  | .read => "Read"
  | .start => "Start"
  | .stop => "Stop"
  | .delayMicros => "DelayUs"
  | .delayMillis => "DelayMs"
  | .clockHigh => "SetClkHigh"
  | .clockLow => "SetClkLow"
  | .dataHigh => "SetDatHigh"
  | .dataLow => "SetDatLow"
  | .auxHigh => "AuxHigh"
  | .auxLow => "AuxLow"
  | .auxInput => "AuxInput"
  | .sampleVoltage => "Adc"
  | .sampleData => "ReadDat"
  | .tickClock => "TickClock"
  | .startAlt => "StartAlt"
  | .stopAlt => "StopAlt"
  | .nothing => "None"

/-- Every kind of operation. -/
def all : List OpKind :=
  [.write, .read, .start, .stop, .delayMicros, .delayMillis, .clockHigh, .clockLow, .dataHigh,
    .dataLow, .auxHigh, .auxLow, .auxInput, .sampleVoltage, .sampleData, .tickClock, .startAlt,
    .stopAlt, .nothing]

end OpKind

/-- One operation. The two flags say whether the operator gave the width and the count. -/
structure Operation where
  kind : OpKind
  data : Word
  width : Nat
  count : Nat
  widthGiven : Bool
  countGiven : Bool
  deriving DecidableEq, Repr

namespace Operation

/-- The largest count of an operation. -/
def maxCount : Nat := 255

/-- The width of a value whose width the operator did not give. -/
def defaultWidth : Nat := 8

/-- A count cut down to the largest one. -/
def clampCount (count : Nat) : Nat := min count maxCount

/-- An operation done once, without a value and with the default width. -/
def ofKind (kind : OpKind) : Operation := ⟨kind, 0, defaultWidth, 1, false, false⟩

/-- The operation that writes a value once. -/
def write (data : Word) : Operation := { ofKind .write with data := data }

/-- The operation with a count given by the operator. -/
def withCount (op : Operation) (count : Nat) : Operation :=
  { op with count := clampCount count, countGiven := true }

/-- The operation with a width given by the operator. -/
def withWidth (op : Operation) (width : Nat) : Operation :=
  { op with width := Word.clampWidth width, widthGiven := true }

theorem count_withCount_le (op : Operation) (count : Nat) :
    (op.withCount count).count ≤ maxCount :=
  Nat.min_le_right _ _

theorem width_withWidth_bounds (op : Operation) (width : Nat) :
    1 ≤ (op.withWidth width).width ∧ (op.withWidth width).width ≤ Word.maxWidth := by
  simp only [withWidth, Word.clampWidth, Word.maxWidth]
  omega

/-- The value that is sent: the data cut down to the width. -/
def value (op : Operation) : Word := op.data.low op.width

/-- The line of a listing for one operation, without its line end. -/
def line (op : Operation) : String :=
  op.kind.name ++ " | data=" ++ toString op.value.toNat ++ " | bits=" ++ toString op.width ++
    " | repeat=" ++ toString op.count

/-- The listing of a sequence of operations, a line for each. -/
def listing (ops : List Operation) : String :=
  String.join (ops.map fun op ↦ op.line ++ "\n")

end Operation

end BusProbe
