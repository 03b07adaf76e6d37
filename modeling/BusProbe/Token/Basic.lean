import BusProbe.Operation

/-!
# Tokens

The classes of tokens that an operator may type in a group, and the operations each of them stands
for. Literals are written to the bus; symbols name operations.

* `operations` — the operations of a token.
-/

set_option autoImplicit false
set_option relaxedAutoImplicit false

namespace BusProbe

/-- A letter that names an operation and may be repeated. -/
inductive Symbol
  | read
  | delayMicros
  | delayMillis
  | start
  | stop
  | auxHigh
  | auxLow
  deriving DecidableEq, Repr

namespace Symbol

/-- The symbol that a letter is. -/
def ofChar? : Char → Option Symbol
  | 'r' => some .read
  | 'd' => some .delayMicros
  | 'D' => some .delayMillis
  | 's' => some .start
  | 'S' => some .stop
  | 'h' => some .auxHigh
  | 'l' => some .auxLow
  | _ => none

/-- The operation that a symbol names. -/
def kind : Symbol → OpKind
  | .read => .read
  | .delayMicros => .delayMicros
  | .delayMillis => .delayMillis
  | .start => .start
  | .stop => .stop
  | .auxHigh => .auxHigh
  | .auxLow => .auxLow

end Symbol

/-- The operation that a single character names: a symbol or a punctuation mark. -/
def OpKind.ofChar (c : Char) : OpKind :=
  match Symbol.ofChar? c with
  | some symbol => symbol.kind
  | none =>
    match c with
    | '^' => .tickClock
    | '/' => .clockHigh
    | '\\' => .clockLow
    | '-' => .dataHigh
    | '_' => .dataLow
    | '.' => .sampleData
    | '@' => .auxInput
    | '&' => .delayMicros
    | '%' => .delayMillis
    | '~' => .sampleVoltage
    | _ => .nothing

/-- The base in which a number is written. -/
inductive Radix
  | binary
  | decimal
  | hexadecimal
  deriving DecidableEq, Repr

/-- The number of digits of a base. -/
def Radix.base : Radix → Nat
  | .binary => 2
  | .decimal => 10
  | .hexadecimal => 16

/-- What may follow a number: a count and a width, each at most once and in either order. -/
structure Suffixes where
  count : Option Nat
  width : Option Nat
  deriving DecidableEq, Repr

/-- A classified token. -/
inductive Token
  /-- One ASCII character between single quotes. -/
  | character (byte : UInt8)
  /-- Any other text between two equal quotes. -/
  | literal (content : String)
  | number (radix : Radix) (value : Word) (suffixes : Suffixes)
  /-- A symbol with a count, such as `r:8`. -/
  | counted (symbol : Symbol) (count : Nat)
  /-- The same symbol several times, such as `rrrr`. -/
  | run (symbol : Symbol) (count : Nat)
  /-- A symbol or punctuation mark alone. -/
  | single (c : Char)
  | unrecognized
  deriving DecidableEq, Repr

namespace Token

/-- The write of one byte. -/
def writeByte (byte : UInt8) : Operation := Operation.write byte.toUInt32

/-- The operation with the count and the width that suffixes give. -/
def withSuffixes (op : Operation) (suffixes : Suffixes) : Operation :=
  let counted := suffixes.count.elim op op.withCount
  suffixes.width.elim counted counted.withWidth

/-- The operations that a token stands for. A literal is written byte by byte in its UTF-8 form. -/
def operations : Token → List Operation
  | .character byte => [writeByte byte]
  | .literal content => content.toUTF8.toList.map writeByte
  | .number _ value suffixes => [withSuffixes (Operation.write value) suffixes]
  | .counted symbol count | .run symbol count => [(Operation.ofKind symbol.kind).withCount count]
  | .single c => [Operation.ofKind (OpKind.ofChar c)]
  | .unrecognized => []

end Token

end BusProbe
