import BusProbe.Token.Basic
import BusProbe.Text.Digits

/-!
# Classification of tokens

Each class of tokens has a rule that recognizes its texts and gives their meaning. The rules are
tried in a fixed order and the first that applies decides; a text to which none applies is
unrecognized.

* `classify` — the class of a text and its meaning.
-/

set_option autoImplicit false
set_option relaxedAutoImplicit false

namespace BusProbe.Token

/-- The ASCII punctuation marks. -/
def isPunctuation (c : Char) : Bool :=
  let n := c.toNat
  (33 ≤ n && n ≤ 47) || (58 ≤ n && n ≤ 64) || (91 ≤ n && n ≤ 96) || (123 ≤ n && n ≤ 126)

/-- Text between two equal quotes. A single ASCII character between single quotes is a class of its
own. -/
def quotedLiteral? : List Char → Option Token
  | quote :: rest =>
    if (quote = '\x27' ∨ quote = '"') ∧ rest.getLast? = some quote then
      let content := rest.dropLast
      match quote, content with
      | '\x27', [c] =>
        if c.toNat < 128 then some (.character c.toUInt8) else some (.literal c.toString)
      | _, _ => some (.literal (String.ofList content))
    else none
  | [] => none

/-- The characters that begin a suffix of a number. -/
def isMark (c : Char) : Bool := c == ':' || c == '.'

/-- Splits a text at its marks: what stands before the first of them, and each mark with what stands
between it and the next. -/
def splitMarks : List Char → List Char × List (Char × List Char)
  | [] => ([], [])
  | c :: rest =>
    let (body, marks) := splitMarks rest
    if isMark c then ([], (c, body) :: marks) else (c :: body, marks)

/-- The number in a suffix. Numbers beyond a word count as the largest word. -/
def suffixAmount? (digits : List Char) : Option Nat :=
  (Text.number? 10 digits).map (min · (UInt32.size - 1))

/-- One suffix more: a colon gives a count and a point gives a width, and neither is given twice. -/
def addSuffix? (suffixes : Suffixes) (mark : Char × List Char) : Option Suffixes := do
  let amount ← suffixAmount? mark.2
  if mark.1 = ':' then
    if suffixes.count.isSome then none else some { suffixes with count := some amount }
  else
    if suffixes.width.isSome then none else some { suffixes with width := some amount }

/-- A number that fits into a word, with its suffixes. -/
def numeral? (radix : Radix) (cs : List Char) : Option Token := do
  let (body, marks) := splitMarks cs
  let value ← Text.number? radix.base body
  if value < UInt32.size then
    let suffixes ← marks.foldlM addSuffix? ⟨none, none⟩
    some (.number radix (UInt32.ofNat value) suffixes)
  else none

/-- A number in hexadecimal, binary or decimal form. -/
def number? : List Char → Option Token
  | '0' :: 'x' :: rest | '0' :: 'X' :: rest => numeral? .hexadecimal rest
  | '0' :: 'b' :: rest | '0' :: 'B' :: rest => numeral? .binary rest
  | cs => numeral? .decimal cs

/-- A symbol, a colon and a count. -/
def counted? : List Char → Option Token
  | c :: ':' :: digits => do
    let symbol ← Symbol.ofChar? c
    let count ← Text.number? 10 digits
    some (.counted symbol (Operation.clampCount count))
  | _ => none

/-- A symbol written at least twice. How often is counted in a word. -/
def run? : List Char → Option Token
  | c :: rest => do
    let symbol ← Symbol.ofChar? c
    if rest ≠ [] ∧ rest.all (· == c) then
      some (.run symbol (Operation.clampCount ((rest.length + 1) % UInt32.size)))
    else none
  | [] => none

/-- A symbol or a punctuation mark alone. -/
def single? : List Char → Option Token
  | [c] => if (Symbol.ofChar? c).isSome || isPunctuation c then some (.single c) else none
  | _ => none

/-- The rules in the order in which they are tried. -/
def rules : List (List Char → Option Token) := [quotedLiteral?, number?, counted?, run?, single?]

/-- The class of a text and its meaning. -/
def classify (text : String) : Token :=
  (rules.findSome? fun rule ↦ rule text.toList).getD .unrecognized

end BusProbe.Token
