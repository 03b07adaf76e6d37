import BusProbe.Proofs.Line.Layout
import BusProbe.Proofs.Operation.Courses
import BusProbe.Proofs.Text.Numerals
import BusProbe.Token.Classify

/-!
# Numbers and reads as they are typed

The items that an operator types most: a number to write, in one of three bases and with a count and
a width after it, and a read with its count. An item is classified as what it is, however it is
written, and stands for one operation (`operations_classify`), which asks for just what the item
says: the number cut down to the width, as often as the count says, with both brought into range
(`requests_operation`).
-/

set_option autoImplicit false
set_option relaxedAutoImplicit false

namespace BusProbe

/-- A number as it is written in a base: a text that denotes it, in letters of either case and with
any number of leading zeros. -/
structure Numeral (base : Nat) where
  text : List Char
  value : Nat
  text_ne_nil : text ≠ []
  denotes : Text.Denotes Text.IsDigit base text value

/-- What is written before the digits of a number in each base. -/
def Radix.mark (capital : Bool) : Radix → List Char
  | .binary => ['0', if capital then 'B' else 'b']
  | .decimal => []
  | .hexadecimal => ['0', if capital then 'X' else 'x']

/-- An item that an operator types in a group. -/
inductive Item
  /-- A number that fits into a word, with a count and a width after it, each of which may be left
  out and either of which may come first. -/
  | literal (radix : Radix) (capital : Bool) (numeral : Numeral radix.base)
      (hfits : numeral.value < UInt32.size) (count width : Option (Numeral 10))
      (widthFirst : Bool)
  /-- A read with its count. -/
  | read (count : Numeral 10)

namespace Item

/-- The suffixes of a number in the order in which they are written. -/
def suffixes (count width : Option (Numeral 10)) (widthFirst : Bool) :
    List (Char × Numeral 10) :=
  let counts := count.toList.map (':', ·)
  let widths := width.toList.map ('.', ·)
  if widthFirst then widths ++ counts else counts ++ widths

/-- The characters of some suffixes. -/
def suffixText (suffixes : List (Char × Numeral 10)) : List Char :=
  suffixes.flatMap fun suffix ↦ suffix.1 :: suffix.2.text

/-- An item as it is typed. -/
def text : Item → String
  | literal radix capital numeral _ count width widthFirst =>
    String.ofList (radix.mark capital ++
      (numeral.text ++ suffixText (suffixes count width widthFirst)))
  | read count => String.ofList ('r' :: ':' :: count.text)

/-- What an item asks of the bus: a number is cut down to its width, which is brought into the range
from one bit to a word and is eight bits if it is left out, and a count is at most 255 and is one if
it is left out. -/
def requests : Item → List BusRequest
  | literal _ _ numeral _ count width _ =>
    let bits := width.elim 8 fun bits ↦ max 1 (min bits.value 32)
    List.replicate (count.elim 1 fun count ↦ min count.value 255)
      (.write (UInt32.ofNat (numeral.value % 2 ^ bits)) bits)
  | read count => List.replicate (min count.value 255) (.read 8)

end Item

/-! ### Characters -/

namespace Numeral

variable {base : Nat}

theorem isMark_eq_false (numeral : Numeral base) : ∀ c ∈ numeral.text, Token.isMark c = false := by
  have hdigits : (Text.upperDigits ++ Text.lowerDigits).all (!Token.isMark ·) = true := by decide
  intro c hmem
  obtain ⟨digit, -, hdigit⟩ := numeral.denotes.exists_isDigit c hmem
  simpa using List.all_eq_true.mp hdigits c hdigit.mem

theorem mem_decimal (numeral : Numeral 10) : ∀ c ∈ numeral.text, c ∈ Text.upperDigits.take 10 := by
  intro c hmem
  obtain ⟨digit, hbelow, hdigit⟩ := numeral.denotes.exists_isDigit c hmem
  exact hdigit.mem_take hbelow

theorem number?_text (numeral : Numeral base) :
    Text.number? base numeral.text = some numeral.value :=
  Text.number?_of_denotes numeral.denotes numeral.text_ne_nil

end Numeral

/-! ### Classification -/

namespace Token

/-- What stands before the first mark is split off. -/
theorem splitMarks_append {body : List Char} (hbody : ∀ c ∈ body, isMark c = false)
    (rest : List Char) :
    splitMarks (body ++ rest) = (body ++ (splitMarks rest).1, (splitMarks rest).2) := by
  induction body with
  | nil => rfl
  | cons c body ih =>
    have hc : isMark c = false := hbody c List.mem_cons_self
    rw [List.cons_append, splitMarks, ih fun d hmem ↦ hbody d (List.mem_cons_of_mem c hmem)]
    simp [hc]

theorem splitMarks_mark {mark : Char} (hmark : isMark mark = true) (rest : List Char) :
    splitMarks (mark :: rest) = ([], (mark, (splitMarks rest).1) :: (splitMarks rest).2) := by
  simp [splitMarks, hmark]

theorem splitMarks_suffixText {suffixes : List (Char × Numeral 10)}
    (hsuffixes : ∀ suffix ∈ suffixes, isMark suffix.1 = true) :
    splitMarks (Item.suffixText suffixes) =
      ([], suffixes.map fun suffix ↦ (suffix.1, suffix.2.text)) := by
  induction suffixes with
  | nil => rfl
  | cons suffix suffixes ih =>
    have hrest := ih fun other hmem ↦ hsuffixes other (List.mem_cons_of_mem suffix hmem)
    have hmark := hsuffixes suffix List.mem_cons_self
    have hcons : Item.suffixText (suffix :: suffixes) =
        suffix.1 :: (suffix.2.text ++ Item.suffixText suffixes) := rfl
    rw [hcons, splitMarks_mark hmark, splitMarks_append suffix.2.isMark_eq_false, hrest,
      List.append_nil]
    rfl

/-- The amount that a suffix gives. -/
def amount (numeral : Numeral 10) : Nat := min numeral.value (UInt32.size - 1)

theorem suffixAmount?_text (numeral : Numeral 10) :
    suffixAmount? numeral.text = some (amount numeral) := by
  rw [suffixAmount?, numeral.number?_text]
  rfl

/-- Suffixes are collected in either order. -/
theorem foldlM_addSuffix? (count width : Option (Numeral 10)) (widthFirst : Bool) :
    ((Item.suffixes count width widthFirst).map fun suffix ↦ (suffix.1, suffix.2.text)).foldlM
      addSuffix? ⟨none, none⟩ = some ⟨count.map amount, width.map amount⟩ := by
  cases count <;> cases width <;> cases widthFirst <;>
    simp [Item.suffixes, addSuffix?, suffixAmount?_text]

theorem isMark_of_mem_suffixes (count width : Option (Numeral 10)) (widthFirst : Bool) :
    ∀ suffix ∈ Item.suffixes count width widthFirst, isMark suffix.1 = true := by
  cases count <;> cases width <;> cases widthFirst <;> simp [Item.suffixes, isMark]

/-- Digits and suffixes are a number with these suffixes, if the number fits into a word. -/
theorem numeral?_text (radix : Radix) (numeral : Numeral radix.base)
    (hfits : numeral.value < UInt32.size) (count width : Option (Numeral 10))
    (widthFirst : Bool) :
    numeral? radix (numeral.text ++ Item.suffixText (Item.suffixes count width widthFirst)) =
      some (.number radix (UInt32.ofNat numeral.value) ⟨count.map amount, width.map amount⟩) := by
  have hsplit := splitMarks_append numeral.isMark_eq_false
    (Item.suffixText (Item.suffixes count width widthFirst))
  rw [splitMarks_suffixText (isMark_of_mem_suffixes count width widthFirst),
    List.append_nil] at hsplit
  simp only [numeral?, hsplit, numeral.number?_text, foldlM_addSuffix?, Option.bind_eq_bind,
    Option.bind_some, if_pos hfits]

end Token

namespace Item

/-- The characters of suffixes. -/
def suffixChars : List Char := ':' :: '.' :: Text.upperDigits.take 10

/-- The characters of items. -/
def chars : List Char :=
  'r' :: 'x' :: 'X' :: suffixChars ++ (Text.upperDigits ++ Text.lowerDigits)

theorem mem_suffixText {count width : Option (Numeral 10)} {widthFirst : Bool} :
    ∀ c ∈ suffixText (suffixes count width widthFirst), c ∈ suffixChars := by
  intro c hmem
  obtain ⟨suffix, hsuffix, hmem⟩ := List.mem_flatMap.mp hmem
  rcases List.mem_cons.mp hmem with rfl | hmem
  · have hmark := Token.isMark_of_mem_suffixes count width widthFirst suffix hsuffix
    simp only [Token.isMark, Bool.or_eq_true, beq_iff_eq] at hmark
    rcases hmark with hmark | hmark <;> rw [hmark] <;> decide
  · exact List.mem_cons_of_mem _ (List.mem_cons_of_mem _ (suffix.2.mem_decimal c hmem))

theorem mem_mark {radix : Radix} {capital : Bool} : ∀ c ∈ radix.mark capital, c ∈ chars := by
  have hmarks : ((radix.mark capital).all fun c ↦ decide (c ∈ chars)) = true := by
    cases radix <;> cases capital <;> decide
  exact fun c hmem ↦ of_decide_eq_true (List.all_eq_true.mp hmarks c hmem)

theorem mem_chars_of_mem_suffixChars {c : Char} (hmem : c ∈ suffixChars) : c ∈ chars :=
  List.mem_append_left _ (List.mem_cons_of_mem _ (List.mem_cons_of_mem _ (List.mem_cons_of_mem _
    hmem)))

theorem mem_text (item : Item) : ∀ c ∈ item.text.toList, c ∈ chars := by
  cases item with
  | literal radix capital numeral hfits count width widthFirst =>
    intro c hmem
    rw [text, String.toList_ofList, List.mem_append, List.mem_append] at hmem
    rcases hmem with hmem | hmem | hmem
    · exact mem_mark c hmem
    · obtain ⟨digit, -, hdigit⟩ := numeral.denotes.exists_isDigit c hmem
      exact List.mem_append_right _ hdigit.mem
    · exact mem_chars_of_mem_suffixChars (mem_suffixText c hmem)
  | read count =>
    intro c hmem
    rw [text, String.toList_ofList, List.mem_cons, List.mem_cons] at hmem
    rcases hmem with rfl | rfl | hmem
    · decide
    · decide
    · refine mem_chars_of_mem_suffixChars ?_
      exact List.mem_cons_of_mem _ (List.mem_cons_of_mem _ (count.mem_decimal c hmem))

theorem text_ne_empty (item : Item) : item.text ≠ "" := by
  cases item with
  | literal radix capital numeral hfits count width widthFirst =>
    simp [text, String.ofList_eq_empty_iff, numeral.text_ne_nil]
  | read count => simp [text, String.ofList_eq_empty_iff]

/-- An item is a word of a group. -/
theorem isWord_text (item : Item) (opener : Opener) : Line.IsWord opener item.text := by
  have hchars : chars.all (Line.isWordChar opener) = true := by
    cases opener <;> decide
  exact ⟨item.text_ne_empty, fun c hmem ↦ List.all_eq_true.mp hchars c (item.mem_text c hmem)⟩

/-- Any items can be typed in a group. -/
theorem exists_laid (opener : Opener) (items : List Item) :
    ∃ inside, Line.Laid opener (items.map text) inside false := by
  refine Line.Laid.start.exists_append fun token hmem ↦ ?_
  obtain ⟨item, -, rfl⟩ := List.mem_map.mp hmem
  exact Or.inr (item.isWord_text opener)

end Item

namespace Token

theorem quotedLiteral?_eq_none {cs : List Char} (hcs : ∀ c ∈ cs, Line.isQuote c = false) :
    quotedLiteral? cs = none := by
  cases cs with
  | nil => rfl
  | cons c rest =>
    have hquote : ¬ (c = '\x27' ∨ c = '"') := by
      simpa [Line.isQuote] using hcs c List.mem_cons_self
    rw [quotedLiteral?, if_neg fun hand ↦ hquote hand.1]

/-- Where there is no letter, there is no mark of a base. -/
theorem number?_decimal {cs : List Char} (hcs : ∀ c ∈ cs, c ∈ Item.suffixChars) :
    number? cs = numeral? .decimal cs := by
  unfold number?
  split
  · exact absurd (hcs 'x' (by simp)) (by decide)
  · exact absurd (hcs 'X' (by simp)) (by decide)
  · exact absurd (hcs 'b' (by simp)) (by decide)
  · exact absurd (hcs 'B' (by simp)) (by decide)
  · rfl

/-- The mark of a base says how the number is read. -/
theorem number?_mark (radix : Radix) (capital : Bool) (numeral : Numeral radix.base)
    (count width : Option (Numeral 10)) (widthFirst : Bool) :
    number? (radix.mark capital ++
        (numeral.text ++ Item.suffixText (Item.suffixes count width widthFirst))) =
      numeral? radix
        (numeral.text ++ Item.suffixText (Item.suffixes count width widthFirst)) := by
  cases radix with
  | binary => cases capital <;> rfl
  | hexadecimal => cases capital <;> rfl
  | decimal =>
    refine number?_decimal fun c hmem ↦ ?_
    rw [Radix.mark, List.nil_append, List.mem_append] at hmem
    rcases hmem with hmem | hmem
    · exact List.mem_cons_of_mem _ (List.mem_cons_of_mem _ (numeral.mem_decimal c hmem))
    · exact Item.mem_suffixText c hmem

theorem number?_symbol (digits : List Char) : number? ('r' :: ':' :: digits) = none := by
  have hsplit : splitMarks ('r' :: ':' :: digits) =
      (['r'], (':', (splitMarks digits).1) :: (splitMarks digits).2) := rfl
  have hbody : Text.number? Radix.decimal.base ['r'] = none := by decide
  have hdecimal : number? ('r' :: ':' :: digits) = numeral? .decimal ('r' :: ':' :: digits) := rfl
  rw [hdecimal, numeral?, hsplit]
  simp [hbody]

end Token

namespace Item

/-- The class of an item. -/
def token : Item → Token
  | literal radix _ numeral _ count width _ =>
    .number radix (UInt32.ofNat numeral.value) ⟨count.map Token.amount, width.map Token.amount⟩
  | read count => .counted .read (Operation.clampCount count.value)

/-- An item is classified as what it is, however it is written. -/
theorem classify_text (item : Item) : Token.classify item.text = item.token := by
  have hquoted : Token.quotedLiteral? item.text.toList = none := by
    refine Token.quotedLiteral?_eq_none fun c hmem ↦ ?_
    exact (Line.isWordChar_iff.mp ((item.isWord_text .bracket).2 c hmem)).1
  cases item with
  | literal radix capital numeral hfits count width widthFirst =>
    have hnumber : Token.number? (literal radix capital numeral hfits count width
        widthFirst).text.toList = some (token (.literal radix capital numeral hfits count width
          widthFirst)) := by
      rw [text, String.toList_ofList, Token.number?_mark, Token.numeral?_text _ _ hfits]
      rfl
    simp [Token.classify, Token.rules, hquoted, hnumber]
  | read count =>
    have hnumber : Token.number? (read count).text.toList = none := by
      rw [text, String.toList_ofList, Token.number?_symbol]
    have hcounted : Token.counted? (read count).text.toList = some (token (.read count)) := by
      rw [text, String.toList_ofList, Token.counted?, count.number?_text]
      rfl
    simp [Token.classify, Token.rules, hquoted, hnumber, hcounted]

/-- The operation that an item stands for. -/
def operation : Item → Operation
  | literal _ _ numeral _ count width _ =>
    Token.withSuffixes (Operation.write (UInt32.ofNat numeral.value))
      ⟨count.map Token.amount, width.map Token.amount⟩
  | read count => (Operation.ofKind .read).withCount (Operation.clampCount count.value)

theorem operations_classify (item : Item) :
    (Token.classify item.text).operations = [item.operation] := by
  rw [classify_text]
  cases item <;> rfl

/-- A count beyond what a suffix can give is cut down all the same. -/
theorem clampCount_amount (count : Numeral 10) :
    Operation.clampCount (Token.amount count) = min count.value 255 := by
  simp only [Operation.clampCount, Operation.maxCount, Token.amount, UInt32.size]
  omega

theorem clampWidth_amount (width : Numeral 10) :
    Word.clampWidth (Token.amount width) = max 1 (min width.value 32) := by
  simp only [Word.clampWidth, Word.maxWidth, Token.amount, UInt32.size]
  omega

/-- What suffixes make of the write of a value. -/
theorem withSuffixes_write (data : Word) (count width : Option (Numeral 10)) :
    Token.withSuffixes (Operation.write data) ⟨count.map Token.amount, width.map Token.amount⟩ =
      ⟨.write, data, width.elim 8 fun bits ↦ max 1 (min bits.value 32),
        count.elim 1 fun count ↦ min count.value 255, width.isSome, count.isSome⟩ := by
  cases count <;> cases width <;>
    simp [Token.withSuffixes, Operation.write, Operation.ofKind, Operation.defaultWidth,
      Operation.withCount, Operation.withWidth, clampCount_amount, clampWidth_amount]

/-- The operation of an item asks for what the item says. -/
theorem requests_operation (item : Item) : item.operation.requests = item.requests := by
  cases item with
  | literal radix capital numeral hfits count width widthFirst =>
    have hword : (UInt32.ofNat numeral.value).toNat = numeral.value := by
      rw [UInt32.toNat_ofNat', Nat.mod_eq_of_lt hfits]
    rw [operation, withSuffixes_write, Operation.requests_eq_replicate rfl, Operation.value,
      Word.low, hword]
    rfl
  | read count =>
    have hcount : (operation (.read count)).count = min count.value 255 := by
      simp [operation, Operation.withCount, Operation.clampCount, Operation.maxCount]
    rw [Operation.requests_eq_replicate rfl, hcount]
    rfl

end Item

end BusProbe
