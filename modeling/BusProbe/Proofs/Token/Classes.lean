import BusProbe.Proofs.Token.Items

/-!
# The classes of tokens

The texts that mean something fall into seven classes. What the texts of each class are and what
they mean is said here without the functions that recognize them (`Reads`). A text is in one class
at most, since its first two characters decide which it could be (`Reads.shape_eq`), and it is
classified as what it reads as there; every other text is unrecognized. So it makes no difference in
which order the rules of the classes are tried (`reads_iff_classify`).
-/

set_option autoImplicit false
set_option relaxedAutoImplicit false

namespace BusProbe

/-- The letters that are symbols. -/
def Symbol.letters : List (Char × Symbol) :=
  [('r', .read), ('d', .delayMicros), ('D', .delayMillis), ('s', .start), ('S', .stop),
    ('h', .auxHigh), ('l', .auxLow)]

theorem Symbol.ofChar?_eq_some_iff {c : Char} {symbol : Symbol} :
    ofChar? c = some symbol ↔ (c, symbol) ∈ letters := by
  constructor
  · intro hsymbol
    unfold ofChar? at hsymbol
    split at hsymbol <;> cases hsymbol <;> decide
  · intro hmem
    have hletters : ∀ letter ∈ letters, ofChar? letter.1 = some letter.2 := by decide
    exact hletters (c, symbol) hmem

namespace Token

/-- The classes of texts. -/
inductive TextClass
  | quoted
  | number (radix : Radix)
  | counted
  | run
  | single
  deriving DecidableEq, Repr

/-- The ASCII punctuation marks, written out. -/
def punctuation : List Char := "!\x22#$%&\x27()*+,-./:;<=>?@[\\]^_\x60\x7b|\x7d~".toList

theorem isPunctuation_iff {c : Char} : isPunctuation c = true ↔ c ∈ punctuation := by
  constructor
  · intro hmark
    have hmarks : ∀ n < 127, isPunctuation (Char.ofNat n) = true → Char.ofNat n ∈ punctuation := by
      decide +kernel
    have hlt : c.toNat < 127 := by
      simp [isPunctuation] at hmark
      omega
    simpa using hmarks c.toNat hlt (by simpa using hmark)
  · have hmarks : punctuation.all isPunctuation = true := by decide +kernel
    exact List.all_eq_true.mp hmarks c

/-- How the texts of each class read. -/
inductive Reads : TextClass → List Char → Token → Prop
  /-- An ASCII character between single quotes is a byte. -/
  | character (c : Char) (hascii : c.toNat < 128) :
      Reads .quoted ['\x27', c, '\x27'] (.character c.toUInt8)
  /-- Anything else between two equal quotes is a text. -/
  | literal (quote : Char) (content : List Char) (hquote : quote = '\x27' ∨ quote = '"')
      (hother : ∀ c, quote = '\x27' → content = [c] → 128 ≤ c.toNat) :
      Reads .quoted (quote :: (content ++ [quote])) (.literal (String.ofList content))
  /-- A number below 2³² in digits of its base has at most one count and one width behind it, in
  either order. Those beyond the largest word are cut down to it. -/
  | number (radix : Radix) (capital : Bool) (numeral : Numeral radix.base)
      (hfits : numeral.value < 2 ^ 32) (count width : Option (Numeral 10)) (widthFirst : Bool) :
      Reads (.number radix)
        (radix.mark capital ++
          (numeral.text ++ Item.suffixText (Item.suffixes count width widthFirst)))
        (.number radix (UInt32.ofNat numeral.value)
          ⟨count.map fun count ↦ min count.value (2 ^ 32 - 1),
            width.map fun width ↦ min width.value (2 ^ 32 - 1)⟩)
  /-- A symbol has a count of at most 255 behind a colon. -/
  | counted (letter : Char) (symbol : Symbol) (hletter : (letter, symbol) ∈ Symbol.letters)
      (count : Numeral 10) :
      Reads .counted (letter :: ':' :: count.text) (.counted symbol (min count.value 255))
  /-- A symbol that is repeated counts as often as it stands there, at most 255 times. How often it
  stands there is told in a word, which is enough for texts shorter than 2³² characters. -/
  | run (letter : Char) (symbol : Symbol) (hletter : (letter, symbol) ∈ Symbol.letters)
      (times : Nat) (htimes : 2 ≤ times) :
      Reads .run (List.replicate times letter) (.run symbol (min (times % 2 ^ 32) 255))
  /-- A symbol or a punctuation mark stands alone. -/
  | single (c : Char) (hc : c ∈ Symbol.letters.map Prod.fst ++ punctuation) :
      Reads .single [c] (.single c)

/-! ### The class that a text could be in -/

/-- The base that the second character of a number could mark. -/
def markedBase (next : Char) : Radix :=
  if next = 'x' ∨ next = 'X' then .hexadecimal
  else if next = 'b' ∨ next = 'B' then .binary
  else .decimal

/-- The only class that a text could be in, as its first two characters say. -/
def shape : List Char → TextClass
  | [] => .single
  | [c] => if c.isDigit then .number .decimal else .single
  | c :: next :: _ =>
    if c = '\x27' ∨ c = '"' then .quoted
    else if c.isDigit then .number (markedBase next)
    else if next = ':' then .counted
    else .run

/-- A number is decimal if it has no letters. -/
theorem shape_decimal {c : Char} {rest : List Char} (hc : c ∈ Text.upperDigits.take 10)
    (hrest : ∀ other ∈ rest, other ∈ Item.suffixChars) :
    shape (c :: rest) = .number .decimal := by
  have hdigits : (Text.upperDigits.take 10).all (fun digit ↦
      decide (digit.isDigit = true ∧ ¬ (digit = '\x27' ∨ digit = '"'))) = true := by
    decide
  have hmarks : Item.suffixChars.all (fun other ↦ decide (markedBase other = .decimal)) = true := by
    decide
  obtain ⟨hdigit, hquote⟩ := of_decide_eq_true (List.all_eq_true.mp hdigits c hc)
  cases rest with
  | nil => rw [shape, if_pos hdigit]
  | cons next rest =>
    have hnext := of_decide_eq_true
      (List.all_eq_true.mp hmarks next (hrest next List.mem_cons_self))
    rw [shape, if_neg hquote, if_pos hdigit, hnext]

/-- A symbol is neither a quote nor a digit. -/
theorem shape_symbol {letter : Char} {symbol : Symbol} (hletter : (letter, symbol) ∈ Symbol.letters)
    (next : Char) (rest : List Char) :
    shape (letter :: next :: rest) = if next = ':' then .counted else .run := by
  have hletters : ∀ letter ∈ Symbol.letters,
      ¬ (letter.1 = '\x27' ∨ letter.1 = '"') ∧ ¬ letter.1.isDigit = true := by
    decide
  obtain ⟨hquote, hdigit⟩ := hletters _ hletter
  rw [shape, if_neg hquote, if_neg hdigit]

theorem number_text_shape (radix : Radix) (capital : Bool) (numeral : Numeral radix.base)
    (count width : Option (Numeral 10)) (widthFirst : Bool) :
    shape (radix.mark capital ++
      (numeral.text ++ Item.suffixText (Item.suffixes count width widthFirst))) =
        .number radix := by
  cases radix with
  | binary => cases capital <;> rfl
  | hexadecimal => cases capital <;> rfl
  | decimal =>
    obtain ⟨c, rest, htext⟩ := List.exists_cons_of_ne_nil numeral.text_ne_nil
    have hdigits := numeral.mem_decimal
    rw [htext] at hdigits ⊢
    refine shape_decimal (hdigits c List.mem_cons_self) fun other hmem ↦ ?_
    rcases List.mem_append.mp hmem with hmem | hmem
    · exact List.mem_cons_of_mem _ (List.mem_cons_of_mem _
        (hdigits other (List.mem_cons_of_mem c hmem)))
    · exact Item.mem_suffixText other hmem

/-- The first characters of a text decide which class it is in. -/
theorem Reads.shape_eq {kind : TextClass} {cs : List Char} {token : Token}
    (hreads : Reads kind cs token) : shape cs = kind := by
  cases hreads with
  | character c hascii => rfl
  | literal quote content hquote hother =>
    cases content <;> exact if_pos hquote
  | number radix capital numeral hfits count width widthFirst =>
    exact number_text_shape radix capital numeral count width widthFirst
  | counted letter symbol hletter count => exact shape_symbol hletter ':' count.text
  | run letter symbol hletter times htimes =>
    obtain ⟨more, rfl⟩ := Nat.exists_eq_add_of_le' htimes
    have hcolon : ∀ letter ∈ Symbol.letters, letter.1 ≠ ':' := by decide
    exact (shape_symbol hletter letter (List.replicate more letter)).trans
      (if_neg (hcolon _ hletter))
  | single c hc =>
    have hsingles : (Symbol.letters.map Prod.fst ++ punctuation).all (fun c ↦
        decide (shape [c] = .single)) = true := by
      decide +kernel
    exact of_decide_eq_true (List.all_eq_true.mp hsingles c hc)

/-! ### Quotes -/

/-- Text between two equal quotes is recognized. -/
theorem quotedLiteral?_concat {quote : Char} (hquote : quote = '\x27' ∨ quote = '"')
    (content : List Char) {token : Token} :
    quotedLiteral? (quote :: (content ++ [quote])) = some token →
      Reads .quoted (quote :: (content ++ [quote])) token := by
  have hends : (quote = '\x27' ∨ quote = '"') ∧
      (content ++ [quote]).getLast? = some quote := ⟨hquote, List.getLast?_concat⟩
  rw [quotedLiteral?, if_pos hends, List.dropLast_concat]
  intro htoken
  dsimp only at htoken
  split at htoken
  · rename_i c
    split_ifs at htoken with hascii <;> obtain rfl := Option.some.inj htoken
    · exact .character c hascii
    · refine .literal _ [c] (.inl rfl) fun other _ hother ↦ ?_
      obtain ⟨rfl, -⟩ := List.cons.inj hother
      exact Nat.le_of_not_lt hascii
  · rename_i hother
    obtain rfl := Option.some.inj htoken
    exact .literal quote content hquote fun c hsingle hc ↦ (hother c hsingle hc).elim

/-- Just the quoted texts are recognized. -/
theorem quotedLiteral?_eq_some_iff {cs : List Char} {token : Token} :
    quotedLiteral? cs = some token ↔ Reads .quoted cs token := by
  constructor
  · intro htoken
    cases cs with
    | nil => cases htoken
    | cons quote rest =>
      by_cases hends : (quote = '\x27' ∨ quote = '"') ∧ rest.getLast? = some quote
      · obtain ⟨content, rfl⟩ := List.getLast?_eq_some_iff.mp hends.2
        exact quotedLiteral?_concat hends.1 content htoken
      · rw [quotedLiteral?, if_neg hends] at htoken
        cases htoken
  · intro hreads
    cases hreads with
    | character c hascii => simp [quotedLiteral?, hascii]
    | literal quote content hquote hother =>
      have hends : (quote = '\x27' ∨ quote = '"') ∧
          (content ++ [quote]).getLast? = some quote := ⟨hquote, List.getLast?_concat⟩
      rw [quotedLiteral?, if_pos hends, List.dropLast_concat]
      dsimp only
      split
      · rename_i c
        rw [if_neg (Nat.not_lt_of_le (hother c rfl rfl))]
        rfl
      · rfl

/-! ### Numbers -/

/-- What stands before the first mark, each mark and what stands behind it make up a text. -/
theorem splitMarks_join (cs : List Char) :
    (splitMarks cs).1 ++ (splitMarks cs).2.flatMap (fun mark ↦ mark.1 :: mark.2) = cs := by
  induction cs with
  | nil => rfl
  | cons c rest ih =>
    by_cases hmark : isMark c = true <;> simpa [splitMarks, hmark] using ih

theorem isMark_of_mem_splitMarks {cs : List Char} :
    ∀ mark ∈ (splitMarks cs).2, isMark mark.1 = true := by
  induction cs with
  | nil => exact fun mark hmem ↦ absurd hmem List.not_mem_nil
  | cons c rest ih =>
    by_cases hmark : isMark c = true <;> simpa [splitMarks, hmark] using ih

/-- A number that is read in a base is written in it. -/
theorem exists_numeral {base value : Nat} {cs : List Char} (hbase : base ≤ 16)
    (hread : Text.number? base cs = some value) :
    ∃ numeral : Numeral base, numeral.text = cs ∧ numeral.value = value := by
  obtain ⟨hne, hdenotes⟩ := (Text.number?_eq_some_iff hbase).mp hread
  exact ⟨⟨cs, value, hne, hdenotes⟩, rfl, rfl⟩

/-- A suffix that is accepted gives an amount that none before it gave. -/
theorem addSuffix?_cases {given next : Suffixes} {mark : Char × List Char}
    (hmark : isMark mark.1 = true) (hnext : addSuffix? given mark = some next) :
    ∃ numeral : Numeral 10,
      (mark = (':', numeral.text) ∧ given.count = none ∧
        next = ⟨some (amount numeral), given.width⟩) ∨
      (mark = ('.', numeral.text) ∧ given.width = none ∧
        next = ⟨given.count, some (amount numeral)⟩) := by
  obtain ⟨mark, digits⟩ := mark
  obtain ⟨given, hgiven, hslot⟩ := Option.bind_eq_some_iff.mp hnext
  obtain ⟨value, hvalue, rfl⟩ := Option.map_eq_some_iff.mp hgiven
  obtain ⟨numeral, rfl, rfl⟩ := exists_numeral (by decide) hvalue
  refine ⟨numeral, ?_⟩
  dsimp only at hmark hslot
  by_cases hcolon : mark = ':'
  · subst hcolon
    rw [if_pos rfl] at hslot
    split_ifs at hslot with hcount
    exact Or.inl ⟨rfl, by simpa using hcount, (Option.some.inj hslot).symm⟩
  · obtain rfl : mark = '.' := by simpa [isMark, hcolon] using hmark
    rw [if_neg hcolon] at hslot
    split_ifs at hslot with hwidth
    exact Or.inr ⟨rfl, by simpa using hwidth, (Option.some.inj hslot).symm⟩

/-- Suffixes that are accepted are at most one count and one width, in either order: once both have
been given, no third suffix finds its place free. -/
theorem exists_suffixes {marks : List (Char × List Char)} {given : Suffixes}
    (hmarks : ∀ mark ∈ marks, isMark mark.1 = true)
    (hgiven : marks.foldlM addSuffix? ⟨none, none⟩ = some given) :
    ∃ count width widthFirst,
      marks = (Item.suffixes count width widthFirst).map (fun suffix ↦ (suffix.1, suffix.2.text)) ∧
        given = ⟨count.map amount, width.map amount⟩ := by
  cases marks with
  | nil =>
    obtain rfl := Option.some.inj hgiven
    exact ⟨none, none, false, rfl, rfl⟩
  | cons first marks =>
    obtain ⟨hfirst, hmarks⟩ := List.forall_mem_cons.mp hmarks
    obtain ⟨one, hone, hgiven⟩ := Option.bind_eq_some_iff.mp hgiven
    cases marks with
    | nil =>
      obtain rfl := Option.some.inj hgiven
      obtain ⟨numeral, ⟨rfl, -, rfl⟩ | ⟨rfl, -, rfl⟩⟩ := addSuffix?_cases hfirst hone
      · exact ⟨some numeral, none, false, rfl, rfl⟩
      · exact ⟨none, some numeral, false, rfl, rfl⟩
    | cons second marks =>
      obtain ⟨hsecond, hmarks⟩ := List.forall_mem_cons.mp hmarks
      obtain ⟨two, htwo, hgiven⟩ := Option.bind_eq_some_iff.mp hgiven
      have hlast : ∀ count width, two = ⟨some count, some width⟩ → marks = [] ∧ given = two := by
        rintro count width rfl
        cases marks with
        | nil => exact ⟨rfl, (Option.some.inj hgiven).symm⟩
        | cons third marks =>
          obtain ⟨three, hthree, -⟩ := Option.bind_eq_some_iff.mp hgiven
          obtain ⟨_, ⟨-, hnone, -⟩ | ⟨-, hnone, -⟩⟩ :=
            addSuffix?_cases (hmarks third List.mem_cons_self) hthree <;> cases hnone
      obtain ⟨numeral, ⟨rfl, -, rfl⟩ | ⟨rfl, -, rfl⟩⟩ := addSuffix?_cases hfirst hone <;>
        obtain ⟨other, ⟨rfl, hcount, rfl⟩ | ⟨rfl, hwidth, rfl⟩⟩ := addSuffix?_cases hsecond htwo
      · cases hcount
      · obtain ⟨rfl, rfl⟩ := hlast _ _ rfl
        exact ⟨some numeral, some other, false, rfl, rfl⟩
      · obtain ⟨rfl, rfl⟩ := hlast _ _ rfl
        exact ⟨some other, some numeral, true, rfl, rfl⟩
      · cases hwidth

/-- Just a number that fits into a word is recognized, with at most one count and one width. -/
theorem numeral?_eq_some_iff {radix : Radix} {cs : List Char} {token : Token} :
    numeral? radix cs = some token ↔
      ∃ (numeral : Numeral radix.base) (count width : Option (Numeral 10)) (widthFirst : Bool),
        numeral.value < UInt32.size ∧
        cs = numeral.text ++ Item.suffixText (Item.suffixes count width widthFirst) ∧
        token = .number radix (UInt32.ofNat numeral.value)
          ⟨count.map amount, width.map amount⟩ := by
  constructor
  · intro htoken
    obtain ⟨value, hvalue, htoken⟩ := Option.bind_eq_some_iff.mp htoken
    have hbase : radix.base ≤ 16 := by cases radix <;> decide
    obtain ⟨numeral, hbody, rfl⟩ := exists_numeral hbase hvalue
    split_ifs at htoken with hfits
    obtain ⟨given, hgiven, htoken⟩ := Option.bind_eq_some_iff.mp htoken
    obtain ⟨count, width, widthFirst, hmarks, rfl⟩ :=
      exists_suffixes isMark_of_mem_splitMarks hgiven
    refine ⟨numeral, count, width, widthFirst, hfits, ?_, (Option.some.inj htoken).symm⟩
    have hjoin := splitMarks_join cs
    rw [hmarks, ← hbody, List.flatMap_map] at hjoin
    exact hjoin.symm
  · rintro ⟨numeral, count, width, widthFirst, hfits, rfl, rfl⟩
    exact numeral?_text radix numeral hfits count width widthFirst

/-- A number that is read in one base only. -/
def numberIn? (radix : Radix) (cs : List Char) : Option Token :=
  match radix, cs with
  | .hexadecimal, '0' :: 'x' :: rest | .hexadecimal, '0' :: 'X' :: rest =>
    numeral? .hexadecimal rest
  | .binary, '0' :: 'b' :: rest | .binary, '0' :: 'B' :: rest => numeral? .binary rest
  | .decimal, cs => numeral? .decimal cs
  | _, _ => none

/-- Behind the mark of a base, a number in this base is read. -/
theorem numberIn?_eq_some_iff {radix : Radix} {cs : List Char} {token : Token} :
    numberIn? radix cs = some token ↔
      ∃ capital rest, cs = radix.mark capital ++ rest ∧ numeral? radix rest = some token := by
  constructor
  · intro htoken
    unfold numberIn? at htoken
    split at htoken
    · exact ⟨false, _, rfl, htoken⟩
    · exact ⟨true, _, rfl, htoken⟩
    · exact ⟨false, _, rfl, htoken⟩
    · exact ⟨true, _, rfl, htoken⟩
    · exact ⟨false, _, rfl, htoken⟩
    · cases htoken
  · rintro ⟨capital, rest, rfl, htoken⟩
    cases radix <;> cases capital <;> exact htoken

/-- Just the numbers of a base are recognized as such. -/
theorem numberIn?_iff_reads {radix : Radix} {cs : List Char} {token : Token} :
    numberIn? radix cs = some token ↔ Reads (.number radix) cs token := by
  rw [numberIn?_eq_some_iff]
  constructor
  · rintro ⟨capital, rest, rfl, htoken⟩
    obtain ⟨numeral, count, width, widthFirst, hfits, rfl, rfl⟩ := numeral?_eq_some_iff.mp htoken
    exact .number radix capital numeral hfits count width widthFirst
  · intro hreads
    cases hreads with
    | number radix capital numeral hfits count width widthFirst =>
      exact ⟨capital, _, rfl, numeral?_text radix numeral hfits count width widthFirst⟩

/-- A number is recognized if it is one in some base. -/
theorem number?_eq_some_iff {cs : List Char} {token : Token} :
    number? cs = some token ↔ ∃ radix, Reads (.number radix) cs token := by
  constructor
  · intro htoken
    unfold number? at htoken
    split at htoken
    · exact ⟨.hexadecimal, numberIn?_iff_reads.mp htoken⟩
    · exact ⟨.hexadecimal, numberIn?_iff_reads.mp htoken⟩
    · exact ⟨.binary, numberIn?_iff_reads.mp htoken⟩
    · exact ⟨.binary, numberIn?_iff_reads.mp htoken⟩
    · exact ⟨.decimal, numberIn?_iff_reads.mp htoken⟩
  · rintro ⟨radix, hreads⟩
    cases hreads with
    | number radix capital numeral hfits count width widthFirst =>
      rw [number?_mark]
      exact numeral?_text radix numeral hfits count width widthFirst

/-! ### Symbols -/

/-- Just the symbols with a count are recognized as such. -/
theorem counted?_eq_some_iff {cs : List Char} {token : Token} :
    counted? cs = some token ↔ Reads .counted cs token := by
  constructor
  · intro htoken
    unfold counted? at htoken
    split at htoken
    · obtain ⟨symbol, hsymbol, htoken⟩ := Option.bind_eq_some_iff.mp htoken
      obtain ⟨value, hvalue, htoken⟩ := Option.bind_eq_some_iff.mp htoken
      obtain ⟨numeral, rfl, rfl⟩ := exists_numeral (by decide) hvalue
      obtain rfl := Option.some.inj htoken
      exact .counted _ symbol (Symbol.ofChar?_eq_some_iff.mp hsymbol) numeral
    · cases htoken
  · intro hreads
    cases hreads with
    | counted letter symbol hletter count =>
      simp [counted?, Symbol.ofChar?_eq_some_iff.mpr hletter, count.number?_text,
        Operation.clampCount, Operation.maxCount]

/-- Just the repeated symbols are recognized as such. -/
theorem run?_eq_some_iff {cs : List Char} {token : Token} :
    run? cs = some token ↔ Reads .run cs token := by
  constructor
  · intro htoken
    cases cs with
    | nil => cases htoken
    | cons letter rest =>
      obtain ⟨symbol, hsymbol, htoken⟩ := Option.bind_eq_some_iff.mp htoken
      split_ifs at htoken with hrest
      obtain rfl := Option.some.inj htoken
      obtain ⟨hne, hall⟩ := hrest
      have hsame : rest = List.replicate rest.length letter :=
        List.eq_replicate_iff.mpr ⟨rfl, by simpa using hall⟩
      rw [hsame, ← List.replicate_succ, List.length_replicate]
      exact .run letter symbol (Symbol.ofChar?_eq_some_iff.mp hsymbol) (rest.length + 1)
        (Nat.succ_lt_succ (List.length_pos_iff.mpr hne))
  · intro hreads
    cases hreads with
    | run letter symbol hletter times htimes =>
      obtain ⟨more, rfl⟩ := Nat.exists_eq_add_of_le' htimes
      simp [run?, List.replicate_succ, Symbol.ofChar?_eq_some_iff.mpr hletter,
        Operation.clampCount, Operation.maxCount]

/-- Just the symbols and punctuation marks alone are recognized as such. -/
theorem single?_eq_some_iff {cs : List Char} {token : Token} :
    single? cs = some token ↔ Reads .single cs token := by
  have hmem : ∀ c, ((Symbol.ofChar? c).isSome || isPunctuation c) = true ↔
      c ∈ Symbol.letters.map Prod.fst ++ punctuation := by
    intro c
    rw [Bool.or_eq_true, isPunctuation_iff, List.mem_append, Option.isSome_iff_exists]
    simp only [Symbol.ofChar?_eq_some_iff, List.mem_map, Prod.exists, exists_and_right,
      exists_eq_right]
  constructor
  · intro htoken
    unfold single? at htoken
    split at htoken
    · split_ifs at htoken with hc
      obtain rfl := Option.some.inj htoken
      exact .single _ ((hmem _).mp hc)
    · cases htoken
  · intro hreads
    cases hreads with
    | single c hc => exact if_pos ((hmem c).mpr hc)

/-! ### Classification -/

/-- The rule for the texts of each class. -/
def TextClass.rule? : TextClass → List Char → Option Token
  | .quoted => quotedLiteral?
  | .number radix => numberIn? radix
  | .counted => counted?
  | .run => run?
  | .single => single?

/-- The rule of each class recognizes just the texts of the class. -/
theorem rule?_eq_some_iff {kind : TextClass} {cs : List Char} {token : Token} :
    kind.rule? cs = some token ↔ Reads kind cs token := by
  cases kind with
  | quoted => exact quotedLiteral?_eq_some_iff
  | number radix => exact numberIn?_iff_reads
  | counted => exact counted?_eq_some_iff
  | run => exact run?_eq_some_iff
  | single => exact single?_eq_some_iff

/-- A text is in one class at most. -/
theorem Reads.kind_eq {kind other : TextClass} {cs : List Char} {token another : Token}
    (hreads : Reads kind cs token) (hother : Reads other cs another) : kind = other :=
  hreads.shape_eq.symm.trans hother.shape_eq

/-- A text means one thing at most. -/
theorem Reads.token_eq {kind other : TextClass} {cs : List Char} {token another : Token}
    (hreads : Reads kind cs token) (hother : Reads other cs another) : token = another := by
  obtain rfl := hreads.kind_eq hother
  exact Option.some.inj ((rule?_eq_some_iff.mpr hreads).symm.trans (rule?_eq_some_iff.mpr hother))

theorem Reads.ne_unrecognized {kind : TextClass} {cs : List Char} {token : Token}
    (hreads : Reads kind cs token) : token ≠ .unrecognized := by
  cases hreads <;> nofun

/-- Some rule recognizes a text if it is in some class. -/
theorem exists_rule_iff {cs : List Char} {token : Token} :
    (∃ rule ∈ rules, rule cs = some token) ↔ ∃ kind, Reads kind cs token := by
  constructor
  · simp only [rules, List.mem_cons, List.not_mem_nil, or_false]
    rintro ⟨rule, rfl | rfl | rfl | rfl | rfl, htoken⟩
    · exact ⟨_, quotedLiteral?_eq_some_iff.mp htoken⟩
    · obtain ⟨radix, hreads⟩ := number?_eq_some_iff.mp htoken
      exact ⟨_, hreads⟩
    · exact ⟨_, counted?_eq_some_iff.mp htoken⟩
    · exact ⟨_, run?_eq_some_iff.mp htoken⟩
    · exact ⟨_, single?_eq_some_iff.mp htoken⟩
  · rintro ⟨kind, hreads⟩
    cases kind with
    | quoted => exact ⟨_, by simp [rules], quotedLiteral?_eq_some_iff.mpr hreads⟩
    | number radix => exact ⟨_, by simp [rules], number?_eq_some_iff.mpr ⟨radix, hreads⟩⟩
    | counted => exact ⟨_, by simp [rules], counted?_eq_some_iff.mpr hreads⟩
    | run => exact ⟨_, by simp [rules], run?_eq_some_iff.mpr hreads⟩
    | single => exact ⟨_, by simp [rules], single?_eq_some_iff.mpr hreads⟩

/-- Recognizers that are tried in any order give what the class of the text gives, if they recognize
together just the texts of the classes. Whichever is the first to recognize the text gives the same,
since the text reads in one way only. -/
theorem findSome?_eq_some_iff {R : Type} {order : List R} {recognize : R → Option Token}
    {cs : List Char}
    (hexact : ∀ token, (∃ rule ∈ order, recognize rule = some token) ↔ ∃ kind, Reads kind cs token)
    {token : Token} : order.findSome? recognize = some token ↔ ∃ kind, Reads kind cs token := by
  constructor
  · exact fun hfound ↦ (hexact token).mp (List.exists_of_findSome?_eq_some hfound)
  · intro hreads
    obtain ⟨rule, hmem, hrule⟩ := (hexact token).mpr hreads
    have hsome : (order.findSome? recognize).isSome = true :=
      List.findSome?_isSome_iff.mpr ⟨rule, hmem, by rw [hrule]; rfl⟩
    obtain ⟨found, hfound⟩ := Option.isSome_iff_exists.mp hsome
    obtain ⟨_, hfirst⟩ := (hexact found).mp (List.exists_of_findSome?_eq_some hfound)
    obtain ⟨_, hreads⟩ := hreads
    rw [hfound, hfirst.token_eq hreads]

/-- A text is classified as what it reads as in some class. -/
theorem Reads.classify_eq {kind : TextClass} {cs : List Char} {token : Token}
    (hreads : Reads kind cs token) : classify (String.ofList cs) = token := by
  have hfound := (findSome?_eq_some_iff fun _ ↦ exists_rule_iff).mpr ⟨kind, hreads⟩
  rw [classify, String.toList_ofList, hfound, Option.getD_some]

/-- Rules that are tried in any order classify a text, if they recognize together just the texts of
the classes. -/
theorem getD_findSome?_eq_classify {R : Type} {order : List R} {recognize : R → Option Token}
    {text : String}
    (hexact : ∀ token, (∃ rule ∈ order, recognize rule = some token) ↔
      ∃ kind, Reads kind text.toList token) :
    (order.findSome? recognize).getD .unrecognized = classify text := by
  have hsame : order.findSome? recognize = rules.findSome? fun rule ↦ rule text.toList :=
    Option.ext fun token ↦ (findSome?_eq_some_iff hexact).trans
      (findSome?_eq_some_iff fun _ ↦ exists_rule_iff).symm
  rw [hsame, classify]

/-- For every text: it is classified as what it reads as in some class, and is unrecognized if it is
in none; it is not in two classes; the rule of each class recognizes just the texts of the class;
and if the rules of all classes are tried in any order, or the rules of the classification are, the
text is classified the same. -/
theorem reads_iff_classify (text : String) :
    (∀ token, (∃ kind, Reads kind text.toList token) ↔
      classify text = token ∧ token ≠ .unrecognized) ∧
    (∀ kind other token another, Reads kind text.toList token →
      Reads other text.toList another → kind = other) ∧
    (∀ (kind : TextClass) token,
      kind.rule? text.toList = some token ↔ Reads kind text.toList token) ∧
    (∀ order : List TextClass, (∀ kind, kind ∈ order) →
      (order.findSome? fun kind ↦ kind.rule? text.toList).getD .unrecognized = classify text) ∧
    ∀ order : List (List Char → Option Token), (∀ rule, rule ∈ order ↔ rule ∈ rules) →
      (order.findSome? fun rule ↦ rule text.toList).getD .unrecognized = classify text := by
  refine ⟨fun token ↦ ?_, fun _ _ _ _ hreads hother ↦ hreads.kind_eq hother,
    fun _ _ ↦ rule?_eq_some_iff, fun order hall ↦ ?_, fun order hsame ↦ ?_⟩
  · rw [← findSome?_eq_some_iff fun _ ↦ exists_rule_iff, classify]
    constructor
    · intro hfound
      obtain ⟨kind, hreads⟩ := (findSome?_eq_some_iff fun _ ↦ exists_rule_iff).mp hfound
      exact ⟨by rw [hfound, Option.getD_some], hreads.ne_unrecognized⟩
    · rintro ⟨hclass, hne⟩
      cases hfound : rules.findSome? fun rule ↦ rule text.toList with
      | none =>
        rw [hfound] at hclass
        exact absurd hclass.symm hne
      | some found =>
        rw [hfound, Option.getD_some] at hclass
        rw [hclass]
  · refine getD_findSome?_eq_classify fun token ↦ ?_
    simp only [hall, true_and, rule?_eq_some_iff]
  · refine getD_findSome?_eq_classify fun token ↦ ?_
    simp only [hsame]
    exact exists_rule_iff

/-- A hexadecimal number with a width and a count is in the class of these numbers only, and is
recognized as one if the rules are tried from the last to the first. -/
theorem hexadecimal_read_in_any_order :
    Reads (.number .hexadecimal) "0XfF5.12:03".toList
      (.number .hexadecimal 0xFF5 ⟨some 3, some 12⟩) ∧
    classify "0XfF5.12:03" = .number .hexadecimal 0xFF5 ⟨some 3, some 12⟩ ∧
    (rules.reverse.findSome? fun rule ↦ rule "0XfF5.12:03".toList) =
      some (.number .hexadecimal 0xFF5 ⟨some 3, some 12⟩) ∧
    ¬ ∃ token, Reads .single "0XfF5.12:03".toList token := by
  let numeral : Numeral 16 := ⟨['f', 'F', '5'], 0xFF5, nofun,
    [15, 15, 5], .cons (.inr rfl) (.cons (.inl rfl) (.cons (.inl rfl) .nil)), by decide, rfl⟩
  let width : Numeral 10 := ⟨['1', '2'], 12, nofun,
    [1, 2], .cons (.inl rfl) (.cons (.inl rfl) .nil), by decide, rfl⟩
  let count : Numeral 10 := ⟨['0', '3'], 3, nofun,
    [0, 3], .cons (.inl rfl) (.cons (.inl rfl) .nil), by decide, rfl⟩
  have hreads : Reads (.number .hexadecimal) "0XfF5.12:03".toList
      (.number .hexadecimal 0xFF5 ⟨some 3, some 12⟩) :=
    .number .hexadecimal true numeral (by decide) (some count) (some width) true
  obtain ⟨hiff, hone, -, -, horder⟩ := reads_iff_classify "0XfF5.12:03"
  have hclass := ((hiff _).mp ⟨_, hreads⟩).1
  refine ⟨hreads, hclass, ?_, ?_⟩
  · have hreverse := horder rules.reverse fun _ ↦ List.mem_reverse
    rw [hclass, Option.getD_eq_iff] at hreverse
    exact hreverse.resolve_right nofun
  · rintro ⟨token, hsingle⟩
    cases hone _ _ _ _ hsingle hreads

end Token

end BusProbe
