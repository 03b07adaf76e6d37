import BusProbe.Proofs.Word.Bytes
import BusProbe.Proofs.Word.Order

/-!
# Words in registers

The buses are defined on lists of bits and of bytes. Their hardware works on registers of so many
bits, where the amount of a shift has to be less than that number, and on buffers of so many bytes,
where an index has to lie inside. Here what the buses send and make of what they receive is computed
in this way, step by step, and a computation that leaves the range has no result.

Every width from one bit to a word stays in range, and the results are the lists of bits, the bytes
and the words of the definitions: `bits?_eq_map` and `bytes?_eq` for what is sent, `arrange?_eq` and
`mask?_eq` for values that are turned round and cut down, `shiftIn?_bytes`, `shiftIn?_bits` and
`collect?_eq` for what is received.
-/

set_option autoImplicit false
set_option relaxedAutoImplicit false

namespace BusProbe.Register

variable {size : Nat}

/-! ### Shifts -/

/-- A shift up, by less than the number of bits. -/
def shiftUp? (register : BitVec size) (amount : Nat) : Option (BitVec size) :=
  if amount < size then some (register <<< amount) else none

/-- A shift down, by less than the number of bits. -/
def shiftDown? (register : BitVec size) (amount : Nat) : Option (BitVec size) :=
  if amount < size then some (register >>> amount) else none

theorem shiftUp?_of_lt (register : BitVec size) {amount : Nat} (hamount : amount < size) :
    shiftUp? register amount = some (register <<< amount) :=
  if_pos hamount

theorem shiftDown?_of_lt (register : BitVec size) {amount : Nat} (hamount : amount < size) :
    shiftDown? register amount = some (register >>> amount) :=
  if_pos hamount

/-- The bits of a word in a register. -/
theorem getLsbD_toBitVec (value : Word) (i : Nat) :
    value.toBitVec.getLsbD i = value.toNat.testBit i := by
  rw [← BitVec.testBit_toNat, UInt32.toNat_toBitVec]

/-! ### Bits -/

/-- The bit at a place, which a shifted one masks out. -/
def bit? (register : BitVec size) (place : Nat) : Option Bool := do
  let mask ← shiftUp? (BitVec.ofNat size 1) place
  return register &&& mask != BitVec.ofNat size 0

/-- The bits at some places, in order. -/
def bits? (register : BitVec size) (places : List Nat) : Option (List Bool) :=
  places.mapM (bit? register)

theorem twoPow_ne_zero {place : Nat} (hplace : place < size) :
    BitVec.twoPow size place ≠ BitVec.ofNat size 0 := by
  intro hzero
  have hbit := congrArg (·.getLsbD place) hzero
  simp [hplace] at hbit

theorem bit?_of_lt (register : BitVec size) {place : Nat} (hplace : place < size) :
    bit? register place = some (register.getLsbD place) := by
  rw [bit?, shiftUp?_of_lt _ hplace, ← BitVec.twoPow_eq]
  refine congrArg some ?_
  rw [BitVec.and_twoPow]
  cases register.getLsbD place with
  | false => simp
  | true => simpa using twoPow_ne_zero hplace

/-- If each of some things has a result, so have they all. -/
theorem mapM_eq_some {α β : Type} {f : α → Option β} {g : α → β} {list : List α}
    (hlist : ∀ a ∈ list, f a = some (g a)) : list.mapM f = some (list.map g) := by
  induction list with
  | nil => rfl
  | cons a rest ih =>
    rw [List.mapM_cons, hlist a List.mem_cons_self,
      ih fun b hmem ↦ hlist b (List.mem_cons_of_mem a hmem)]
    rfl

/-- The bits at places of the register are in range. -/
theorem bits?_eq_map (register : BitVec size) {places : List Nat}
    (hplaces : ∀ place ∈ places, place < size) :
    bits? register places = some (places.map register.getLsbD) :=
  mapM_eq_some fun place hmem ↦ bit?_of_lt register (hplaces place hmem)

/-- The bits of a word from the highest place of a width down. -/
theorem bits?_highFirst (value : Word) {width : Nat} (hwidth : width ≤ Word.maxWidth) :
    bits? value.toBitVec (List.range width).reverse = some (value.bits width) := by
  have hplaces : ∀ place ∈ (List.range width).reverse, place < 32 := fun place hmem ↦
    Nat.lt_of_lt_of_le (List.mem_range.mp (List.mem_reverse.mp hmem)) hwidth
  rw [bits?_eq_map _ hplaces]
  exact congrArg some (List.map_congr_left fun place _ ↦ getLsbD_toBitVec value place)

/-- The bits of a word from place zero up. -/
theorem bits?_lowFirst (value : Word) {width : Nat} (hwidth : width ≤ Word.maxWidth) :
    bits? value.toBitVec (List.range width) = some (value.bits width).reverse := by
  have hplaces : ∀ place ∈ List.range width, place < 32 := fun place hmem ↦
    Nat.lt_of_lt_of_le (List.mem_range.mp hmem) hwidth
  rw [bits?_eq_map _ hplaces, Word.bits, List.map_reverse, List.reverse_reverse]
  exact congrArg some (List.map_congr_left fun place _ ↦ getLsbD_toBitVec value place)

/-- The bits of a byte. -/
theorem bits?_byte (byte : UInt8) :
    bits? byte.toBitVec (List.range 8).reverse = some (Word.bitsOfByte byte) := by
  have hplaces : ∀ place ∈ (List.range 8).reverse, place < 8 := fun place hmem ↦
    List.mem_range.mp (List.mem_reverse.mp hmem)
  rw [bits?_eq_map _ hplaces]
  refine congrArg some (List.map_congr_left fun place _ ↦ ?_)
  rw [← BitVec.testBit_toNat, UInt8.toNat_toBitVec, UInt8.toNat_toUInt32]

/-! ### Bytes -/

/-- The byte at a place, counted from the lowest. -/
def byte? (register : BitVec 32) (place : Nat) : Option UInt8 := do
  let shifted ← shiftDown? register (8 * place)
  return ⟨shifted.setWidth 8⟩

/-- The lowest bytes of a register, the highest of them first. -/
def bytes? (register : BitVec 32) (count : Nat) : Option (List UInt8) :=
  (List.range count).reverse.mapM (byte? register)

/-- The first bytes of a buffer. -/
def slice? (buffer : List UInt8) (count : Nat) : Option (List UInt8) :=
  if count ≤ buffer.length then some (buffer.take count) else none

/-- A buffer of four bytes, filled from its beginning with the lowest bytes of a register, the
highest of them first. -/
def fill? (register : BitVec 32) (count : Nat) : Option (List UInt8) := do
  let slots ← slice? (List.replicate 4 0) count
  (List.range slots.length).mapM fun slot ↦ byte? register (slots.length - 1 - slot)

theorem byte?_of_lt (value : Word) {place : Nat} (hplace : place < 4) :
    byte? value.toBitVec place = some (UInt8.ofNat (value.toNat / Nat.pow 256 place)) := by
  have hamount : 8 * place < 32 := by omega
  have hpow : Nat.pow 256 place = 2 ^ (8 * place) := (Nat.pow_mul 2 8 place).symm
  rw [byte?, shiftDown?_of_lt _ hamount]
  refine congrArg some (UInt8.toNat_inj.mp ?_)
  rw [UInt8.toNat_ofNat', hpow, ← Nat.shiftRight_eq_div_pow, ← UInt32.toNat_toBitVec,
    ← BitVec.toNat_ushiftRight, ← BitVec.toNat_setWidth]
  rfl

theorem byteCount_le {width : Nat} (hwidth : width ≤ Word.maxWidth) : Word.byteCount width ≤ 4 := by
  rw [Word.maxWidth] at hwidth
  rw [Word.byteCount]
  omega

/-- The bytes of a word are shifted down in range. -/
theorem bytes?_eq (value : Word) {width : Nat} (hwidth : width ≤ Word.maxWidth) :
    bytes? value.toBitVec (Word.byteCount width) = some (value.bytes width) := by
  refine mapM_eq_some fun place hmem ↦ byte?_of_lt value ?_
  have hlt := List.mem_range.mp (List.mem_reverse.mp hmem)
  exact Nat.lt_of_lt_of_le hlt (byteCount_le hwidth)

theorem reverse_range (count : Nat) :
    (List.range count).reverse = (List.range count).map fun i ↦ count - 1 - i := by
  rw [List.range_eq_range', List.reverse_range', Nat.zero_add, List.range_eq_range']

/-- The bytes of a word fit into a buffer of four. -/
theorem fill?_eq (value : Word) {width : Nat} (hwidth : width ≤ Word.maxWidth) :
    fill? value.toBitVec (Word.byteCount width) = some (value.bytes width) := by
  have hcount := byteCount_le hwidth
  have hslots : slice? (List.replicate 4 0) (Word.byteCount width) =
      some (List.replicate (Word.byteCount width) 0) := by
    rw [slice?, if_pos (by rwa [List.length_replicate]), List.take_replicate,
      Nat.min_eq_left hcount]
  rw [fill?, hslots, Word.bytes, reverse_range, List.map_map]
  simp only [Option.bind_eq_bind, Option.bind_some, List.length_replicate]
  refine mapM_eq_some fun slot hmem ↦ byte?_of_lt value ?_
  have hlt := List.mem_range.mp hmem
  omega

/-! ### Values turned round and cut down -/

/-- A mask of the lowest bits. -/
def mask? (width : Nat) : Option (BitVec 32) :=
  if 32 ≤ width then some (BitVec.allOnes 32) else (shiftUp? 1#32 width).map (· - 1#32)

/-- A register turned round: with the lowest bit first, all its bits change their order and those of
the width are shifted down again. -/
def arrange? (order : BitOrder) (register : BitVec 32) (width : Nat) : Option (BitVec 32) :=
  match order with
  | .highFirst => some register
  | .lowFirst => shiftDown? register.reverse (32 - Word.clampWidth width)

theorem toNat_ones {width : Nat} (hwidth : width ≤ Word.maxWidth) :
    (Word.ones width).toNat = 2 ^ width - 1 := by
  have hpow : 2 ^ width ≤ 2 ^ 32 := Nat.pow_le_pow_right Nat.two_pos hwidth
  have hpos : 0 < 2 ^ width := Nat.two_pow_pos width
  rw [Word.ones, Nat.min_eq_left hwidth, UInt32.toNat_ofNat', Nat.pow_eq]
  exact Nat.mod_eq_of_lt (by omega)

/-- A mask has a result for every width. -/
theorem mask?_eq (width : Nat) : mask? width = some (Word.ones width).toBitVec := by
  rw [mask?]
  by_cases hwidth : 32 ≤ width
  · rw [if_pos hwidth, Word.ones, Word.maxWidth, Nat.min_eq_right hwidth]
    rfl
  · have hlt : width < 32 := Nat.lt_of_not_le hwidth
    have hpow : 2 ^ width < 2 ^ 32 := Nat.pow_lt_pow_right (by decide) hlt
    have hpos : 0 < 2 ^ width := Nat.two_pow_pos width
    have hones : (Word.ones width).toBitVec.toNat = 2 ^ width - 1 := toNat_ones (Nat.le_of_lt hlt)
    rw [if_neg hwidth, shiftUp?_of_lt _ hlt, Option.map_some]
    refine congrArg some (BitVec.eq_of_toNat_eq ?_)
    rw [hones, ← BitVec.twoPow_eq, BitVec.toNat_sub, BitVec.toNat_twoPow, Nat.mod_eq_of_lt hpow,
      BitVec.toNat_ofNat]
    omega

/-- The lowest bits of a word are masked out. -/
theorem and_mask (value : Word) {width : Nat} (hwidth : width ≤ Word.maxWidth) :
    value.toBitVec &&& (Word.ones width).toBitVec = (value.low width).toBitVec := by
  refine BitVec.eq_of_toNat_eq ?_
  rw [BitVec.toNat_and, UInt32.toNat_toBitVec, UInt32.toNat_toBitVec, UInt32.toNat_toBitVec,
    toNat_ones hwidth, Word.toNat_low]
  exact Nat.and_two_pow_sub_one_eq_mod value.toNat width

/-- A value of a width from one bit to a word is turned round in range. No bit beyond the width is
set on either side. -/
theorem arrange?_eq (order : BitOrder) (value : Word) {width : Nat} (hpos : 1 ≤ width)
    (hwidth : width ≤ Word.maxWidth) :
    arrange? order value.toBitVec width = some (order.arrange value width).toBitVec := by
  cases order with
  | highFirst => rfl
  | lowFirst =>
    have hclamp := Word.clampWidth_of_bounds hpos hwidth
    have hmax : width ≤ 32 := hwidth
    rw [arrange?, hclamp, shiftDown?_of_lt _ (by omega)]
    refine congrArg some (BitVec.eq_of_getLsbD_eq fun i hi ↦ ?_)
    rw [BitVec.getLsbD_ushiftRight, BitVec.getLsbD_reverse, BitVec.getMsbD, getLsbD_toBitVec,
      getLsbD_toBitVec]
    by_cases hlow : i < width
    · have hplace : 32 - 1 - (32 - width + i) = width - 1 - i := by omega
      rw [Word.testBit_arrange_lowFirst value hpos hwidth hlow, hplace]
      simp only [Bool.and_eq_right_iff_imp, decide_eq_true_eq]
      omega
    · have hlt := Word.toNat_arrange_lowFirst_lt value hpos hwidth
      have hle : 2 ^ width ≤ 2 ^ i := Nat.pow_le_pow_right Nat.two_pos (Nat.le_of_not_lt hlow)
      rw [Nat.testBit_lt_two_pow (Nat.lt_of_lt_of_le hlt hle)]
      simp only [Bool.and_eq_false_imp, decide_eq_true_eq]
      omega

/-! ### What is received -/

/-- Parts of so many bits, shifted into a register one after another. -/
def shiftIn? {α : Type} (amount : Nat) (part : α → Nat) (parts : List α) : Option (BitVec 32) :=
  parts.foldlM (fun register a ↦ do
    let shifted ← shiftUp? register amount
    return shifted ||| BitVec.ofNat 32 (part a)) 0#32

/-- Bits put into a register at their places, from some place up. -/
def collectFrom? (place : Nat) (register : BitVec 32) : List Bool → Option (BitVec 32)
  | [] => some register
  | true :: rest => do
    let mask ← shiftUp? 1#32 place
    collectFrom? (place + 1) (register ||| mask) rest
  | false :: rest => collectFrom? (place + 1) register rest

/-- Bits put into a register, the first at place zero. -/
def collect? (bits : List Bool) : Option (BitVec 32) := collectFrom? 0 0#32 bits

/-- A part takes the places that a shift leaves free. -/
theorem shiftLeft_or_ofNat (n : Nat) {part amount : Nat} (hpart : part < 2 ^ amount) :
    (BitVec.ofNat 32 n) <<< amount ||| BitVec.ofNat 32 part =
      BitVec.ofNat 32 (2 ^ amount * n + part) := by
  refine BitVec.eq_of_toNat_eq ?_
  rw [BitVec.toNat_or, BitVec.toNat_shiftLeft, BitVec.toNat_ofNat, BitVec.toNat_ofNat,
    BitVec.toNat_ofNat, Nat.shiftLeft_eq, Nat.mod_mul_mod, ← Nat.shiftLeft_eq, ← Nat.or_mod_two_pow,
    ← Nat.shiftLeft_add_eq_or_of_lt hpart, Nat.shiftLeft_eq, Nat.mul_comm]

/-- Shifting parts in appends their digits. -/
theorem shiftIn?_eq {α : Type} {amount : Nat} {part : α → Nat} (hamount : amount < 32)
    (hpart : ∀ a, part a < 2 ^ amount) (parts : List α) :
    shiftIn? amount part parts =
      some (BitVec.ofNat 32 (parts.foldl (fun n a ↦ 2 ^ amount * n + part a) 0)) := by
  have hfold : ∀ n, parts.foldlM (fun register a ↦ do
      let shifted ← shiftUp? register amount
      return shifted ||| BitVec.ofNat 32 (part a)) (BitVec.ofNat 32 n) =
        some (BitVec.ofNat 32 (parts.foldl (fun n a ↦ 2 ^ amount * n + part a) n)) := by
    induction parts with
    | nil => exact fun n ↦ rfl
    | cons a rest ih =>
      intro n
      rw [List.foldlM_cons, shiftUp?_of_lt _ hamount, List.foldl_cons, ← ih]
      exact congrArg (rest.foldlM _) (shiftLeft_or_ofNat n (hpart a))
  exact hfold 0

/-- The word that received bytes denote. -/
theorem shiftIn?_bytes (bytes : List UInt8) :
    shiftIn? 8 UInt8.toNat bytes = some (Word.ofBytes bytes).toBitVec :=
  shiftIn?_eq (by decide) UInt8.toNat_lt bytes

/-- The word that sampled bits denote, the highest first. -/
theorem shiftIn?_bits (bits : List Bool) :
    shiftIn? 1 Bool.toNat bits = some (Word.ofBits bits).toBitVec :=
  shiftIn?_eq (by decide) Bool.toNat_lt bits

/-- Collecting bits from some place up adds what they denote there. -/
theorem collectFrom?_eq {place n : Nat} (hn : n < 2 ^ place) {bits : List Bool}
    (hbits : place + bits.length ≤ 32) :
    collectFrom? place (BitVec.ofNat 32 n) bits =
      some (BitVec.ofNat 32 (n + 2 ^ place * Word.denoted bits.reverse)) := by
  induction bits generalizing place n with
  | nil => simp [collectFrom?]
  | cons bit rest ih =>
    have hplace : place < 32 := by
      rw [List.length_cons] at hbits
      omega
    have hrest : place + 1 + rest.length ≤ 32 := by
      rw [List.length_cons] at hbits
      omega
    have hdenoted : Word.denoted (bit :: rest).reverse =
        2 * Word.denoted rest.reverse + bit.toNat := by
      rw [List.reverse_cons, Word.denoted_append]
      simp [Word.denoted]
    have hpow : 2 ^ (place + 1) = 2 * 2 ^ place := Nat.pow_succ'
    cases bit with
    | false =>
      rw [collectFrom?, ih (by omega) hrest, hdenoted, hpow, Bool.toNat_false, Nat.add_zero,
        Nat.mul_left_comm, Nat.mul_assoc]
    | true =>
      have hset : BitVec.ofNat 32 n ||| 1#32 <<< place = BitVec.ofNat 32 (2 ^ place + n) := by
        rw [BitVec.or_comm, shiftLeft_or_ofNat 1 hn, Nat.mul_one]
      rw [collectFrom?, shiftUp?_of_lt _ hplace, Option.bind_eq_bind, Option.bind_some, hset,
        ih (by omega) hrest, hdenoted, hpow, Bool.toNat_true]
      refine congrArg (fun n ↦ some (BitVec.ofNat 32 n)) ?_
      rw [Nat.mul_add, Nat.mul_one, Nat.mul_left_comm, Nat.mul_assoc]
      omega

/-- Up to a word of bits are collected in range. -/
theorem collect?_eq {bits : List Bool} (hlength : bits.length ≤ Word.maxWidth) :
    collect? bits = some (Word.ofBits bits.reverse).toBitVec := by
  have hbits : 0 + bits.length ≤ 32 := (Nat.zero_add _).symm ▸ hlength
  have hcollect := collectFrom?_eq (show 0 < 2 ^ 0 by decide) hbits
  rwa [Nat.pow_zero, Nat.one_mul, Nat.zero_add] at hcollect

end BusProbe.Register
