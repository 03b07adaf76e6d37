import BusProbe.Proofs.Word.Bits

/-!
# Bits of bytes

The bytes of a value, read off bit by bit with the highest bit of each first, are bits of the value
(`bitsOfBytes_bytes`). The first byte is filled up with the bits of the value above its width, which
are zeros for a value within its width (`bits_of_lt`). So the bytes of such a value denote it, and
no other bytes of their number do (`eq_bytes_of_bigEndian`). Of bytes that are received the lowest
bits of the word they denote are the last of their bits, whatever comes before these
(`low_ofBytes`).
-/

set_option autoImplicit false
set_option relaxedAutoImplicit false

namespace BusProbe.Word

/-- The bits of a byte, the highest first. -/
def bitsOfByte (byte : UInt8) : List Bool := Word.bits byte.toUInt32 8

/-- The bits of some bytes one after another, of each byte the highest first. -/
def bitsOfBytes (bytes : List UInt8) : List Bool := bytes.flatMap bitsOfByte

@[simp]
theorem bitsOfBytes_cons (byte : UInt8) (rest : List UInt8) :
    bitsOfBytes (byte :: rest) = bitsOfByte byte ++ bitsOfBytes rest := rfl

theorem length_bitsOfBytes (bytes : List UInt8) :
    (bitsOfBytes bytes).length = 8 * bytes.length := by
  induction bytes with
  | nil => rfl
  | cons byte rest ih =>
    rw [bitsOfBytes_cons, List.length_append, ih, bitsOfByte, length_bits, List.length_cons,
      Nat.mul_succ, Nat.add_comm]

/-- Of fewer bytes there are eight times fewer bits. -/
theorem bitsOfBytes_take (bytes : List UInt8) (count : Nat) :
    bitsOfBytes (bytes.take count) = (bitsOfBytes bytes).take (8 * count) := by
  induction bytes generalizing count with
  | nil => simp [bitsOfBytes]
  | cons byte rest ih =>
    cases count with
    | zero => rfl
    | succ count =>
      have hlength : (bitsOfByte byte).length = 8 := length_bits _ 8
      rw [List.take_succ_cons, bitsOfBytes_cons, bitsOfBytes_cons, ih, Nat.mul_succ, Nat.add_comm,
        ← hlength, List.take_length_add_append]

/-! ### Bits of a value -/

/-- The bits of a value up to a higher width are further bits and then those of the lower width. -/
theorem bits_add (value : Word) (width more : Nat) :
    value.bits (width + more) =
      (List.range more).reverse.map (fun i ↦ value.toNat.testBit (width + i)) ++
        value.bits width := by
  induction more with
  | zero => rfl
  | succ more ih =>
    rw [← Nat.add_assoc, bits_succ, ih, List.range_succ, List.reverse_append, List.map_append]
    rfl

/-- The bits of a value from a place on are those of the value shifted down to it. -/
theorem bits_shiftRight (value : Word) (low width : Nat) :
    Word.bits (UInt32.ofNat (value.toNat >>> low)) width =
      (List.range width).reverse.map fun i ↦ value.toNat.testBit (low + i) := by
  have hlt : value.toNat >>> low < 2 ^ 32 :=
    Nat.lt_of_le_of_lt (Nat.shiftRight_le _ _) value.toNat_lt
  rw [bits, UInt32.toNat_ofNat', Nat.mod_eq_of_lt hlt]
  exact List.map_congr_left fun i _ ↦ Nat.testBit_shiftRight _

/-- Above the width of a value there are only zeros. -/
theorem bits_of_lt {value : Word} {width : Nat} (hvalue : value.toNat < 2 ^ width) (more : Nat) :
    value.bits (width + more) = List.replicate more false ++ value.bits width := by
  have hzeros : ∀ i ∈ (List.range more).reverse, value.toNat.testBit (width + i) = false := by
    intro i _
    have hle : 2 ^ width ≤ 2 ^ (width + i) := Nat.pow_le_pow_right Nat.two_pos (Nat.le_add_right ..)
    exact Nat.testBit_lt_two_pow (Nat.lt_of_lt_of_le hvalue hle)
  rw [bits_add, List.map_congr_left hzeros, List.map_const', List.length_reverse, List.length_range]

/-- A byte of a value has eight of its bits. -/
theorem bitsOfByte_of_value (value : Word) (i : Nat) :
    bitsOfByte (UInt8.ofNat (value.toNat / Nat.pow 256 i)) =
      (List.range 8).reverse.map fun j ↦ value.toNat.testBit (8 * i + j) := by
  refine List.map_congr_left fun j hmem ↦ ?_
  have hj : j < 8 := List.mem_range.mp (List.mem_reverse.mp hmem)
  have hpow : Nat.pow 256 i = 2 ^ (8 * i) := (Nat.pow_mul 2 8 i).symm
  rw [UInt8.toNat_toUInt32, UInt8.toNat_ofNat', hpow, Nat.testBit_mod_two_pow,
    Nat.testBit_div_two_pow, Nat.add_comm]
  simp [hj]

/-- The bits of the bytes of a value are its bits, up to those of the first byte that lie above its
width. -/
theorem bitsOfBytes_bytes (value : Word) (width : Nat) :
    bitsOfBytes (value.bytes width) = value.bits (8 * byteCount width) := by
  rw [bytes]
  generalize byteCount width = count
  induction count with
  | zero => rfl
  | succ count ih =>
    rw [List.range_succ, List.reverse_append, List.reverse_singleton, List.singleton_append,
      List.map_cons, bitsOfBytes_cons, ih, bitsOfByte_of_value, Nat.mul_succ, bits_add]

/-- The bytes of a value within its width are its bits with zeros in front. -/
theorem bitsOfBytes_bytes_of_lt {value : Word} {width : Nat} (hvalue : value.toNat < 2 ^ width) :
    bitsOfBytes (value.bytes width) =
      List.replicate (8 * byteCount width - width) false ++ value.bits width := by
  have hwidth : width ≤ 8 * byteCount width := by rw [byteCount]; omega
  rw [bitsOfBytes_bytes, ← bits_of_lt hvalue, Nat.add_sub_cancel' hwidth]

/-! ### The value of received bytes -/

theorem denoted_bitsOfByte (byte : UInt8) : denoted (bitsOfByte byte) = byte.toNat := by
  rw [bitsOfByte, denoted_bits, UInt8.toNat_toUInt32]
  exact Nat.mod_eq_of_lt byte.toNat_lt

theorem bitsOfByte_inj {first second : UInt8} (hbits : bitsOfByte first = bitsOfByte second) :
    first = second := by
  have hdenoted := congrArg denoted hbits
  rw [denoted_bitsOfByte, denoted_bitsOfByte] at hdenoted
  exact UInt8.toNat_inj.mp hdenoted

/-- Bytes are known by their bits. -/
theorem bitsOfBytes_inj {first second : List UInt8}
    (hbits : bitsOfBytes first = bitsOfBytes second) : first = second := by
  have hlength := congrArg List.length hbits
  rw [length_bitsOfBytes, length_bitsOfBytes] at hlength
  induction first generalizing second with
  | nil =>
    cases second with
    | nil => rfl
    | cons byte rest =>
      rw [List.length_cons, List.length_nil] at hlength
      omega
  | cons byte rest ih =>
    cases second with
    | nil =>
      rw [List.length_cons, List.length_nil] at hlength
      omega
    | cons byte' rest' =>
      rw [List.length_cons, List.length_cons] at hlength
      obtain ⟨hbyte, hrest⟩ := List.append_inj hbits (by simp [bitsOfByte, length_bits])
      rw [bitsOfByte_inj hbyte, ih hrest (by omega)]

/-- Bytes denote the number that their bits denote. -/
theorem foldl_eq_denoted_bitsOfBytes (bytes : List UInt8) (n : Nat) :
    bytes.foldl (fun n b ↦ 256 * n + b.toNat) n =
      2 ^ (8 * bytes.length) * n + denoted (bitsOfBytes bytes) := by
  induction bytes generalizing n with
  | nil => simp [bitsOfBytes]
  | cons byte rest ih =>
    rw [List.foldl_cons, ih, bitsOfBytes_cons, denoted_append, denoted_bitsOfByte,
      length_bitsOfBytes, List.length_cons, Nat.mul_succ, Nat.pow_add, Nat.mul_add, ← Nat.add_assoc,
      ← Nat.mul_assoc]

/-- The number that bytes denote, the highest first. -/
def bigEndian (bytes : List UInt8) : Nat := bytes.foldl (fun n byte ↦ 256 * n + byte.toNat) 0

theorem bigEndian_eq_denoted (bytes : List UInt8) :
    bigEndian bytes = denoted (bitsOfBytes bytes) := by
  rw [bigEndian, foldl_eq_denoted_bitsOfBytes, Nat.mul_zero, Nat.zero_add]

theorem toNat_ofBytes (bytes : List UInt8) :
    (ofBytes bytes).toNat = denoted (bitsOfBytes bytes) % 2 ^ 32 := by
  rw [ofBytes, UInt32.toNat_ofNat', foldl_eq_denoted_bitsOfBytes, Nat.mul_zero, Nat.zero_add]

/-- The lowest bits of the word that bytes denote are the last of their bits. -/
theorem low_ofBytes {bytes : List UInt8} {earlier last : List Bool}
    (hbits : bitsOfBytes bytes = earlier ++ last) (hlength : last.length ≤ maxWidth) :
    (ofBytes bytes).low last.length = ofBits last := by
  rw [← UInt32.toNat_inj, toNat_low, toNat_ofBytes, toNat_ofBits hlength, hbits, denoted_append]
  have hdvd : 2 ^ last.length ∣ 2 ^ 32 := Nat.pow_dvd_pow 2 hlength
  calc (2 ^ last.length * denoted earlier + denoted last) % 2 ^ 32 % 2 ^ last.length
      = (2 ^ last.length * denoted earlier + denoted last) % 2 ^ last.length :=
        Nat.mod_mod_of_dvd _ hdvd
    _ = denoted last % 2 ^ last.length := Nat.mul_add_mod ..
    _ = denoted last := Nat.mod_eq_of_lt (denoted_lt last)

/-! ### The bytes of a value -/

/-- The bytes of a value within its width denote the value. -/
theorem bigEndian_bytes {value : Word} {width : Nat} (hvalue : value.toNat < 2 ^ width) :
    bigEndian (value.bytes width) = value.toNat := by
  have hwidth : width ≤ 8 * byteCount width := by rw [byteCount]; omega
  have hle : 2 ^ width ≤ 2 ^ (8 * byteCount width) := Nat.pow_le_pow_right Nat.two_pos hwidth
  rw [bigEndian_eq_denoted, bitsOfBytes_bytes, denoted_bits]
  exact Nat.mod_eq_of_lt (Nat.lt_of_lt_of_le hvalue hle)

/-- No other bytes of this number denote the value. -/
theorem eq_bytes_of_bigEndian {value : Word} {width : Nat} (hvalue : value.toNat < 2 ^ width)
    {bytes : List UInt8} (hlength : bytes.length = byteCount width)
    (hbytes : bigEndian bytes = value.toNat) : bytes = value.bytes width := by
  refine bitsOfBytes_inj (denoted_inj ?_ ?_)
  · rw [length_bitsOfBytes, length_bitsOfBytes, hlength, length_bytes, byteCount]
  · rw [← bigEndian_eq_denoted, ← bigEndian_eq_denoted, hbytes, bigEndian_bytes hvalue]

end BusProbe.Word
