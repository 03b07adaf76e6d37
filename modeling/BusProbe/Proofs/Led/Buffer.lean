import BusProbe.Bus.Led
import BusProbe.Proofs.Word.Registers
import Mathlib.Data.List.GetD

/-!
# The buffer of the LED bus

The pulses of a value stand in a buffer of twelve bytes, from its first bit on, and the rest of the
buffer is low (`bitsOfBytes_buffer`). Hardware puts them there one at a time: a pulse bit that is
set is or-ed into its byte of a buffer that was cleared before. For a value of at most a word no bit
falls outside the buffer, and all twelve bytes come out the same (`buffer?_eq`); sent are those of
them that the pulses fill (`encode?_eq`).
-/

set_option autoImplicit false
set_option relaxedAutoImplicit false

namespace BusProbe.Led

open Word (bitsOfByte bitsOfBytes)

/-! ### The bits of the buffer -/

theorem length_pulses (value : Word) (width : Nat) : (pulses value width).length = 3 * width := by
  have hpulse : ∀ bits : List Bool, (bits.flatMap pulse).length = 3 * bits.length := by
    intro bits
    induction bits with
    | nil => rfl
    | cons bit rest ih =>
      rw [List.flatMap_cons, List.length_append, ih, List.length_cons, Nat.mul_succ, Nat.add_comm]
      rfl
  rw [pulses, hpulse, Word.length_bits]

/-- A byte of a list of bits has eight of them. -/
theorem bitsOfByte_byteAt (bits : List Bool) (i : Nat) :
    bitsOfByte (byteAt bits i) = (List.range 8).map fun j ↦ bits.getD (8 * i + j) false := by
  have hlength : ((List.range 8).map fun j ↦ bits.getD (8 * i + j) false).length = 8 := by simp
  have hbyte : byteAt bits i =
      (Word.ofBits ((List.range 8).map fun j ↦ bits.getD (8 * i + j) false)).toUInt8 := by
    rw [byteAt, Word.ofBits, List.foldl_map, UInt32.toUInt8_ofNat']
  rw [hbyte, bitsOfByte, Word.toUInt32_toUInt8_ofBits (Nat.le_of_eq hlength)]
  have hbits := Word.bits_ofBits (Nat.le_trans (Nat.le_of_eq hlength) (show 8 ≤ 32 by decide))
  rwa [hlength] at hbits

/-- The bytes of a list of bits have its bits, and then low ones. -/
theorem bitsOfBytes_byteAt (bits : List Bool) (count : Nat) :
    bitsOfBytes ((List.range count).map (byteAt bits)) =
      (List.range (8 * count)).map fun i ↦ bits.getD i false := by
  induction count with
  | zero => rfl
  | succ count ih =>
    rw [List.range_succ, List.map_append, bitsOfBytes, List.flatMap_append, ← bitsOfBytes, ih,
      Nat.mul_succ, List.range_add, List.map_append, List.map_map, List.map_singleton,
      List.flatMap_singleton, bitsOfByte_byteAt]
    rfl

theorem map_getD_range {bits : List Bool} {count : Nat} (hlength : bits.length ≤ count) :
    (List.range count).map (fun i ↦ bits.getD i false) =
      bits ++ List.replicate (count - bits.length) false := by
  refine List.ext_getElem (by simp; omega) fun i hleft hright ↦ ?_
  rw [List.getElem_map, List.getElem_range]
  by_cases hi : i < bits.length
  · rw [List.getElem_append_left hi, List.getD_eq_getElem _ _ hi]
  · rw [List.getElem_append_right (Nat.le_of_not_lt hi), List.getElem_replicate,
      List.getD_eq_default _ _ (Nat.le_of_not_lt hi)]

/-- The buffer holds the pulses of a value, and after them only low bits. -/
theorem bitsOfBytes_buffer (value : Word) {width : Nat} (hwidth : width ≤ Word.maxWidth) :
    bitsOfBytes (buffer value width) =
      pulses value width ++ List.replicate (96 - 3 * width) false := by
  have hlength : (pulses value width).length ≤ 8 * bufferSize := by
    rw [length_pulses]
    exact Nat.mul_le_mul_left 3 hwidth
  rw [buffer, bitsOfBytes_byteAt, map_getD_range hlength, length_pulses]
  rfl

/-! ### Filling a buffer bit by bit -/

section Register

open Register

/-- Sets a bit of a buffer, counted from the highest bit of the first byte. -/
def setBit? (bytes : List UInt8) (position : Nat) : Option (List UInt8) := do
  let mask ← shiftDown? 0x80#8 (position % 8)
  if position / 8 < bytes.length then
    some (bytes.modify (position / 8) (· ||| UInt8.ofBitVec mask))
  else none

/-- Sets those bits of a buffer, from a position on, that are set in a list. -/
def setBits? (bytes : List UInt8) (position : Nat) : List Bool → Option (List UInt8)
  | [] => some bytes
  | true :: rest => do setBits? (← setBit? bytes position) (position + 1) rest
  | false :: rest => setBits? bytes (position + 1) rest

/-- The three bits of a pulse, from the highest of a symbol down. -/
def pulse? (bit : Bool) : Option (List Bool) :=
  bits? (if bit then 0b110#8 else 0b100#8) (List.range 3).reverse

/-- A buffer of twelve bytes with the pulses of the lowest bits of a register in it, put there one
after the other, and how many of its bytes they fill. -/
def buffer? (register : BitVec 32) (width : Nat) : Option (List UInt8 × Nat) := do
  let bits ← bits? register (List.range width).reverse
  let pulses ← bits.mapM pulse?
  let filled ← setBits? (List.replicate 12 0) 0 pulses.flatten
  return (filled, (pulses.flatten.length + 7) / 8)

/-- The bytes that carry the lowest bits of a register. -/
def encode? (register : BitVec 32) (width : Nat) : Option (List UInt8) := do
  let (filled, count) ← buffer? register width
  slice? filled count

theorem pulse?_eq (bit : Bool) : pulse? bit = some (pulse bit) := by
  cases bit <;> decide

theorem getElem_bitsOfByte (byte : UInt8) {i : Nat} (hi : i < (bitsOfByte byte).length) :
    (bitsOfByte byte)[i] = byte.toBitVec.getLsbD (7 - i) := by
  simp [bitsOfByte, Word.bits, ← BitVec.testBit_toNat]

/-- Or-ing a shifted bit into a byte sets the bit at this place, counted from the highest. -/
theorem bitsOfByte_or (byte : UInt8) {place : Nat} (hplace : place < 8) :
    bitsOfByte (byte ||| UInt8.ofBitVec (0x80#8 >>> place)) =
      (bitsOfByte byte).set place true := by
  have htop : 0x80#8 = BitVec.twoPow 8 7 := rfl
  refine List.ext_getElem (by simp [bitsOfByte, Word.length_bits]) fun i hleft hright ↦ ?_
  have hi : i < 8 := by
    rwa [bitsOfByte, Word.length_bits] at hleft
  rw [getElem_bitsOfByte, List.getElem_set, getElem_bitsOfByte, UInt8.toBitVec_or,
    BitVec.getLsbD_or, BitVec.getLsbD_ushiftRight, htop, BitVec.getLsbD_twoPow]
  by_cases hset : place = i
  · have hplaces : 7 = place + (7 - i) := by omega
    rw [if_pos hset, decide_eq_true hplaces]
    simp
  · have hplaces : 7 ≠ place + (7 - i) := by omega
    rw [if_neg hset, decide_eq_false hplaces]
    simp

/-- A byte whose bits change in one place changes the bits of its buffer in one place. -/
theorem bitsOfBytes_modify {bytes : List UInt8} {update : UInt8 → UInt8} {i place : Nat}
    (hupdate : ∀ byte, bitsOfByte (update byte) = (bitsOfByte byte).set place true)
    (hplace : place < 8) (hi : i < bytes.length) :
    bitsOfBytes (bytes.modify i update) = (bitsOfBytes bytes).set (8 * i + place) true := by
  have hlength : ∀ byte, (bitsOfByte byte).length = 8 := fun byte ↦ Word.length_bits _ 8
  induction bytes generalizing i with
  | nil => exact absurd hi (Nat.not_lt_zero i)
  | cons byte rest ih =>
    cases i with
    | zero =>
      rw [List.modify_zero_cons, Word.bitsOfBytes_cons, Word.bitsOfBytes_cons, hupdate,
        Nat.mul_zero, Nat.zero_add, List.set_append_left _ _ (by rwa [hlength])]
    | succ i =>
      have hposition : 8 * (i + 1) + place - 8 = 8 * i + place := by omega
      rw [List.modify_succ_cons, Word.bitsOfBytes_cons, Word.bitsOfBytes_cons,
        ih (Nat.lt_of_succ_lt_succ hi), List.set_append_right _ _ (by rw [hlength]; omega), hlength,
        hposition]

/-- Setting a bit inside a buffer has a result, in which this bit is set and no other changed. -/
theorem exists_setBit? {bytes : List UInt8} {position : Nat}
    (hposition : position < (bitsOfBytes bytes).length) :
    ∃ after, setBit? bytes position = some after ∧
      bitsOfBytes after = (bitsOfBytes bytes).set position true := by
  rw [Word.length_bitsOfBytes] at hposition
  have hbyte : position / 8 < bytes.length := by omega
  have hplace : position % 8 < 8 := Nat.mod_lt _ (by decide)
  refine ⟨bytes.modify (position / 8) (· ||| UInt8.ofBitVec (0x80#8 >>> (position % 8))), ?_, ?_⟩
  · rw [setBit?, shiftDown?_of_lt _ hplace, Option.bind_eq_bind, Option.bind_some, if_pos hbyte]
  · rw [bitsOfBytes_modify (fun byte ↦ bitsOfByte_or byte hplace) hplace hbyte, Nat.div_add_mod]

/-- Setting bits in a cleared part of a buffer puts them there. A low bit is in its place already,
so that the bits after it are put in as they are after a high one. -/
theorem exists_setBits? {bits before : List Bool} {bytes : List UInt8} {more : Nat}
    (hbytes : bitsOfBytes bytes = before ++ List.replicate (bits.length + more) false) :
    ∃ after, setBits? bytes before.length bits = some after ∧
      bitsOfBytes after = before ++ bits ++ List.replicate more false := by
  induction bits generalizing before bytes with
  | nil =>
    rw [List.length_nil, Nat.zero_add] at hbytes
    exact ⟨bytes, rfl, by rw [hbytes, List.append_nil]⟩
  | cons bit rest ih =>
    rw [List.length_cons, Nat.add_right_comm, List.replicate_succ] at hbytes
    have hrest : ∀ next, bitsOfBytes next =
        (before ++ [bit]) ++ List.replicate (rest.length + more) false →
          ∃ after, setBits? next (before.length + 1) rest = some after ∧
            bitsOfBytes after = before ++ bit :: rest ++ List.replicate more false := by
      intro next hnext
      obtain ⟨after, hafter, hbits⟩ := ih hnext
      rw [List.length_append, List.length_singleton] at hafter
      exact ⟨after, hafter, by rw [hbits, List.append_assoc before, List.singleton_append]⟩
    cases bit with
    | false => exact hrest bytes (by rw [hbytes, List.append_cons])
    | true =>
      have hposition : before.length < (bitsOfBytes bytes).length := by
        rw [hbytes, List.length_append, List.length_cons]
        omega
      obtain ⟨next, hnext, hset⟩ := exists_setBit? hposition
      rw [hbytes, List.set_append_right _ _ (Nat.le_refl _), Nat.sub_self, List.set_cons_zero,
        List.append_cons] at hset
      obtain ⟨after, hafter, hbits⟩ := hrest next hset
      exact ⟨after, by rw [setBits?, hnext]; exact hafter, hbits⟩

/-- The pulses of a value of at most a word are put into the buffer without a bit falling outside,
and the bytes of the buffer are then those of the pulses and of low bits after them. -/
theorem buffer?_eq (value : Word) {width : Nat} (hwidth : width ≤ Word.maxWidth) :
    buffer? value.toBitVec width = some (buffer value width, bytesUsed width) := by
  have hlength := length_pulses value width
  have hmax : width ≤ 32 := hwidth
  have hpulses : (value.bits width).mapM pulse? = some ((value.bits width).map pulse) :=
    mapM_eq_some fun bit _ ↦ pulse?_eq bit
  have hcleared : bitsOfBytes (List.replicate 12 0) =
      [] ++ List.replicate ((pulses value width).length + (96 - 3 * width)) false := by
    rw [hlength, Nat.add_sub_cancel' (by omega)]
    decide
  obtain ⟨filled, hfilled, hbits⟩ := exists_setBits? hcleared
  have hbuffer : filled = buffer value width :=
    Word.bitsOfBytes_inj (hbits.trans (bitsOfBytes_buffer value hwidth).symm)
  rw [hbuffer, List.length_nil] at hfilled
  rw [buffer?, bits?_highFirst value hwidth, Option.bind_eq_bind, Option.bind_some, hpulses,
    Option.bind_eq_bind, Option.bind_some, ← List.flatMap_def, ← pulses, hfilled,
    Option.bind_eq_bind, Option.bind_some, hlength]
  rfl

/-- What is sent for a value of at most a word are bytes of the buffer. -/
theorem encode?_eq (value : Word) {width : Nat} (hwidth : width ≤ Word.maxWidth) :
    encode? value.toBitVec width = some (encode value width) := by
  have hmax : width ≤ 32 := hwidth
  have hcount : bytesUsed width ≤ (buffer value width).length := by
    rw [bytesUsed, buffer, List.length_map, List.length_range, bufferSize]
    omega
  rw [encode?, buffer?_eq value hwidth, Option.bind_eq_bind, Option.bind_some]
  exact if_pos hcount

end Register

end BusProbe.Led
