import BusProbe.Proofs.Led.Buffer

/-!
# What the bytes of the LED bus carry

The bytes that carry a value are as many as its pulses fill, and are the pulses with low bits after
them (`bitsOfBytes_encode`). The middle bit of each pulse is a bit of the value, so that the value
can be read off the buffer again (`decode_buffer`). Eight bits of a value fill three bytes, so where
a value is divided before a whole number of bytes of it, the bytes of its two parts are the bytes of
the value (`encode_divided`).
-/

set_option autoImplicit false
set_option relaxedAutoImplicit false

namespace BusProbe.Led

open Word (bitsOfBytes)

/-! ### Reading pulses -/

/-- The bits of data in a list of pulses: the middle one of every three, some number of times. -/
def middles : Nat → List Bool → List Bool
  | count + 1, _ :: bit :: _ :: rest => bit :: middles count rest
  | _, _ => []

/-- The number that the pulses at the beginning of some bytes carry. -/
def decode (bytes : List UInt8) (width : Nat) : Nat :=
  Word.denoted (middles width (bitsOfBytes bytes))

/-- The bits of data are read from their pulses, whatever comes after these. -/
theorem middles_flatMap_pulse (bits rest : List Bool) :
    middles bits.length (bits.flatMap pulse ++ rest) = bits := by
  induction bits with
  | nil => rfl
  | cons bit bits ih => exact congrArg (bit :: ·) ih

/-- The pulses of a value in a buffer carry the value cut down to its width. -/
theorem decode_buffer (value : Word) {width : Nat} (hwidth : width ≤ Word.maxWidth) :
    decode (buffer value width) width = value.toNat % 2 ^ width := by
  have hmiddles := middles_flatMap_pulse (Word.bits value width)
    (List.replicate (96 - 3 * width) false)
  rw [Word.length_bits] at hmiddles
  rw [decode, bitsOfBytes_buffer value hwidth, pulses, hmiddles, Word.denoted_bits]

/-! ### Dividing a value -/

/-- The bytes that carry a value are its pulses, and then low bits up to the end of the last. -/
theorem bitsOfBytes_encode (value : Word) {width : Nat} (hwidth : width ≤ Word.maxWidth) :
    bitsOfBytes (encode value width) =
      pulses value width ++ List.replicate (8 * bytesUsed width - 3 * width) false := by
  have hmax : width ≤ 32 := hwidth
  have hpulses : (pulses value width).length ≤ 8 * bytesUsed width := by
    rw [length_pulses, bytesUsed]
    omega
  have hzeros : min (8 * bytesUsed width - 3 * width) (96 - 3 * width) =
      8 * bytesUsed width - 3 * width := by
    rw [bytesUsed]
    omega
  rw [encode, Word.bitsOfBytes_take, bitsOfBytes_buffer value hwidth, List.take_append,
    List.take_of_length_le hpulses, List.take_replicate, length_pulses, hzeros]

/-- The pulses of a value are those of its high bits and then those of its low bits. -/
theorem pulses_add (value : Word) (high low : Nat) :
    pulses value (high + low) =
      pulses (UInt32.ofNat (value.toNat >>> low)) high ++ pulses value low := by
  rw [pulses, pulses, pulses, Nat.add_comm, Word.bits_add, Word.bits_shiftRight,
    List.flatMap_append]

/-- Where the high bits of a value are a whole number of bytes, the bytes that carry the value are
those that carry its high bits and then those that carry its low bits. -/
theorem encode_divided (value : Word) {high low : Nat} (hwidth : high + low ≤ Word.maxWidth)
    (hbytes : 8 ∣ high) :
    encode value (high + low) =
      encode (UInt32.ofNat (value.toNat >>> low)) high ++ encode value low := by
  have hhigh : high ≤ Word.maxWidth := Nat.le_trans (Nat.le_add_right ..) hwidth
  have hlow : low ≤ Word.maxWidth := Nat.le_trans (Nat.le_add_left ..) hwidth
  have hfull : 8 * bytesUsed high - 3 * high = 0 := by
    rw [bytesUsed]
    omega
  have hrest : 8 * bytesUsed (high + low) - 3 * (high + low) = 8 * bytesUsed low - 3 * low := by
    rw [bytesUsed, bytesUsed]
    omega
  refine Word.bitsOfBytes_inj ?_
  rw [bitsOfBytes_encode value hwidth, pulses_add, hrest, bitsOfBytes, List.flatMap_append,
    ← bitsOfBytes, ← bitsOfBytes, bitsOfBytes_encode _ hhigh, bitsOfBytes_encode value hlow, hfull,
    List.replicate_zero, List.append_nil, List.append_assoc]

/-- The bytes that carry a value of at most a word. They are the fewest that hold three bits for
each bit of the value: in a buffer of twelve bytes these are, from the highest bit of the value
down, `110` for a one and `100` for a zero, and all bits after them are low. This buffer is what
comes out where the pulses are put into a cleared one bit by bit. So the value, cut down to its
width, can be read off the buffer; and a value is carried by the bytes of its high bits and then
those of its low bits, wherever the high bits are a whole number of bytes. -/
theorem encode_exact (value : Word) :
    (∀ width ≤ 32,
      buffer? value.toBitVec width = some (buffer value width, (3 * width + 7) / 8) ∧
      (buffer value width).length = 12 ∧
      encode value width = (buffer value width).take ((3 * width + 7) / 8) ∧
      (encode value width).length = (3 * width + 7) / 8 ∧
      bitsOfBytes (buffer value width) =
        ((List.range width).reverse.flatMap fun i ↦
          if value.toNat.testBit i then [true, true, false] else [true, false, false]) ++
            List.replicate (96 - 3 * width) false ∧
      decode (buffer value width) width = value.toNat % 2 ^ width) ∧
    ∀ high low, high + low ≤ 32 → 8 ∣ high →
      encode value (high + low) =
        encode (UInt32.ofNat (value.toNat >>> low)) high ++ encode value low := by
  have hpulse : ∀ bit, pulse bit = if bit then [true, true, false] else [true, false, false] := by
    decide
  refine ⟨fun width hwidth ↦ ?_, fun high low hwidth hbytes ↦ encode_divided value hwidth hbytes⟩
  refine ⟨buffer?_eq value hwidth, by simp [buffer, bufferSize], rfl,
    length_encode value width hwidth, ?_, decode_buffer value hwidth⟩
  rw [bitsOfBytes_buffer value hwidth, pulses, Word.bits, List.flatMap_map]
  simp only [hpulse]

/-- Thirteen bits fill five bytes, from which they are read back. The first three of these carry the
eight bits above the lowest five, and the last two those five. -/
theorem thirteen_bits_encoded :
    13 ≤ 32 ∧ 8 ∣ 8 ∧ (encode 0x12345678 13).length = 5 ∧
      decode (buffer 0x12345678 13) 13 = 0x1678 ∧
      encode 0x12345678 (8 + 5) = encode 0x91a2b3 8 ++ encode 0x12345678 5 := by
  obtain ⟨hwidths, hdivided⟩ := encode_exact 0x12345678
  obtain ⟨-, -, -, hlength, -, hdecode⟩ := hwidths 13 (by decide)
  exact ⟨by decide, by decide, hlength, hdecode.trans (by decide),
    hdivided 8 5 (by decide) (by decide)⟩

end BusProbe.Led
