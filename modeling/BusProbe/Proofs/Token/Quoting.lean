import BusProbe.Proofs.Text.Encoding
import BusProbe.Proofs.Token.Classes

/-!
# Quoted texts

A text between quotes is written byte by byte, whichever of the two quotes it stands between
(`quoted_writes_bytes`). Between single quotes a text of one byte is a character and every other one
a literal (`classify_singleQuoted`), and between double quotes all of them are literals
(`classify_doubleQuoted`), but a character stands for the write that its literal stands for
(`operations_singleQuoted`).
-/

set_option autoImplicit false
set_option relaxedAutoImplicit false

namespace BusProbe.Token

open Text (utf8)

/-! ### Classification -/

/-- A text with a quote before it and one behind it. -/
theorem quoted_eq_ofList (quote : Char) (text : String) :
    String.ofList [quote] ++ text ++ String.ofList [quote] =
      String.ofList (quote :: (text.toList ++ [quote])) := by
  rw [← String.toList_inj]
  simp

theorem singleQuoted_eq_ofList (text : String) :
    "\x27" ++ text ++ "\x27" = String.ofList ('\x27' :: (text.toList ++ ['\x27'])) :=
  quoted_eq_ofList '\x27' text

/-- Between quotes, a text that is not an ASCII character between single quotes is a literal. -/
theorem classify_literal {quote : Char} (hquote : quote = '\x27' ∨ quote = '"') {text : String}
    (hother : ∀ c, quote = '\x27' → text.toList = [c] → 128 ≤ c.toNat) :
    classify (String.ofList (quote :: (text.toList ++ [quote]))) = .literal text := by
  have hclass := (Reads.literal quote text.toList hquote hother).classify_eq
  rwa [String.ofList_toList] at hclass

theorem classify_doubleQuoted (text : String) :
    classify ("\"" ++ text ++ "\"") = .literal text := by
  have hquoted : "\"" ++ text ++ "\"" = _ := quoted_eq_ofList '"' text
  rw [hquoted]
  exact classify_literal (.inr rfl) fun c hquote ↦ absurd hquote (by decide)

/-- A text of one byte between single quotes is a character. -/
theorem classify_character {text : String} {byte : UInt8} (hbyte : utf8 text = [byte]) :
    classify ("\x27" ++ text ++ "\x27") = .character byte := by
  obtain ⟨c, htext, hascii, rfl⟩ := Text.utf8_eq_singleton_iff.mp hbyte
  rw [singleQuoted_eq_ofList, htext]
  exact (Reads.character c hascii).classify_eq

/-- Between single quotes the number of bytes decides what a text is. -/
theorem classify_singleQuoted (text : String) :
    classify ("\x27" ++ text ++ "\x27") =
      match utf8 text with
      | [byte] => .character byte
      | _ => .literal text := by
  split
  · rename_i byte hbyte
    exact classify_character hbyte
  · rename_i hother
    rw [singleQuoted_eq_ofList]
    refine classify_literal (.inl rfl) fun c _ htext ↦ Nat.le_of_not_lt fun hascii ↦ ?_
    exact hother c.toUInt8 (Text.utf8_eq_singleton_iff.mpr ⟨c, htext, hascii, rfl⟩)

/-- Just the texts of one byte are characters between single quotes. -/
theorem classify_singleQuoted_eq_character_iff (text : String) (byte : UInt8) :
    classify ("\x27" ++ text ++ "\x27") = .character byte ↔ utf8 text = [byte] := by
  refine ⟨fun hclass ↦ ?_, classify_character⟩
  rw [classify_singleQuoted] at hclass
  split at hclass
  · rename_i other hother
    rw [hother, Token.character.inj hclass]
  · cases hclass

/-! ### What is written -/

/-- A character and a literal stand for the same writes. -/
theorem operations_singleQuoted (text : String) :
    (classify ("\x27" ++ text ++ "\x27")).operations = (Token.literal text).operations := by
  rw [classify_singleQuoted]
  split
  · rename_i byte hbyte
    rw [operations, operations, ← utf8, hbyte]
    rfl
  · rfl

/-- The data of the writes of some bytes are the bytes. -/
theorem map_toUInt8_writeByte (bytes : List UInt8) :
    (bytes.map writeByte).map (fun op ↦ op.data.toUInt8) = bytes := by
  rw [List.map_map]
  refine List.map_id'' (fun byte ↦ ?_) bytes
  exact UInt8.toUInt8_toUInt32 byte

/-- For every text. Between quotes of either kind it stands for one write for each of its bytes in
UTF-8, in order: of the byte, in eight bits, once, with neither a width nor a count of its own. So
just the empty text stands for nothing. The data of the writes are the bytes, from which the text is
read back. Between single quotes a text is a character just if it is of one byte, and what it stands
for is in either case what the literal of the text stands for. -/
theorem quoted_writes_bytes (text : String) :
    (classify ("\x27" ++ text ++ "\x27")).operations =
      (utf8 text).map (fun byte ↦ ⟨.write, byte.toUInt32, 8, 1, false, false⟩) ∧
    (classify ("\"" ++ text ++ "\"")).operations =
      (utf8 text).map (fun byte ↦ ⟨.write, byte.toUInt32, 8, 1, false, false⟩) ∧
    ((classify ("\x27" ++ text ++ "\x27")).operations = [] ↔ text = "") ∧
    (classify ("\x27" ++ text ++ "\x27")).operations.map (fun op ↦ op.data.toUInt8) = utf8 text ∧
    String.fromUTF8? ⟨((classify ("\x27" ++ text ++ "\x27")).operations.map fun op ↦
      op.data.toUInt8).toArray⟩ = some text ∧
    (∀ byte, classify ("\x27" ++ text ++ "\x27") = .character byte ↔ utf8 text = [byte]) ∧
    (classify ("\x27" ++ text ++ "\x27")).operations = (Token.literal text).operations := by
  have hwrites : (classify ("\x27" ++ text ++ "\x27")).operations = (utf8 text).map writeByte :=
    operations_singleQuoted text
  have hdata := map_toUInt8_writeByte (utf8 text)
  rw [classify_doubleQuoted, hwrites, hdata, List.map_eq_nil_iff, Text.utf8_eq_nil_iff]
  exact ⟨rfl, rfl, Iff.rfl, rfl, Text.fromUTF8?_utf8 text,
    classify_singleQuoted_eq_character_iff text, rfl⟩

/-- A quote between quotes is one byte, and a letter beyond ASCII is two. -/
example : (classify "\x27\x27\x27").operations = [writeByte 0x27] ∧
    (classify "\x27é\x27").operations = [writeByte 0xC3, writeByte 0xA9] := by
  decide +kernel

end BusProbe.Token
