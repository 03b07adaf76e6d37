import Mathlib.Tactic.SplitIfs

/-!
# Texts as bytes

A text that leaves the probe is a list of bytes, and what an operator types arrives as one. The
bytes of a text are those of its characters one after another (`utf8_eq_flatMap`), so they can be
put together and taken apart where the text is (`utf8_append`), and a text is read back from its
bytes (`fromUTF8?_utf8`). A text of one byte is an ASCII character (`utf8_eq_singleton_iff`). Only
the line feed has the byte of a line feed among its own (`ne_lineFeed_of_mem_utf8EncodeChar`), which
is why bytes can be divided into lines before they are read as text.
-/

set_option autoImplicit false
set_option relaxedAutoImplicit false

namespace BusProbe.Text

/-- The bytes of a text in UTF-8. -/
def utf8 (text : String) : List UInt8 := text.toUTF8.toList

theorem toList_loop (bytes : ByteArray) (i : Nat) (past : List UInt8) :
    ByteArray.toList.loop bytes i past = past.reverse ++ bytes.data.toList.drop i := by
  fun_induction ByteArray.toList.loop bytes i past with
  | case1 i past hlt ih =>
    have hi : i < bytes.data.toList.length := by simpa using hlt
    rw [ih, List.drop_eq_getElem_cons hi]
    simp [ByteArray.get!, hlt]
  | case2 i past hge =>
    rw [List.drop_eq_nil_of_le (by simpa using Nat.le_of_not_lt hge), List.append_nil]

theorem utf8_eq_data (text : String) : utf8 text = text.toByteArray.data.toList := by
  rw [utf8, String.toUTF8, ByteArray.toList, toList_loop]
  rfl

/-- The bytes of a text are those of its characters. -/
theorem utf8_eq_flatMap (text : String) :
    utf8 text = text.toList.flatMap String.utf8EncodeChar := by
  have hbytes := String.toByteArray_ofList (l := text.toList)
  rw [String.ofList_toList] at hbytes
  rw [utf8_eq_data, hbytes, List.utf8Encode, List.toList_data_toByteArray]

theorem utf8_append (first second : String) :
    utf8 (first ++ second) = utf8 first ++ utf8 second := by
  rw [utf8_eq_flatMap, utf8_eq_flatMap, utf8_eq_flatMap, String.toList_append,
    List.flatMap_append]

@[simp]
theorem utf8_empty : utf8 "" = [] := by
  rw [utf8_eq_flatMap]
  rfl

/-- A text is read back from its bytes. -/
theorem fromUTF8?_utf8 (text : String) : String.fromUTF8? ⟨(utf8 text).toArray⟩ = some text := by
  have hbytes : (⟨(utf8 text).toArray⟩ : ByteArray) = text.toByteArray := by
    rw [utf8_eq_data]
  rw [hbytes, String.fromUTF8?, dif_pos text.isValidUTF8]
  rfl

/-- Different texts have different bytes. -/
theorem utf8_inj {first second : String} : utf8 first = utf8 second ↔ first = second := by
  refine ⟨fun hbytes ↦ ?_, congrArg utf8⟩
  have hread := fromUTF8?_utf8 first
  rw [hbytes, fromUTF8?_utf8] at hread
  exact (Option.some.inj hread).symm

/-- Only the empty text has no bytes. -/
theorem utf8_eq_nil_iff {text : String} : utf8 text = [] ↔ text = "" := by
  rw [← utf8_empty, utf8_inj]

/-- A character of one byte is an ASCII character. -/
theorem utf8Size_eq_one_iff {c : Char} : c.utf8Size = 1 ↔ c.toNat < 128 := by
  rw [Char.utf8Size_eq_one_iff, UInt32.le_iff_toNat_le]
  exact Nat.lt_succ_iff.symm

/-- Only an ASCII character alone is a text of one byte, since no character takes none. -/
theorem utf8_eq_singleton_iff {text : String} {byte : UInt8} :
    utf8 text = [byte] ↔ ∃ c, text.toList = [c] ∧ c.toNat < 128 ∧ c.toUInt8 = byte := by
  constructor
  · intro hbyte
    cases htext : text.toList with
    | nil =>
      rw [utf8_eq_flatMap, htext] at hbyte
      cases hbyte
    | cons c rest =>
      have hsplit : utf8 text = String.utf8EncodeChar c ++ utf8 (String.ofList rest) := by
        rw [utf8_eq_flatMap, utf8_eq_flatMap, htext, String.toList_ofList, List.flatMap_cons]
      have hlength := congrArg List.length (hsplit.symm.trans hbyte)
      rw [List.length_append, String.length_utf8EncodeChar, List.length_singleton] at hlength
      have hpos := c.utf8Size_pos
      have hone : c.utf8Size = 1 := by omega
      have hnone : utf8 (String.ofList rest) = [] := List.eq_nil_of_length_eq_zero (by omega)
      have hrest : rest = [] := String.ofList_eq_empty_iff.mp (utf8_eq_nil_iff.mp hnone)
      rw [hsplit, hnone, List.append_nil, String.utf8EncodeChar_eq_singleton hone] at hbyte
      exact ⟨c, by rw [hrest], utf8Size_eq_one_iff.mp hone, List.singleton_inj.mp hbyte⟩
  · rintro ⟨c, htext, hascii, rfl⟩
    rw [utf8_eq_flatMap, htext, List.flatMap_singleton,
      String.utf8EncodeChar_eq_singleton (utf8Size_eq_one_iff.mpr hascii)]
    rfl

/-! ### Line feeds -/

theorem ofNat_ne_lineFeed {n : Nat} (hn : n % 256 ≠ 10) : UInt8.ofNat n ≠ 10 := by
  intro hten
  have hvalue := congrArg UInt8.toNat hten
  rw [UInt8.toNat_ofNat'] at hvalue
  exact hn hvalue

/-- The byte of a line feed is in no other character: those of a character beyond ASCII are all at
least 128. -/
theorem ne_lineFeed_of_mem_utf8EncodeChar {c : Char} (hc : c ≠ '\n') :
    ∀ byte ∈ String.utf8EncodeChar c, byte ≠ 10 := by
  have hvalue : c.val.toNat ≠ 10 := fun h ↦ hc (Char.ext (UInt32.toNat_inj.mp h))
  intro byte hmem
  simp only [String.utf8EncodeChar] at hmem
  split_ifs at hmem
  all_goals
    simp only [List.mem_cons, List.not_mem_nil, or_false] at hmem
    rcases hmem with rfl | rfl | rfl | rfl
    all_goals exact ofNat_ne_lineFeed (by omega)

/-- A text without a line feed has no byte of one. -/
theorem ne_lineFeed_of_mem_utf8 {text : String} (htext : '\n' ∉ text.toList) :
    ∀ byte ∈ utf8 text, byte ≠ 10 := by
  intro byte hmem
  rw [utf8_eq_flatMap] at hmem
  obtain ⟨c, hc, hmem⟩ := List.mem_flatMap.mp hmem
  exact ne_lineFeed_of_mem_utf8EncodeChar (ne_of_mem_of_not_mem hc htext) byte hmem

theorem utf8_lineFeed : utf8 "\n" = [10] := by
  rw [utf8_eq_flatMap]
  rfl

end BusProbe.Text
