import GridSource.Url.Percent
import Mathlib.Data.List.Basic
import Mathlib.Tactic.IntervalCases

/-!
# Undoing percent encoding

A text is encoded character by character and decoded byte by byte.  Both sides
meet in the UTF-8 bytes of a character: whatever the safe class, as long as the
percent sign itself is not safe, the bytes read from an encoded text are those
of the text.
-/

namespace GridSource

theorem byteArray_toList_loop (bytes : ByteArray) (start : Nat) (read : List UInt8) :
    ByteArray.toList.loop bytes start read = read.reverse ++ bytes.data.toList.drop start := by
  induction start, read using ByteArray.toList.loop.induct bytes with
  | case1 start read hstart ih =>
      have hlt : start < bytes.data.toList.length := by
        simpa only [Array.length_toList, ByteArray.size_data] using hstart
      have hget : bytes.get! start = bytes.data.toList[start] := by
        rw [ByteArray.get!, getElem!_pos bytes.data start hlt, Array.getElem_toList]
      rw [ByteArray.toList.loop, if_pos hstart, ih, List.drop_eq_getElem_cons hlt, hget]
      simp
  | case2 start read hstart =>
      rw [ByteArray.toList.loop, if_neg hstart]
      have hle : bytes.data.toList.length ≤ start := by
        simpa only [Array.length_toList, ByteArray.size_data] using Nat.le_of_not_lt hstart
      rw [List.drop_eq_nil_of_le hle, List.append_nil]

@[simp]
theorem byteArray_toList (bytes : ByteArray) : bytes.toList = bytes.data.toList := by
  rw [ByteArray.toList, byteArray_toList_loop]
  rfl

/-- The bytes of a character, as a list. -/
@[simp]
theorem toList_toUTF8_singleton (character : Char) :
    (String.singleton character).toUTF8.toList = String.utf8EncodeChar character := by
  rw [byteArray_toList, String.toUTF8_eq_toByteArray, String.toByteArray_singleton,
    List.utf8Encode_singleton, List.toList_data_toByteArray]

namespace Percent

theorem hexValue?_upperHexDigit {value : Nat} (hvalue : value < 16) :
    hexValue? (upperHexDigit value) = some value := by
  interval_cases value <;> rfl

theorem decodeBytes_encodeByte (byte : UInt8) (rest : List Char) :
    decodeBytes (encodeByte byte ++ rest) = byte :: decodeBytes rest := by
  have hbyte : byte.toNat < 256 := byte.toNat_lt
  have hhigh := hexValue?_upperHexDigit (show byte.toNat / 16 < 16 by omega)
  have hlow := hexValue?_upperHexDigit (show byte.toNat % 16 < 16 by omega)
  have hsum : byte.toNat / 16 * 16 + byte.toNat % 16 = byte.toNat := by omega
  rw [encodeByte]
  simp only [List.cons_append, List.nil_append, decodeBytes, hhigh, hlow, hsum]
  rw [UInt8.ofNat_toNat]

theorem decodeBytes_encodeBytes (bytes : List UInt8) (rest : List Char) :
    decodeBytes (bytes.flatMap encodeByte ++ rest) = bytes ++ decodeBytes rest := by
  induction bytes with
  | nil => rfl
  | cons byte bytes ih =>
      rw [List.flatMap_cons, List.append_assoc, decodeBytes_encodeByte, ih, List.cons_append]

theorem decodeBytes_cons_of_ne {character : Char} (hcharacter : character ≠ '%')
    (rest : List Char) :
    decodeBytes (character :: rest) = String.utf8EncodeChar character ++ decodeBytes rest := by
  rw [decodeBytes.eq_def]
  split
  · contradiction
  · next heq =>
      exact absurd (List.cons.inj heq).1 hcharacter
  · next heq =>
      obtain ⟨rfl, rfl⟩ := List.cons.inj heq
      rw [toList_toUTF8_singleton]

variable {safe : Char → Bool}

/-- An encoded character stands for its own bytes. -/
theorem decodeBytes_encodeChar (hsafe : safe '%' = false) (character : Char)
    (rest : List Char) :
    decodeBytes (encodeChar safe character ++ rest) =
      String.utf8EncodeChar character ++ decodeBytes rest := by
  rw [encodeChar]
  split
  · next hcharacter =>
      have hne : character ≠ '%' := by
        rintro rfl
        simp [hsafe] at hcharacter
      exact decodeBytes_cons_of_ne hne rest
  · rw [toList_toUTF8_singleton, decodeBytes_encodeBytes]

theorem decodeBytes_encodeChars (hsafe : safe '%' = false) (characters : List Char) :
    decodeBytes (characters.flatMap (encodeChar safe)) =
      characters.flatMap String.utf8EncodeChar := by
  induction characters with
  | nil => simp [decodeBytes]
  | cons character characters ih =>
      rw [List.flatMap_cons, List.flatMap_cons, decodeBytes_encodeChar hsafe, ih]

/-- The bytes of a text decode to the text. -/
theorem fromUTF8?_utf8EncodeChars (content : String) :
    String.fromUTF8? ⟨(content.toList.flatMap String.utf8EncodeChar).toArray⟩ = some content := by
  have hbytes :
      (⟨(content.toList.flatMap String.utf8EncodeChar).toArray⟩ : ByteArray) =
        content.toByteArray := by
    rw [← String.utf8Encode_toList, List.utf8Encode]
    apply ByteArray.ext
    apply Array.ext'
    rw [List.toList_data_toByteArray]
  rw [hbytes, String.fromUTF8?, dif_pos content.isValidUTF8]
  rfl

/-- Percent encoding can be undone when the percent sign is not safe. -/
theorem decode?_encode (hsafe : safe '%' = false) (content : String) :
    decode? (encode safe content) = some content := by
  have hbytes : decodeBytes (encode safe content).toList =
      content.toList.flatMap String.utf8EncodeChar := by
    rw [encode, String.toList_ofList, decodeBytes_encodeChars hsafe]
  rw [decode?, hbytes, fromUTF8?_utf8EncodeChars]

/-- What an encoded character consists of: safe characters, percent signs and
upper-case hexadecimal digits. -/
theorem mem_encodeChar {character piece : Char} (hpiece : piece ∈ encodeChar safe character) :
    safe piece = true ∨ piece = '%' ∨ ∃ value < 16, piece = upperHexDigit value := by
  rw [encodeChar] at hpiece
  split at hpiece
  · next hcharacter =>
      rw [List.mem_singleton] at hpiece
      exact .inl (hpiece ▸ hcharacter)
  · obtain ⟨byte, -, hpiece⟩ := List.mem_flatMap.mp hpiece
    have hbyte : byte.toNat < 256 := byte.toNat_lt
    simp only [encodeByte, List.mem_cons, List.not_mem_nil, or_false] at hpiece
    rcases hpiece with rfl | rfl | rfl
    · exact .inr (.inl rfl)
    · exact .inr (.inr ⟨_, by omega, rfl⟩)
    · exact .inr (.inr ⟨_, by omega, rfl⟩)

end Percent

end GridSource
