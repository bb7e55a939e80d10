import MessageRefs.Proofs.Text.Splits
import Mathlib.Tactic.SplitIfs

/-!
**The bytes of a text.**

A text is sent and measured in bytes. The characters that a row of bytes writes are unique, and a
text that begins or ends with the bytes of another begins or ends with its characters.

* `bytes`: a text in UTF-8;
* `exists_append_of_bytes`, `exists_front_of_bytes`: parts of the bytes that write characters are
  parts of the text;
* `newline_mem_bytes_iff`, `count_newline_bytes`: a line break is the only character with the byte
  of a line break;
* `fromUTF8?_bytes`, `fromUTF8?_eq_none`: what is read back from bytes.
-/

namespace MessageRefs.Text

/-- A text in UTF-8. -/
def bytes (text : List Char) : List UInt8 :=
  text.flatMap String.utf8EncodeChar

theorem toByteArray_bytes (text : List Char) : (bytes text).toByteArray = text.utf8Encode := rfl

theorem bytes_append (first second : List Char) :
    bytes (first ++ second) = bytes first ++ bytes second :=
  List.flatMap_append

theorem length_bytes (text : List Char) : (bytes text).length = byteLength text := by
  induction text with
  | nil => rfl
  | cons c rest ih =>
    rw [byteLength_cons, ← ih, bytes, List.flatMap_cons, List.length_append,
      String.length_utf8EncodeChar]
    rfl

/-! ### Parts of the bytes -/

/-- A text that begins with the bytes of another begins with its characters. -/
theorem exists_append_of_bytes {first text : List Char} {others : List UInt8}
    (begins : bytes first ++ others = bytes text) :
    ∃ second, text = first ++ second ∧ others = bytes second := by
  have encoded := congrArg List.toByteArray begins
  rw [List.toByteArray_append, toByteArray_bytes, toByteArray_bytes] at encoded
  obtain ⟨second, rfl⟩ := List.isPrefix_of_utf8Encode_append_eq_utf8Encode _ encoded
  rw [bytes_append, List.append_cancel_left_eq] at begins
  exact ⟨second, rfl, begins⟩

theorem bytes_inj {first second : List Char} (same : bytes first = bytes second) :
    first = second := by
  rw [← List.append_nil (bytes first)] at same
  obtain ⟨more, rfl, empty⟩ := exists_append_of_bytes same
  have none : byteLength more = 0 := by rw [← length_bytes, ← empty, List.length_nil]
  rw [byteLength_eq_zero_iff.mp none, List.append_nil]

/-- What stands before valid bytes in valid bytes is valid. -/
theorem isValidUTF8_of_append {first second : ByteArray} (whole : (first ++ second).IsValidUTF8)
    (behind : second.IsValidUTF8) : first.IsValidUTF8 := by
  let text := String.fromUTF8 (first ++ second) whole
  have toByteArray_text : text.toByteArray = first ++ second := rfl
  have size : text.utf8ByteSize = first.size + second.size := by
    rw [← String.size_toByteArray, toByteArray_text, ByteArray.size_append]
  have isPlace : String.Pos.Raw.IsValid text ⟨first.size⟩ := by
    rw [String.Pos.Raw.isValid_iff_isValidUTF8_extract_utf8ByteSize, toByteArray_text, size,
      ByteArray.extract_append_eq_right rfl rfl]
    exact ⟨by simp [String.Pos.Raw.le_iff, size], behind⟩
  have front := isPlace.isValidUTF8_extract_zero
  rwa [toByteArray_text, ByteArray.extract_append_eq_left rfl] at front

/-- A text that ends with the bytes of another ends with its characters. -/
theorem exists_front_of_bytes {first : List UInt8} {second text : List Char}
    (ends : first ++ bytes second = bytes text) :
    ∃ front, text = front ++ second ∧ first = bytes front := by
  have whole : (first.toByteArray ++ (bytes second).toByteArray).IsValidUTF8 := by
    rw [← List.toByteArray_append, ends]
    exact ByteArray.isValidUTF8_utf8Encode
  obtain ⟨front, same⟩ := isValidUTF8_of_append whole ByteArray.isValidUTF8_utf8Encode
  obtain rfl : first = bytes front := List.toByteArray_inj.mp same
  obtain ⟨others, rfl, same⟩ := exists_append_of_bytes ends
  exact ⟨front, by rw [bytes_inj same], rfl⟩

/-! ### Line breaks -/

/-- All bytes of a character beyond ASCII have the high bit. -/
theorem high_of_mem_utf8EncodeChar {c : Char} (beyond : 127 < c.val.toNat) {byte : UInt8}
    (member : byte ∈ String.utf8EncodeChar c) : 128 ≤ byte.toNat := by
  unfold String.utf8EncodeChar at member
  dsimp only at member
  split_ifs at member with ascii
  · omega
  all_goals
    simp only [List.mem_cons, List.not_mem_nil, or_false] at member
    rcases member with rfl | rfl | rfl | rfl <;> rw [UInt8.toNat_ofNat'] <;> omega

theorem newline_mem_utf8EncodeChar_iff {c : Char} : 10 ∈ String.utf8EncodeChar c ↔ c = '\n' := by
  constructor
  · intro member
    rcases Nat.lt_or_ge 127 c.val.toNat with beyond | ascii
    · exact absurd (high_of_mem_utf8EncodeChar beyond member) (by decide)
    · rw [String.utf8EncodeChar, if_pos ascii, List.mem_singleton] at member
      have value := congrArg UInt8.toNat member
      rw [UInt8.toNat_ofNat', Nat.mod_eq_of_lt (by omega)] at value
      exact Char.ext (UInt32.toNat_inj.mp value.symm)
  · rintro rfl
    decide

/-- A line break is the only character with the byte of a line break. -/
theorem newline_mem_bytes_iff {text : List Char} : 10 ∈ bytes text ↔ '\n' ∈ text := by
  simp [bytes, newline_mem_utf8EncodeChar_iff]

/-- There are as many bytes of a line break as line breaks. -/
theorem count_newline_bytes (text : List Char) : (bytes text).count 10 = text.count '\n' := by
  induction text with
  | nil => rfl
  | cons c rest ih =>
    have single : (String.utf8EncodeChar c).count 10 = [c].count '\n' := by
      by_cases newline : c = '\n'
      · subst newline
        decide
      · have noBreak : '\n' ∉ [c] := fun member => newline (List.mem_singleton.mp member).symm
        rw [List.count_eq_zero.mpr noBreak]
        exact List.count_eq_zero.mpr fun member =>
          newline (newline_mem_utf8EncodeChar_iff.mp member)
    rw [← List.singleton_append, List.count_append, ← single, ← ih, bytes_append, List.count_append,
      bytes, List.flatMap_singleton]

/-! ### What is read back -/

theorem fromUTF8?_bytes (text : List Char) :
    String.fromUTF8? (bytes text).toByteArray = some (String.ofList text) := by
  have valid : (bytes text).toByteArray.IsValidUTF8 := ByteArray.isValidUTF8_utf8Encode
  rw [String.fromUTF8?, dif_pos valid]
  rfl

theorem fromUTF8?_eq_none {line : List UInt8} (invalid : ∀ text, line ≠ bytes text) :
    String.fromUTF8? line.toByteArray = none := by
  refine dif_neg ?_
  rintro ⟨text, same⟩
  exact invalid text (List.toByteArray_inj.mp same)

end MessageRefs.Text
