import MessageRefs.Proofs.Position.Index
import MessageRefs.Proofs.Position.Resolve
import MessageRefs.Proofs.Text.Utf8

/-!
**A line index counts lines and characters.**

The position of a place is found by a table of lines, a binary search in it and, on lines of ASCII, a
subtraction of offsets. What it says can be counted off the text.

* `Position.CountsTo`: the coordinates of an offset, counted off the text;
* `LineIndex.charactersFrom_of_isAscii`: on a line of ASCII the subtraction counts the characters;
* `LineIndex.position_countsTo`: the position of every place is counted off the text.
-/

namespace MessageRefs

/-- The coordinates of an offset, counted off a text: the line breaks among the bytes before the
offset, and the characters from behind the last of them, or from the beginning of the text, up to
the offset. Both are held at the limit. -/
structure Position.CountsTo (position : Position) (text : List Char) (offset : Nat) : Prop where
  line : position.line = min (((Text.bytes text).take offset).count 10) limit
  character : ∃ before part rest, text = before ++ part ++ rest ∧
    (before = [] ∨ ∃ lines, before = lines ++ ['\n']) ∧ '\n' ∉ part ∧
    Text.byteLength (before ++ part) = offset ∧ position.character = min part.length limit

theorem Text.take_bytes_append (front rest : List Char) :
    (bytes (front ++ rest)).take (byteLength front) = bytes front := by
  rw [bytes_append, ← length_bytes, List.take_left]

theorem Position.behind_countsTo {text front rest : List Char} (split : text = front ++ rest) :
    (behind front).CountsTo text (Text.byteLength front) := by
  subst split
  refine ⟨?_, ?_⟩
  · rw [Text.take_bytes_append, Text.count_newline_bytes]
    rfl
  · obtain ⟨start, line, starts⟩ := Text.exists_lineStart front
    refine ⟨start, Text.lastLine front, rest, ?_, Text.lineStart_cases starts,
      Text.newline_notMem_lastLine front, ?_, rfl⟩
    · rw [← line]
    · rw [← line]

namespace LineIndex

/-- **On a line of ASCII the subtraction counts the characters.** -/
theorem charactersFrom_of_isAscii {text : List Char} {number offset : Nat}
    (inside : number < (ofText text).lines.size) (isAscii : (ofText text).lines[number].isAscii)
    (on : (ofText text).lineOf offset = number) (within : offset ≤ Text.byteLength text) :
    charactersFrom 0 (offset - (ofText text).lines[number].start) (ofText text).lines[number].text
      = offset - (ofText text).lines[number].start := by
  rw [charactersFrom_eq, Nat.zero_add, length_upTo_of_isAscii text inside isAscii on within]

theorem position_byteLength_countsTo {text front rest : List Char} (split : text = front ++ rest) :
    ((ofText text).position (Text.byteLength front)).CountsTo text (Text.byteLength front) := by
  rw [position_byteLength text split]
  exact Position.behind_countsTo split

/-- **The position of every place is counted off the text.** An offset past the end is taken as the
end. On lines of ASCII the offset within the line is the number of characters, and there is one line
more than there are line breaks. -/
theorem position_countsTo (text : List Char) :
    (∀ offset, Text.isBoundary text offset = true →
      ((ofText text).position offset).CountsTo text offset) ∧
    (∀ offset, Text.byteLength text < offset →
      ((ofText text).position offset).CountsTo text (Text.byteLength text)) ∧
    (∀ (number offset : Nat) (inside : number < (ofText text).lines.size),
      (ofText text).lines[number].isAscii → (ofText text).lineOf offset = number →
      offset ≤ Text.byteLength text →
      charactersFrom 0 (offset - (ofText text).lines[number].start) (ofText text).lines[number].text
        = offset - (ofText text).lines[number].start) ∧
    (ofText text).lineCount = text.count '\n' + 1 := by
  refine ⟨?_, ?_, ?_, lineCount_ofText text⟩
  · intro offset boundary
    obtain ⟨front, rest, split, rfl⟩ := Text.exists_front_of_isBoundary boundary
    exact position_byteLength_countsTo split
  · intro offset past
    have same : (ofText text).position offset = (ofText text).position (Text.byteLength text) := by
      rw [position_eq_behind, position_eq_behind, Text.upTo_of_le (Nat.le_of_lt past),
        Text.upTo_of_le (Nat.le_refl _)]
    rw [same]
    exact position_byteLength_countsTo (List.append_nil text).symm
  · intro number offset inside isAscii on within
    exact charactersFrom_of_isAscii inside isAscii on within

/-- A place on the second of two lines, an offset past the end, and the line of ASCII between. -/
theorem position_countsTo_two_lines :
    Text.isBoundary "é\nab".toList 4 = true ∧
    ((ofText "é\nab".toList).position 4).CountsTo "é\nab".toList 4 ∧
    Text.byteLength "é\nab".toList < 9 ∧
    ((ofText "é\nab".toList).position 9).CountsTo "é\nab".toList 5 ∧
    (ofText "é\nab".toList).lineOf 5 = 1 ∧ charactersFrom 0 (5 - 3) ['a', 'b'] = 5 - 3 := by
  have inside : 1 < (ofText "é\nab".toList).lines.size := by decide
  have line : (ofText "é\nab".toList).lines[1] = ⟨3, true, ['a', 'b']⟩ := rfl
  have on : (ofText "é\nab".toList).lineOf 5 = 1 := by decide +kernel
  obtain ⟨places, past, ascii, -⟩ := position_countsTo "é\nab".toList
  have counted := ascii 1 5 inside (by rw [line]) on (by decide)
  rw [line] at counted
  exact ⟨by decide, places 4 (by decide), by decide, past 9 (by decide), on, counted⟩

end LineIndex

end MessageRefs
