import MessageRefs.Position.Cursor
import MessageRefs.Proofs.Position.Index

/-!
**A cursor gives the coordinates of every offset, wherever it comes from.**

* `Cursor.IsBehind`: what a cursor knows at the place behind a first part of a text;
* `Cursor.IsBehind.moveTo`: from any place, a cursor moves behind the text before an offset;
* `Cursor.Reads.exists_position`: a cursor and a line index agree on an offset, and the cursor still
  knows its place afterwards;
* `Cursor.positions_atStart`: they agree on offsets in any order.
-/

namespace MessageRefs

/-- From a place on the line of an offset, no line break stands before the offset. -/
theorem LineIndex.newline_notMem_upTo {text front rest : List Char} {offset : Nat}
    (split : text = front ++ rest) (number : front.count '\n' = (ofText text).lineOf offset)
    (reached : Text.byteLength front ≤ offset) :
    '\n' ∉ Text.upTo (offset - Text.byteLength front) rest := by
  obtain ⟨start, line, starts⟩ := Text.exists_lineStart front
  have noBreak := Text.newline_notMem_lastLine front
  generalize Text.lastLine front = part at line noBreak
  subst line
  rw [List.count_append, List.count_eq_zero.mpr noBreak, Nat.add_zero] at number
  rw [List.append_assoc] at split
  rw [Text.byteLength_append] at reached ⊢
  have clear := (lineOf_spec text split starts number).2
  rw [Text.upTo_append rest (by omega), List.mem_append, not_or, Nat.sub_sub] at clear
  exact clear.2

namespace Cursor

/-- A cursor of a text stands behind a first part of it and knows its coordinates there. -/
structure IsBehind (cursor : Cursor) (text front : List Char) : Prop where
  index : cursor.index = LineIndex.ofText text
  whole : text = front ++ cursor.rest
  line : cursor.line = front.count '\n'
  offset : cursor.offset = Text.byteLength front
  character : cursor.character = (Text.lastLine front).length

variable {cursor : Cursor} {text front : List Char} {target : Nat}

/-- Where a line starts, no characters have been counted. -/
theorem exists_isBehind_atLine (text : List Char) (number : Nat)
    (inside : number < (LineIndex.ofText text).lines.size) :
    ∃ front, (atLine (LineIndex.ofText text) number inside).IsBehind text front ∧
      Text.lastLine front = [] ∧ front.count '\n' = number := by
  obtain ⟨front, split, start, starts, count, -⟩ := (LineIndex.lines_isComplete text).2 number inside
  refine ⟨front, ⟨rfl, split, count.symm, start.symm, ?_⟩, starts, count⟩
  rw [starts]
  rfl

namespace IsBehind

/-- Over a character that is no line break, the cursor counts one more on the same line. -/
theorem next {index : LineIndex} {line offset character : Nat} {c : Char} {rest : List Char}
    (stands : IsBehind ⟨index, line, offset, character, c :: rest⟩ text front) (other : c ≠ '\n') :
    IsBehind ⟨index, line, offset + c.utf8Size, character + 1, rest⟩ text (front ++ [c]) := by
  have noBreak := Text.newline_notMem_singleton other
  obtain ⟨ofText, whole, count, size, length⟩ := stands
  refine ⟨ofText, ?_, ?_, ?_, ?_⟩
  · rw [List.append_assoc]
    exact whole
  · rw [List.count_append, List.count_eq_zero.mpr noBreak]
    exact count
  · rw [Text.byteLength_append, ← size]
    rfl
  · rw [Text.lastLine_append noBreak, List.length_append, ← length]
    rfl

/-- **Forward on its line, the cursor reads the text up to an offset.** -/
theorem forward {index : LineIndex} {line offset character : Nat} {rest : List Char}
    (stands : IsBehind ⟨index, line, offset, character, rest⟩ text front)
    (noBreak : '\n' ∉ Text.upTo (target - Text.byteLength front) rest) :
    (Cursor.forward index target line offset character rest).IsBehind text
      (front ++ Text.upTo (target - Text.byteLength front) rest) := by
  induction rest generalizing front offset character with
  | nil =>
    rw [Text.upTo_nil, List.append_nil]
    exact stands
  | cons c rest ih =>
    have size : offset = Text.byteLength front := stands.offset
    by_cases below : offset < target
    · have read : Text.upTo (target - Text.byteLength front) (c :: rest)
          = c :: Text.upTo (target - Text.byteLength (front ++ [c])) rest := by
        rw [Text.upTo_cons (by omega), Text.byteLength_concat, Nat.sub_sub]
      rw [read, List.mem_cons, not_or] at noBreak
      rw [Cursor.forward, if_pos below, read, List.append_cons]
      exact ih (stands.next (Ne.symm noBreak.1)) noBreak.2
    · have none : target - Text.byteLength front = 0 := by omega
      rw [Cursor.forward, if_neg below, none, Text.upTo_zero, List.append_nil]
      exact stands

/-- Before it moves, the cursor stands on the line of the offset, at the offset or before it. -/
theorem onLineOf (stands : cursor.IsBehind text front) (target : Nat) :
    ∃ nearer, (cursor.onLineOf target).IsBehind text nearer ∧
      Text.byteLength nearer ≤ target ∧
      nearer.count '\n' = (LineIndex.ofText text).lineOf target := by
  obtain ⟨index, line, offset, character, rest⟩ := cursor
  obtain rfl : index = LineIndex.ofText text := stands.index
  rw [Cursor.onLineOf]
  split
  next restarts =>
    obtain ⟨start, atStart, starts, number⟩ :=
      exists_isBehind_atLine text _ ((LineIndex.ofText text).lineOf_lt target)
    exact ⟨start, atStart, (LineIndex.lineOf_spec text atStart.whole starts number).1, number⟩
  next goesOn =>
    rw [not_or, not_not, Nat.not_lt] at goesOn
    exact ⟨front, stands, stands.offset ▸ goesOn.2, stands.line.symm.trans goesOn.1.symm⟩

/-- **From any place, a cursor moves behind the text before an offset.** It may come to stand
past the offset, behind the character in which the offset lies. -/
theorem moveTo (stands : cursor.IsBehind text front) (target : Nat) :
    (cursor.moveTo target).IsBehind text (Text.upTo target text) := by
  obtain ⟨nearer, first, reached, number⟩ := stands.onLineOf target
  have read : Text.upTo target text = nearer
      ++ Text.upTo (target - Text.byteLength nearer) (cursor.onLineOf target).rest := by
    rw [← Text.upTo_append _ reached, ← first.whole]
  rw [read]
  exact first.forward (LineIndex.newline_notMem_upTo first.whole number reached)

theorem saturated_eq (stands : cursor.IsBehind text front) :
    Position.saturated cursor.line cursor.character = .behind front := by
  rw [stands.line, stands.character, Position.behind]

end IsBehind

/-! ### Cursors of a text -/

/-- A cursor reads a text when it stands at a place of it, and knows the coordinates there. -/
def Reads (cursor : Cursor) (text : List Char) : Prop :=
  ∃ front, cursor.IsBehind text front

theorem reads_atStart (text : List Char) : (atStart text).Reads text := by
  obtain ⟨front, stands, -⟩ := exists_isBehind_atLine text 0 (LineIndex.ofText text).lines_pos
  exact ⟨front, stands⟩

namespace Reads

/-- **A cursor and a line index agree on every offset**, and the cursor still reads the text
afterwards. -/
theorem exists_position (reads : cursor.Reads text) (offset : Nat) :
    ∃ next : Cursor, next.Reads text ∧
      cursor.position offset = ((LineIndex.ofText text).position offset, next) := by
  obtain ⟨front, stands⟩ := reads
  obtain ⟨index, line, place, character, rest⟩ := cursor
  obtain rfl : index = LineIndex.ofText text := stands.index
  have clamped : (LineIndex.ofText text).position (min offset (LineIndex.ofText text).byteCount)
      = (LineIndex.ofText text).position offset := by
    rw [LineIndex.position_eq_behind, LineIndex.position_eq_behind]
    exact congrArg Position.behind (Text.upTo_min offset text)
  rw [← clamped, position]
  split
  next isAscii => exact ⟨_, ⟨front, stands⟩, rfl⟩
  next =>
    have moved := stands.moveTo (min offset (LineIndex.ofText text).byteCount)
    have answered := moved.saturated_eq.trans (LineIndex.position_eq_behind text _).symm
    exact ⟨_, ⟨_, moved⟩, congrArg (·, _) answered⟩

theorem positions_eq_map (reads : cursor.Reads text) (offsets : List Nat) :
    cursor.positions offsets = offsets.map (LineIndex.ofText text).position := by
  induction offsets generalizing cursor with
  | nil => rfl
  | cons offset others ih =>
    obtain ⟨next, still, answered⟩ := reads.exists_position offset
    rw [positions, answered, List.map_cons]
    exact congrArg _ (ih still)

end Reads

/-- **A cursor gives offsets in any order the positions that the line index gives them.** -/
theorem positions_atStart (text : List Char) (offsets : List Nat) :
    (atStart text).positions offsets = offsets.map (LineIndex.ofText text).position :=
  (reads_atStart text).positions_eq_map offsets

/-- Backward, past the end and inside a character, over a line beyond ASCII. -/
example : (atStart "a\nüb".toList).positions [9, 3, 2, 0, 4]
    = [⟨1, 2⟩, ⟨1, 1⟩, ⟨1, 0⟩, ⟨0, 0⟩, ⟨1, 1⟩] := by
  cbv

end Cursor

end MessageRefs
