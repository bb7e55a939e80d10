import MessageRefs.Position.LineIndex
import MessageRefs.Proofs.Position.Coordinates

/-!
**A line index gives the coordinates of every offset.**

* `Table.countUpTo_parts`: binary search parts an increasing table;
* `LineIndex.lines_isAt`: an index keeps the lines of its text, each at its number;
* `LineIndex.position_eq_behind`: the position of an offset is that of the text before it.
-/

namespace MessageRefs

/-! ### Binary search -/

namespace Table

/-- Entries before `low` do not exceed the value, entries from `high` on do. -/
def Parts (table : Array Nat) (value low high : Nat) : Prop :=
  ∀ (i : Nat) (inside : i < table.size),
    (i < low → table[i] ≤ value) ∧ (high ≤ i → value < table[i])

variable {table : Array Nat} {value : Nat}
  (increasing : ∀ (i j : Nat) (within : i < table.size) (inside : j < table.size), i ≤ j →
    table[i] ≤ table[j])

include increasing

theorem search_parts {low high : Nat} {inside : high ≤ table.size} (ordered : low ≤ high)
    (parts : Parts table value low high) :
    Parts table value (search table value low high inside)
      (search table value low high inside) := by
  fun_induction search table value low high inside with
  | case1 low high inside stretch middle atMost ih =>
    refine ih (by omega) fun i within => ⟨fun before => ?_, (parts i within).2⟩
    exact Nat.le_trans (increasing i middle within (by omega) (by omega)) atMost
  | case2 low high inside stretch middle above ih =>
    refine ih (by omega) fun i within => ⟨(parts i within).1, fun behind => ?_⟩
    exact Nat.lt_of_lt_of_le (Nat.lt_of_not_le above) (increasing middle i (by omega) within behind)
  | case3 low high inside closed =>
    have same : low = high := by omega
    subst same
    exact parts

/-- **The entries counted are those that do not exceed the value.** -/
theorem countUpTo_parts : Parts table value (countUpTo table value) (countUpTo table value) := by
  refine search_parts increasing (Nat.zero_le _) fun i within => ⟨?_, ?_⟩
  · intro before
    exact absurd before (Nat.not_lt_zero i)
  · intro behind
    exact absurd within (Nat.not_lt.mpr behind)

end Table

/-! ### The lines of an index -/

/-- A line is the one with the given number in a text: so many line breaks stand before it. -/
def Line.IsAt (line : Line) (text : List Char) (number : Nat) : Prop :=
  ∃ front, text = front ++ line.text ∧ Text.byteLength front = line.start ∧
    Text.lastLine front = [] ∧ front.count '\n' = number ∧
    line.isAscii = (line.text.takeWhile (· != '\n')).all fun c => decide (c.val < 128)

namespace LineIndex

/-- Lines are being gathered: `front` ends where the line being read starts, and `part` is what has
been read of it. -/
structure Gathering (found : Array Line) (front part rest : List Char) : Prop where
  lines : ∀ (i : Nat) (inside : i < found.size), found[i].IsAt (front ++ part ++ rest) i
  starts : Text.lastLine front = []
  number : front.count '\n' = found.size
  noBreak : '\n' ∉ part

/-- The line being read. -/
def reading (front part rest : List Char) : Line :=
  ⟨Text.byteLength front, part.all fun c => decide (c.val < 128), part ++ rest⟩

/-- Lines are all those of a text, each at its number. -/
def IsComplete (lines : Array Line) (text : List Char) : Prop :=
  lines.size = text.count '\n' + 1 ∧ ∀ (i : Nat) (inside : i < lines.size), lines[i].IsAt text i

theorem linesFrom_newline (found : Array Line) (front part rest : List Char) :
    linesFrom found (reading front part ('\n' :: rest)) (Text.byteLength (front ++ part))
        ('\n' :: rest)
      = linesFrom (found.push (reading front part ('\n' :: rest)))
          (reading (front ++ part ++ ['\n']) [] rest)
          (Text.byteLength (front ++ part ++ ['\n'] ++ [])) rest := by
  have size : Text.byteLength (front ++ part ++ ['\n']) = Text.byteLength (front ++ part) + 1 :=
    Text.byteLength_append _ _
  rw [linesFrom, if_pos rfl, List.append_nil, size, reading, reading, size]
  rfl

theorem linesFrom_character {c : Char} (other : c ≠ '\n') (found : Array Line)
    (front part rest : List Char) :
    linesFrom found (reading front part (c :: rest)) (Text.byteLength (front ++ part)) (c :: rest)
      = linesFrom found (reading front (part ++ [c]) rest)
          (Text.byteLength (front ++ (part ++ [c]))) rest := by
  have size : Text.byteLength (front ++ (part ++ [c]))
      = Text.byteLength (front ++ part) + c.utf8Size := by
    rw [← List.append_assoc, Text.byteLength_concat]
  rw [linesFrom, if_neg other, size]
  simp [reading]

namespace Gathering

variable {found : Array Line} {front part rest : List Char}

theorem count_eq (gathering : Gathering found front part rest) :
    (front ++ part).count '\n' = found.size := by
  rw [List.count_append, gathering.number, List.count_eq_zero.mpr gathering.noBreak, Nat.add_zero]

/-- The line being read is complete where a line break or the end of the text follows. -/
theorem reading_isAt (gathering : Gathering found front part rest)
    (ends : rest.takeWhile (· != '\n') = []) :
    (reading front part rest).IsAt (front ++ part ++ rest) found.size := by
  refine ⟨front, by rw [List.append_assoc]; rfl, rfl, gathering.starts, gathering.number, ?_⟩
  rw [reading, Text.takeWhile_append_of_noBreak gathering.noBreak, ends, List.append_nil]

theorem push_isAt (gathering : Gathering found front part rest)
    (ends : rest.takeWhile (· != '\n') = []) (i : Nat)
    (inside : i < (found.push (reading front part rest)).size) :
    (found.push (reading front part rest))[i].IsAt (front ++ part ++ rest) i := by
  rw [Array.getElem_push]
  split
  · exact gathering.lines i ‹_›
  · have last : i = found.size := by
      rw [Array.size_push] at inside
      omega
    rw [last]
    exact gathering.reading_isAt ends

theorem newline (gathering : Gathering found front part ('\n' :: rest)) :
    Gathering (found.push (reading front part ('\n' :: rest))) (front ++ part ++ ['\n']) []
      rest := by
  refine ⟨fun i inside => ?_, Text.lastLine_append_newline _, ?_, List.not_mem_nil⟩
  · have complete := gathering.push_isAt (by simp) i inside
    simpa using complete
  · rw [List.count_append, gathering.count_eq, Array.size_push]
    rfl

theorem character {c : Char} (other : c ≠ '\n')
    (gathering : Gathering found front part (c :: rest)) :
    Gathering found front (part ++ [c]) rest := by
  refine ⟨fun i inside => ?_, gathering.starts, gathering.number, ?_⟩
  · have kept := gathering.lines i inside
    simpa using kept
  · rw [List.mem_append, List.mem_singleton, not_or]
    exact ⟨gathering.noBreak, Ne.symm other⟩

/-- **Gathering to the end yields every line of the text, each at its number.** -/
theorem isComplete (gathering : Gathering found front part rest) :
    IsComplete (linesFrom found (reading front part rest) (Text.byteLength (front ++ part)) rest)
      (front ++ part ++ rest) := by
  induction rest generalizing found front part with
  | nil =>
    refine ⟨?_, gathering.push_isAt rfl⟩
    rw [List.append_nil, gathering.count_eq]
    exact Array.size_push _
  | cons c rest ih =>
    by_cases newline : c = '\n'
    · subst newline
      have later := ih gathering.newline
      rw [← linesFrom_newline, List.append_nil, List.append_assoc _ ['\n']] at later
      exact later
    · have later := ih (gathering.character newline)
      rw [← linesFrom_character newline, ← List.append_assoc, List.append_assoc _ [c]] at later
      exact later

end Gathering

variable (text : List Char)

theorem lines_isComplete : IsComplete (ofText text).lines text := by
  have gathering : Gathering #[] [] [] text :=
    ⟨fun i inside => absurd inside (Nat.not_lt_zero i), rfl, rfl, List.not_mem_nil⟩
  exact gathering.isComplete

theorem lineCount_ofText : (ofText text).lineCount = text.count '\n' + 1 :=
  (lines_isComplete text).1

/-! ### The position of an offset -/

/-- The start of a line ends a first part, with as many line breaks as the line's number. -/
theorem exists_start {i : Nat} (inside : i < (ofText text).starts.size) :
    ∃ front rest, text = front ++ rest ∧ (ofText text).starts[i] = Text.byteLength front ∧
      Text.lastLine front = [] ∧ front.count '\n' = i := by
  have within : i < (ofText text).lines.size := (ofText text).starts_size ▸ inside
  obtain ⟨front, split, start, starts, number, -⟩ := (lines_isComplete text).2 i within
  refine ⟨front, _, split, ?_, starts, number⟩
  rw [start]
  exact Array.getElem_map Line.start _

theorem starts_increasing (i j : Nat) (within : i < (ofText text).starts.size)
    (inside : j < (ofText text).starts.size) (ordered : i ≤ j) :
    (ofText text).starts[i] ≤ (ofText text).starts[j] := by
  obtain ⟨front, rest, split, first, starts, number⟩ := exists_start text within
  obtain ⟨front', rest', split', second, starts', number'⟩ := exists_start text inside
  rw [first, second]
  by_contra later
  obtain ⟨between, rfl, -⟩ := Text.split_le (split'.symm.trans split) (by omega)
  rw [List.count_append] at number
  have same := Text.lineStart_unique (split.symm.trans split') starts starts'
    (by rw [List.count_append]; omega)
  exact later (Nat.le_of_eq (congrArg Text.byteLength same))

theorem charactersFrom_eq (counted bytes : Nat) (rest : List Char) :
    charactersFrom counted bytes rest = counted + (Text.upTo bytes rest).length := by
  induction rest generalizing counted bytes with
  | nil => cases bytes <;> rfl
  | cons c rest ih =>
    cases bytes with
    | zero => rfl
    | succ bytes =>
      rw [charactersFrom, ih, Text.upTo, List.length_cons]
      exact Nat.add_right_comm counted 1 _

/-- Every start of a line of the text is in the table, at the line's number. -/
theorem starts_getElem {front rest : List Char} (split : text = front ++ rest)
    (starts : Text.lastLine front = []) :
    ∃ inside : front.count '\n' < (ofText text).starts.size,
      (ofText text).starts[front.count '\n'] = Text.byteLength front := by
  have sized : (ofText text).starts.size = text.count '\n' + 1 :=
    (ofText text).starts_size.trans (lines_isComplete text).1
  have inside : front.count '\n' < (ofText text).starts.size := by
    rw [sized, split, List.count_append]
    omega
  obtain ⟨front', rest', split', start, starts', number⟩ := exists_start text inside
  rw [Text.lineStart_unique (split'.symm.trans split) starts' starts number] at start
  exact ⟨inside, start⟩

/-- The first line starts at the beginning, so every offset has a start at it or before. -/
theorem countUpTo_starts_pos (offset : Nat) : 0 < Table.countUpTo (ofText text).starts offset := by
  obtain ⟨first, zero⟩ := starts_getElem text (List.nil_append text).symm Text.lastLine_nil
  by_contra none
  have parts : Table.Parts (ofText text).starts offset _ _ :=
    Table.countUpTo_parts (starts_increasing text)
  have above := (parts _ first).2 (by rw [List.count_nil]; omega)
  rw [zero] at above
  exact absurd above (Nat.not_lt_zero _)

/-- The line of an offset is the last one that starts at it or before. -/
theorem start_le_iff {offset i : Nat} (inside : i < (ofText text).starts.size) :
    (ofText text).starts[i] ≤ offset ↔ i ≤ (ofText text).lineOf offset := by
  have parts : Table.Parts (ofText text).starts offset _ _ :=
    Table.countUpTo_parts (starts_increasing text)
  have counted := countUpTo_starts_pos text offset
  unfold lineOf
  constructor
  · intro reached
    by_contra later
    exact absurd ((parts i inside).2 (by omega)) (Nat.not_lt.mpr reached)
  · intro earlier
    exact (parts i inside).1 (by omega)

/-- **The line of an offset starts at it or before, and no line break stands between.** -/
theorem lineOf_spec {offset : Nat} {front rest : List Char} (split : text = front ++ rest)
    (starts : Text.lastLine front = [])
    (number : front.count '\n' = (ofText text).lineOf offset) :
    Text.byteLength front ≤ offset ∧ '\n' ∉ Text.upTo (offset - Text.byteLength front) rest := by
  have reached : Text.byteLength front ≤ offset := by
    obtain ⟨inside, start⟩ := starts_getElem text split starts
    rw [← start]
    exact (start_le_iff text inside).mpr (Nat.le_of_eq number)
  refine ⟨reached, fun member => ?_⟩
  -- Behind a line break before the offset, the next line would start.
  obtain ⟨part, more, before, -⟩ := List.eq_append_cons_of_mem member
  obtain ⟨behind, all⟩ := Text.upTo_leads (offset - Text.byteLength front) rest
  have split' : text = (front ++ part ++ ['\n']) ++ (more ++ behind) := by
    rw [split, ← all, before]
    simp
  obtain ⟨inside, start⟩ := starts_getElem text split' (Text.lastLine_append_newline _)
  have reached' : Text.byteLength (front ++ part ++ ['\n']) ≤ offset := by
    have shorter := Text.lt_of_upTo_eq before
    have single : Text.byteLength ['\n'] = 1 := rfl
    rw [Text.byteLength_append, Text.byteLength_append]
    omega
  have atMost := (start_le_iff text inside).mp (start ▸ reached')
  have one : ['\n'].count '\n' = 1 := rfl
  rw [List.count_append, List.count_append, number, one] at atMost
  omega

/-- On a line of ASCII, characters and bytes coincide. -/
theorem length_upTo_of_ascii {bytes : Nat} {rest : List Char}
    (ascii : ((rest.takeWhile (· != '\n')).all fun c => decide (c.val < 128)) = true)
    (noBreak : '\n' ∉ Text.upTo bytes rest) (inside : bytes ≤ Text.byteLength rest) :
    (Text.upTo bytes rest).length = bytes := by
  refine Text.length_upTo (fun c member => ?_) inside
  obtain ⟨behind, all⟩ := Text.upTo_leads bytes rest
  rw [← all, Text.takeWhile_append_of_noBreak noBreak] at ascii
  have small := of_decide_eq_true (List.all_eq_true.mp ascii c (List.mem_append_left _ member))
  rw [Char.utf8Size_eq_one_iff]
  exact UInt32.le_iff_toNat_le.mpr (Nat.le_of_lt_succ (UInt32.lt_iff_toNat_lt.mp small))

/-- On a line marked as ASCII, an offset is as many characters behind the start as bytes. -/
theorem length_upTo_of_isAscii {number offset : Nat} (inside : number < (ofText text).lines.size)
    (isAscii : (ofText text).lines[number].isAscii) (on : (ofText text).lineOf offset = number)
    (within : offset ≤ Text.byteLength text) :
    (Text.upTo (offset - (ofText text).lines[number].start) (ofText text).lines[number].text).length
      = offset - (ofText text).lines[number].start := by
  obtain ⟨front, split, start, starts, count, ascii⟩ := (lines_isComplete text).2 number inside
  obtain ⟨reached, noBreak⟩ := lineOf_spec text split starts (count.trans on.symm)
  have fits : offset - Text.byteLength front ≤ Text.byteLength (ofText text).lines[number].text := by
    have whole := congrArg Text.byteLength split
    rw [Text.byteLength_append] at whole
    omega
  rw [← start]
  exact length_upTo_of_ascii (ascii ▸ isAscii) noBreak fits

/-- **The position of an offset is that of the text before it.** -/
theorem position_eq_behind (offset : Nat) :
    (ofText text).position offset = Position.behind (Text.upTo offset text) := by
  rw [← Text.upTo_min offset text]
  generalize clamped : min offset (Text.byteLength text) = within
  have inside : within ≤ Text.byteLength text := clamped ▸ Nat.min_le_right _ _
  have bounded := (ofText text).lineOf_lt within
  obtain ⟨front, split, start, starts, number, -⟩ := (lines_isComplete text).2 _ bounded
  obtain ⟨reached, noBreak⟩ := lineOf_spec text split starts number
  have before : Text.upTo within text = front ++ Text.upTo (within - Text.byteLength front)
      (ofText text).lines[(ofText text).lineOf within].text := by
    rw [← Text.upTo_append _ reached, ← split]
  have column : (if (ofText text).lines[(ofText text).lineOf within].isAscii
        then within - (ofText text).lines[(ofText text).lineOf within].start
        else charactersFrom 0 (within - (ofText text).lines[(ofText text).lineOf within].start)
          (ofText text).lines[(ofText text).lineOf within].text)
      = (Text.upTo (within - (ofText text).lines[(ofText text).lineOf within].start)
          (ofText text).lines[(ofText text).lineOf within].text).length := by
    split
    next isAscii => exact (length_upTo_of_isAscii text bounded isAscii rfl inside).symm
    next => rw [charactersFrom_eq, Nat.zero_add]
  have position : (ofText text).position offset = Position.saturated
      ((ofText text).lineOf within) (if (ofText text).lines[(ofText text).lineOf within].isAscii
        then within - (ofText text).lines[(ofText text).lineOf within].start
        else charactersFrom 0 (within - (ofText text).lines[(ofText text).lineOf within].start)
          (ofText text).lines[(ofText text).lineOf within].text) := by
    subst clamped
    rfl
  rw [position, column, ← start, before, Position.behind, List.count_append, number,
    List.count_eq_zero.mpr noBreak, Text.lastLine_append noBreak, starts, List.nil_append,
    Nat.add_zero]

theorem position_byteLength {front rest : List Char} (split : text = front ++ rest) :
    (ofText text).position (Text.byteLength front) = Position.behind front := by
  rw [position_eq_behind, split, Text.upTo_byteLength]

end LineIndex

end MessageRefs
