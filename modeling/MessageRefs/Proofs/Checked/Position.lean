import MessageRefs.Proofs.Checked.Slices
import MessageRefs.Proofs.Position.Cursor

/-!
**Positions, with their cuts, entries and differences.**

A place on a line is known by its offset. To move on from it, the text is cut there; to start again,
the start of the line is looked up, and the text is cut there.

* `lineOf_eq`: an offset has a line, so the difference that gives its number is not below zero;
* `indexPosition_eq`: a line index meets no fault at any offset;
* `position_eq`: neither does a cursor, wherever it comes from.
-/

namespace MessageRefs.Checked

/-- Whether each of the lines is ASCII. -/
def asciiLines (index : LineIndex) : Array Bool :=
  index.lines.map Line.isAscii

/-- The number of the line on which an offset falls. -/
def lineOf (index : LineIndex) (offset : Nat) : Except Fault Nat :=
  difference (Table.countUpTo index.starts offset) 1

/-- The position of an offset in the text of an index. -/
def indexPosition (index : LineIndex) (text : List Char) (offset : Nat) :
    Except Fault Position := do
  let target := min offset (Text.byteLength text)
  let number ← lineOf index target
  let start ← entry index.starts number
  let bytes ← difference target start
  if ← entry (asciiLines index) number then return .saturated number bytes
  else return .saturated number (LineIndex.charactersFrom 0 bytes (← behind text start))

/-- A place on a line: the number of the line, the offset of the place, and the characters from the
start of the line up to it. -/
structure Place where
  line : Nat
  byte : Nat
  character : Nat
deriving DecidableEq, Repr

namespace Place

/-- The place at which a cursor stands. -/
def ofCursor (cursor : Cursor) : Place :=
  ⟨cursor.line, cursor.offset, cursor.character⟩

/-- The place on a line from which an offset is reached: this one, or the start of the line. -/
def onLine (place : Place) (index : LineIndex) (number target : Nat) : Except Fault Place := do
  if number ≠ place.line ∨ target < place.byte then return ⟨number, ← entry index.starts number, 0⟩
  else return place

/-- The position of an offset, and the place from which to go on. -/
def position (place : Place) (index : LineIndex) (text : List Char) (offset : Nat) :
    Except Fault (Position × Place) := do
  let target := min offset (Text.byteLength text)
  let number ← lineOf index target
  if ← entry (asciiLines index) number then return (← indexPosition index text target, place)
  else
    let first ← place.onLine index number target
    let moved := Cursor.forward index target first.line first.byte first.character
      (← behind text first.byte)
    return (.saturated number moved.character, .ofCursor moved)

end Place

/-! ### Line indices -/

section Index

variable (text : List Char)

theorem lineOf_eq (offset : Nat) :
    lineOf (.ofText text) offset = .ok ((LineIndex.ofText text).lineOf offset) :=
  difference_eq (LineIndex.countUpTo_starts_pos text offset)

variable {text} {number : Nat} (inside : number < (LineIndex.ofText text).lines.size)

theorem entry_starts : entry (LineIndex.ofText text).starts number
    = .ok (LineIndex.ofText text).lines[number].start := by
  have within : number < (LineIndex.ofText text).starts.size :=
    (LineIndex.ofText text).starts_size ▸ inside
  rw [entry_eq within]
  exact congrArg Except.ok (Array.getElem_map Line.start within)

theorem entry_asciiLines : entry (asciiLines (.ofText text)) number
    = .ok (LineIndex.ofText text).lines[number].isAscii := by
  have within : number < (asciiLines (.ofText text)).size := by
    rw [asciiLines, Array.size_map]
    exact inside
  rw [entry_eq within]
  exact congrArg Except.ok (Array.getElem_map Line.isAscii within)

/-- The text is cut where a line starts. -/
theorem behind_start : behind text (LineIndex.ofText text).lines[number].start
    = .ok (LineIndex.ofText text).lines[number].text := by
  obtain ⟨front, split, start, -⟩ := (LineIndex.lines_isComplete text).2 number inside
  generalize (LineIndex.ofText text).lines[number] = line at split start ⊢
  subst split
  rw [← start, behind_byteLength]

theorem start_le_of_lineOf {offset : Nat} (on : (LineIndex.ofText text).lineOf offset = number) :
    (LineIndex.ofText text).lines[number].start ≤ offset := by
  obtain ⟨front, split, start, starts, count, -⟩ :=
    (LineIndex.lines_isComplete text).2 number inside
  rw [← start]
  exact (LineIndex.lineOf_spec text split starts (count.trans on.symm)).1

end Index

/-- **A line index meets no fault at any offset.** -/
theorem indexPosition_eq (text : List Char) (offset : Nat) :
    indexPosition (.ofText text) text offset = .ok ((LineIndex.ofText text).position offset) := by
  have inside := (LineIndex.ofText text).lineOf_lt (min offset (Text.byteLength text))
  have reached := start_le_of_lineOf inside rfl
  have byteCount : (LineIndex.ofText text).byteCount = Text.byteLength text := rfl
  simp only [indexPosition, LineIndex.position, byteCount, lineOf_eq, ok_bind, entry_starts inside,
    difference_eq reached, entry_asciiLines inside, behind_start inside, pure_eq_ok]
  split <;> rfl

/-! ### Cursors -/

theorem forward_line (index : LineIndex) (target line offset character : Nat)
    (rest : List Char) :
    (Cursor.forward index target line offset character rest).line = line := by
  induction rest generalizing offset character with
  | nil => rfl
  | cons c rest ih =>
    rw [Cursor.forward]
    split
    · exact ih ..
    · rfl

section Cursor

variable {text : List Char} {cursor : Cursor}

theorem onLine_eq (index : cursor.index = .ofText text) (target : Nat) :
    (Place.ofCursor cursor).onLine (.ofText text) ((LineIndex.ofText text).lineOf target) target
      = .ok (.ofCursor (cursor.onLineOf target)) := by
  obtain ⟨_, line, byte, character, rest⟩ := cursor
  obtain rfl := index
  have inside := (LineIndex.ofText text).lineOf_lt target
  simp only [Place.onLine, Cursor.onLineOf, Place.ofCursor, entry_starts inside, ok_bind]
  split <;> rfl

/-- What the running cursor answers, and where it goes on, for an offset within the text. -/
theorem cursor_position_eq (index : cursor.index = .ofText text) {offset target : Nat}
    (clamped : min offset (Text.byteLength text) = target)
    (inside : (LineIndex.ofText text).lineOf target < (LineIndex.ofText text).lines.size) :
    cursor.position offset =
      if (LineIndex.ofText text).lines[(LineIndex.ofText text).lineOf target].isAscii then
        ((LineIndex.ofText text).position target, cursor)
      else
        (.saturated (cursor.moveTo target).line (cursor.moveTo target).character,
          cursor.moveTo target) := by
  obtain ⟨_, line, byte, character, rest⟩ := cursor
  obtain rfl := index
  subst clamped
  rfl

/-- **A cursor meets no fault at any offset, wherever it comes from**, and goes on from the place at
which the running cursor stands. -/
theorem position_eq (reads : cursor.Reads text) (offset : Nat) :
    (Place.ofCursor cursor).position (.ofText text) text offset
      = .ok ((cursor.position offset).1, .ofCursor (cursor.position offset).2) := by
  obtain ⟨front, stands⟩ := reads
  generalize clamped : min offset (Text.byteLength text) = target
  have inside := (LineIndex.ofText text).lineOf_lt target
  rw [Place.position, clamped, cursor_position_eq stands.index clamped inside]
  simp only [lineOf_eq, ok_bind, entry_asciiLines inside]
  split
  next => rw [indexPosition_eq, ok_bind, pure_eq_ok]
  next =>
    obtain ⟨nearer, first, -, number⟩ := stands.onLineOf target
    have cut : behind text (Place.ofCursor (cursor.onLineOf target)).byte
        = .ok (cursor.onLineOf target).rest := by
      have cut := behind_byteLength nearer (cursor.onLineOf target).rest
      rwa [← first.whole, ← first.offset] at cut
    have line : (cursor.moveTo target).line = (LineIndex.ofText text).lineOf target := by
      rw [Cursor.moveTo, forward_line, first.line, number]
    rw [onLine_eq stands.index, ok_bind, cut, ok_bind, line, Cursor.moveTo, first.index]
    rfl

end Cursor

end MessageRefs.Checked
