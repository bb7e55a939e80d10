import MessageRefs.Position
import MessageRefs.Table
import MessageRefs.Text.Place

/-!
**From byte offsets to positions, in any order.**

A line index keeps the start of every line of a text and whether the line is pure ASCII, where
characters and bytes coincide.

* `LineIndex.ofText`: the index of a text;
* `LineIndex.lineCount`: one more than the line breaks;
* `LineIndex.position`: the position of an offset, which past the end means the end;
* `LineIndex.lineOf_lt`: every offset falls on a line of the index.
-/

namespace MessageRefs

/-- A line of a text: its start, whether it is ASCII, and the text from its start on. -/
structure Line where
  start : Nat
  isAscii : Bool
  text : List Char

/-- The lines of a text and the table of their starts. -/
structure LineIndex where
  byteCount : Nat
  lines : Array Line
  starts : Array Nat
  starts_size : starts.size = lines.size
  lines_pos : 0 < lines.size

namespace LineIndex

/-- Gathers the lines of the text from `offset` on, where `line` is the one being read. -/
def linesFrom (found : Array Line) (line : Line) (offset : Nat) : List Char → Array Line
  | [] => found.push line
  | c :: rest =>
    if c = '\n' then linesFrom (found.push line) ⟨offset + 1, true, rest⟩ (offset + 1) rest
    else linesFrom found { line with isAscii := line.isAscii && decide (c.val < 128) }
      (offset + c.utf8Size) rest

theorem linesFrom_size_pos (found : Array Line) (line : Line) (offset : Nat) (text : List Char) :
    0 < (linesFrom found line offset text).size := by
  induction text generalizing found line offset with
  | nil => simp [linesFrom]
  | cons c rest ih =>
    rw [linesFrom]
    split
    · exact ih ..
    · exact ih ..

/-- The index of a text. -/
def ofText (text : List Char) : LineIndex :=
  let lines := linesFrom #[] ⟨0, true, text⟩ 0 text
  { byteCount := Text.byteLength text
    lines
    starts := lines.map Line.start
    starts_size := Array.size_map
    lines_pos := linesFrom_size_pos .. }

/-- The number of lines; a final line break starts one more. -/
def lineCount (index : LineIndex) : Nat :=
  index.lines.size

/-- The number of the line on which an offset falls. -/
def lineOf (index : LineIndex) (offset : Nat) : Nat :=
  Table.countUpTo index.starts offset - 1

/-- Every offset falls on a line. -/
theorem lineOf_lt (index : LineIndex) (offset : Nat) : index.lineOf offset < index.lines.size := by
  have bounded := Table.countUpTo_le index.starts offset
  have sized := index.starts_size
  have positive := index.lines_pos
  unfold lineOf
  omega

/-- The number of characters of a text that begin within its first `bytes` bytes, counted on from
`counted`. -/
def charactersFrom (counted : Nat) : Nat → List Char → Nat
  | 0, _ => counted
  | _ + 1, [] => counted
  | bytes + 1, c :: rest => charactersFrom (counted + 1) (bytes + 1 - c.utf8Size) rest

/-- The position of an offset; one past the end is taken as the end. -/
def position (index : LineIndex) (offset : Nat) : Position :=
  let offset := min offset index.byteCount
  have inside := index.lineOf_lt offset
  let line := index.lines[index.lineOf offset]
  let bytes := offset - line.start
  .saturated (index.lineOf offset) (if line.isAscii then bytes else charactersFrom 0 bytes line.text)

end LineIndex

end MessageRefs
