import MessageRefs.Position.LineIndex

/-!
**From byte offsets to positions, mostly forward.**

A cursor stands at a place of a line and knows how many characters come before it there. On its own
line it moves forward over the characters in between; to go back, or to another line, it starts
again where that line starts. Lines of ASCII are left to the index and do not move it.

* `Cursor.atStart`: the cursor at the beginning of a text;
* `Cursor.moveTo`: the cursor at an offset;
* `Cursor.position`: the position of an offset, and the cursor after it has been asked for;
* `Cursor.positions`: the positions of several offsets, in any order.
-/

namespace MessageRefs

/-- A place on a line: the number of the line, the offset of the place, the characters from the
start of the line up to it, and the text behind it. -/
structure Cursor where
  index : LineIndex
  line : Nat
  offset : Nat
  character : Nat
  rest : List Char

namespace Cursor

/-- The cursor where a line starts. -/
def atLine (index : LineIndex) (number : Nat) (inside : number < index.lines.size) : Cursor :=
  ⟨index, number, index.lines[number].start, 0, index.lines[number].text⟩

/-- The cursor at the beginning of a text. -/
def atStart (text : List Char) : Cursor :=
  let index := LineIndex.ofText text
  atLine index 0 index.lines_pos

/-- Moves forward over the characters that begin below `target`. -/
def forward (index : LineIndex) (target line offset character : Nat) : List Char → Cursor
  | [] => ⟨index, line, offset, character, []⟩
  | text@(c :: rest) =>
    if offset < target then
      forward index target line (offset + c.utf8Size) (character + 1) rest
    else ⟨index, line, offset, character, text⟩

/-- The cursor on the line of an offset, at the offset or before it. It starts again where the line
starts unless it stands on the line already, and not behind the offset. -/
def onLineOf (cursor : Cursor) (target : Nat) : Cursor :=
  let number := cursor.index.lineOf target
  if number ≠ cursor.line ∨ target < cursor.offset then
    atLine cursor.index number (cursor.index.lineOf_lt target)
  else cursor

/-- The cursor at the first place that is not below an offset. -/
def moveTo (cursor : Cursor) (target : Nat) : Cursor :=
  let first := cursor.onLineOf target
  forward first.index target first.line first.offset first.character first.rest

/-- The position of an offset, and the cursor after it has been asked for; an offset past the end is
taken as the end. -/
def position (cursor : Cursor) (offset : Nat) : Position × Cursor :=
  let target := min offset cursor.index.byteCount
  have inside := cursor.index.lineOf_lt target
  if cursor.index.lines[cursor.index.lineOf target].isAscii then
    (cursor.index.position target, cursor)
  else
    let moved := cursor.moveTo target
    (.saturated moved.line moved.character, moved)

/-- The positions of offsets, for each of which the cursor goes on from the one before. -/
def positions (cursor : Cursor) : List Nat → List Position
  | [] => []
  | offset :: others =>
    let (position, cursor) := cursor.position offset
    position :: cursor.positions others

end Cursor

end MessageRefs
