/-!
**Positions and spans in a document.**

A position is a line and a character in that line, both counted from zero; a span runs from one
position up to, and without, another. Coordinates never exceed `Position.limit`.

* `Position.oneBased`: the coordinates of a reader who counts from one;
* `≤` and `<` on positions: the order of reading, by line and then by character.
-/

namespace MessageRefs

/-- A line and a character in it. Characters are Unicode scalar values. -/
structure Position where
  line : Nat
  character : Nat
deriving DecidableEq, Repr

namespace Position

/-- The greatest coordinate, the last number of 32 bits. -/
def limit : Nat := 4294967295

/-- The position of two counts, each held at the limit. -/
def saturated (line character : Nat) : Position :=
  ⟨min line limit, min character limit⟩

/-- The same position counted from one. -/
def oneBased (position : Position) : Position :=
  saturated (position.line + 1) (position.character + 1)

/-- The position a number of characters further on in the same line. -/
def onward (position : Position) (characters : Nat) : Position :=
  ⟨position.line, min (position.character + characters) limit⟩

/-- Reading order: an earlier line, or the same line and no later character. -/
instance : LE Position where
  le first second :=
    first.line < second.line ∨ first.line = second.line ∧ first.character ≤ second.character

/-- Strict reading order. -/
instance : LT Position where
  lt first second :=
    first.line < second.line ∨ first.line = second.line ∧ first.character < second.character

instance (first second : Position) : Decidable (first ≤ second) :=
  inferInstanceAs (Decidable (_ ∨ _))

instance (first second : Position) : Decidable (first < second) :=
  inferInstanceAs (Decidable (_ ∨ _))

end Position

/-- A stretch of a document, its end exclusive. -/
structure Span where
  start : Position
  stop : Position
deriving DecidableEq, Repr

namespace Span

/-- The same span counted from one. -/
def oneBased (span : Span) : Span :=
  ⟨span.start.oneBased, span.stop.oneBased⟩

/-- A span is ordered when it does not end before it starts. -/
def isOrdered (span : Span) : Bool :=
  decide (span.start ≤ span.stop)

end Span

end MessageRefs
