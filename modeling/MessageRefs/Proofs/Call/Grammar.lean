import MessageRefs.Call

/-!
**The grammar of an argument list.**

The grammar speaks of a part of a text between what stands before it and what follows it: whether a
literal is raw depends on the text before it, and how it is delimited on the text that follows.

* `Inside`: the inside of a literal, through which no delimiter shows;
* `IsLiteral`, `IsComment`, `IsPlain`: what is read as one piece;
* `Derives`: calls and the items in them;
* `IsCall`: from one offset of a text to another stands a call;
* `Unfinished`, `IsStuck`: how a call can fail to end.
-/

namespace MessageRefs.Grammar

/-! ### Literals, comments and plain characters -/

/-- A literal that opens behind `front` is raw if a lone `r` stands right before it. -/
def IsRawBehind (front : List Char) : Prop :=
  ∃ earlier, front = earlier ++ ['r'] ∧ ∀ c ∈ earlier.getLast?, ¬ Text.isIdentifierChar c

/-- What opens and closes a literal: its quote, once or three times. -/
def delimiter (quoting : Quoting) : List Char :=
  List.replicate (if quoting.isTriple then 3 else 1) quoting.quote

/-- The inside of a literal that `ahead` follows. A backslash escapes the character behind it,
unless the literal is raw, and at no other character does a delimiter begin. -/
inductive Inside (quoting : Quoting) (ahead : List Char) : List Char → Prop
  | none : Inside quoting ahead []
  | escape {c : Char} {inside : List Char} : quoting.isRaw = false →
      Inside quoting ahead inside → Inside quoting ahead ('\\' :: c :: inside)
  | plain {c : Char} {inside : List Char} : (c = '\\' → quoting.isRaw = true) →
      ¬ delimiter quoting <+: c :: inside ++ ahead →
      Inside quoting ahead inside → Inside quoting ahead (c :: inside)

/-- A quoted literal. It is triple if its quote follows twice more, and raw behind a lone `r`; in
backticks it is neither. -/
def IsLiteral (front part after : List Char) : Prop :=
  ∃ (quoting : Quoting) (inside : List Char),
    quoting.quote ∈ ['\'', '"', '\x60'] ∧
    (quoting.isTriple = true ↔
      quoting.quote ≠ '\x60' ∧ List.replicate 3 quoting.quote <+: part ++ after) ∧
    (quoting.isRaw = true ↔ quoting.quote ≠ '\x60' ∧ IsRawBehind front) ∧
    part = delimiter quoting ++ inside ++ delimiter quoting ∧
    Inside quoting (delimiter quoting ++ after) inside

/-- A comment, through the end of its line or through the first star and slash. -/
inductive IsComment : List Char → Prop
  | line {body : List Char} : '\n' ∉ body → IsComment (['/', '/'] ++ body ++ ['\n'])
  | block {body : List Char} : ¬ ['*', '/'] <:+: body →
      IsComment (['/', '*'] ++ body ++ ['*', '/'])

/-- A character that stands for itself: no delimiter, no quote and no beginning of a comment. -/
def IsPlain (c : Char) (after : List Char) : Prop :=
  c ∉ ['(', ')', '[', ']', '{', '}', '\'', '"', '\x60'] ∧
    (c = '/' → after.head? ≠ some '/' ∧ after.head? ≠ some '*')

/-- A piece: a literal, a comment or a plain character. -/
def IsPiece (front part after : List Char) : Prop :=
  IsLiteral front part after ∨ IsComment part ∨ ∃ c, part = [c] ∧ IsPlain c after

/-! ### Calls -/

/-- What the grammar describes. -/
inductive Symbol where
  | call
  | item
  | items
deriving DecidableEq, Repr

/-- The parts of a text that a symbol derives, between what stands before and what follows. -/
inductive Derives : Symbol → List Char → List Char → List Char → Prop
  | call {front inner after : List Char} :
      Derives .items (front ++ ['(']) inner (')' :: after) →
      Derives .call front ('(' :: inner ++ [')']) after
  | nested {front part after : List Char} :
      Derives .call front part after → Derives .item front part after
  | brackets {front inner after : List Char} :
      Derives .items (front ++ ['[']) inner (']' :: after) →
      Derives .item front ('[' :: inner ++ [']']) after
  | braces {front inner after : List Char} :
      Derives .items (front ++ ['{']) inner ('}' :: after) →
      Derives .item front ('{' :: inner ++ ['}']) after
  | literal {front part after : List Char} :
      IsLiteral front part after → Derives .item front part after
  | comment {front part after : List Char} : IsComment part → Derives .item front part after
  | plain {front after : List Char} {c : Char} : IsPlain c after → Derives .item front [c] after
  | done {front after : List Char} : Derives .items front [] after
  | more {front first others after : List Char} :
      Derives .item front first (others ++ after) →
      Derives .items (front ++ first) others after →
      Derives .items front (first ++ others) after

/-- From one offset of a text to another stands a call. -/
def IsCall (text : List Char) (start stop : Nat) : Prop :=
  ∃ front part after, text = front ++ part ++ after ∧ Text.byteLength front = start ∧
    Text.byteLength (front ++ part) = stop ∧ Derives .call front part after

/-- A call that is open behind `part`, waiting for `closers`, the innermost first. -/
inductive Unfinished (front : List Char) : List Char → List Char → List Char → Prop
  | opened {after : List Char} : Unfinished front ['('] after [')']
  | items {part items after closers : List Char} :
      Unfinished front part (items ++ after) closers →
      Derives .items (front ++ part) items after → Unfinished front (part ++ items) after closers
  | deeper {part after closers : List Char} {opening closing : Char} :
      (opening, closing) ∈ [('(', ')'), ('[', ']'), ('{', '}')] →
      Unfinished front part (opening :: after) closers →
      Unfinished front (part ++ [opening]) after (closing :: closers)

/-- No open call goes on behind `front`: the text ends, or another delimiter is closed than the
innermost, or a literal or comment begins that is never closed. -/
def IsStuck (front after closers : List Char) : Prop :=
  after = [] ∨ ∃ c rest, after = c :: rest ∧
    (c ∈ [')', ']', '}'] ∧ closers.head? ≠ some c ∨
      c ∉ ['(', ')', '[', ']', '{', '}'] ∧
        ∀ further behind, rest = further ++ behind → ¬ IsPiece front (c :: further) behind)

theorem IsPiece.derives {front part after : List Char} (piece : IsPiece front part after) :
    Derives .item front part after := by
  rcases piece with literal | comment | ⟨c, rfl, plain⟩
  · exact .literal literal
  · exact .comment comment
  · exact .plain plain

end MessageRefs.Grammar
