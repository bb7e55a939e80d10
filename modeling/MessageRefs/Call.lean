import MessageRefs.Text.CharClass
import MessageRefs.Text.Place
import Std.Data.HashMap

/-!
**Where the argument list of a call ends.**

The text behind an opening parenthesis is read lexeme by lexeme. Parentheses, brackets and braces
nest; a quoted literal or a comment is one lexeme, so the delimiters inside it never count.

* `Lexeme.next`: the lexeme at a place;
* `Call.Memo`: what is already known about the parentheses of one text;
* `Call.balance`: reads on until the first delimiter is closed, and settles in the memo every
  parenthesis that it opens on the way;
* `Call.stop`, `Call.stopAt`: the offset just past the parenthesis that closes the one at a place.
-/

namespace MessageRefs

/-- How a quoted literal is written: its quote, whether three of them open and close it, and
whether a backslash is an ordinary character in it. -/
structure Quoting where
  quote : Char
  isTriple : Bool
  isRaw : Bool
deriving DecidableEq, Repr

namespace Quoting

/-- The number of characters through the closing quote, counted on from `count`. -/
def closingFrom (quoting : Quoting) (count : Nat) : List Char → Option Nat
  | [] => none
  | c :: rest =>
    if c = '\\' && !quoting.isRaw then
      match rest with
      | [] => none
      | _ :: others => closingFrom quoting (count + 2) others
    else if c = quoting.quote then
      if !quoting.isTriple then some (count + 1)
      else if [c, c].isPrefixOf rest then some (count + 3)
      else closingFrom quoting (count + 1) rest
    else closingFrom quoting (count + 1) rest

/-- The quoting that a single or double quote opens. It is triple if two more such quotes follow,
and raw if a lone `r` stands before it. -/
def ofQuote (earlier before : Option Char) (quote : Char) (rest : List Char) : Quoting where
  quote
  isTriple := [quote, quote].isPrefixOf rest
  isRaw := before == some 'r' && !earlier.any Text.isIdentifierChar

/-- The number of characters of a literal behind its first quote. -/
def length? (quoting : Quoting) (rest : List Char) : Option Nat :=
  if quoting.isTriple then quoting.closingFrom 2 (rest.drop 2) else quoting.closingFrom 0 rest

end Quoting

namespace Comment

/-- The number of characters through the next line break, counted on from `count`. -/
def lineFrom (count : Nat) : List Char → Option Nat
  | [] => none
  | c :: rest => if c = '\n' then some (count + 1) else lineFrom (count + 1) rest

/-- The number of characters through the next star and slash, counted on from `count`. -/
def blockFrom (count : Nat) : List Char → Option Nat
  | [] => none
  | c :: rest =>
    if c = '*' && rest.head? == some '/' then some (count + 2) else blockFrom (count + 1) rest

end Comment

/-- What stands at a place of an argument list. -/
inductive Lexeme where
  /-- A delimiter that waits for its closer. -/
  | opener (closer : Char)
  /-- A closing delimiter. -/
  | closer
  /-- A literal, a comment or any other character, with the number of characters behind the first
  that belong to it. -/
  | skipped (further : Nat)
  /-- A literal or comment that the text never closes. -/
  | unclosed
deriving DecidableEq, Repr

namespace Lexeme

/-- A literal or comment of the given length, if it has one. -/
def ofLength? : Option Nat → Lexeme
  | some further => skipped further
  | none => unclosed

/-- The lexeme that begins with the character `c`, behind the characters `earlier` and `before`. -/
def next (earlier before : Option Char) (c : Char) (rest : List Char) : Lexeme :=
  match c with
  | '(' => opener ')'
  | '[' => opener ']'
  | '{' => opener '}'
  | ')' | ']' | '}' => closer
  | '\'' | '"' => ofLength? ((Quoting.ofQuote earlier before c rest).length? rest)
  | '\x60' => ofLength? (Quoting.length? ⟨c, false, false⟩ rest)
  | '/' =>
    match rest with
    | '/' :: others => ofLength? (Comment.lineFrom 1 others)
    | '*' :: others => ofLength? (Comment.blockFrom 1 others)
    | _ => skipped 0
  | _ => skipped 0

end Lexeme

namespace Call

/-- A delimiter that is still open: the closer it waits for and the offset it stands at. -/
structure Frame where
  closer : Char
  opened : Nat
deriving DecidableEq, Repr

/-- What is known about the parentheses of one text: by the offset of the parenthesis, where it
is closed, or that it never is. -/
structure Memo where
  known : Std.HashMap Nat (Option Nat)

namespace Memo

/-- Nothing is known yet. -/
def empty : Memo := ⟨∅⟩

/-- What is known about the parenthesis at an offset. -/
def get? (memo : Memo) (opened : Nat) : Option (Option Nat) :=
  memo.known[opened]?

/-- Notes how the parenthesis at an offset ends. -/
def settle (memo : Memo) (opened : Nat) (stop : Option Nat) : Memo :=
  ⟨memo.known.insert opened stop⟩

@[simp] theorem get?_empty (opened : Nat) : empty.get? opened = none :=
  Std.HashMap.getElem?_empty

theorem get?_settle (memo : Memo) (opened other : Nat) (stop : Option Nat) :
    (memo.settle opened stop).get? other
      = if opened = other then some stop else memo.get? other := by
  rw [get?, get?, settle, Std.HashMap.getElem?_insert]
  simp only [beq_iff_eq]

/-- Notes that none of the parentheses among the open delimiters is ever closed. -/
def abandon (memo : Memo) (stack : List Frame) : Memo :=
  stack.foldl (fun memo frame => if frame.closer = ')' then memo.settle frame.opened none else memo)
    memo

end Memo

/-- Reads on from the place at `offset`, behind the characters `earlier` and `before`, after
skipping `skip` characters. The stack holds the delimiters that are open, the innermost first. -/
def balance (memo : Memo) (stack : List Frame) (earlier before : Option Char)
    (skip offset : Nat) : List Char → Option Nat × Memo
  | [] => (none, memo.abandon stack)
  | c :: rest =>
    let beyond := offset + c.utf8Size
    match skip with
    | skip + 1 => balance memo stack before (some c) skip beyond rest
    | 0 =>
      match Lexeme.next earlier before c rest with
      | .opener closer => balance memo (⟨closer, offset⟩ :: stack) before (some c) 0 beyond rest
      | .skipped further => balance memo stack before (some c) further beyond rest
      | .unclosed => (none, memo.abandon stack)
      | .closer =>
        match stack with
        | [] => (none, memo)
        | frame :: outer =>
          if frame.closer = c then
            let memo := if c = ')' then memo.settle frame.opened (some beyond) else memo
            if outer.isEmpty then (some beyond, memo)
            else balance memo outer before (some c) 0 beyond rest
          else (none, memo.abandon stack)

/-- The offset just past the parenthesis that closes the one with which `text`, the text after
`offset`, begins. A memo of the same document is consulted first and extended. -/
def stop (memo : Memo) (offset : Nat) (text : List Char) : Option Nat × Memo :=
  if text.head? = some '(' then
    match memo.get? offset with
    | some known => (known, memo)
    | none => balance memo [] none none 0 offset text
  else (none, memo)

/-- The offset just past the parenthesis that closes the one at an offset of a text. There is none
if the offset is past the end or inside a character, or if no parenthesis stands there. -/
def stopAt (memo : Memo) (text : List Char) (offset : Nat) : Option Nat × Memo :=
  match Text.after? offset text with
  | some rest => stop memo offset rest
  | none => (none, memo)

end Call

end MessageRefs
