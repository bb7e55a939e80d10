import MessageRefs.Table
import MessageRefs.Text.Alphanumeric

/-!
**The characters of identifiers, of dotted paths and of blank space.**

* `isIdentifierChar`: letters, digits and the underscore, in any script;
* `isPathChar`: these and the dot;
* `isBlank`: the white space of Unicode;
* `isIdentifier`: a word that does not begin with an ASCII digit;
* `path`: the longest run of path characters at the front, without its trailing dots.
-/

namespace MessageRefs.Text

/-- Letters and digits of any script. -/
def isAlphanumeric (c : Char) : Bool :=
  if c.val < 128 then c.isAlphanum else Table.holds alphanumericBounds c.toNat

/-- An identifier holds letters, digits and underscores. -/
def isIdentifierChar (c : Char) : Bool :=
  isAlphanumeric c || c == '_'

/-- A dotted path holds identifier characters and dots. -/
def isPathChar (c : Char) : Bool :=
  isIdentifierChar c || c == '.'

/-- The characters with the Unicode property White_Space. -/
def isBlank (c : Char) : Bool :=
  let code := c.toNat
  (0x9 ≤ code && code ≤ 0xd) || code == 0x20 || code == 0x85 || code == 0xa0 || code == 0x1680 ||
    (0x2000 ≤ code && code ≤ 0x200a) || code == 0x2028 || code == 0x2029 || code == 0x202f ||
    code == 0x205f || code == 0x3000

/-- A plain identifier: identifier characters, the first of them no ASCII digit. -/
def isIdentifier : List Char → Bool
  | [] => false
  | first :: others => isIdentifierChar first && !first.isDigit && others.all isIdentifierChar

/-- A text without the blanks at its front. -/
def trimStart (text : List Char) : List Char :=
  text.dropWhile isBlank

/-- A text without the characters of a class at its back. -/
def dropBack (drops : Char → Bool) (text : List Char) : List Char :=
  (text.reverse.dropWhile drops).reverse

/-- A text without the blanks at either end. -/
def trim (text : List Char) : List Char :=
  dropBack isBlank (trimStart text)

/-- The longest run of path characters at the front, without its trailing dots. -/
def path (text : List Char) : List Char :=
  dropBack (· == '.') (text.takeWhile isPathChar)

end MessageRefs.Text
