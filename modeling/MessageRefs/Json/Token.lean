/-!
**The tokens of JSON text.**

A string token keeps its escapes and a number token its digits, so that reading tokens checks the
spelling of every string and number and nothing else about them.

* `Json.Numeral`: a number as it is written;
* `Json.Token.next?`: the token at a place;
* `Json.Token.all?`: the tokens of a text.
-/

namespace MessageRefs.Json

/-- A number as it is written, digit by digit. -/
structure Numeral where
  isNegative : Bool
  /-- The digits before the point. -/
  whole : List Char
  /-- The digits behind the point; none without a point. -/
  fraction : List Char
  /-- Whether the exponent is negative, and its digits. -/
  exponent : Option (Bool × List Char)
deriving DecidableEq, Repr

namespace Numeral

/-- The digits at the front of a text. -/
def digits (text : List Char) : List Char :=
  text.takeWhile Char.isDigit

/-- The digits behind a point, if the text begins with a point, and the characters that takes. -/
def fraction? (text : List Char) : Option (List Char × Nat) :=
  match text with
  | '.' :: rest =>
    let found := digits rest
    if found.isEmpty then none else some (found, found.length + 1)
  | _ => some ([], 0)

/-- The exponent, if the text begins with one, and the characters that takes. -/
def exponent? (text : List Char) : Option (Option (Bool × List Char) × Nat) :=
  match text with
  | [] => some (none, 0)
  | mark :: rest =>
    if mark = 'e' || mark = 'E' then
      let isSigned := rest.head? == some '+' || rest.head? == some '-'
      let found := digits (if isSigned then rest.drop 1 else rest)
      if found.isEmpty then none
      else some (some (rest.head? == some '-', found), found.length + if isSigned then 2 else 1)
    else some (none, 0)

/-- The numeral at the front of a text and the characters it takes. A leading zero stands alone. -/
def read? (text : List Char) : Option (Numeral × Nat) :=
  let isNegative := text.head? == some '-'
  let unsigned := if isNegative then text.drop 1 else text
  let run := digits unsigned
  let whole := if run.head? == some '0' then run.take 1 else run
  if whole.isEmpty then none
  else match fraction? (unsigned.drop whole.length) with
    | none => none
    | some (fraction, fractionLength) =>
      match exponent? (unsigned.drop (whole.length + fractionLength)) with
      | none => none
      | some (exponent, exponentLength) =>
        let length := whole.length + fractionLength + exponentLength
        some (⟨isNegative, whole, fraction, exponent⟩, if isNegative then length + 1 else length)

end Numeral

/-- A token of JSON text. -/
inductive Token where
  | leftBracket
  | rightBracket
  | leftBrace
  | rightBrace
  | colon
  | comma
  | null
  | bool (value : Bool)
  | number (numeral : Numeral)
  /-- A string, as it is written between its quotes. -/
  | string (written : List Char)
deriving DecidableEq, Repr

namespace Token

/-- Whether a character is a hexadecimal digit. -/
def isHexDigit (c : Char) : Bool :=
  c.isDigit || ('a' ≤ c && c ≤ 'f') || ('A' ≤ c && c ≤ 'F')

/-- Whether a character may follow a backslash, the mark of a code unit apart. -/
def isEscape (c : Char) : Bool :=
  c == '"' || c == '\\' || c == '/' || c == 'b' || c == 'f' || c == 'n' || c == 'r' || c == 't'

/-- Reads a string up to its closing quote. `skip` characters are taken as they are; `reversed`
holds what is already read, the last character first. -/
def stringFrom? (reversed : List Char) (skip : Nat) : List Char → Option (List Char)
  | [] => none
  | c :: rest =>
    match skip with
    | skip + 1 => stringFrom? (c :: reversed) skip rest
    | 0 =>
      if c = '"' then some reversed.reverse
      else if c = '\\' then
        match rest with
        | [] => none
        | mark :: others =>
          if isEscape mark then stringFrom? (c :: reversed) 1 rest
          else if mark = 'u' && (others.take 4).length = 4 && (others.take 4).all isHexDigit then
            stringFrom? (c :: reversed) 5 rest
          else none
      else if c.val < 32 then none
      else stringFrom? (c :: reversed) 0 rest

/-- White space between tokens. -/
def isSpace (c : Char) : Bool :=
  c == ' ' || c == '\n' || c == '\t' || c == '\r'

/-- The word at the front of a text, if it is the given one, as a token. -/
def word? (word : String) (token : Token) (text : List Char) : Option (Token × Nat) :=
  if word.toList.isPrefixOf text then some (token, word.length) else none

/-- The token at the front of a text and the number of its characters. -/
def next? (text : List Char) : Option (Token × Nat) :=
  match text with
  | [] => none
  | c :: rest =>
    match c with
    | '[' => some (leftBracket, 1)
    | ']' => some (rightBracket, 1)
    | '{' => some (leftBrace, 1)
    | '}' => some (rightBrace, 1)
    | ':' => some (colon, 1)
    | ',' => some (comma, 1)
    | 'n' => word? "null" null text
    | 't' => word? "true" (bool true) text
    | 'f' => word? "false" (bool false) text
    | '"' => (stringFrom? [] 0 rest).map fun written => (string written, written.length + 2)
    | _ => (Numeral.read? text).map fun (numeral, length) => (number numeral, length)

/-- Reads on after `skip` characters, behind the tokens already found. -/
def allFrom? (found : Array Token) (skip : Nat) : List Char → Option (List Token)
  | [] => some found.toList
  | text@(c :: rest) =>
    match skip with
    | skip + 1 => allFrom? found skip rest
    | 0 =>
      if isSpace c then allFrom? found 0 rest
      else match next? text with
        | none => none
        | some (token, length) => allFrom? (found.push token) (length - 1) rest

/-- The tokens of a text, if it consists of tokens and white space. -/
def all? (text : List Char) : Option (List Token) :=
  allFrom? #[] 0 text

end Token

end MessageRefs.Json
