import MessageRefs.Json.Number

/-!
**JSON text, nested as it is written.**

Tokens are nested by a machine with a stack of frames, to any depth. The values of strings and
numbers are worked out afterwards, and only where they are asked for.

* `Json.Written.read?`: the nesting of a text, if it is one JSON value;
* `Json.Written.value?`: its value, if strings are well formed, numbers in range, and containers
  nested no deeper than allowed;
* `Json.parse?`: the value of a text.
-/

namespace MessageRefs.Json

/-- A JSON value as it is written: strings keep their escapes and numbers their digits. -/
inductive Written where
  | null
  | bool (value : Bool)
  | number (numeral : Numeral)
  | string (written : List Char)
  | array (items : List Written)
  | object (fields : List (List Char × Written))

namespace Written

/-- A container that is still open, its parts in reverse. -/
inductive Frame where
  | array (items : List Written)
  /-- An object, with the name of the field whose value is being read. -/
  | object (fields : List (List Char × Written)) (name : List Char)

/-- What the next token may be. -/
inductive Wanted where
  | value
  /-- A value, or the end of the array just opened. -/
  | firstItem
  | name
  /-- A name, or the end of the object just opened. -/
  | firstName
  | colon
  /-- A comma, or the end of the innermost container. -/
  | separator
  /-- Nothing: the value is complete. -/
  | nothing (whole : Written)

/-- The state of the machine: the open containers, the innermost first, and what may follow. -/
structure State where
  stack : List Frame
  wanted : Wanted

/-- The state after a value is complete. -/
def State.complete (stack : List Frame) (value : Written) : State :=
  match stack with
  | [] => ⟨[], .nothing value⟩
  | .array items :: outer => ⟨.array (value :: items) :: outer, .separator⟩
  | .object fields name :: outer => ⟨.object ((name, value) :: fields) name :: outer, .separator⟩

/-- The state after a token that begins a value. -/
def State.begin (stack : List Frame) : Token → Option State
  | .null => some (complete stack .null)
  | .bool value => some (complete stack (.bool value))
  | .number numeral => some (complete stack (.number numeral))
  | .string written => some (complete stack (.string written))
  | .leftBracket => some ⟨.array [] :: stack, .firstItem⟩
  | .leftBrace => some ⟨.object [] [] :: stack, .firstName⟩
  | _ => none

/-- The state after the name of a field. -/
def State.named (stack : List Frame) (name : List Char) : Option State :=
  match stack with
  | .object fields _ :: outer => some ⟨.object fields name :: outer, .colon⟩
  | _ => none

/-- The state after the end of the innermost container. -/
def State.finish (stack : List Frame) (token : Token) : Option State :=
  match stack, token with
  | .array items :: outer, .rightBracket => some (complete outer (.array items.reverse))
  | .object fields _ :: outer, .rightBrace => some (complete outer (.object fields.reverse))
  | _, _ => none

/-- The state after one more token. -/
def State.step (state : State) (token : Token) : Option State :=
  match state.wanted, token with
  | .value, _ => begin state.stack token
  | .firstItem, .rightBracket => finish state.stack token
  | .firstItem, _ => begin state.stack token
  | .name, .string written => named state.stack written
  | .firstName, .string written => named state.stack written
  | .firstName, _ => finish state.stack token
  | .colon, .colon => some ⟨state.stack, .value⟩
  | .separator, .comma =>
    match state.stack with
    | .array _ :: _ => some ⟨state.stack, .value⟩
    | .object _ _ :: _ => some ⟨state.stack, .name⟩
    | [] => none
  | .separator, _ => finish state.stack token
  | _, _ => none

/-- Reads tokens from a state on. -/
def readFrom (state : State) : List Token → Option Written
  | [] =>
    match state.wanted with
    | .nothing whole => some whole
    | _ => none
  | token :: others =>
    match state.step token with
    | none => none
    | some state => readFrom state others

/-- The nesting of a text, if it is one JSON value. -/
def read? (text : List Char) : Option Written :=
  match Token.all? text with
  | none => none
  | some tokens => readFrom ⟨[], .value⟩ tokens

/-- The value of a hexadecimal digit. -/
def hexValue (c : Char) : Nat :=
  if c.isDigit then c.toNat - '0'.toNat else c.toLower.toNat - 'a'.toNat + 10

/-- The character that a backslash and another character stand for. -/
def unescape (c : Char) : Char :=
  match c with
  | 'b' => '\x08'
  | 'f' => '\x0c'
  | 'n' => '\n'
  | 'r' => '\r'
  | 't' => '\t'
  | _ => c

/-- A part of a string: a character, or a code unit of 16 bits. -/
inductive Part where
  | character (c : Char)
  | codeUnit (code : Nat)

/-- The parts of a string as it is written, behind those already found in reverse. -/
def partsFrom (reversed : List Part) : List Char → List Part
  | '\\' :: 'u' :: a :: b :: c :: d :: rest =>
    let code := ((hexValue a * 16 + hexValue b) * 16 + hexValue c) * 16 + hexValue d
    partsFrom (.codeUnit code :: reversed) rest
  | '\\' :: c :: rest => partsFrom (.character (unescape c) :: reversed) rest
  | c :: rest => partsFrom (.character c :: reversed) rest
  | [] => reversed.reverse

/-- Joins parts to characters, behind those already found in reverse. A high surrogate needs a low
one behind it, and a low one does not stand alone. -/
def joinFrom? (reversed : List Char) : List Part → Option (List Char)
  | [] => some reversed.reverse
  | .character c :: others => joinFrom? (c :: reversed) others
  | .codeUnit code :: others =>
    if code < 0xd800 || 0xe000 ≤ code then joinFrom? (.ofNat code :: reversed) others
    else if 0xdc00 ≤ code then none
    else
      match others with
      | .codeUnit low :: others =>
        if 0xdc00 ≤ low && low < 0xe000 then
          let joined := 0x10000 + (code - 0xd800) * 0x400 + (low - 0xdc00)
          joinFrom? (.ofNat joined :: reversed) others
        else none
      | _ => none

/-- The characters of a string from what is written between its quotes. -/
def characters? (written : List Char) : Option String :=
  (joinFrom? [] (partsFrom [] written)).map .ofList

/-- The value of a written value whose containers are nested at most `depth` deep. -/
def value? : Nat → Written → Option Json
  | _, .null => some .null
  | _, .bool value => some (.bool value)
  | _, .number numeral => (Number.ofNumeral? numeral).map .number
  | _, .string written => (characters? written).map .string
  | 0, .array _ => none
  | 0, .object _ => none
  | depth + 1, .array items => (items.mapM (value? depth)).map .array
  | depth + 1, .object fields =>
    (fields.mapM fun (name, value) => do
      return (← characters? name, ← value? depth value)).map ofFields

end Written

/-- How deep arrays and objects may be nested. -/
def depthLimit : Nat := 127

/-- The value of a text, if it is one JSON value. -/
def parse? (text : String) : Option Json :=
  (Written.read? text.toList).bind (Written.value? depthLimit)

end MessageRefs.Json
