import MessageRefs.Json.Number
import MessageRefs.Text.Quoted

/-!
**JSON values as text, without white space.**

* `Json.quoted`: a string between its quotes;
* `Json.render`: a value as text.
-/

namespace MessageRefs.Json

/-- A code below 256 as two hexadecimal digits. -/
def twoHexDigits (code : Nat) : List Char :=
  Text.hexDigits (code / 16) ++ Text.hexDigits (code % 16)

/-- How one character of a string is written. -/
def escaped (c : Char) : List Char :=
  match c with
  | '"' => ['\\', '"']
  | '\\' => ['\\', '\\']
  | '\x08' => ['\\', 'b']
  | '\t' => ['\\', 't']
  | '\n' => ['\\', 'n']
  | '\x0c' => ['\\', 'f']
  | '\r' => ['\\', 'r']
  | _ => if c.val < 32 then ['\\', 'u', '0', '0'] ++ twoHexDigits c.toNat else [c]

/-- A string between its quotes. -/
def quoted (text : String) : String :=
  .ofList ('"' :: text.toList.flatMap escaped ++ ['"'])

/-- Texts with commas between them. -/
def commas (texts : List String) : String :=
  ",".intercalate texts

mutual

/-- A value as text. -/
def render : Json → String
  | null => "null"
  | bool value => if value then "true" else "false"
  | number value => value.text
  | string value => quoted value
  | array items => "[" ++ commas (renderItems items) ++ "]"
  | object fields => "\x7b" ++ commas (renderFields fields) ++ "\x7d"

/-- The items of an array as texts. -/
def renderItems : List Json → List String
  | [] => []
  | item :: others => render item :: renderItems others

/-- The fields of an object as texts. -/
def renderFields : List (String × Json) → List String
  | [] => []
  | (name, value) :: others => (quoted name ++ ":" ++ render value) :: renderFields others

end

end MessageRefs.Json
