import MessageRefs.Table
import MessageRefs.Text.Unprintable

/-!
**Texts in double quotes, with everything invisible spelled out.**

* `escaped`: how one character is shown;
* `quoted`: a text as a message shows it.
-/

namespace MessageRefs.Text

/-- The lower-case hexadecimal digits of a number. -/
def hexDigits (number : Nat) : List Char :=
  Nat.toDigits 16 number

/-- Whether a character is left as it is by `quoted`, quotes and backslashes apart. -/
def isPrintable (c : Char) : Bool :=
  if c.val < 127 then 32 ≤ c.val else !Table.holds unprintableBounds c.toNat

/-- How a character is shown between double quotes. -/
def escaped (c : Char) : List Char :=
  match c with
  | '\x00' => ['\\', '0']
  | '\t' => ['\\', 't']
  | '\n' => ['\\', 'n']
  | '\r' => ['\\', 'r']
  | '"' => ['\\', '"']
  | '\\' => ['\\', '\\']
  | _ => if isPrintable c then [c] else ['\\', 'u', '{'] ++ hexDigits c.toNat ++ ['}']

/-- A text between double quotes, its quotes, backslashes and invisible characters escaped. -/
def quoted (text : String) : String :=
  .ofList ('"' :: text.toList.flatMap escaped ++ ['"'])

end MessageRefs.Text
