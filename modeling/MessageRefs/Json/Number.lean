import MessageRefs.Decimal.Shortest
import MessageRefs.Json.Basic
import MessageRefs.Json.Token

/-!
**Numbers from numerals and back.**

An integer of 64 bits keeps its value. Any other number is a double: the leading digits that fit 64
bits, scaled by one power of ten. A number beyond the range of doubles has no value.

* `Json.Number.ofNumeral?`: the value of a numeral;
* `Json.Number.text`: a number as it is written.
-/

namespace MessageRefs.Json.Number

/-- The greatest unsigned integer of 64 bits. -/
def greatest : Nat := Nat.pow 2 64 - 1

/-- Appends digits to a number as long as the result fits 64 bits, and counts those left over. -/
def gather (number : Nat) : List Char → Nat × Nat
  | [] => (number, 0)
  | digit :: others =>
    let larger := number * 10 + (digit.toNat - '0'.toNat)
    if larger ≤ greatest then gather larger others else (number, others.length + 1)

/-- A power of ten as a double. -/
def powerOfTen (exponent : Nat) : Float :=
  Float.ofScientific 1 false exponent

/-- A double scaled by a power of ten, if the result is finite. The powers of ten that are doubles
end at the 308th, so a smaller scale is applied in steps. -/
def scaled? (value : Float) (exponent : Int) : Option Float :=
  if exponent.natAbs ≤ 308 then
    if exponent < 0 then some (value / powerOfTen exponent.natAbs)
    else
      let product := value * powerOfTen exponent.natAbs
      if product.isInf then none else some product
  else if value == 0 then some value
  else if 0 ≤ exponent then none
  else scaled? (value / powerOfTen 308) (exponent + 308)
termination_by (-exponent).toNat

/-- An integer held within 32 bits. -/
def held (value : Int) : Int :=
  max (-2147483648) (min value 2147483647)

/-- The double of a significand of 64 bits and a power of ten, with a sign. -/
def double? (isNegative : Bool) (significand : Nat) (exponent : Int) : Option Number :=
  (scaled? (UInt64.ofNat significand).toFloat exponent).map fun value =>
    double (if isNegative then -value else value)

/-- An exponent's digits as a number. -/
def exponentOf (digits : List Char) : Nat :=
  digits.foldl (fun number digit => number * 10 + (digit.toNat - '0'.toNat)) 0

/-- The value of a numeral. A negative zero is a double, and so is every number that no integer of
64 bits equals. -/
def ofNumeral? (numeral : Numeral) : Option Number :=
  let (leading, omitted) := gather 0 numeral.whole
  let isPlain := omitted = 0 && numeral.fraction.isEmpty && numeral.exponent.isNone
  if isPlain && !numeral.isNegative then some (integer leading)
  else if isPlain && 0 < leading && leading ≤ Nat.pow 2 63 then some (integer (-leading))
  else
    let (significand, ignored) := gather leading numeral.fraction
    let scale : Int := omitted - (numeral.fraction.length - ignored : Nat)
    match numeral.exponent with
    | none => double? numeral.isNegative significand scale
    | some (isBelow, digits) =>
      let exponent := exponentOf digits
      if 2147483647 < exponent then
        if significand = 0 || isBelow then double? numeral.isNegative 0 0 else none
      else
        double? numeral.isNegative significand
          (held (if isBelow then scale - exponent else scale + exponent))

/-- How doubles are written. -/
structure Format where
  /-- The least decimal exponent that is written with leading zeros. -/
  leastPositional : Int
  /-- The greatest decimal exponent that is written without a power of ten. -/
  greatestPositional : Int

/-- Numbers from `0.00001` up to below `1e+16` are written without a power of ten. -/
def format : Format := ⟨-5, 15⟩

/-- The digits of a positive decimal, with a point or a power of ten as the format has it. -/
def decimalText (format : Format) (decimal : Decimal) : List Char :=
  let digits := Nat.toDigits 10 decimal.digits
  let magnitude := decimal.exponent + digits.length - 1
  if magnitude < format.leastPositional || format.greatestPositional < magnitude then
    let mantissa := digits.take 1 ++ if digits.length = 1 then [] else '.' :: digits.drop 1
    let sign := if magnitude < 0 then '-' else '+'
    mantissa ++ 'e' :: sign :: Nat.toDigits 10 magnitude.natAbs
  else if magnitude < 0 then
    ['0', '.'] ++ List.replicate (-magnitude - 1).toNat '0' ++ digits
  else if 0 ≤ decimal.exponent then
    digits ++ List.replicate decimal.exponent.toNat '0' ++ ['.', '0']
  else
    digits.take (magnitude + 1).toNat ++ '.' :: digits.drop (magnitude + 1).toNat

/-- The digits of a finite double. -/
def doubleText (value : Float) : List Char :=
  let bits := value.toBits.toNat
  let sign := if Nat.pow 2 63 ≤ bits then ['-'] else []
  sign ++ if bits % Nat.pow 2 63 = 0 then ['0', '.', '0']
    else decimalText format (Binary.ofFloat value).shortest

/-- A number as it is written. -/
def text : Number → String
  | integer value => toString value
  | double value => .ofList (doubleText value)

end MessageRefs.Json.Number
