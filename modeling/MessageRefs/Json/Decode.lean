import MessageRefs.Json.Printer

/-!
**Typed values out of JSON values.**

A record is read from an object by the names of its fields, or from an array by their order.

* `Json.DecodeError`: what can be wrong with a value, and `DecodeError.message`, how it is told;
* `Json.Decoder`: a reader of values of one type;
* `Json.Record`: a reader of records, put together field by field;
* `Json.Record.decoder`: the record as a decoder, which tells the first thing wrong.
-/

namespace MessageRefs.Json

/-- What can be wrong with a value. -/
inductive DecodeError where
  /-- The value is of another kind than the one expected. -/
  | wrongKind (found : Json) (expected : String)
  /-- The integer is none of those expected. -/
  | outOfRange (found : Int) (expected : String)
  /-- A field that has no default is absent from an object. -/
  | missingField (name : String)
  /-- An array ends before a field that has no default. -/
  | tooShort (count : Nat) (record : String) (size : Nat)
  /-- An array goes on behind the last field. -/
  | tooLong (count : Nat)

/-- A value as messages describe it. -/
def description : Json → String
  | null => "null"
  | bool value => "boolean \x60" ++ toString value ++ "\x60"
  | number (.integer value) => "integer \x60" ++ toString value ++ "\x60"
  | number (.double value) =>
    "floating point \x60" ++ (Number.double value).text ++ "\x60"
  | string value => "string " ++ Text.quoted value
  | array _ => "sequence"
  | object _ => "map"

/-- The text shown for an error. -/
def DecodeError.message : DecodeError → String
  | wrongKind found expected =>
    "invalid type: " ++ found.description ++ ", expected " ++ expected
  | outOfRange found expected =>
    "invalid value: integer \x60" ++ toString found ++ "\x60, expected " ++ expected
  | missingField name => "missing field \x60" ++ name ++ "\x60"
  | tooShort count record size =>
    "invalid length " ++ toString count ++ ", expected struct " ++ record ++ " with " ++
      toString size ++ if size = 1 then " element" else " elements"
  | tooLong count =>
    "invalid length " ++ toString count ++ ", expected fewer elements in array"

/-- A reader of values of one type. -/
abbrev Decoder (α : Type) := Json → Except DecodeError α

namespace Decoder

/-- Any value at all. -/
def any : Decoder Json :=
  .ok

/-- A text. -/
def text : Decoder String
  | string value => .ok value
  | value => .error (.wrongKind value "a string")

/-- An integer of 32 bits without a sign. -/
def natural32 : Decoder Nat
  | number (.integer value) =>
    if 0 ≤ value && value < 4294967296 then .ok value.toNat else .error (.outOfRange value "u32")
  | value => .error (.wrongKind value "u32")

/-- A list of values. -/
def list {α : Type} (item : Decoder α) : Decoder (List α)
  | array items => items.mapM item
  | value => .error (.wrongKind value "a sequence")

/-- A value, or none where null stands. -/
def optional {α : Type} (value : Decoder α) : Decoder (Option α)
  | null => .ok none
  | other => (value other).map some

end Decoder

/-- Where the fields of a record are read from. -/
inductive Source where
  | fields (fields : List (String × Json))
  /-- An array, read as the record of the given name and number of fields. -/
  | items (items : List Json) (record : String) (size : Nat)

/-- The value of a field, given its name and its place in the record. -/
def Source.get? (source : Source) (name : String) (place : Nat) : Option Json :=
  match source with
  | .fields known => known.lookup name
  | .items known _ _ => known[place]?

/-- What is wrong with one field. -/
structure Problem where
  error : DecodeError
  isAbsence : Bool
  /-- The name under which the field stands in an object; empty in an array. -/
  name : String

namespace Problem

/-- The absence of a field. -/
def absence (source : Source) (name : String) (place : Nat) : Problem :=
  match source with
  | .fields _ => ⟨.missingField name, true, name⟩
  | .items _ record size => ⟨.tooShort place record size, true, ""⟩

/-- A field whose value is not as it should be. -/
def misread (source : Source) (name : String) (error : DecodeError) : Problem :=
  match source with
  | .fields _ => ⟨error, false, name⟩
  | .items _ _ _ => ⟨error, false, ""⟩

/-- The problem that is met first, where `first` belongs to an earlier field of the record than
`second`: values are read in the order of their names, and absences are found thereafter. -/
def earlier (first second : Problem) : Problem :=
  if first.isAbsence then if second.isAbsence then first else second
  else if !second.isAbsence && second.name < first.name then second
  else first

end Problem

/-- A reader of records: the number of fields it reads, and how it reads them from a source, the
first of them at a given place. -/
structure Record (α : Type) where
  size : Nat
  read : Source → Nat → Except Problem α

namespace Record

/-- A record of one field. -/
def field {α : Type} (name : String) (decode : Decoder α) (fallback : Option α := none) :
    Record α where
  size := 1
  read source place :=
    match source.get? name place with
    | some value => (decode value).mapError (Problem.misread source name)
    | none =>
      match fallback with
      | some value => .ok value
      | none => .error (.absence source name place)

/-- Reads what both records read, and tells the earlier of their problems. -/
def both {α β : Type} (function : Record (α → β)) (argument : Record α) : Record β where
  size := function.size + argument.size
  read source place :=
    match function.read source place, argument.read source (place + function.size) with
    | .ok apply, .ok value => .ok (apply value)
    | .error problem, .ok _ => .error problem
    | .ok _, .error problem => .error problem
    | .error first, .error second => .error (first.earlier second)

instance : Applicative Record where
  pure value := ⟨0, fun _ _ => .ok value⟩
  seq function argument := both function (argument ())

/-- The record as a decoder. -/
def decoder {α : Type} (name : String) (record : Record α) : Decoder α
  | object fields => (record.read (.fields fields) 0).mapError Problem.error
  | array items =>
    match record.read (.items items name record.size) 0 with
    | .error problem => .error problem.error
    | .ok value => if record.size < items.length then .error (.tooLong items.length) else .ok value
  | value => .error (.wrongKind value ("struct " ++ name))

end Record

end MessageRefs.Json
