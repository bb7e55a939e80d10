/-!
**JSON values.**

* `Json.Number`: an integer of at most 64 bits, or a double;
* `Json`: a value, the fields of its objects in increasing order of their names;
* `Json.put`: sets a field of an object.
-/

namespace MessageRefs

namespace Json

/-- A number: an integer from `-2 ^ 63` up to `2 ^ 64 - 1`, or a finite double. -/
inductive Number where
  | integer (value : Int)
  | double (value : Float)

end Json

/-- A JSON value. -/
inductive Json where
  | null
  | bool (value : Bool)
  | number (value : Json.Number)
  | string (value : String)
  | array (items : List Json)
  | object (fields : List (String × Json))

namespace Json

/-- An integer as a value. -/
def ofNat (value : Nat) : Json :=
  number (.integer value)

/-- A list of texts as a value. -/
def ofStrings (values : List String) : Json :=
  array (values.map string)

/-- Sets the field of a name, replacing the one it has; the order of names is kept. -/
def put (name : String) (value : Json) : List (String × Json) → List (String × Json)
  | [] => [(name, value)]
  | field :: others =>
    if name < field.1 then (name, value) :: field :: others
    else if name = field.1 then (name, value) :: others
    else field :: put name value others

/-- An object of the given fields; of two with one name the later counts. -/
def ofFields (fields : List (String × Json)) : Json :=
  object (fields.foldl (fun ordered field => put field.1 field.2 ordered) [])

/-- The field of a name, if the value is an object that has it. -/
def field? (name : String) : Json → Option Json
  | object fields => fields.lookup name
  | _ => none

end Json

end MessageRefs
