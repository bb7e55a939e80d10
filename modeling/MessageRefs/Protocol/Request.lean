import MessageRefs.Json.Written
import MessageRefs.Text.CharClass

/-!
**Requests, one to a line.**

* `Request.ofWritten?`: the request that a JSON text writes;
* `Request.ofLine`: the request of a line, if the line is not blank.
-/

namespace MessageRefs

open Json

/-- A request, as it is sent. One without an id is a notification and gets no answer. -/
structure Request where
  jsonrpc : String
  id : Option Json
  method : String
  params : Json

/-- Why there is no request where one was expected. -/
inductive ReadError where
  /-- The bytes could not be read, or are not UTF-8. -/
  | unreadable
  /-- The line is no request. -/
  | malformed
deriving DecidableEq, Repr

/-- The text shown for an error. -/
def ReadError.message : ReadError → String
  | unreadable => "failed to read request"
  | malformed => "failed to parse JSON-RPC request"

namespace Request

/-- The version of the protocol. -/
def version : String := "2.0"

/-- Whether a request names the version that is spoken here. -/
def hasValidVersion (request : Request) : Bool :=
  request.jsonrpc = version

/-- How deep the values in a request may be nested; the request itself counts as one level. -/
def depthLimit : Nat := Json.depthLimit - 1

/-- A value in a request. -/
def value? (written : Written) : Option Json :=
  written.value? depthLimit

/-- A text in a request. -/
def text? : Written → Option String
  | .string written => Written.characters? written
  | _ => none

/-- An id in a request; null stands for none. -/
def id? (written : Written) : Option (Option Json) :=
  match value? written with
  | none => none
  | some .null => some none
  | some value => some (some value)

/-- The fields of a request that have been read. -/
structure Fields where
  jsonrpc : Option String := none
  id : Option (Option Json) := none
  method : Option String := none
  params : Option Json := none

/-- Reads one more field. A field that the protocol knows appears once, and the value of any other
does not matter. -/
def Fields.read? (fields : Fields) (name : String) (written : Written) : Option Fields :=
  match name with
  | "jsonrpc" =>
    if fields.jsonrpc.isSome then none
    else (text? written).map fun value => { fields with jsonrpc := some value }
  | "id" =>
    if fields.id.isSome then none
    else (id? written).map fun value => { fields with id := some value }
  | "method" =>
    if fields.method.isSome then none
    else (text? written).map fun value => { fields with method := some value }
  | "params" =>
    if fields.params.isSome then none
    else (value? written).map fun value => { fields with params := some value }
  | _ => some fields

/-- Reads the fields of an object, one after another. -/
def Fields.readAll? (fields : Fields) : List (List Char × Written) → Option Fields
  | [] => some fields
  | (name, written) :: others =>
    match Written.characters? name with
    | none => none
    | some name =>
      match fields.read? name written with
      | none => none
      | some fields => fields.readAll? others

/-- The request of its fields; a version and a method are required. -/
def ofFields? (fields : Fields) : Option Request :=
  match fields.jsonrpc, fields.method with
  | some jsonrpc, some method =>
    some ⟨jsonrpc, fields.id.getD none, method, fields.params.getD .null⟩
  | _, _ => none

/-- The request that a JSON text writes, by name in an object or by place in an array. -/
def ofWritten? : Written → Option Request
  | .object fields => (Fields.readAll? {} fields).bind ofFields?
  | .array [jsonrpc, id, method] =>
    match text? jsonrpc, id? id, text? method with
    | some jsonrpc, some id, some method => some ⟨jsonrpc, id, method, .null⟩
    | _, _, _ => none
  | .array [jsonrpc, id, method, params] =>
    match text? jsonrpc, id? id, text? method, value? params with
    | some jsonrpc, some id, some method, some params => some ⟨jsonrpc, id, method, params⟩
    | _, _, _, _ => none
  | _ => none

/-- The request of a line, or none if the line is blank. -/
def ofLine (line : List Char) : Except ReadError (Option Request) :=
  let trimmed := Text.trim line
  if trimmed.isEmpty then .ok none
  else
    match (Written.read? trimmed).bind ofWritten? with
    | some request => .ok (some request)
    | none => .error .malformed

end Request

end MessageRefs
