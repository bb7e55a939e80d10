import MessageRefs.Json.Printer
import MessageRefs.Protocol.Request

/-!
**Responses.**

* `Response`: an answer to a request, or to what should have been one;
* `Response.render`: the line that is sent.
-/

namespace MessageRefs

/-- The kinds of failure that a response can tell. -/
inductive ErrorCode where
  | parseError
  | invalidRequest
  | methodNotFound
  | invalidParams
  | internalError
deriving DecidableEq, Repr

/-- The number of a kind of failure. -/
def ErrorCode.number : ErrorCode → Int
  | parseError => -32700
  | invalidRequest => -32600
  | methodNotFound => -32601
  | invalidParams => -32602
  | internalError => -32603

/-- A failure, with the text that explains it. -/
structure Failure where
  code : ErrorCode
  message : String
deriving DecidableEq, Repr

/-- A failure as JSON text, its code first. -/
def Failure.render (failure : Failure) : String :=
  "\x7b\"code\":" ++ toString failure.code.number ++ ",\"message\":" ++
    Json.quoted failure.message ++ "\x7d"

/-- An answer: the id of the request, if there is one, and a result or a failure. -/
structure Response where
  id : Option Json
  outcome : Except Failure Json

namespace Response

/-- The id as a part of a response. -/
def renderId : Option Json → String
  | some id => ",\"id\":" ++ id.render
  | none => ""

/-- The result or failure as a part of a response. -/
def renderOutcome : Except Failure Json → String
  | .ok result => ",\"result\":" ++ result.render
  | .error failure => ",\"error\":" ++ failure.render

/-- A response as a line of JSON text: the version, the id, and the result or failure. -/
def render (response : Response) : String :=
  "\x7b\"jsonrpc\":" ++ Json.quoted Request.version ++ renderId response.id ++
    renderOutcome response.outcome ++ "\x7d"

end Response

end MessageRefs
