import MessageRefs.Protocol.Framing
import MessageRefs.Protocol.Response
import MessageRefs.Workspace.Report

/-!
**A server of message references.**

* `Server.configure`: what a setup changes, all of it or nothing;
* `Server.dispatch`: what a method answers, and the server thereafter;
* `Server.answer`: the reply to a delivery, if it gets one.
-/

namespace MessageRefs

/-- What a server has been told: what to look for, and its settings. -/
structure Server where
  matcher : Matcher := .standard
  settings : ServerSettings := {}

/-- A reply that is about to be sent. -/
structure Reply where
  response : Response
  /-- The server cannot go on if this reply is not sent. -/
  isVital : Bool
  /-- The server stops behind this reply. -/
  isLast : Bool

namespace Server

/-- The answer to a setup: the name of the server, its version, and the documents it wants. -/
def greeting (settings : ServerSettings) : Json :=
  .ofFields [("name", .string "slang-ref-core"), ("version", .string "0.1.0"),
    ("documentSelectors", .ofStrings settings.documentSelectors)]

/-- Takes over a configuration and settings, whichever are given, or nothing if a part of either is
not as it should be. -/
def configure (server : Server) (params : Json) : Except String Server :=
  let setup : Except Json.DecodeError Params.Setup :=
    match params with
    | .null => .ok {}
    | _ => Params.Setup.decoder params
  match setup with
  | .error error => .error error.message
  | .ok setup =>
    let settings := setup.settings.getD server.settings
    match setup.matcher with
    | none => .ok ⟨server.matcher, settings⟩
    | some config =>
      match Matcher.ofConfig config with
      | .ok matcher => .ok ⟨matcher, settings⟩
      | .error error => .error error.message

/-- The references in a document text; none if it is not a string. -/
def itemsOf (server : Server) : Json → List ReferenceItem
  | .string text => server.matcher.items text
  | _ => []

/-- The references in one document. -/
def locate (server : Server) (params : Params.Locate) : Json :=
  .ofFields [("references", ReferenceItem.listToJson (server.itemsOf params.documentText))]

/-- The references in several documents. -/
def locateBatch (server : Server) (params : Params.LocateBatch) : Json :=
  .ofFields [("documents", .array (params.documents.map fun document =>
    .ofFields [("uri", .string document.uri),
      ("references", ReferenceItem.listToJson (server.itemsOf document.documentText))]))]

/-- The references in a workspace. -/
def scanWorkspace (server : Server) (files : Workspace.FileSystem)
    (params : Params.ScanWorkspace) : Except String Json :=
  let extensions := params.extensions.getD server.settings.extensions
  match Workspace.scan files params.root extensions server.matcher with
  | .ok report => .ok report.toJson
  | .error error => .error error.message

/-- The replacements for a text that becomes a message. -/
def messageOptions (server : Server) (params : Params.MessageOptions) : Except String Json :=
  let messageId := Extraction.normalized params.messageId
  if messageId.isEmpty then .error "messageId must not be empty"
  else
    let options := Extraction.options messageId server.matcher.config.anchor
    .ok (.ofFields [("options", ExtractOption.listToJson options)])

/-- Decodes parameters and answers them, with a failure of its own for either step. -/
def handle {α : Type} (decoder : Json.Decoder α) (answer : α → Except String Json)
    (params : Json) : Except Failure Json :=
  match decoder params with
  | .error error => .error ⟨.invalidParams, error.message⟩
  | .ok value => (answer value).mapError fun message => ⟨.internalError, message⟩

/-- The method that stops the server. -/
def shutdownMethod : String := "shutdown"

/-- What a method answers, and the server thereafter. Only a setup changes the server. -/
def dispatch (server : Server) (files : Workspace.FileSystem) (method : String) (params : Json) :
    Server × Except Failure Json :=
  match method with
  | "initialize" =>
    match server.configure params with
    | .ok changed => (changed, .ok (greeting changed.settings))
    | .error message => (server, .error ⟨.invalidParams, message⟩)
  | "shutdown" => (server, .ok .null)
  | "references/locate" =>
    (server, handle Params.Locate.decoder (fun params => .ok (server.locate params)) params)
  | "references/locateBatch" =>
    (server, handle Params.LocateBatch.decoder (fun params => .ok (server.locateBatch params))
      params)
  | "references/scanWorkspace" =>
    (server, handle Params.ScanWorkspace.decoder (server.scanWorkspace files) params)
  | "extract/messageOptions" =>
    (server, handle Params.MessageOptions.decoder server.messageOptions params)
  | _ => (server, .error ⟨.methodNotFound, "method not found: " ++ method⟩)

/-- The reply to a delivery, and the server thereafter. A notification gets no reply. -/
def answer (server : Server) (files : Workspace.FileSystem) : Delivery → Server × Option Reply
  | .error error => (server, some ⟨⟨none, .error ⟨.parseError, error.message⟩⟩, true, false⟩)
  | .ok request =>
    match request.id with
    | none => (server, none)
    | some id =>
      if request.hasValidVersion then
        let (server, outcome) := server.dispatch files request.method request.params
        (server, some ⟨⟨some id, outcome⟩, false, request.method = shutdownMethod⟩)
      else
        let failure := ⟨.invalidRequest, "invalid jsonrpc version"⟩
        (server, some ⟨⟨some id, .error failure⟩, true, false⟩)

end Server

end MessageRefs
