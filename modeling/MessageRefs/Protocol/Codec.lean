import MessageRefs.Config
import MessageRefs.Extraction
import MessageRefs.Json.Decode
import MessageRefs.Reference

/-!
**The values that cross the wire.**

Decoders for configurations, references and parameters; encoders for configurations, references
and results.
-/

namespace MessageRefs

open Json

/-! ### Configurations -/

/-- Reads a configuration; an absent field has its default. -/
def MatcherConfig.decoder : Decoder MatcherConfig :=
  let standard : MatcherConfig := {}
  Record.decoder "MatcherConfig" <|
    MatcherConfig.mk <$> .field "anchor" .text standard.anchor
      <*> .field "importSuffixes" (.list .text) standard.importSuffixes
      <*> .field "markers" (.list .text) standard.markers

/-- A configuration as JSON. -/
def MatcherConfig.toJson (config : MatcherConfig) : Json :=
  .ofFields [("anchor", .string config.anchor), ("importSuffixes", .ofStrings config.importSuffixes),
    ("markers", .ofStrings config.markers)]

/-- Reads settings; an absent field has its default. -/
def ServerSettings.decoder : Decoder ServerSettings :=
  let standard : ServerSettings := {}
  Record.decoder "ServerSettings" <|
    ServerSettings.mk <$> .field "documentSelectors" (.list .text) standard.documentSelectors
      <*> .field "extensions" (.list .text) standard.extensions

/-- Settings as JSON. -/
def ServerSettings.toJson (settings : ServerSettings) : Json :=
  .ofFields [("documentSelectors", .ofStrings settings.documentSelectors),
    ("extensions", .ofStrings settings.extensions)]

/-! ### References -/

/-- Reads a position. -/
def Position.decoder : Decoder Position :=
  Record.decoder "Position" <|
    Position.mk <$> .field "line" .natural32 <*> .field "character" .natural32

/-- A position as JSON. -/
def Position.toJson (position : Position) : Json :=
  .ofFields [("line", .ofNat position.line), ("character", .ofNat position.character)]

/-- Reads a span. -/
def Span.decoder : Decoder Span :=
  Record.decoder "Span" <|
    Span.mk <$> .field "start" Position.decoder <*> .field "end" Position.decoder

/-- A span as JSON. -/
def Span.toJson (span : Span) : Json :=
  .ofFields [("start", span.start.toJson), ("end", span.stop.toJson)]

/-- Reads a message reference. -/
def MessageReference.decoder : Decoder MessageReference :=
  Record.decoder "MessageReference" <|
    MessageReference.mk <$> .field "messageId" .text <*> .field "span" Span.decoder

/-- A reference as an editor is told of it. -/
def ReferenceItem.toJson (item : ReferenceItem) : Json :=
  .ofFields [("messageId", .string item.messageId), ("span", item.span.toJson),
    ("position", item.position.toJson)]

/-- References as an editor is told of them. -/
def ReferenceItem.listToJson (items : List ReferenceItem) : Json :=
  .array (items.map toJson)

/-- A replacement as JSON. -/
def ExtractOption.toJson (option : ExtractOption) : Json :=
  .ofFields [("messageId", .string option.messageId),
    ("messageReplacement", .string option.messageReplacement)]

/-- Replacements as JSON. -/
def ExtractOption.listToJson (options : List ExtractOption) : Json :=
  .array (options.map toJson)

/-! ### Parameters of requests -/

namespace Params

/-- What a session begins with: a configuration and settings, each optional. -/
structure Setup where
  matcher : Option MatcherConfig := none
  settings : Option ServerSettings := none

/-- Reads what a session begins with. -/
def Setup.decoder : Decoder Setup :=
  Record.decoder "InitializeParams" <|
    Setup.mk <$> .field "matcher" (.optional MatcherConfig.decoder) (some none)
      <*> .field "settings" (.optional ServerSettings.decoder) (some none)

/-- The document to search; it is empty of references unless its text is a string. -/
structure Locate where
  documentText : Json

/-- Reads the document to search. -/
def Locate.decoder : Decoder Locate :=
  Record.decoder "LocateParams" <| Locate.mk <$> .field "documentText" .any (some .null)

/-- One of several documents to search. -/
structure Document where
  uri : String
  documentText : Json

/-- Reads one of several documents. -/
def Document.decoder : Decoder Document :=
  Record.decoder "BatchDocument" <|
    Document.mk <$> .field "uri" .text <*> .field "documentText" .any (some .null)

/-- Several documents to search. -/
structure LocateBatch where
  documents : List Document

/-- Reads several documents. -/
def LocateBatch.decoder : Decoder LocateBatch :=
  Record.decoder "LocateBatchParams" <|
    LocateBatch.mk <$> .field "documents" (.list Document.decoder)

/-- The directory to search, and the extensions of the files to read if not the usual ones. -/
structure ScanWorkspace where
  root : String
  extensions : Option (List String) := none

/-- Reads the directory to search. -/
def ScanWorkspace.decoder : Decoder ScanWorkspace :=
  Record.decoder "ScanWorkspaceParams" <|
    ScanWorkspace.mk <$> .field "root" .text
      <*> .field "extensions" (.optional (.list .text)) (some none)

/-- The id of a message about to be extracted. -/
structure MessageOptions where
  messageId : String

/-- Reads the id of a message. -/
def MessageOptions.decoder : Decoder MessageOptions :=
  Record.decoder "MessageOptionsParams" <| MessageOptions.mk <$> .field "messageId" .text

end Params

end MessageRefs
