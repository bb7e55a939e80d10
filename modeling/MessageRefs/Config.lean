import MessageRefs.Anchor
import MessageRefs.Text.Quoted

/-!
**What is looked for in a document.**

* `MatcherConfig`: the anchor of references and the two kinds of marker that enable them;
* `MatcherConfig.validate`: the first thing wrong with a configuration, if any;
* `Matcher`: a configuration with nothing wrong, and the lead of its anchor;
* `ServerSettings`: what a server is told besides.
-/

namespace MessageRefs

/-- What to look for in a document. -/
structure MatcherConfig where
  /-- The expression that precedes every message path. -/
  anchor : String := "context.t"
  /-- Ends of the names of files whose import enables references. -/
  importSuffixes : List String := ["strings.g.dart", "translations.g.dart"]
  /-- Texts that enable references wherever they occur. -/
  markers : List String := ["@inlang/paraglide-js"]
deriving DecidableEq, Repr

/-- The two lists of a configuration that enable references. -/
inductive MarkerList where
  | importSuffixes
  | markers
deriving DecidableEq, Repr

/-- What can be wrong with a configuration. -/
inductive ConfigError where
  /-- The anchor is not a chain of two or more identifiers. -/
  | invalidAnchor (anchor : String)
  /-- A list holds an entry that says nothing. -/
  | emptyMarker (list : MarkerList)
  /-- Both lists are empty. -/
  | noMarkers
deriving DecidableEq, Repr

/-- The name of a list in messages and in JSON. -/
def MarkerList.name : MarkerList → String
  | importSuffixes => "importSuffixes"
  | markers => "markers"

/-- The text shown for an error. -/
def ConfigError.message : ConfigError → String
  | invalidAnchor anchor =>
    "invalid anchor " ++ Text.quoted anchor ++
      ": expected identifiers joined by '.' (e.g. \"context.t\")"
  | emptyMarker list => "empty " ++ list.name ++ " entry in matcher config"
  | noMarkers => "matcher config has no import suffixes and no literal markers"

namespace MatcherConfig

/-- The parts of a text between its dots. -/
def segments (text : List Char) : List (List Char) :=
  text.splitOn '.'

/-- An anchor is a chain of two or more identifiers joined by dots. -/
def isAnchor (anchor : List Char) : Bool :=
  2 ≤ (segments anchor).length && (segments anchor).all Text.isIdentifier

/-- The first thing wrong with a configuration: its anchor, then an import suffix of blanks, then
an empty marker, then the lack of both. -/
def validate (config : MatcherConfig) : Except ConfigError Unit :=
  if !isAnchor config.anchor.toList then .error (.invalidAnchor config.anchor)
  else if config.importSuffixes.any fun suffix => suffix.toList.all Text.isBlank then
    .error (.emptyMarker .importSuffixes)
  else if config.markers.any (·.isEmpty) then .error (.emptyMarker .markers)
  else if config.importSuffixes.isEmpty && config.markers.isEmpty then .error .noMarkers
  else .ok ()

/-- Nothing is wrong with the default configuration. -/
theorem validate_default : validate {} = .ok () := by
  rfl

end MatcherConfig

/-- A configuration with which documents can be searched, and what the search looks for. -/
structure Matcher where
  config : MatcherConfig
  /-- The anchor with the dot behind it. -/
  lead : List Char
  valid : config.validate = .ok ()
  lead_eq : lead = Anchor.lead config.anchor

namespace Matcher

/-- The matcher of a valid configuration. -/
def ofValid (config : MatcherConfig) (valid : config.validate = .ok ()) : Matcher :=
  ⟨config, Anchor.lead config.anchor, valid, rfl⟩

theorem eq_ofValid (matcher : Matcher) : matcher = ofValid matcher.config matcher.valid := by
  obtain ⟨config, lead, valid, rfl⟩ := matcher
  rfl

/-- The matcher of a configuration, or what is wrong with it. -/
def ofConfig (config : MatcherConfig) : Except ConfigError Matcher :=
  match valid : config.validate with
  | .ok () => .ok (ofValid config valid)
  | .error error => .error error

/-- The matcher of the default configuration. -/
def standard : Matcher :=
  ofValid {} MatcherConfig.validate_default

instance : Inhabited Matcher := ⟨standard⟩

end Matcher

/-- What a server is told besides what to look for. -/
structure ServerSettings where
  /-- The kinds of document that a client should send. -/
  documentSelectors : List String := ["dart"]
  /-- The extensions, without dot, of the files that a workspace scan reads. -/
  extensions : List String := ["dart"]
deriving DecidableEq, Repr

end MessageRefs
