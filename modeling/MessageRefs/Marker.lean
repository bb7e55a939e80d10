import MessageRefs.Config
import MessageRefs.Text.Place

/-!
**The marker that a document must show before it can hold references.**

A marker is one of the configured texts, or the import of a generated file, whose name ends in one
of the configured suffixes.

* `Marker.importedName?`: the name between the quotes of an import;
* `Marker.isImportAt`: whether the import of a generated file begins at a place;
* `Marker.firstImport?`, `Marker.firstLiteral?`: the first import and the first text among some;
* `Marker.offset?`: the offset of the earlier of the two.
-/

namespace MessageRefs.Marker

/-- The keyword of an import. -/
def keyword : List Char := ['i', 'm', 'p', 'o', 'r', 't']

/-- The text between quotes behind an import's keyword. Blanks separate the two, and the closing
quote stands on the line of the opening one. -/
def importedName? (text : List Char) : Option (List Char) :=
  match text with
  | [] => none
  | blank :: _ =>
    if !Text.isBlank blank then none
    else match Text.trimStart text with
      | [] => none
      | quote :: body =>
        if quote = '\'' || quote = '"' then
          let name := body.takeWhile fun c => c != quote && c != '\n'
          if body[name.length]? = some quote then some name else none
        else none

/-- Whether a name is a suffix, or ends in one behind a slash or a colon. -/
def isGenerated (name suffix : List Char) : Bool :=
  let folder := name.take (name.length - suffix.length)
  suffix.isSuffixOf name &&
    (folder.isEmpty || folder.getLast? == some '/' || folder.getLast? == some ':')

/-- Whether the import of a generated file begins at a place. -/
def isImportAt (suffixes : List (List Char)) (before : Option Char) (text : List Char) : Bool :=
  keyword.isPrefixOf text && !before.any Text.isIdentifierChar &&
    (importedName? (text.drop keyword.length)).any fun name => suffixes.any (isGenerated name)

/-- The search of `firstImport?` from the place at `offset` on, with the character before it. Behind
a keyword that begins no such import the search resumes after the keyword, of which `skipped`
characters are still to be passed. -/
def firstImportFrom? (suffixes : List (List Char)) (skipped : Nat) (before : Option Char)
    (offset : Nat) : List Char → Option Nat
  | [] => none
  | text@(c :: rest) =>
    match skipped with
    | skipped + 1 => firstImportFrom? suffixes skipped (some c) (offset + c.utf8Size) rest
    | 0 =>
      if isImportAt suffixes before text then some offset
      else
        let skipped := if keyword.isPrefixOf text then keyword.length - 1 else 0
        firstImportFrom? suffixes skipped (some c) (offset + c.utf8Size) rest

/-- The offset of the first import of a generated file. -/
def firstImport? (suffixes : List (List Char)) (text : List Char) : Option Nat :=
  firstImportFrom? suffixes 0 none 0 text

/-- The offset at which one of the given texts, an empty one apart, occurs first. -/
def firstLiteral? (literals : List (List Char)) (text : List Char) : Option Nat :=
  let filled := literals.filter fun literal => !literal.isEmpty
  (filled.filterMap fun literal =>
    Text.firstPlace? (fun _ text => literal.isPrefixOf text) 0 text).min?

/-- The offset of the first marker. Suffixes are taken without the blanks around them. -/
def offset? (config : MatcherConfig) (text : List Char) : Option Nat :=
  let suffixes := config.importSuffixes.map fun suffix => Text.trim suffix.toList
  let literals := config.markers.map String.toList
  Option.merge min (firstImport? suffixes text) (firstLiteral? literals text)

end MessageRefs.Marker
