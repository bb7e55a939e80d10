import MessageRefs.Protocol.Codec
import MessageRefs.Workspace.Walk

/-!
**The references of a whole workspace.**

* `Workspace.extension?`: the extension of a file name;
* `Workspace.sourceFilesAmong`: the source files that a walk has met, in the order of their paths;
* `Workspace.collect`: the source files below a directory;
* `Workspace.scan`: the references in each of them.
-/

namespace MessageRefs.Workspace

/-- The extension of a file name: what follows its last dot, unless that dot comes first. -/
def extension? (name : String) : Option String :=
  let reversed := name.toList.reverse
  let extension := reversed.takeWhile (· != '.')
  let stem := reversed.drop (extension.length + 1)
  if stem.isEmpty then none else some (.ofList extension.reverse)

/-- Whether a file has one of the given extensions. -/
def SourceFile.hasExtension (file : SourceFile) (extensions : List String) : Bool :=
  match file.names.getLast?.bind extension? with
  | some extension => extensions.contains extension
  | none => false

/-- Why a workspace, or a file of it, cannot be searched. -/
inductive ScanError where
  | notADirectory (root : String)
  | unreadable (path reason : String)
deriving DecidableEq, Repr

/-- The text shown for an error. -/
def ScanError.message : ScanError → String
  | notADirectory root => "workspace root " ++ Text.quoted root ++ " is not a directory"
  | unreadable path reason => "failed to read " ++ Text.quoted path ++ ": " ++ reason

/-- The files of a walk that have one of the given extensions, ordered by the components of their
paths. -/
def sourceFilesAmong (walked : List SourceFile) (extensions : List String) : List SourceFile :=
  (walked.filter (·.hasExtension extensions)).mergeSort
    fun first second => !decide (second.names < first.names)

/-- The files below a directory that have one of the given extensions, ordered by the components of
their paths. -/
def collect (files : FileSystem) (root : String) (extensions : List String) :
    Except ScanError (List SourceFile) :=
  match visibleFiles? files root with
  | none => .error (.notADirectory root)
  | some found => .ok (sourceFilesAmong found extensions)

/-- The references of one file. -/
structure FileReferences where
  path : String
  references : List ReferenceItem

/-- A file that could not be searched. -/
structure FileError where
  path : String
  error : ScanError

/-- What a scan finds: the files with references, and those that could not be read. -/
structure Report where
  files : List FileReferences
  errors : List FileError

/-- The references in a file, if it can be read. -/
def SourceFile.references (matcher : Matcher) (file : SourceFile) :
    Except ScanError (List ReferenceItem) :=
  match file.content with
  | .ok content => .ok ((matcher.locateBytes content).map matcher.item)
  | .error reason => .error (.unreadable file.path reason)

/-- What is found in the given files. A file without references is left out. -/
def reportOf (matcher : Matcher) (files : List SourceFile) : Report where
  files := files.filterMap fun file =>
    match file.references matcher with
    | .ok [] => none
    | .ok references => some ⟨file.path, references⟩
    | .error _ => none
  errors := files.filterMap fun file =>
    match file.references matcher with
    | .ok _ => none
    | .error error => some ⟨file.path, error⟩

/-- The references in the files below a directory that have one of the given extensions. -/
def scan (files : FileSystem) (root : String) (extensions : List String) (matcher : Matcher) :
    Except ScanError Report :=
  (collect files root extensions).map (reportOf matcher)

/-- A report as JSON. -/
def Report.toJson (report : Report) : Json :=
  .ofFields [
    ("files", .array (report.files.map fun file => .ofFields [("path", .string file.path),
      ("references", ReferenceItem.listToJson file.references)])),
    ("errors", .array (report.errors.map fun file => .ofFields [("path", .string file.path),
      ("error", .string file.error.message)]))]

end MessageRefs.Workspace
