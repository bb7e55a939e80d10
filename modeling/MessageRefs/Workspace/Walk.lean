import MessageRefs.Ignore.Rules
import MessageRefs.Workspace.Tree

/-!
**The files of a workspace that are not ignored.**

Entries whose name begins with a dot are hidden. The ignore files of a directory speak of
everything below it: `.ignore` always, `.gitignore` and the repository's own exclusions only inside
a repository. The nearest file decides, and `.ignore` before the others.

* `DirectoryRules.ofTree`: the ignore files of a directory;
* `verdict?`: what the ignore files say of an entry;
* `visibleFiles?`: the files below a directory.
-/

namespace MessageRefs.Workspace

open Ignore

/-- The ignore files of a directory. -/
structure DirectoryRules where
  /-- The path of the directory, as paths below it begin. -/
  path : String
  ignore : List Rule
  gitignore : List Rule
  exclude : List Rule
  /-- The directory is the top of a repository. -/
  isRepository : Bool

namespace DirectoryRules

/-- The rules of a file below a directory; a file that cannot be read has none. -/
def fileRules (tree : Tree) (names : List String) : List Rule :=
  match (tree.below? names).bind Tree.content? with
  | some content => rulesOf content
  | none => []

/-- The ignore files of a directory. -/
def ofTree (path : String) (tree : Tree) : DirectoryRules where
  path
  ignore := fileRules tree [".ignore"]
  gitignore := fileRules tree [".gitignore"]
  exclude := fileRules tree [".git", "info", "exclude"]
  isRepository := (tree.entry? ".git").isSome

end DirectoryRules

/-! ### Paths -/

/-- A text without a given beginning, if it has it. -/
def without? (beginning text : List Char) : Option (List Char) :=
  if beginning.isPrefixOf text then some (text.drop beginning.length) else none

/-- A text without a given beginning, or as it is. -/
def without (beginning text : List Char) : List Char :=
  (without? beginning text).getD text

/-- A path without a leading dot and slash. -/
def withoutDotSlash (path : List Char) : List Char :=
  without ['.', '/'] path

/-- Whether a path means the working directory: one dot, with slashes and further dots behind. -/
def isDot (path : List Char) : Bool :=
  path.head? == some '.' && (path.splitOn '/').head? == some ['.'] &&
    (path.splitOn '/').all fun part => part.isEmpty || part == ['.']

/-- A path below a directory. -/
def join (path name : String) : String :=
  if path.toList.getLast? == some '/' then path ++ name else path ++ "/" ++ name

/-- A path as the ignore files of a directory see it: from that directory on. -/
def relative (directory : String) (path : List Char) : List Char :=
  let base := withoutDotSlash directory.toList
  let path := withoutDotSlash path
  if isDot base || !path.contains '/' then path
  else
    match without? base path with
    | some below => without ['/'] below
    | none => path

/-! ### Verdicts -/

/-- Where a walk begins: the path it was given, the absolute path of that directory, and the ignore
files of the directories above it, the nearest first. -/
structure Origin where
  path : String
  absolute : String
  above : List DirectoryRules

/-- The absolute path of an entry, given its path as the walk builds it. -/
def Origin.absoluteOf (origin : Origin) (path : List Char) : String :=
  let below :=
    if isDot origin.path.toList then path
    else without ['/'] (without (withoutDotSlash origin.path.toList) path)
  if below.head? == some '/' then .ofList below else join origin.absolute (.ofList below)

/-- The directories up to the nearest repository; none outside of every repository. -/
def withinRepository (chain : List DirectoryRules) : List DirectoryRules :=
  let (inner, outer) := chain.span fun directory => !directory.isRepository
  match outer with
  | [] => []
  | top :: _ => inner ++ [top]

/-- What the ignore files say of an entry. `inside` holds the directories from the entry's own up to
the origin; those above the origin see the absolute path. -/
def verdict? (origin : Origin) (inside : List DirectoryRules) (path : String)
    (isDirectory : Bool) : Option Verdict :=
  let walked := withoutDotSlash path.toList
  let absolute := (origin.absoluteOf walked).toList
  let chain := inside.map (false, ·) ++ origin.above.map (true, ·)
  let repository := (withinRepository (chain.map Prod.snd)).length
  let search (rules : DirectoryRules → List Rule) (reach : Nat) : Option Verdict :=
    (chain.take reach).findSome? fun (isAbove, directory) =>
      Ignore.verdict? (rules directory)
        (.ofList (relative directory.path (if isAbove then absolute else walked))) isDirectory
  (search DirectoryRules.ignore chain.length).or
    ((search DirectoryRules.gitignore repository).or (search DirectoryRules.exclude repository))

/-- Whether a walk passes an entry by: the ignore files say so, or they say nothing and the entry is
hidden. -/
def isSkipped (origin : Origin) (inside : List DirectoryRules) (path name : String)
    (isDirectory : Bool) : Bool :=
  match verdict? origin inside path isDirectory with
  | some .ignored => true
  | some .kept => false
  | none => name.toList.head? == some '.'

/-! ### Walks -/

/-- A file met on a walk. -/
structure SourceFile where
  /-- The path as the walk builds it. -/
  path : String
  /-- The names that lead from the origin to the file. -/
  names : List String
  content : Except String ByteArray

mutual

/-- The files of a tree at a path, its names from the origin on in reverse. -/
def filesOf (origin : Origin) (inside : List DirectoryRules) (path : String)
    (names : List String) : Tree → List SourceFile
  | .file content => [⟨path, names.reverse, content⟩]
  | .directory entries =>
    filesAmong origin (.ofTree path (.directory entries) :: inside) path names entries

/-- The files among the entries of a directory, those passed by apart. -/
def filesAmong (origin : Origin) (inside : List DirectoryRules) (path : String)
    (names : List String) : List (String × Tree) → List SourceFile
  | [] => []
  | (name, tree) :: others =>
    let entry := join path name
    (if isSkipped origin inside entry name tree.isDirectory then []
      else filesOf origin inside entry (name :: names) tree) ++
      filesAmong origin inside path names others

end

/-- The absolute path that names lead to from the root. -/
def absolutePath (names : List String) : String :=
  if names.isEmpty then "/" else names.foldl (fun path name => path ++ "/" ++ name) ""

/-- The ignore files of the directories that lead from the root to a directory, the nearest first,
behind those already gathered. -/
def rulesAbove (gathered : List DirectoryRules) (passed : List String) (tree : Tree) :
    List String → List DirectoryRules
  | [] => gathered
  | name :: names =>
    let gathered := .ofTree (absolutePath passed) tree :: gathered
    rulesAbove gathered (passed ++ [name]) ((tree.entry? name).getD default) names

/-- The files below the directory at a path, in no particular order; none if the path leads to no
directory. -/
def visibleFiles? (files : FileSystem) (path : String) : Option (List SourceFile) :=
  match files.resolve? path with
  | none => none
  | some names =>
    match files.root.below? names with
    | some (.directory entries) =>
      let origin := ⟨path, absolutePath names, rulesAbove [] [] files.root names⟩
      some (filesOf origin [] path [] (.directory entries))
    | _ => none

end MessageRefs.Workspace
