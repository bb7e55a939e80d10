/-!
**Trees of directories and files.**

* `Tree.insert`: puts a file, or an empty directory, at a path;
* `FileSystem`: a tree with a directory in which relative paths begin;
* `FileSystem.find?`: what stands at a path.
-/

namespace MessageRefs.Workspace

/-- A file, with its content or the reason why it cannot be read, or a directory. -/
inductive Tree where
  | file (content : Except String ByteArray)
  | directory (entries : List (String × Tree))

instance : Inhabited Tree := ⟨.directory []⟩

namespace Tree

/-- The entries of a directory; a file has none. -/
def entries : Tree → List (String × Tree)
  | file _ => []
  | directory entries => entries

/-- The entry of a name. -/
def entry? (tree : Tree) (name : String) : Option Tree :=
  tree.entries.lookup name

/-- Whether a tree is a directory. -/
def isDirectory : Tree → Bool
  | file _ => false
  | directory _ => true

/-- The content of a file that can be read. -/
def content? : Tree → Option ByteArray
  | file (.ok content) => some content
  | _ => none

/-- Replaces the entry of a name, or adds one at the end. -/
def replace (name : String) (tree : Tree) : List (String × Tree) → List (String × Tree)
  | [] => [(name, tree)]
  | entry :: others =>
    if entry.1 = name then (name, tree) :: others else entry :: replace name tree others

/-- Puts a tree at a path, with the directories that lead to it. -/
def insert (tree : Tree) (new : Tree) : List String → Tree
  | [] =>
    match tree, new with
    | directory entries, directory [] => directory entries
    | _, _ => new
  | name :: path =>
    let below := insert ((tree.entry? name).getD (directory [])) new path
    directory (replace name below tree.entries)

/-- What stands at a path below a tree. -/
def below? (tree : Tree) : List String → Option Tree
  | [] => some tree
  | name :: path =>
    match tree.entry? name with
    | some entry => entry.below? path
    | none => none

/-- The parts of a path between its slashes. -/
def parts (path : String) : List String :=
  (path.toList.splitOn '/').map String.ofList

/-- The tree of files given by their paths; a path that ends in a slash makes a directory. -/
def ofFiles (files : List (String × ByteArray)) : Tree :=
  files.foldl (fun tree (path, content) =>
    let names := (parts path).filter fun part => part ≠ "" && part ≠ "."
    let isDirectory := path.toList.getLast? == some '/'
    tree.insert (if isDirectory then directory [] else file (.ok content)) names) (directory [])

end Tree

/-- A tree with the names that lead from its root to the directory where relative paths begin. -/
structure FileSystem where
  root : Tree
  workingDirectory : List String

namespace FileSystem

/-- A file system that holds a working directory and nothing besides. -/
def ofWorkingDirectory (tree : Tree) : FileSystem :=
  ⟨.directory [("workspace", tree)], ["workspace"]⟩

/-- The names that a path leads to, in reverse, from a directory on. Every part of a path but the
last must be a directory, and two dots lead to the directory above. -/
def follow? (root : Tree) (reversed : List String) : List String → Option (List String)
  | [] => some reversed
  | part :: others =>
    match root.below? reversed.reverse with
    | none => none
    | some tree =>
      if !tree.isDirectory then none
      else if part = "" || part = "." then follow? root reversed others
      else if part = ".." then follow? root reversed.tail others
      else if (tree.entry? part).isSome then follow? root (part :: reversed) others
      else none

/-- The names that lead from the root to what stands at a path. The empty path leads nowhere. -/
def resolve? (files : FileSystem) (path : String) : Option (List String) :=
  if path.isEmpty then none
  else
    let start := if path.toList.head? == some '/' then [] else files.workingDirectory.reverse
    (follow? files.root start (Tree.parts path)).map List.reverse

/-- What stands at a path. -/
def find? (files : FileSystem) (path : String) : Option Tree :=
  (files.resolve? path).bind files.root.below?

end FileSystem

end MessageRefs.Workspace
