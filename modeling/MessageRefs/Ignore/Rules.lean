import MessageRefs.Ignore.Glob
import MessageRefs.Text.CharClass

/-!
**The lines of ignore files.**

* `Ignore.Rule.ofLine?`: the rule of a line, if the line holds one;
* `Ignore.rulesOf`: the rules of a file;
* `Ignore.verdict?`: what the last rule that matches a path says of it.
-/

namespace MessageRefs.Ignore

/-- A rule of an ignore file. -/
structure Rule where
  pattern : List Glob.Piece
  /-- The rule takes back what earlier rules ignore. -/
  isException : Bool
  /-- The rule speaks of directories only. -/
  isDirectoryOnly : Bool

/-- What is said of a path. -/
inductive Verdict where
  | ignored
  | kept
deriving DecidableEq, Repr

namespace Rule

/-- The pattern as it is matched against a path from the directory of its file on: without a slash
it may begin at any component, and two stars at its end want something behind the last slash. -/
def anchored (isRooted : Bool) (pattern : List Char) : List Char :=
  let begins := isRooted || pattern.contains '/' || pattern == ['*', '*']
  let pattern := if begins then pattern else ['*', '*', '/'] ++ pattern
  if ['/', '*', '*'].isSuffixOf pattern then pattern ++ ['/', '*'] else pattern

/-- The rule of a pattern without its exclamation mark and leading slash. -/
def ofPattern? (isException isRooted : Bool) (pattern : List Char) : Option Rule :=
  let isDirectoryOnly := pattern.getLast? == some '/'
  let pattern := if isDirectoryOnly then pattern.dropLast else pattern
  let pattern :=
    if isDirectoryOnly && pattern.getLast? == some '\\' then pattern.dropLast else pattern
  (Glob.parse? (anchored isRooted pattern)).map (⟨·, isException, isDirectoryOnly⟩)

/-- The rule behind an exclamation mark, or of a line without one. -/
def ofBody? (isException : Bool) (body : List Char) : Option Rule :=
  match body with
  | '/' :: pattern => ofPattern? isException true pattern
  | _ => ofPattern? isException false body

/-- The rule of a line. There is none in a comment, in a blank line, and in a line whose pattern is
malformed. Blanks at the end count only behind a backslash and a space. -/
def ofLine? (line : List Char) : Option Rule :=
  if line.head? == some '#' then none
  else
    let line := if ['\\', ' '].isSuffixOf line then line else Text.dropBack Text.isBlank line
    match line with
    | [] => none
    | '\\' :: '!' :: rest => ofPattern? false false ('!' :: rest)
    | '\\' :: '#' :: rest => ofPattern? false false ('#' :: rest)
    | '!' :: body => ofBody? true body
    | _ => ofBody? false line

end Rule

/-- The lines of a file: the text between line feeds, a carriage return before one apart. Nothing
counts from a line on that is not UTF-8. -/
def linesFrom (found : Array (List Char)) : List (List UInt8) → List (List Char)
  | [] => found.toList
  | line :: others =>
    let line :=
      if !others.isEmpty && line.getLast? == some 13 then line.dropLast else line
    match String.fromUTF8? line.toByteArray with
    | none => found.toList
    | some text => linesFrom (found.push text.toList) others

/-- The rules of a file. A byte order mark at its beginning is skipped, and a file with a set of
characters that no byte range expresses has no rules at all. -/
def rulesOf (content : ByteArray) : List Rule :=
  let lines := linesFrom #[] (content.toList.splitOn 10)
  let lines :=
    match lines with
    | [] => []
    | first :: others => first.dropWhile (· == '\uFEFF') :: others
  let rules := lines.filterMap Rule.ofLine?
  if rules.all fun rule => Glob.isOrderly rule.pattern then rules else []

/-- What the last rule that matches a path says of it. The path is taken from the directory of the
rules' file on. -/
def verdict? (rules : List Rule) (path : String) (isDirectory : Bool) : Option Verdict :=
  let bytes := path.toUTF8.toList
  let applies (rule : Rule) : Bool :=
    (!rule.isDirectoryOnly || isDirectory) && Glob.accepts rule.pattern bytes
  (rules.reverse.find? applies).map fun rule => if rule.isException then .kept else .ignored

end MessageRefs.Ignore
