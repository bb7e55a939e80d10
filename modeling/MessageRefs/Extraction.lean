import MessageRefs.Text.CharClass

/-!
**What takes the place of a text that has become a message.**

* `Extraction.normalized`: a message id as it is stored;
* `Extraction.options`: the two ways to refer to the message.
-/

namespace MessageRefs

/-- A message id and the code that can stand in place of its text. -/
structure ExtractOption where
  messageId : String
  messageReplacement : String
deriving DecidableEq, Repr

namespace Extraction

/-- A message id without the blanks around it. -/
def normalized (messageId : String) : String :=
  .ofList (Text.trim messageId.toList)

/-- The path of a message id: its first colon, which parts a namespace from a key, is a dot. -/
def path (messageId : List Char) : List Char :=
  match messageId.span (· != ':') with
  | (before, []) => before
  | (before, _ :: behind) => before ++ '.' :: behind

/-- The two replacements for a message: inside the braces of an interpolated text, and in plain
code. -/
def options (messageId anchor : String) : List ExtractOption :=
  let messageId := normalized messageId
  let access := anchor ++ "." ++ .ofList (path messageId.toList)
  [⟨messageId, "\x7b" ++ access ++ "\x7d"⟩, ⟨messageId, access⟩]

end Extraction

end MessageRefs
