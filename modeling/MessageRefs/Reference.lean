import MessageRefs.Anchor
import MessageRefs.Call
import MessageRefs.Marker
import MessageRefs.Position.Cursor

/-!
**The message references of a document.**

A reference is an anchor, a dotted path and, if a parenthesis follows the path at once, the
arguments through its closing parenthesis. References count only behind the marker of the document
and never overlap.

* `Tail.parse`, `Tail.parseAt`: the path, and the call if there is one, behind an anchor;
* `Query.answerAll`: several questions about one document, with one memo for all of them;
* `Access.all`: the accesses of a text, from an offset on, each found behind the one before;
* `Matcher.locate`: the references of a text with their positions;
* `Matcher.item`: a reference as an editor is told of it.
-/

namespace MessageRefs

/-- A path behind an anchor and the offset at which the reference ends. -/
structure Tail where
  messageId : List Char
  stop : Nat
deriving DecidableEq, Repr

namespace Tail

/-- Reads the path at the front of `text`, the text after `offset`, and the call right behind it.
There is nothing to read if no path begins here or if the call is never closed. -/
def parse (memo : Call.Memo) (offset : Nat) (text : List Char) : Option Tail × Call.Memo :=
  let path := Text.path text
  if path.isEmpty || path.head? = some '.' then (none, memo)
  else
    let behind := text.drop path.length
    let pathStop := offset + Text.byteLength path
    if behind.head? = some '(' then
      let (stop, memo) := Call.stop memo pathStop behind
      (stop.map (⟨path, ·⟩), memo)
    else (some ⟨path, pathStop⟩, memo)

/-- Reads the path, and the call right behind it, at an offset of a text. There is nothing to read
past the end or inside a character. -/
def parseAt (memo : Call.Memo) (text : List Char) (offset : Nat) : Option Tail × Call.Memo :=
  match Text.after? offset text with
  | some rest => parse memo offset rest
  | none => (none, memo)

end Tail

/-- A question about one place of a document. -/
inductive Query where
  /-- Where does the call end whose parenthesis stands at an offset? -/
  | call (offset : Nat)
  /-- What path begins at an offset, and where does the reference end? -/
  | path (offset : Nat)
deriving DecidableEq, Repr

/-- The answer to a question about one place of a document. -/
inductive Finding where
  | call (stop : Option Nat)
  | path (tail : Option Tail)
deriving DecidableEq, Repr

namespace Query

/-- Answers a question with the help of what is already known of the document. -/
def answer (memo : Call.Memo) (text : List Char) : Query → Finding × Call.Memo
  | call offset =>
    let (stop, memo) := Call.stopAt memo text offset
    (.call stop, memo)
  | path offset =>
    let (tail, memo) := Tail.parseAt memo text offset
    (.path tail, memo)

/-- Answers questions about one document in turn, each with what the earlier ones have settled. -/
def answerAll (memo : Call.Memo) (text : List Char) : List Query → List Finding
  | [] => []
  | query :: others =>
    let (finding, memo) := query.answer memo text
    finding :: answerAll memo text others

end Query

/-- A path accessed through the anchor: where the anchor starts, the path, and where it all ends. -/
structure Access where
  start : Nat
  tail : Tail
deriving DecidableEq, Repr

namespace Access

/-- Reads on from the place at `offset`, behind the character `before`, and tries the anchors from
`resume` on. The search resumes at the end of an access, or behind an anchor that has none. -/
def search (lead : List Char) (found : Array Access) (memo : Call.Memo) (resume : Nat)
    (before : Option Char) (offset : Nat) : List Char → Array Access
  | [] => found
  | text@(c :: rest) =>
    let beyond := offset + c.utf8Size
    if resume ≤ offset && Anchor.isAt lead before text then
      let pathStart := offset + Text.byteLength lead
      match Tail.parse memo pathStart (text.drop lead.length) with
      | (some tail, memo) =>
        search lead (found.push ⟨offset, tail⟩) memo tail.stop (some c) beyond rest
      | (none, memo) => search lead found memo pathStart (some c) beyond rest
    else search lead found memo resume (some c) beyond rest

/-- The accesses through an anchor from an offset on. -/
def all (lead text : List Char) (least : Nat) : List Access :=
  (search lead #[] .empty least none 0 text).toList

end Access

/-- A message reference: the path, verbatim, and the span from the anchor on. -/
structure MessageReference where
  messageId : String
  span : Span
deriving DecidableEq, Repr

/-- A reference as an editor is told of it: `span` runs from the anchor and counts from zero,
`position` runs from the path and counts from one. -/
structure ReferenceItem where
  messageId : String
  span : Span
  position : Span
deriving DecidableEq, Repr

namespace Access

/-- Gives each access its positions, with one cursor for all of them. -/
def locateFrom (found : Array MessageReference) (cursor : Cursor) :
    List Access → Array MessageReference
  | [] => found
  | access :: others =>
    let (start, cursor) := cursor.position access.start
    let (stop, cursor) := cursor.position access.tail.stop
    locateFrom (found.push ⟨.ofList access.tail.messageId, ⟨start, stop⟩⟩) cursor others

end Access

namespace Matcher

/-- The references of a text, in order. Anchors up to the marker do not count. -/
def locateChars (matcher : Matcher) (text : List Char) : List MessageReference :=
  match Marker.offset? matcher.config text with
  | none => []
  | some marker =>
    let accesses := Access.all matcher.lead text (marker + 1)
    (Access.locateFrom #[] (.atStart text) accesses).toList

/-- The references of a text, in order. -/
def locate (matcher : Matcher) (text : String) : List MessageReference :=
  matcher.locateChars text.toList

/-- The references of a document; none if it is not UTF-8. -/
def locateBytes (matcher : Matcher) (bytes : ByteArray) : List MessageReference :=
  match String.fromUTF8? bytes with
  | some text => matcher.locate text
  | none => []

/-- The part of a reference's span that begins with the path. An anchor holds no line break, so
the path stands on the anchor's line. -/
def messageIdSpan (matcher : Matcher) (reference : MessageReference) : Span :=
  ⟨reference.span.start.onward (matcher.config.anchor.length + 1), reference.span.stop⟩

/-- A reference as an editor is told of it. -/
def item (matcher : Matcher) (reference : MessageReference) : ReferenceItem :=
  ⟨reference.messageId, reference.span, (matcher.messageIdSpan reference).oneBased⟩

/-- The references of a text as an editor is told of them. -/
def items (matcher : Matcher) (text : String) : List ReferenceItem :=
  (matcher.locate text).map matcher.item

end Matcher

end MessageRefs
