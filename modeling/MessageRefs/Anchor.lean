import MessageRefs.Text.CharClass
import MessageRefs.Text.Place

/-!
**Where a message reference can begin.**

An anchor is the expression that precedes every message path, such as `context.t`. It counts where
it is followed by a dot and does not continue an identifier.

* `Anchor.lead`: the anchor with its dot;
* `Anchor.isAt`: whether an anchor begins at a place;
* `Anchor.nextFrom?`, `Anchor.next?`: the first anchor from an offset on.
-/

namespace MessageRefs.Anchor

/-- The anchor and the dot behind it. -/
def lead (anchor : String) : List Char :=
  anchor.toList ++ ['.']

/-- Whether an anchor begins at a place: its characters follow, and no identifier runs into it. -/
def isAt (lead : List Char) (before : Option Char) (text : List Char) : Bool :=
  lead.isPrefixOf text && !before.any Text.isIdentifierChar

theorem isAt_iff {lead text : List Char} {before : Option Char} : isAt lead before text = true ↔
    lead <+: text ∧ ∀ c ∈ before, Text.isIdentifierChar c = false := by
  rw [isAt, Bool.and_eq_true, List.isPrefixOf_iff_prefix]
  cases before with
  | none => simp
  | some c => simp

/-- The number of bytes of the first character of a word. -/
def firstSize (word : List Char) : Nat :=
  word.head?.elim 1 Char.utf8Size

theorem firstSize_pos (word : List Char) : 0 < firstSize word := by
  cases word with
  | nil => exact Nat.one_pos
  | cons c rest => exact c.utf8Size_pos

/-- The search of `next?` from an offset on, which looks for the lead anywhere. Where an identifier
runs into it, the search resumes behind its first character. -/
def nextFrom? (lead text : List Char) (least : Nat) : Option Nat :=
  match _found : Text.after? least text with
  | none => none
  | some rest =>
    match Text.firstPlace? (fun _ rest => lead.isPrefixOf rest) 0 rest with
    | none => none
    | some skipped =>
      let start := least + skipped
      if !(Text.charBefore? text start).any Text.isIdentifierChar then some start
      else nextFrom? lead text (start + firstSize lead)
termination_by Text.byteLength text + 1 - least
decreasing_by
  have reached := Text.le_byteLength_of_after? _found
  have onward := firstSize_pos lead
  omega

/-- The least offset, not below `least`, at which the anchor begins. There is none if `least` is
past the end or inside a character. -/
def next? (anchor : String) (text : List Char) (least : Nat) : Option Nat :=
  nextFrom? (lead anchor) text least

end MessageRefs.Anchor
