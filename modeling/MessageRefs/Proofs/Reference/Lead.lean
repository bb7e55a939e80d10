import MessageRefs.Anchor
import MessageRefs.Config
import MessageRefs.Proofs.Text.Path
import Mathlib.Data.List.Chain

/-!
**The anchor of a valid configuration, with the dot behind it.**

The anchor is a chain of identifiers, so its lead is a row of identifiers with a dot behind each.

* `Matcher.isPathChar_of_mem_lead`: a lead holds path characters only, and no line break;
* `Matcher.lead_head`: a lead begins with an identifier character;
* `Matcher.lead_dots`: no two dots of a lead are adjacent.
-/

namespace MessageRefs

namespace Text

theorem isIdentifierChar_dot : isIdentifierChar '.' = false := by decide

theorem isPathChar_newline : isPathChar '\n' = false := by decide

theorem isPathChar_of_isIdentifierChar {c : Char} (identifier : isIdentifierChar c = true) :
    isPathChar c = true := by
  rw [isPathChar, identifier, Bool.true_or]

theorem isIdentifier_spec {segment : List Char} (identifier : isIdentifier segment = true) :
    segment ≠ [] ∧ ∀ c ∈ segment, isIdentifierChar c = true := by
  cases segment with
  | nil => cases identifier
  | cons first others =>
    simp only [isIdentifier, Bool.and_eq_true, List.all_eq_true] at identifier
    refine ⟨List.cons_ne_nil _ _, fun c member => ?_⟩
    rcases List.mem_cons.mp member with rfl | member
    · exact identifier.1.1
    · exact identifier.2 c member

end Text

/-! ### Segments with a dot behind each -/

section Dotted

/-- A row of segments with a dot behind each. -/
def dotted : List (List Char) → List Char
  | [] => []
  | segment :: others => segment ++ '.' :: dotted others

theorem intercalate_append_dot {segments : List (List Char)} (filled : segments ≠ []) :
    ['.'].intercalate segments ++ ['.'] = dotted segments := by
  induction segments with
  | nil => exact absurd rfl filled
  | cons segment others ih =>
    cases others with
    | nil => simp [dotted]
    | cons next more =>
      rw [List.intercalate_cons_cons, List.append_assoc, List.append_assoc,
        ih (List.cons_ne_nil _ _)]
      rfl

variable {segments : List (List Char)}
  (identifiers : ∀ segment ∈ segments, Text.isIdentifier segment = true)

include identifiers

theorem isPathChar_of_mem_dotted : ∀ c ∈ dotted segments, Text.isPathChar c = true := by
  induction segments with
  | nil => exact fun c member => absurd member List.not_mem_nil
  | cons segment others ih =>
    intro c member
    rcases List.mem_append.mp member with inSegment | behind
    · have ofSegment := Text.isIdentifier_spec (identifiers segment List.mem_cons_self)
      exact Text.isPathChar_of_isIdentifierChar (ofSegment.2 c inSegment)
    · rcases List.mem_cons.mp behind with rfl | inOthers
      · rfl
      · exact ih (fun next later => identifiers next (List.mem_cons_of_mem _ later)) c inOthers

theorem dotted_head : ∀ c ∈ (dotted segments).head?, Text.isIdentifierChar c = true := by
  intro c member
  cases segments with
  | nil => cases member
  | cons segment others =>
    obtain ⟨filled, characters⟩ := Text.isIdentifier_spec (identifiers segment List.mem_cons_self)
    obtain ⟨first, more, rfl⟩ := List.exists_cons_of_ne_nil filled
    have same : first = c := by simpa [dotted] using member
    exact same ▸ characters first List.mem_cons_self

/-- Dots stand alone: what follows one is no dot. -/
theorem isChain_dotted :
    (dotted segments).IsChain fun first second => first = '.' → second ≠ '.' := by
  induction segments with
  | nil => exact .nil
  | cons segment others ih =>
    have later : ∀ next ∈ others, Text.isIdentifier next = true :=
      fun next member => identifiers next (List.mem_cons_of_mem _ member)
    obtain ⟨-, characters⟩ := Text.isIdentifier_spec (identifiers segment List.mem_cons_self)
    have noDot : ∀ c ∈ segment, c ≠ '.' := by
      rintro c member rfl
      exact absurd (characters '.' member)
        (by rw [Text.isIdentifierChar_dot]; exact Bool.false_ne_true)
    refine List.isChain_append.mpr ⟨?_, List.isChain_cons.mpr ⟨?_, ih later⟩, ?_⟩
    · clear identifiers characters
      induction segment with
      | nil => exact .nil
      | cons c more ihSegment =>
        refine List.isChain_cons.mpr ⟨fun next _ dot => absurd dot (noDot c List.mem_cons_self), ?_⟩
        exact ihSegment fun d member => noDot d (List.mem_cons_of_mem _ member)
    · intro c member _
      rintro rfl
      exact absurd (dotted_head later '.' member)
        (by rw [Text.isIdentifierChar_dot]; exact Bool.false_ne_true)
    · intro c member next _ dot
      exact absurd dot (noDot c (List.mem_of_getLast? member))

end Dotted

/-! ### The lead of a matcher -/

namespace Matcher

variable (matcher : Matcher)

theorem isAnchor_config : MatcherConfig.isAnchor matcher.config.anchor.toList = true := by
  by_contra invalid
  have valid := matcher.valid
  rw [MatcherConfig.validate, if_pos (by simpa using invalid)] at valid
  cases valid

theorem exists_lead_eq_dotted : ∃ segments, matcher.lead = dotted segments ∧ segments ≠ [] ∧
    ∀ segment ∈ segments, Text.isIdentifier segment = true := by
  have valid := matcher.isAnchor_config
  rw [MatcherConfig.isAnchor, Bool.and_eq_true, List.all_eq_true] at valid
  have filled : MatcherConfig.segments matcher.config.anchor.toList ≠ [] := List.splitOn_ne_nil _ _
  refine ⟨_, ?_, filled, valid.2⟩
  rw [lead_eq, Anchor.lead, ← intercalate_append_dot filled, MatcherConfig.segments,
    List.intercalate_splitOn]

theorem isPathChar_of_mem_lead {c : Char} (member : c ∈ matcher.lead) :
    Text.isPathChar c = true := by
  obtain ⟨segments, equal, -, identifiers⟩ := matcher.exists_lead_eq_dotted
  exact isPathChar_of_mem_dotted identifiers c (equal ▸ member)

theorem newline_notMem_lead : '\n' ∉ matcher.lead := by
  intro member
  have pathChar := matcher.isPathChar_of_mem_lead member
  rw [Text.isPathChar_newline] at pathChar
  cases pathChar

theorem lead_ne_nil : matcher.lead ≠ [] :=
  matcher.lead_eq ▸ List.append_ne_nil_of_right_ne_nil _ (List.cons_ne_nil _ _)

theorem lead_getLast? : matcher.lead.getLast? = some '.' := by
  rw [lead_eq, Anchor.lead, List.getLast?_concat]

/-- A lead begins with an identifier character. -/
theorem lead_head {c : Char} (member : c ∈ matcher.lead.head?) :
    Text.isIdentifierChar c = true := by
  obtain ⟨segments, equal, -, identifiers⟩ := matcher.exists_lead_eq_dotted
  exact dotted_head identifiers c (equal ▸ member)

/-- No two dots of a lead are adjacent. -/
theorem lead_dots {front rest : List Char} {c : Char}
    (split : matcher.lead = front ++ '.' :: c :: rest) : c ≠ '.' := by
  obtain ⟨segments, equal, -, identifiers⟩ := matcher.exists_lead_eq_dotted
  have chain := isChain_dotted identifiers
  rw [← equal, split, List.isChain_append] at chain
  exact (List.isChain_cons.mp chain.2.1).1 c rfl rfl

end Matcher

end MessageRefs
