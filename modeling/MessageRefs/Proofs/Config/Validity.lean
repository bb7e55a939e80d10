import Mathlib.Data.List.DropRight
import MessageRefs.Proofs.Reference.Lead
import MessageRefs.Proofs.Reference.Marker

/-!
**Exactly the usable configurations are valid.**

The check of an anchor looks at the parts between its dots, one by one. What it admits is restated
of the anchor as a whole: a chain of segments, joined by dots.

* `Text.IsSegment`, `MatcherConfig.IsChain`: segments, and what is joined from two or more of them;
* `MatcherConfig.isAnchor_iff`: the anchors that are admitted are the chains;
* `MatcherConfig.HasVerdict`: what is to be said of a configuration, the first fault if it has any;
* `MatcherConfig.validate_eq_iff`: this is what is said of it;
* `MatcherConfig.validate_isFaithful`: and what is valid can be searched for.
-/

namespace MessageRefs

namespace Text

/-- A part of an anchor: identifier characters, at least one, the first of them no ASCII digit. -/
structure IsSegment (segment : List Char) : Prop where
  filled : segment ≠ []
  characters : ∀ c ∈ segment, isIdentifierChar c = true
  first : ∀ c ∈ segment.head?, c.isDigit = false

theorem isIdentifier_iff {segment : List Char} :
    isIdentifier segment = true ↔ IsSegment segment := by
  constructor
  · intro identifier
    obtain ⟨filled, characters⟩ := isIdentifier_spec identifier
    refine ⟨filled, characters, fun c isFirst => ?_⟩
    obtain ⟨others, rfl⟩ := List.head?_eq_some_iff.mp isFirst
    simp only [isIdentifier, Bool.and_eq_true, Bool.not_eq_true'] at identifier
    exact identifier.1.2
  · rintro ⟨filled, characters, noDigit⟩
    obtain ⟨first, others, rfl⟩ := List.exists_cons_of_ne_nil filled
    simp only [isIdentifier, Bool.and_eq_true, Bool.not_eq_true', List.all_eq_true]
    exact ⟨⟨characters first List.mem_cons_self, noDigit first rfl⟩,
      fun c member => characters c (List.mem_cons_of_mem _ member)⟩

theorem IsSegment.dot_notMem {segment : List Char} (isSegment : IsSegment segment) :
    '.' ∉ segment := by
  intro member
  have identifier := isSegment.characters '.' member
  rw [isIdentifierChar_dot] at identifier
  cases identifier

/-- Nothing is left of a text without the blanks at either end exactly when it holds blanks only. -/
theorem trim_eq_nil_iff {text : List Char} : trim text = [] ↔ ∀ c ∈ text, isBlank c = true := by
  have front : trimStart text = [] ↔ ∀ c ∈ text, isBlank c = true := List.dropWhile_eq_nil_iff
  rw [← front]
  constructor
  · intro trimmed
    have onlyBlanks := List.rdropWhile_eq_nil_iff.mp trimmed
    by_contra filled
    have kept : isBlank ((trimStart text).head filled) = false :=
      List.head_dropWhile_not isBlank filled
    rw [onlyBlanks _ (List.head_mem filled)] at kept
    cases kept
  · intro empty
    rw [trim, empty]
    rfl

end Text

namespace MatcherConfig

/-! ### Anchors -/

/-- Two or more segments, joined by dots. -/
def IsChain (anchor : List Char) : Prop :=
  ∃ segments : List (List Char), 2 ≤ segments.length ∧
    (∀ segment ∈ segments, Text.IsSegment segment) ∧ anchor = ['.'].intercalate segments

/-- **The anchors that are admitted are the chains.** -/
theorem isAnchor_iff {anchor : List Char} : isAnchor anchor = true ↔ IsChain anchor := by
  simp only [isAnchor, Bool.and_eq_true, decide_eq_true_eq, List.all_eq_true,
    Text.isIdentifier_iff]
  constructor
  · rintro ⟨several, identifiers⟩
    exact ⟨segments anchor, several, identifiers, (List.intercalate_splitOn _).symm⟩
  · rintro ⟨parts, several, identifiers, rfl⟩
    have filled : parts ≠ [] := List.ne_nil_of_length_pos (by omega)
    have read : segments (['.'].intercalate parts) = parts :=
      List.splitOn_intercalate '.' (fun part member => (identifiers part member).dot_notMem) filled
    rw [read]
    exact ⟨several, identifiers⟩

/-! ### Verdicts -/

section Verdict

variable (config : MatcherConfig)

/-- No import suffix is blank. -/
def SuffixesFilled : Prop :=
  ∀ suffix ∈ config.importSuffixes, Text.trim suffix.toList ≠ []

/-- No marker is empty. -/
def MarkersFilled : Prop :=
  ∀ marker ∈ config.markers, marker ≠ ""

/-- Something enables references. -/
def EnablesSome : Prop :=
  config.importSuffixes ≠ [] ∨ config.markers ≠ []

/-- What is to be said of a configuration: nothing is wrong with it, or the first of its faults is
named. Faults of the anchor come first, then those of import suffixes and of markers, then the lack
of both. -/
def HasVerdict : Except ConfigError Unit → Prop
  | .ok () => IsChain config.anchor.toList ∧ config.SuffixesFilled ∧ config.MarkersFilled ∧
      config.EnablesSome
  | .error (.invalidAnchor anchor) => ¬IsChain config.anchor.toList ∧ anchor = config.anchor
  | .error (.emptyMarker .importSuffixes) =>
      IsChain config.anchor.toList ∧ ¬config.SuffixesFilled
  | .error (.emptyMarker .markers) =>
      IsChain config.anchor.toList ∧ config.SuffixesFilled ∧ ¬config.MarkersFilled
  | .error .noMarkers =>
      IsChain config.anchor.toList ∧ config.SuffixesFilled ∧ config.MarkersFilled ∧
        ¬config.EnablesSome

variable {config}

theorem any_blank_iff :
    (config.importSuffixes.any fun suffix => suffix.toList.all Text.isBlank) = true ↔
      ¬config.SuffixesFilled := by
  have blank (suffix : String) :
      suffix.toList.all Text.isBlank = true ↔ Text.trim suffix.toList = [] := by
    rw [List.all_eq_true, Text.trim_eq_nil_iff]
  simp only [SuffixesFilled, List.any_eq_true, blank, ne_eq, not_forall, not_not, exists_prop]

theorem any_empty_iff : config.markers.any (·.isEmpty) = true ↔ ¬config.MarkersFilled := by
  simp only [MarkersFilled, List.any_eq_true, String.isEmpty_iff, ne_eq, not_forall, not_not,
    exists_prop]

theorem none_enables_iff :
    (config.importSuffixes.isEmpty && config.markers.isEmpty) = true ↔ ¬config.EnablesSome := by
  simp only [EnablesSome, Bool.and_eq_true, List.isEmpty_iff, ne_eq, not_or, not_not]

/-- **A check says what is to be said.** -/
theorem validate_eq_iff {verdict : Except ConfigError Unit} :
    config.validate = verdict ↔ config.HasVerdict verdict := by
  unfold validate
  by_cases chain : IsChain config.anchor.toList
  · rw [if_neg (by simpa using isAnchor_iff.mpr chain)]
    by_cases suffixes : config.SuffixesFilled
    · rw [if_neg (any_blank_iff.not_left.mpr suffixes)]
      by_cases markers : config.MarkersFilled
      · rw [if_neg (any_empty_iff.not_left.mpr markers)]
        by_cases enables : config.EnablesSome
        · rw [if_neg (none_enables_iff.not_left.mpr enables)]
          rcases verdict with (_ | ⟨_ | _⟩ | _) | ⟨⟩ <;>
            simp [HasVerdict, chain, suffixes, markers, enables]
        · rw [if_pos (none_enables_iff.mpr enables)]
          rcases verdict with (_ | ⟨_ | _⟩ | _) | ⟨⟩ <;>
            simp [HasVerdict, chain, suffixes, markers, enables]
      · rw [if_pos (any_empty_iff.mpr markers)]
        rcases verdict with (_ | ⟨_ | _⟩ | _) | ⟨⟩ <;>
          simp [HasVerdict, chain, suffixes, markers]
    · rw [if_pos (any_blank_iff.mpr suffixes)]
      rcases verdict with (_ | ⟨_ | _⟩ | _) | ⟨⟩ <;> simp [HasVerdict, chain, suffixes]
  · rw [if_pos (by simpa using isAnchor_iff.not.mpr chain)]
    rcases verdict with (anchor | ⟨_ | _⟩ | _) | ⟨⟩ <;> simp [HasVerdict, chain, eq_comm]

end Verdict

/-! ### Valid configurations -/

/-- **Exactly the usable configurations are valid.** A configuration is valid when its anchor is a
chain of segments and its lists say something, and otherwise the first fault is named. The anchor of
a valid one, with the dot behind it, is a row of path characters on one line that begins like an
identifier and in which dots stand alone, and a marker is found before the end of a text only. -/
theorem validate_isFaithful (config : MatcherConfig) :
    (∀ verdict, config.validate = verdict ↔ config.HasVerdict verdict) ∧
    (config.validate = .ok () →
      (∀ c ∈ Anchor.lead config.anchor, Text.isPathChar c = true) ∧
      (∃ c ∈ (Anchor.lead config.anchor).head?, Text.isIdentifierChar c = true) ∧
      ¬['.', '.'] <:+: Anchor.lead config.anchor ∧
      '\n' ∉ Anchor.lead config.anchor ∧ '\r' ∉ Anchor.lead config.anchor ∧
      ∀ text marker, Marker.offset? config text = some marker →
        marker < Text.byteLength text) := by
  refine ⟨fun verdict => validate_eq_iff, fun valid => ?_⟩
  let matcher := Matcher.ofValid config valid
  have characters : ∀ c ∈ matcher.lead, Text.isPathChar c = true :=
    fun c => matcher.isPathChar_of_mem_lead
  refine ⟨characters, ?_, ?_, matcher.newline_notMem_lead, ?_, fun text marker => Marker.offset?_lt⟩
  · obtain ⟨first, others, split⟩ := List.exists_cons_of_ne_nil matcher.lead_ne_nil
    have isFirst : first ∈ matcher.lead.head? := by
      rw [split]
      rfl
    exact ⟨first, isFirst, matcher.lead_head isFirst⟩
  · rintro ⟨front, rest, split⟩
    rw [List.append_assoc] at split
    exact matcher.lead_dots split.symm rfl
  · intro member
    exact absurd (characters '\r' member) (by decide)

/-- A blank import suffix is named before an empty marker. -/
example : validate ⟨"a.b", [" "], [""]⟩ = .error (.emptyMarker .importSuffixes) := by
  decide

end MatcherConfig

end MessageRefs
