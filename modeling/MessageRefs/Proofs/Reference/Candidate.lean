import MessageRefs.Proofs.Reference.Lead
import MessageRefs.Proofs.Reference.Tail

/-!
**Which anchors of a text can begin a reference.**

A candidate is an anchor behind the marker that does not continue an identifier. It is acceptable
when a path, and a closed call if any, follows it.

* `Matcher.IsCandidate`, `Matcher.IsAcceptable`: the two notions, stated by offset;
* `Matcher.exists_isAcceptable_of_overlap`: a candidate that overlaps an acceptable one behind it is
  acceptable too, so a discarded anchor overlaps none.
-/

namespace MessageRefs

/-- A part occurs at an offset of a text. -/
def Text.OccursAt (part text : List Char) (offset : Nat) : Prop :=
  ∃ front rest, text = front ++ part ++ rest ∧ Text.byteLength front = offset

namespace Matcher

variable (matcher : Matcher) (text : List Char) (marker start : Nat)

/-- An anchor with its dot stands behind the marker, and no identifier runs into it. -/
structure IsCandidate : Prop where
  behind : marker < start
  occurs : Text.OccursAt matcher.lead text start
  apart : ∀ c ∈ Text.charBefore? text start, Text.isIdentifierChar c = false

/-- A tail is read behind a candidate. -/
structure IsAcceptable (tail : Tail) : Prop extends IsCandidate matcher text marker start where
  read : (Tail.parseAt .empty text (start + Text.byteLength matcher.lead)).1 = some tail

variable {matcher text marker start}

theorem IsAcceptable.tail_unique {tail tail' : Tail}
    (acceptable : matcher.IsAcceptable text marker start tail)
    (acceptable' : matcher.IsAcceptable text marker start tail') : tail = tail' :=
  Option.some.inj (acceptable.read.symm.trans acceptable'.read)

/-! ### Candidates at a place -/

section Place

variable {front rest : List Char}

theorem isCandidate_iff : matcher.IsCandidate (front ++ rest) marker (Text.byteLength front) ↔
    marker < Text.byteLength front ∧ Anchor.isAt matcher.lead front.getLast? rest = true := by
  rw [Anchor.isAt_iff, ← Text.charBefore?_byteLength front rest]
  constructor
  · rintro ⟨behind, ⟨front', rest', split, start⟩, apart⟩
    rw [List.append_assoc] at split
    obtain ⟨-, rfl⟩ := Text.split_unique split start.symm
    exact ⟨behind, List.prefix_append _ _, apart⟩
  · rintro ⟨behind, ⟨rest', rfl⟩, apart⟩
    exact ⟨behind, ⟨front, rest', (List.append_assoc _ _ _).symm, rfl⟩, apart⟩

/-- Behind a candidate at a place, the tail is read off the text after the anchor. -/
theorem isAcceptable_iff {tail : Tail} :
    matcher.IsAcceptable (front ++ rest) marker (Text.byteLength front) tail ↔
      marker < Text.byteLength front ∧ Anchor.isAt matcher.lead front.getLast? rest = true ∧
        (Tail.parse .empty (Text.byteLength front + Text.byteLength matcher.lead)
          (rest.drop matcher.lead.length)).1 = some tail := by
  have parseAt_eq : ∀ behind : List Char, rest = matcher.lead ++ behind →
      Tail.parseAt .empty (front ++ rest) (Text.byteLength front + Text.byteLength matcher.lead)
        = Tail.parse .empty (Text.byteLength front + Text.byteLength matcher.lead)
            (rest.drop matcher.lead.length) := by
    rintro behind rfl
    rw [← Text.byteLength_append, ← List.append_assoc, Tail.parseAt_byteLength, List.drop_left]
  constructor
  · intro acceptable
    obtain ⟨behind, isAt⟩ := isCandidate_iff.mp acceptable.toIsCandidate
    obtain ⟨⟨after, split⟩, -⟩ := Anchor.isAt_iff.mp isAt
    exact ⟨behind, isAt, parseAt_eq after split.symm ▸ acceptable.read⟩
  · rintro ⟨behind, isAt, read⟩
    obtain ⟨⟨after, split⟩, -⟩ := Anchor.isAt_iff.mp isAt
    exact ⟨isCandidate_iff.mpr ⟨behind, isAt⟩, by rw [parseAt_eq after split.symm, read]⟩

end Place

theorem IsAcceptable.lt_stop {tail : Tail}
    (acceptable : matcher.IsAcceptable text marker start tail) :
    start + Text.byteLength matcher.lead < tail.stop := by
  obtain ⟨front, rest, rfl, rfl⟩ := acceptable.occurs
  have read := acceptable.read
  rw [← Text.byteLength_append, Tail.parseAt_byteLength] at read
  have reached := Tail.lt_stop_of_parse read
  rwa [Text.byteLength_append] at reached

/-! ### Overlapping anchors -/

/-- Where two leads overlap, the second one adds path characters to the first, and no dot first:
the first one ends in a dot, and no two dots of a lead are adjacent. -/
theorem exists_added_of_overlap {first rest rest' : List Char}
    (shorter : Text.byteLength first < Text.byteLength matcher.lead)
    (same : matcher.lead ++ rest = first ++ (matcher.lead ++ rest')) :
    ∃ added, first ++ matcher.lead = matcher.lead ++ added ∧ rest = added ++ rest' ∧
      (∀ c ∈ added, Text.isPathChar c = true) ∧ added.head? ≠ some '.' := by
  -- The lead is `first ++ common` by the first occurrence and `common ++ added` by the second.
  obtain ⟨common, lead, behind⟩ := Text.split_le same.symm (Nat.le_of_lt shorter)
  have within : Text.byteLength common ≤ Text.byteLength matcher.lead := by
    rw [lead, Text.byteLength_append]
    omega
  obtain ⟨added, lead', rest_eq⟩ := Text.split_le behind.symm within
  refine ⟨added, ?_, rest_eq, fun c member => ?_, fun dot => ?_⟩
  · rw [lead', ← List.append_assoc, ← lead, ← lead']
  · refine matcher.isPathChar_of_mem_lead ?_
    rw [lead']
    exact List.mem_append_right _ member
  · have filled : common ≠ [] := by
      rintro rfl
      rw [List.append_nil] at lead
      exact absurd shorter (Nat.not_lt.mpr (Nat.le_of_eq (congrArg Text.byteLength lead)))
    have ends : common.getLast? = some '.' := by
      have last := matcher.lead_getLast?
      rwa [lead, List.getLast?_append_of_ne_nil _ filled] at last
    obtain ⟨init, rfl⟩ := List.getLast?_eq_some_iff.mp ends
    obtain ⟨more, rfl⟩ := List.head?_eq_some_iff.mp dot
    rw [List.append_assoc, List.singleton_append] at lead'
    exact matcher.lead_dots lead' rfl

/-- **A candidate that overlaps an acceptable one behind it is acceptable too.** What the second
anchor adds to the first begins a longer path, which ends where the other one does. -/
theorem exists_isAcceptable_of_overlap {later : Nat} {tail : Tail}
    (candidate : matcher.IsCandidate text marker start)
    (acceptable : matcher.IsAcceptable text marker later tail) (behind : start < later)
    (overlaps : later < start + Text.byteLength matcher.lead) :
    ∃ longer, matcher.IsAcceptable text marker start longer := by
  obtain ⟨front, rest, split, rfl⟩ := candidate.occurs
  obtain ⟨front', rest', split', rfl⟩ := acceptable.occurs
  rw [List.append_assoc] at split split'
  obtain ⟨first, rfl, same⟩ := Text.split_le (split.symm.trans split') (Nat.le_of_lt behind)
  rw [Text.byteLength_append] at overlaps
  obtain ⟨added, both, rfl, characters, noDot⟩ := exists_added_of_overlap (by omega) same
  have whole : text = front ++ matcher.lead ++ added ++ rest' := by
    rw [split]
    simp only [List.append_assoc]
  have ends : front ++ first ++ matcher.lead = front ++ matcher.lead ++ added := by
    rw [List.append_assoc, both, ← List.append_assoc]
  have read := acceptable.read
  rw [← Text.byteLength_append, ends, whole, Tail.parseAt_byteLength] at read
  refine ⟨⟨added ++ tail.messageId, tail.stop⟩, candidate, ?_⟩
  rw [whole, ← Text.byteLength_append, List.append_assoc (front ++ matcher.lead),
    Tail.parseAt_byteLength]
  exact Tail.parse_append characters noDot read

end Matcher

end MessageRefs
