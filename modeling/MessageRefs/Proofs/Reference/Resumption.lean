import MessageRefs.Proofs.Reference.Selection
import MessageRefs.Proofs.Text.Search

/-!
**The accesses of a text from where a search resumes.**

A search goes over the whole text and tries the anchors from an offset on. It does as well to go on
from the first anchor at or behind that offset: its access, if it has one, comes first, and the
others are those from where the search resumes.

* `Access.resumed`: the accesses of a text from an offset on;
* `Access.search_upTo`: a search passes over a part in which no anchor is tried;
* `Access.resumed_of_none`: without an anchor there is no access;
* `Access.resumed_of_accepted`, `Access.resumed_of_discarded`: what follows from the first anchor;
* `Access.resumed_congr`: only the first anchor matters, not where the search for it began.
-/

namespace MessageRefs.Access

variable {lead text front rest : List Char} {memo memo' : Call.Memo} {resume least : Nat}

/-- The accesses of a text from an offset on, with what is already known of its calls. -/
def resumed (lead : List Char) (memo : Call.Memo) (least : Nat) (text : List Char) : List Access :=
  (search lead #[] memo least none 0 text).toList

/-! ### Searches -/

/-- What has been found before stays in front. -/
theorem search_found (found : Array Access) (before : Option Char) (offset : Nat) :
    (search lead found memo resume before offset text).toList
      = found.toList ++ (search lead #[] memo resume before offset text).toList := by
  induction text generalizing found memo resume before offset with
  | nil => simp [search]
  | cons c rest ih =>
    by_cases tried : resume ≤ offset ∧ Anchor.isAt lead before (c :: rest) = true
    · obtain ⟨resumes, isAt⟩ := tried
      rcases parsed : Tail.parse memo (offset + Text.byteLength lead)
          ((c :: rest).drop lead.length) with ⟨_ | tail, memo'⟩
      · rw [search_discarded resumes isAt parsed, search_discarded resumes isAt parsed, ih]
      · rw [search_accepted resumes isAt parsed, search_accepted resumes isAt parsed, ih,
          ih (#[].push ⟨offset, tail⟩), ← List.append_assoc]
        simp
    · rw [search_passed tried, search_passed tried, ih]

/-- **A search passes over a part of the text in which no anchor is tried.** -/
theorem search_upTo (found : Array Access)
    (untried : ∀ offset < Text.byteLength front, resume ≤ offset →
      ¬Text.PassesAt (Anchor.isAt lead) (front ++ rest) offset) :
    search lead found memo resume none 0 (front ++ rest)
      = search lead found memo resume front.getLast? (Text.byteLength front) rest := by
  induction front using List.reverseRecOn generalizing rest with
  | nil => rfl
  | append_singleton front c ih =>
    have positive := c.utf8Size_pos
    rw [Text.byteLength_concat, List.append_assoc, List.singleton_append] at untried
    rw [List.append_assoc, List.singleton_append,
      ih fun offset before => untried offset (Nat.lt_add_right _ before), search_passed,
      List.getLast?_concat, Text.byteLength_concat]
    rintro ⟨resumes, isAt⟩
    exact untried _ (by omega) resumes (Text.passesAt_byteLength.mpr isAt)

/-- A search that resumes behind the beginning of a character passes over it. -/
theorem search_beyond (found : Array Access) {c : Char} (behind : Text.byteLength front < resume) :
    search lead found memo resume none 0 (front ++ c :: rest)
      = search lead found memo resume (some c) (Text.byteLength front + c.utf8Size) rest := by
  have upTo := @search_upTo lead (front ++ [c]) rest memo resume found
  rw [List.append_assoc, List.singleton_append, List.getLast?_concat,
    Text.byteLength_concat] at upTo
  refine upTo ?_
  rintro offset within resumes ⟨front', rest', split, rfl, -⟩
  have beyond := Text.next_le split (by omega)
  rw [Text.byteLength_concat] at beyond
  omega

/-! ### The first anchor -/

theorem resumed_of_none (none : Text.firstPlace? (Anchor.isAt lead) least text = none) :
    resumed lead memo least text = [] := by
  have nowhere := Text.firstPlace?_eq_none_iff.mp none
  rw [← List.append_nil text] at nowhere
  rw [resumed, ← List.append_nil text,
    search_upTo #[] fun offset _ resumes => nowhere offset resumes]
  rfl

/-- The first anchor parts the text. -/
theorem exists_split_of_first {start : Nat}
    (isFirst : Text.firstPlace? (Anchor.isAt lead) least text = some start) :
    ∃ front rest, text = front ++ (lead ++ rest) ∧ Text.byteLength front = start := by
  obtain ⟨⟨-, front, rest, split, length, isAt⟩, -⟩ := Text.firstPlace?_eq_some_iff.mp isFirst
  rw [Anchor.isAt, Bool.and_eq_true, List.isPrefixOf_iff_prefix] at isAt
  obtain ⟨rest, rfl⟩ := isAt.1
  exact ⟨front, rest, split, length⟩

section First

variable (isFirst : Text.firstPlace? (Anchor.isAt lead) least (front ++ (lead ++ rest))
    = some (Text.byteLength front))

include isFirst

/-- Up to the first anchor none is tried, and this one is. -/
theorem search_first (memo : Call.Memo) :
    search lead #[] memo least none 0 (front ++ (lead ++ rest))
        = search lead #[] memo least front.getLast? (Text.byteLength front) (lead ++ rest) ∧
      least ≤ Text.byteLength front ∧
      Anchor.isAt lead front.getLast? (lead ++ rest) = true := by
  obtain ⟨⟨resumes, passes⟩, first⟩ := Text.firstPlace?_eq_some_iff.mp isFirst
  refine ⟨search_upTo #[] fun offset before resumes passes => ?_, resumes,
    Text.passesAt_byteLength.mp passes⟩
  exact absurd (first ⟨resumes, passes⟩) (Nat.not_le_of_lt before)

variable (filled : lead ≠ [])

include filled

/-- **The access of the first anchor comes first**, and the search resumes at its end. -/
theorem resumed_of_accepted {tail : Tail}
    (parsed : Tail.parse memo (Text.byteLength (front ++ lead)) rest = (some tail, memo'))
    (onward : Text.byteLength front < tail.stop) :
    resumed lead memo least (front ++ (lead ++ rest))
      = ⟨Text.byteLength front, tail⟩ ::
          resumed lead memo' tail.stop (front ++ (lead ++ rest)) := by
  obtain ⟨upTo, resumes, isAt⟩ := search_first isFirst memo
  rw [Text.byteLength_append, ← @List.drop_left _ lead rest] at parsed
  rw [resumed, resumed, upTo]
  cases lead with
  | nil => exact absurd rfl filled
  | cons c others =>
    rw [List.cons_append] at isAt parsed ⊢
    rw [search_accepted resumes isAt parsed, search_found, search_beyond _ onward]
    rfl

/-- **If the first anchor has no access**, the search resumes behind it. -/
theorem resumed_of_discarded
    (parsed : Tail.parse memo (Text.byteLength (front ++ lead)) rest = (none, memo')) :
    resumed lead memo least (front ++ (lead ++ rest))
      = resumed lead memo' (Text.byteLength (front ++ lead)) (front ++ (lead ++ rest)) := by
  obtain ⟨upTo, resumes, isAt⟩ := search_first isFirst memo
  rw [← @List.drop_left _ lead rest] at parsed
  rw [Text.byteLength_append] at parsed ⊢
  rw [resumed, resumed, upTo]
  have onward : Text.byteLength front < Text.byteLength front + Text.byteLength lead :=
    Nat.lt_add_of_pos_right (Text.byteLength_pos filled)
  cases lead with
  | nil => exact absurd rfl filled
  | cons c others =>
    rw [List.cons_append] at isAt parsed ⊢
    rw [search_discarded resumes isAt parsed, search_beyond _ onward]

end First

/-- **Only the first anchor matters**, not where the search for it began. -/
theorem resumed_congr (filled : lead ≠ []) {least' : Nat}
    (same : Text.firstPlace? (Anchor.isAt lead) least text
      = Text.firstPlace? (Anchor.isAt lead) least' text) :
    resumed lead .empty least text = resumed lead .empty least' text := by
  cases isFirst : Text.firstPlace? (Anchor.isAt lead) least text with
  | none => rw [resumed_of_none isFirst, resumed_of_none (same ▸ isFirst)]
  | some start =>
    obtain ⟨front, rest, rfl, rfl⟩ := exists_split_of_first isFirst
    rcases parsed : Tail.parse .empty (Text.byteLength (front ++ lead)) rest with ⟨_ | tail, memo⟩
    · rw [resumed_of_discarded isFirst filled parsed,
        resumed_of_discarded (same ▸ isFirst) filled parsed]
    · have stop := Tail.lt_stop_of_parse (congrArg Prod.fst parsed)
      have onward : Text.byteLength front < tail.stop := by
        rw [Text.byteLength_append] at stop
        omega
      rw [resumed_of_accepted isFirst filled parsed onward,
        resumed_of_accepted (same ▸ isFirst) filled parsed onward]

end MessageRefs.Access
