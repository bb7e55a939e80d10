import MessageRefs.Anchor
import MessageRefs.Proofs.Checked.Slices

/-!
**The first anchor from an offset on is the least at which one begins.**

The search looks for the anchor and its dot anywhere. Where an identifier runs into them it goes on
behind one character of theirs only, since what follows may overlap what was refused.

* `Anchor.Begins`: an anchor begins at an offset of a text, in terms of the text;
* `Anchor.passesAt_isAt_iff`: the test for an anchor passes where one begins;
* `Anchor.nextFrom?_eq`: going on behind the first character misses no anchor;
* `Anchor.next?_isLeast`: the search finds the least offset, whatever the anchor.
-/

namespace MessageRefs.Anchor

/-- An anchor begins at an offset of a text: its characters and a dot follow, and what ends there is
no character of an identifier. -/
def Begins (anchor : String) (text : List Char) (start : Nat) : Prop :=
  ∃ front after, text = front ++ (anchor.toList ++ '.' :: after) ∧
    Text.byteLength front = start ∧ ∀ c ∈ front.getLast?, Text.isIdentifierChar c = false

/-- **The test for an anchor passes exactly where one begins.** -/
theorem passesAt_isAt_iff {anchor : String} {text : List Char} {start : Nat} :
    Text.PassesAt (isAt (lead anchor)) text start ↔ Begins anchor text start := by
  constructor
  · rintro ⟨front, rest, rfl, rfl, passes⟩
    obtain ⟨⟨after, rfl⟩, apart⟩ := isAt_iff.mp passes
    exact ⟨front, after, by simp [lead], rfl, apart⟩
  · rintro ⟨front, after, rfl, rfl, apart⟩
    exact ⟨front, _, rfl, rfl, isAt_iff.mpr ⟨⟨after, by simp [lead]⟩, apart⟩⟩

section Search

variable {lead : List Char} (filled : lead ≠ []) (front rest : List Char)

/-- At a place the search goes on to the first occurrence behind it. -/
theorem nextFrom?_behind : nextFrom? lead (front ++ rest) (Text.byteLength front) =
    match Checked.occurrence? lead rest with
    | none => none
    | some skipped =>
      let start := Text.byteLength front + skipped
      if !(Text.charBefore? (front ++ rest) start).any Text.isIdentifierChar then some start
      else nextFrom? lead (front ++ rest) (start + firstSize lead) := by
  have place := Text.after?_byteLength_append front rest
  rw [nextFrom?]
  split
  next outside =>
    rw [place] at outside
    cases outside
  next others found =>
    rw [place] at found
    cases found
    rfl

/-- Past the end of the text and inside a character there is nothing to search. -/
theorem nextFrom?_outside {text : List Char} {least : Nat}
    (outside : Text.after? least text = none) : nextFrom? lead text least = none := by
  rw [nextFrom?]
  split
  next => rfl
  next others found =>
    rw [outside] at found
    cases found

include filled

/-- **Going on behind the first character misses no anchor.** -/
theorem nextFrom?_eq : nextFrom? lead (front ++ rest) (Text.byteLength front)
    = Text.firstPlace? (isAt lead) (Text.byteLength front) (front ++ rest) := by
  obtain ⟨stride, isStride, head⟩ := Checked.exists_isStride_head filled
  -- The search goes on behind the stride, so the induction is on the length of what is left.
  induction size : rest.length using Nat.strongRecOn generalizing front rest with
  | ind length ih =>
    rw [nextFrom?_behind]
    cases isFound : Checked.occurrence? lead rest with
    | none => exact (Checked.firstPlace?_of_unfound isFound).symm
    | some skipped =>
      obtain ⟨before, after, rfl, rfl, leads, first⟩ := Checked.exists_split_of_occurrence? isFound
      dsimp only
      rw [← Text.byteLength_append, ← List.append_assoc, Text.charBefore?_byteLength]
      cases apart : !(front ++ before).getLast?.any Text.isIdentifierChar with
      | true =>
        rw [if_pos rfl, List.append_assoc]
        exact (Checked.firstPlace?_of_accepted leads first apart).symm
      | false =>
        have onward : Text.firstPlace? (isAt lead) (Text.byteLength front)
              (front ++ (before ++ after))
            = Text.firstPlace? (isAt lead) (Text.byteLength (front ++ before ++ stride))
                (front ++ (before ++ after)) :=
          Checked.firstPlace?_of_refused leads first isStride apart
        obtain ⟨behind, rfl, less⟩ := isStride.exists_behind leads
        have shorter : behind.length < length := by
          rw [← size, List.length_append]
          exact Nat.lt_add_left _ less
        have resumed : Text.byteLength (front ++ before) + firstSize lead
            = Text.byteLength (front ++ before ++ stride) := by
          rw [Text.byteLength_append _ stride, head]
          rfl
        have whole : front ++ before ++ (stride ++ behind) = front ++ before ++ stride ++ behind :=
          (List.append_assoc _ _ _).symm
        rw [List.append_assoc, onward, if_neg Bool.false_ne_true, resumed]
        rw [← List.append_assoc front, whole]
        exact ih _ shorter _ _ rfl

end Search

theorem lead_ne_nil (anchor : String) : lead anchor ≠ [] :=
  List.append_ne_nil_of_right_ne_nil _ (List.cons_ne_nil _ _)

/-- **The offset that is found is the least at which an anchor begins**, not below the one that the
search starts from. None is found if no anchor begins from there on, or if the search starts past
the end of the text or inside a character. The anchor need not be valid. -/
theorem next?_isLeast (anchor : String) (text : List Char) (least : Nat) :
    (∀ start, next? anchor text least = some start ↔
      (∃ front rest, text = front ++ rest ∧ Text.byteLength front = least) ∧
        IsLeast {offset | least ≤ offset ∧ Begins anchor text offset} start) ∧
    (next? anchor text least = none ↔
      (¬∃ front rest, text = front ++ rest ∧ Text.byteLength front = least) ∨
        ∀ offset, least ≤ offset → ¬Begins anchor text offset) := by
  by_cases place : ∃ front rest, text = front ++ rest ∧ Text.byteLength front = least
  · have finds : Text.Finds (next? anchor text least)
        {offset | least ≤ offset ∧ Begins anchor text offset} := by
      have places : Text.passing (isAt (lead anchor)) text least
          = {offset | least ≤ offset ∧ Begins anchor text offset} := by
        ext offset
        exact and_congr_right fun _ => passesAt_isAt_iff
      obtain ⟨front, rest, rfl, rfl⟩ := place
      rw [next?, nextFrom?_eq (lead_ne_nil anchor), ← places]
      exact Text.finds_firstPlace?
    refine ⟨fun start => (finds start).trans (and_iff_right place).symm, ?_⟩
    rw [finds.eq_none_iff, or_iff_right (not_not_intro place)]
    exact forall_congr' fun offset => not_and
  · have outside : Text.after? least text = none := by
      rw [Option.eq_none_iff_forall_ne_some]
      intro rest found
      obtain ⟨front, whole, length⟩ := Text.exists_front_of_after? found
      exact place ⟨front, rest, whole, length⟩
    rw [next?, nextFrom?_outside outside]
    exact ⟨fun start => iff_of_false (by simp) fun both => place both.1,
      iff_of_true rfl (.inl place)⟩

/-- An identifier runs into the first of two anchors that overlap. -/
example : next? "a.a" "xa.a.a.b".toList 0 = some 3 := by
  cbv

end MessageRefs.Anchor
