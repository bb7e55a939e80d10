import MessageRefs.Proofs.Text.Splits
import Mathlib.Order.Lattice.Nat

/-!
**The search for a place finds the least one that passes the test.**

* `PassesAt`: a test passes at a place of a text, given by its offset;
* `firstPlace?_eq_some_iff`: the offset that is found is the least at which the test passes;
* `firstPlace?_eq_none_iff`: none is found if the test passes nowhere;
* `firstPlace?_inside`: a search from inside a character begins behind it;
* `Finds`: a search answers with the least of some offsets, if there is one;
* `Finds.merge`, `finds_min?`: the least among the answers of several searches is the first of all.
-/

namespace MessageRefs.Text

/-- A test passes at a place: on the character before it and the text after it. -/
def PassesAt (test : Option Char → List Char → Bool) (text : List Char) (offset : Nat) : Prop :=
  ∃ front rest, text = front ++ rest ∧ byteLength front = offset ∧
    test front.getLast? rest = true

/-- The offsets, from one on, at which a test passes. -/
def passing (test : Option Char → List Char → Bool) (text : List Char) (least : Nat) : Set Nat :=
  {offset | least ≤ offset ∧ PassesAt test text offset}

variable {test : Option Char → List Char → Bool} {least : Nat} {front rest : List Char} {c : Char}

theorem passesAt_byteLength :
    PassesAt test (front ++ rest) (byteLength front) ↔ test front.getLast? rest = true := by
  constructor
  · rintro ⟨front', rest', same, equal, passes⟩
    obtain ⟨rfl, rfl⟩ := split_unique same equal.symm
    exact passes
  · exact fun passes => ⟨front, rest, rfl, rfl, passes⟩

theorem PassesAt.le_byteLength {text : List Char} {offset : Nat}
    (passes : PassesAt test text offset) : offset ≤ byteLength text := by
  obtain ⟨front, rest, rfl, rfl, -⟩ := passes
  rw [byteLength_append]
  exact Nat.le_add_right _ _

/-- One of two tests passes where the first or the second does. -/
theorem passing_or (first second : Option Char → List Char → Bool) (text : List Char)
    (least : Nat) :
    passing (fun before text => first before text || second before text) text least
      = passing first text least ∪ passing second text least := by
  ext offset
  constructor
  · rintro ⟨above, front, rest, whole, length, passes⟩
    exact (Bool.or_eq_true_iff.mp passes).imp
      (fun passes => ⟨above, front, rest, whole, length, passes⟩)
      (fun passes => ⟨above, front, rest, whole, length, passes⟩)
  · rintro (⟨above, front, rest, whole, length, passes⟩ |
      ⟨above, front, rest, whole, length, passes⟩)
    · exact ⟨above, front, rest, whole, length, Bool.or_eq_true_iff.mpr (.inl passes)⟩
    · exact ⟨above, front, rest, whole, length, Bool.or_eq_true_iff.mpr (.inr passes)⟩

theorem isLeast_passing (above : least ≤ byteLength front)
    (passes : test front.getLast? rest = true) :
    IsLeast (passing test (front ++ rest) (max least (byteLength front))) (byteLength front) :=
  ⟨⟨Nat.max_le.mpr ⟨above, Nat.le_refl _⟩, passesAt_byteLength.mpr passes⟩,
    fun _ member => (Nat.max_le.mp member.1).2⟩

/-- Where the test does not pass, the offsets at which it passes lie behind the next character. -/
theorem passing_beyond
    (fails : ¬(least ≤ byteLength front ∧ test front.getLast? (c :: rest) = true)) :
    passing test (front ++ c :: rest) (max least (byteLength front))
      = passing test (front ++ [c] ++ rest) (max least (byteLength (front ++ [c]))) := by
  have longer : byteLength front ≤ byteLength (front ++ [c]) := by
    rw [byteLength_append]
    exact Nat.le_add_right _ _
  ext offset
  rw [← List.append_cons]
  constructor
  · rintro ⟨reached, passes⟩
    refine ⟨?_, passes⟩
    obtain ⟨above, reached⟩ := Nat.max_le.mp reached
    rcases Nat.eq_or_lt_of_le reached with rfl | later
    · exact absurd ⟨above, passesAt_byteLength.mp passes⟩ fails
    · obtain ⟨front', rest', same, rfl, -⟩ := passes
      exact Nat.max_le.mpr ⟨above, next_le same later⟩
  · rintro ⟨reached, passes⟩
    obtain ⟨above, reached⟩ := Nat.max_le.mp reached
    exact ⟨Nat.max_le.mpr ⟨above, Nat.le_trans longer reached⟩, passes⟩

/-- From a place on, the search finds the least offset at which the test passes. -/
theorem firstPlaceFrom_eq_some_iff {offset : Nat} :
    firstPlaceFrom test least front.getLast? (byteLength front) rest = some offset ↔
      IsLeast (passing test (front ++ rest) (max least (byteLength front))) offset := by
  induction rest generalizing front with
  | nil =>
    rw [firstPlaceFrom]
    by_cases passed : least ≤ byteLength front ∧ test front.getLast? [] = true
    · rw [if_pos (by simpa using passed), Option.some.injEq]
      exact ⟨fun equal => equal ▸ isLeast_passing passed.1 passed.2,
        (isLeast_passing passed.1 passed.2).unique⟩
    · rw [if_neg (by simpa using passed)]
      constructor
      · intro found
        cases found
      · rintro ⟨⟨reached, passes⟩, -⟩
        obtain ⟨above, reached⟩ := Nat.max_le.mp reached
        have atEnd := passes.le_byteLength
        rw [List.append_nil] at atEnd
        obtain rfl := Nat.le_antisymm atEnd reached
        exact absurd ⟨above, passesAt_byteLength.mp passes⟩ passed
  | cons c rest ih =>
    rw [firstPlaceFrom]
    by_cases passed : least ≤ byteLength front ∧ test front.getLast? (c :: rest) = true
    · rw [if_pos (by simpa using passed), Option.some.injEq]
      exact ⟨fun equal => equal ▸ isLeast_passing passed.1 passed.2,
        (isLeast_passing passed.1 passed.2).unique⟩
    · have last : some c = (front ++ [c]).getLast? := List.getLast?_concat.symm
      rw [if_neg (by simpa using passed), ← byteLength_concat, last, ih, passing_beyond passed]

/-- **The offset that is found is the least at which the test passes.** -/
theorem firstPlace?_eq_some_iff {text : List Char} {offset : Nat} :
    firstPlace? test least text = some offset ↔ IsLeast (passing test text least) offset := by
  have whole := @firstPlaceFrom_eq_some_iff test least [] text offset
  rwa [List.nil_append, byteLength_nil, Nat.max_eq_left (Nat.zero_le _)] at whole

/-! ### First offsets -/

/-- A search answers with the least of some offsets, or with none if there is none. -/
def Finds (found : Option Nat) (places : Set Nat) : Prop :=
  ∀ offset, found = some offset ↔ IsLeast places offset

theorem finds_firstPlace? {text : List Char} :
    Finds (firstPlace? test least text) (passing test text least) :=
  fun _ => firstPlace?_eq_some_iff

section Finds

variable {found found' : Option Nat} {places places' : Set Nat}

theorem Finds.eq_none_iff (finds : Finds found places) :
    found = none ↔ ∀ offset, offset ∉ places := by
  rw [Option.eq_none_iff_forall_ne_some]
  constructor
  · intro none offset member
    exact none (sInf places) ((finds _).mpr
      ⟨Nat.sInf_mem ⟨offset, member⟩, fun place other => Nat.sInf_le other⟩)
  · intro nowhere offset isFound
    exact nowhere offset ((finds offset).mp isFound).1

theorem Finds.unique (finds : Finds found places) (finds' : Finds found' places) : found = found' :=
  Option.ext fun offset => (finds offset).trans (finds' offset).symm

/-- The earlier of two first offsets is the first of all. -/
theorem Finds.merge (finds : Finds found places) (finds' : Finds found' places') :
    Finds (Option.merge min found found') (places ∪ places') := by
  intro offset
  cases found with
  | none =>
    have nowhere := Set.eq_empty_iff_forall_notMem.mpr (finds.eq_none_iff.mp rfl)
    rw [nowhere, Set.empty_union, ← finds' offset]
    cases found' <;> rfl
  | some first =>
    have isFirst := (finds first).mp rfl
    cases found' with
    | none =>
      have nowhere := Set.eq_empty_iff_forall_notMem.mpr (finds'.eq_none_iff.mp rfl)
      rw [nowhere, Set.union_empty, ← finds offset]
      rfl
    | some second =>
      have both := isFirst.union ((finds' second).mp rfl)
      exact ⟨fun equal => Option.some.inj equal ▸ both,
        fun isLeast => congrArg some (both.unique isLeast)⟩

/-- The least among the first offsets of several searches is the first of all. -/
theorem finds_min? {α : Type} {search : α → Option Nat} {placesOf : α → Set Nat}
    (finds : ∀ a, Finds (search a) (placesOf a)) (searched : List α) :
    Finds (searched.filterMap search).min? {offset | ∃ a ∈ searched, offset ∈ placesOf a} := by
  intro offset
  rw [List.min?_eq_some_iff]
  simp only [List.mem_filterMap]
  constructor
  · rintro ⟨⟨a, member, isFound⟩, below⟩
    refine ⟨⟨a, member, ((finds a offset).mp isFound).1⟩, ?_⟩
    rintro place ⟨b, member', isPlace⟩
    obtain ⟨first, isFirst⟩ : ∃ first, search b = some first :=
      Option.ne_none_iff_exists'.mp fun none => (finds b).eq_none_iff.mp none place isPlace
    exact (below first ⟨b, member', isFirst⟩).trans (((finds b first).mp isFirst).2 isPlace)
  · rintro ⟨⟨a, member, isPlace⟩, below⟩
    have isFirst : IsLeast (placesOf a) offset :=
      ⟨isPlace, fun place other => below ⟨a, member, other⟩⟩
    refine ⟨⟨a, member, (finds a offset).mpr isFirst⟩, ?_⟩
    rintro first ⟨b, member', isFound⟩
    exact below ⟨b, member', ((finds b first).mp isFound).1⟩

end Finds

theorem firstPlace?_eq_none_iff {text : List Char} :
    firstPlace? test least text = none ↔ ∀ offset, least ≤ offset → ¬PassesAt test text offset := by
  rw [finds_firstPlace?.eq_none_iff]
  exact ⟨fun nowhere offset above passes => nowhere offset ⟨above, passes⟩,
    fun nowhere offset member => nowhere offset member.1 member.2⟩

/-- Inside a character there is no place, so a search from there begins behind it. -/
theorem firstPlace?_inside :
    firstPlace? test (byteLength front + 1) (front ++ c :: rest)
      = firstPlace? test (byteLength (front ++ [c])) (front ++ c :: rest) := by
  have positive := c.utf8Size_pos
  have same : passing test (front ++ c :: rest) (byteLength front + 1)
      = passing test (front ++ c :: rest) (byteLength (front ++ [c])) := by
    ext offset
    constructor
    · rintro ⟨later, front', rest', split, rfl, passes⟩
      exact ⟨next_le split later, front', rest', split, rfl, passes⟩
    · rintro ⟨later, passes⟩
      rw [byteLength_concat] at later
      exact ⟨by omega, passes⟩
  exact finds_firstPlace?.unique (same ▸ finds_firstPlace?)

end MessageRefs.Text
