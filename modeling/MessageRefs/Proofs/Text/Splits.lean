import MessageRefs.Text.Place

/-!
**Places of a text as splits.**

A place parts a text into the characters before it and the text after it, and its offset is the
length of the first part. What the search functions say about offsets is restated for such splits.

* `after?_eq_some_iff`: an offset is a place when it is the length of a first part;
* `split_le`: of two splits of one text, the shorter first part begins the longer one;
* `split_unique`: an offset belongs to one split only;
* `next_le`: between two neighbouring places there is none;
* `charBefore?_byteLength`: the character before a place ends the first part.
-/

namespace MessageRefs.Text

/-! ### Lengths -/

@[simp] theorem byteLength_eq_zero_iff {text : List Char} : byteLength text = 0 ↔ text = [] := by
  cases text with
  | nil => simp
  | cons c rest =>
    have positive := c.utf8Size_pos
    constructor
    · intro zero
      rw [byteLength_cons] at zero
      omega
    · intro empty
      cases empty

theorem byteLength_pos {text : List Char} (filled : text ≠ []) : 0 < byteLength text :=
  Nat.pos_of_ne_zero fun zero => filled (byteLength_eq_zero_iff.mp zero)

theorem length_le_byteLength (text : List Char) : text.length ≤ byteLength text := by
  induction text with
  | nil => simp
  | cons c rest ih =>
    have positive := c.utf8Size_pos
    rw [List.length_cons, byteLength_cons]
    omega

theorem byteLength_concat (text : List Char) (c : Char) :
    byteLength (text ++ [c]) = byteLength text + c.utf8Size := by
  rw [byteLength_append, byteLength_cons, byteLength_nil, Nat.add_zero]

/-! ### Two splits of one text -/

/-- **Of two splits of one text, the shorter first part begins the longer one.** -/
theorem split_le {front rest front' rest' : List Char} (same : front ++ rest = front' ++ rest')
    (shorter : byteLength front ≤ byteLength front') :
    ∃ between, front' = front ++ between ∧ rest = between ++ rest' := by
  rcases List.append_eq_append_iff.mp same with
    ⟨between, longer, remaining⟩ | ⟨excess, longer, remaining⟩
  · exact ⟨between, longer, remaining⟩
  · rw [longer, byteLength_append] at shorter
    have none : excess = [] := byteLength_eq_zero_iff.mp (by omega)
    subst none
    exact ⟨[], by simpa using longer.symm, by simpa using remaining.symm⟩

/-- An offset belongs to one split only. -/
theorem split_unique {front rest front' rest' : List Char} (same : front ++ rest = front' ++ rest')
    (equal : byteLength front = byteLength front') : front = front' ∧ rest = rest' := by
  obtain ⟨between, longer, remaining⟩ := split_le same (Nat.le_of_eq equal)
  rw [longer, byteLength_append] at equal
  have none : between = [] := byteLength_eq_zero_iff.mp (by omega)
  subst none
  exact ⟨by simpa using longer.symm, by simpa using remaining⟩

/-- Between two neighbouring places there is none. -/
theorem next_le {front rest front' rest' : List Char} {c : Char}
    (same : front ++ c :: rest = front' ++ rest') (later : byteLength front < byteLength front') :
    byteLength (front ++ [c]) ≤ byteLength front' := by
  obtain ⟨between, rfl, remaining⟩ := split_le same (Nat.le_of_lt later)
  cases between with
  | nil =>
    rw [List.append_nil] at later
    exact absurd later (Nat.lt_irrefl _)
  | cons d more =>
    obtain ⟨rfl, -⟩ := List.cons_eq_cons.mp remaining
    simp only [byteLength_append, byteLength_cons, byteLength_nil]
    omega

/-! ### Offsets of splits -/

theorem exists_front_of_after? {offset : Nat} {text rest : List Char}
    (found : after? offset text = some rest) :
    ∃ front, text = front ++ rest ∧ byteLength front = offset := by
  fun_induction after? offset text with
  | case1 text =>
    cases found
    exact ⟨[], rfl, rfl⟩
  | case2 => cases found
  | case3 offset c others fits ih =>
    obtain ⟨front, equal, sized⟩ := ih found
    refine ⟨c :: front, by rw [equal, List.cons_append], ?_⟩
    rw [byteLength_cons]
    omega
  | case4 => cases found

/-- **An offset is a place when it is the length of a first part.** -/
theorem after?_eq_some_iff {offset : Nat} {text rest : List Char} :
    after? offset text = some rest ↔ ∃ front, text = front ++ rest ∧ byteLength front = offset := by
  constructor
  · exact exists_front_of_after?
  · rintro ⟨front, rfl, rfl⟩
    exact after?_byteLength_append front rest

/-- A boundary of a text is the length of a first part. -/
theorem exists_front_of_isBoundary {text : List Char} {offset : Nat}
    (boundary : isBoundary text offset = true) :
    ∃ front rest, text = front ++ rest ∧ byteLength front = offset := by
  obtain ⟨rest, found⟩ := Option.isSome_iff_exists.mp boundary
  obtain ⟨front, split, start⟩ := after?_eq_some_iff.mp found
  exact ⟨front, rest, split, start⟩

/-- The character before a place, where `last` stands before the text, ends the first part. -/
theorem charBeforeFrom_byteLength (last : Option Char) (front rest : List Char) :
    charBeforeFrom last (byteLength front) (front ++ rest) = front.getLast?.or last := by
  induction front generalizing last with
  | nil => simp [charBeforeFrom]
  | cons c others ih =>
    have positive := c.utf8Size_pos
    obtain ⟨size, sized⟩ : ∃ size, byteLength (c :: others) = size + 1 :=
      ⟨c.utf8Size + byteLength others - 1, by rw [byteLength_cons]; omega⟩
    have fits : c.utf8Size ≤ size + 1 := by
      rw [← sized, byteLength_cons]
      omega
    have left : size + 1 - c.utf8Size = byteLength others := by
      rw [← sized, byteLength_cons]
      omega
    rw [sized, List.cons_append, charBeforeFrom, if_pos fits, left, ih, List.getLast?_cons]
    cases others.getLast? <;> rfl

theorem charBefore?_byteLength (front rest : List Char) :
    charBefore? (front ++ rest) (byteLength front) = front.getLast? := by
  rw [charBefore?, charBeforeFrom_byteLength, Option.or_none]

end MessageRefs.Text
