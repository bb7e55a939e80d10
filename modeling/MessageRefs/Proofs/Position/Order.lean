import Mathlib.Algebra.Group.Nat.Defs
import MessageRefs.Proofs.Position.Cursor
import MessageRefs.Proofs.Position.Resolve

/-!
**Positions order the offsets of a text, and identify its places.**

In a text whose coordinates stay below the limit, a place further on has the greater position, and
every place is found again from its position. Offsets between two places have no position of their
own: an offset inside a character has the position of the character's end.

* `LineIndex.position_mono`, `LineIndex.position_lt`: positions are in the order of offsets;
* `LineIndex.position_ordersPlaces`: they order the offsets of a text and identify its places;
* `LineIndex.position_inside`: an index and a cursor go one character on for an offset inside one;
* `LineIndex.not_forall_position_inside`: so such an offset does not stand for its character.
-/

namespace MessageRefs.LineIndex

/-! ### The order of positions -/

section

variable {text : List Char} {first second : Nat}

/-- **Offsets are in the order of their positions**, whether they are places or not. -/
theorem position_mono (short : Text.byteLength text ≤ Position.limit) (ordered : first ≤ second) :
    (ofText text).position first ≤ (ofText text).position second := by
  obtain ⟨more, longer⟩ := Text.upTo_leads_upTo ordered text
  obtain ⟨after, whole⟩ := Text.upTo_leads second text
  have fits : Text.byteLength (Text.upTo first text ++ more) ≤ Position.limit := by
    rw [← whole, Text.byteLength_append] at short
    rw [longer]
    omega
  rw [position_eq_behind, position_eq_behind, ← longer]
  exact Position.behind_le fits

/-- **A place further on has the greater position.** -/
theorem position_lt (short : Text.byteLength text ≤ Position.limit)
    (boundary : Text.isBoundary text first = true) (boundary' : Text.isBoundary text second = true)
    (less : first < second) : (ofText text).position first < (ofText text).position second := by
  obtain ⟨front, rest, split, rfl⟩ := Text.exists_front_of_isBoundary boundary
  obtain ⟨front', rest', split', rfl⟩ := Text.exists_front_of_isBoundary boundary'
  obtain ⟨more, rfl, -⟩ := Text.split_le (split.symm.trans split') (Nat.le_of_lt less)
  have filled : more ≠ [] := by
    rintro rfl
    rw [List.append_nil] at less
    exact Nat.lt_irrefl _ less
  have fits : Text.byteLength (front ++ more) ≤ Position.limit := by
    rw [split', Text.byteLength_append] at short
    omega
  rw [position_byteLength text split, position_byteLength text split']
  exact Position.behind_lt filled fits

/-- A place is found again by taking the line of its position and skipping its characters there. -/
theorem resolve_position (short : Text.byteLength text ≤ Position.limit)
    (boundary : Text.isBoundary text first = true) :
    ((ofText text).position first).resolve text = first := by
  obtain ⟨front, rest, split, rfl⟩ := Text.exists_front_of_isBoundary boundary
  have fits : Text.byteLength front ≤ Position.limit := by
    rw [split, Text.byteLength_append] at short
    omega
  rw [position_byteLength text split]
  exact Position.resolve_behind split fits

end

/-- **Positions order the offsets of a text and identify its places.** In a text of less than
4 GiB, places are in the strict order of their positions and found again from them, and all other
offsets, inside a character or past the end, are in their order too. -/
theorem position_ordersPlaces (text : List Char) (short : Text.byteLength text < 2 ^ 32) :
    (∀ first second, Text.isBoundary text first = true → Text.isBoundary text second = true →
      first < second → (ofText text).position first < (ofText text).position second) ∧
    (∀ place, Text.isBoundary text place = true →
      ((ofText text).position place).resolve text = place) ∧
    ∀ first second, first ≤ second →
      (ofText text).position first ≤ (ofText text).position second := by
  have fits : Text.byteLength text ≤ Position.limit := Nat.le_of_lt_succ short
  refine ⟨?_, ?_, ?_⟩
  · intro first second boundary boundary' less
    exact position_lt fits boundary boundary' less
  · intro place boundary
    exact resolve_position fits boundary
  · intro first second ordered
    exact position_mono fits ordered

/-- From a line counted by characters over its break to a line counted by bytes, and from an offset
inside a character to one past the end. -/
theorem position_ordersPlaces_over_break :
    Text.byteLength "aé\nb".toList < 2 ^ 32 ∧
    (ofText "aé\nb".toList).position 3 < (ofText "aé\nb".toList).position 4 ∧
    ((ofText "aé\nb".toList).position 4).resolve "aé\nb".toList = 4 ∧
    (ofText "aé\nb".toList).position 2 ≤ (ofText "aé\nb".toList).position 9 := by
  obtain ⟨strict, again, weak⟩ := position_ordersPlaces "aé\nb".toList (by decide)
  exact ⟨by decide, strict 3 4 (by decide) (by decide) (by decide), again 4 (by decide),
    weak 2 9 (by decide)⟩

/-! ### Offsets inside a character -/

section

variable {text front rest : List Char} {c : Char} {offset : Nat}

theorem position_upTo_end (split : text = front ++ c :: rest)
    (begun : Text.byteLength front < offset)
    (unfinished : offset ≤ Text.byteLength front + c.utf8Size) :
    (ofText text).position offset = .behind (front ++ [c]) := by
  rw [position_eq_behind, Text.upTo_inside split begun unfinished]

/-- **An offset inside a character is taken as the end of the character**, one character further on
than its beginning, by an index and by a cursor that has been asked for any offsets before. Below
the limit, it is never taken as the character's own place. -/
theorem position_inside (split : text = front ++ c :: rest)
    (begun : Text.byteLength front < offset)
    (unfinished : offset < Text.byteLength front + c.utf8Size) :
    (ofText text).position offset = (ofText text).position (Text.byteLength front + c.utf8Size) ∧
    (ofText text).position offset
      = ((ofText text).position (Text.byteLength front)).onward 1 ∧
    (∀ earlier, ((Cursor.atStart text).positions (earlier ++ [offset])).getLast?
      = some (((ofText text).position (Text.byteLength front)).onward 1)) ∧
    (Text.byteLength text < 2 ^ 32 →
      (ofText text).position (Text.byteLength front) < (ofText text).position offset) := by
  -- A character with an offset inside takes several bytes, and a line break takes one.
  have other : c ≠ '\n' := by
    rintro rfl
    have single : '\n'.utf8Size = 1 := rfl
    omega
  have atEnd := position_upTo_end split begun (Nat.le_of_lt unfinished)
  have further : (ofText text).position offset
      = ((ofText text).position (Text.byteLength front)).onward 1 := by
    rw [atEnd, position_byteLength text split]
    exact (Position.onward_behind (Text.newline_notMem_singleton other)).symm
  refine ⟨?_, further, fun earlier => ?_, fun short => ?_⟩
  · rw [atEnd, position_upTo_end split (Nat.lt_trans begun unfinished) (Nat.le_refl _)]
  · rw [(Cursor.reads_atStart text).positions_eq_map, List.map_append, List.map_singleton,
      List.getLast?_concat, further]
  · have fits : Text.byteLength (front ++ [c]) ≤ Position.limit := by
      rw [split, List.append_cons, Text.byteLength_append] at short
      exact Nat.le_of_lt_succ (Nat.lt_of_le_of_lt (Nat.le_add_right _ _) short)
    rw [atEnd, position_byteLength text split]
    exact Position.behind_lt (List.cons_ne_nil c []) fits

/-- An offset inside the second of two characters of four bytes, behind a line of ASCII. -/
theorem position_inside_second :
    (Text.byteLength "a\n😀".toList < 8 ∧ 8 < Text.byteLength "a\n😀".toList + '😀'.utf8Size) ∧
    (ofText "a\n😀😀b".toList).position 8 = (ofText "a\n😀😀b".toList).position 10 ∧
    (ofText "a\n😀😀b".toList).position 8
      = ((ofText "a\n😀😀b".toList).position 6).onward 1 ∧
    (∀ earlier, ((Cursor.atStart "a\n😀😀b".toList).positions (earlier ++ [8])).getLast?
      = some (((ofText "a\n😀😀b".toList).position 6).onward 1)) ∧
    (Text.byteLength "a\n😀😀b".toList < 2 ^ 32 →
      (ofText "a\n😀😀b".toList).position 6 < (ofText "a\n😀😀b".toList).position 8) :=
  ⟨by decide, position_inside (show "a\n😀😀b".toList = "a\n😀".toList ++ '😀' :: ['b'] by decide)
    (by decide) (by decide)⟩

end

/-- It is not true that an offset inside a character is taken as the place of the character, by an
index or by a cursor. -/
theorem not_forall_position_inside :
    (¬ ∀ (text front rest : List Char) (c : Char) (offset : Nat), text = front ++ c :: rest →
      Text.byteLength front < offset → offset < Text.byteLength front + c.utf8Size →
      (ofText text).position offset = (ofText text).position (Text.byteLength front)) ∧
    ¬ ∀ (text front rest : List Char) (c : Char) (offset : Nat) (earlier : List Nat),
      text = front ++ c :: rest →
      Text.byteLength front < offset → offset < Text.byteLength front + c.utf8Size →
      ((Cursor.atStart text).positions (earlier ++ [offset])).getLast?
        = some ((ofText text).position (Text.byteLength front)) := by
  have own : (ofText ['é']).position 0 = ⟨0, 0⟩ := by decide +kernel
  have inside : (ofText ['é']).position 1 = ⟨0, 1⟩ := by decide +kernel
  have moved : ((Cursor.atStart ['é']).positions [1]).getLast? = some ⟨0, 1⟩ := by decide +kernel
  refine ⟨fun claimed => ?_, fun claimed => ?_⟩
  · have same := claimed ['é'] [] [] 'é' 1 rfl (by decide) (by decide)
    rw [inside, Text.byteLength_nil, own] at same
    cases same
  · have same := claimed ['é'] [] [] 'é' 1 [] rfl (by decide) (by decide)
    rw [List.nil_append, moved, Text.byteLength_nil, own] at same
    cases same

end MessageRefs.LineIndex
