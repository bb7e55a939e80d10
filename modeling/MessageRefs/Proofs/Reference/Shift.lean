import Mathlib.Algebra.Group.Nat.Defs
import Mathlib.Data.List.Nodup
import MessageRefs.Proofs.Position.Resolve
import MessageRefs.Proofs.Reference.Selection

/-!
**What stands before the marker only shifts the references.**

A first part in front of a text moves every place of the text by its length. An anchor looks back
at one character and a lexeme of a call at two, and all of these stand behind the marker, so nothing
that is read there sees the first part. Of the positions, those on the first line move on by the
last line of the first part, and all move down by its line breaks.

* `Call.outcome_shift`, `Tail.parse_shift`: calls and tails behind a first part;
* `Matcher.isSelected_shift`: the selected anchors behind a first part;
* `LineIndex.position_shift`, `Position.behind_append`: positions behind a first part;
* `Matcher.locate_append_eq_map_shifted`: the references behind a first part are those of the text,
  shifted.
-/

namespace MessageRefs

/-! ### Calls -/

namespace Call

variable (first : List Char) {front : List Char}

/-- A lexeme depends on no more than the two characters before it. -/
theorem lexemeAt_shift (long : 2 ≤ front.length) (c : Char) (rest : List Char) :
    lexemeAt (first ++ front) c rest = lexemeAt front c rest := by
  have filled : front ≠ [] := List.ne_nil_of_length_pos (by omega)
  have filled' : front.dropLast ≠ [] :=
    List.ne_nil_of_length_pos (by rw [List.length_dropLast]; omega)
  rw [lexemeAt, lexemeAt, List.dropLast_append_of_ne_nil filled,
    List.getLast?_append_of_ne_nil _ filled, List.getLast?_append_of_ne_nil _ filled']

/-- **A pass behind a first part ends where it ends without it.** -/
theorem outcome_shift (long : 2 ≤ front.length) (closers : List Char) (skip : Nat)
    (rest : List Char) :
    outcome closers skip (first ++ front) rest
      = (outcome closers skip front rest).map (Text.byteLength first + ·) := by
  induction rest generalizing closers skip front with
  | nil => rfl
  | cons c rest ih =>
    have longer : 2 ≤ (front ++ [c]).length := by
      rw [List.length_append]
      omega
    cases skip with
    | succ skip => rw [outcome_skip, outcome_skip, List.append_assoc, ih longer]
    | zero =>
      have same := lexemeAt_shift first long c rest
      cases lexeme : lexemeAt front c rest with
      | opener closer =>
        rw [outcome_opener (same.trans lexeme), outcome_opener lexeme, List.append_assoc, ih longer]
      | skipped further =>
        rw [outcome_skipped (same.trans lexeme), outcome_skipped lexeme, List.append_assoc,
          ih longer]
      | unclosed =>
        rw [outcome_unclosed (same.trans lexeme), outcome_unclosed lexeme]
        rfl
      | closer =>
        by_cases matched : closers.head? = some c
        · obtain ⟨outer, rfl⟩ := List.head?_eq_some_iff.mp matched
          cases outer with
          | nil =>
            rw [outcome_last (same.trans lexeme), outcome_last lexeme, List.append_assoc,
              Text.byteLength_append]
            rfl
          | cons next others =>
            have waiting : next :: others ≠ [] := List.cons_ne_nil _ _
            rw [outcome_close (same.trans lexeme) waiting, outcome_close lexeme waiting,
              List.append_assoc, ih longer]
        · rw [outcome_mismatch (same.trans lexeme) matched, outcome_mismatch lexeme matched]
          rfl

theorem stop_shift (filled : front ≠ []) (rest : List Char) :
    (stop .empty (Text.byteLength (first ++ front)) rest).1
      = (stop .empty (Text.byteLength front) rest).1.map (Text.byteLength first + ·) := by
  by_cases parenthesis : rest.head? = some '('
  · obtain ⟨others, rfl⟩ := List.head?_eq_some_iff.mp parenthesis
    have long : 2 ≤ (front ++ ['(']).length := by
      have positive := List.length_pos_iff.mpr filled
      rw [List.length_append, List.length_singleton]
      omega
    rw [(stop_sound rfl Memo.Sound.empty).1, (stop_sound rfl Memo.Sound.empty).1,
      stopAt_empty_paren, stopAt_empty_paren, List.append_assoc, outcome_shift first long]
  · simp only [stop, if_neg parenthesis]
    rfl

end Call

/-! ### Tails -/

namespace Tail

/-- The same tail a number of bytes further on. -/
def shifted (bytes : Nat) (tail : Tail) : Tail :=
  ⟨tail.messageId, bytes + tail.stop⟩

/-- **A tail behind a first part is the tail without it, further on.** -/
theorem parse_shift (first front rest : List Char) :
    (parse .empty (Text.byteLength (first ++ front)) rest).1
      = (parse .empty (Text.byteLength front) rest).1.map (shifted (Text.byteLength first)) := by
  by_cases pathless : (Text.path rest).isEmpty || (Text.path rest).head? = some '.'
  · simp only [parse, if_pos pathless]
    rfl
  · have filled : front ++ Text.path rest ≠ [] := by
      rw [Bool.or_eq_true, List.isEmpty_iff, not_or] at pathless
      exact List.append_ne_nil_of_right_ne_nil _ pathless.1
    simp only [parse, if_neg pathless, ← Text.byteLength_append]
    by_cases called : (rest.drop (Text.path rest).length).head? = some '('
    · simp only [if_pos called]
      rw [List.append_assoc, Call.stop_shift first filled, Option.map_map, Option.map_map]
      rfl
    · simp only [if_neg called]
      rw [List.append_assoc, Text.byteLength_append first]
      rfl

end Tail

/-! ### Selected anchors -/

namespace Matcher

variable {matcher : Matcher} (first : List Char) {text : List Char} {marker start : Nat}
  {tail : Tail}

/-- A place behind the marker has a character before it, so the first part is not seen. -/
theorem isAcceptable_shift_place {front rest : List Char} :
    matcher.IsAcceptable (first ++ (front ++ rest)) (Text.byteLength first + marker)
        (Text.byteLength first + Text.byteLength front) tail ↔
      ∃ original, matcher.IsAcceptable (front ++ rest) marker (Text.byteLength front) original ∧
        original.shifted (Text.byteLength first) = tail := by
  have read : (Tail.parse .empty (Text.byteLength (first ++ front) + Text.byteLength matcher.lead)
        (rest.drop matcher.lead.length)).1
      = (Tail.parse .empty (Text.byteLength front + Text.byteLength matcher.lead)
          (rest.drop matcher.lead.length)).1.map (Tail.shifted (Text.byteLength first)) := by
    rw [← Text.byteLength_append, ← Text.byteLength_append, List.append_assoc, Tail.parse_shift]
  rw [← List.append_assoc, ← Text.byteLength_append, isAcceptable_iff, read,
    Option.map_eq_some_iff]
  simp only [isAcceptable_iff, Text.byteLength_append, Nat.add_lt_add_iff_left]
  constructor
  · rintro ⟨behind, isAt, original, found, rfl⟩
    have filled : front ≠ [] := by
      rintro rfl
      exact absurd behind (Nat.not_lt_zero marker)
    rw [List.getLast?_append_of_ne_nil first filled] at isAt
    exact ⟨original, ⟨behind, isAt, found⟩, rfl⟩
  · rintro ⟨original, ⟨behind, isAt, found⟩, rfl⟩
    have filled : front ≠ [] := by
      rintro rfl
      exact absurd behind (Nat.not_lt_zero marker)
    rw [List.getLast?_append_of_ne_nil first filled]
    exact ⟨behind, isAt, original, found, rfl⟩

theorem isAcceptable_shift :
    matcher.IsAcceptable (first ++ text) (Text.byteLength first + marker)
        (Text.byteLength first + start) tail ↔
      ∃ original, matcher.IsAcceptable text marker start original ∧
        original.shifted (Text.byteLength first) = tail := by
  constructor
  · intro acceptable
    obtain ⟨front, rest, split, reached⟩ := acceptable.occurs
    rw [List.append_assoc] at split
    obtain ⟨between, rfl, rfl⟩ := Text.split_le split (by omega)
    rw [Text.byteLength_append, Nat.add_left_cancel_iff] at reached
    subst reached
    exact (isAcceptable_shift_place first).mp acceptable
  · rintro ⟨original, acceptable, moved⟩
    obtain ⟨front, rest, rfl, rfl⟩ := acceptable.occurs
    rw [List.append_assoc] at acceptable ⊢
    exact (isAcceptable_shift_place first).mpr ⟨original, acceptable, moved⟩

/-- **The anchors selected behind a first part are those selected without it, further on.** -/
theorem isSelected_shift :
    matcher.IsSelected (first ++ text) (Text.byteLength first + marker)
        (Text.byteLength first + start) tail ↔
      ∃ original, matcher.IsSelected text marker start original ∧
        original.shifted (Text.byteLength first) = tail := by
  induction start using Nat.strong_induction_on generalizing tail with
  | _ start ih =>
    have clear_iff :
        (∀ earlier < Text.byteLength first + start, ∀ tail',
          matcher.IsSelected (first ++ text) (Text.byteLength first + marker) earlier tail' →
            tail'.stop ≤ Text.byteLength first + start) ↔
        ∀ earlier < start, ∀ tail', matcher.IsSelected text marker earlier tail' →
          tail'.stop ≤ start := by
      constructor
      · intro clear earlier before tail' selected
        have moved := (ih earlier before).mpr ⟨tail', selected, rfl⟩
        exact Nat.le_of_add_le_add_left (clear _ (by omega) _ moved)
      · intro clear earlier before tail' selected
        -- What is selected stands behind the marker, hence behind the first part.
        have behind := (isSelected_iff.mp selected).1.behind
        have atLeast : Text.byteLength first ≤ earlier := by omega
        obtain ⟨place, rfl⟩ := Nat.exists_eq_add_of_le atLeast
        obtain ⟨original', selected', rfl⟩ := (ih place (by omega)).mp selected
        exact Nat.add_le_add_left (clear place (by omega) original' selected') _
    rw [isSelected_iff, isAcceptable_shift]
    constructor
    · rintro ⟨⟨original, acceptable, rfl⟩, clear⟩
      exact ⟨original, isSelected_iff.mpr ⟨acceptable, clear_iff.mp clear⟩, rfl⟩
    · rintro ⟨original, selected, rfl⟩
      obtain ⟨acceptable, clear⟩ := isSelected_iff.mp selected
      exact ⟨⟨original, acceptable, rfl⟩, clear_iff.mpr clear⟩

end Matcher

/-! ### Accesses -/

namespace Access

/-- The same access a number of bytes further on. -/
def shifted (bytes : Nat) (access : Access) : Access :=
  ⟨bytes + access.start, access.tail.shifted bytes⟩

/-- Accesses in the order of their starts are determined by which they are. -/
theorem eq_of_mem_iff {accesses others : List Access}
    (ordered : accesses.Pairwise fun first second => first.start < second.start)
    (ordered' : others.Pairwise fun first second => first.start < second.start)
    (same : ∀ access, access ∈ accesses ↔ access ∈ others) : accesses = others := by
  have irreflexive : Std.Irrefl fun first second : Access => first.start < second.start :=
    ⟨fun access => Nat.lt_irrefl access.start⟩
  have permuted := (List.perm_ext_iff_of_nodup ordered.nodup ordered'.nodup).mpr same
  refine List.Perm.eq_of_pairwise ?_ ordered ordered' permuted
  intro first second _ _ before after
  exact absurd before (Nat.lt_asymm after)

end Access

theorem Matcher.all_shift (matcher : Matcher) (first text : List Char) (marker : Nat) :
    Access.all matcher.lead (first ++ text) (Text.byteLength first + marker + 1)
      = (Access.all matcher.lead text (marker + 1)).map
          (Access.shifted (Text.byteLength first)) := by
  refine Access.eq_of_mem_iff (matcher.all_pairwise _ _) ?_ fun access => ?_
  · rw [List.pairwise_map]
    refine (matcher.all_pairwise text marker).imp ?_
    intro earlier later before
    exact Nat.add_lt_add_left before _
  · rw [matcher.mem_all_iff, List.mem_map]
    constructor
    · intro selected
      have behind := (isSelected_iff.mp selected).1.behind
      obtain ⟨place, start⟩ := Nat.exists_eq_add_of_le
        (show Text.byteLength first ≤ access.start by omega)
      rw [start] at selected
      obtain ⟨original, selected', moved⟩ := (isSelected_shift first).mp selected
      refine ⟨⟨place, original⟩, (matcher.mem_all_iff text marker _).mpr selected', ?_⟩
      rw [Access.shifted, moved, ← start]
    · rintro ⟨original, member, rfl⟩
      have selected := (matcher.mem_all_iff text marker original).mp member
      exact (isSelected_shift first).mpr ⟨original.tail, selected, rfl⟩

/-! ### Positions -/

namespace Text

theorem lastLine_of_noBreak {text : List Char} (noBreak : '\n' ∉ text) : lastLine text = text := by
  have all := lastLine_append noBreak []
  rwa [List.nil_append] at all

/-- What stands before a line break is not on the last line. -/
theorem lastLine_append_of_mem {more : List Char} (broken : '\n' ∈ more) (front : List Char) :
    lastLine (front ++ more) = lastLine more := by
  obtain ⟨start, split, starts⟩ := exists_lineStart more
  rcases lineStart_cases starts with rfl | ⟨before, rfl⟩
  · rw [split, List.nil_append] at broken
    exact absurd broken (newline_notMem_lastLine more)
  · rw [split, ← List.append_assoc, lastLine_append (newline_notMem_lastLine more),
      ← List.append_assoc, lastLine_append_newline, List.nil_append, ← split]

end Text

namespace Position

/-- The same position behind a first part: further down by its line breaks, and on the first line
further on by what stands behind the last of them. -/
def shifted (first : List Char) (position : Position) : Position :=
  if position.line = 0 then
    ⟨first.count '\n', position.character + (Text.lastLine first).length⟩
  else ⟨position.line + first.count '\n', position.character⟩

/-- **Coordinates behind a first part are those without it, shifted.** -/
theorem behind_append {first front : List Char}
    (short : Text.byteLength (first ++ front) ≤ limit) :
    behind (first ++ front) = (behind front).shifted first := by
  have short' : Text.byteLength front ≤ limit := by
    rw [Text.byteLength_append] at short
    omega
  rw [behind_eq short, behind_eq short', shifted, List.count_append]
  by_cases broken : '\n' ∈ front
  · have lines : front.count '\n' ≠ 0 := fun zero => List.count_eq_zero.mp zero broken
    rw [if_neg lines, Text.lastLine_append_of_mem broken, Nat.add_comm]
  · have lines := List.count_eq_zero.mpr broken
    rw [if_pos lines, lines, Text.lastLine_append broken, Text.lastLine_of_noBreak broken,
      List.length_append, Nat.add_zero, Nat.add_comm (Text.lastLine first).length]

end Position

/-- An index of a longer text gives the shifted positions of the places behind its first part. -/
theorem LineIndex.position_shift {first text : List Char}
    (short : Text.byteLength (first ++ text) ≤ Position.limit) (offset : Nat) :
    (LineIndex.ofText (first ++ text)).position (Text.byteLength first + offset)
      = ((LineIndex.ofText text).position offset).shifted first := by
  have before : Text.upTo (Text.byteLength first + offset) (first ++ text)
      = first ++ Text.upTo offset text := by
    rw [Text.upTo_append text (Nat.le_add_right _ _), Nat.add_sub_cancel_left]
  have short' : Text.byteLength (first ++ Text.upTo offset text) ≤ Position.limit := by
    obtain ⟨after, whole⟩ := Text.upTo_leads offset text
    rw [← whole, ← List.append_assoc, Text.byteLength_append] at short
    omega
  rw [LineIndex.position_eq_behind, LineIndex.position_eq_behind, before,
    Position.behind_append short']

/-! ### References -/

/-- The same reference behind a first part. -/
def MessageReference.shifted (first : List Char) (reference : MessageReference) :
    MessageReference :=
  ⟨reference.messageId, ⟨reference.span.start.shifted first, reference.span.stop.shifted first⟩⟩

/-- An access that has been shifted is located where it was, shifted. -/
theorem Access.located_shifted {first text : List Char}
    (short : Text.byteLength (first ++ text) ≤ Position.limit) (access : Access) :
    (access.shifted (Text.byteLength first)).located (LineIndex.ofText (first ++ text))
      = (access.located (LineIndex.ofText text)).shifted first := by
  unfold located
  rw [Access.shifted, Tail.shifted, LineIndex.position_shift short, LineIndex.position_shift short]
  rfl

namespace Matcher

/-- **What stands before the marker only shifts the references.** If the marker of a text is still
the first one behind another text, every reference keeps its message id, and its positions move
down by the line breaks before them, on the first line also on by what stands behind the last. -/
theorem locate_append_eq_map_shifted (matcher : Matcher) (first text : String) {marker : Nat}
    (short : Text.byteLength first.toList + Text.byteLength text.toList < 2 ^ 32)
    (marked : Marker.offset? matcher.config text.toList = some marker)
    (marked' : Marker.offset? matcher.config (first ++ text).toList
      = some (Text.byteLength first.toList + marker)) :
    matcher.locate (first ++ text)
      = (matcher.locate text).map (MessageReference.shifted first.toList) := by
  have short' : Text.byteLength (first.toList ++ text.toList) ≤ Position.limit := by
    rw [Text.byteLength_append]
    exact Nat.le_of_lt_succ short
  rw [locate, locate, locateChars_eq_map marked, locateChars_eq_map marked', String.toList_append,
    all_shift, List.map_map, List.map_map]
  refine List.map_congr_left fun access _ => ?_
  exact access.located_shifted short'

set_option maxRecDepth 8000 in
/-- A first part that ends on the line of the marker, beyond ASCII, and a call over two lines. -/
theorem locate_append_eq_map_shifted_same_line :
    Matcher.locate (.ofValid ⟨"a.b", [], ["#"]⟩ rfl) "ü\nö #a.b.x(\n)+a.b.y"
        = [⟨"x", ⟨⟨1, 3⟩, ⟨2, 1⟩⟩⟩, ⟨"y", ⟨⟨2, 2⟩, ⟨2, 7⟩⟩⟩] ∧
      Matcher.locate (.ofValid ⟨"a.b", [], ["#"]⟩ rfl) ("ü\nö " ++ "#a.b.x(\n)+a.b.y")
        = (Matcher.locate (.ofValid ⟨"a.b", [], ["#"]⟩ rfl) "#a.b.x(\n)+a.b.y").map
            (MessageReference.shifted "ü\nö ".toList) := by
  refine ⟨?_, @locate_append_eq_map_shifted (.ofValid ⟨"a.b", [], ["#"]⟩ rfl) "ü\nö "
    "#a.b.x(\n)+a.b.y" 0 (by decide) (by decide +kernel) (by decide +kernel)⟩
  rw [@locate_eq_map_behind _ _ 6 (by decide +kernel)]
  decide +kernel

end Matcher

end MessageRefs
