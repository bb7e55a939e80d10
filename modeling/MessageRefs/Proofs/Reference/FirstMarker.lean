import MessageRefs.Proofs.Reference.Marker

/-!
**The offset of the first marker is the least at which one begins.**

* `Marker.Begins`: what begins at an offset is a marker of a configuration, in terms of the text;
* `Marker.passesAt_isAt_iff`: the test for a marker passes where a marker begins;
* `Marker.offset?_isLeast`: the search finds the least offset, whatever the configuration.
-/

namespace MessageRefs.Marker

/-- A marker of a configuration begins at an offset of a text. -/
inductive Begins (config : MatcherConfig) : List Char → Nat → Prop
  /-- A configured text occurs, other than the empty one. -/
  | literal {marker : String} {front after : List Char} :
      marker ∈ config.markers → marker.toList ≠ [] →
      Begins config (front ++ (marker.toList ++ after)) (Text.byteLength front)
  /-- The keyword of an import stands behind no identifier character, and in quotes behind blanks
  follows a name that a configured suffix stands for. -/
  | generated {suffix : String} {front blanks name after : List Char} {quote : Char} :
      suffix ∈ config.importSuffixes → (∀ c ∈ front.getLast?, Text.isIdentifierChar c = false) →
      IsNamedBy name blanks quote → StandsFor (Text.trim suffix.toList) name →
      Begins config (front ++ (keyword ++ (blanks ++ quote :: (name ++ quote :: after))))
        (Text.byteLength front)

/-- **The test for a marker passes exactly where a marker begins.** -/
theorem passesAt_isAt_iff {config : MatcherConfig} {text : List Char} {offset : Nat} :
    Text.PassesAt (isAt config) text offset ↔ Begins config text offset := by
  constructor
  · rintro ⟨front, rest, rfl, rfl, marked⟩
    rw [isAt, Bool.or_eq_true, isImportAt_iff, isLiteralAt_iff] at marked
    rcases marked with ⟨apart, blanks, quote, name, after, named, rfl, trimmed, member, stands⟩ |
      ⟨literal, member, filled, after, rfl⟩
    · obtain ⟨suffix, configured, rfl⟩ := List.mem_map.mp member
      exact .generated configured apart named stands
    · obtain ⟨marker, configured, rfl⟩ := List.mem_map.mp member
      exact .literal configured filled
  · intro begins
    cases begins with
    | @literal marker front after configured filled =>
      have marked := isLiteralAt_iff.mpr
        ⟨marker.toList, List.mem_map_of_mem configured, filled, List.prefix_append _ after⟩
      exact ⟨front, _, rfl, rfl, Bool.or_eq_true_iff.mpr (.inr marked)⟩
    | @generated suffix front blanks name after quote configured apart named stands =>
      have member := List.mem_map_of_mem (f := fun suffix => Text.trim suffix.toList) configured
      have marked := isImportAt_iff.mpr ⟨apart, blanks, quote, name, after, named, rfl,
        Text.trim suffix.toList, member, stands⟩
      exact ⟨front, _, rfl, rfl, Bool.or_eq_true_iff.mpr (.inl marked)⟩

/-- **The offset that is found is the least at which a marker begins**, and none is found if no
marker begins anywhere. The configuration need not be valid. -/
theorem offset?_isLeast (config : MatcherConfig) (text : List Char) :
    (∀ marker, offset? config text = some marker ↔
      IsLeast {offset | Begins config text offset} marker) ∧
    (offset? config text = none ↔ ∀ offset, ¬Begins config text offset) := by
  have places : Text.passing (isAt config) text 0 = {offset | Begins config text offset} := by
    ext offset
    exact ⟨fun passing => passesAt_isAt_iff.mp passing.2,
      fun begins => ⟨Nat.zero_le offset, passesAt_isAt_iff.mpr begins⟩⟩
  have finds : Text.Finds (offset? config text) {offset | Begins config text offset} := by
    rw [offset?_eq, ← places]
    exact Text.finds_firstPlace?
  exact ⟨finds, finds.eq_none_iff⟩

/-- An import behind a longer word that ends in the keyword, its name on the next line. -/
example :
    offset? {} "reimport 'strings.g.dart'; import\n\"app:strings.g.dart\"".toList = some 27 := by
  decide

end MessageRefs.Marker
