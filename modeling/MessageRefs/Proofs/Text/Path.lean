import MessageRefs.Text.CharClass

/-!
**The path at the front of a text.**

* `path_append_drop`: a text is its path and what stands behind it;
* `isPathChar_of_mem_path`: a path holds path characters only;
* `path_append`: path characters in front of a path belong to it;
* `IsPath.path_append`: a path is read whole where no path character follows it.
-/

namespace MessageRefs.Text

/-! ### Dropping characters at the back -/

theorem dropBack_leads (drops : Char → Bool) (text : List Char) :
    dropBack drops text <+: text := by
  have suffix : (text.reverse.dropWhile drops).reverse.reverse <:+ text.reverse := by
    rw [List.reverse_reverse]
    exact List.dropWhile_suffix drops
  exact List.reverse_suffix.mp suffix

/-- Where something is left of a second part, all of the first part is left. -/
theorem dropBack_append {drops : Char → Bool} {second : List Char}
    (left : dropBack drops second ≠ []) (first : List Char) :
    dropBack drops (first ++ second) = first ++ dropBack drops second := by
  have kept : (second.reverse.dropWhile drops).isEmpty = false := by
    simpa [dropBack] using left
  rw [dropBack, List.reverse_append, List.dropWhile_append, kept]
  simp [dropBack]

theorem dropBack_of_getLast? {drops : Char → Bool} {text : List Char}
    (kept : ∀ c ∈ text.getLast?, drops c = false) : dropBack drops text = text := by
  have unchanged : text.reverse.dropWhile drops = text.reverse := by
    rw [List.getLast?_eq_head?_reverse] at kept
    cases reversed : text.reverse with
    | nil => rfl
    | cons c others =>
      rw [reversed] at kept
      exact List.dropWhile_cons_of_neg (by simp [kept c rfl])
  rw [dropBack, unchanged, List.reverse_reverse]

/-! ### Paths -/

theorem path_leads (text : List Char) : path text <+: text :=
  (dropBack_leads _ _).trans (List.takeWhile_prefix isPathChar)

theorem path_append_drop (text : List Char) :
    path text ++ text.drop (path text).length = text :=
  List.prefix_iff_eq_append.mp (path_leads text)

theorem isPathChar_of_mem_path {text : List Char} {c : Char} (member : c ∈ path text) :
    isPathChar c = true := by
  have inRun : c ∈ text.takeWhile isPathChar := (dropBack_leads _ _).subset member
  exact List.all_eq_true.mp List.all_takeWhile c inRun

/-- **Path characters in front of a path belong to it.** -/
theorem path_append {first second : List Char} (characters : ∀ c ∈ first, isPathChar c = true)
    (pathed : path second ≠ []) : path (first ++ second) = first ++ path second := by
  rw [path, List.takeWhile_append_of_pos characters]
  exact dropBack_append pathed first

/-- A path: path characters, neither the first nor the last of them a dot. -/
structure IsPath (path : List Char) : Prop where
  filled : path ≠ []
  characters : ∀ c ∈ path, isPathChar c = true
  head : path.head? ≠ some '.'
  last : path.getLast? ≠ some '.'

/-- A path is read whole where no path character follows it. -/
theorem IsPath.path_append {first after : List Char} (isPath : IsPath first)
    (stops : ∀ c ∈ after.head?, isPathChar c = false) : path (first ++ after) = first := by
  have run : (first ++ after).takeWhile isPathChar = first := by
    rw [List.takeWhile_append_of_pos isPath.characters]
    cases after with
    | nil => rw [List.takeWhile_nil, List.append_nil]
    | cons c rest => rw [List.takeWhile_cons_of_neg (by simp [stops c rfl]), List.append_nil]
  have kept : ∀ c ∈ first.getLast?, (c == '.') = false := by
    intro c last
    rw [beq_eq_false_iff_ne]
    rintro rfl
    exact isPath.last last
  rw [path, run, dropBack_of_getLast? kept]

end MessageRefs.Text
