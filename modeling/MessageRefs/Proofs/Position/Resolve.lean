import MessageRefs.Proofs.Position.Coordinates

/-!
**From positions back to offsets.**

A position is resolved by taking its line and skipping its characters there. In a text that is short
enough for its coordinates to stay below the limit, this leads back to the place a position belongs
to, and positions are in the order of their places.

* `Position.resolve`, `Span.slice?`: the offset of a position and the text between two;
* `Position.resolve_behind`: a place is found again from its coordinates;
* `Position.behind_lt`: a place further on has the greater position.
-/

namespace MessageRefs

namespace Text

/-! ### Lines and slices of a text -/

/-- The first lines of a text with the line breaks that end them. -/
def firstLines : Nat → List Char → List Char
  | 0, _ => []
  | _ + 1, [] => []
  | lines + 1, c :: rest =>
    c :: if c = '\n' then firstLines lines rest else firstLines (lines + 1) rest

/-- The text from one offset up to another; there is none if the second is below the first, or if
one of them is past the end or inside a character. -/
def slice? (start stop : Nat) (text : List Char) : Option (List Char) := do
  let behind ← after? start text
  let after ← after? stop text
  if start ≤ stop then some (behind.take (behind.length - after.length)) else none

theorem slice?_eq_some (front part after : List Char) :
    slice? (byteLength front) (byteLength (front ++ part)) (front ++ part ++ after)
      = some part := by
  have ordered : byteLength front ≤ byteLength (front ++ part) := by
    rw [byteLength_append]
    omega
  have behind : after? (byteLength front) (front ++ part ++ after) = some (part ++ after) := by
    rw [List.append_assoc, after?_byteLength_append]
  unfold slice?
  rw [behind, after?_byteLength_append]
  simp only [Option.bind_eq_bind, Option.bind_some, if_pos ordered, List.length_append,
    Nat.add_sub_cancel, List.take_left]

theorem lineStart_cases {front : List Char} (starts : lastLine front = []) :
    front = [] ∨ ∃ before, front = before ++ ['\n'] := by
  cases front using List.reverseRecOn with
  | nil => exact .inl rfl
  | append_singleton before c =>
    by_cases newline : c = '\n'
    · exact .inr ⟨before, by rw [newline]⟩
    · rw [lastLine_append (newline_notMem_singleton newline)] at starts
      exact absurd starts (List.append_ne_nil_of_right_ne_nil _ (List.cons_ne_nil _ _))

theorem firstLines_append_newline (front rest : List Char) :
    firstLines (front.count '\n' + 1) (front ++ '\n' :: rest) = front ++ ['\n'] := by
  induction front with
  | nil => rw [List.nil_append, List.count_nil, firstLines, if_pos rfl, firstLines, List.nil_append]
  | cons c others ih =>
    rw [List.cons_append, firstLines]
    by_cases newline : c = '\n'
    · rw [if_pos newline, newline, List.count_cons_self, ih, List.cons_append]
    · rw [if_neg newline, List.count_cons_of_ne newline, ih, List.cons_append]

/-- The lines before the start of a line are those of its number. -/
theorem firstLines_lineStart {front : List Char} (starts : lastLine front = [])
    (rest : List Char) : firstLines (front.count '\n') (front ++ rest) = front := by
  rcases lineStart_cases starts with rfl | ⟨before, rfl⟩
  · rw [List.count_nil, firstLines]
  · have count : (before ++ ['\n']).count '\n' = before.count '\n' + 1 := by
      rw [List.count_append]
      rfl
    rw [count, List.append_assoc, List.singleton_append, firstLines_append_newline]

end Text

namespace Position

/-- The offset of a position: that of its line, and behind it the characters to skip. -/
def resolve (position : Position) (text : List Char) : Nat :=
  let before := Text.firstLines position.line text
  Text.byteLength before
    + Text.byteLength ((text.drop before.length).take position.character)

variable {front rest : List Char}

theorem coordinates_le (front : List Char) :
    front.count '\n' ≤ Text.byteLength front ∧
      (Text.lastLine front).length ≤ Text.byteLength front := by
  have few := Text.length_le_byteLength front
  obtain ⟨start, split, -⟩ := Text.exists_lineStart front
  have total := congrArg List.length split
  rw [List.length_append] at total
  exact ⟨Nat.le_trans List.count_le_length few, by omega⟩

/-- Below the limit, coordinates are kept as they are. -/
theorem behind_eq (short : Text.byteLength front ≤ limit) :
    behind front = ⟨front.count '\n', (Text.lastLine front).length⟩ := by
  obtain ⟨lines, characters⟩ := coordinates_le front
  rw [behind, saturated, Nat.min_eq_left (by omega), Nat.min_eq_left (by omega)]

/-- **A place is found again from its coordinates.** -/
theorem resolve_behind {text : List Char} (split : text = front ++ rest)
    (short : Text.byteLength front ≤ limit) :
    (behind front).resolve text = Text.byteLength front := by
  subst split
  obtain ⟨start, split, starts⟩ := Text.exists_lineStart front
  have count : front.count '\n' = start.count '\n' := by
    have total := congrArg (List.count '\n') split
    rwa [List.count_append, List.count_eq_zero.mpr (Text.newline_notMem_lastLine front),
      Nat.add_zero] at total
  have whole : front ++ rest = start ++ (Text.lastLine front ++ rest) := by
    rw [← List.append_assoc, ← split]
  rw [behind_eq short, resolve, count, whole, Text.firstLines_lineStart starts, List.drop_left,
    List.take_left, ← Text.byteLength_append, ← split]

/-- **A place further on has the greater position.** -/
theorem behind_lt {more : List Char} (filled : more ≠ [])
    (short : Text.byteLength (front ++ more) ≤ limit) : behind front < behind (front ++ more) := by
  have short' : Text.byteLength front ≤ limit := by
    rw [Text.byteLength_append] at short
    omega
  rw [behind_eq short', behind_eq short]
  by_cases noBreak : '\n' ∉ more
  · refine .inr ⟨?_, ?_⟩
    · rw [List.count_append, List.count_eq_zero.mpr noBreak, Nat.add_zero]
    · have positive := List.length_pos_iff.mpr filled
      rw [Text.lastLine_append noBreak, List.length_append]
      exact Nat.lt_add_of_pos_right positive
  · refine .inl ?_
    have positive := List.count_pos_iff.mpr (not_not.mp noBreak)
    rw [List.count_append]
    exact Nat.lt_add_of_pos_right positive

theorem behind_le {more : List Char} (short : Text.byteLength (front ++ more) ≤ limit) :
    behind front ≤ behind (front ++ more) := by
  cases more with
  | nil =>
    rw [List.append_nil]
    exact .inr ⟨rfl, Nat.le_refl _⟩
  | cons c others =>
    rcases behind_lt (List.cons_ne_nil c others) short with line | ⟨line, character⟩
    · exact .inl line
    · exact .inr ⟨line, Nat.le_of_lt character⟩

/-- Over characters of the same line, a position moves on by their number. -/
theorem onward_behind {more : List Char} (noBreak : '\n' ∉ more) :
    (behind front).onward more.length = behind (front ++ more) := by
  have column : min (min (Text.lastLine front).length limit + more.length) limit
      = min ((Text.lastLine front).length + more.length) limit := by
    omega
  rw [behind, behind, onward, saturated, saturated, List.count_append,
    List.count_eq_zero.mpr noBreak, Nat.add_zero, Text.lastLine_append noBreak, List.length_append,
    column]

/-! ### Counting from one -/

/-- A position counted from zero that is given counted from one. -/
def zeroBased (position : Position) : Position :=
  ⟨position.line - 1, position.character - 1⟩

theorem zeroBased_oneBased {position : Position} (line : position.line < limit)
    (character : position.character < limit) : position.oneBased.zeroBased = position := by
  rw [oneBased, saturated, zeroBased, Nat.min_eq_left line, Nat.min_eq_left character]
  rfl

theorem oneBased_lt {first second : Position} (line : second.line < limit)
    (character : second.character < limit) (less : first < second) :
    first.oneBased < second.oneBased := by
  unfold oneBased saturated
  rw [Nat.min_eq_left line, Nat.min_eq_left character]
  rcases less with earlier | ⟨same, before⟩
  · refine .inl (Nat.lt_of_le_of_lt (Nat.min_le_left _ _) (Nat.succ_lt_succ earlier))
  · refine .inr ⟨?_, Nat.lt_of_le_of_lt (Nat.min_le_left _ _) (Nat.succ_lt_succ before)⟩
    show min (first.line + 1) limit = second.line + 1
    rw [same, Nat.min_eq_left line]

theorem behind_lt_limit (short : Text.byteLength front < limit) :
    (behind front).line < limit ∧ (behind front).character < limit := by
  obtain ⟨lines, characters⟩ := coordinates_le front
  rw [behind_eq (Nat.le_of_lt short)]
  exact ⟨Nat.lt_of_le_of_lt lines short, Nat.lt_of_le_of_lt characters short⟩

end Position

namespace Span

/-- A span counted from zero that is given counted from one. -/
def zeroBased (span : Span) : Span :=
  ⟨span.start.zeroBased, span.stop.zeroBased⟩

theorem zeroBased_oneBased_behind {front part : List Char}
    (short : Text.byteLength (front ++ part) < Position.limit) :
    zeroBased (oneBased ⟨.behind front, .behind (front ++ part)⟩)
      = ⟨.behind front, .behind (front ++ part)⟩ := by
  have short' : Text.byteLength front < Position.limit := by
    rw [Text.byteLength_append] at short
    omega
  obtain ⟨line, character⟩ := Position.behind_lt_limit short'
  obtain ⟨line', character'⟩ := Position.behind_lt_limit short
  rw [oneBased, zeroBased, Position.zeroBased_oneBased line character,
    Position.zeroBased_oneBased line' character']

/-- The text that a span covers, its ends resolved against the lines of the text. -/
def slice? (span : Span) (text : List Char) : Option (List Char) :=
  Text.slice? (span.start.resolve text) (span.stop.resolve text) text

/-- The span between the ends of a part covers the part. -/
theorem slice?_behind {text front part after : List Char} (split : text = front ++ part ++ after)
    (short : Text.byteLength (front ++ part) ≤ Position.limit) :
    slice? ⟨.behind front, .behind (front ++ part)⟩ text = some part := by
  have short' : Text.byteLength front ≤ Position.limit := by
    rw [Text.byteLength_append] at short
    omega
  have split' : text = front ++ (part ++ after) := by rw [split, List.append_assoc]
  rw [slice?, Position.resolve_behind split' short', Position.resolve_behind split short, split]
  exact Text.slice?_eq_some front part after

end Span

end MessageRefs
