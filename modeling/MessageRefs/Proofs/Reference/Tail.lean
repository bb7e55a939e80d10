import MessageRefs.Proofs.Call.Acceptance
import MessageRefs.Proofs.Call.Transparency

/-!
**What stands behind an anchor.**

* `Tail.exists_call_of_parse`: a tail that is read is a path, and a call of the grammar if any;
* `Tail.parse_append`: path characters in front of a tail make a longer tail that ends alike.
-/

namespace MessageRefs.Tail

variable {front rest : List Char} {tail : Tail}

theorem parseAt_byteLength (memo : Call.Memo) (front rest : List Char) :
    parseAt memo (front ++ rest) (Text.byteLength front)
      = parse memo (Text.byteLength front) rest := by
  rw [parseAt, Text.after?_byteLength_append]

/-- A tail is read when there is a path, and when the call behind it, if any, ends. -/
theorem parse_eq_some_iff {offset : Nat} :
    (parse .empty offset rest).1 = some tail ↔
      Text.path rest ≠ [] ∧ (Text.path rest).head? ≠ some '.' ∧
        tail.messageId = Text.path rest ∧
        (if (rest.drop (Text.path rest).length).head? = some '(' then
          (Call.stop .empty (offset + Text.byteLength (Text.path rest))
            (rest.drop (Text.path rest).length)).1 = some tail.stop
        else offset + Text.byteLength (Text.path rest) = tail.stop) := by
  rcases tail with ⟨messageId, stop⟩
  unfold parse
  by_cases pathless : (Text.path rest).isEmpty || (Text.path rest).head? = some '.'
  · simp only [if_pos pathless]
    rw [Bool.or_eq_true, List.isEmpty_iff, decide_eq_true_eq] at pathless
    constructor
    · intro none
      cases none
    · rintro ⟨filled, noDot, -⟩
      rcases pathless with empty | dot
      · exact absurd empty filled
      · exact absurd dot noDot
  · simp only [if_neg pathless]
    rw [Bool.or_eq_true, List.isEmpty_iff, decide_eq_true_eq, not_or] at pathless
    by_cases called : (rest.drop (Text.path rest).length).head? = some '('
    · simp only [if_pos called, Option.map_eq_some_iff, Tail.mk.injEq]
      constructor
      · rintro ⟨ends, found, rfl, rfl⟩
        exact ⟨pathless.1, pathless.2, rfl, found⟩
      · rintro ⟨-, -, rfl, found⟩
        exact ⟨stop, found, rfl, rfl⟩
    · simp only [if_neg called, Option.some.injEq, Tail.mk.injEq]
      constructor
      · rintro ⟨rfl, rfl⟩
        exact ⟨pathless.1, pathless.2, rfl, rfl⟩
      · rintro ⟨-, -, rfl, rfl⟩
        exact ⟨rfl, rfl⟩

/-- **A tail that is read is a path, and a call of the grammar if any.** -/
theorem exists_call_of_parse (read : (parse .empty (Text.byteLength front) rest).1 = some tail) :
    tail.messageId ≠ [] ∧ ∃ call after, rest = tail.messageId ++ call ++ after ∧
      tail.stop = Text.byteLength (front ++ tail.messageId ++ call) ∧
      (call = [] ∨ Grammar.Derives .call (front ++ tail.messageId) call after) := by
  obtain ⟨filled, -, path, ending⟩ := parse_eq_some_iff.mp read
  have split := Text.path_append_drop rest
  rw [← path] at filled split ending
  refine ⟨filled, ?_⟩
  generalize rest.drop tail.messageId.length = behind at *
  subst split
  by_cases called : behind.head? = some '('
  · rw [if_pos called, ← Text.byteLength_append] at ending
    have found : (Call.stopAt .empty (front ++ tail.messageId ++ behind)
        (Text.byteLength (front ++ tail.messageId))).1 = some tail.stop := by
      rw [Call.stopAt, Text.after?_byteLength_append]
      exact ending
    obtain ⟨front', call, after, same, start, stop, derives⟩ :=
      Grammar.stopAt_empty_eq_some_iff.mp found
    rw [List.append_assoc front'] at same
    obtain ⟨rfl, rfl⟩ := Text.split_unique same start.symm
    exact ⟨call, after, by rw [List.append_assoc], stop.symm, .inr derives⟩
  · rw [if_neg called] at ending
    refine ⟨[], behind, by rw [List.append_nil], ?_, .inl rfl⟩
    rw [← ending, List.append_nil, Text.byteLength_append]

theorem lt_stop_of_parse (read : (parse .empty (Text.byteLength front) rest).1 = some tail) :
    Text.byteLength front < tail.stop := by
  obtain ⟨filled, call, after, -, stop, -⟩ := exists_call_of_parse read
  have positive := Text.byteLength_pos filled
  rw [stop, Text.byteLength_append, Text.byteLength_append]
  omega

/-- **Path characters in front of a tail make a longer tail that ends alike.** -/
theorem parse_append {first : List Char} (characters : ∀ c ∈ first, Text.isPathChar c = true)
    (noDot : first.head? ≠ some '.')
    (read : (parse .empty (Text.byteLength (front ++ first)) rest).1 = some tail) :
    (parse .empty (Text.byteLength front) (first ++ rest)).1
      = some ⟨first ++ tail.messageId, tail.stop⟩ := by
  obtain ⟨filled, noDot', path, ending⟩ := parse_eq_some_iff.mp read
  have longer := Text.path_append characters filled
  have behind : (first ++ rest).drop (Text.path (first ++ rest)).length
      = rest.drop (Text.path rest).length := by
    rw [longer, List.length_append, List.drop_append]
    simp
  have reach : Text.byteLength front + Text.byteLength (Text.path (first ++ rest))
      = Text.byteLength (front ++ first) + Text.byteLength (Text.path rest) := by
    rw [longer, Text.byteLength_append, Text.byteLength_append]
    omega
  refine parse_eq_some_iff.mpr ⟨?_, ?_, ?_, ?_⟩
  · rw [longer]
    exact fun empty => filled (List.append_eq_nil_iff.mp empty).2
  · rw [longer]
    cases first with
    | nil => exact noDot'
    | cons c others => exact noDot
  · rw [longer, path]
  · rw [behind, reach]
    exact ending

end MessageRefs.Tail
