import MessageRefs.Proofs.Call.Transparency

/-!
**The accesses of a text, without a memo.**

A search keeps one memo for all the calls of a text. It finds what a search finds that keeps none.

* `Tail.behind?`, `Access.behind`: what is read behind a first part of a text, without a memo;
* `Access.search_passed`, `Access.search_discarded`, `Access.search_accepted`: what a search does at
  a place, and the same for `Access.behind`;
* `Access.parse_anchor_sound`: what is read behind an anchor does not depend on the memo;
* `Access.search_eq`, `Access.all_eq_behind`: neither does what a search finds.
-/

namespace MessageRefs

namespace Tail

/-- What is read behind `front`, without a memo. -/
def behind? (front rest : List Char) : Option Tail :=
  let path := Text.path rest
  if path.isEmpty || path.head? = some '.' then none
  else
    match rest.drop path.length with
    | '(' :: others => (Call.outcome [')'] 0 (front ++ path ++ ['(']) others).map (⟨path, ·⟩)
    | _ => some ⟨path, Text.byteLength (front ++ path)⟩

/-- With a sound memo, a path with its call is read as without one. -/
theorem parse_fst_eq {memo : Call.Memo} {front rest : List Char}
    (sound : memo.Sound (front ++ rest)) :
    (parse memo (Text.byteLength front) rest).1 = behind? front rest := by
  unfold parse behind?
  by_cases pathless : (Text.path rest).isEmpty || (Text.path rest).head? = some '.'
  · simp only [if_pos pathless]
  · simp only [if_neg pathless, ← Text.byteLength_append]
    by_cases called : (rest.drop (Text.path rest).length).head? = some '('
    · obtain ⟨others, begins⟩ := List.head?_eq_some_iff.mp called
      have whole : front ++ rest = (front ++ Text.path rest) ++ '(' :: others := by
        rw [List.append_assoc, ← begins, Text.path_append_drop]
      have answered := (Call.stop_sound whole sound).1
      rw [whole, Call.stopAt_empty_paren] at answered
      simp only [begins, List.head?_cons, if_true, answered]
    · simp only [if_neg called]
      split
      next others begins => exact absurd (by rw [begins, List.head?_cons]) called
      next => rfl

end Tail

namespace Access

/-- The accesses behind `front`, with the anchors from `resume` on tried, without a memo. -/
def behind (lead : List Char) (resume : Nat) (front : List Char) : List Char → List Access
  | [] => []
  | c :: rest =>
    if resume ≤ Text.byteLength front && Anchor.isAt lead front.getLast? (c :: rest) then
      match Tail.behind? (front ++ lead) ((c :: rest).drop lead.length) with
      | some tail => ⟨Text.byteLength front, tail⟩ :: behind lead tail.stop (front ++ [c]) rest
      | none => behind lead (Text.byteLength (front ++ lead)) (front ++ [c]) rest
    else behind lead resume (front ++ [c]) rest

/-! ### At one place -/

section Steps

variable {lead rest : List Char} {found : Array Access} {memo memo' : Call.Memo} {resume : Nat}
  {before : Option Char} {offset : Nat} {c : Char}

theorem search_passed
    (untried : ¬(resume ≤ offset ∧ Anchor.isAt lead before (c :: rest) = true)) :
    search lead found memo resume before offset (c :: rest)
      = search lead found memo resume (some c) (offset + c.utf8Size) rest := by
  rw [search, if_neg]
  rwa [Bool.and_eq_true, decide_eq_true_eq]

theorem search_discarded (resumes : resume ≤ offset)
    (isAt : Anchor.isAt lead before (c :: rest) = true)
    (parsed : Tail.parse memo (offset + Text.byteLength lead) ((c :: rest).drop lead.length)
      = (none, memo')) :
    search lead found memo resume before offset (c :: rest)
      = search lead found memo' (offset + Text.byteLength lead) (some c) (offset + c.utf8Size)
          rest := by
  rw [search, if_pos (by rw [isAt, decide_eq_true resumes, Bool.and_self])]
  simp only [parsed]

theorem search_accepted (resumes : resume ≤ offset)
    (isAt : Anchor.isAt lead before (c :: rest) = true) {tail : Tail}
    (parsed : Tail.parse memo (offset + Text.byteLength lead) ((c :: rest).drop lead.length)
      = (some tail, memo')) :
    search lead found memo resume before offset (c :: rest)
      = search lead (found.push ⟨offset, tail⟩) memo' tail.stop (some c) (offset + c.utf8Size)
          rest := by
  rw [search, if_pos (by rw [isAt, decide_eq_true resumes, Bool.and_self])]
  simp only [parsed]

variable {front : List Char}

theorem behind_passed (untried : ¬(resume ≤ Text.byteLength front ∧
      Anchor.isAt lead front.getLast? (c :: rest) = true)) :
    behind lead resume front (c :: rest) = behind lead resume (front ++ [c]) rest := by
  rw [behind, if_neg]
  rwa [Bool.and_eq_true, decide_eq_true_eq]

section Tried

variable (resumes : resume ≤ Text.byteLength front)
  (isAt : Anchor.isAt lead front.getLast? (c :: rest) = true)

include resumes isAt

theorem behind_discarded
    (read : Tail.behind? (front ++ lead) ((c :: rest).drop lead.length) = none) :
    behind lead resume front (c :: rest)
      = behind lead (Text.byteLength (front ++ lead)) (front ++ [c]) rest := by
  rw [behind, if_pos (by rw [isAt, decide_eq_true resumes, Bool.and_self])]
  simp only [read]

theorem behind_accepted {tail : Tail}
    (read : Tail.behind? (front ++ lead) ((c :: rest).drop lead.length) = some tail) :
    behind lead resume front (c :: rest)
      = ⟨Text.byteLength front, tail⟩ :: behind lead tail.stop (front ++ [c]) rest := by
  rw [behind, if_pos (by rw [isAt, decide_eq_true resumes, Bool.and_self])]
  simp only [read]

end Tried

/-- What is read behind an anchor does not depend on a sound memo, and leaves it sound. -/
theorem parse_anchor_sound (sound : memo.Sound (front ++ rest))
    (isAt : Anchor.isAt lead front.getLast? rest = true) :
    (Tail.parse memo (Text.byteLength front + Text.byteLength lead) (rest.drop lead.length)).1
        = Tail.behind? (front ++ lead) (rest.drop lead.length) ∧
      (Tail.parse memo (Text.byteLength front + Text.byteLength lead)
        (rest.drop lead.length)).2.Sound (front ++ rest) := by
  obtain ⟨⟨after, rfl⟩, -⟩ := Anchor.isAt_iff.mp isAt
  rw [← List.append_assoc] at sound ⊢
  rw [List.drop_left, ← Text.byteLength_append]
  exact ⟨Tail.parse_fst_eq sound, (Tail.parse_sound rfl sound).2⟩

end Steps

/-! ### The whole search -/

variable {lead : List Char}

/-- **A search with a sound memo finds what is found without one.** -/
theorem search_eq {front rest : List Char} {found : Array Access} {memo : Call.Memo}
    {resume : Nat} (sound : memo.Sound (front ++ rest)) :
    (search lead found memo resume front.getLast? (Text.byteLength front) rest).toList
      = found.toList ++ behind lead resume front rest := by
  induction rest generalizing found memo resume front with
  | nil => exact (List.append_nil _).symm
  | cons c rest ih =>
    have last : some c = (front ++ [c]).getLast? := List.getLast?_concat.symm
    have goesOn {found : Array Access} {memo : Call.Memo} {resume : Nat}
        (sound : memo.Sound (front ++ c :: rest)) :
        (search lead found memo resume (some c) (Text.byteLength front + c.utf8Size) rest).toList
          = found.toList ++ behind lead resume (front ++ [c]) rest := by
      rw [← Text.byteLength_concat, last]
      rw [List.append_cons] at sound
      exact ih sound
    by_cases tried : resume ≤ Text.byteLength front ∧
        Anchor.isAt lead front.getLast? (c :: rest) = true
    · obtain ⟨resumes, isAt⟩ := tried
      obtain ⟨read, sound'⟩ := parse_anchor_sound sound isAt
      rcases parsed : Tail.parse memo (Text.byteLength front + Text.byteLength lead)
          ((c :: rest).drop lead.length) with ⟨_ | tail, memo'⟩
      · rw [parsed] at read sound'
        rw [search_discarded resumes isAt parsed, goesOn sound',
          behind_discarded resumes isAt read.symm, Text.byteLength_append]
      · rw [parsed] at read sound'
        rw [search_accepted resumes isAt parsed, goesOn sound',
          behind_accepted resumes isAt read.symm, Array.toList_push, List.append_assoc,
          List.singleton_append]
    · rw [search_passed tried, goesOn sound, behind_passed tried]

/-- **The accesses of a text are those that are found without a memo.** -/
theorem all_eq_behind (lead text : List Char) (least : Nat) :
    all lead text least = behind lead least [] text := by
  have found := @search_eq lead [] text #[] .empty least .empty
  exact found

end Access

end MessageRefs
