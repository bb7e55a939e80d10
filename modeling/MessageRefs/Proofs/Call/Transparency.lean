import MessageRefs.Proofs.Call.Pass
import MessageRefs.Proofs.Text.Path
import MessageRefs.Reference

/-!
**The memo never changes an answer.**

One pass notes the answers for all the parentheses that it opens. Each is the answer of a pass that
starts there without a memo, because what happens to an inner delimiter does not depend on the
outer ones.

* `Memo.Sound`: every note is the answer without a memo;
* `Awaits`: the invariant of a pass, for the parentheses that are still open;
* `passAt_sound`: a pass keeps a memo sound;
* `Query.answerAll_empty_eq_map`: questions that share a memo are answered as if each had its own.
-/

namespace MessageRefs

namespace Call

/-! ### Sound memos -/

/-- A memo is sound when each of its notes is the answer without a memo. -/
def Memo.Sound (text : List Char) (memo : Memo) : Prop :=
  ∀ opened known, memo.get? opened = some known → known = (stopAt .empty text opened).1

namespace Memo.Sound

variable {text : List Char} {memo : Memo}

theorem empty : Sound text .empty := by
  intro opened known noted
  rw [Memo.get?_empty] at noted
  cases noted

theorem settle (sound : Sound text memo) {opened : Nat} {stop : Option Nat}
    (right : stop = (stopAt .empty text opened).1) : Sound text (memo.settle opened stop) := by
  intro other known noted
  rw [Memo.get?_settle] at noted
  by_cases same : opened = other
  · subst same
    rw [if_pos rfl] at noted
    cases noted
    exact right
  · rw [if_neg same] at noted
    exact sound other known noted

/-- Parentheses that are never closed can be noted as such. -/
theorem abandon (sound : Sound text memo) {stack : List Frame}
    (unclosed : ∀ frame ∈ stack, frame.closer = ')' → (stopAt .empty text frame.opened).1 = none) :
    Sound text (memo.abandon stack) := by
  unfold Memo.abandon
  induction stack generalizing memo with
  | nil => exact sound
  | cons frame outer ih =>
    rw [List.foldl_cons]
    refine ih ?_ fun other member => unclosed other (List.mem_cons_of_mem _ member)
    by_cases parenthesis : frame.closer = ')'
    · rw [if_pos parenthesis]
      exact sound.settle (unclosed frame List.mem_cons_self parenthesis).symm
    · rw [if_neg parenthesis]
      exact sound

end Memo.Sound

/-! ### The invariant of a pass -/

/-- Each open parenthesis is answered as by the part of the pass that its own closer ends: the
delimiters inside it count, those around it do not. -/
def Awaits (text : List Char) (stack : List Frame) (skip : Nat) (front rest : List Char) : Prop :=
  ∀ inner frame outer, stack = inner ++ frame :: outer → frame.closer = ')' →
    (stopAt .empty text frame.opened).1
      = outcome ((inner ++ [frame]).map Frame.closer) skip front rest

namespace Awaits

variable {text front rest : List Char} {stack : List Frame} {c : Char}

/-- If the pass fails whatever is open, every open parenthesis is answered with nothing. -/
theorem unclosed {skip : Nat} (awaits : Awaits text stack skip front rest)
    (fails : ∀ frame inner outer, stack = inner ++ frame :: outer →
      outcome ((inner ++ [frame]).map Frame.closer) skip front rest = none) :
    ∀ frame ∈ stack, frame.closer = ')' → (stopAt .empty text frame.opened).1 = none := by
  intro frame member parenthesis
  obtain ⟨inner, outer, parts⟩ := List.append_of_mem member
  rw [awaits inner frame outer parts parenthesis, fails frame inner outer parts]

/-- A step that leaves the open delimiters as they are keeps the invariant. -/
theorem step {skip skip' : Nat} (awaits : Awaits text stack skip front (c :: rest))
    (moves : ∀ closers, outcome closers skip front (c :: rest)
      = outcome closers skip' (front ++ [c]) rest) :
    Awaits text stack skip' (front ++ [c]) rest := by
  intro inner frame outer parts parenthesis
  rw [awaits inner frame outer parts parenthesis, moves]

theorem opener {closer : Char} (awaits : Awaits text stack 0 front (c :: rest))
    (whole : text = front ++ c :: rest) (opens : lexemeAt front c rest = .opener closer) :
    Awaits text (⟨closer, Text.byteLength front⟩ :: stack) 0 (front ++ [c]) rest := by
  intro inner frame outer parts parenthesis
  cases inner with
  | nil =>
    obtain ⟨rfl, rfl⟩ : Frame.mk closer (Text.byteLength front) = frame ∧ stack = outer := by
      simpa using parts
    have round : closer = ')' := parenthesis
    subst round
    have opened : c = '(' := by simpa [IsPair] using lexemeAt_eq_opener_iff.mp opens
    subst opened
    rw [whole]
    exact stopAt_empty_paren front rest
  | cons first others =>
    obtain ⟨rfl, rfl⟩ : Frame.mk closer (Text.byteLength front) = first ∧
        stack = others ++ frame :: outer := by
      simpa using parts
    rw [awaits others frame outer rfl parenthesis, outcome_opener opens]
    rfl

theorem closer {frame : Frame} (awaits : Awaits text (frame :: stack) 0 front (c :: rest))
    (closes : lexemeAt front c rest = .closer) (matched : frame.closer = c) :
    Awaits text stack 0 (front ++ [c]) rest := by
  intro inner other outer parts parenthesis
  rw [awaits (frame :: inner) other outer (by rw [parts]; rfl) parenthesis]
  subst matched
  exact outcome_close closes (by simp)

/-- The innermost parenthesis ends behind its closer. -/
theorem innermost {frame : Frame} (awaits : Awaits text (frame :: stack) 0 front (c :: rest))
    (closes : lexemeAt front c rest = .closer) (matched : frame.closer = c) (round : c = ')') :
    (stopAt .empty text frame.opened).1 = some (Text.byteLength (front ++ [c])) := by
  rw [awaits [] frame stack rfl (matched.trans round)]
  subst matched
  exact outcome_last closes

/-- Behind a closer that does not match the innermost delimiter, every pass fails. -/
theorem mismatch {frame : Frame} (awaits : Awaits text (frame :: stack) 0 front (c :: rest))
    (closes : lexemeAt front c rest = .closer) (different : frame.closer ≠ c) :
    ∀ other ∈ frame :: stack, other.closer = ')' →
      (stopAt .empty text other.opened).1 = none := by
  refine awaits.unclosed fun other inner outer parts => outcome_mismatch closes ?_
  have same : ((inner ++ [other]).map Frame.closer).head? = some frame.closer := by
    cases inner with
    | nil => cases parts; rfl
    | cons first others => cases parts; rfl
  rw [same]
  exact fun equal => different (Option.some.inj equal)

end Awaits

/-- **A pass keeps a memo sound.** -/
theorem passAt_sound {text : List Char} {memo : Memo} (sound : memo.Sound text)
    {stack : List Frame} {skip : Nat} {front rest : List Char} (whole : text = front ++ rest)
    (awaits : Awaits text stack skip front rest) :
    (passAt memo stack skip front rest).2.Sound text := by
  induction rest generalizing memo stack skip front with
  | nil => exact sound.abandon (awaits.unclosed fun _ _ _ _ => rfl)
  | cons c rest ih =>
    have longer : text = (front ++ [c]) ++ rest := by rw [whole, List.append_cons]
    cases skip with
    | succ skip =>
      rw [passAt_skip]
      exact ih sound longer (awaits.step fun closers => outcome_skip skip)
    | zero =>
      cases lexeme : lexemeAt front c rest with
      | opener closer =>
        rw [passAt_opener lexeme]
        exact ih sound longer (awaits.opener whole lexeme)
      | skipped further =>
        rw [passAt_skipped lexeme]
        exact ih sound longer (awaits.step fun closers => outcome_skipped lexeme)
      | unclosed =>
        rw [passAt_unclosed lexeme]
        exact sound.abandon (awaits.unclosed fun _ _ _ _ => outcome_unclosed lexeme)
      | closer =>
        cases stack with
        | nil =>
          rw [passAt_closer_nil lexeme]
          exact sound
        | cons frame outer =>
          rw [passAt_closer lexeme]
          by_cases matched : frame.closer = c
          · have settled : Memo.Sound text (if c = ')' then
                memo.settle frame.opened (some (Text.byteLength (front ++ [c]))) else memo) := by
              by_cases round : c = ')'
              · rw [if_pos round]
                exact sound.settle (awaits.innermost lexeme matched round).symm
              · rw [if_neg round]
                exact sound
            simp only [if_pos matched]
            by_cases outermost : outer.isEmpty
            · rw [if_pos outermost]
              exact settled
            · rw [if_neg outermost]
              exact ih settled longer (awaits.closer lexeme matched)
          · simp only [if_neg matched]
            exact sound.abandon (awaits.mismatch lexeme matched)

/-! ### Questions about one text -/

/-- A call is answered alike with a sound memo and without one, and the memo stays sound. -/
theorem stop_sound {text front rest : List Char} (whole : text = front ++ rest) {memo : Memo}
    (sound : memo.Sound text) :
    (stop memo (Text.byteLength front) rest).1 = (stopAt .empty text (Text.byteLength front)).1 ∧
      (stop memo (Text.byteLength front) rest).2.Sound text := by
  subst whole
  by_cases parenthesis : rest.head? = some '('
  · obtain ⟨others, rfl⟩ : ∃ others, rest = '(' :: others := List.head?_eq_some_iff.mp parenthesis
    cases noted : memo.get? (Text.byteLength front) with
    | some known =>
      simp only [stop, if_pos parenthesis, noted]
      exact ⟨sound _ known noted, sound⟩
    | none =>
      simp only [stop, if_pos parenthesis, noted, balance_start]
      refine ⟨?_, passAt_sound sound rfl fun inner frame outer parts => ?_⟩
      · rw [stopAt_empty_paren, passAt_fst, outcome_opener (lexemeAt_paren front others),
          List.map_nil]
      · simp at parts
  · simp only [stopAt, Text.after?_byteLength_append, stop, if_neg parenthesis]
    exact ⟨trivial, sound⟩

theorem stopAt_sound {text : List Char} {memo : Memo} (sound : memo.Sound text) (offset : Nat) :
    (stopAt memo text offset).1 = (stopAt .empty text offset).1 ∧
      (stopAt memo text offset).2.Sound text := by
  cases found : Text.after? offset text with
  | none =>
    simp only [stopAt, found]
    exact ⟨trivial, sound⟩
  | some rest =>
    obtain ⟨front, whole, rfl⟩ := Text.exists_front_of_after? found
    have same := stop_sound whole sound
    simp only [stopAt, found] at same ⊢
    exact same

end Call

namespace Tail

/-- A path with its call is read alike with a sound memo and without one. -/
theorem parse_sound {text front rest : List Char} (whole : text = front ++ rest)
    {memo : Call.Memo} (sound : memo.Sound text) :
    (parse memo (Text.byteLength front) rest).1 = (parse .empty (Text.byteLength front) rest).1 ∧
      (parse memo (Text.byteLength front) rest).2.Sound text := by
  by_cases pathless : (Text.path rest).isEmpty || (Text.path rest).head? = some '.'
  · simp only [parse, if_pos pathless]
    exact ⟨trivial, sound⟩
  · simp only [parse, if_neg pathless]
    by_cases called : (rest.drop (Text.path rest).length).head? = some '('
    · simp only [if_pos called]
      have split : text = (front ++ Text.path rest) ++ rest.drop (Text.path rest).length := by
        rw [List.append_assoc, Text.path_append_drop, whole]
      have answered := Call.stop_sound split sound
      have empty := Call.stop_sound split Call.Memo.Sound.empty
      rw [Text.byteLength_append] at answered empty
      exact ⟨by rw [answered.1, empty.1], answered.2⟩
    · simp only [if_neg called]
      exact ⟨trivial, sound⟩

theorem parseAt_sound {text : List Char} {memo : Call.Memo} (sound : memo.Sound text)
    (offset : Nat) :
    (parseAt memo text offset).1 = (parseAt .empty text offset).1 ∧
      (parseAt memo text offset).2.Sound text := by
  cases found : Text.after? offset text with
  | none =>
    simp only [parseAt, found]
    exact ⟨trivial, sound⟩
  | some rest =>
    obtain ⟨front, whole, rfl⟩ := Text.exists_front_of_after? found
    simp only [parseAt, found]
    exact parse_sound whole sound

end Tail

namespace Query

theorem answer_sound {text : List Char} {memo : Call.Memo} (sound : memo.Sound text)
    (query : Query) :
    (query.answer memo text).1 = (query.answer .empty text).1 ∧
      (query.answer memo text).2.Sound text := by
  cases query with
  | call offset =>
    have same := Call.stopAt_sound sound offset
    exact ⟨congrArg Finding.call same.1, same.2⟩
  | path offset =>
    have same := Tail.parseAt_sound sound offset
    exact ⟨congrArg Finding.path same.1, same.2⟩

theorem answerAll_cons (memo : Call.Memo) (text : List Char) (query : Query)
    (others : List Query) :
    answerAll memo text (query :: others)
      = (query.answer memo text).1 :: answerAll (query.answer memo text).2 text others := rfl

/-- Questions that share a sound memo are answered as if each had an empty one. -/
theorem answerAll_of_sound {text : List Char} {memo : Call.Memo} (sound : memo.Sound text)
    (queries : List Query) :
    answerAll memo text queries = queries.map fun query => (query.answer .empty text).1 := by
  induction queries generalizing memo with
  | nil => rfl
  | cons query others ih =>
    have same := query.answer_sound sound
    rw [answerAll_cons, List.map_cons, ih same.2, same.1]

/-- **The memo is transparent.** Questions about one text that share a memo, in any order and with
repetitions, are answered as if each had an empty memo of its own. -/
theorem answerAll_empty_eq_map (text : List Char) (queries : List Query) :
    answerAll .empty text queries = queries.map fun query => (query.answer .empty text).1 :=
  answerAll_of_sound Call.Memo.Sound.empty queries

end Query

end MessageRefs
