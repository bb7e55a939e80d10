import MessageRefs.Proofs.Call.Course
import MessageRefs.Proofs.Call.Transparency
import Mathlib.Tactic.Tauto

/-!
**A pass settles the parentheses that it reads in code.**

A closer settles the parenthesis that it closes, and a pass that fails settles all that are open. So
behind a pass that began with an empty memo, no parenthesis that it has read in code is left
unsettled, however the pass ended, and no other offset is settled.

* `Memo.IsSettled`, `IsOpen`: what a memo tells of a parenthesis, and what a pass has still to say;
* `isSettled_passAt_iff`: what is settled behind a pass was settled before, was open before, or is a
  parenthesis that the pass meets in code;
* `stopAt_empty_settles`: a pass without a memo settles exactly the parentheses that it reads in
  code, each with the answer that it has on its own.
-/

namespace MessageRefs

namespace Call

/-- A memo tells something about the parenthesis at an offset. -/
def Memo.IsSettled (memo : Memo) (offset : Nat) : Prop :=
  ∃ known, memo.get? offset = some known

/-- The parenthesis at an offset is among the open delimiters. -/
def IsOpen (stack : List Frame) (offset : Nat) : Prop :=
  ∃ frame ∈ stack, frame.closer = ')' ∧ frame.opened = offset

section Memo

variable {memo : Memo} {stack : List Frame} {frame : Frame} {offset : Nat}

theorem not_isSettled_empty : ¬Memo.empty.IsSettled offset := by
  rintro ⟨known, noted⟩
  rw [Memo.get?_empty] at noted
  cases noted

theorem isSettled_settle_iff {opened : Nat} {stop : Option Nat} :
    (memo.settle opened stop).IsSettled offset ↔ opened = offset ∨ memo.IsSettled offset := by
  unfold Memo.IsSettled
  rw [Memo.get?_settle]
  by_cases same : opened = offset
  · simp [same]
  · simp [same]

theorem not_isOpen_nil : ¬IsOpen [] offset := by
  rintro ⟨frame, member, -⟩
  cases member

theorem isOpen_cons_iff : IsOpen (frame :: stack) offset ↔
    frame.closer = ')' ∧ frame.opened = offset ∨ IsOpen stack offset := by
  simp only [IsOpen, List.mem_cons, or_and_right, exists_or, exists_eq_left]

/-- A closer settles the delimiter that it closes if that is a parenthesis. -/
theorem isSettled_closed_iff {stop : Option Nat} :
    (if frame.closer = ')' then memo.settle frame.opened stop else memo).IsSettled offset ↔
      frame.closer = ')' ∧ frame.opened = offset ∨ memo.IsSettled offset := by
  by_cases round : frame.closer = ')'
  · rw [if_pos round, isSettled_settle_iff]
    tauto
  · rw [if_neg round]
    tauto

/-- A pass that fails settles what is open. -/
theorem isSettled_abandon_iff :
    (memo.abandon stack).IsSettled offset ↔ IsOpen stack offset ∨ memo.IsSettled offset := by
  unfold Memo.abandon
  induction stack generalizing memo with
  | nil => exact (or_iff_right not_isOpen_nil).symm
  | cons frame outer ih =>
    rw [List.foldl_cons, ih, isOpen_cons_iff, isSettled_closed_iff]
    tauto

end Memo

end Call

namespace Grammar

open Call Relation

/-! ### What a pass meets -/

/-- A pass that goes on from somewhere in code comes to stand before the parenthesis at an offset. -/
def Meets (standing : Standing) (offset : Nat) : Prop :=
  ∃ later, ReflTransGen Move standing later ∧ later.IsBefore offset

section Meets

variable {closers front rest : List Char} {c : Char} {standing next : Standing} {offset : Nat}

/-- A pass meets the parenthesis that it stands before, and those that it meets after one move. -/
theorem meets_iff_of_move (move : Move standing next) :
    Meets standing offset ↔ standing.IsBefore offset ∨ Meets next offset := by
  constructor
  · rintro ⟨later, run, before⟩
    rcases run.cases_head with rfl | ⟨next', move', others⟩
    · exact .inl before
    · rw [move'.unique move] at others
      exact .inr ⟨later, others, before⟩
  · rintro (before | ⟨later, run, before⟩)
    · exact ⟨standing, .refl, before⟩
    · exact ⟨later, .head move run, before⟩

theorem not_meets_of_stuck (stuck : ∀ next, ¬Move standing next)
    (elsewhere : ¬standing.IsBefore offset) : ¬Meets standing offset := by
  rintro ⟨later, run, before⟩
  rcases run.cases_head with rfl | ⟨next, move, -⟩
  · exact elsewhere before
  · exact stuck next move

/-- At a parenthesis an opening delimiter is read. -/
theorem not_isBefore (noOpener : ∀ closing, lexemeAt front c rest ≠ .opener closing) :
    ¬Standing.IsBefore ⟨closers, front, c :: rest⟩ offset := by
  rintro ⟨parenthesis, -⟩
  cases parenthesis
  exact noOpener ')' (lexemeAt_paren front rest)

theorem meets_opener {closing : Char} (opens : lexemeAt front c rest = .opener closing) :
    Meets ⟨closers, front, c :: rest⟩ offset ↔
      closing = ')' ∧ Text.byteLength front = offset ∨
        Meets ⟨closing :: closers, front ++ [c], rest⟩ offset := by
  have pair := lexemeAt_eq_opener_iff.mp opens
  have round : c = '(' ↔ closing = ')' := by
    rcases isPair_iff.mp pair with ⟨rfl, rfl⟩ | ⟨rfl, rfl⟩ | ⟨rfl, rfl⟩ <;> decide
  rw [meets_iff_of_move (.opening pair), Standing.IsBefore, List.head?_cons, Option.some.injEq,
    round]

theorem meets_piece {part after : List Char} (piece : IsPiece front (c :: part) after) :
    Meets ⟨closers, front, c :: (part ++ after)⟩ offset ↔
      Meets ⟨closers, front ++ c :: part, after⟩ offset := by
  have move : Move ⟨closers, front, c :: (part ++ after)⟩ ⟨closers, front ++ c :: part, after⟩ :=
    .piece rfl piece
  rw [meets_iff_of_move move]
  exact or_iff_right (not_isBefore (by simp [piece.lexemeAt]))

theorem meets_close {outer : List Char} (closes : lexemeAt front c rest = .closer)
    (more : outer ≠ []) :
    Meets ⟨c :: outer, front, c :: rest⟩ offset ↔ Meets ⟨outer, front ++ [c], rest⟩ offset := by
  rw [meets_iff_of_move (.closing (lexemeAt_eq_closer_iff.mp closes) more)]
  exact or_iff_right (not_isBefore (by simp [closes]))

theorem not_meets_nil : ¬Meets ⟨closers, front, []⟩ offset := by
  refine not_meets_of_stuck (fun _ => not_move_nil) ?_
  rintro ⟨parenthesis, -⟩
  cases parenthesis

theorem not_meets_unclosed (unclosed : lexemeAt front c rest = .unclosed) :
    ¬Meets ⟨closers, front, c :: rest⟩ offset :=
  not_meets_of_stuck (fun _ => not_move_unclosed unclosed) (not_isBefore (by simp [unclosed]))

/-- Behind a closer that does not match, or that matches the last open delimiter, nothing is met. -/
theorem not_meets_closer (closes : lexemeAt front c rest = .closer)
    (ends : ∀ outer, outer ≠ [] → closers ≠ c :: outer) :
    ¬Meets ⟨closers, front, c :: rest⟩ offset :=
  not_meets_of_stuck (fun _ => not_move_closer closes ends) (not_isBefore (by simp [closes]))

end Meets

/-! ### What a pass settles -/

section Pass

variable {memo : Memo} {stack : List Frame} {front rest : List Char} {offset : Nat}

/-- **Behind a pass is settled what was settled before, what was open, and what the pass meets**,
whether it succeeds or fails. -/
theorem isSettled_passAt_iff : (passAt memo stack 0 front rest).2.IsSettled offset ↔
    memo.IsSettled offset ∨ IsOpen stack offset ∨
      Meets ⟨stack.map Frame.closer, front, rest⟩ offset := by
  -- A piece is passed at once, so the induction is on the length of what is left.
  induction size : rest.length using Nat.strongRecOn generalizing memo stack front rest with
  | ind length ih =>
    cases rest with
    | nil =>
      have nowhere : ¬Meets ⟨stack.map Frame.closer, front, []⟩ offset := not_meets_nil
      show (memo.abandon stack).IsSettled offset ↔ _
      rw [isSettled_abandon_iff]
      tauto
    | cons c rest =>
      have shorter : rest.length < length := by
        rw [← size]
        exact Nat.lt_succ_self _
      cases lexeme : lexemeAt front c rest with
      | opener closing =>
        rw [passAt_opener lexeme, ih _ shorter rfl, isOpen_cons_iff, meets_opener lexeme,
          List.map_cons]
        tauto
      | skipped further =>
        obtain ⟨part, after, rfl, rfl, piece⟩ := exists_piece_of_lexemeAt lexeme
        have within : after.length < length := by
          rw [List.length_append] at shorter
          omega
        rw [passAt_skipped lexeme, passAt_skip_append, ih _ within rfl, meets_piece piece,
          List.append_assoc, List.singleton_append]
      | unclosed =>
        have nowhere : ¬Meets ⟨stack.map Frame.closer, front, c :: rest⟩ offset :=
          not_meets_unclosed lexeme
        rw [passAt_unclosed lexeme, isSettled_abandon_iff]
        tauto
      | closer =>
        cases stack with
        | nil =>
          have nowhere : ¬Meets ⟨[], front, c :: rest⟩ offset := not_meets_closer lexeme (by simp)
          have nothing : ¬IsOpen [] offset := not_isOpen_nil
          rw [passAt_closer_nil lexeme, List.map_nil]
          tauto
        | cons frame outer =>
          rw [passAt_closer lexeme, isOpen_cons_iff, List.map_cons]
          by_cases matched : frame.closer = c
          · subst matched
            cases outer with
            | nil =>
              have nowhere : ¬Meets ⟨[frame.closer], front, frame.closer :: rest⟩ offset :=
                not_meets_closer lexeme (by simp [eq_comm])
              have nothing : ¬IsOpen [] offset := not_isOpen_nil
              simp only [if_true, List.isEmpty_nil]
              rw [isSettled_closed_iff, List.map_nil]
              tauto
            | cons next others =>
              simp only [if_true, List.isEmpty_cons, Bool.false_eq_true, if_false]
              rw [ih _ shorter rfl, isSettled_closed_iff, meets_close lexeme (by simp)]
              tauto
          · have nowhere :
                ¬Meets ⟨frame.closer :: outer.map Frame.closer, front, c :: rest⟩ offset :=
              not_meets_closer lexeme (by simp [matched])
            simp only [if_neg matched]
            rw [isSettled_abandon_iff, isOpen_cons_iff]
            tauto

end Pass

/-! ### Whole passes -/

variable {text : List Char} {opened offset : Nat}

theorem readsInCode_paren_iff {front rest : List Char} :
    ReadsInCode (front ++ '(' :: rest) (Text.byteLength front) offset ↔
      Meets ⟨[], front, '(' :: rest⟩ offset := by
  constructor
  · rintro ⟨standing, ⟨front', rest', whole, start, run⟩, before⟩
    obtain ⟨rfl, same⟩ := Text.split_unique whole start.symm
    rw [← same] at run
    exact ⟨standing, run, before⟩
  · rintro ⟨standing, run, before⟩
    exact ⟨standing, ⟨front, rest, rfl, rfl, run⟩, before⟩

/-- Where no parenthesis stands, no pass is made. -/
theorem stopAt_elsewhere {memo : Memo}
    (elsewhere : ¬∃ front rest, text = front ++ '(' :: rest ∧ Text.byteLength front = opened) :
    stopAt memo text opened = (none, memo) := by
  cases found : Text.after? opened text with
  | none => simp only [stopAt, found]
  | some rest =>
    obtain ⟨front, rfl, rfl⟩ := Text.exists_front_of_after? found
    have other : rest.head? ≠ some '(' := by
      intro parenthesis
      obtain ⟨others, rfl⟩ := List.head?_eq_some_iff.mp parenthesis
      exact elsewhere ⟨front, others, rfl, rfl⟩
    simp only [stopAt, found, stop, if_neg other]

/-- **A pass without a memo settles what it reads in code.** -/
theorem isSettled_stopAt_empty_iff :
    (stopAt .empty text opened).2.IsSettled offset ↔ ReadsInCode text opened offset := by
  by_cases stands : ∃ front rest, text = front ++ '(' :: rest ∧ Text.byteLength front = opened
  · obtain ⟨front, rest, rfl, rfl⟩ := stands
    have nothing : ¬IsOpen [] offset := not_isOpen_nil
    have unsettled : ¬Memo.empty.IsSettled offset := not_isSettled_empty
    rw [readsInCode_paren_iff]
    simp only [stopAt, Text.after?_byteLength_append, stop, List.head?_cons, if_true,
      Memo.get?_empty]
    rw [balance_start, isSettled_passAt_iff, List.map_nil]
    tauto
  · have unread : ¬ReadsInCode text opened offset := by
      rintro ⟨standing, ⟨front, rest, whole, start, -⟩, -⟩
      exact stands ⟨front, rest, whole, start⟩
    rw [stopAt_elsewhere stands]
    exact iff_of_false not_isSettled_empty unread

/-- **A pass settles every parenthesis that it reads in code, and no other.** Behind a pass without
a memo, however it ended, the memo has an entry for exactly these parentheses, and each entry is the
answer of a pass that starts there without a memo. The parenthesis that the pass started at is one
of them. Those inside a literal or comment that the pass went over are not, and neither are those
behind the place where it stopped: the last closer, a wrong one, a literal or comment that is never
closed, or the end of the text. -/
theorem stopAt_empty_settles (text : List Char) (opened : Nat) :
    (∀ offset known, (stopAt .empty text opened).2.get? offset = some known ↔
      ReadsInCode text opened offset ∧ known = (stopAt .empty text offset).1) ∧
    (ReadsInCode text opened opened ↔
      ∃ front rest, text = front ++ '(' :: rest ∧ Text.byteLength front = opened) ∧
    (∀ closers front part after offset,
      StandsInCode text opened ⟨closers, front, part ++ after⟩ → IsPiece front part after →
      Text.byteLength front ≤ offset → offset < Text.byteLength (front ++ part) →
      (stopAt .empty text opened).2.get? offset = none) ∧
    ∀ standing offset, StandsInCode text opened standing → standing.Stops →
      Text.byteLength standing.front ≤ offset →
      (stopAt .empty text opened).2.get? offset = none := by
  have sound := (stopAt_sound (Memo.Sound.empty : Memo.Sound text .empty) opened).2
  have unnoted {offset : Nat} (unread : ¬ReadsInCode text opened offset) :
      (stopAt .empty text opened).2.get? offset = none :=
    Option.eq_none_iff_forall_ne_some.mpr fun known noted =>
      unread (isSettled_stopAt_empty_iff.mp ⟨known, noted⟩)
  refine ⟨fun offset known => ⟨fun noted => ?_, ?_⟩, ⟨?_, ?_⟩, ?_, ?_⟩
  · exact ⟨isSettled_stopAt_empty_iff.mp ⟨known, noted⟩, sound offset known noted⟩
  · rintro ⟨reads, rfl⟩
    obtain ⟨known, noted⟩ := isSettled_stopAt_empty_iff.mpr reads
    rw [noted, sound offset known noted]
  · rintro ⟨standing, ⟨front, rest, whole, start, -⟩, -⟩
    exact ⟨front, rest, whole, start⟩
  · rintro ⟨front, rest, whole, start⟩
    exact ⟨_, ⟨front, rest, whole, start, .refl⟩, rfl, start⟩
  · intro closers front part after offset stands piece reached within
    exact unnoted (not_readsInCode_inside stands piece reached within)
  · intro standing offset stands stops reached
    exact unnoted (not_readsInCode_behind stands stops reached)

/-- A parenthesis in a literal is not settled; the two that are open at a mismatch are. -/
example : [0, 2, 4, 13].map (stopAt .empty "(a('(', b), c(d]".toList 0).2.get?
    = [some none, some (some 10), none, some none] := by
  cbv

end Grammar

end MessageRefs
