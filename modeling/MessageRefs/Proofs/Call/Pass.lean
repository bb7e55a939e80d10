import MessageRefs.Call
import MessageRefs.Proofs.Text.Splits

/-!
**A balancing pass without its memo.**

The answer of a pass depends on the closers that are waited for and on the place it stands at, but
neither on the memo nor on where the open delimiters stand.

* `Call.outcome`: the answer of a pass that stands behind `front`;
* `Call.passAt`: the pass with its memo, at a place;
* `passAt_fst`: every pass answers so, whatever its memo;
* `balance_start`: what stands before the parenthesis that a pass starts at does not matter;
* `stopAt_empty_paren`: the answer without a memo, at a parenthesis.
-/

namespace MessageRefs.Call

/-- The lexeme that begins with `c` behind the text `front`. -/
def lexemeAt (front : List Char) (c : Char) (rest : List Char) : Lexeme :=
  Lexeme.next front.dropLast.getLast? front.getLast? c rest

/-- The answer of a pass that stands behind `front`, waits for `closers`, the innermost first, and
skips the next `skip` characters. -/
def outcome (closers : List Char) (skip : Nat) (front : List Char) : List Char → Option Nat
  | [] => none
  | c :: rest =>
    match skip with
    | skip + 1 => outcome closers skip (front ++ [c]) rest
    | 0 =>
      match lexemeAt front c rest with
      | .opener closer => outcome (closer :: closers) 0 (front ++ [c]) rest
      | .skipped further => outcome closers further (front ++ [c]) rest
      | .unclosed => none
      | .closer =>
        match closers with
        | [] => none
        | closer :: outer =>
          if closer = c then
            if outer.isEmpty then some (Text.byteLength (front ++ [c]))
            else outcome outer 0 (front ++ [c]) rest
          else none

/-! ### Delimiters among the lexemes -/

/-- A delimiter and the closer that it waits for. -/
def IsPair (opening closing : Char) : Prop :=
  (opening, closing) ∈ [('(', ')'), ('[', ']'), ('{', '}')]

theorem isPair_iff {opening closing : Char} : IsPair opening closing ↔
    opening = '(' ∧ closing = ')' ∨ opening = '[' ∧ closing = ']' ∨
      opening = '{' ∧ closing = '}' := by
  simp [IsPair]

/-- A lexeme opens exactly at an opening delimiter. -/
theorem lexemeAt_eq_opener_iff {front rest : List Char} {c closing : Char} :
    lexemeAt front c rest = .opener closing ↔ IsPair c closing := by
  have unopened (length : Option Nat) : Lexeme.ofLength? length ≠ .opener closing := by
    cases length <;> simp [Lexeme.ofLength?]
  unfold lexemeAt Lexeme.next IsPair
  split
  case h_10 => split <;> simp [unopened]
  case h_11 => simp_all
  all_goals simp [unopened, eq_comm (a := closing)]

theorem lexemeAt_eq_closer_iff {front rest : List Char} {c : Char} :
    lexemeAt front c rest = .closer ↔ c ∈ [')', ']', '}'] := by
  have unclosing (length : Option Nat) : Lexeme.ofLength? length ≠ .closer := by
    cases length <;> simp [Lexeme.ofLength?]
  unfold lexemeAt Lexeme.next
  split
  case h_10 => split <;> simp [unclosing]
  case h_11 => simp_all
  all_goals simp [unclosing]

theorem lexemeAt_paren (front rest : List Char) : lexemeAt front '(' rest = .opener ')' := rfl

/-! ### One step -/

section Step

variable {front rest closers : List Char} {c : Char}

@[simp] theorem outcome_skip (skip : Nat) :
    outcome closers (skip + 1) front (c :: rest) = outcome closers skip (front ++ [c]) rest := rfl

theorem outcome_opener {closer : Char} (lexeme : lexemeAt front c rest = .opener closer) :
    outcome closers 0 front (c :: rest) = outcome (closer :: closers) 0 (front ++ [c]) rest := by
  simp only [outcome, lexeme]

theorem outcome_skipped {further : Nat} (lexeme : lexemeAt front c rest = .skipped further) :
    outcome closers 0 front (c :: rest) = outcome closers further (front ++ [c]) rest := by
  simp only [outcome, lexeme]

theorem outcome_unclosed (lexeme : lexemeAt front c rest = .unclosed) :
    outcome closers 0 front (c :: rest) = none := by
  simp only [outcome, lexeme]

theorem outcome_mismatch (lexeme : lexemeAt front c rest = .closer)
    (mismatch : closers.head? ≠ some c) : outcome closers 0 front (c :: rest) = none := by
  cases closers with
  | nil => simp only [outcome, lexeme]
  | cons closer outer =>
    have different : closer ≠ c := fun same => mismatch (by rw [same]; rfl)
    simp only [outcome, lexeme, if_neg different]

theorem outcome_last (lexeme : lexemeAt front c rest = .closer) :
    outcome [c] 0 front (c :: rest) = some (Text.byteLength (front ++ [c])) := by
  simp only [outcome, lexeme, if_pos, List.isEmpty_nil]

theorem outcome_close (lexeme : lexemeAt front c rest = .closer) (open' : closers ≠ []) :
    outcome (c :: closers) 0 front (c :: rest) = outcome closers 0 (front ++ [c]) rest := by
  have more : closers.isEmpty = false := by simpa using open'
  simp only [outcome, lexeme, if_pos, more, Bool.false_eq_true, if_false]

end Step

/-! ### The pass with a memo -/

/-- A pass that stands behind `front`. -/
def passAt (memo : Memo) (stack : List Frame) (skip : Nat) (front rest : List Char) :
    Option Nat × Memo :=
  balance memo stack front.dropLast.getLast? front.getLast? skip (Text.byteLength front) rest

section PassStep

variable {memo : Memo} {stack : List Frame} {front rest : List Char} {c : Char}

theorem lookbehind_append (front : List Char) (c : Char) :
    (front ++ [c]).dropLast.getLast? = front.getLast? ∧ (front ++ [c]).getLast? = some c := by
  simp

@[simp] theorem passAt_skip (skip : Nat) :
    passAt memo stack (skip + 1) front (c :: rest)
      = passAt memo stack skip (front ++ [c]) rest := by
  simp [passAt, balance]

theorem passAt_opener {closer : Char} (lexeme : lexemeAt front c rest = .opener closer) :
    passAt memo stack 0 front (c :: rest)
      = passAt memo (⟨closer, Text.byteLength front⟩ :: stack) 0 (front ++ [c]) rest := by
  rw [lexemeAt] at lexeme
  simp [passAt, balance, lexeme]

theorem passAt_skipped {further : Nat} (lexeme : lexemeAt front c rest = .skipped further) :
    passAt memo stack 0 front (c :: rest) = passAt memo stack further (front ++ [c]) rest := by
  rw [lexemeAt] at lexeme
  simp [passAt, balance, lexeme]

theorem passAt_skip_append (skipped after : List Char) :
    passAt memo stack skipped.length front (skipped ++ after)
      = passAt memo stack 0 (front ++ skipped) after := by
  induction skipped generalizing front with
  | nil => rw [List.append_nil, List.length_nil, List.nil_append]
  | cons c others ih =>
    rw [List.length_cons, List.cons_append, passAt_skip, ih, List.append_assoc,
      List.singleton_append]

theorem passAt_unclosed (lexeme : lexemeAt front c rest = .unclosed) :
    passAt memo stack 0 front (c :: rest) = (none, memo.abandon stack) := by
  rw [lexemeAt] at lexeme
  simp [passAt, balance, lexeme]

theorem passAt_closer_nil (lexeme : lexemeAt front c rest = .closer) :
    passAt memo [] 0 front (c :: rest) = (none, memo) := by
  rw [lexemeAt] at lexeme
  simp [passAt, balance, lexeme]

/-- A closer settles its parenthesis, and ends the pass if no delimiter is left open. -/
theorem passAt_closer {frame : Frame} (lexeme : lexemeAt front c rest = .closer) :
    passAt memo (frame :: stack) 0 front (c :: rest) =
      if frame.closer = c then
        let beyond := Text.byteLength (front ++ [c])
        let memo := if c = ')' then memo.settle frame.opened (some beyond) else memo
        if stack.isEmpty then (some beyond, memo) else passAt memo stack 0 (front ++ [c]) rest
      else (none, memo.abandon (frame :: stack)) := by
  obtain ⟨earlier, before⟩ := lookbehind_append front c
  rw [lexemeAt] at lexeme
  simp only [passAt, balance, lexeme, earlier, before, Text.byteLength_append,
    Text.byteLength_cons, Text.byteLength_nil, Nat.add_zero]

end PassStep

/-- **A memo does not change what a pass answers.** -/
theorem passAt_fst (memo : Memo) (stack : List Frame) (skip : Nat) (front rest : List Char) :
    (passAt memo stack skip front rest).1 = outcome (stack.map Frame.closer) skip front rest := by
  induction rest generalizing memo stack skip front with
  | nil => rfl
  | cons c rest ih =>
    cases skip with
    | succ skip => rw [passAt_skip, ih, outcome_skip]
    | zero =>
      cases lexeme : lexemeAt front c rest with
      | opener closer => rw [passAt_opener lexeme, ih, outcome_opener lexeme, List.map_cons]
      | skipped further => rw [passAt_skipped lexeme, ih, outcome_skipped lexeme]
      | unclosed => rw [passAt_unclosed lexeme, outcome_unclosed lexeme]
      | closer =>
        cases stack with
        | nil =>
          rw [passAt_closer_nil lexeme]
          exact (outcome_mismatch lexeme (by simp)).symm
        | cons frame outer =>
          rw [passAt_closer lexeme]
          by_cases matched : frame.closer = c
          · subst matched
            cases outer with
            | nil => simp [outcome_last lexeme]
            | cons next others => simp [outcome_close lexeme, ih]
          · have mismatch : ((frame :: outer).map Frame.closer).head? ≠ some c := by
              simpa using matched
            simp only [if_neg matched]
            exact (outcome_mismatch lexeme mismatch).symm

/-! ### Where a pass starts -/

/-- The character before the last one decides only on the rawness of a literal behind `r`. -/
theorem next_earlier (earlier earlier' : Option Char) {before : Option Char}
    (notR : before ≠ some 'r') (c : Char) (rest : List Char) :
    Lexeme.next earlier before c rest = Lexeme.next earlier' before c rest := by
  have plain : (before == some 'r') = false := by simpa using notR
  have quoting (quote : Char) :
      Quoting.ofQuote earlier before quote rest = Quoting.ofQuote earlier' before quote rest := by
    simp [Quoting.ofQuote, plain]
  unfold Lexeme.next
  simp only [quoting]

/-- Behind any character but `r`, the one before it does not matter to a pass. -/
theorem balance_earlier (earlier earlier' : Option Char) {before : Option Char}
    (notR : before ≠ some 'r') (memo : Memo) (stack : List Frame) (skip offset : Nat)
    (rest : List Char) :
    balance memo stack earlier before skip offset rest
      = balance memo stack earlier' before skip offset rest := by
  cases rest with
  | nil => rfl
  | cons c rest =>
    cases skip with
    | succ skip => rfl
    | zero => simp only [balance, next_earlier earlier earlier' notR c rest]

/-- **What stands before the parenthesis that a pass starts at does not matter.** -/
theorem balance_start (memo : Memo) (front rest : List Char) :
    balance memo [] none none 0 (Text.byteLength front) ('(' :: rest)
      = passAt memo [] 0 front ('(' :: rest) := by
  have notR : some '(' ≠ some 'r' := by decide
  obtain ⟨earlier, before⟩ := lookbehind_append front '('
  rw [passAt_opener (lexemeAt_paren front rest), passAt, earlier, before, Text.byteLength_append,
    Text.byteLength_cons, Text.byteLength_nil]
  exact balance_earlier none front.getLast? notR memo [⟨')', Text.byteLength front⟩] 0 _ rest

theorem stopAt_empty_paren (front rest : List Char) :
    (stopAt .empty (front ++ '(' :: rest) (Text.byteLength front)).1
      = outcome [')'] 0 (front ++ ['(']) rest := by
  simp only [stopAt, Text.after?_byteLength_append, stop, List.head?_cons, if_true, Memo.get?_empty]
  rw [balance_start, passAt_fst, outcome_opener (lexemeAt_paren front rest), List.map_nil]

end MessageRefs.Call
