import Mathlib.Logic.Relation
import MessageRefs.Proofs.Call.Pieces

/-!
**The course of a pass in code.**

In code a pass moves over an opening delimiter, over the closer that it waits for, or over a piece:
a whole literal, a comment or a plain character. It does not move behind the closer of its first
parenthesis, at any other closer, or where a literal or comment begins that is never closed.

* `Standing`, `Move`: where a pass stands in code, and its moves from there;
* `Standing.Stops`: where it does not move on;
* `StandsInCode`, `ReadsInCode`: where the pass from a parenthesis comes to stand before it stops,
  and which parentheses it reads there;
* `move_cons_iff`, `Move.unique`: a pass moves by the lexeme that it stands at;
* `not_readsInCode_inside`, `not_readsInCode_behind`: it reads no parenthesis inside a literal or
  comment, and none behind the place where it stops;
* `run_of_derives`: inside a delimiter it moves over whatever the grammar derives;
* `standsInCode_iff_unfinished`: it stands in code behind what an unfinished call has so far.
-/

namespace MessageRefs.Grammar

open Call Relation

/-- A pass between two pieces: the closers that it waits for, the innermost first, the text that it
has read, and the text that is left. -/
structure Standing where
  closers : List Char
  front : List Char
  rest : List Char

/-- One move of a pass in code. -/
inductive Move : Standing → Standing → Prop
  /-- A delimiter opens. -/
  | opening {closers front rest : List Char} {c closing : Char} : IsPair c closing →
      Move ⟨closers, front, c :: rest⟩ ⟨closing :: closers, front ++ [c], rest⟩
  /-- A literal, a comment or a plain character is passed. -/
  | piece {closers front rest part after : List Char} : rest = part ++ after →
      IsPiece front part after → Move ⟨closers, front, rest⟩ ⟨closers, front ++ part, after⟩
  /-- The innermost delimiter closes, and another one is still open. -/
  | closing {outer front rest : List Char} {c : Char} : c ∈ [')', ']', '}'] → outer ≠ [] →
      Move ⟨c :: outer, front, c :: rest⟩ ⟨outer, front ++ [c], rest⟩

/-- The pass from the parenthesis at an offset comes to stand somewhere in code. -/
def StandsInCode (text : List Char) (opened : Nat) (standing : Standing) : Prop :=
  ∃ front rest, text = front ++ '(' :: rest ∧ Text.byteLength front = opened ∧
    ReflTransGen Move ⟨[], front, '(' :: rest⟩ standing

/-- A pass stands before the parenthesis at an offset. -/
def Standing.IsBefore (standing : Standing) (offset : Nat) : Prop :=
  standing.rest.head? = some '(' ∧ Text.byteLength standing.front = offset

/-- A pass stops where no open call goes on, and at the closer of its first parenthesis. -/
def Standing.Stops (standing : Standing) : Prop :=
  IsStuck standing.front standing.rest standing.closers ∨
    standing.closers = [')'] ∧ standing.rest.head? = some ')'

/-- The pass from the parenthesis at one offset reads the one at the other in code. -/
def ReadsInCode (text : List Char) (opened offset : Nat) : Prop :=
  ∃ standing, StandsInCode text opened standing ∧ standing.IsBefore offset

/-! ### One move -/

section Moves

variable {closers front rest : List Char} {c : Char} {standing next next' : Standing}

theorem not_move_nil : ¬Move ⟨closers, front, []⟩ next := by
  intro move
  cases move with
  | piece split piece => exact piece.ne_nil (List.append_eq_nil_iff.mp split.symm).1

/-- **A pass moves by the lexeme that it stands at.** -/
theorem move_cons_iff : Move ⟨closers, front, c :: rest⟩ next ↔
    (∃ closing, lexemeAt front c rest = .opener closing ∧
      next = ⟨closing :: closers, front ++ [c], rest⟩) ∨
    (∃ further after, rest = further ++ after ∧
      lexemeAt front c rest = .skipped further.length ∧
      next = ⟨closers, front ++ c :: further, after⟩) ∨
    lexemeAt front c rest = .closer ∧
      ∃ outer, outer ≠ [] ∧ closers = c :: outer ∧ next = ⟨outer, front ++ [c], rest⟩ := by
  constructor
  · intro move
    cases move with
    | opening pair => exact .inl ⟨_, lexemeAt_eq_opener_iff.mpr pair, rfl⟩
    | piece split piece =>
      obtain ⟨first, further, rfl⟩ := List.exists_cons_of_ne_nil piece.ne_nil
      obtain ⟨rfl, rfl⟩ := List.cons.inj split
      exact .inr (.inl ⟨further, _, rfl, piece.lexemeAt, rfl⟩)
    | closing closes more =>
      exact .inr (.inr ⟨lexemeAt_eq_closer_iff.mpr closes, _, more, rfl, rfl⟩)
  · rintro (⟨closing, opens, rfl⟩ | ⟨further, after, rfl, skips, rfl⟩ |
      ⟨closes, outer, more, rfl, rfl⟩)
    · exact .opening (lexemeAt_eq_opener_iff.mp opens)
    · obtain ⟨further', after', split, sized, piece⟩ := exists_piece_of_lexemeAt skips
      obtain ⟨rfl, rfl⟩ := List.append_inj split sized.symm
      exact .piece rfl piece
    · exact .closing (lexemeAt_eq_closer_iff.mp closes) more

/-- From one place a pass moves in one way. -/
theorem Move.unique (move : Move standing next) (move' : Move standing next') : next = next' := by
  obtain ⟨closers, front, rest⟩ := standing
  cases rest with
  | nil => exact absurd move not_move_nil
  | cons c rest =>
    rw [move_cons_iff] at move move'
    rcases move with ⟨closing, opens, rfl⟩ | ⟨further, after, rfl, skips, rfl⟩ |
      ⟨closes, outer, -, rfl, rfl⟩
    · simp only [opens, reduceCtorEq, Lexeme.opener.injEq, false_and, and_false, exists_const,
        or_false] at move'
      obtain ⟨_, rfl, rfl⟩ := move'
      rfl
    · simp only [skips, reduceCtorEq, Lexeme.skipped.injEq, false_and, exists_const, false_or,
        or_false] at move'
      obtain ⟨further', after', split, sized, rfl⟩ := move'
      obtain ⟨rfl, rfl⟩ := List.append_inj split sized
      rfl
    · simp only [closes, reduceCtorEq, false_and, and_false, exists_const, true_and, false_or,
        List.cons.injEq] at move'
      obtain ⟨_, -, rfl, rfl⟩ := move'
      rfl

theorem not_move_unclosed (unclosed : lexemeAt front c rest = .unclosed) :
    ¬Move ⟨closers, front, c :: rest⟩ next := by
  intro move
  simp [move_cons_iff, unclosed] at move

/-- A pass does not move at a closer that does not match, or that matches the last open delimiter. -/
theorem not_move_closer (closes : lexemeAt front c rest = .closer)
    (ends : ∀ outer, outer ≠ [] → closers ≠ c :: outer) :
    ¬Move ⟨closers, front, c :: rest⟩ next := by
  intro move
  simp only [move_cons_iff, closes, reduceCtorEq, false_and, and_false, exists_const, true_and,
    false_or] at move
  obtain ⟨outer, more, waits, -⟩ := move
  exact ends outer more waits

/-- A pass stops at the lexeme of a closer, or of a literal or comment that is never closed. -/
theorem Standing.Stops.lexemeAt (stops : Standing.Stops ⟨closers, front, c :: rest⟩) :
    Call.lexemeAt front c rest = .closer ∧ (∀ outer, outer ≠ [] → closers ≠ c :: outer) ∨
      Call.lexemeAt front c rest = .unclosed := by
  rcases stops with stuck | ⟨rfl, closes⟩
  · refine stuck.lexemeAt.imp_left (And.imp_right ?_)
    rintro mismatch outer - rfl
    exact mismatch rfl
  · cases closes
    refine .inl ⟨lexemeAt_eq_closer_iff.mpr (by decide), ?_⟩
    rintro outer more same
    exact more (List.cons.inj same).2.symm

/-- A pass that stops does not move. -/
theorem Standing.Stops.not_move (stops : standing.Stops) : ¬Move standing next := by
  obtain ⟨closers, front, rest⟩ := standing
  cases rest with
  | nil => exact not_move_nil
  | cons c rest =>
    rcases stops.lexemeAt with ⟨closes, ends⟩ | unclosed
    · exact not_move_closer closes ends
    · exact not_move_unclosed unclosed

theorem Standing.Stops.head?_ne (stops : standing.Stops) : standing.rest.head? ≠ some '(' := by
  obtain ⟨closers, front, rest⟩ := standing
  intro parenthesis
  obtain ⟨others, rfl⟩ := List.head?_eq_some_iff.mp parenthesis
  have lexeme := stops.lexemeAt
  rw [lexemeAt_paren] at lexeme
  simp at lexeme

end Moves

/-! ### Whole runs -/

section Runs

variable {text front part after : List Char} {closers : List Char} {standing next later : Standing}
  {opened offset : Nat}

/-- A pass moves forward. -/
theorem Move.front_lt (move : Move standing next) :
    Text.byteLength standing.front < Text.byteLength next.front := by
  have forward {front part : List Char} (filled : part ≠ []) :
      Text.byteLength front < Text.byteLength (front ++ part) := by
    rw [Text.byteLength_append]
    exact Nat.lt_add_of_pos_right (Text.byteLength_pos filled)
  cases move with
  | opening _ => exact forward (List.cons_ne_nil _ _)
  | piece _ piece => exact forward piece.ne_nil
  | closing _ _ => exact forward (List.cons_ne_nil _ _)

theorem front_le_of_run (run : ReflTransGen Move standing later) :
    Text.byteLength standing.front ≤ Text.byteLength later.front := by
  induction run with
  | refl => exact Nat.le_refl _
  | tail _ move ih => exact Nat.le_trans ih (Nat.le_of_lt move.front_lt)

/-- The pass from a parenthesis stands at one place after another. -/
theorem StandsInCode.total (stands : StandsInCode text opened standing)
    (stands' : StandsInCode text opened later) :
    ReflTransGen Move standing later ∨ ReflTransGen Move later standing := by
  obtain ⟨front, rest, whole, start, run⟩ := stands
  obtain ⟨front', rest', whole', start', run'⟩ := stands'
  obtain ⟨rfl, same⟩ := Text.split_unique (whole.symm.trans whole') (start.trans start'.symm)
  rw [← same] at run'
  exact ReflTransGen.total_of_right_unique (fun _ _ _ => Move.unique) run run'

theorem StandsInCode.whole (stands : StandsInCode text opened standing) :
    text = standing.front ++ standing.rest := by
  obtain ⟨front, rest, whole, -, run⟩ := stands
  induction run with
  | refl => exact whole
  | tail _ move ih =>
    cases move with
    | opening _ => rw [ih, List.append_cons]
    | piece split _ => rw [ih, split, List.append_assoc]
    | closing _ _ => rw [ih, List.append_cons]

/-- Where a pass stands at no parenthesis, it reads none up to where its next move leads. -/
theorem not_readsInCode_within (stands : StandsInCode text opened standing)
    (elsewhere : standing.rest.head? ≠ some '(')
    (reached : Text.byteLength standing.front ≤ offset)
    (within : ∀ next, Move standing next → offset < Text.byteLength next.front) :
    ¬ReadsInCode text opened offset := by
  rintro ⟨later, standsLater, parenthesis, rfl⟩
  have other : later ≠ standing := by
    rintro rfl
    exact elsewhere parenthesis
  rcases stands.total standsLater with run | run
  · rcases run.cases_head with same | ⟨next, move, others⟩
    · exact other same.symm
    · exact absurd (front_le_of_run others) (Nat.not_le_of_lt (within next move))
  · rcases run.cases_tail with same | ⟨before, run, move⟩
    · exact other same.symm
    · have earlier := Nat.lt_of_le_of_lt (front_le_of_run run) move.front_lt
      exact absurd earlier (Nat.not_lt_of_le reached)

/-- **Inside a literal or comment, and at a plain character, no parenthesis is read.** -/
theorem not_readsInCode_inside (stands : StandsInCode text opened ⟨closers, front, part ++ after⟩)
    (piece : IsPiece front part after) (reached : Text.byteLength front ≤ offset)
    (within : offset < Text.byteLength (front ++ part)) : ¬ReadsInCode text opened offset := by
  refine not_readsInCode_within stands ?_ reached ?_
  · obtain ⟨c, further, rfl⟩ := List.exists_cons_of_ne_nil piece.ne_nil
    intro parenthesis
    cases parenthesis
    have skips := piece.lexemeAt
    rw [lexemeAt_paren] at skips
    cases skips
  · intro next move
    rw [move.unique (.piece rfl piece)]
    exact within

/-- **Where a pass stops, no parenthesis is read**, nor is one anywhere behind. -/
theorem not_readsInCode_behind (stands : StandsInCode text opened standing)
    (stops : standing.Stops) (reached : Text.byteLength standing.front ≤ offset) :
    ¬ReadsInCode text opened offset :=
  not_readsInCode_within stands stops.head?_ne reached
    fun _ move => absurd move stops.not_move

end Runs

/-! ### What the grammar derives -/

section Derived

variable {front part rest after closers : List Char}

theorem derives_group {inner after : List Char} {opening closing : Char}
    (pair : IsPair opening closing)
    (items : Derives .items (front ++ [opening]) inner (closing :: after)) :
    Derives .item front (opening :: inner ++ [closing]) after := by
  rcases isPair_iff.mp pair with ⟨rfl, rfl⟩ | ⟨rfl, rfl⟩ | ⟨rfl, rfl⟩
  · exact .nested (.call items)
  · exact .brackets items
  · exact .braces items

/-- A delimited group is passed if its inside is. -/
theorem run_group {inner : List Char} {opening closing : Char} (pair : IsPair opening closing)
    (runs : ∀ closers, closers ≠ [] → ReflTransGen Move
      ⟨closers, front ++ [opening], inner ++ closing :: after⟩
      ⟨closers, front ++ [opening] ++ inner, closing :: after⟩) :
    ∀ closers, closers ≠ [] → ReflTransGen Move
      ⟨closers, front, opening :: inner ++ [closing] ++ after⟩
      ⟨closers, front ++ (opening :: inner ++ [closing]), after⟩ := by
  intro closers waiting
  have closes : closing ∈ [')', ']', '}'] := by
    rcases isPair_iff.mp pair with ⟨-, rfl⟩ | ⟨-, rfl⟩ | ⟨-, rfl⟩ <;> decide
  have inside := runs (closing :: closers) (List.cons_ne_nil _ _)
  have whole := (inside.head (.opening pair)).tail (.closing closes waiting)
  simpa using whole

/-- Inside a delimiter, a pass moves over whatever the grammar derives. -/
theorem run_of_derives {symbol : Symbol} (derives : Derives symbol front part after) :
    ∀ closers, closers ≠ [] →
      ReflTransGen Move ⟨closers, front, part ++ after⟩ ⟨closers, front ++ part, after⟩ := by
  have single {front part after closers : List Char} (piece : IsPiece front part after) :
      ReflTransGen Move ⟨closers, front, part ++ after⟩ ⟨closers, front ++ part, after⟩ :=
    .single (.piece rfl piece)
  induction derives with
  | call _ ih => exact run_group (by simp [IsPair]) ih
  | nested _ ih => exact ih
  | brackets _ ih => exact run_group (by simp [IsPair]) ih
  | braces _ ih => exact run_group (by simp [IsPair]) ih
  | literal literal => exact fun _ _ => single (.inl literal)
  | comment comment => exact fun _ _ => single (.inr (.inl comment))
  | plain plain => exact fun _ _ => single (.inr (.inr ⟨_, rfl, plain⟩))
  | done =>
    intro closers _
    rw [List.append_nil, List.nil_append]
  | more _ _ ihFirst ihOthers =>
    intro closers waiting
    have first := ihFirst closers waiting
    have others := ihOthers closers waiting
    rw [← List.append_assoc] at first
    rw [List.append_assoc] at others
    exact first.trans others

end Derived

/-! ### Unfinished calls -/

section Unfinished

variable {front part rest after closers : List Char}

theorem Unfinished.waiting (unfinished : Unfinished front part after closers) : closers ≠ [] := by
  induction unfinished with
  | opened => exact List.cons_ne_nil _ _
  | items _ _ ih => exact ih
  | deeper _ _ _ => exact List.cons_ne_nil _ _

theorem Derives.items_append {first others : List Char}
    (items : Derives .items front first (others ++ after))
    (more : Derives .items (front ++ first) others after) :
    Derives .items front (first ++ others) after := by
  generalize kind : Symbol.items = symbol at items
  generalize behind : others ++ after = following at items
  induction items with
  | done =>
    rw [List.append_nil] at more
    exact more
  | @more front first second _ item _ _ ih =>
    subst behind
    rw [List.append_assoc]
    refine .more ?_ (ih ?_ rfl rfl)
    · rw [List.append_assoc]
      exact item
    · rw [List.append_assoc]
      exact more
  | _ => cases kind

theorem Unfinished.item (unfinished : Unfinished front part (rest ++ after) closers)
    (derives : Derives .item (front ++ part) rest after) :
    Unfinished front (part ++ rest) after closers := by
  refine .items unfinished ?_
  have single : Derives .items (front ++ part) (rest ++ []) after := .more derives .done
  rwa [List.append_nil] at single

/-- In front of the innermost delimiter the outer ones are open, and behind it there are items. -/
theorem Unfinished.exists_opening {closing : Char} {outer : List Char}
    (unfinished : Unfinished front part after (closing :: outer)) (more : outer ≠ []) :
    ∃ earlier opening inner, part = earlier ++ opening :: inner ∧ IsPair opening closing ∧
      Unfinished front earlier (opening :: (inner ++ after)) outer ∧
      Derives .items (front ++ earlier ++ [opening]) inner after := by
  generalize waiting : closing :: outer = closers at unfinished
  induction unfinished with
  | opened =>
    cases waiting
    exact absurd rfl more
  | items _ derives ih =>
    obtain ⟨earlier, opening, inner, rfl, pair, open', items⟩ := ih waiting
    refine ⟨earlier, opening, inner ++ _, by simp, pair, ?_, items.items_append ?_⟩
    · rw [List.append_assoc]
      exact open'
    · simpa using derives
  | deeper pair open' _ =>
    cases waiting
    exact ⟨_, _, [], rfl, pair, open', .done⟩

/-- **What a call has so far goes on with every move.** -/
theorem Unfinished.move {standing next : Standing} (waits : standing.front = front ++ part)
    (unfinished : Unfinished front part standing.rest standing.closers)
    (move : Move standing next) :
    ∃ more, next.front = front ++ more ∧ Unfinished front more next.rest next.closers := by
  cases move with
  | opening pair =>
    subst waits
    exact ⟨_, List.append_assoc _ _ _, .deeper pair unfinished⟩
  | piece split piece =>
    subst waits split
    exact ⟨_, List.append_assoc _ _ _, unfinished.item piece.derives⟩
  | closing closes more =>
    obtain ⟨earlier, opening, inner, rfl, pair, open', items⟩ := unfinished.exists_opening more
    subst waits
    refine ⟨earlier ++ (opening :: inner ++ [_]), by simp, .item ?_ (derives_group pair items)⟩
    simpa using open'

/-- A pass moves from the parenthesis of an unfinished call over what the call has so far. -/
theorem run_of_unfinished (unfinished : Unfinished front part after closers) :
    (part ++ after).head? = some '(' ∧
      ReflTransGen Move ⟨[], front, part ++ after⟩ ⟨closers, front ++ part, after⟩ := by
  induction unfinished with
  | opened => exact ⟨rfl, .single (.opening (by simp [IsPair]))⟩
  | items unfinished derives ih =>
    have others := run_of_derives derives _ unfinished.waiting
    rw [List.append_assoc, ← List.append_assoc front]
    exact ⟨ih.1, ih.2.trans others⟩
  | deeper pair _ ih =>
    rw [List.append_assoc, ← List.append_assoc front]
    exact ⟨ih.1, ih.2.tail (.opening pair)⟩

theorem unfinished_of_run {standing : Standing}
    (run : ReflTransGen Move ⟨[], front, '(' :: rest⟩ standing) :
    standing = ⟨[], front, '(' :: rest⟩ ∨
      ∃ part, standing.front = front ++ part ∧
        Unfinished front part standing.rest standing.closers := by
  induction run with
  | refl => exact .inl rfl
  | @tail before next _ move ih =>
    rcases ih with rfl | ⟨part, waits, unfinished⟩
    · rw [move.unique (.opening (show IsPair '(' ')' by simp [IsPair]))]
      exact .inr ⟨['('], rfl, .opened⟩
    · exact .inr (unfinished.move waits move)

/-- **A pass stands in code exactly at its parenthesis and behind what an unfinished call has so
far**, waiting for the closers of that call. -/
theorem standsInCode_iff_unfinished {text : List Char} {opened : Nat} :
    StandsInCode text opened ⟨closers, front, rest⟩ ↔
      ∃ before part, text = before ++ part ++ rest ∧ front = before ++ part ∧
        Text.byteLength before = opened ∧
        (part = [] ∧ closers = [] ∧ rest.head? = some '(' ∨ Unfinished before part rest closers) := by
  constructor
  · intro stands
    have whole := stands.whole
    obtain ⟨before, others, -, start, run⟩ := stands
    rcases unfinished_of_run run with same | ⟨part, behind, unfinished⟩
    · cases same
      exact ⟨_, [], by simpa using whole, by simp, start, .inl ⟨rfl, rfl, rfl⟩⟩
    · subst behind
      exact ⟨before, part, whole, rfl, start, .inr unfinished⟩
  · rintro ⟨before, part, rfl, rfl, rfl, ⟨rfl, rfl, parenthesis⟩ | unfinished⟩
    · obtain ⟨others, rfl⟩ := List.head?_eq_some_iff.mp parenthesis
      exact ⟨before, others, by simp, rfl, by simpa using ReflTransGen.refl⟩
    · obtain ⟨parenthesis, run⟩ := run_of_unfinished unfinished
      obtain ⟨others, first⟩ := List.head?_eq_some_iff.mp parenthesis
      rw [first] at run
      exact ⟨before, others, by rw [← first, List.append_assoc], rfl, run⟩

end Unfinished

end MessageRefs.Grammar
