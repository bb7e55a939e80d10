import MessageRefs.Proofs.Call.Course

/-!
**A pass accepts exactly the calls of the grammar.**

* `outcome_of_derives`: a pass that is inside a delimiter walks over every item of the grammar;
* `Closes`: what a pass that succeeds still finds in front of it, closer by closer;
* `exists_closes_of_outcome`: a pass that succeeds has found it;
* `stopAt_empty_accepts`: the call at an offset ends where the grammar says, or nowhere.
-/

namespace MessageRefs.Grammar

open Call Relation

/-! ### From the grammar to the pass -/

section Walk

variable {front part after rest closers : List Char}

theorem outcome_skip_append (skipped : List Char) (front after closers : List Char) :
    outcome closers skipped.length front (skipped ++ after)
      = outcome closers 0 (front ++ skipped) after := by
  induction skipped generalizing front with
  | nil => rw [List.append_nil, List.length_nil, List.nil_append]
  | cons c others ih =>
    rw [List.length_cons, List.cons_append, outcome_skip, ih, List.append_assoc,
      List.singleton_append]

theorem outcome_piece (piece : IsPiece front part after) (closers : List Char) :
    outcome closers 0 front (part ++ after) = outcome closers 0 (front ++ part) after := by
  obtain ⟨c, further, rfl⟩ := List.exists_cons_of_ne_nil piece.ne_nil
  rw [List.cons_append, outcome_skipped piece.lexemeAt, outcome_skip_append, List.append_assoc,
    List.singleton_append]

/-- A move changes where a pass stands, but not what it answers. -/
theorem outcome_of_move {standing next : Standing} (move : Move standing next) :
    outcome standing.closers 0 standing.front standing.rest
      = outcome next.closers 0 next.front next.rest := by
  cases move with
  | opening pair => exact outcome_opener (lexemeAt_eq_opener_iff.mpr pair)
  | piece split piece =>
    subst split
    exact outcome_piece piece _
  | closing closes more => exact outcome_close (lexemeAt_eq_closer_iff.mpr closes) more

theorem outcome_of_run {standing later : Standing} (run : ReflTransGen Move standing later) :
    outcome standing.closers 0 standing.front standing.rest
      = outcome later.closers 0 later.front later.rest := by
  induction run with
  | refl => rfl
  | tail _ move ih => exact ih.trans (outcome_of_move move)

/-- **Inside a delimiter, a pass walks over whatever the grammar derives.** -/
theorem outcome_of_derives {symbol : Symbol} (derives : Derives symbol front part after)
    (closers : List Char) (waiting : closers ≠ []) :
    outcome closers 0 front (part ++ after) = outcome closers 0 (front ++ part) after :=
  outcome_of_run (run_of_derives derives closers waiting)

end Walk

/-! ### From the pass to the grammar -/

/-- What a pass that ends at `stop` finds in front of it: for each closer that it waits for, items
and the closer. -/
def Closes : List Char → List Char → List Char → Nat → Prop
  | [], front, _, stop => stop = Text.byteLength front
  | closing :: outer, front, rest, stop =>
    ∃ part after, rest = part ++ closing :: after ∧
      Derives .items front part (closing :: after) ∧
      Closes outer (front ++ part ++ [closing]) after stop

section Closes

variable {front first rest closers : List Char} {stop : Nat}

theorem Closes.item (waiting : closers ≠ []) (derives : Derives .item front first rest)
    (closes : Closes closers (front ++ first) rest stop) :
    Closes closers front (first ++ rest) stop := by
  cases closers with
  | nil => exact absurd rfl waiting
  | cons closing outer =>
    obtain ⟨part, after, rfl, items, others⟩ := closes
    refine ⟨first ++ part, after, by rw [List.append_assoc], .more derives items, ?_⟩
    rw [← List.append_assoc]
    exact others

theorem Closes.group (waiting : closers ≠ []) {opening closing : Char}
    (pair : IsPair opening closing)
    (closes : Closes (closing :: closers) (front ++ [opening]) rest stop) :
    Closes closers front (opening :: rest) stop := by
  obtain ⟨inner, after, rfl, items, others⟩ := closes
  have grouped : opening :: (inner ++ closing :: after)
      = (opening :: inner ++ [closing]) ++ after := by
    simp
  rw [grouped]
  refine Closes.item waiting (derives_group pair items) ?_
  have behind : front ++ (opening :: inner ++ [closing])
      = front ++ [opening] ++ inner ++ [closing] := by
    simp
  rw [behind]
  exact others

theorem closes_of_skipped_none {rest : List Char}
    (found : ∃ skipped after, rest = skipped ++ after ∧ skipped.length = 0 ∧
      Closes closers (front ++ skipped) after stop) : Closes closers front rest stop := by
  obtain ⟨skipped, after, rfl, empty, closes⟩ := found
  rw [List.length_eq_zero_iff.mp empty, List.append_nil] at closes
  rw [List.length_eq_zero_iff.mp empty]
  exact closes

/-- **A pass that succeeds has walked over items and closers of the grammar.** -/
theorem exists_closes_of_outcome (waiting : closers ≠ []) {skip : Nat}
    (succeeds : outcome closers skip front rest = some stop) :
    ∃ skipped after, rest = skipped ++ after ∧ skipped.length = skip ∧
      Closes closers (front ++ skipped) after stop := by
  -- In the induction on the text, `skipped` is what is left of the piece being walked over.
  induction rest generalizing closers skip front with
  | nil => cases succeeds
  | cons c rest ih =>
    cases skip with
    | succ skip =>
      rw [outcome_skip] at succeeds
      obtain ⟨skipped, after, rfl, rfl, closes⟩ := ih waiting succeeds
      refine ⟨c :: skipped, after, rfl, rfl, ?_⟩
      rw [List.append_cons]
      exact closes
    | zero =>
      refine ⟨[], c :: rest, rfl, rfl, ?_⟩
      rw [List.append_nil]
      cases lexeme : lexemeAt front c rest with
      | opener closing =>
        rw [outcome_opener lexeme] at succeeds
        have closes := closes_of_skipped_none (ih (List.cons_ne_nil _ _) succeeds)
        exact closes.group waiting (lexemeAt_eq_opener_iff.mp lexeme)
      | skipped further =>
        rw [outcome_skipped lexeme] at succeeds
        obtain ⟨skipped, after, rfl, sized, closes⟩ := ih waiting succeeds
        obtain ⟨piece, behind, split, sized', isPiece⟩ := exists_piece_of_lexemeAt lexeme
        obtain ⟨rfl, rfl⟩ := List.append_inj split (sized.trans sized'.symm)
        rw [List.append_assoc, List.singleton_append] at closes
        exact closes.item waiting isPiece.derives
      | unclosed =>
        rw [outcome_unclosed lexeme] at succeeds
        cases succeeds
      | closer =>
        cases closers with
        | nil => exact absurd rfl waiting
        | cons closing outer =>
          by_cases matched : closing = c
          · subst matched
            refine ⟨[], rest, rfl, .done, ?_⟩
            rw [List.append_nil]
            cases outer with
            | nil =>
              rw [outcome_last lexeme] at succeeds
              exact (Option.some.inj succeeds).symm
            | cons next others =>
              rw [outcome_close lexeme (List.cons_ne_nil _ _)] at succeeds
              exact closes_of_skipped_none (ih (List.cons_ne_nil _ _) succeeds)
          · have mismatch : (closing :: outer).head? ≠ some c := by simpa using matched
            rw [outcome_mismatch lexeme mismatch] at succeeds
            cases succeeds

end Closes

/-! ### Calls -/

theorem stopAt_empty_of_call {front part after : List Char}
    (derives : Derives .call front part after) :
    (stopAt .empty (front ++ part ++ after) (Text.byteLength front)).1
      = some (Text.byteLength (front ++ part)) := by
  cases derives with
  | @call _ inner _ items =>
    have closes : lexemeAt (front ++ ['('] ++ inner) ')' after = .closer :=
      lexemeAt_eq_closer_iff.mpr (by decide)
    have split : front ++ ('(' :: inner ++ [')']) ++ after
        = front ++ '(' :: (inner ++ ')' :: after) := by
      simp
    rw [split, stopAt_empty_paren, outcome_of_derives items [')'] (List.cons_ne_nil _ _),
      outcome_last closes]
    simp

theorem isCall_of_stopAt {text : List Char} {opened stop : Nat}
    (ends : (stopAt .empty text opened).1 = some stop) : IsCall text opened stop := by
  cases found : Text.after? opened text with
  | none => simp [stopAt, found] at ends
  | some rest =>
    obtain ⟨front, rfl, rfl⟩ := Text.exists_front_of_after? found
    by_cases parenthesis : rest.head? = some '('
    · obtain ⟨others, rfl⟩ : ∃ others, rest = '(' :: others := List.head?_eq_some_iff.mp parenthesis
      rw [stopAt_empty_paren] at ends
      obtain ⟨inner, after, rfl, items, stops⟩ :=
        closes_of_skipped_none (exists_closes_of_outcome (List.cons_ne_nil _ _) ends)
      refine ⟨front, '(' :: inner ++ [')'], after, ?_, rfl, ?_, .call items⟩
      · simp
      · rw [show stop = _ from stops]
        simp
    · simp [stopAt, found, Call.stop, parenthesis] at ends

/-- **A pass ends exactly where a call of the grammar does.** -/
theorem stopAt_empty_eq_some_iff {text : List Char} {opened stop : Nat} :
    (stopAt .empty text opened).1 = some stop ↔ IsCall text opened stop := by
  constructor
  · exact isCall_of_stopAt
  · rintro ⟨front, part, after, rfl, rfl, rfl, derives⟩
    exact stopAt_empty_of_call derives

/-! ### Calls that never end -/

/-- A pass walks over what an unfinished call has so far. -/
theorem stopAt_empty_of_unfinished {front part after closers : List Char}
    (unfinished : Unfinished front part after closers) :
    closers ≠ [] ∧ (stopAt .empty (front ++ part ++ after) (Text.byteLength front)).1
      = outcome closers 0 (front ++ part) after := by
  refine ⟨unfinished.waiting, ?_⟩
  obtain ⟨parenthesis, run⟩ := run_of_unfinished unfinished
  obtain ⟨others, begins⟩ := List.head?_eq_some_iff.mp parenthesis
  rw [begins] at run
  rw [List.append_assoc, begins, stopAt_empty_paren,
    ← outcome_opener (lexemeAt_paren front others)]
  exact outcome_of_run run

theorem outcome_of_stuck {front after closers : List Char}
    (stuck : IsStuck front after closers) : outcome closers 0 front after = none := by
  cases after with
  | nil => rfl
  | cons c rest =>
    rcases stuck.lexemeAt with ⟨closes, mismatch⟩ | unclosed
    · exact outcome_mismatch closes mismatch
    · exact outcome_unclosed unclosed

/-- **The end of a call is that of the grammar.** Without a memo, the call at an offset ends where
the grammar derives a call from there, and nowhere if it derives none; that end is unique. There is
none behind an unfinished call that the text ends in, that a wrong closer stands behind, or in
which a literal or comment is never closed. -/
theorem stopAt_empty_accepts (text : List Char) (opened : Nat) :
    (∀ stop, (stopAt .empty text opened).1 = some stop ↔ IsCall text opened stop) ∧
    ((stopAt .empty text opened).1 = none ↔ ¬ ∃ stop, IsCall text opened stop) ∧
    (∀ first second, IsCall text opened first → IsCall text opened second → first = second) ∧
    ∀ front part after closers, text = front ++ part ++ after → Text.byteLength front = opened →
      Unfinished front part after closers → IsStuck (front ++ part) after closers →
      (stopAt .empty text opened).1 = none := by
  refine ⟨fun stop => stopAt_empty_eq_some_iff, ?_, ?_, ?_⟩
  · rw [Option.eq_none_iff_forall_ne_some, not_exists]
    exact forall_congr' fun stop => not_congr stopAt_empty_eq_some_iff
  · intro first second isFirst isSecond
    have atFirst := stopAt_empty_eq_some_iff.mpr isFirst
    have atSecond := stopAt_empty_eq_some_iff.mpr isSecond
    exact Option.some.inj (atFirst.symm.trans atSecond)
  · rintro front part after closers rfl rfl unfinished stuck
    rw [(stopAt_empty_of_unfinished unfinished).2]
    exact outcome_of_stuck stuck

end MessageRefs.Grammar
