import MessageRefs.Proofs.Call.Grammar
import MessageRefs.Proofs.Call.Pass

/-!
**Lexemes and the pieces of the grammar.**

The search for the end of a literal or comment finds the end that the grammar gives it.

* `closingFrom_of_inside`, `exists_inside_of_closingFrom`: literals;
* `lineFrom_of_body`, `blockFrom_of_body` and their converses: comments;
* `quoting_eq_quotingAt`: the grammar leaves no choice in how a literal is read;
* `IsPiece.lexemeAt`, `exists_piece_of_lexemeAt`: what is skipped as one lexeme is one piece;
* `IsStuck.lexemeAt`: where no open call goes on, no piece is skipped.
-/

namespace MessageRefs.Grammar

/-! ### Where a literal ends -/

section Literal

variable {quoting : Quoting}

theorem delimiter_single (single : quoting.isTriple = false) :
    delimiter quoting = [quoting.quote] := by
  simp [delimiter, single]

theorem delimiter_triple (triple : quoting.isTriple = true) :
    delimiter quoting = [quoting.quote, quoting.quote, quoting.quote] := by
  simp [delimiter, triple, List.replicate]

theorem exists_delimiter_eq_cons (quoting : Quoting) :
    ∃ others, delimiter quoting = quoting.quote :: others := by
  cases triple : quoting.isTriple with
  | false => exact ⟨[], delimiter_single triple⟩
  | true => exact ⟨_, delimiter_triple triple⟩

/-- Whether a delimiter begins at a character, in the terms of the search for it. -/
theorem delimiter_prefix_cons_iff {c : Char} {rest : List Char} :
    delimiter quoting <+: c :: rest ↔
      c = quoting.quote ∧ (quoting.isTriple = true → [c, c] <+: rest) := by
  cases triple : quoting.isTriple with
  | false =>
    rw [delimiter_single triple, List.cons_prefix_cons]
    simp [eq_comm]
  | true =>
    rw [delimiter_triple triple, List.cons_prefix_cons]
    constructor
    · rintro ⟨rfl, others⟩
      exact ⟨rfl, fun _ => others⟩
    · rintro ⟨rfl, others⟩
      exact ⟨rfl, others rfl⟩

theorem closingFrom_cons {c : Char} (unescaped : c = '\\' → quoting.isRaw = true) (count : Nat)
    (rest : List Char) :
    quoting.closingFrom count (c :: rest) =
      if delimiter quoting <+: c :: rest then some (count + (delimiter quoting).length)
      else quoting.closingFrom (count + 1) rest := by
  have proceeds : (decide (c = '\\') && !quoting.isRaw) = false := by
    by_cases backslash : c = '\\'
    · simp [unescaped backslash]
    · simp [backslash]
  rw [Quoting.closingFrom.eq_def]
  simp only [proceeds, Bool.false_eq_true, if_false]
  by_cases quote : c = quoting.quote
  · rw [if_pos quote]
    cases triple : quoting.isTriple with
    | false =>
      have begins : delimiter quoting <+: c :: rest :=
        delimiter_prefix_cons_iff.mpr ⟨quote, fun three => by simp [triple] at three⟩
      rw [if_pos begins, delimiter_single triple]
      rfl
    | true =>
      have begins : delimiter quoting <+: c :: rest ↔ [c, c].isPrefixOf rest = true := by
        rw [delimiter_prefix_cons_iff, List.isPrefixOf_iff_prefix]
        exact ⟨fun both => both.2 triple, fun follows => ⟨quote, fun _ => follows⟩⟩
      have three : (delimiter quoting).length = 3 := by
        rw [delimiter_triple triple]
        rfl
      simp only [begins, three]
      rfl
  · have begins : ¬ delimiter quoting <+: c :: rest := fun begins =>
      quote (delimiter_prefix_cons_iff.mp begins).1
    rw [if_neg quote, if_neg begins]

/-- A literal with a first delimiter is as long as its inside and the delimiter. -/
theorem closingFrom_of_inside {after inside : List Char}
    (within : Inside quoting (delimiter quoting ++ after) inside)
    (notEscape : quoting.quote ≠ '\\') (count : Nat) :
    quoting.closingFrom count (inside ++ (delimiter quoting ++ after))
      = some (count + (inside ++ delimiter quoting).length) := by
  induction within generalizing count with
  | none =>
    obtain ⟨others, opens⟩ := exists_delimiter_eq_cons quoting
    have begins : delimiter quoting ++ after = quoting.quote :: (others ++ after) := by
      rw [opens, List.cons_append]
    rw [List.nil_append, List.nil_append, begins,
      closingFrom_cons (fun backslash => absurd backslash notEscape), if_pos]
    exact ⟨after, begins⟩
  | escape escaped _ ih =>
    simp only [List.cons_append, Quoting.closingFrom, escaped, decide_true, Bool.not_false,
      Bool.and_self, if_true]
    rw [ih]
    simp only [List.length_cons]
    congr 1
    omega
  | plain unescaped hidden _ ih =>
    rw [List.cons_append] at hidden ⊢
    rw [closingFrom_cons unescaped, if_neg hidden, ih, List.cons_append, List.length_cons]
    congr 1
    omega

/-- Where the search for the end succeeds, it has found the first delimiter. -/
theorem exists_inside_of_closingFrom {count stop : Nat} {text : List Char}
    (closed : quoting.closingFrom count text = some stop) :
    ∃ inside after, text = inside ++ (delimiter quoting ++ after) ∧
      Inside quoting (delimiter quoting ++ after) inside ∧
      stop = count + (inside ++ delimiter quoting).length := by
  -- An escape takes two characters at once, so the induction is on the length.
  induction sized : text.length using Nat.strongRecOn generalizing text count with
  | ind size ih =>
    cases text with
    | nil => simp [Quoting.closingFrom] at closed
    | cons c rest =>
      rw [List.length_cons] at sized
      by_cases escape : c = '\\' ∧ quoting.isRaw = false
      · obtain ⟨rfl, escaped⟩ := escape
        cases rest with
        | nil => simp [Quoting.closingFrom, escaped] at closed
        | cons d others =>
          rw [List.length_cons] at sized
          simp only [Quoting.closingFrom, escaped, decide_true, Bool.not_false, Bool.and_self,
            if_true] at closed
          obtain ⟨inside, after, rfl, within, rfl⟩ := ih others.length (by omega) closed rfl
          refine ⟨'\\' :: d :: inside, after, rfl, .escape escaped within, ?_⟩
          simp only [List.cons_append, List.length_cons]
          omega
      · have unescaped : c = '\\' → quoting.isRaw = true := fun backslash =>
          Bool.of_not_eq_false fun escaped => escape ⟨backslash, escaped⟩
        rw [closingFrom_cons unescaped] at closed
        by_cases begins : delimiter quoting <+: c :: rest
        · rw [if_pos begins] at closed
          obtain ⟨after, equal⟩ := begins
          cases closed
          exact ⟨[], after, equal.symm, .none, rfl⟩
        · rw [if_neg begins] at closed
          obtain ⟨inside, after, rfl, within, rfl⟩ := ih rest.length (by omega) closed rfl
          refine ⟨c :: inside, after, rfl, .plain unescaped begins within, ?_⟩
          simp only [List.cons_append, List.length_cons]
          omega

end Literal

/-! ### Where a comment ends -/

section Comment

variable {after body text : List Char} {count stop : Nat}

theorem lineFrom_of_body (unbroken : '\n' ∉ body) (count : Nat) :
    Comment.lineFrom count (body ++ '\n' :: after) = some (count + body.length + 1) := by
  induction body generalizing count with
  | nil => simp [Comment.lineFrom]
  | cons c others ih =>
    rw [List.mem_cons, not_or] at unbroken
    rw [List.cons_append, Comment.lineFrom, if_neg (Ne.symm unbroken.1), ih unbroken.2,
      List.length_cons]
    congr 1
    omega

theorem exists_body_of_lineFrom (closed : Comment.lineFrom count text = some stop) :
    ∃ body after, text = body ++ '\n' :: after ∧ '\n' ∉ body ∧ stop = count + body.length + 1 := by
  induction text generalizing count with
  | nil => cases closed
  | cons c rest ih =>
    rw [Comment.lineFrom] at closed
    by_cases lineBreak : c = '\n'
    · rw [if_pos lineBreak] at closed
      cases closed
      subst lineBreak
      exact ⟨[], rest, rfl, List.not_mem_nil, rfl⟩
    · rw [if_neg lineBreak] at closed
      obtain ⟨body, after, rfl, unbroken, rfl⟩ := ih closed
      refine ⟨c :: body, after, rfl, ?_, ?_⟩
      · rw [List.mem_cons, not_or]
        exact ⟨Ne.symm lineBreak, unbroken⟩
      · rw [List.length_cons]
        omega

theorem blockFrom_of_body (unclosed : ¬ ['*', '/'] <:+: body) (count : Nat) :
    Comment.blockFrom count (body ++ '*' :: '/' :: after) = some (count + body.length + 2) := by
  induction body generalizing count with
  | nil => simp [Comment.blockFrom]
  | cons c others ih =>
    have proceeds :
        ¬ (decide (c = '*') && (others ++ '*' :: '/' :: after).head? == some '/') = true := by
      intro closes
      rw [Bool.and_eq_true, decide_eq_true_eq, beq_iff_eq] at closes
      obtain ⟨rfl, slash⟩ := closes
      cases others with
      | nil => cases slash
      | cons d more =>
        cases slash
        exact unclosed ⟨[], more, rfl⟩
    have inner : ¬ ['*', '/'] <:+: others := fun inside =>
      unclosed (List.infix_cons inside)
    rw [List.cons_append, Comment.blockFrom, if_neg proceeds, ih inner, List.length_cons]
    congr 1
    omega

theorem exists_body_of_blockFrom (closed : Comment.blockFrom count text = some stop) :
    ∃ body after, text = body ++ '*' :: '/' :: after ∧ ¬ ['*', '/'] <:+: body ∧
      stop = count + body.length + 2 := by
  induction text generalizing count with
  | nil => cases closed
  | cons c rest ih =>
    rw [Comment.blockFrom] at closed
    by_cases closes : (decide (c = '*') && rest.head? == some '/') = true
    · rw [if_pos closes] at closed
      cases closed
      rw [Bool.and_eq_true, decide_eq_true_eq, beq_iff_eq] at closes
      obtain ⟨rfl, slash⟩ := closes
      obtain ⟨after, rfl⟩ := List.head?_eq_some_iff.mp slash
      exact ⟨[], after, rfl, by simp, rfl⟩
    · rw [if_neg closes] at closed
      obtain ⟨body, after, rfl, unclosed, rfl⟩ := ih closed
      refine ⟨c :: body, after, rfl, ?_, ?_⟩
      · intro inside
        rcases List.infix_cons_iff.mp inside with begins | inner
        · obtain ⟨rfl, follows⟩ := List.cons_prefix_cons.mp begins
          apply closes
          cases body with
          | nil => simp at follows
          | cons d more =>
            obtain ⟨rfl, -⟩ := List.cons_prefix_cons.mp follows
            rfl
        · exact unclosed inner
      · rw [List.length_cons]
        omega

end Comment

/-! ### The quoting of a literal -/

section Quoted

variable (front rest : List Char) (quote : Char)

theorem isRawBehind_iff : IsRawBehind front ↔
    (front.getLast? == some 'r' && !front.dropLast.getLast?.any Text.isIdentifierChar) = true := by
  rw [Bool.and_eq_true, beq_iff_eq, Bool.not_eq_true', List.getLast?_eq_some_iff]
  constructor
  · rintro ⟨earlier, rfl, lone⟩
    refine ⟨⟨earlier, rfl⟩, ?_⟩
    rw [List.dropLast_concat]
    cases last : earlier.getLast? with
    | none => rfl
    | some c => simpa using lone c (by simp [last])
  · rintro ⟨⟨earlier, rfl⟩, lone⟩
    refine ⟨earlier, rfl, fun c member => ?_⟩
    rw [List.dropLast_concat, Option.mem_def.mp member] at lone
    simpa using lone

/-- The quoting of a literal that opens behind `front`. -/
def quotingAt (front : List Char) (quote : Char) (rest : List Char) : Quoting :=
  if quote = '\x60' then ⟨quote, false, false⟩
  else .ofQuote front.dropLast.getLast? front.getLast? quote rest

theorem quotingAt_quote : (quotingAt front quote rest).quote = quote := by
  unfold quotingAt Quoting.ofQuote
  split <;> rfl

theorem quotingAt_isTriple_iff : (quotingAt front quote rest).isTriple = true ↔
    quote ≠ '\x60' ∧ List.replicate 3 quote <+: quote :: rest := by
  have three : List.replicate 3 quote <+: quote :: rest
      ↔ [quote, quote].isPrefixOf rest = true := by
    rw [List.isPrefixOf_iff_prefix, show List.replicate 3 quote = quote :: [quote, quote] from rfl,
      List.cons_prefix_cons]
    simp
  rw [three, quotingAt]
  by_cases backtick : quote = '\x60'
  · simp [backtick]
  · simp [backtick, Quoting.ofQuote]

theorem quotingAt_isRaw_iff :
    (quotingAt front quote rest).isRaw = true ↔ quote ≠ '\x60' ∧ IsRawBehind front := by
  rw [isRawBehind_iff, quotingAt]
  by_cases backtick : quote = '\x60'
  · simp [backtick]
  · simp [backtick, Quoting.ofQuote]

/-- A lexeme that begins with a quote is a literal of that quoting. -/
theorem lexemeAt_quote {quote : Char} (quoted : quote ∈ ['\'', '"', '\x60']) :
    Call.lexemeAt front quote rest = .ofLength? ((quotingAt front quote rest).length? rest) := by
  simp only [List.mem_cons, List.not_mem_nil, or_false] at quoted
  rcases quoted with rfl | rfl | rfl <;> rfl

/-- The grammar leaves no choice in the quoting of a literal. -/
theorem quoting_eq_quotingAt {quoting : Quoting} {front rest : List Char} {quote : Char}
    (begins : quoting.quote = quote)
    (triple : quoting.isTriple = true ↔
      quoting.quote ≠ '\x60' ∧ List.replicate 3 quoting.quote <+: quote :: rest)
    (raw : quoting.isRaw = true ↔ quoting.quote ≠ '\x60' ∧ IsRawBehind front) :
    quoting = quotingAt front quote rest := by
  subst begins
  rw [← quotingAt_isTriple_iff front] at triple
  rw [← quotingAt_isRaw_iff front rest] at raw
  have sameQuote := quotingAt_quote front rest quoting.quote
  rcases equal : quotingAt front quoting.quote rest with ⟨quote', triple', raw'⟩
  rw [equal] at triple raw sameQuote
  subst sameQuote
  rcases quoting with ⟨quote, triple'', raw''⟩
  rw [Quoting.mk.injEq]
  exact ⟨rfl, Bool.eq_iff_iff.mpr triple, Bool.eq_iff_iff.mpr raw⟩

end Quoted

/-! ### The pieces among the lexemes -/

section Piece

variable {front rest part after further : List Char} {c : Char}

/-- Behind the opening delimiter of a literal, the closing one is searched for. -/
theorem length?_eq_closingFrom {quoting : Quoting}
    (opens : quoting.isTriple = true → [quoting.quote, quoting.quote] <+: rest) :
    ∃ opening behind, opening + 1 = (delimiter quoting).length ∧
      quoting.quote :: rest = delimiter quoting ++ behind ∧
      quoting.length? rest = quoting.closingFrom opening behind := by
  cases triple : quoting.isTriple with
  | false =>
    refine ⟨0, rest, ?_, ?_, ?_⟩
    · rw [delimiter_single triple]
      rfl
    · rw [delimiter_single triple]
      rfl
    · simp [Quoting.length?, triple]
  | true =>
    obtain ⟨behind, rfl⟩ := opens triple
    refine ⟨2, behind, ?_, ?_, ?_⟩
    · rw [delimiter_triple triple]
      rfl
    · rw [delimiter_triple triple]
      rfl
    · simp [Quoting.length?, triple]

theorem quotingAt_opens (front rest : List Char) (quote : Char) :
    (quotingAt front quote rest).isTriple = true →
      [(quotingAt front quote rest).quote, (quotingAt front quote rest).quote] <+: rest := by
  intro triple
  obtain ⟨-, three⟩ := (quotingAt_isTriple_iff front rest quote).mp triple
  rw [quotingAt_quote]
  exact (List.cons_prefix_cons.mp three).2

theorem IsLiteral.lexemeAt (literal : IsLiteral front (c :: further) after) :
    Call.lexemeAt front c (further ++ after) = .skipped further.length := by
  obtain ⟨quoting, inside, quoted, triple, raw, whole, within⟩ := literal
  have notEscape : quoting.quote ≠ '\\' := by
    intro backslash
    rw [backslash] at quoted
    exact absurd quoted (by decide)
  have begins : quoting.quote = c := by
    obtain ⟨others, opens⟩ := exists_delimiter_eq_cons quoting
    rw [opens] at whole
    exact (List.cons.inj whole).1.symm
  have same : quoting = quotingAt front c (further ++ after) :=
    quoting_eq_quotingAt begins triple raw
  obtain ⟨opening, behind, counted, opened, searched⟩ :=
    length?_eq_closingFrom (same ▸ quotingAt_opens front (further ++ after) c)
  have remaining : behind = inside ++ (delimiter quoting ++ after) := by
    have aligned : delimiter quoting ++ behind
        = delimiter quoting ++ (inside ++ (delimiter quoting ++ after)) := by
      rw [← opened, begins, ← List.cons_append, whole]
      simp only [List.append_assoc]
    exact List.append_cancel_left aligned
  rw [begins] at quoted
  rw [lexemeAt_quote front _ quoted, ← same, searched, remaining, closingFrom_of_inside within
    notEscape, Lexeme.ofLength?]
  have sized := congrArg List.length whole
  simp only [List.length_cons, List.length_append] at sized ⊢
  congr 1
  omega

theorem exists_literal_of_lexemeAt (quoted : c ∈ ['\'', '"', '\x60']) {skipped : Nat}
    (lexeme : Call.lexemeAt front c rest = .skipped skipped) :
    ∃ further after, rest = further ++ after ∧ further.length = skipped ∧
      IsLiteral front (c :: further) after := by
  rw [lexemeAt_quote front rest quoted] at lexeme
  obtain ⟨opening, behind, counted, opened, searched⟩ :=
    length?_eq_closingFrom (quotingAt_opens front rest c)
  rw [searched] at lexeme
  have triple := quotingAt_isTriple_iff front rest c
  have raw := quotingAt_isRaw_iff front rest c
  have begins := quotingAt_quote front rest c
  generalize quotingAt front c rest = quoting at *
  subst begins
  cases closed : quoting.closingFrom opening behind with
  | none => simp [closed, Lexeme.ofLength?] at lexeme
  | some stop =>
    obtain ⟨inside, after, rfl, within, rfl⟩ := exists_inside_of_closingFrom closed
    rw [closed, Lexeme.ofLength?, Lexeme.skipped.injEq] at lexeme
    -- The opening delimiter is at least the quote itself.
    obtain ⟨others, opens⟩ := exists_delimiter_eq_cons quoting
    have restEq : rest = others ++ inside ++ delimiter quoting ++ after := by
      rw [opens, List.cons_append] at opened
      rw [(List.cons.inj opened).2]
      simp only [List.append_assoc, ← opens]
    refine ⟨others ++ inside ++ delimiter quoting, after, restEq, ?_, quoting, inside, quoted, ?_,
      raw, ?_, within⟩
    · rw [← lexeme]
      rw [opens, List.length_cons] at counted
      simp only [List.length_append]
      omega
    · rw [triple, restEq, List.cons_append]
    · rw [← List.cons_append, ← List.cons_append, ← opens]

theorem IsComment.lexemeAt (comment : IsComment (c :: further)) :
    Call.lexemeAt front c (further ++ after) = .skipped further.length := by
  generalize whole : c :: further = part at comment
  cases comment with
  | @line body unbroken =>
    obtain ⟨rfl, rfl⟩ : c = '/' ∧ further = '/' :: (body ++ ['\n']) := List.cons.inj whole
    change Lexeme.ofLength? (Comment.lineFrom 1 (body ++ ['\n'] ++ after)) = _
    rw [List.append_assoc, List.singleton_append, lineFrom_of_body unbroken, Lexeme.ofLength?]
    simp only [List.length_append, List.length_cons, List.length_nil]
    congr 1
    omega
  | @block body unclosed =>
    obtain ⟨rfl, rfl⟩ : c = '/' ∧ further = '*' :: (body ++ ['*', '/']) := List.cons.inj whole
    change Lexeme.ofLength? (Comment.blockFrom 1 (body ++ ['*', '/'] ++ after)) = _
    rw [List.append_assoc, List.cons_append, List.singleton_append, blockFrom_of_body unclosed,
      Lexeme.ofLength?]
    simp only [List.length_append, List.length_cons, List.length_nil]
    congr 1
    omega

theorem IsPlain.lexemeAt (plain : IsPlain c rest) : Call.lexemeAt front c rest = .skipped 0 := by
  obtain ⟨unreserved, noComment⟩ := plain
  unfold Call.lexemeAt Lexeme.next
  split
  case h_10 =>
    split
    · exact absurd rfl (noComment rfl).1
    · exact absurd rfl (noComment rfl).2
    · rfl
  case h_11 => rfl
  all_goals exact absurd unreserved (by decide)

/-- **A piece of the grammar is skipped as one lexeme.** -/
theorem IsPiece.lexemeAt (piece : IsPiece front (c :: further) after) :
    Call.lexemeAt front c (further ++ after) = .skipped further.length := by
  rcases piece with literal | comment | ⟨d, single, plain⟩
  · exact literal.lexemeAt
  · exact comment.lexemeAt
  · cases single
    exact plain.lexemeAt

theorem exists_comment_of_lexemeAt {second : Char} {others : List Char}
    (opens : second = '/' ∨ second = '*') {skipped : Nat}
    (lexeme : Call.lexemeAt front '/' (second :: others) = .skipped skipped) :
    ∃ further after, second :: others = further ++ after ∧ further.length = skipped ∧
      IsComment ('/' :: further) := by
  rcases opens with rfl | rfl
  · change Lexeme.ofLength? (Comment.lineFrom 1 others) = _ at lexeme
    cases closed : Comment.lineFrom 1 others with
    | none => simp [closed, Lexeme.ofLength?] at lexeme
    | some stop =>
      obtain ⟨body, after, rfl, unbroken, rfl⟩ := exists_body_of_lineFrom closed
      rw [closed, Lexeme.ofLength?, Lexeme.skipped.injEq] at lexeme
      refine ⟨'/' :: body ++ ['\n'], after, by simp, ?_, .line unbroken⟩
      simp only [List.length_append, List.length_cons, List.length_nil]
      omega
  · change Lexeme.ofLength? (Comment.blockFrom 1 others) = _ at lexeme
    cases closed : Comment.blockFrom 1 others with
    | none => simp [closed, Lexeme.ofLength?] at lexeme
    | some stop =>
      obtain ⟨body, after, rfl, unclosed, rfl⟩ := exists_body_of_blockFrom closed
      rw [closed, Lexeme.ofLength?, Lexeme.skipped.injEq] at lexeme
      refine ⟨'*' :: body ++ ['*', '/'], after, by simp, ?_, .block unclosed⟩
      simp only [List.length_append, List.length_cons, List.length_nil]
      omega

/-- **What is skipped as one lexeme is a piece of the grammar.** -/
theorem exists_piece_of_lexemeAt {skipped : Nat}
    (lexeme : Call.lexemeAt front c rest = .skipped skipped) :
    ∃ further after, rest = further ++ after ∧ further.length = skipped ∧
      IsPiece front (c :: further) after := by
  by_cases quoted : c ∈ ['\'', '"', '\x60']
  · obtain ⟨further, after, split, sized, literal⟩ := exists_literal_of_lexemeAt quoted lexeme
    exact ⟨further, after, split, sized, .inl literal⟩
  by_cases comments : c = '/' ∧ (rest.head? = some '/' ∨ rest.head? = some '*')
  · obtain ⟨rfl, opens⟩ := comments
    cases rest with
    | nil => simp at opens
    | cons second others =>
      have starts : second = '/' ∨ second = '*' := by simpa using opens
      obtain ⟨further, after, split, sized, comment⟩ := exists_comment_of_lexemeAt starts lexeme
      exact ⟨further, after, split, sized, .inr (.inl comment)⟩
  · have plain : IsPlain c rest := by
      refine ⟨fun reserved => ?_, fun slash => ?_⟩
      · have delimits : Call.lexemeAt front c rest = .closer ∨
            ∃ closing, Call.lexemeAt front c rest = .opener closing := by
          simp only [Call.lexemeAt_eq_closer_iff, Call.lexemeAt_eq_opener_iff, Call.IsPair]
          simp only [List.mem_cons, List.not_mem_nil, or_false] at reserved quoted
          grind
        rcases delimits with closes | ⟨closing, opens⟩
        · rw [closes] at lexeme
          cases lexeme
        · rw [opens] at lexeme
          cases lexeme
      · exact ⟨fun line => comments ⟨slash, .inl line⟩, fun block => comments ⟨slash, .inr block⟩⟩
    have alone : skipped = 0 := by
      rw [plain.lexemeAt] at lexeme
      exact (Lexeme.skipped.inj lexeme).symm
    exact ⟨[], rest, rfl, alone.symm, .inr (.inr ⟨c, rfl, plain⟩)⟩

theorem IsPiece.ne_nil (piece : IsPiece front part after) : part ≠ [] := by
  rcases piece with ⟨quoting, inside, -, -, -, rfl, -⟩ | comment | ⟨c, rfl, -⟩
  · cases triple : quoting.isTriple with
    | false => simp [delimiter_single triple]
    | true => simp [delimiter_triple triple]
  · cases comment <;> simp
  · simp

/-- Where no open call goes on, another delimiter is closed or a piece is never closed. -/
theorem IsStuck.lexemeAt {closers : List Char} (stuck : IsStuck front (c :: rest) closers) :
    Call.lexemeAt front c rest = .closer ∧ closers.head? ≠ some c ∨
      Call.lexemeAt front c rest = .unclosed := by
  obtain ⟨_, _, same, stuck⟩ := stuck.resolve_left (List.cons_ne_nil _ _)
  cases same
  rcases stuck with ⟨closing, mismatch⟩ | ⟨noDelimiter, noPiece⟩
  · exact .inl ⟨Call.lexemeAt_eq_closer_iff.mpr closing, mismatch⟩
  · cases lexeme : Call.lexemeAt front c rest with
    | opener closing =>
      rcases Call.isPair_iff.mp (Call.lexemeAt_eq_opener_iff.mp lexeme) with
        ⟨rfl, -⟩ | ⟨rfl, -⟩ | ⟨rfl, -⟩ <;> exact absurd noDelimiter (by decide)
    | closer =>
      have closing := Call.lexemeAt_eq_closer_iff.mp lexeme
      simp only [List.mem_cons, List.not_mem_nil, or_false] at closing
      rcases closing with rfl | rfl | rfl <;> exact absurd noDelimiter (by decide)
    | skipped further =>
      obtain ⟨piece, behind, split, -, isPiece⟩ := exists_piece_of_lexemeAt lexeme
      exact absurd isPiece (noPiece piece behind split)
    | unclosed => exact .inr rfl

end Piece

end MessageRefs.Grammar
