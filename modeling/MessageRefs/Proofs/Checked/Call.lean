import MessageRefs.Proofs.Call.Pass
import MessageRefs.Proofs.Checked.Slices
import MessageRefs.Proofs.Text.Path
import MessageRefs.Reference

/-!
**Paths and calls, with their cuts.**

A pass over an argument list knows where it stands by its offset in the text behind the opening
parenthesis. At a quote it cuts that text one and two bytes on, to see whether the quote is tripled,
and the whole text at the quote and at the `r` before it.

* `isRaw_eq`, `isTripled_eq`, `isClosedThrice_eq`: what stands around a quote;
* `closing_eq`: a literal is read to its end without a fault;
* `lexeme_eq`, `pass_eq`: so is every lexeme, and the whole argument list;
* `callEnd_eq`, `pathLength_eq`, `parse_eq`: a call and a path are read without a fault, as they are
  without cuts.
-/

namespace MessageRefs.Checked

/-! ### Quotes -/

/-- Whether a lone `r` stands before the quote at an offset. -/
def isRaw (text : List Char) (quoteAt : Nat) : Except Fault Bool := do
  if (← charBefore text quoteAt) = some 'r' then
    return !(← charBefore text (← difference quoteAt 1)).any Text.isIdentifierChar
  else return false

/-- Whether two more quotes stand behind the one at an offset. -/
def isTripled (source : List Char) (index : Nat) (quote : Char) : Except Fault Bool := do
  if (← behind source (index + 1)).head? = some quote then
    return decide ((← behind source (index + 2)).head? = some quote)
  else return false

/-- Whether two more quotes stand behind the one at an offset of a literal. -/
def isClosedThrice (source : List Char) (index : Nat) (quote : Char) : Except Fault Bool := do
  let rest ← behind source (index + 1)
  if rest.head? = some quote then return decide ((← behind rest 1).head? = some quote)
  else return false

theorem isRaw_eq (front rest : List Char) :
    isRaw (front ++ rest) (Text.byteLength front)
      = .ok (front.getLast? == some 'r' && !front.dropLast.getLast?.any Text.isIdentifierChar) := by
  rw [isRaw, charBefore_byteLength, ok_bind]
  by_cases isR : front.getLast? = some 'r'
  · obtain ⟨init, rfl⟩ := List.getLast?_eq_some_iff.mp isR
    have size : Text.byteLength (init ++ ['r']) - 1 = Text.byteLength init := by
      rw [Text.byteLength_append]
      exact Nat.add_sub_cancel _ 1
    have positive : 1 ≤ Text.byteLength (init ++ ['r']) := by
      rw [Text.byteLength_append]
      exact Nat.le_add_left 1 _
    rw [if_pos isR, difference_eq positive, ok_bind, size, List.append_assoc,
      charBefore_byteLength, ok_bind, List.dropLast_concat, isR]
    rfl
  · have notR : (front.getLast? == some 'r') = false := by simpa using isR
    rw [if_neg isR, notR]
    rfl

theorem decide_head? (quote : Char) (rest : List Char) :
    decide (rest.head? = some quote) = [quote].isPrefixOf rest := by
  cases rest with
  | nil => rfl
  | cons c rest =>
    by_cases same : c = quote
    · simp [List.isPrefixOf, same]
    · simp [List.isPrefixOf, same, Ne.symm same]

section Triple

variable {quote : Char} (single : quote.utf8Size = 1) (done rest : List Char)

include single

theorem behind_quote :
    behind (done ++ quote :: rest) (Text.byteLength done + 1) = .ok rest := by
  have size : Text.byteLength (done ++ [quote]) = Text.byteLength done + 1 := by
    rw [Text.byteLength_append, Text.byteLength_cons, single]
    rfl
  rw [← size, List.append_cons, behind_byteLength]

/-- Behind one quote and another, the cut that looks for the third is in place. -/
theorem isTripled_eq :
    isTripled (done ++ quote :: rest) (Text.byteLength done) quote
      = .ok ([quote, quote].isPrefixOf rest) := by
  rw [isTripled, behind_quote single, ok_bind]
  cases rest with
  | nil => rfl
  | cons second rest =>
    by_cases same : second = quote
    · subst same
      have size : Text.byteLength done + 2 = Text.byteLength (done ++ [second]) + 1 := by
        rw [Text.byteLength_append, Text.byteLength_cons, single]
        rfl
      rw [List.append_cons, size, behind_quote single, ok_bind, decide_head?]
      simp [List.isPrefixOf]
    · simp [List.isPrefixOf, same, Ne.symm same]

theorem isClosedThrice_eq :
    isClosedThrice (done ++ quote :: rest) (Text.byteLength done) quote
      = .ok ([quote, quote].isPrefixOf rest) := by
  rw [isClosedThrice, behind_quote single, ok_bind]
  cases rest with
  | nil => rfl
  | cons second rest =>
    by_cases same : second = quote
    · subst same
      have cut : behind (second :: rest) 1 = .ok rest := behind_quote single [] rest
      rw [cut, ok_bind, decide_head?]
      simp [List.isPrefixOf]
    · simp [List.isPrefixOf, same, Ne.symm same]

end Triple

/-! ### Lexemes -/

/-- The number of characters through the closing quote, counted on from `count`, where `index` is
the offset in `source` of the text that is left. -/
def closing (source : List Char) (quoting : Quoting) (index count : Nat) :
    List Char → Except Fault (Option Nat)
  | [] => return none
  | c :: rest => do
    let beyond := index + c.utf8Size
    if c = '\\' && !quoting.isRaw then
      match rest with
      | [] => return none
      | escaped :: others => closing source quoting (beyond + escaped.utf8Size) (count + 2) others
    else if c = quoting.quote then
      if !quoting.isTriple then return some (count + 1)
      else if ← isClosedThrice source index c then return some (count + 3)
      else closing source quoting beyond (count + 1) rest
    else closing source quoting beyond (count + 1) rest

/-- The lexeme of a literal whose first quote stands at the offset `index` of `source`. -/
def literal (source : List Char) (quoting : Quoting) (index : Nat) (rest : List Char) :
    Except Fault Lexeme := do
  if quoting.isTriple then
    return .ofLength? (← closing source quoting (index + 3) 2 (rest.drop 2))
  else return .ofLength? (← closing source quoting (index + 1) 0 rest)

/-- The lexeme that begins with `c` at the offset `index` of `source`, the text behind the offset
`opened`. -/
def lexeme (text source : List Char) (opened index : Nat) (c : Char) (rest : List Char) :
    Except Fault Lexeme := do
  if c = '\'' ∨ c = '"' then
    let isTriple ← isTripled source index c
    literal source ⟨c, isTriple, ← isRaw text (opened + index)⟩ index rest
  else return Lexeme.next none none c rest

section Closing

variable {source rest : List Char} {quoting : Quoting} {index count : Nat} {c : Char}
  (plain : ¬(decide (c = '\\') && !quoting.isRaw) = true)

include plain

theorem closing_other (other : c ≠ quoting.quote) :
    closing source quoting index count (c :: rest)
      = closing source quoting (index + c.utf8Size) (count + 1) rest := by
  cases rest <;> conv_lhs => rw [closing, if_neg plain, if_neg other]

theorem closing_quote (isQuote : c = quoting.quote) :
    closing source quoting index count (c :: rest)
      = (do
        if !quoting.isTriple then return some (count + 1)
        else if ← isClosedThrice source index c then return some (count + 3)
        else closing source quoting (index + c.utf8Size) (count + 1) rest) := by
  cases rest <;> conv_lhs => rw [closing, if_neg plain, if_pos isQuote]

end Closing

/-- **A literal is read to its end without a fault.** -/
theorem closing_eq {quoting : Quoting} (single : quoting.quote.utf8Size = 1)
    (done : List Char) (count : Nat) (rest : List Char) :
    closing (done ++ rest) quoting (Text.byteLength done) count rest
      = .ok (quoting.closingFrom count rest) := by
  fun_induction Quoting.closingFrom quoting count rest generalizing done with
  | case1 => rfl
  | case2 count c escapes =>
    rw [closing, if_pos escapes]
    rfl
  | case3 count c escapes escaped others ih =>
    rw [closing, if_pos escapes, ← Text.byteLength_concat, ← Text.byteLength_concat,
      List.append_cons, List.append_cons, ih]
  | case4 count rest isSingle plain =>
    rw [closing_quote plain rfl, if_pos isSingle, pure_eq_ok]
  | case5 count rest isTriple plain closed =>
    rw [closing_quote plain rfl, if_neg isTriple, isClosedThrice_eq single, ok_bind, if_pos closed,
      pure_eq_ok]
  | case6 count rest isTriple plain goesOn ih =>
    rw [closing_quote plain rfl, if_neg isTriple, isClosedThrice_eq single, ok_bind, if_neg goesOn,
      ← Text.byteLength_concat, List.append_cons, ih]
  | case7 count c rest plain other ih =>
    rw [closing_other plain other, ← Text.byteLength_concat, List.append_cons, ih]

theorem literal_eq {quoting : Quoting} (single : quoting.quote.utf8Size = 1) (done : List Char)
    {rest : List Char}
    (tripled : quoting.isTriple = true → [quoting.quote, quoting.quote] <+: rest) :
    literal (done ++ quoting.quote :: rest) quoting (Text.byteLength done) rest
      = .ok (.ofLength? (quoting.length? rest)) := by
  rw [literal, Quoting.length?]
  by_cases isTriple : quoting.isTriple = true
  · obtain ⟨others, rfl⟩ := tripled isTriple
    have size : Text.byteLength done + 3
        = Text.byteLength (done ++ [quoting.quote, quoting.quote, quoting.quote]) := by
      simp [single]
    have split : done ++ quoting.quote :: ([quoting.quote, quoting.quote] ++ others)
        = done ++ [quoting.quote, quoting.quote, quoting.quote] ++ others := by simp
    have behindQuotes : ([quoting.quote, quoting.quote] ++ others).drop 2 = others := rfl
    rw [if_pos isTriple, if_pos isTriple, behindQuotes, size, split, closing_eq single, ok_bind,
      pure_eq_ok]
  · have size : Text.byteLength done + 1 = Text.byteLength (done ++ [quoting.quote]) := by
      rw [Text.byteLength_concat, single]
    rw [if_neg isTriple, if_neg isTriple, size, List.append_cons, closing_eq single, ok_bind,
      pure_eq_ok]

/-- What stands before a character that is no quote does not matter. -/
theorem next_of_not_quote (earlier before : Option Char) {c : Char}
    (other : ¬(c = '\'' ∨ c = '"')) (rest : List Char) :
    Lexeme.next earlier before c rest = Lexeme.next none none c rest := by
  unfold Lexeme.next
  split <;> simp_all

/-- **Every lexeme is read without a fault.** -/
theorem lexeme_eq (front done : List Char) (c : Char) (rest : List Char) :
    lexeme (front ++ (done ++ c :: rest)) (done ++ c :: rest) (Text.byteLength front)
        (Text.byteLength done) c rest
      = .ok (Call.lexemeAt (front ++ done) c rest) := by
  rw [lexeme, Call.lexemeAt]
  generalize earlier : (front ++ done).dropLast.getLast? = first
  generalize before : (front ++ done).getLast? = second
  by_cases isQuote : c = '\'' ∨ c = '"'
  · have single : c.utf8Size = 1 := by rcases isQuote with rfl | rfl <;> rfl
    have next_quote : Lexeme.next first second c rest
        = .ofLength? ((Quoting.ofQuote first second c rest).length? rest) := by
      rcases isQuote with rfl | rfl <;> rfl
    rw [if_pos isQuote, isTripled_eq single, ok_bind, ← Text.byteLength_append,
      ← List.append_assoc, isRaw_eq, ok_bind, earlier, before, next_quote]
    exact literal_eq single done fun triple => List.isPrefixOf_iff_prefix.mp triple
  · rw [if_neg isQuote, next_of_not_quote first second isQuote, pure_eq_ok]

/-! ### Argument lists -/

/-- The pass over an argument list, which stands at the offset `index` of `source`, the text behind
the offset `opened`. -/
def pass (text source : List Char) (opened : Nat) (memo : Call.Memo) (stack : List Call.Frame)
    (skip index : Nat) : List Char → Except Fault (Option Nat × Call.Memo)
  | [] => return (none, memo.abandon stack)
  | c :: rest => do
    let place := opened + index
    let beyond := index + c.utf8Size
    match skip with
    | skip + 1 => pass text source opened memo stack skip beyond rest
    | 0 =>
      match ← lexeme text source opened index c rest with
      | .opener closer => pass text source opened memo (⟨closer, place⟩ :: stack) 0 beyond rest
      | .skipped further => pass text source opened memo stack further beyond rest
      | .unclosed => return (none, memo.abandon stack)
      | .closer =>
        match stack with
        | [] => return (none, memo)
        | frame :: outer =>
          if frame.closer = c then
            let stop := place + c.utf8Size
            let memo := if c = ')' then memo.settle frame.opened (some stop) else memo
            if outer.isEmpty then return (some stop, memo)
            else pass text source opened memo outer 0 beyond rest
          else return (none, memo.abandon stack)

/-- The offset just past the parenthesis that closes the one at an offset. -/
def callEnd (text : List Char) (opened : Nat) (memo : Call.Memo) :
    Except Fault (Option Nat × Call.Memo) := do
  let source ← behind text opened
  if source.head? = some '(' then
    match memo.get? opened with
    | some known => return (known, memo)
    | none => pass text source opened memo [] 0 0 source
  else return (none, memo)

section PassStep

variable {text source rest : List Char} {opened index : Nat} {memo : Call.Memo}
  {stack : List Call.Frame} {c : Char}

theorem pass_skip (skip : Nat) :
    pass text source opened memo stack (skip + 1) index (c :: rest)
      = pass text source opened memo stack skip (index + c.utf8Size) rest := rfl

theorem pass_opener {closer : Char}
    (read : lexeme text source opened index c rest = .ok (.opener closer)) :
    pass text source opened memo stack 0 index (c :: rest)
      = pass text source opened memo (⟨closer, opened + index⟩ :: stack) 0 (index + c.utf8Size)
          rest := by
  cases stack <;> conv_lhs => rw [pass, read, ok_bind]

theorem pass_skipped {further : Nat}
    (read : lexeme text source opened index c rest = .ok (.skipped further)) :
    pass text source opened memo stack 0 index (c :: rest)
      = pass text source opened memo stack further (index + c.utf8Size) rest := by
  cases stack <;> conv_lhs => rw [pass, read, ok_bind]

theorem pass_unclosed (read : lexeme text source opened index c rest = .ok .unclosed) :
    pass text source opened memo stack 0 index (c :: rest) = .ok (none, memo.abandon stack) := by
  cases stack <;> rw [pass, read, ok_bind, pure_eq_ok]

theorem pass_closer_nil (read : lexeme text source opened index c rest = .ok .closer) :
    pass text source opened memo [] 0 index (c :: rest) = .ok (none, memo) := by
  rw [pass, read, ok_bind]
  rfl

theorem pass_closer {frame : Call.Frame}
    (read : lexeme text source opened index c rest = .ok .closer) :
    pass text source opened memo (frame :: stack) 0 index (c :: rest) =
      if frame.closer = c then
        let stop := opened + index + c.utf8Size
        let memo := if c = ')' then memo.settle frame.opened (some stop) else memo
        if stack.isEmpty then .ok (some stop, memo)
        else pass text source opened memo stack 0 (index + c.utf8Size) rest
      else .ok (none, memo.abandon (frame :: stack)) := by
  conv_lhs => rw [pass, read, ok_bind]
  rfl

end PassStep

/-- **A pass over an argument list meets no fault**, from any place and with any memo. -/
theorem pass_eq (front done : List Char) (memo : Call.Memo) (stack : List Call.Frame) (skip : Nat)
    (rest : List Char) :
    pass (front ++ (done ++ rest)) (done ++ rest) (Text.byteLength front) memo stack skip
        (Text.byteLength done) rest
      = .ok (Call.passAt memo stack skip (front ++ done) rest) := by
  induction rest generalizing done memo stack skip with
  | nil => rfl
  | cons c rest ih =>
    have step (memo : Call.Memo) (stack : List Call.Frame) (skip : Nat) :
        pass (front ++ (done ++ c :: rest)) (done ++ c :: rest) (Text.byteLength front) memo stack
            skip (Text.byteLength done + c.utf8Size) rest
          = .ok (Call.passAt memo stack skip (front ++ done ++ [c]) rest) := by
      rw [← Text.byteLength_concat, List.append_cons done, ih, List.append_assoc]
    have read := lexeme_eq front done c rest
    cases skip with
    | succ skip =>
      rw [pass_skip, Call.passAt_skip]
      exact step memo stack skip
    | zero =>
      cases lexeme : Call.lexemeAt (front ++ done) c rest with
      | opener closer =>
        rw [pass_opener (lexeme ▸ read), Call.passAt_opener lexeme, ← Text.byteLength_append]
        exact step ..
      | skipped further =>
        rw [pass_skipped (lexeme ▸ read), Call.passAt_skipped lexeme]
        exact step ..
      | unclosed => rw [pass_unclosed (lexeme ▸ read), Call.passAt_unclosed lexeme]
      | closer =>
        cases stack with
        | nil => rw [pass_closer_nil (lexeme ▸ read), Call.passAt_closer_nil lexeme]
        | cons frame outer =>
          have size : Text.byteLength front + Text.byteLength done + c.utf8Size
              = Text.byteLength (front ++ done ++ [c]) := by
            rw [← Text.byteLength_append, ← Text.byteLength_concat]
          rw [pass_closer (lexeme ▸ read), Call.passAt_closer lexeme, size]
          by_cases matched : frame.closer = c
          · simp only [if_pos matched]
            by_cases outermost : outer.isEmpty
            · rw [if_pos outermost, if_pos outermost]
            · rw [if_neg outermost, if_neg outermost]
              exact step ..
          · rw [if_neg matched, if_neg matched]

theorem callEnd_eq (front rest : List Char) (memo : Call.Memo) :
    callEnd (front ++ rest) (Text.byteLength front) memo
      = .ok (Call.stop memo (Text.byteLength front) rest) := by
  rw [callEnd, behind_byteLength, ok_bind, Call.stop]
  by_cases parenthesis : rest.head? = some '('
  · obtain ⟨others, rfl⟩ := List.head?_eq_some_iff.mp parenthesis
    rw [if_pos parenthesis, if_pos parenthesis]
    cases memo.get? (Text.byteLength front) with
    | some known => rfl
    | none =>
      have passed := pass_eq front [] memo [] 0 ('(' :: others)
      rw [List.append_nil] at passed
      dsimp only
      rw [Call.balance_start]
      exact passed
  · rw [if_neg parenthesis, if_neg parenthesis]
    rfl

/-! ### Paths -/

/-- The number of bytes of the path at the front of a text. -/
def pathLength (text : List Char) : Except Fault Nat := do
  let run := (firstOf? (fun c => !Text.isPathChar c) text).getD (Text.byteLength text)
  return Text.byteLength (Text.dropBack (· == '.') (← upTo text run))

/-- The path, and the call right behind it, at an offset. -/
def parse (text : List Char) (offset : Nat) (memo : Call.Memo) :
    Except Fault (Option Tail × Call.Memo) := do
  let rest ← behind text offset
  if rest.head? = some '.' then return (none, memo)
  else
    let length ← pathLength rest
    if length = 0 then return (none, memo)
    else
      let pathStop := offset + length
      if (← behind text pathStop).head? = some '(' then
        match ← callEnd text pathStop memo with
        | (none, memo) => return (none, memo)
        | (some stop, memo) => return (some ⟨← between text offset pathStop, stop⟩, memo)
      else return (some ⟨← between text offset pathStop, pathStop⟩, memo)

theorem pathLength_eq (text : List Char) :
    pathLength text = .ok (Text.byteLength (Text.path text)) := by
  have twice : (fun c => !!Text.isPathChar c) = Text.isPathChar := by
    funext c
    exact Bool.not_not _
  have run := firstOf?_cases (fun c => !Text.isPathChar c) text
  rw [twice] at run
  rw [pathLength, Text.path]
  rcases run with ⟨whole, isFirst⟩ | ⟨c, after, split, isFirst⟩
  · have cut := upTo_byteLength text []
    rw [List.append_nil] at cut
    rw [isFirst, Option.getD_none, cut, whole]
    rfl
  · rw [isFirst, Option.getD_some]
    generalize text.takeWhile Text.isPathChar = run at split ⊢
    rw [split, upTo_byteLength]
    rfl

theorem path_head?_of_ne {text : List Char} (filled : Text.path text ≠ []) :
    (Text.path text).head? = text.head? := by
  obtain ⟨behind, split⟩ := Text.path_leads text
  conv_rhs => rw [← split, List.head?_append_of_ne_nil _ filled]

/-- **A path and the call behind it are read without a fault.** -/
theorem parse_eq (front rest : List Char) (memo : Call.Memo) :
    parse (front ++ rest) (Text.byteLength front) memo
      = .ok (Tail.parse memo (Text.byteLength front) rest) := by
  have split := Text.path_append_drop rest
  have size := Text.byteLength_append front (Text.path rest)
  rw [parse, behind_byteLength, ok_bind, pathLength_eq, Tail.parse]
  by_cases dot : rest.head? = some '.'
  · have pathless : ((Text.path rest).isEmpty || (Text.path rest).head? = some '.') = true := by
      by_cases filled : Text.path rest = []
      · simp [filled]
      · simp [path_head?_of_ne filled, dot]
    rw [if_pos dot, if_pos pathless, pure_eq_ok]
  · by_cases filled : Text.path rest = []
    · simp [filled, dot]
    · have path : ¬((Text.path rest).isEmpty || (Text.path rest).head? = some '.') = true := by
        simp [path_head?_of_ne filled, dot, filled]
      have positive : Text.byteLength (Text.path rest) ≠ 0 :=
        Nat.ne_of_gt (Text.byteLength_pos filled)
      generalize Text.path rest = read at *
      generalize rest.drop read.length = behindPath at *
      subst split
      have cut := between_byteLength front read behindPath
      rw [if_neg dot, ok_bind, if_neg positive, if_neg path, ← size, ← List.append_assoc]
      dsimp only
      rw [behind_byteLength, ok_bind]
      by_cases called : behindPath.head? = some '('
      · rw [if_pos called, if_pos called, callEnd_eq, ok_bind]
        rcases Call.stop memo (Text.byteLength (front ++ read)) behindPath with ⟨_ | stop, memo⟩
        · rfl
        · dsimp only
          rw [cut]
          rfl
      · rw [if_neg called, if_neg called, cut]
        rfl

end MessageRefs.Checked
