import MessageRefs.Proofs.Call.Acceptance
import MessageRefs.Proofs.Text.Utf8

/-!
**A closed call depends only on the text up to its end.**

The pass looks ahead of the character that it reads, for the quotes of a triple literal and for the
second character of a comment. It never looks past a closing delimiter, and a call ends with one.

* `Derives.other_behind`: what is derived before a closing delimiter does not depend on the text
  behind the delimiter;
* `IsCall.of_take_eq`: a call stands in every text that agrees with this one up to its end;
* `stopAt_empty_local`: the end that is found does not depend on the text behind it, and is not
  found in a text that is cut before it.
-/

namespace MessageRefs.Grammar

open Call

/-- A row of characters that `c` is not among begins a text only if it ends before `c`. -/
theorem prefix_append_cons_iff {row first rest : List Char} {c : Char} (other : c ∉ row) :
    row <+: first ++ c :: rest ↔ row <+: first := by
  constructor
  · rintro ⟨behind, same⟩
    rcases List.append_eq_append_iff.mp same with ⟨more, rfl, -⟩ | ⟨beyond, rfl, split⟩
    · exact List.prefix_append row more
    · cases beyond with
      | nil => exact (List.append_nil first).symm ▸ List.prefix_rfl
      | cons d others =>
        obtain ⟨rfl, -⟩ := List.cons.inj split
        exact absurd (List.mem_append_right first List.mem_cons_self) other
  · exact fun leads => leads.trans (List.prefix_append first _)

section Behind

variable {front part ahead rest : List Char} {closing : Char}
  (isClosing : closing ∈ [')', ']', '}']) (rest' : List Char)

include isClosing

theorem closing_notMem_replicate {quote : Char} (isQuote : quote ∈ ['\'', '"', '\x60'])
    (count : Nat) : closing ∉ List.replicate count quote := by
  intro member
  obtain rfl := List.eq_of_mem_replicate member
  simp only [List.mem_cons, List.not_mem_nil, or_false] at isClosing isQuote
  rcases isClosing with rfl | rfl | rfl <;> revert isQuote <;> decide

theorem Inside.other_behind {quoting : Quoting} {inside : List Char}
    (isQuote : quoting.quote ∈ ['\'', '"', '\x60'])
    (isInside : Inside quoting (ahead ++ closing :: rest) inside) :
    Inside quoting (ahead ++ closing :: rest') inside := by
  have other : closing ∉ delimiter quoting := closing_notMem_replicate isClosing isQuote _
  induction isInside with
  | none => exact .none
  | escape cooked _ ih => exact .escape cooked ih
  | plain raw noDelimiter _ ih =>
    refine .plain raw ?_ ih
    rw [← List.append_assoc, prefix_append_cons_iff other] at noDelimiter ⊢
    exact noDelimiter

theorem IsLiteral.other_behind (literal : IsLiteral front part (ahead ++ closing :: rest)) :
    IsLiteral front part (ahead ++ closing :: rest') := by
  obtain ⟨quoting, inside, isQuote, isTriple, isRaw, written, isInside⟩ := literal
  have other := closing_notMem_replicate isClosing isQuote 3
  rw [← List.append_assoc, prefix_append_cons_iff other] at isTriple
  refine ⟨quoting, inside, isQuote, ?_, isRaw, written, ?_⟩
  · rw [← List.append_assoc, prefix_append_cons_iff other]
    exact isTriple
  · rw [← List.append_assoc] at isInside ⊢
    exact isInside.other_behind isClosing rest' isQuote

/-- **What is derived before a closing delimiter does not depend on the text behind it.** -/
theorem Derives.other_behind {symbol : Symbol}
    (derives : Derives symbol front part (ahead ++ closing :: rest)) :
    Derives symbol front part (ahead ++ closing :: rest') := by
  generalize behind : ahead ++ closing :: rest = after at derives
  -- `ahead` grows by what the derivation still has to read before the delimiter.
  induction derives generalizing ahead with
  | call _ ih =>
    subst behind
    exact .call (@ih (')' :: ahead) rfl)
  | nested _ ih => exact .nested (ih behind)
  | brackets _ ih =>
    subst behind
    exact .brackets (@ih (']' :: ahead) rfl)
  | braces _ ih =>
    subst behind
    exact .braces (@ih ('}' :: ahead) rfl)
  | literal literal =>
    subst behind
    exact .literal (literal.other_behind isClosing rest')
  | comment comment => exact .comment comment
  | plain plain =>
    subst behind
    have sameHead : (ahead ++ closing :: rest').head? = (ahead ++ closing :: rest).head? := by
      cases ahead <;> rfl
    exact .plain ⟨plain.1, sameHead ▸ plain.2⟩
  | done => exact .done
  | @more _ first others _ _ _ ihFirst ihOthers =>
    subst behind
    have first := @ihFirst (others ++ ahead) (List.append_assoc others ahead _)
    rw [List.append_assoc] at first
    exact .more first (ihOthers rfl)

end Behind

/-! ### Calls -/

/-- A call is one whatever follows it. -/
theorem Derives.call_other_behind {front part after : List Char}
    (derives : Derives .call front part after) (after' : List Char) :
    Derives .call front part after' := by
  cases derives with
  | call items =>
    exact .call (@Derives.other_behind _ _ [] after ')' (by decide) after' .items items)

/-- **A call stands in every text that agrees with this one up to its end.** -/
theorem IsCall.of_take_eq {text other : List Char} {start stop : Nat}
    (isCall : IsCall text start stop)
    (agrees : (Text.bytes other).take stop = (Text.bytes text).take stop) :
    IsCall other start stop := by
  obtain ⟨front, part, after, rfl, rfl, rfl, derives⟩ := isCall
  rw [Text.bytes_append _ after, ← Text.length_bytes, List.take_left] at agrees
  have begins : Text.bytes (front ++ part) <+: Text.bytes other :=
    agrees ▸ List.take_prefix _ (Text.bytes other)
  obtain ⟨behind, same⟩ := begins
  obtain ⟨after', rfl, -⟩ := Text.exists_append_of_bytes same
  exact ⟨front, part, after', rfl, rfl, rfl, derives.call_other_behind after'⟩

theorem IsCall.stop_le {text : List Char} {start stop : Nat} (isCall : IsCall text start stop) :
    stop ≤ Text.byteLength text := by
  obtain ⟨front, part, after, rfl, rfl, rfl, -⟩ := isCall
  rw [Text.byteLength_append _ after]
  exact Nat.le_add_right _ _

/-- **A closed call depends only on the text up to its end.** In every text that has the same bytes
up to there the call ends at the same offset, and in a text that is cut before it does not end. -/
theorem stopAt_empty_local {text : List Char} {opened stop : Nat}
    (ends : (stopAt .empty text opened).1 = some stop) :
    (∀ other, (Text.bytes other).take stop = (Text.bytes text).take stop →
      (stopAt .empty other opened).1 = some stop) ∧
    ∀ cut more, text = cut ++ more → Text.byteLength cut < stop →
      (stopAt .empty cut opened).1 = none := by
  have isCall := stopAt_empty_eq_some_iff.mp ends
  refine ⟨fun other agrees => stopAt_empty_eq_some_iff.mpr (isCall.of_take_eq agrees), ?_⟩
  rintro cut more rfl before
  rw [Option.eq_none_iff_forall_ne_some]
  intro earlier found
  have inCut := stopAt_empty_eq_some_iff.mp found
  -- A call that ends within the cut would end there in the whole text as well.
  have inWhole : IsCall (cut ++ more) opened earlier := by
    refine inCut.of_take_eq ?_
    rw [Text.bytes_append, List.take_append_of_le_length]
    rw [Text.length_bytes]
    exact inCut.stop_le
  have same : some earlier = some stop := (stopAt_empty_eq_some_iff.mpr inWhole).symm.trans ends
  have reached := inCut.stop_le
  rw [Option.some.inj same] at reached
  omega

/-- An empty literal before the end of a call. A quote and an open parenthesis behind the end do not
change where it is, and without its last character the call is not closed. -/
theorem stopAt_empty_local_behind_literal :
    (stopAt .empty "t(é, '').x".toList 1).1 = some 9 ∧
    (Text.bytes "t(é, '')'(".toList).take 9 = (Text.bytes "t(é, '').x".toList).take 9 ∧
    (stopAt .empty "t(é, '')'(".toList 1).1 = some 9 ∧
    (stopAt .empty "t(é, ''".toList 1).1 = none := by
  have begins : "t(é, '').x".toList = ['t'] ++ '(' :: "é, '').x".toList := by decide
  have passed : outcome [')'] 0 (['t'] ++ ['(']) "é, '').x".toList = some 9 := by decide +kernel
  have ends : (stopAt .empty "t(é, '').x".toList 1).1 = some 9 := by
    rw [begins]
    exact (stopAt_empty_paren ['t'] _).trans passed
  have agrees : (Text.bytes "t(é, '')'(".toList).take 9
      = (Text.bytes "t(é, '').x".toList).take 9 := by decide
  obtain ⟨whatFollows, notEarlier⟩ := stopAt_empty_local ends
  have cutOff := notEarlier "t(é, ''".toList ").x".toList rfl (by decide)
  exact ⟨ends, agrees, whatFollows _ agrees, cutOff⟩

end MessageRefs.Grammar
