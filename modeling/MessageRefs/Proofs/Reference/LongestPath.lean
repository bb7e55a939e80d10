import Mathlib.Data.List.DropRight
import MessageRefs.Proofs.Reference.Lead
import MessageRefs.Proofs.Reference.Tail

/-!
**The path behind an anchor is the longest one.**

The run of path characters at the front of a text may end in dots, which do not belong to its path,
and may begin with one, in which case there is no path. What is left is the longest beginning of the
text that has an identifier character at either end.

* `Text.LeadsAsPath`, `Text.IsLongestPath`: the beginnings of a text that are paths, and the longest;
* `Text.isLongestPath_iff`: the longest is what the search for a path gives;
* `Text.exists_dots_behind_path`: dots at most stand between a path and the end of its run;
* `Tail.parseAt_takesLongest`: the path and the call that are read at an offset.
-/

namespace MessageRefs

namespace Text

/-! ### The longest path at the front of a text -/

/-- A beginning of a text that is made of path characters, the first and the last of which belong to
identifiers. -/
structure LeadsAsPath (text part : List Char) : Prop where
  leads : part <+: text
  characters : ∀ c ∈ part, isPathChar c = true
  first : ∃ c ∈ part.head?, isIdentifierChar c = true
  last : ∃ c ∈ part.getLast?, isIdentifierChar c = true

/-- No other such beginning is longer. -/
structure IsLongestPath (text part : List Char) : Prop extends LeadsAsPath text part where
  longest : ∀ other, LeadsAsPath text other → other.length ≤ part.length

variable {text part rest : List Char} {c : Char}

theorem isIdentifierChar_of_isPathChar (pathChar : isPathChar c = true) (noDot : c ≠ '.') :
    isIdentifierChar c = true := by
  rw [isPathChar, Bool.or_eq_true, beq_iff_eq] at pathChar
  exact pathChar.resolve_right noDot

theorem ne_dot_of_isIdentifierChar (identifier : isIdentifierChar c = true) : c ≠ '.' := by
  rintro rfl
  rw [isIdentifierChar_dot] at identifier
  cases identifier

/-- At a character of an identifier begins a path. -/
theorem path_head? (identifier : isIdentifierChar c = true) (rest : List Char) :
    (path (c :: rest)).head? = some c := by
  have filled : path (c :: rest) ≠ [] := by
    intro empty
    have onlyDots := List.rdropWhile_eq_nil_iff.mp empty
    rw [List.takeWhile_cons_of_pos (isPathChar_of_isIdentifierChar identifier)] at onlyDots
    exact ne_dot_of_isIdentifierChar identifier (beq_iff_eq.mp (onlyDots c List.mem_cons_self))
  obtain ⟨first, others, split⟩ := List.exists_cons_of_ne_nil filled
  have same := path_append_drop (c :: rest)
  rw [split, List.cons_append] at same
  rw [split, (List.cons.inj same).1, List.head?_cons]

/-- What leads as a path does not reach beyond the path that is searched for. -/
theorem LeadsAsPath.leads_path (leadsAs : LeadsAsPath text part) : part <+: path text := by
  obtain ⟨last, isLast, identifier⟩ := leadsAs.last
  obtain ⟨front, rfl⟩ := List.getLast?_eq_some_iff.mp isLast
  obtain ⟨rest, rfl⟩ := leadsAs.leads
  obtain ⟨others, behind⟩ := List.head?_eq_some_iff.mp (path_head? identifier rest)
  have inFront : ∀ c ∈ front, isPathChar c = true :=
    fun c member => leadsAs.characters c (List.mem_append_left _ member)
  have reached : path (front ++ last :: rest) = front ++ path (last :: rest) :=
    path_append inFront (behind ▸ List.cons_ne_nil last others)
  rw [← List.append_cons, reached, behind, List.append_cons front last others]
  exact List.prefix_append _ _

/-- The path that is searched for, where there is one, leads as a path. -/
theorem leadsAsPath_path (filled : path text ≠ []) (noDot : (path text).head? ≠ some '.') :
    LeadsAsPath text (path text) := by
  refine ⟨path_leads text, fun c => isPathChar_of_mem_path, ?_, ?_⟩
  · obtain ⟨first, others, split⟩ := List.exists_cons_of_ne_nil filled
    have pathChar : isPathChar first = true :=
      isPathChar_of_mem_path (split ▸ List.mem_cons_self)
    rw [split, List.head?_cons] at noDot ⊢
    exact ⟨first, rfl, isIdentifierChar_of_isPathChar pathChar fun dot => noDot (by rw [dot])⟩
  · have pathChar := isPathChar_of_mem_path (List.getLast_mem filled)
    have kept := List.rdropWhile_last_not (· == '.') (text.takeWhile isPathChar) filled
    refine ⟨(path text).getLast filled, List.getLast?_eq_some_getLast filled, ?_⟩
    exact isIdentifierChar_of_isPathChar pathChar fun dot => kept (beq_iff_eq.mpr dot)

/-- **The longest path at the front of a text is the one that is searched for.** There is none where
nothing is found or where a dot comes first. -/
theorem isLongestPath_iff : IsLongestPath text part ↔
    path text ≠ [] ∧ (path text).head? ≠ some '.' ∧ part = path text := by
  constructor
  · intro isLongest
    have inside := isLongest.leads_path
    obtain ⟨first, isFirst, identifier⟩ := isLongest.first
    obtain ⟨others, rfl⟩ := List.head?_eq_some_iff.mp isFirst
    obtain ⟨more, whole⟩ := id inside
    have head : (path text).head? = some first := by
      rw [← whole]
      rfl
    have filled : path text ≠ [] := by
      rintro empty
      rw [empty] at head
      cases head
    have noDot : (path text).head? ≠ some '.' := by
      rw [head]
      exact fun same => ne_dot_of_isIdentifierChar identifier (Option.some.inj same)
    exact ⟨filled, noDot,
      inside.eq_of_length_le (isLongest.longest _ (leadsAsPath_path filled noDot))⟩
  · rintro ⟨filled, noDot, rfl⟩
    exact ⟨leadsAsPath_path filled noDot, fun other leadsAs => leadsAs.leads_path.length_le⟩

/-- Dots at most stand between a path and the end of the run of path characters. -/
theorem exists_dots_behind_path (text : List Char) :
    ∃ dots after, text = path text ++ dots ++ after ∧ (∀ c ∈ dots, c = '.') ∧
      ∀ c ∈ after.head?, isPathChar c = false := by
  refine ⟨(text.takeWhile isPathChar).rtakeWhile (· == '.'), text.dropWhile isPathChar, ?_, ?_, ?_⟩
  · have run : path text ++ (text.takeWhile isPathChar).rtakeWhile (· == '.')
        = text.takeWhile isPathChar := List.rdropWhile_append_rtakeWhile
    rw [run, List.takeWhile_append_dropWhile]
  · intro c member
    have dropped := List.mem_rtakeWhile_imp member
    exact beq_iff_eq.mp dropped
  · intro c member
    have stopped := List.head?_dropWhile_not isPathChar text
    rw [Option.mem_def.mp member] at stopped
    simpa using stopped

end Text

/-! ### The path and the call at an offset -/

namespace Tail

variable {front rest : List Char} {tail : Tail}

/-- A reference that is read at a place has the longest path that begins there, and ends with it or
with the call whose parenthesis follows it. -/
theorem parseAt_eq_some_iff :
    (parseAt .empty (front ++ rest) (Text.byteLength front)).1 = some tail ↔
      Text.IsLongestPath rest tail.messageId ∧ ∃ after, rest = tail.messageId ++ after ∧
        (after.head? = some '(' ∧
            (Call.stopAt .empty (front ++ rest) (Text.byteLength (front ++ tail.messageId))).1
              = some tail.stop ∨
          after.head? ≠ some '(' ∧ tail.stop = Text.byteLength (front ++ tail.messageId)) := by
  rw [parseAt_byteLength, parse_eq_some_iff, Text.isLongestPath_iff, and_assoc, and_assoc]
  refine and_congr_right fun _ => and_congr_right fun _ => and_congr_right fun path => ?_
  have split := Text.path_append_drop rest
  rw [← path] at split ⊢
  generalize rest.drop tail.messageId.length = behind at split ⊢
  subst split
  have called : Call.stopAt .empty (front ++ (tail.messageId ++ behind))
      (Text.byteLength (front ++ tail.messageId))
        = Call.stop .empty (Text.byteLength (front ++ tail.messageId)) behind := by
    rw [← List.append_assoc, Call.stopAt, Text.after?_byteLength_append]
  rw [called, ← Text.byteLength_append]
  constructor
  · intro ending
    refine ⟨behind, rfl, ?_⟩
    by_cases paren : behind.head? = some '('
    · rw [if_pos paren] at ending
      exact .inl ⟨paren, ending⟩
    · rw [if_neg paren] at ending
      exact .inr ⟨paren, ending.symm⟩
  · rintro ⟨after, same, ending⟩
    obtain rfl := List.append_cancel_left same
    rcases ending with ⟨paren, ends⟩ | ⟨paren, ends⟩
    · rw [if_pos paren]
      exact ends
    · rw [if_neg paren]
      exact ends.symm

/-- **The path that is read is the longest one, and a call counts only right behind it.** At a place
of a text a tail is read exactly when its path is the longest that begins there and it ends where
the call ends whose parenthesis follows the path, or with the path if none follows. Behind the path
come dots at most before a character of no path or the end of the text, and where there are dots the
tail ends with the path. -/
theorem parseAt_takesLongest (front rest : List Char) (tail : Tail) :
    ((parseAt .empty (front ++ rest) (Text.byteLength front)).1 = some tail ↔
      Text.IsLongestPath rest tail.messageId ∧ ∃ after, rest = tail.messageId ++ after ∧
        (after.head? = some '(' ∧
            (Call.stopAt .empty (front ++ rest) (Text.byteLength (front ++ tail.messageId))).1
              = some tail.stop ∨
          after.head? ≠ some '(' ∧ tail.stop = Text.byteLength (front ++ tail.messageId))) ∧
    ((parseAt .empty (front ++ rest) (Text.byteLength front)).1 = some tail →
      ∃ dots after, rest = tail.messageId ++ dots ++ after ∧ (∀ c ∈ dots, c = '.') ∧
        (∀ c ∈ after.head?, Text.isPathChar c = false) ∧
        (dots ≠ [] → tail.stop = Text.byteLength (front ++ tail.messageId))) := by
  refine ⟨parseAt_eq_some_iff, fun read => ?_⟩
  obtain ⟨isLongest, behind, split, ending⟩ := parseAt_eq_some_iff.mp read
  obtain ⟨dots, after, parts, onlyDots, stops⟩ := Text.exists_dots_behind_path rest
  rw [← (Text.isLongestPath_iff.mp isLongest).2.2] at parts
  refine ⟨dots, after, parts, onlyDots, stops, fun dotted => ?_⟩
  -- A dot follows the path, so no parenthesis does.
  obtain ⟨first, others, rfl⟩ := List.exists_cons_of_ne_nil dotted
  rw [split, List.append_assoc] at parts
  obtain rfl := List.append_cancel_left parts
  rw [onlyDots first List.mem_cons_self] at ending
  rcases ending with ⟨paren, -⟩ | ⟨-, ends⟩
  · cases paren
  · exact ends

/-- A dot between a path and a parenthesis: the reference ends with the path. -/
example : (parseAt .empty "b..a.(x)".toList 0).1 = some ⟨"b..a".toList, 4⟩ := by
  cbv

end Tail

end MessageRefs
