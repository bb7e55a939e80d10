import Mathlib.Data.List.TakeWhile
import MessageRefs.Extraction
import MessageRefs.Proofs.Reference.Marker
import MessageRefs.Proofs.Reference.Slices

/-!
**The replacements of an extracted text refer to its message.**

Behind a document that ends with a line break, each replacement is the last reference that is found.
No access of the document reaches into it: a path does not go on over a line break or a brace, and a
call would have to be closed, but a replacement holds no closing parenthesis.

* `Matcher.IsAcceptable.stop_le`: an access does not reach over a character that no path holds if
  no parenthesis is closed behind it;
* `Matcher.getLast?_all`: a path behind such a character is the last access of its text;
* `Extraction.IsPathOf`: the path of a message id;
* `Extraction.options_areFound`: the replacements for a message are found as references to it.
-/

namespace MessageRefs

namespace Matcher

/-! ### An access behind a character that no path holds -/

section Behind

variable {matcher : Matcher} {front rest : List Char} {c : Char} {marker start : Nat} {tail : Tail}

theorem IsAcceptable.isPathChar_of_mem {text : List Char}
    (acceptable : matcher.IsAcceptable text marker start tail) {d : Char}
    (member : d ∈ matcher.lead ++ tail.messageId) : Text.isPathChar d = true := by
  rcases List.mem_append.mp member with inLead | inPath
  · exact matcher.isPathChar_of_mem_lead inLead
  · obtain ⟨front, rest, rfl, rfl⟩ := acceptable.occurs
    have read := acceptable.read
    rw [← Text.byteLength_append, Tail.parseAt_byteLength] at read
    obtain ⟨-, -, path, -⟩ := Tail.parse_eq_some_iff.mp read
    exact Text.isPathChar_of_mem_path (path ▸ inPath)

/-- **An access does not reach over a character that no path holds** if no parenthesis is closed
behind it. -/
theorem IsAcceptable.stop_le
    (acceptable : matcher.IsAcceptable (front ++ c :: rest) marker start tail)
    (notPath : Text.isPathChar c = false) (unclosed : ')' ∉ rest)
    (before : start < Text.byteLength (front ++ [c])) :
    tail.stop ≤ Text.byteLength (front ++ [c]) := by
  obtain ⟨front', call, after, whole, rfl, stop, -, called⟩ := acceptable.exists_parts
  by_contra reaches
  rw [← stop] at reaches
  obtain ⟨between, longer, rfl⟩ := Text.split_le ((List.append_cons _ _ _).symm.trans whole)
    (Nat.le_of_lt (Nat.lt_of_not_le reaches))
  rcases called with rfl | derives
  · -- The access is its anchor and its path, and the character stands among theirs.
    rw [List.append_nil, List.append_assoc front', ← List.append_cons] at longer
    have shorter : Text.byteLength front' ≤ Text.byteLength front := by
      by_contra later
      exact absurd (Text.next_le longer.symm (Nat.lt_of_not_le later)) (Nat.not_le_of_lt before)
    obtain ⟨middle, -, inside⟩ := Text.split_le longer shorter
    have member : c ∈ matcher.lead ++ tail.messageId := by
      rw [inside]
      exact List.mem_append_right _ List.mem_cons_self
    rw [acceptable.isPathChar_of_mem member] at notPath
    cases notPath
  · -- The call is closed behind the character.
    have filled : between ≠ [] := by
      rintro rfl
      rw [longer, List.append_nil] at reaches
      exact reaches (Nat.le_refl _)
    have last : between.getLast? = some ')' := by
      cases derives with
      | call items =>
        have ends := congrArg List.getLast? longer
        rw [List.getLast?_append_of_ne_nil _ filled, ← List.append_assoc,
          List.getLast?_concat] at ends
        exact ends.symm
    exact unclosed (List.mem_append_left _ (List.mem_of_getLast? last))

/-- An acceptable anchor right behind such a character is selected. -/
theorem IsAcceptable.isSelected_behind
    (acceptable : matcher.IsAcceptable (front ++ c :: rest) marker
      (Text.byteLength (front ++ [c])) tail)
    (notPath : Text.isPathChar c = false) (unclosed : ')' ∉ rest) :
    matcher.IsSelected (front ++ c :: rest) marker (Text.byteLength (front ++ [c])) tail := by
  refine isSelected_iff.mpr ⟨acceptable, fun earlier before tail' selected => ?_⟩
  exact (isSelected_iff.mp selected).1.stop_le notPath unclosed before

end Behind

/-! ### The last access of a text -/

/-- The last access of a text is the selected one that none follows. -/
theorem getLast?_all {matcher : Matcher} {text : List Char} {marker : Nat} {access : Access}
    (selected : matcher.IsSelected text marker access.start access.tail)
    (last : ∀ later tail, matcher.IsSelected text marker later tail → ¬access.start < later) :
    (Access.all matcher.lead text (marker + 1)).getLast? = some access := by
  have member := (matcher.mem_all_iff text marker access).mpr selected
  have ordered := matcher.all_pairwise text marker
  obtain ⟨before, behind, parts⟩ := List.append_of_mem member
  have none : behind = [] := by
    refine List.eq_nil_iff_forall_not_mem.mpr fun later inBehind => ?_
    have inAll : later ∈ Access.all matcher.lead text (marker + 1) := by
      rw [parts]
      exact List.mem_append_right _ (List.mem_cons_of_mem _ inBehind)
    rw [parts, List.pairwise_append, List.pairwise_cons] at ordered
    exact last later.start later.tail ((matcher.mem_all_iff text marker later).mp inAll)
      (ordered.2.1.1 later inBehind)
  rw [parts, none, List.getLast?_concat]

/-! ### A path behind such a character -/

/-- An anchor and a path, and what closes them. -/
def inserted (matcher : Matcher) (path closing : List Char) : List Char :=
  matcher.lead ++ path ++ closing

/-- What closes a path holds no path character and no parenthesis. -/
def Closes (closing : List Char) : Prop :=
  ∀ c ∈ closing, Text.isPathChar c = false ∧ c ∉ ['(', ')']

section Path

variable {matcher : Matcher} {front path closing : List Char} {c : Char} {marker : Nat}

theorem closing_paren_notMem (isPath : Text.IsPath path) (closes : Closes closing) :
    ')' ∉ matcher.inserted path closing := by
  have noPath : Text.isPathChar ')' = false := by decide
  intro member
  rcases List.mem_append.mp member with inside | inClosing
  · have pathChar : Text.isPathChar ')' = true := by
      rcases List.mem_append.mp inside with inLead | inPath
      · exact matcher.isPathChar_of_mem_lead inLead
      · exact isPath.characters _ inPath
    rw [noPath] at pathChar
    cases pathChar
  · exact (closes _ inClosing).2 (by decide)

theorem isAcceptable_path (behind : marker < Text.byteLength (front ++ [c]))
    (notPath : Text.isPathChar c = false) (isPath : Text.IsPath path) (closes : Closes closing) :
    matcher.IsAcceptable (front ++ c :: matcher.inserted path closing) marker
      (Text.byteLength (front ++ [c]))
      ⟨path, Text.byteLength (front ++ [c] ++ matcher.lead ++ path)⟩ := by
  have stops : ∀ d ∈ closing.head?, Text.isPathChar d = false := fun d head =>
    (closes d (List.mem_of_mem_head? head)).1
  have uncalled : closing.head? ≠ some '(' := fun head =>
    (closes '(' (List.mem_of_mem_head? head)).2 (by decide)
  have apart : Text.isIdentifierChar c = false := by
    by_contra identifier
    rw [Text.isPathChar_of_isIdentifierChar (by simpa using identifier)] at notPath
    cases notPath
  rw [List.append_cons, isAcceptable_iff]
  refine ⟨behind, Anchor.isAt_iff.mpr ⟨?_, ?_⟩, ?_⟩
  · rw [inserted, List.append_assoc]
    exact List.prefix_append _ _
  · rw [List.getLast?_concat]
    intro d same
    cases same
    exact apart
  · rw [inserted, List.append_assoc, List.drop_left, ← Text.byteLength_append]
    refine Tail.parse_eq_some_iff.mpr ?_
    rw [isPath.path_append stops, List.drop_left, if_neg uncalled, ← Text.byteLength_append]
    exact ⟨isPath.filled, isPath.head, rfl, rfl⟩

/-- **A path behind a character that no path holds is the last access of its text.** -/
theorem getLast?_all_path (behind : marker < Text.byteLength (front ++ [c]))
    (notPath : Text.isPathChar c = false) (isPath : Text.IsPath path) (closes : Closes closing) :
    (Access.all matcher.lead (front ++ c :: matcher.inserted path closing)
        (marker + 1)).getLast?
      = some ⟨Text.byteLength (front ++ [c]),
          ⟨path, Text.byteLength (front ++ [c] ++ matcher.lead ++ path)⟩⟩ := by
  have acceptable : matcher.IsAcceptable (front ++ c :: matcher.inserted path closing) marker
      (Text.byteLength (front ++ [c]))
      ⟨path, Text.byteLength (front ++ [c] ++ matcher.lead ++ path)⟩ :=
    isAcceptable_path behind notPath isPath closes
  have selected := acceptable.isSelected_behind notPath (closing_paren_notMem isPath closes)
  refine getLast?_all selected fun later tail isSelected before => ?_
  -- Behind the path there is no room for another anchor.
  obtain ⟨isAcceptable, clear⟩ := isSelected_iff.mp isSelected
  have reached := clear _ before _ selected
  obtain ⟨front', rest, split, rfl⟩ := isAcceptable.occurs
  have whole : front ++ c :: matcher.inserted path closing
      = front ++ [c] ++ matcher.lead ++ path ++ closing := by
    simp only [inserted, List.append_assoc, List.cons_append, List.nil_append]
  rw [whole, List.append_assoc front'] at split
  obtain ⟨between, -, remaining⟩ := Text.split_le split reached
  obtain ⟨d, others, lead⟩ := List.exists_cons_of_ne_nil matcher.lead_ne_nil
  have identifier := matcher.lead_head (show d ∈ matcher.lead.head? by rw [lead]; rfl)
  have inClosing : d ∈ closing := by
    rw [remaining, lead]
    exact List.mem_append_right _ List.mem_cons_self
  have notPath' := (closes d inClosing).1
  rw [Text.isPathChar_of_isIdentifierChar identifier] at notPath'
  cases notPath'

end Path

end Matcher

/-! ### The replacements for a message -/

namespace Extraction

/-- The path of a message id: the id with a dot in place of its first colon, if it has one. -/
def IsPathOf (messageId path : List Char) : Prop :=
  (':' ∉ messageId ∧ path = messageId) ∨
    ∃ before behind, messageId = before ++ ':' :: behind ∧ ':' ∉ before ∧
      path = before ++ '.' :: behind

theorem path_eq {messageId first : List Char} (isPathOf : IsPathOf messageId first) :
    path messageId = first := by
  have keeps : ∀ {part : List Char}, ':' ∉ part → ∀ c ∈ part, (c != ':') = true := by
    intro part absent c member
    rw [bne_iff_ne]
    rintro rfl
    exact absent member
  unfold path
  rw [List.span_eq_takeWhile_dropWhile]
  rcases isPathOf with ⟨absent, rfl⟩ | ⟨before, behind, rfl, absent, rfl⟩
  · rw [List.takeWhile_eq_self_iff.mpr (keeps absent), List.dropWhile_eq_nil_iff.mpr (keeps absent)]
  · rw [List.takeWhile_append_of_pos (keeps absent), List.dropWhile_append_of_pos (keeps absent)]
    simp

/-- A replacement is found behind a document: the last reference of the longer text has the path as
its message id, and its span covers the anchor and the path, and nothing of what is around them. -/
structure IsFound (matcher : Matcher) (document replacement : String)
    (path opening closing : List Char) : Prop where
  written : replacement.toList = opening ++ matcher.inserted path closing
  last : (matcher.locate (document ++ replacement)).getLast? = some ⟨.ofList path,
    ⟨.behind (document.toList ++ opening),
      .behind (document.toList ++ opening ++ matcher.lead ++ path)⟩⟩
  covers : Text.byteLength (document ++ replacement).toList < 2 ^ 32 →
    Span.slice? ⟨.behind (document.toList ++ opening),
      .behind (document.toList ++ opening ++ matcher.lead ++ path)⟩ (document ++ replacement).toList
      = some (matcher.lead ++ path)

section Found

variable {matcher : Matcher} {document replacement : String} {path opening closing : List Char}

/-- A replacement is found where a character that no path holds stands before its anchor. -/
theorem isFound_of_written (marked : (Marker.offset? matcher.config document.toList).isSome)
    (written : replacement.toList = opening ++ matcher.inserted path closing)
    {front : List Char} {c : Char} (ends : document.toList ++ opening = front ++ [c])
    (notPath : Text.isPathChar c = false) (isPath : Text.IsPath path)
    (closes : Matcher.Closes closing) :
    IsFound matcher document replacement path opening closing := by
  have whole : (document ++ replacement).toList = front ++ c :: matcher.inserted path closing := by
    rw [String.toList_append, written, ← List.append_assoc, ends, ← List.append_cons]
  have inside : (document ++ replacement).toList
      = document.toList ++ opening ++ (matcher.lead ++ path) ++ closing := by
    rw [whole, ends, Matcher.inserted]
    simp only [List.append_assoc, List.cons_append, List.nil_append]
  refine ⟨written, ?_, fun short => ?_⟩
  · obtain ⟨marker, found⟩ := Option.isSome_iff_exists.mp marked
    obtain ⟨earlier, notLater, found'⟩ := Marker.exists_offset?_append found replacement.toList
    rw [← String.toList_append] at found'
    have behind : earlier < Text.byteLength (front ++ [c]) := by
      have inDocument := Marker.offset?_lt found
      rw [← ends, Text.byteLength_append]
      omega
    have last : (Access.all matcher.lead
        (front ++ c :: matcher.inserted path closing) (earlier + 1)).getLast?
          = some ⟨Text.byteLength (front ++ [c]),
              ⟨path, Text.byteLength (front ++ [c] ++ matcher.lead ++ path)⟩⟩ :=
      Matcher.getLast?_all_path behind notPath isPath closes
    rw [← whole] at last
    have start : (document ++ replacement).toList
        = (front ++ [c]) ++ (matcher.lead ++ path ++ closing) := by
      rw [inside, ends]
      simp only [List.append_assoc]
    have stop : (document ++ replacement).toList
        = (front ++ [c] ++ matcher.lead ++ path) ++ closing := by
      rw [start]
      simp only [List.append_assoc]
    rw [Matcher.locate, Matcher.locateChars_eq_map found', List.getLast?_map, last,
      Option.map_some, Access.located, LineIndex.position_byteLength _ start,
      LineIndex.position_byteLength _ stop, ends]
  · rw [inside, Text.byteLength_append] at short
    rw [List.append_assoc (document.toList ++ opening)]
    refine Span.slice?_behind inside (Nat.le_of_lt_succ ?_)
    exact Nat.lt_of_le_of_lt (Nat.le_add_right _ _) short

end Found

/-- **The replacements for a message are found as references to it.** Behind a document with a
marker that ends with a line break, and whatever else it holds, each of the two is the last
reference of the longer text: the braced one between its braces, the plain one from its beginning
to its end. -/
theorem options_areFound (matcher : Matcher) (document messageId : String) (path : List Char)
    (isPathOf : IsPathOf (Text.trim messageId.toList) path) (isPath : Text.IsPath path)
    (ended : document.toList.getLast? = some '\n')
    (marked : (Marker.offset? matcher.config document.toList).isSome) :
    ∃ braced plain, options messageId matcher.config.anchor = [braced, plain] ∧
      IsFound matcher document braced.messageReplacement path ['{'] ['}'] ∧
      IsFound matcher document plain.messageReplacement path [] [] := by
  have access : (matcher.config.anchor ++ "." ++
      .ofList (Extraction.path (normalized messageId).toList)).toList = matcher.lead ++ path := by
    simp only [String.toList_append, String.toList_ofList, normalized, path_eq isPathOf,
      matcher.lead_eq]
    rfl
  refine ⟨_, _, rfl, ?_, ?_⟩
  · refine isFound_of_written marked ?_ rfl (by decide) isPath ?_
    · rw [String.toList_append, String.toList_append, access]
      rfl
    · intro c member
      rw [List.mem_singleton.mp member]
      decide
  · obtain ⟨front, split⟩ := List.getLast?_eq_some_iff.mp ended
    refine isFound_of_written marked ?_ ((List.append_nil _).trans split) (by decide) isPath ?_
    · rw [access, Matcher.inserted, List.append_nil, List.nil_append]
    · exact fun c member => absurd member List.not_mem_nil

/-- A path that holds the anchor, which overlaps itself, behind a call and a literal that are never
closed. -/
theorem options_areFound_behind_unclosed :
    IsPathOf (Text.trim " ns:a.a.key ".toList) "ns.a.a.key".toList ∧
      ∃ braced plain, options " ns:a.a.key " "a.a" = [braced, plain] ∧
        IsFound (.ofValid ⟨"a.a", [], ["#"]⟩ rfl) "#\na.a.a.x(\"\n" braced.messageReplacement
          "ns.a.a.key".toList ['{'] ['}'] ∧
        IsFound (.ofValid ⟨"a.a", [], ["#"]⟩ rfl) "#\na.a.a.x(\"\n" plain.messageReplacement
          "ns.a.a.key".toList [] [] := by
  have isPathOf : IsPathOf (Text.trim " ns:a.a.key ".toList) "ns.a.a.key".toList :=
    .inr ⟨"ns".toList, "a.a.key".toList, by decide +kernel, by decide, by decide⟩
  refine ⟨isPathOf, options_areFound (.ofValid ⟨"a.a", [], ["#"]⟩ rfl) _ _ _ isPathOf ?_ ?_ ?_⟩
  · exact ⟨by decide, List.all_eq_true.mp (by decide +kernel), by decide, by decide⟩
  · decide
  · decide +kernel

end Extraction

end MessageRefs
