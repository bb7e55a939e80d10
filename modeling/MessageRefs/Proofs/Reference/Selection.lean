import MessageRefs.Proofs.Position.Cursor
import MessageRefs.Proofs.Reference.Accesses
import MessageRefs.Proofs.Reference.Candidate

/-!
**The references of a text are the selected anchors, in order.**

An anchor is selected when it is acceptable and starts in no access selected before it. The search
goes over the places of a text and keeps, besides the accesses found, where it resumes; the
invariant ties that offset to the accesses selected so far.

* `Matcher.IsSelected`: the selection, by recursion on the offset;
* `Matcher.Searching`: the invariant of the search, kept by `Searching.step` at every place;
* `Matcher.mem_all_iff`: the accesses of a text are the selected ones;
* `Matcher.locateChars_eq_map`: the references are the accesses with the positions of an index;
* `Matcher.locate_eq_map_selected`: the references of a text are the selected anchors, located.
-/

namespace MessageRefs

namespace Matcher

/-! ### Selected anchors -/

/-- An anchor is selected when it is acceptable and starts in no access selected before it. -/
def IsSelected (matcher : Matcher) (text : List Char) (marker start : Nat) (tail : Tail) : Prop :=
  matcher.IsAcceptable text marker start tail ∧
    ∀ earlier < start, ∀ tail', matcher.IsSelected text marker earlier tail' → tail'.stop ≤ start
termination_by start

variable {matcher : Matcher} {text : List Char} {marker : Nat}

theorem isSelected_iff {start : Nat} {tail : Tail} :
    matcher.IsSelected text marker start tail ↔
      matcher.IsAcceptable text marker start tail ∧
        ∀ earlier < start, ∀ tail', matcher.IsSelected text marker earlier tail' →
          tail'.stop ≤ start := by
  rw [IsSelected]

/-- Selected anchors start at places, so one that starts within a character starts with it. -/
theorem IsSelected.start_lt_iff {front rest : List Char} {c : Char} {start : Nat} {tail : Tail}
    (selected : matcher.IsSelected (front ++ c :: rest) marker start tail) :
    start < Text.byteLength (front ++ [c]) ↔
      start < Text.byteLength front ∨ start = Text.byteLength front := by
  obtain ⟨front', rest', split, rfl⟩ := (isSelected_iff.mp selected).1.occurs
  have positive := Text.byteLength_pos (List.cons_ne_nil c [])
  constructor
  · intro within
    by_contra later
    rw [List.append_assoc] at split
    exact absurd (Text.next_le split (by omega)) (Nat.not_le_of_lt within)
  · intro before
    rw [Text.byteLength_append]
    omega

/-! ### The invariant of the search -/

/-- The search has come to the place at `offset`: it has found the accesses selected before it, and
it resumes at an acceptable anchor if and only if none of those reaches over its start. -/
structure Searching (matcher : Matcher) (text : List Char) (marker : Nat) (found : List Access)
    (resume offset : Nat) : Prop where
  found_iff : ∀ access : Access, access ∈ found ↔
    access.start < offset ∧ matcher.IsSelected text marker access.start access.tail
  ordered : found.Pairwise fun first second => first.start < second.start
  behind : marker < resume
  resume_iff : ∀ start tail, offset ≤ start → matcher.IsAcceptable text marker start tail →
    (resume ≤ start ↔ ∀ earlier < offset, ∀ tail',
      matcher.IsSelected text marker earlier tail' → tail'.stop ≤ start)

namespace Searching

variable {found : List Access} {resume : Nat} {front rest : List Char} {c : Char}

theorem atStart : Searching matcher text marker [] (marker + 1) 0 := by
  refine ⟨fun access => ?_, .nil, Nat.lt_succ_self marker, fun start tail _ acceptable => ?_⟩
  · constructor
    · exact fun member => absurd member List.not_mem_nil
    · exact fun selected => absurd selected.1 (Nat.not_lt_zero _)
  · constructor
    · exact fun _ earlier before => absurd before (Nat.not_lt_zero earlier)
    · exact fun _ => acceptable.behind

/-- Nothing is selected at a place: the search goes on as before. -/
theorem passed
    (searching : Searching matcher (front ++ c :: rest) marker found resume (Text.byteLength front))
    (none : ∀ tail,
      ¬matcher.IsSelected (front ++ c :: rest) marker (Text.byteLength front) tail) :
    Searching matcher (front ++ c :: rest) marker found resume
      (Text.byteLength (front ++ [c])) := by
  have same : ∀ start tail, matcher.IsSelected (front ++ c :: rest) marker start tail →
      (start < Text.byteLength (front ++ [c]) ↔ start < Text.byteLength front) := by
    intro start tail selected
    rw [selected.start_lt_iff, or_iff_left]
    rintro rfl
    exact none tail selected
  have longer : Text.byteLength front ≤ Text.byteLength (front ++ [c]) := by
    rw [Text.byteLength_append]
    omega
  refine ⟨fun access => ?_, searching.ordered, searching.behind, ?_⟩
  · rw [searching.found_iff]
    constructor
    · rintro ⟨before, selected⟩
      exact ⟨(same _ _ selected).mpr before, selected⟩
    · rintro ⟨before, selected⟩
      exact ⟨(same _ _ selected).mp before, selected⟩
  · intro start tail later acceptable
    rw [searching.resume_iff start tail (Nat.le_trans longer later) acceptable]
    constructor
    · intro clear earlier before tail' selected
      exact clear earlier ((same _ _ selected).mp before) tail' selected
    · intro clear earlier before tail' selected
      exact clear earlier ((same _ _ selected).mpr before) tail' selected

/-- A candidate is discarded: the search resumes behind the anchor, since an acceptable anchor that
overlapped it would have made it acceptable. -/
theorem discarded
    (searching : Searching matcher (front ++ c :: rest) marker found resume (Text.byteLength front))
    (resumes : resume ≤ Text.byteLength front)
    (candidate : matcher.IsCandidate (front ++ c :: rest) marker (Text.byteLength front))
    (none : ∀ tail,
      ¬matcher.IsAcceptable (front ++ c :: rest) marker (Text.byteLength front) tail) :
    Searching matcher (front ++ c :: rest) marker found
      (Text.byteLength front + Text.byteLength matcher.lead) (Text.byteLength (front ++ [c])) := by
  have passed := searching.passed fun tail selected => none tail (isSelected_iff.mp selected).1
  have positive := Text.byteLength_pos (List.cons_ne_nil c [])
  refine ⟨passed.found_iff, passed.ordered, Nat.lt_add_right _ candidate.behind, ?_⟩
  intro start tail later acceptable
  rw [← passed.resume_iff start tail later acceptable]
  rw [Text.byteLength_append] at later
  have beyond : Text.byteLength front + Text.byteLength matcher.lead ≤ start := by
    by_contra overlaps
    obtain ⟨longer, read⟩ :=
      exists_isAcceptable_of_overlap candidate acceptable (by omega) (by omega)
    exact none longer read
  constructor
  · intro _
    omega
  · exact fun _ => beyond

/-- An acceptable anchor is found: the search resumes at the end of the access. -/
theorem accepted {tail : Tail}
    (searching : Searching matcher (front ++ c :: rest) marker found resume (Text.byteLength front))
    (resumes : resume ≤ Text.byteLength front)
    (acceptable : matcher.IsAcceptable (front ++ c :: rest) marker (Text.byteLength front) tail) :
    Searching matcher (front ++ c :: rest) marker (found ++ [⟨Text.byteLength front, tail⟩])
      tail.stop (Text.byteLength (front ++ [c])) := by
  have clear := (searching.resume_iff _ tail (Nat.le_refl _) acceptable).mp resumes
  have selected := isSelected_iff.mpr ⟨acceptable, clear⟩
  have positive := Text.byteLength_pos (List.cons_ne_nil c [])
  have beyond : Text.byteLength front < Text.byteLength (front ++ [c]) := by
    rw [Text.byteLength_append]
    omega
  refine ⟨fun access => ?_, ?_, ?_, ?_⟩
  · rw [List.mem_append, List.mem_singleton, searching.found_iff]
    constructor
    · rintro (⟨before, other⟩ | rfl)
      · exact ⟨Nat.lt_trans before beyond, other⟩
      · exact ⟨beyond, selected⟩
    · rintro ⟨before, other⟩
      rcases other.start_lt_iff.mp before with earlier | here
      · exact .inl ⟨earlier, other⟩
      · rcases access with ⟨start, tail'⟩
        subst here
        have same : tail' = tail := (isSelected_iff.mp other).1.tail_unique acceptable
        exact .inr (by rw [same])
  · rw [List.pairwise_append]
    refine ⟨searching.ordered, List.pairwise_singleton _ _, fun access member last isLast => ?_⟩
    rw [List.mem_singleton] at isLast
    rw [isLast]
    exact ((searching.found_iff access).mp member).1
  · have stop := acceptable.lt_stop
    have behind := acceptable.behind
    omega
  · -- Accesses selected earlier end before this one starts, so only its own end counts.
    intro start tail' later acceptable'
    constructor
    · intro resumed earlier before tail'' other
      rcases other.start_lt_iff.mp before with earlier' | rfl
      · exact Nat.le_trans (clear earlier earlier' tail'' other) (by omega)
      · rwa [(isSelected_iff.mp other).1.tail_unique acceptable]
    · exact fun clear => clear _ beyond tail selected

end Searching

/-! ### The whole search -/

/-- **A place is discarded, accepted or passed, and the invariant holds behind it.** -/
theorem Searching.step {found : List Access} {resume : Nat} {front rest : List Char} {c : Char}
    (searching : Searching matcher (front ++ c :: rest) marker found resume
      (Text.byteLength front)) :
    ∃ found' resume',
      Searching matcher (front ++ c :: rest) marker found' resume'
        (Text.byteLength (front ++ [c])) ∧
      found ++ Access.behind matcher.lead resume front (c :: rest)
        = found' ++ Access.behind matcher.lead resume' (front ++ [c]) rest := by
  by_cases tried : resume ≤ Text.byteLength front ∧
      Anchor.isAt matcher.lead front.getLast? (c :: rest) = true
  · obtain ⟨resumes, isAt⟩ := tried
    have behind := Nat.lt_of_lt_of_le searching.behind resumes
    have same := (Access.parse_anchor_sound Call.Memo.Sound.empty isAt).1
    cases read : Tail.behind? (front ++ matcher.lead) ((c :: rest).drop matcher.lead.length) with
    | none =>
      have none : ∀ tail, ¬matcher.IsAcceptable (front ++ c :: rest) marker
          (Text.byteLength front) tail := by
        intro tail acceptable
        have other := (isAcceptable_iff.mp acceptable).2.2
        rw [same, read] at other
        cases other
      refine ⟨found, _, searching.discarded resumes (isCandidate_iff.mpr ⟨behind, isAt⟩) none, ?_⟩
      rw [Access.behind_discarded resumes isAt read, Text.byteLength_append]
    | some tail =>
      have acceptable := isAcceptable_iff.mpr ⟨behind, isAt, same.trans read⟩
      refine ⟨_, tail.stop, searching.accepted resumes acceptable, ?_⟩
      rw [Access.behind_accepted resumes isAt read, List.append_assoc, List.singleton_append]
  · have none : ∀ tail, ¬matcher.IsSelected (front ++ c :: rest) marker
        (Text.byteLength front) tail := by
      intro tail selected
      obtain ⟨acceptable, clear⟩ := isSelected_iff.mp selected
      have resumes := (searching.resume_iff _ tail (Nat.le_refl _) acceptable).mpr clear
      exact tried ⟨resumes, (isAcceptable_iff.mp acceptable).2.1⟩
    exact ⟨found, resume, searching.passed none, by rw [Access.behind_passed tried]⟩

/-- **A search that goes on to the end of the text keeps the invariant.** -/
theorem Searching.toEnd {found : List Access} {resume : Nat} {front rest : List Char}
    (searching : Searching matcher (front ++ rest) marker found resume (Text.byteLength front)) :
    ∃ resume', Searching matcher (front ++ rest) marker
      (found ++ Access.behind matcher.lead resume front rest) resume'
      (Text.byteLength (front ++ rest)) := by
  induction rest generalizing found resume front with
  | nil =>
    rw [List.append_nil] at searching
    rw [Access.behind, List.append_nil, List.append_nil]
    exact ⟨resume, searching⟩
  | cons c rest ih =>
    obtain ⟨found', resume', next, walked⟩ := searching.step
    rw [walked]
    rw [List.append_cons] at next ⊢
    exact ih next

/-! ### The accesses of a text -/

section Whole

variable (matcher : Matcher) (text : List Char) (marker : Nat)

theorem exists_searching_all :
    ∃ resume, Searching matcher text marker (Access.all matcher.lead text (marker + 1)) resume
      (Text.byteLength text) := by
  have searched := @Searching.toEnd matcher marker [] (marker + 1) [] text Searching.atStart
  rwa [List.nil_append, List.nil_append, ← Access.all_eq_behind] at searched

/-- **The accesses of a text are the selected ones.** -/
theorem mem_all_iff (access : Access) :
    access ∈ Access.all matcher.lead text (marker + 1) ↔
      matcher.IsSelected text marker access.start access.tail := by
  obtain ⟨resume, searching⟩ := matcher.exists_searching_all text marker
  refine (searching.found_iff access).trans (and_iff_right_of_imp fun selected => ?_)
  obtain ⟨front, rest, split, start⟩ := (isSelected_iff.mp selected).1.occurs
  have positive := Text.byteLength_pos matcher.lead_ne_nil
  rw [split, ← start, Text.byteLength_append, Text.byteLength_append]
  omega

theorem all_pairwise : (Access.all matcher.lead text (marker + 1)).Pairwise
    fun first second => first.start < second.start := by
  obtain ⟨resume, searching⟩ := matcher.exists_searching_all text marker
  exact searching.ordered

end Whole

end Matcher

/-! ### The references of a text -/

namespace Access

/-- The reference of an access, with the positions of a line index. -/
def located (index : LineIndex) (access : Access) : MessageReference :=
  ⟨.ofList access.tail.messageId, ⟨index.position access.start, index.position access.tail.stop⟩⟩

/-- Accesses are located alike by a cursor that moves on and by an index. -/
theorem locateFrom_eq_map {text : List Char} {cursor : Cursor} (reads : cursor.Reads text)
    (found : Array MessageReference) (accesses : List Access) :
    (locateFrom found cursor accesses).toList
      = found.toList ++ accesses.map (located (LineIndex.ofText text)) := by
  induction accesses generalizing found cursor with
  | nil => rw [locateFrom, List.map_nil, List.append_nil]
  | cons access others ih =>
    obtain ⟨atStart, reads, start⟩ := reads.exists_position access.start
    obtain ⟨atStop, reads, stop⟩ := reads.exists_position access.tail.stop
    rw [locateFrom, start]
    dsimp only
    rw [stop, ih reads, Array.toList_push, List.append_assoc]
    rfl

end Access

namespace Matcher

/-- The references of a text are its accesses behind the marker, with the positions of an index. -/
theorem locateChars_eq_map {matcher : Matcher} {text : List Char} {marker : Nat}
    (marked : Marker.offset? matcher.config text = some marker) :
    matcher.locateChars text = (Access.all matcher.lead text (marker + 1)).map
      (Access.located (LineIndex.ofText text)) := by
  rw [locateChars, marked]
  exact Access.locateFrom_eq_map (Cursor.reads_atStart text) #[] _

/-- The references of a text, without a memo and without a cursor. -/
theorem locate_eq_map_behind {matcher : Matcher} {text : String} {marker : Nat}
    (marked : Marker.offset? matcher.config text.toList = some marker) :
    matcher.locate text = (Access.behind matcher.lead (marker + 1) [] text.toList).map
      (Access.located (LineIndex.ofText text.toList)) := by
  rw [locate, locateChars_eq_map marked, Access.all_eq_behind]

/-- **The references of a text are the selected anchors behind its marker, in increasing order,
each once.** Without a marker there are none. No acceptable anchor is lost where the search resumes
behind a discarded one. -/
theorem locate_eq_map_selected (matcher : Matcher) (text : String) :
    match Marker.offset? matcher.config text.toList with
    | none => matcher.locate text = []
    | some marker =>
      ∃ accesses : List Access,
        accesses.Pairwise (fun first second => first.start < second.start) ∧
        (∀ access, access ∈ accesses ↔
          matcher.IsSelected text.toList marker access.start access.tail) ∧
        matcher.locate text = accesses.map (Access.located (LineIndex.ofText text.toList)) ∧
        ∀ start later tail, matcher.IsCandidate text.toList marker start →
          (¬∃ longer, matcher.IsAcceptable text.toList marker start longer) →
          matcher.IsAcceptable text.toList marker later tail → start < later →
          start + Text.byteLength matcher.lead ≤ later := by
  split
  next unmarked => rw [locate, locateChars, unmarked]
  next marker marked =>
    refine ⟨_, matcher.all_pairwise text.toList marker, matcher.mem_all_iff text.toList marker,
      locateChars_eq_map marked, ?_⟩
    intro start later tail candidate none acceptable behind
    by_contra overlaps
    exact none (exists_isAcceptable_of_overlap candidate acceptable behind (by omega))

/-- An argument list that never ends hides no anchor in it. -/
example : standard.locate "@inlang/paraglide-js\ncontext.t.a(context.t.b"
    = [⟨"b", ⟨⟨1, 12⟩, ⟨1, 23⟩⟩⟩] := by
  cbv

end Matcher

end MessageRefs
