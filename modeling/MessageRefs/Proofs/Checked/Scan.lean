import MessageRefs.Proofs.Checked.Call
import MessageRefs.Proofs.Checked.Marker
import MessageRefs.Proofs.Checked.Position
import MessageRefs.Proofs.Reference.Resumption

/-!
**A scan meets no fault.**

The scan with its cuts searches an anchor from an offset on, reads what stands behind it, asks a
cursor for both ends, and resumes at the end of the reference or behind the anchor. Each offset at
which it cuts is the length of a first part of the text; at the end of a reference this is because
the memo of calls is sound.

* `nextAnchor_eq`: the first anchor from an offset on is found without a fault;
* `Progress.IsBehind`: the invariant of the scan, kept by every anchor that is tried;
* `exists_tryAnchor`: an anchor is tried without a fault, and the references stay what they were;
* `exists_locateFrom`: so are all anchors up to the end of the text;
* `locate_neverFaults`: so are the references of any text, and they are those of the running scan.
-/

namespace MessageRefs.Checked

/-! ### The scan -/

/-- Whether no identifier runs into the anchor found at an offset. -/
def isApart (text : List Char) (start : Nat) : Except Fault Bool := do
  return !(← charBefore text start).any Text.isIdentifierChar

/-- The offset of the first anchor, from an offset on. -/
def nextAnchor (lead text : List Char) (least : Nat) : Except Fault (Option Nat) :=
  seek lead (lead.head?.elim 1 Char.utf8Size) (isApart text) text least

/-- How far a scan has come: what it has found, the place from which its cursor goes on, what it
knows of the calls, and the offset at which it resumes. -/
structure Progress where
  found : Array MessageReference
  place : Place
  memo : Call.Memo
  least : Nat

/-- Tries the anchor at an offset. The scan resumes at the end of the reference, or behind the
anchor if there is none. -/
def tryAnchor (lead : List Char) (index : LineIndex) (text : List Char) (progress : Progress)
    (start : Nat) : Except Fault Progress := do
  let pathStart := start + Text.byteLength lead
  match ← parse text pathStart progress.memo with
  | (none, memo) => return { progress with memo, least := pathStart }
  | (some tail, memo) =>
    let (first, place) ← progress.place.position index text start
    let (last, place) ← place.position index text tail.stop
    return ⟨progress.found.push ⟨.ofList tail.messageId, ⟨first, last⟩⟩, place, memo, tail.stop⟩

/-- Tries the anchors from where the scan resumes, and gives all references found. -/
def locateFrom (lead : List Char) (index : LineIndex) (text : List Char) (progress : Progress) :
    Except Fault (Array MessageReference) := do
  match ← nextAnchor lead text progress.least with
  | none => return progress.found
  | some start =>
    let next ← tryAnchor lead index text progress start
    if _onward : progress.least < next.least ∧ next.least ≤ Text.byteLength text then
      locateFrom lead index text next
    else throw (.stuck next.least)
termination_by Text.byteLength text - progress.least

/-- The references of a text, in order. The search begins behind the first character of the
marker. -/
def locate (matcher : Matcher) (text : List Char) : Except Fault (List MessageReference) := do
  match ← markerOffset matcher.config text with
  | none => return []
  | some marker =>
    let size := (← behind text marker).head?.elim 1 Char.utf8Size
    let progress : Progress := ⟨#[], ⟨0, 0, 0⟩, .empty, marker + size⟩
    return (← locateFrom matcher.lead (.ofText text) text progress).toList

/-! ### The first anchor -/

section Lead

variable {lead text front rest : List Char} (filled : lead ≠ [])

include filled

theorem nextAnchor_eq (whole : text = front ++ rest) :
    nextAnchor lead text (Text.byteLength front)
      = .ok (Text.firstPlace? (Anchor.isAt lead) (Text.byteLength front) text) := by
  obtain ⟨stride, isStride, size⟩ := exists_isStride_head filled
  rw [nextAnchor, ← size]
  refine seek_eq isStride ?_ whole
  rintro front rest rfl -
  rw [isApart, charBefore_byteLength]
  rfl

end Lead

/-! ### One anchor -/

/-- A scan stands behind a first part of a text: it resumes there, its cursor reads the text, and
what it knows of the calls is right. -/
structure Progress.IsBehind (progress : Progress) (text front : List Char) : Prop where
  leads : front <+: text
  least : progress.least = Text.byteLength front
  reads : ∃ cursor : Cursor, cursor.Reads text ∧ progress.place = .ofCursor cursor
  sound : progress.memo.Sound text

/-- The references of a scan: those found, and those of the accesses from where it resumes. -/
def Progress.references (progress : Progress) (lead text : List Char) : List MessageReference :=
  progress.found.toList
    ++ (Access.resumed lead progress.memo progress.least text).map (Access.located (.ofText text))

section References

variable {lead text front rest : List Char} {progress : Progress}

/-- The end of a reference is the length of a first part of the text. -/
theorem exists_front_of_parse {memo memo' : Call.Memo} (sound : memo.Sound (front ++ rest))
    {tail : Tail}
    (parsed : Tail.parse memo (Text.byteLength front) rest = (some tail, memo')) :
    ∃ more, front ++ more <+: front ++ rest ∧ tail.stop = Text.byteLength (front ++ more) := by
  obtain ⟨same, -⟩ := Tail.parse_sound rfl sound
  rw [parsed] at same
  obtain ⟨-, call, after, split, stop, -⟩ := Tail.exists_call_of_parse same.symm
  refine ⟨tail.messageId ++ call, ⟨after, ?_⟩, ?_⟩
  · rw [split, List.append_assoc, List.append_assoc]
  · rw [stop, List.append_assoc]

/-- **An anchor is tried without a fault.** The scan moves on behind it, and its references stay
what they were. -/
theorem exists_tryAnchor (filled : lead ≠ []) {earlier : List Char}
    (stands : progress.IsBehind (front ++ (lead ++ rest)) earlier)
    (isFirst : Text.firstPlace? (Anchor.isAt lead) progress.least (front ++ (lead ++ rest))
      = some (Text.byteLength front)) :
    ∃ next further,
      tryAnchor lead (.ofText (front ++ (lead ++ rest))) (front ++ (lead ++ rest)) progress
          (Text.byteLength front) = .ok next ∧
        next.IsBehind (front ++ (lead ++ rest)) (front ++ further) ∧ further ≠ [] ∧
        next.references lead (front ++ (lead ++ rest))
          = progress.references lead (front ++ (lead ++ rest)) := by
  obtain ⟨cursor, reads, place⟩ := stands.reads
  have whole : front ++ (lead ++ rest) = (front ++ lead) ++ rest := (List.append_assoc _ _ _).symm
  have read := parse_eq (front ++ lead) rest progress.memo
  have sound := (Tail.parse_sound whole stands.sound).2
  rw [← whole] at read
  rw [tryAnchor, ← Text.byteLength_append, read, ok_bind]
  rcases parsed : Tail.parse progress.memo (Text.byteLength (front ++ lead)) rest with
    ⟨_ | tail, memo⟩
  · rw [parsed] at sound
    refine ⟨_, lead, rfl, ⟨⟨rest, whole.symm⟩, rfl, stands.reads, sound⟩, filled, ?_⟩
    rw [Progress.references, Progress.references, Access.resumed_of_discarded isFirst filled parsed]
  · obtain ⟨more, leads, stop⟩ := exists_front_of_parse (whole ▸ stands.sound) parsed
    obtain ⟨atStart, readsStart, first⟩ := reads.exists_position (Text.byteLength front)
    obtain ⟨atStop, readsStop, last⟩ := readsStart.exists_position tail.stop
    have onward : Text.byteLength front < tail.stop := by
      have positive := Text.byteLength_pos filled
      simp only [stop, Text.byteLength_append]
      omega
    rw [parsed] at sound
    dsimp only
    rw [place, position_eq reads, ok_bind, first]
    dsimp only
    rw [position_eq readsStart, ok_bind, last]
    refine ⟨_, lead ++ more, rfl, ⟨?_, ?_, ⟨atStop, readsStop, rfl⟩, sound⟩, ?_, ?_⟩
    · rwa [← List.append_assoc, whole]
    · exact stop.trans (congrArg Text.byteLength (List.append_assoc front lead more))
    · exact List.append_ne_nil_of_left_ne_nil filled more
    · rw [Progress.references, Progress.references,
        Access.resumed_of_accepted isFirst filled parsed onward]
      simp [Access.located]

/-- **A scan goes on to the end of the text without a fault**, and finds its references. -/
theorem exists_locateFrom (filled : lead ≠ []) (stands : progress.IsBehind text front) :
    ∃ found, locateFrom lead (.ofText text) text progress = .ok found ∧
      found.toList = progress.references lead text := by
  -- The induction is on what is left behind the place at which the scan resumes.
  induction size : text.length - front.length using Nat.strong_induction_on
    generalizing front progress with
  | _ length ih =>
    obtain ⟨rest, whole⟩ := stands.leads
    have sought := nextAnchor_eq filled whole.symm
    rw [← stands.least] at sought
    rw [locateFrom, sought, ok_bind]
    cases isFirst : Text.firstPlace? (Anchor.isAt lead) progress.least text with
    | none =>
      refine ⟨progress.found, rfl, ?_⟩
      rw [Progress.references, Access.resumed_of_none isFirst, List.map_nil, List.append_nil]
    | some start =>
      obtain ⟨before, behindLead, rfl, rfl⟩ := Access.exists_split_of_first isFirst
      obtain ⟨next, further, tried, behindNext, more, same⟩ :=
        exists_tryAnchor filled stands isFirst
      obtain ⟨⟨reached, -⟩, -⟩ := Text.firstPlace?_eq_some_iff.mp isFirst
      rw [stands.least] at reached
      obtain ⟨between, rfl, -⟩ := Text.split_le whole reached
      have onward : progress.least < next.least ∧
          next.least ≤ Text.byteLength (front ++ between ++ (lead ++ behindLead)) := by
        obtain ⟨after, split⟩ := behindNext.leads
        have positive := Text.byteLength_pos more
        rw [← split, stands.least, behindNext.least]
        simp only [Text.byteLength_append]
        omega
      have shorter := behindNext.leads.length_le
      have positive := List.length_pos_of_ne_nil more
      dsimp only
      rw [tried, ok_bind, dif_pos onward, ← same]
      refine ih _ ?_ behindNext rfl
      rw [← size]
      simp only [List.length_append] at shorter ⊢
      omega

end References

/-! ### Whole texts -/

theorem ofCursor_atStart (text : List Char) : Place.ofCursor (.atStart text) = ⟨0, 0, 0⟩ := by
  have inside := (LineIndex.ofText text).lines_pos
  obtain ⟨front, split, start, starts, number, -⟩ := (LineIndex.lines_isComplete text).2 0 inside
  have empty : front = [] :=
    Text.lineStart_unique (split.symm.trans (List.nil_append text).symm) starts Text.lastLine_nil
      number
  rw [empty] at start
  rw [Place.ofCursor, Cursor.atStart, Cursor.atLine, ← start]
  rfl

/-- **A scan meets no fault**: for every text and every matcher, each cut of the text lies within it
and between two characters, each entry that is looked up exists, no difference is below zero, and
what is located are the references of the running scan. -/
theorem locate_neverFaults (matcher : Matcher) (text : String) :
    locate matcher text.toList = .ok (matcher.locate text) := by
  rw [locate, markerOffset_eq, ok_bind, Matcher.locate]
  generalize text.toList = text
  cases marked : Marker.offset? matcher.config text with
  | none =>
    rw [Matcher.locateChars, marked]
    rfl
  | some marker =>
    have isFirst := marked
    rw [Marker.offset?_eq] at isFirst
    obtain ⟨⟨-, front, rest, split, rfl, isAt⟩, -⟩ := Text.firstPlace?_eq_some_iff.mp isFirst
    obtain ⟨c, rest, rfl⟩ := List.exists_cons_of_ne_nil (Marker.ne_nil_of_isAt isAt)
    have stands : Progress.IsBehind
        ⟨#[], ⟨0, 0, 0⟩, .empty, Text.byteLength front + c.utf8Size⟩ text (front ++ [c]) :=
      ⟨⟨rest, by rw [split, List.append_assoc]; rfl⟩, (Text.byteLength_concat front c).symm,
        ⟨_, Cursor.reads_atStart text, (ofCursor_atStart text).symm⟩, Call.Memo.Sound.empty⟩
    obtain ⟨found, located, references⟩ := exists_locateFrom matcher.lead_ne_nil stands
    have cut : behind text (Text.byteLength front) = .ok (c :: rest) := by
      rw [split, behind_byteLength]
    have same : Access.all matcher.lead text (Text.byteLength front + 1)
        = Access.resumed matcher.lead .empty (Text.byteLength front + c.utf8Size) text := by
      rw [← Text.byteLength_concat, split]
      exact Access.resumed_congr matcher.lead_ne_nil Text.firstPlace?_inside
    rw [Matcher.locateChars_eq_map marked, same]
    simp only [cut, ok_bind, List.head?_cons, Option.elim_some, located, pure_eq_ok, references,
      Progress.references, List.nil_append]

set_option maxRecDepth 8000 in
/-- Characters of several bytes around the marker, in a literal of the call, and behind it. -/
example : locate .standard "ü@inlang/paraglide-js é\ncontext.t.aé(r'ü')é".toList
    = .ok [⟨"aé", ⟨⟨1, 0⟩, ⟨1, 18⟩⟩⟩] := by
  cbv

end MessageRefs.Checked
