import MessageRefs.Proofs.Text.Search

/-!
**Accesses that are checked.**

The scan carries along the text behind the place it stands at. It can also cut that text anew at its
offset, where a cut past the end of the text or inside a character is a fault, and so is a number
that no entry of a table has and a difference below zero.

* `Fault`: what can be wrong with an access;
* `behind`, `upTo`, `between`, `charBefore`: parts of a text, cut at offsets;
* `entry`, `difference`: entries of a table and differences of numbers;
* `seek`: the search for a word that is accepted, cut anew where it resumes;
* `behind_eq_ok_iff`, `entry_eq_ok_iff`, `difference_eq_ok_iff`: when an access is no fault;
* `behind_byteLength`, `upTo_byteLength`, `between_byteLength`: a cut between two parts of a text;
* `IsStride`: a part of the word that the search can pass without missing another occurrence;
* `seek_eq`: the search finds the first place at which the word is accepted.
-/

namespace MessageRefs.Checked

/-- What can be wrong with an access. -/
inductive Fault where
  /-- A text is cut past its end or inside a character. -/
  | cut (offset : Nat)
  /-- A table has no entry of this number. -/
  | entry (number : Nat)
  /-- A difference of unsigned numbers is below zero. -/
  | difference (minuend subtrahend : Nat)
  /-- A search does not move on, or moves past the end of the text. -/
  | stuck (offset : Nat)
deriving DecidableEq, Repr

/-! ### The accesses -/

/-- The text behind an offset. -/
def behind (text : List Char) (offset : Nat) : Except Fault (List Char) :=
  match Text.after? offset text with
  | some rest => .ok rest
  | none => .error (.cut offset)

/-- The text before an offset. -/
def upTo (text : List Char) (offset : Nat) : Except Fault (List Char) := do
  let rest ← behind text offset
  return text.take (text.length - rest.length)

/-- The text between two offsets. -/
def between (text : List Char) (start stop : Nat) : Except Fault (List Char) := do
  behind (← upTo text stop) start

/-- The character before an offset. -/
def charBefore (text : List Char) (offset : Nat) : Except Fault (Option Char) := do
  return (← upTo text offset).getLast?

/-- The entry of a table with a number. -/
def entry {α : Type} (table : Array α) (number : Nat) : Except Fault α :=
  match table[number]? with
  | some entry => .ok entry
  | none => .error (.entry number)

/-- The difference of two unsigned numbers. -/
def difference (minuend subtrahend : Nat) : Except Fault Nat :=
  if subtrahend ≤ minuend then .ok (minuend - subtrahend)
  else .error (.difference minuend subtrahend)

@[simp] theorem ok_bind {α β : Type} (a : α) (next : α → Except Fault β) :
    (Except.ok a >>= next) = next a := rfl

@[simp] theorem pure_eq_ok {α : Type} (a : α) : (pure a : Except Fault α) = .ok a := rfl

/-- **A text is cut without a fault exactly between two of its parts.** -/
theorem behind_eq_ok_iff {text rest : List Char} {offset : Nat} :
    behind text offset = .ok rest ↔
      ∃ front, text = front ++ rest ∧ Text.byteLength front = offset := by
  rw [← Text.after?_eq_some_iff, behind]
  cases Text.after? offset text <;> simp

/-- Within a character of two bytes there is no cut. -/
example : behind ['\u00e9', 't'] 1 = .error (.cut 1) := rfl

theorem entry_eq_ok_iff {α : Type} {table : Array α} {number : Nat} {found : α} :
    entry table number = .ok found ↔ ∃ inside : number < table.size, table[number] = found := by
  rw [← Array.getElem?_eq_some_iff, entry]
  cases table[number]? <;> simp

theorem difference_eq_ok_iff {minuend subtrahend rest : Nat} :
    difference minuend subtrahend = .ok rest ↔ minuend = subtrahend + rest := by
  rw [difference]
  split
  · rw [Except.ok.injEq]
    omega
  · simp only [reduceCtorEq, false_iff]
    omega

section Cut

variable (front part rest : List Char)

@[simp] theorem behind_byteLength : behind (front ++ rest) (Text.byteLength front) = .ok rest :=
  behind_eq_ok_iff.mpr ⟨front, rfl, rfl⟩

@[simp] theorem upTo_byteLength : upTo (front ++ rest) (Text.byteLength front) = .ok front := by
  simp [upTo]

@[simp] theorem charBefore_byteLength :
    charBefore (front ++ rest) (Text.byteLength front) = .ok front.getLast? := by
  simp [charBefore]

theorem between_byteLength :
    between (front ++ part ++ rest) (Text.byteLength front) (Text.byteLength (front ++ part))
      = .ok part := by
  rw [between, upTo_byteLength, ok_bind, behind_byteLength]

end Cut

theorem entry_eq {α : Type} {table : Array α} {number : Nat} (inside : number < table.size) :
    entry table number = .ok table[number] :=
  entry_eq_ok_iff.mpr ⟨inside, rfl⟩

theorem difference_eq {minuend subtrahend : Nat} (atMost : subtrahend ≤ minuend) :
    difference minuend subtrahend = .ok (minuend - subtrahend) :=
  difference_eq_ok_iff.mpr (Nat.add_sub_of_le atMost).symm

/-! ### Words -/

/-- The offset at which a word first occurs. -/
def occurrence? (word text : List Char) : Option Nat :=
  Text.firstPlace? (fun _ rest => word.isPrefixOf rest) 0 text

/-- The offset of the first character of a class. -/
def firstOf? (inClass : Char → Bool) (text : List Char) : Option Nat :=
  if text.any inClass then some (Text.byteLength (text.takeWhile fun c => !inClass c)) else none

/-- A text without a character of a class is passed whole; else the first one follows what is. -/
theorem firstOf?_cases (inClass : Char → Bool) (text : List Char) :
    (text.takeWhile fun c => !inClass c) = text ∧ firstOf? inClass text = none ∨
      ∃ c after, text = (text.takeWhile fun c => !inClass c) ++ c :: after ∧
        firstOf? inClass text = some (Text.byteLength (text.takeWhile fun c => !inClass c)) := by
  have split : (text.takeWhile fun c => !inClass c) ++ (text.dropWhile fun c => !inClass c)
      = text := List.takeWhile_append_dropWhile
  cases behind : text.dropWhile fun c => !inClass c with
  | nil =>
    rw [behind, List.append_nil] at split
    have outside := List.all_eq_true.mp (List.all_takeWhile (p := fun c => !inClass c) (l := text))
    rw [split] at outside
    exact .inl ⟨split, if_neg (by simpa using outside)⟩
  | cons c after =>
    rw [behind] at split
    have member : c ∈ text := split ▸ List.mem_append_right _ List.mem_cons_self
    have inside := List.head?_dropWhile_not (fun c => !inClass c) text
    rw [behind, List.head?_cons] at inside
    have occurs : text.any inClass = true := List.any_eq_true.mpr ⟨c, member, by simpa using inside⟩
    exact .inr ⟨c, after, split.symm, if_pos occurs⟩

/-- The first occurrence of a word, from an offset on, that is accepted. Behind one that is not, the
search resumes `step` bytes from where the word begins. -/
def seek (word : List Char) (step : Nat) (accepts : Nat → Except Fault Bool) (text : List Char)
    (least : Nat) : Except Fault (Option Nat) := do
  match occurrence? word (← behind text least) with
  | none => return none
  | some found =>
    let start := least + found
    if ← accepts start then return some start
    else if _onward : least < start + step ∧ start + step ≤ Text.byteLength text then
      seek word step accepts text (start + step)
    else throw (.stuck (start + step))
termination_by Text.byteLength text - least

theorem occurrence?_eq_none_iff {word text : List Char} :
    occurrence? word text = none ↔ ∀ front rest, text = front ++ rest → ¬word <+: rest := by
  rw [occurrence?, Text.firstPlace?_eq_none_iff]
  constructor
  · intro nowhere front rest split leads
    exact nowhere _ (Nat.zero_le _)
      ⟨front, rest, split, rfl, List.isPrefixOf_iff_prefix.mpr leads⟩
  · rintro nowhere offset - ⟨front, rest, split, -, leads⟩
    exact nowhere front rest split (List.isPrefixOf_iff_prefix.mp leads)

/-- A word that occurs parts the text at its first occurrence. -/
theorem exists_split_of_occurrence? {word text : List Char} {found : Nat}
    (isFound : occurrence? word text = some found) :
    ∃ front rest, text = front ++ rest ∧ Text.byteLength front = found ∧ word <+: rest ∧
      ∀ front' rest', text = front' ++ rest' → word <+: rest' →
        Text.byteLength front ≤ Text.byteLength front' := by
  obtain ⟨⟨-, front, rest, split, rfl, leads⟩, first⟩ := Text.firstPlace?_eq_some_iff.mp isFound
  refine ⟨front, rest, split, rfl, List.isPrefixOf_iff_prefix.mp leads, ?_⟩
  intro front' rest' split' leads'
  exact first ⟨Nat.zero_le _, front', rest', split', rfl, List.isPrefixOf_iff_prefix.mpr leads'⟩

/-- Whether a word begins at a place and a further test passes there. -/
def isWordAt (word : List Char) (test : Option Char → List Char → Bool) (before : Option Char)
    (text : List Char) : Bool :=
  word.isPrefixOf text && test before text

theorem isWordAt_iff {word : List Char} {test : Option Char → List Char → Bool}
    {before : Option Char} {text : List Char} :
    isWordAt word test before text = true ↔ word <+: text ∧ test before text = true := by
  rw [isWordAt, Bool.and_eq_true, List.isPrefixOf_iff_prefix]

/-- A first part of a word over which a search can move on: the word does not begin again in it. -/
structure IsStride (word stride : List Char) : Prop where
  leads : stride <+: word
  filled : stride ≠ []
  apart : ∀ rest, word <+: rest → ∀ skipped < stride.length, 0 < skipped →
    ¬word <+: rest.drop skipped

/-- The first character of a word can be passed. -/
theorem exists_isStride_head {word : List Char} (filled : word ≠ []) :
    ∃ stride, IsStride word stride ∧ Text.byteLength stride = word.head?.elim 1 Char.utf8Size := by
  obtain ⟨c, others, rfl⟩ := List.exists_cons_of_ne_nil filled
  refine ⟨[c], ⟨List.prefix_append [c] others, List.cons_ne_nil _ _, ?_⟩, rfl⟩
  intro _ _ skipped within positive
  exact absurd within (Nat.not_lt_of_le positive)

section Seek

variable {word stride text front rest : List Char} {accepts : Nat → Except Fault Bool}
  {test : Option Char → List Char → Bool}

/-- Behind the stride of a word that leads a text, less is left. -/
theorem IsStride.exists_behind (isStride : IsStride word stride) (leads : word <+: rest) :
    ∃ behind, rest = stride ++ behind ∧ behind.length < rest.length := by
  obtain ⟨behind, rfl⟩ := isStride.leads.trans leads
  refine ⟨behind, rfl, ?_⟩
  rw [List.length_append]
  exact Nat.lt_add_of_pos_left (List.length_pos_of_ne_nil isStride.filled)

theorem IsStride.eq_nil_of_overlap (isStride : IsStride word stride) {skipped : List Char}
    (leads : word <+: skipped ++ rest) (leads' : word <+: rest)
    (within : Text.byteLength skipped < Text.byteLength stride) : skipped = [] := by
  by_contra filled
  obtain ⟨after, whole⟩ := isStride.leads.trans leads
  obtain ⟨kept, rfl, -⟩ := Text.split_le whole.symm (Nat.le_of_lt within)
  have proper : kept ≠ [] := by
    rintro rfl
    rw [List.append_nil] at within
    exact absurd within (Nat.lt_irrefl _)
  have inside : skipped.length < (skipped ++ kept).length := by
    rw [List.length_append]
    exact Nat.lt_add_of_pos_right (List.length_pos_of_ne_nil proper)
  refine isStride.apart _ leads skipped.length inside (List.length_pos_of_ne_nil filled) ?_
  rwa [List.drop_left]

/-- Without an occurrence there is no place at which the word is accepted. -/
theorem firstPlace?_of_unfound (isFound : occurrence? word rest = none) :
    Text.firstPlace? (isWordAt word test) (Text.byteLength front) (front ++ rest) = none := by
  refine Text.firstPlace?_eq_none_iff.mpr ?_
  rintro offset reached ⟨front', rest', split, rfl, isAt⟩
  obtain ⟨more, -, remaining⟩ := Text.split_le split reached
  exact occurrence?_eq_none_iff.mp isFound more rest' remaining (isWordAt_iff.mp isAt).1

section Found

variable {before : List Char} (leads : word <+: rest)
  (first : ∀ front' rest', before ++ rest = front' ++ rest' → word <+: rest' →
    Text.byteLength before ≤ Text.byteLength front')

include leads first

theorem firstPlace?_of_accepted (accepted : test (front ++ before).getLast? rest = true) :
    Text.firstPlace? (isWordAt word test) (Text.byteLength front) (front ++ (before ++ rest))
      = some (Text.byteLength (front ++ before)) := by
  refine Text.firstPlace?_eq_some_iff.mpr ⟨⟨?_, ?_⟩, ?_⟩
  · rw [Text.byteLength_append]
    exact Nat.le_add_right _ _
  · exact ⟨_, _, (List.append_assoc _ _ _).symm, rfl, isWordAt_iff.mpr ⟨leads, accepted⟩⟩
  · rintro offset ⟨reached, front', rest', split, rfl, isAt⟩
    obtain ⟨more, rfl, remaining⟩ := Text.split_le split reached
    have earliest := first more rest' remaining (isWordAt_iff.mp isAt).1
    rw [Text.byteLength_append, Text.byteLength_append]
    omega

/-- Neither before the first occurrence nor over the stride behind it does another one begin, so
no place is missed where that one is refused. -/
theorem firstPlace?_of_refused (isStride : IsStride word stride)
    (refused : test (front ++ before).getLast? rest = false) :
    Text.firstPlace? (isWordAt word test) (Text.byteLength front) (front ++ (before ++ rest))
      = Text.firstPlace? (isWordAt word test) (Text.byteLength (front ++ before ++ stride))
          (front ++ (before ++ rest)) := by
  have same : Text.passing (isWordAt word test) (front ++ (before ++ rest)) (Text.byteLength front)
      = Text.passing (isWordAt word test) (front ++ (before ++ rest))
          (Text.byteLength (front ++ before ++ stride)) := by
    ext offset
    constructor
    · rintro ⟨reached, front', rest', split, rfl, isAt⟩
      refine ⟨?_, front', rest', split, rfl, isAt⟩
      obtain ⟨leads', passes⟩ := isWordAt_iff.mp isAt
      obtain ⟨more, rfl, remaining⟩ := Text.split_le split reached
      obtain ⟨skipped, rfl, rfl⟩ := Text.split_le remaining (first more rest' remaining leads')
      by_contra within
      simp only [Text.byteLength_append] at within
      obtain rfl := isStride.eq_nil_of_overlap leads leads' (by omega)
      rw [List.append_nil] at passes
      exact Bool.false_ne_true (refused.symm.trans passes)
    · rintro ⟨reached, passes⟩
      refine ⟨Nat.le_trans ?_ reached, passes⟩
      rw [List.append_assoc, Text.byteLength_append]
      exact Nat.le_add_right _ _
  exact Text.finds_firstPlace?.unique (same ▸ Text.finds_firstPlace?)

end Found

/-- **The search finds the first place at which the word is accepted**, and none of its cuts is a
fault. -/
theorem seek_eq (isStride : IsStride word stride)
    (decides : ∀ front rest, text = front ++ rest → word <+: rest →
      accepts (Text.byteLength front) = .ok (test front.getLast? rest))
    (whole : text = front ++ rest) :
    seek word (Text.byteLength stride) accepts text (Text.byteLength front)
      = .ok (Text.firstPlace? (isWordAt word test) (Text.byteLength front) text) := by
  -- The search resumes behind the stride, so the induction is on the length of what is left.
  induction size : rest.length using Nat.strong_induction_on generalizing front rest with
  | _ length ih =>
    subst whole
    rw [seek, behind_byteLength, ok_bind]
    cases isFound : occurrence? word rest with
    | none => rw [firstPlace?_of_unfound isFound, pure_eq_ok]
    | some found =>
      obtain ⟨before, after, rfl, rfl, leads, first⟩ := exists_split_of_occurrence? isFound
      dsimp only
      rw [← Text.byteLength_append, decides _ _ (List.append_assoc _ _ _).symm leads, ok_bind]
      cases accepted : test (front ++ before).getLast? after with
      | true => rw [if_pos rfl, firstPlace?_of_accepted leads first accepted, pure_eq_ok]
      | false =>
        rw [firstPlace?_of_refused leads first isStride accepted]
        obtain ⟨behindStride, rfl, less⟩ := isStride.exists_behind leads
        have positive := Text.byteLength_pos isStride.filled
        have onward : Text.byteLength front < Text.byteLength (front ++ before ++ stride) ∧
            Text.byteLength (front ++ before ++ stride)
              ≤ Text.byteLength (front ++ (before ++ (stride ++ behindStride))) := by
          simp only [Text.byteLength_append]
          omega
        have shorter : behindStride.length < length := by
          rw [← size, List.length_append]
          exact Nat.lt_add_left _ less
        rw [if_neg Bool.false_ne_true, ← Text.byteLength_append, dif_pos onward]
        exact ih _ shorter (by simp only [List.append_assoc]) rfl

end Seek

end MessageRefs.Checked
