import MessageRefs.Position
import MessageRefs.Proofs.Text.Splits
import Mathlib.Data.List.Induction

/-!
**The coordinates of a place, read off the text before it.**

The line of a place is the number of line breaks before it, and its character is the number of
characters behind the last of them. An offset that is no place is taken as the next one.

* `Text.upTo`: the text before an offset;
* `Text.lastLine`: what stands behind the last line break;
* `Text.lineStart_unique`: the number of a line determines where it starts;
* `Position.behind`: the coordinates of the place behind a text.
-/

namespace MessageRefs

namespace Text

/-! ### The text before an offset -/

/-- The shortest first part of a text that takes a number of bytes; all of the text if it takes
fewer. -/
def upTo : Nat → List Char → List Char
  | 0, _ => []
  | _ + 1, [] => []
  | bytes + 1, c :: rest => c :: upTo (bytes + 1 - c.utf8Size) rest

@[simp] theorem upTo_zero (text : List Char) : upTo 0 text = [] := by
  rw [upTo]

@[simp] theorem upTo_nil (bytes : Nat) : upTo bytes [] = [] := by
  cases bytes <;> rfl

theorem upTo_cons {bytes : Nat} (positive : 0 < bytes) (c : Char) (rest : List Char) :
    upTo bytes (c :: rest) = c :: upTo (bytes - c.utf8Size) rest := by
  obtain ⟨less, rfl⟩ := Nat.exists_eq_succ_of_ne_zero (Nat.pos_iff_ne_zero.mp positive)
  rfl

/-- **Offsets behind a first part count on from its end.** -/
theorem upTo_append {bytes : Nat} {front : List Char} (rest : List Char)
    (reached : byteLength front ≤ bytes) :
    upTo bytes (front ++ rest) = front ++ upTo (bytes - byteLength front) rest := by
  induction front generalizing bytes with
  | nil => simp
  | cons c others ih =>
    have positive := c.utf8Size_pos
    rw [byteLength_cons] at reached
    have left : bytes - c.utf8Size - byteLength others = bytes - byteLength (c :: others) := by
      rw [byteLength_cons]
      omega
    rw [List.cons_append, upTo_cons (by omega), ih (by omega), left, List.cons_append]

theorem upTo_byteLength (front rest : List Char) :
    upTo (byteLength front) (front ++ rest) = front := by
  rw [upTo_append rest (Nat.le_refl _), Nat.sub_self, upTo_zero, List.append_nil]

theorem upTo_of_le {bytes : Nat} {text : List Char} (past : byteLength text ≤ bytes) :
    upTo bytes text = text := by
  have all := upTo_append [] past
  rwa [List.append_nil, upTo_nil, List.append_nil] at all

theorem upTo_min (bytes : Nat) (text : List Char) :
    upTo (min bytes (byteLength text)) text = upTo bytes text := by
  rcases Nat.le_total bytes (byteLength text) with inside | past
  · rw [Nat.min_eq_left inside]
  · rw [Nat.min_eq_right past, upTo_of_le (Nat.le_refl _), upTo_of_le past]

theorem upTo_leads (bytes : Nat) (text : List Char) : upTo bytes text <+: text := by
  fun_induction upTo bytes text with
  | case1 text => exact List.nil_prefix
  | case2 => exact List.nil_prefix
  | case3 bytes c rest ih => exact List.cons_prefix_cons.mpr ⟨rfl, ih⟩

/-- The text before an offset inside a character ends with the character. -/
theorem upTo_inside {text front rest : List Char} {c : Char} {bytes : Nat}
    (split : text = front ++ c :: rest) (begun : byteLength front < bytes)
    (unfinished : bytes ≤ byteLength front + c.utf8Size) : upTo bytes text = front ++ [c] := by
  have none : bytes - byteLength front - c.utf8Size = 0 := by omega
  rw [split, upTo_append _ (Nat.le_of_lt begun), upTo_cons (by omega), none, upTo_zero]

/-- A greater offset has the longer text before it. -/
theorem upTo_leads_upTo {bytes more : Nat} (fewer : bytes ≤ more) (text : List Char) :
    upTo bytes text <+: upTo more text := by
  fun_induction upTo bytes text generalizing more with
  | case1 text => exact List.nil_prefix
  | case2 => exact List.nil_prefix
  | case3 bytes c rest ih =>
    rw [upTo_cons (Nat.lt_of_lt_of_le (Nat.succ_pos bytes) fewer)]
    exact List.cons_prefix_cons.mpr ⟨rfl, ih (Nat.sub_le_sub_right fewer _)⟩

/-- A first part that reaches the bytes is not left behind: what stands before a character of
`upTo` falls short of them. -/
theorem lt_of_upTo_eq {bytes : Nat} {text front more : List Char} {c : Char}
    (split : upTo bytes text = front ++ c :: more) : byteLength front < bytes := by
  induction front generalizing bytes text with
  | nil =>
    rcases Nat.eq_zero_or_pos bytes with rfl | positive
    · rw [upTo_zero] at split
      cases split
    · exact positive
  | cons d others ih =>
    cases text with
    | nil =>
      rw [upTo_nil] at split
      cases split
    | cons e rest =>
      rcases Nat.eq_zero_or_pos bytes with rfl | positive
      · rw [upTo_zero] at split
        cases split
      · rw [upTo_cons positive] at split
        rw [List.cons_append] at split
        obtain ⟨rfl, behind⟩ := List.cons_eq_cons.mp split
        have shorter := ih behind
        rw [byteLength_cons]
        omega

/-- Where every character takes one byte, there are as many characters as bytes. -/
theorem length_upTo {bytes : Nat} {text : List Char}
    (single : ∀ c ∈ upTo bytes text, c.utf8Size = 1) (inside : bytes ≤ byteLength text) :
    (upTo bytes text).length = bytes := by
  fun_induction upTo bytes text with
  | case1 text => rfl
  | case2 bytes => exact absurd inside (Nat.not_succ_le_zero bytes)
  | case3 bytes c rest ih =>
    have one := single c List.mem_cons_self
    rw [byteLength_cons] at inside
    have more := ih (fun d member => single d (List.mem_cons_of_mem _ member)) (by omega)
    rw [List.length_cons, more]
    omega

/-! ### Lines -/

/-- What stands behind the last line break of a text; all of it if it has none. -/
def lastLine (text : List Char) : List Char :=
  (text.reverse.takeWhile (· != '\n')).reverse

@[simp] theorem lastLine_nil : lastLine [] = [] := rfl

@[simp] theorem lastLine_append_newline (front : List Char) : lastLine (front ++ ['\n']) = [] := by
  simp [lastLine]

/-- A part without line breaks belongs to the line it stands on. -/
theorem takeWhile_append_of_noBreak {part : List Char} (noBreak : '\n' ∉ part)
    (rest : List Char) :
    (part ++ rest).takeWhile (· != '\n') = part ++ rest.takeWhile (· != '\n') := by
  refine List.takeWhile_append_of_pos fun c member => ?_
  rw [bne_iff_ne]
  rintro rfl
  exact noBreak member

theorem lastLine_append {more : List Char} (noBreak : '\n' ∉ more) (front : List Char) :
    lastLine (front ++ more) = lastLine front ++ more := by
  have noBreak' : '\n' ∉ more.reverse := fun member => noBreak (List.mem_reverse.mp member)
  rw [lastLine, List.reverse_append, takeWhile_append_of_noBreak noBreak', List.reverse_append,
    List.reverse_reverse, lastLine]

theorem newline_notMem_lastLine (text : List Char) : '\n' ∉ lastLine text := by
  intro member
  have kept := List.all_eq_true.mp List.all_takeWhile '\n' (List.mem_reverse.mp member)
  exact absurd rfl (bne_iff_ne.mp kept)

theorem newline_notMem_singleton {c : Char} (other : c ≠ '\n') : '\n' ∉ [c] :=
  fun member => other (List.mem_singleton.mp member).symm

/-- Before the last line of a text stands the start of a line. -/
theorem exists_lineStart (text : List Char) :
    ∃ front, text = front ++ lastLine text ∧ lastLine front = [] := by
  induction text using List.reverseRecOn with
  | nil => exact ⟨[], rfl, rfl⟩
  | append_singleton front c ih =>
    by_cases newline : c = '\n'
    · subst newline
      refine ⟨front ++ ['\n'], ?_, lastLine_append_newline front⟩
      rw [lastLine_append_newline, List.append_nil]
    · obtain ⟨start, split, empty⟩ := ih
      refine ⟨start, ?_, empty⟩
      rw [lastLine_append (newline_notMem_singleton newline), ← List.append_assoc, ← split]

theorem lineStart_eq_of_le {front rest front' rest' : List Char}
    (same : front ++ rest = front' ++ rest') (starts : lastLine front' = [])
    (equal : front.count '\n' = front'.count '\n')
    (shorter : byteLength front ≤ byteLength front') : front = front' := by
  obtain ⟨between, rfl, -⟩ := split_le same shorter
  have noBreak : '\n' ∉ between := by
    rw [List.count_append] at equal
    exact List.count_eq_zero.mp (by omega)
  rw [lastLine_append noBreak, List.append_eq_nil_iff] at starts
  rw [starts.2, List.append_nil]

/-- Two starts of lines with as many line breaks before them are the same. -/
theorem lineStart_unique {front rest front' rest' : List Char}
    (same : front ++ rest = front' ++ rest') (starts : lastLine front = [])
    (starts' : lastLine front' = []) (equal : front.count '\n' = front'.count '\n') :
    front = front' := by
  rcases Nat.le_total (byteLength front) (byteLength front') with shorter | longer
  · exact lineStart_eq_of_le same starts' equal shorter
  · exact (lineStart_eq_of_le same.symm starts equal.symm longer).symm

end Text

namespace Position

/-- The coordinates of the place behind a text. -/
def behind (front : List Char) : Position :=
  saturated (front.count '\n') (Text.lastLine front).length

end Position

end MessageRefs
