import MessageRefs.Protocol.Response
import Mathlib.Tactic.SplitIfs

/-!
**A response is one line.**

JSON text has no line break in it: those in strings are escaped, numbers are written in digits,
and no white space stands between the parts.

* `Json.newline_notMem_render`: a value as text has no line break;
* `Response.newline_notMem_line`: neither has a response.
-/

namespace MessageRefs

theorem newline_notMem_append {first second : String} :
    '\n' ∉ (first ++ second).toList ↔ '\n' ∉ first.toList ∧ '\n' ∉ second.toList := by
  rw [String.toList_append, List.mem_append, not_or]

theorem newline_notMem_toDigits (number : Nat) : '\n' ∉ Nat.toDigits 10 number := by
  intro member
  have isDigit := Nat.isDigit_of_mem_toDigits (by decide) (by decide) member
  exact absurd isDigit (by decide)

theorem newline_notMem_repr (number : Nat) : '\n' ∉ number.repr.toList := by
  rw [Nat.repr, String.toList_ofList]
  exact newline_notMem_toDigits number

namespace Json

/-! ### Numbers -/

theorem newline_notMem_decimalText (format : Number.Format) (decimal : Decimal) :
    '\n' ∉ Number.decimalText format decimal := by
  have digits := newline_notMem_toDigits decimal.digits
  have taken (count : Nat) : '\n' ∉ (Nat.toDigits 10 decimal.digits).take count :=
    fun member => digits (List.mem_of_mem_take member)
  have dropped (count : Nat) : '\n' ∉ (Nat.toDigits 10 decimal.digits).drop count :=
    fun member => digits (List.mem_of_mem_drop member)
  unfold Number.decimalText
  dsimp only
  split_ifs <;>
    simp [-List.drop_one, digits, taken, dropped, newline_notMem_toDigits]

theorem newline_notMem_text (number : Number) : '\n' ∉ number.text.toList := by
  cases number with
  | integer value =>
    cases value with
    | ofNat natural => exact newline_notMem_repr natural
    | negSucc natural =>
      show '\n' ∉ ("-" ++ Nat.repr (natural + 1)).toList
      exact newline_notMem_append.mpr ⟨by decide, newline_notMem_repr _⟩
  | double value =>
    rw [Number.text, String.toList_ofList]
    unfold Number.doubleText
    dsimp only
    have decimal := newline_notMem_decimalText Number.format (Binary.ofFloat value).shortest
    split_ifs <;> simp [decimal]

/-! ### Strings -/

theorem newline_notMem_twoHexDigits : ∀ code < 32, '\n' ∉ twoHexDigits code := by
  decide

theorem newline_notMem_escaped (c : Char) : '\n' ∉ escaped c := by
  unfold escaped
  split
  case h_8 notNewline _ _ =>
    split
    next control =>
      have small : c.toNat < 32 := UInt32.lt_iff_toNat_lt.mp control
      have digits := newline_notMem_twoHexDigits c.toNat small
      simp [digits]
    next => simpa using Ne.symm notNewline
  all_goals decide

theorem newline_notMem_quoted (text : String) : '\n' ∉ (quoted text).toList := by
  rw [quoted, String.toList_ofList]
  have inside : '\n' ∉ text.toList.flatMap escaped := by
    intro member
    obtain ⟨c, -, written⟩ := List.mem_flatMap.mp member
    exact newline_notMem_escaped c written
  simp [inside]

/-! ### Values -/

theorem newline_notMem_commas {texts : List String}
    (single : ∀ text ∈ texts, '\n' ∉ text.toList) : '\n' ∉ (commas texts).toList := by
  rw [commas, String.toList_intercalate]
  induction texts with
  | nil => exact List.not_mem_nil
  | cons text others ih =>
    have first := single text List.mem_cons_self
    have later := ih fun other member => single other (List.mem_cons_of_mem _ member)
    cases others with
    | nil => simpa using first
    | cons next more =>
      rw [List.map_cons, List.map_cons, List.intercalate_cons_cons, List.mem_append,
        List.mem_append, ← List.map_cons]
      rintro ((inFirst | inComma) | inLater)
      · exact first inFirst
      · exact absurd inComma (by decide)
      · exact later inLater

mutual

theorem newline_notMem_render (value : Json) : '\n' ∉ value.render.toList := by
  cases value with
  | null => decide
  | bool value => cases value <;> decide
  | number value => exact newline_notMem_text value
  | string value => exact newline_notMem_quoted value
  | array items =>
    rw [render, newline_notMem_append, newline_notMem_append]
    exact ⟨⟨by decide, newline_notMem_commas (newline_notMem_renderItems items)⟩, by decide⟩
  | object fields =>
    rw [render, newline_notMem_append, newline_notMem_append]
    exact ⟨⟨by decide, newline_notMem_commas (newline_notMem_renderFields fields)⟩, by decide⟩

theorem newline_notMem_renderItems (items : List Json) :
    ∀ text ∈ renderItems items, '\n' ∉ text.toList := by
  cases items with
  | nil => exact fun text member => absurd member List.not_mem_nil
  | cons item others =>
    intro text member
    rcases List.mem_cons.mp member with rfl | later
    · exact newline_notMem_render item
    · exact newline_notMem_renderItems others text later

theorem newline_notMem_renderFields (fields : List (String × Json)) :
    ∀ text ∈ renderFields fields, '\n' ∉ text.toList := by
  cases fields with
  | nil => exact fun text member => absurd member List.not_mem_nil
  | cons field others =>
    intro text member
    obtain ⟨name, value⟩ := field
    rcases List.mem_cons.mp member with rfl | later
    · rw [newline_notMem_append, newline_notMem_append]
      exact ⟨⟨newline_notMem_quoted name, by decide⟩, newline_notMem_render value⟩
    · exact newline_notMem_renderFields others text later

end

end Json

/-- **A response is one line.** -/
theorem Response.newline_notMem_line (response : Response) : '\n' ∉ response.render.toList := by
  have code (kind : ErrorCode) : '\n' ∉ (toString kind.number).toList := by
    cases kind <;> decide
  have id : '\n' ∉ (renderId response.id).toList := by
    cases response.id with
    | none => decide
    | some value =>
      rw [renderId, newline_notMem_append]
      exact ⟨by decide, Json.newline_notMem_render value⟩
  have outcome : '\n' ∉ (renderOutcome response.outcome).toList := by
    cases response.outcome with
    | ok result =>
      rw [renderOutcome, newline_notMem_append]
      exact ⟨by decide, Json.newline_notMem_render result⟩
    | error failure =>
      simp only [renderOutcome, Failure.render, newline_notMem_append]
      exact ⟨by decide, ⟨⟨⟨by decide, code _⟩, by decide⟩, Json.newline_notMem_quoted _⟩, by decide⟩
  simp only [render, newline_notMem_append]
  exact ⟨⟨⟨⟨by decide, Json.newline_notMem_quoted _⟩, id⟩, outcome⟩, by decide⟩

end MessageRefs
