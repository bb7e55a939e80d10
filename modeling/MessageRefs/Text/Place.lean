/-!
**Byte offsets into a text.**

A text is a list of characters, and an offset counts the bytes of its UTF-8 form. A *place* of a
text is an offset between two characters, seen as the character before it and the text after it.

* `after?`: the text after an offset, if the offset is a place;
* `charBefore?`: the character before an offset, if it is a place other than the beginning;
* `firstPlace?`: the least place, from an offset on, that passes a test;
* `byteLength_append`: lengths add up;
* `after?_byteLength_append`: behind a first part stands the second;
* `le_byteLength_of_after?`: a place is not past the end.
-/

namespace MessageRefs.Text

/-- The number of bytes that a text takes. -/
def byteLength (text : List Char) : Nat :=
  text.foldr (fun c bytes => c.utf8Size + bytes) 0

@[simp] theorem byteLength_nil : byteLength [] = 0 := rfl

@[simp] theorem byteLength_cons (c : Char) (text : List Char) :
    byteLength (c :: text) = c.utf8Size + byteLength text := rfl

@[simp] theorem byteLength_append (first second : List Char) :
    byteLength (first ++ second) = byteLength first + byteLength second := by
  induction first with
  | nil => exact (Nat.zero_add _).symm
  | cons c rest ih => rw [List.cons_append, byteLength_cons, ih, byteLength_cons, Nat.add_assoc]

/-- The text after an offset, if the offset lies between two characters or at an end. -/
def after? : Nat → List Char → Option (List Char)
  | 0, text => some text
  | _ + 1, [] => none
  | offset + 1, c :: rest =>
    if c.utf8Size ≤ offset + 1 then after? (offset + 1 - c.utf8Size) rest else none

/-- Behind a first part stands the second. -/
theorem after?_byteLength_append (first second : List Char) :
    after? (byteLength first) (first ++ second) = some second := by
  induction first with
  | nil => simp [after?]
  | cons c rest ih =>
    have positive := c.utf8Size_pos
    obtain ⟨size, sized⟩ : ∃ size, byteLength (c :: rest) = size + 1 :=
      ⟨c.utf8Size + byteLength rest - 1, by simp; omega⟩
    rw [sized, List.cons_append, after?, ← sized]
    simp [ih]

theorem le_byteLength_of_after? {offset : Nat} {text rest : List Char}
    (found : after? offset text = some rest) : offset ≤ byteLength text := by
  fun_induction after? offset text with
  | case1 => exact Nat.zero_le _
  | case2 => cases found
  | case3 offset c others fits ih =>
    have reached := ih found
    rw [byteLength_cons]
    omega
  | case4 => cases found

/-- An offset is a boundary when it lies between two characters or at an end. -/
def isBoundary (text : List Char) (offset : Nat) : Bool :=
  (after? offset text).isSome

/-- The last character of the first `offset` bytes, where `last` stands before all of them. -/
def charBeforeFrom (last : Option Char) : Nat → List Char → Option Char
  | 0, _ => last
  | _ + 1, [] => none
  | offset + 1, c :: rest =>
    if c.utf8Size ≤ offset + 1 then charBeforeFrom (some c) (offset + 1 - c.utf8Size) rest
    else none

/-- The character that ends at an offset; none at the beginning, past the end, or at an offset
inside a character. -/
def charBefore? (text : List Char) (offset : Nat) : Option Char :=
  charBeforeFrom none offset text

/-- The search of `firstPlace?` from the place at `offset` on, with the character before it. -/
def firstPlaceFrom (test : Option Char → List Char → Bool) (least : Nat)
    (before : Option Char) (offset : Nat) : List Char → Option Nat
  | [] => if least ≤ offset && test before [] then some offset else none
  | text@(c :: rest) =>
    if least ≤ offset && test before text then some offset
    else firstPlaceFrom test least (some c) (offset + c.utf8Size) rest

/-- The least place, not below `least`, whose character before and text after pass a test. -/
def firstPlace? (test : Option Char → List Char → Bool) (least : Nat) (text : List Char) :
    Option Nat :=
  firstPlaceFrom test least none 0 text

end MessageRefs.Text
