import MessageRefs.Proofs.Checked.Slices
import MessageRefs.Proofs.Reference.Marker

/-!
**The search for the marker, with its cuts.**

Behind the keyword of an import the text is cut at the keyword's end, behind the opening quote, and
at the closing quote or the end of the line.

* `quotedName_eq`, `importedName_eq`: the name of an import is read without a fault;
* `firstImport_eq`: so is the first import of a generated file;
* `markerOffset_eq`: the marker is found without a fault, and it is that of the running search.
-/

namespace MessageRefs.Checked

/-- The name at the front of a text, up to the quote that also stands before the text. -/
def quotedName (quote : Char) (body : List Char) : Except Fault (Option (List Char)) := do
  match firstOf? (fun c => c == quote || c == '\n') body with
  | none => return none
  | some stop =>
    if (← behind body stop).head? = some quote then return some (← upTo body stop)
    else return none

/-- The name between the quotes of an import, from the text behind its keyword. -/
def importedName (text : List Char) : Except Fault (Option (List Char)) := do
  let trimmed := Text.trimStart text
  if Text.byteLength trimmed = Text.byteLength text then return none
  else match trimmed.head? with
    | none => return none
    | some quote =>
      if quote = '\'' ∨ quote = '"' then quotedName quote (← behind trimmed 1)
      else return none

/-- Whether the keyword of an import, found at an offset, begins the import of a generated file. -/
def isImport (suffixes : List (List Char)) (text : List Char) (start : Nat) :
    Except Fault Bool := do
  if (← charBefore text start).any Text.isIdentifierChar then return false
  else
    let name ← importedName (← behind text (start + Text.byteLength Marker.keyword))
    return name.any fun name => suffixes.any (Marker.isGenerated name)

/-- The offset of the first import of a generated file. -/
def firstImport (suffixes : List (List Char)) (text : List Char) : Except Fault (Option Nat) := do
  if suffixes.isEmpty then return none
  else
    seek Marker.keyword (Text.byteLength Marker.keyword) (isImport suffixes text) text 0

/-- The offset of the first marker. -/
def markerOffset (config : MatcherConfig) (text : List Char) : Except Fault (Option Nat) := do
  let suffixes := config.importSuffixes.map fun suffix => Text.trim suffix.toList
  let literals := config.markers.map String.toList
  return Option.merge min (← firstImport suffixes text) (Marker.firstLiteral? literals text)

/-! ### The name of an import -/

/-- Blanks at the front are dropped, so a text that begins with one gets shorter. -/
theorem byteLength_trimStart_ne {blank : Char} (isBlank : Text.isBlank blank = true)
    (rest : List Char) :
    Text.byteLength (Text.trimStart (blank :: rest)) ≠ Text.byteLength (blank :: rest) := by
  obtain ⟨dropped, split⟩ : Text.trimStart rest <:+ rest := List.dropWhile_suffix Text.isBlank
  have positive := blank.utf8Size_pos
  have whole := congrArg Text.byteLength split
  rw [Text.trimStart, List.dropWhile_cons_of_pos isBlank, ← Text.trimStart, Text.byteLength_cons]
  rw [Text.byteLength_append] at whole
  omega

/-- The name ends at the first closing quote or line break. -/
theorem quotedName_eq (quote : Char) (body : List Char) :
    quotedName quote body
      = .ok (if body[(body.takeWhile fun c => c != quote && c != '\n').length]? = some quote
          then some (body.takeWhile fun c => c != quote && c != '\n') else none) := by
  have outside : (fun c => c != quote && c != '\n') = fun c => !(c == quote || c == '\n') := by
    funext c
    rw [Bool.not_or, bne, bne]
  rw [quotedName, outside]
  rcases firstOf?_cases (fun c => c == quote || c == '\n') body with
    ⟨whole, isFirst⟩ | ⟨c, after, split, isFirst⟩
  · rw [isFirst, whole, List.getElem?_eq_none (Nat.le_refl _), if_neg (by simp)]
    rfl
  · rw [isFirst]
    generalize (body.takeWhile fun c => !(c == quote || c == '\n')) = name at split ⊢
    subst split
    by_cases closed : c = quote
    · simp [closed]
    · simp [closed]

theorem importedName_eq (text : List Char) :
    importedName text = .ok (Marker.importedName? text) := by
  cases text with
  | nil => rfl
  | cons blank rest =>
    by_cases isBlank : Text.isBlank blank = true
    · rw [importedName, if_neg (byteLength_trimStart_ne isBlank rest), Marker.importedName?,
        isBlank, Bool.not_true, if_neg Bool.false_ne_true]
      cases Text.trimStart (blank :: rest) with
      | nil => rfl
      | cons quote body =>
        by_cases isQuote : quote = '\'' ∨ quote = '"'
        · have chosen : (decide (quote = '\'') || decide (quote = '"')) = true := by
            simpa using isQuote
          have size : Text.byteLength [quote] = 1 := by rcases isQuote with rfl | rfl <;> rfl
          have cut : behind (quote :: body) 1 = .ok body := size ▸ behind_byteLength [quote] body
          simp only [List.head?_cons, if_pos isQuote, if_pos chosen]
          rw [cut, ok_bind, quotedName_eq]
        · have chosen : ¬(decide (quote = '\'') || decide (quote = '"')) = true := by
            simpa using isQuote
          simp only [List.head?_cons, if_neg isQuote, if_neg chosen]
          rfl
    · have kept : Text.trimStart (blank :: rest) = blank :: rest :=
        List.dropWhile_cons_of_neg isBlank
      rw [importedName, if_pos (congrArg Text.byteLength kept), Marker.importedName?,
        if_pos (by simpa using isBlank)]
      rfl

/-! ### The first marker -/

/-- The keyword can be passed whole. -/
theorem isStride_keyword : IsStride Marker.keyword Marker.keyword := by
  refine ⟨List.prefix_rfl, by decide, fun rest leads skipped within positive => ?_⟩
  cases rest with
  | nil => cases List.prefix_nil.mp leads
  | cons c rest =>
    obtain ⟨skipped, rfl⟩ := Nat.exists_eq_add_one.mpr positive
    exact Marker.keyword_apart leads skipped (by omega)

/-- Whether a keyword with the text `text` behind its beginning imports a generated file. -/
def importsGenerated (suffixes : List (List Char)) (before : Option Char) (text : List Char) :
    Bool :=
  !before.any Text.isIdentifierChar &&
    (Marker.importedName? (text.drop Marker.keyword.length)).any
      fun name => suffixes.any (Marker.isGenerated name)

theorem isImportAt_eq_isWordAt (suffixes : List (List Char)) :
    Marker.isImportAt suffixes = isWordAt Marker.keyword (importsGenerated suffixes) := by
  funext before text
  exact Bool.and_assoc _ _ _

theorem isImport_eq {suffixes : List (List Char)} {front rest : List Char}
    (leads : Marker.keyword <+: rest) :
    isImport suffixes (front ++ rest) (Text.byteLength front)
      = .ok (importsGenerated suffixes front.getLast? rest) := by
  obtain ⟨after, rfl⟩ := leads
  rw [isImport, charBefore_byteLength, ok_bind, ← Text.byteLength_append, ← List.append_assoc,
    behind_byteLength, ok_bind, importedName_eq, ok_bind, importsGenerated, List.drop_left]
  cases front.getLast?.any Text.isIdentifierChar <;> rfl

/-- Without suffixes no import names a generated file. -/
theorem firstImport?_nil (text : List Char) : Marker.firstImport? [] text = none := by
  rw [Marker.firstImport?_eq, Text.firstPlace?_eq_none_iff]
  rintro offset - ⟨front, rest, -, -, isAt⟩
  obtain ⟨-, -, -, -, -, -, -, suffix, member, -⟩ := Marker.isImportAt_iff.mp isAt
  exact List.not_mem_nil member

theorem firstImport_eq (suffixes : List (List Char)) (text : List Char) :
    firstImport suffixes text = .ok (Marker.firstImport? suffixes text) := by
  cases suffixes with
  | nil =>
    rw [firstImport?_nil]
    rfl
  | cons suffix others =>
    rw [Marker.firstImport?_eq, isImportAt_eq_isWordAt]
    refine seek_eq isStride_keyword ?_ (List.nil_append text).symm
    rintro front rest rfl leads
    exact isImport_eq leads

/-- **The marker is found without a fault**, and it is the one that the running search finds. -/
theorem markerOffset_eq (config : MatcherConfig) (text : List Char) :
    markerOffset config text = .ok (Marker.offset? config text) := by
  rw [markerOffset, firstImport_eq, ok_bind]
  rfl

end MessageRefs.Checked
