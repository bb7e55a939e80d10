import MessageRefs.Marker
import MessageRefs.Proofs.Text.Search

/-!
**The first marker of a text, and of a text that goes on.**

Imports and literals are searched apart, and the search for an import goes on behind each keyword
that begins none. Together they find the first place at which either begins. A marker that a text
shows is still one when the text goes on behind it, so the first marker of a longer text is not
behind that of its beginning.

* `Marker.firstImportFrom?_eq`: no import is missed by going on behind a keyword;
* `Marker.offset?_eq`: the two searches are one search for a place;
* `Marker.importedName?_eq_some_iff`: what an import names;
* `Marker.isGenerated_iff`, `Marker.isLiteralAt_iff`, `Marker.isImportAt_iff`: what the tests at a
  place say of the text;
* `Marker.isAt_append`: a marker stays one when the text goes on;
* `Marker.offset?_lt`: a marker begins before the end of the text;
* `Marker.exists_offset?_append`: the first marker of a longer text.
-/

namespace MessageRefs.Marker

/-- Whether one of the given texts, an empty one apart, begins at a place. -/
def isLiteralAt (literals : List (List Char)) (text : List Char) : Bool :=
  literals.any fun literal => !literal.isEmpty && literal.isPrefixOf text

/-- Whether a marker of a configuration begins at a place. -/
def isAt (config : MatcherConfig) (before : Option Char) (text : List Char) : Bool :=
  isImportAt (config.importSuffixes.map fun suffix => Text.trim suffix.toList) before text ||
    isLiteralAt (config.markers.map String.toList) text

/-! ### The search for the first marker -/

/-- A keyword does not overlap another. -/
theorem keyword_apart {c : Char} {rest : List Char} (leads : keyword <+: c :: rest) :
    ∀ passed < keyword.length - 1, ¬keyword <+: rest.drop passed := by
  obtain ⟨behind, whole⟩ := leads
  obtain ⟨-, rfl⟩ := List.cons.inj whole
  rintro passed inside ⟨more, again⟩
  have here : (keyword.tail ++ behind)[passed]? = keyword.head? := by
    rw [← List.head?_drop]
    exact (congrArg List.head? again).symm
  have other : ∀ passed < keyword.length - 1, keyword.tail[passed]? ≠ keyword.head? := by decide
  rw [List.getElem?_append_left inside] at here
  exact other passed inside here

theorem isImportAt_eq_false {suffixes : List (List Char)} {before : Option Char}
    {text : List Char} (other : ¬keyword <+: text) : isImportAt suffixes before text = false := by
  rw [← List.isPrefixOf_iff_prefix, Bool.not_eq_true] at other
  rw [isImportAt, other, Bool.false_and, Bool.false_and]

/-- **No import is missed by going on behind a keyword.** -/
theorem firstImportFrom?_eq {suffixes : List (List Char)} {skipped : Nat} {before : Option Char}
    {offset : Nat} {text : List Char}
    (clear : ∀ passed < skipped, ¬keyword <+: text.drop passed) :
    firstImportFrom? suffixes skipped before offset text
      = Text.firstPlaceFrom (isImportAt suffixes) 0 before offset text := by
  -- In the induction on the text, `clear` says that none begins in what is left of a keyword.
  induction text generalizing skipped before offset with
  | nil => rfl
  | cons c rest ih =>
    rw [Text.firstPlaceFrom, decide_eq_true (Nat.zero_le offset), Bool.true_and]
    cases skipped with
    | succ skipped =>
      have other : isImportAt suffixes before (c :: rest) = false :=
        isImportAt_eq_false (clear 0 (Nat.succ_pos skipped))
      rw [firstImportFrom?, other, if_neg Bool.false_ne_true]
      exact ih fun passed inside => clear (passed + 1) (Nat.succ_lt_succ inside)
    | zero =>
      rw [firstImportFrom?]
      split
      next => rfl
      next =>
        refine ih ?_
        split
        next leads => exact keyword_apart (List.isPrefixOf_iff_prefix.mp leads)
        next => exact fun passed inside => absurd inside (Nat.not_lt_zero passed)

theorem firstImport?_eq (suffixes : List (List Char)) (text : List Char) :
    firstImport? suffixes text = Text.firstPlace? (isImportAt suffixes) 0 text :=
  firstImportFrom?_eq fun passed inside => absurd inside (Nat.not_lt_zero passed)

/-- The first of the literals is where one of them occurs first. -/
theorem finds_firstLiteral? (literals : List (List Char)) (text : List Char) :
    Text.Finds (firstLiteral? literals text)
      (Text.passing (fun _ text => isLiteralAt literals text) text 0) := by
  have finds := Text.finds_min?
    (fun literal : List Char =>
      @Text.finds_firstPlace? (fun _ text => literal.isPrefixOf text) 0 text)
    (literals.filter fun literal => !literal.isEmpty)
  have same : {offset | ∃ literal ∈ literals.filter fun literal => !literal.isEmpty,
      offset ∈ Text.passing (fun _ text => literal.isPrefixOf text) text 0}
        = Text.passing (fun _ text => isLiteralAt literals text) text 0 := by
    ext offset
    constructor
    · rintro ⟨literal, member, -, front, rest, whole, length, leads⟩
      obtain ⟨member, filled⟩ := List.mem_filter.mp member
      refine ⟨Nat.zero_le _, front, rest, whole, length, List.any_eq_true.mpr ?_⟩
      exact ⟨literal, member, Bool.and_eq_true_iff.mpr ⟨filled, leads⟩⟩
    · rintro ⟨-, front, rest, whole, length, passes⟩
      obtain ⟨literal, member, both⟩ := List.any_eq_true.mp passes
      obtain ⟨filled, leads⟩ := Bool.and_eq_true_iff.mp both
      exact ⟨literal, List.mem_filter.mpr ⟨member, filled⟩, Nat.zero_le _, front, rest, whole,
        length, leads⟩
  rwa [same] at finds

/-- **The two searches together find the first place at which a marker begins.** -/
theorem offset?_eq (config : MatcherConfig) (text : List Char) :
    offset? config text = Text.firstPlace? (isAt config) 0 text := by
  have imports := @Text.finds_firstPlace?
    (isImportAt (config.importSuffixes.map fun suffix => Text.trim suffix.toList)) 0 text
  rw [← firstImport?_eq] at imports
  have literals := finds_firstLiteral? (config.markers.map String.toList) text
  have both := imports.merge literals
  rw [← Text.passing_or] at both
  exact both.unique Text.finds_firstPlace?

/-! ### The name of an import -/

/-- A name stands between quotes behind blanks: there is a blank, and neither the quote nor a line
break occurs in the name. -/
structure IsNamedBy (name blanks : List Char) (quote : Char) : Prop where
  isQuote : quote = '\'' ∨ quote = '"'
  separated : blanks ≠ []
  blank : ∀ c ∈ blanks, Text.isBlank c = true
  quoteless : quote ∉ name
  noBreak : '\n' ∉ name

theorem isBlank_quote {quote : Char} (isQuote : quote = '\'' ∨ quote = '"') :
    Text.isBlank quote = false := by
  rcases isQuote with rfl | rfl <;> decide

/-- The name of an import ends at the first quote like the opening one, on the same line. -/
theorem takeWhile_name_iff {quote : Char} {name body : List Char} :
    (body.takeWhile fun c => c != quote && c != '\n') = name ∧ body[name.length]? = some quote ↔
      quote ∉ name ∧ '\n' ∉ name ∧ ∃ after, body = name ++ quote :: after := by
  constructor
  · rintro ⟨rfl, closed⟩
    have inside : ∀ c ∈ body.takeWhile fun c => c != quote && c != '\n', c ≠ quote ∧ c ≠ '\n' := by
      intro c member
      have kept := List.all_eq_true.mp List.all_takeWhile c member
      simpa using kept
    refine ⟨fun member => (inside quote member).1 rfl, fun member => (inside '\n' member).2 rfl, ?_⟩
    have split := List.prefix_iff_eq_append.mp
      (List.takeWhile_prefix (fun c => c != quote && c != '\n') (l := body))
    rw [← List.head?_drop] at closed
    obtain ⟨after, behind⟩ := List.head?_eq_some_iff.mp closed
    exact ⟨after, by rw [← behind, split]⟩
  · rintro ⟨quoteless, noBreak, after, rfl⟩
    refine ⟨?_, by simp⟩
    have inside : ∀ c ∈ name, (c != quote && c != '\n') = true := by
      intro c member
      rw [Bool.and_eq_true, bne_iff_ne, bne_iff_ne]
      exact ⟨fun same => quoteless (same ▸ member), fun same => noBreak (same ▸ member)⟩
    rw [List.takeWhile_append_of_pos inside]
    simp

/-- **An import names what stands between quotes behind blanks.** -/
theorem importedName?_eq_some_iff {text name : List Char} :
    importedName? text = some name ↔ ∃ blanks quote after, IsNamedBy name blanks quote ∧
      text = blanks ++ quote :: (name ++ quote :: after) := by
  constructor
  · intro found
    cases text with
    | nil => cases found
    | cons blank rest =>
      by_cases isBlank : Text.isBlank blank = true
      · rw [importedName?, isBlank, Bool.not_true, if_neg Bool.false_ne_true] at found
        have split : (blank :: rest).takeWhile Text.isBlank ++ Text.trimStart (blank :: rest)
            = blank :: rest := List.takeWhile_append_dropWhile
        cases trimmed : Text.trimStart (blank :: rest) with
        | nil =>
          rw [trimmed] at found
          cases found
        | cons quote body =>
          rw [trimmed] at found split
          by_cases chosen : (decide (quote = '\'') || decide (quote = '"')) = true
          · simp only [if_pos chosen] at found
            split at found
            next closed =>
              cases found
              obtain ⟨quoteless, noBreak, after, rest_eq⟩ := takeWhile_name_iff.mp ⟨rfl, closed⟩
              have separated : (blank :: rest).takeWhile Text.isBlank ≠ [] := by
                rw [List.takeWhile_cons_of_pos isBlank]
                exact List.cons_ne_nil _ _
              refine ⟨(blank :: rest).takeWhile Text.isBlank, quote, after,
                ⟨by simpa using chosen, separated, ?_, quoteless, noBreak⟩, ?_⟩
              · exact List.all_eq_true.mp List.all_takeWhile
              · rw [← rest_eq, split]
            next => cases found
          · simp only [if_neg chosen] at found
            cases found
      · rw [importedName?, if_pos (by simpa using isBlank)] at found
        cases found
  · rintro ⟨blanks, quote, after, named, rfl⟩
    obtain ⟨blank, others, rfl⟩ := List.exists_cons_of_ne_nil named.separated
    have isBlank := named.blank blank List.mem_cons_self
    have trimmed : Text.trimStart (blank :: others ++ quote :: (name ++ quote :: after))
        = quote :: (name ++ quote :: after) := by
      rw [Text.trimStart, List.dropWhile_append_of_pos named.blank,
        List.dropWhile_cons_of_neg (by simp [isBlank_quote named.isQuote])]
    have read := takeWhile_name_iff.mpr ⟨named.quoteless, named.noBreak, after, rfl⟩
    have chosen : (decide (quote = '\'') || decide (quote = '"')) = true := by
      simpa using named.isQuote
    rw [List.cons_append, importedName?, isBlank, Bool.not_true, if_neg Bool.false_ne_true,
      ← List.cons_append, trimmed]
    simp only [chosen, if_true, read.1, read.2]

/-! ### What the tests at a place say -/

/-- A suffix stands for a name: it is the name, or the name ends in it behind a slash or a colon. -/
def StandsFor (suffix name : List Char) : Prop :=
  name = suffix ∨ '/' :: suffix <:+ name ∨ ':' :: suffix <:+ name

theorem isGenerated_iff {name suffix : List Char} :
    isGenerated name suffix = true ↔ StandsFor suffix name := by
  simp only [isGenerated, Bool.and_eq_true, Bool.or_eq_true, List.isEmpty_iff, beq_iff_eq,
    List.isSuffixOf_iff_suffix, StandsFor]
  have folder (front : List Char) :
      (front ++ suffix).take ((front ++ suffix).length - suffix.length) = front := by simp
  constructor
  · rintro ⟨⟨front, rfl⟩, ends⟩
    rw [folder] at ends
    rcases ends with (rfl | slash) | colon
    · exact .inl rfl
    · obtain ⟨path, rfl⟩ := List.getLast?_eq_some_iff.mp slash
      exact .inr (.inl ⟨path, List.append_cons path '/' suffix⟩)
    · obtain ⟨path, rfl⟩ := List.getLast?_eq_some_iff.mp colon
      exact .inr (.inr ⟨path, List.append_cons path ':' suffix⟩)
  · rintro (rfl | ⟨path, rfl⟩ | ⟨path, rfl⟩)
    · exact ⟨List.suffix_rfl, .inl (.inl (by simp))⟩
    · rw [List.append_cons, folder]
      exact ⟨⟨_, rfl⟩, .inl (.inr List.getLast?_concat)⟩
    · rw [List.append_cons, folder]
      exact ⟨⟨_, rfl⟩, .inr List.getLast?_concat⟩

theorem isLiteralAt_iff {literals : List (List Char)} {text : List Char} :
    isLiteralAt literals text = true ↔
      ∃ literal ∈ literals, literal ≠ [] ∧ literal <+: text := by
  simp only [isLiteralAt, List.any_eq_true, Bool.and_eq_true, Bool.not_eq_true',
    List.isEmpty_eq_false_iff, List.isPrefixOf_iff_prefix]

theorem isImportAt_iff {suffixes : List (List Char)} {before : Option Char} {text : List Char} :
    isImportAt suffixes before text = true ↔
      (∀ c ∈ before, Text.isIdentifierChar c = false) ∧
      ∃ blanks quote name after, IsNamedBy name blanks quote ∧
        text = keyword ++ (blanks ++ quote :: (name ++ quote :: after)) ∧
        ∃ suffix ∈ suffixes, StandsFor suffix name := by
  simp only [isImportAt, Bool.and_eq_true, Bool.not_eq_true', List.isPrefixOf_iff_prefix,
    Option.any_eq_true, Option.any_eq_false, List.any_eq_true, isGenerated_iff]
  constructor
  · rintro ⟨⟨⟨rest, rfl⟩, apart⟩, name, named, suffix⟩
    rw [List.drop_left] at named
    obtain ⟨blanks, quote, after, isNamed, rfl⟩ := importedName?_eq_some_iff.mp named
    exact ⟨fun c member => by simpa using apart c member,
      blanks, quote, name, after, isNamed, rfl, suffix⟩
  · rintro ⟨apart, blanks, quote, name, after, isNamed, rfl, suffix⟩
    refine ⟨⟨⟨_, rfl⟩, fun c member => by simpa using apart c member⟩, name, ?_, suffix⟩
    rw [List.drop_left]
    exact importedName?_eq_some_iff.mpr ⟨blanks, quote, after, isNamed, rfl⟩

/-! ### Markers in a text that goes on -/

section Append

variable {text : List Char}

theorem isImportAt_append {suffixes : List (List Char)} {before : Option Char}
    (isAt : isImportAt suffixes before text = true) (more : List Char) :
    isImportAt suffixes before (text ++ more) = true := by
  obtain ⟨apart, blanks, quote, name, after, named, rfl, suffix⟩ := isImportAt_iff.mp isAt
  refine isImportAt_iff.mpr ⟨apart, blanks, quote, name, after ++ more, named, ?_, suffix⟩
  simp only [List.append_assoc, List.cons_append]

theorem isLiteralAt_append {literals : List (List Char)} (isAt : isLiteralAt literals text = true)
    (more : List Char) : isLiteralAt literals (text ++ more) = true := by
  obtain ⟨literal, member, filled, leads⟩ := isLiteralAt_iff.mp isAt
  exact isLiteralAt_iff.mpr ⟨literal, member, filled, leads.trans (List.prefix_append _ _)⟩

theorem isAt_append {config : MatcherConfig} {before : Option Char}
    (marked : isAt config before text = true) (more : List Char) :
    isAt config before (text ++ more) = true := by
  rw [isAt, Bool.or_eq_true] at marked ⊢
  exact marked.imp (isImportAt_append · more) (isLiteralAt_append · more)

end Append

/-- No marker begins where nothing follows. -/
theorem ne_nil_of_isAt {config : MatcherConfig} {before : Option Char} {text : List Char}
    (marked : isAt config before text = true) : text ≠ [] := by
  rintro rfl
  rw [isAt, Bool.or_eq_true] at marked
  rcases marked with isImport | isLiteral
  · cases isImport
  · obtain ⟨literal, -, filled, leads⟩ := isLiteralAt_iff.mp isLiteral
    exact filled (List.prefix_nil.mp leads)

section Offset

variable {config : MatcherConfig} {text : List Char} {marker : Nat}
  (found : offset? config text = some marker)

include found

theorem offset?_lt : marker < Text.byteLength text := by
  rw [offset?_eq] at found
  obtain ⟨⟨-, front, rest, rfl, rfl, marked⟩, -⟩ := Text.firstPlace?_eq_some_iff.mp found
  have positive := Text.byteLength_pos (ne_nil_of_isAt marked)
  rw [Text.byteLength_append]
  omega

/-- **The first marker of a longer text is not behind that of its beginning.** -/
theorem exists_offset?_append (more : List Char) :
    ∃ earlier ≤ marker, offset? config (text ++ more) = some earlier := by
  rw [offset?_eq] at found ⊢
  obtain ⟨⟨-, front, rest, rfl, rfl, marked⟩, -⟩ := Text.firstPlace?_eq_some_iff.mp found
  have passes : Text.PassesAt (isAt config) (front ++ rest ++ more) (Text.byteLength front) :=
    ⟨front, rest ++ more, List.append_assoc _ _ _, rfl, isAt_append marked more⟩
  cases longer : Text.firstPlace? (isAt config) 0 (front ++ rest ++ more) with
  | none =>
    have nowhere := Text.firstPlace?_eq_none_iff.mp longer
    exact absurd passes (nowhere _ (Nat.zero_le _))
  | some earlier =>
    have first := Text.firstPlace?_eq_some_iff.mp longer
    exact ⟨earlier, first.2 ⟨Nat.zero_le _, passes⟩, rfl⟩

end Offset

end MessageRefs.Marker
