import MessageRefs.Json.Decode

/-!
**When a record can be read.**

Each way to put a reader of records together has one equation for its success; nothing else about
readers needs to be unfolded.

* `Json.Decoder.optional_eq_ok_iff`: a value, or none where null stands;
* `Json.Record.seq_read_eq_ok_iff`, `Json.Record.map_read_eq_ok_iff`: fields one after another;
* `Json.Record.optionalField_read_eq_ok_iff`: a field that may be absent or null;
* `Json.Record.decoder_eq_ok_iff`: a record as a decoder.
-/

namespace MessageRefs.Json

/-- Telling an error in another way does not change when there is a value. -/
theorem mapError_eq_ok_iff {ε δ α : Type} {outcome : Except ε α} {describe : ε → δ} {value : α} :
    outcome.mapError describe = .ok value ↔ outcome = .ok value := by
  cases outcome with
  | ok found =>
    show Except.ok found = .ok value ↔ Except.ok found = .ok value
    simp only [Except.ok.injEq]
  | error error =>
    show Except.error (describe error) = .ok value ↔ Except.error error = .ok value
    simp only [reduceCtorEq]

theorem map_eq_ok_iff {ε α β : Type} {outcome : Except ε α} {apply : α → β} {value : β} :
    outcome.map apply = .ok value ↔ ∃ found, outcome = .ok found ∧ apply found = value := by
  cases outcome with
  | ok found =>
    show Except.ok (apply found) = .ok value ↔ _
    simp only [Except.ok.injEq, exists_eq_left']
  | error error =>
    show Except.error error = .ok value ↔ _
    simp only [reduceCtorEq, false_and, exists_false]

theorem Decoder.optional_eq_ok_iff {α : Type} {decode : Decoder α} {written : Json}
    {found : Option α} :
    Decoder.optional decode written = .ok found ↔
      written = .null ∧ found = none ∨
        written ≠ .null ∧ ∃ value, decode written = .ok value ∧ found = some value := by
  by_cases isNull : written = .null
  · subst isNull
    simp [Decoder.optional, eq_comm]
  · have plain : Decoder.optional decode written = (decode written).map some := by
      unfold Decoder.optional
      split
      · exact absurd rfl isNull
      · rfl
    rw [plain]
    simp [map_eq_ok_iff, isNull, @eq_comm _ found]

namespace Record

variable {α β : Type} {source : Source} {place : Nat}

theorem seq_read_eq_ok_iff {function : Record (α → β)} {argument : Record α} {value : β} :
    (function <*> argument).read source place = .ok value ↔
      ∃ apply, function.read source place = .ok apply ∧
        ∃ given, argument.read source (place + function.size) = .ok given ∧
          apply given = value := by
  show (both function argument).read source place = .ok value ↔ _
  dsimp only [both]
  cases function.read source place <;>
    cases argument.read source (place + function.size) <;> simp

theorem map_read_eq_ok_iff {apply : α → β} {argument : Record α} {value : β} :
    (apply <$> argument).read source place = .ok value ↔
      ∃ given, argument.read source place = .ok given ∧ apply given = value := by
  have seq : apply <$> argument = pure apply <*> argument := rfl
  rw [seq, seq_read_eq_ok_iff]
  constructor
  · rintro ⟨same, read, given, readGiven, rfl⟩
    obtain rfl : apply = same := Except.ok.inj read
    exact ⟨given, readGiven, rfl⟩
  · rintro ⟨given, readGiven, rfl⟩
    exact ⟨apply, rfl, given, readGiven, rfl⟩

theorem field_read_eq_ok_iff {name : String} {decode : Decoder α} {fallback value : α} :
    (field name decode (some fallback)).read source place = .ok value ↔
      source.get? name place = none ∧ value = fallback ∨
        ∃ written, source.get? name place = some written ∧ decode written = .ok value := by
  cases present : source.get? name place with
  | none => simp [field, present, eq_comm]
  | some written => simp [field, present, mapError_eq_ok_iff]

/-- A field that may be absent or null is read as none where it is one of these, and as the value
that its decoder reads elsewhere. -/
theorem optionalField_read_eq_ok_iff {name : String} {decode : Decoder α} {found : Option α} :
    (field name (.optional decode) (some none)).read source place = .ok found ↔
      (∀ written, source.get? name place = some written → written = .null) ∧ found = none ∨
        ∃ written, source.get? name place = some written ∧ written ≠ .null ∧
          ∃ value, decode written = .ok value ∧ found = some value := by
  rw [field_read_eq_ok_iff]
  cases present : source.get? name place with
  | none => simp
  | some written => simp [Decoder.optional_eq_ok_iff]

theorem decoder_eq_ok_iff {name : String} {record : Record α} {value : Json} {result : α} :
    record.decoder name value = .ok result ↔
      (∃ fields, value = .object fields ∧ record.read (.fields fields) 0 = .ok result) ∨
        ∃ items, value = .array items ∧ items.length ≤ record.size ∧
          record.read (.items items name record.size) 0 = .ok result := by
  cases value with
  | object fields => simp [decoder, mapError_eq_ok_iff]
  | array items =>
    cases read : record.read (.items items name record.size) 0 with
    | error problem => simp [decoder, read]
    | ok found =>
      by_cases long : record.size < items.length
      · simp [decoder, read, long, Nat.not_le_of_lt long]
      · simp [decoder, read, long, Nat.le_of_not_lt long]
  | _ => simp [decoder]

end Record

end MessageRefs.Json
