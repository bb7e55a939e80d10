import MessageRefs.Protocol.Framing

/-!
**What a stream delivers.**

* `exists_line_of_mem_deliveries`: each request that is delivered was written on a line;
* `Request.id_ne_null`: no request has the id null, since null stands for no id;
* `deliveries_append_gone`: nothing is delivered once the peer is gone.
-/

namespace MessageRefs

/-! ### The line of a request -/

theorem exists_line_of_mem_deliver {request : Request} {reversed : List UInt8}
    (member : .ok request ∈ Framing.deliver reversed) :
    ∃ line, Request.ofLine line = .ok (some request) := by
  unfold Framing.deliver at member
  split at member
  · simp at member
  · next line _ =>
    split at member
    · simp at member
    · simp at member
    · next found read =>
      obtain rfl : request = found := by simpa using member
      exact ⟨line.toList, read⟩

theorem exists_line_of_mem_readBytes {request : Request} {bytes : List UInt8} :
    ∀ {found : Array Delivery} {reversed : List UInt8},
      .ok request ∈ (Framing.readBytes found reversed bytes).1 →
        .ok request ∈ found ∨ ∃ line, Request.ofLine line = .ok (some request) := by
  induction bytes with
  | nil => exact fun member => .inl member
  | cons byte rest ih =>
    intro found reversed member
    unfold Framing.readBytes at member
    split at member
    · rcases ih member with earlier | written
      · rw [← Array.mem_toList_iff, Array.toList_appendList] at earlier
        rcases List.mem_append.mp earlier with earlier | here
        · exact .inl (Array.mem_toList_iff.mp earlier)
        · exact .inr (exists_line_of_mem_deliver here)
      · exact .inr written
    · exact ih member

theorem exists_line_of_mem_feed {request : Request} {framing : Framing} {event : Event}
    (member : .ok request ∈ (framing.feed event).2) :
    ∃ line, Request.ofLine line = .ok (some request) := by
  unfold Framing.feed at member
  split at member
  · simp at member
  · split at member
    · rcases exists_line_of_mem_readBytes (Array.mem_toList_iff.mp member) with earlier | written
      · simp at earlier
      · exact written
    all_goals simp at member

theorem exists_line_of_mem_deliveriesFrom {request : Request} {events : List Event} :
    ∀ {framing : Framing}, .ok request ∈ framing.deliveriesFrom events →
      ∃ line, Request.ofLine line = .ok (some request) := by
  induction events with
  | nil =>
    intro framing member
    unfold Framing.deliveriesFrom Framing.finish at member
    split at member
    · simp at member
    · exact exists_line_of_mem_deliver member
  | cons event others ih =>
    intro framing member
    rcases List.mem_append.mp member with here | later
    · exact exists_line_of_mem_feed here
    · exact ih later

/-- Each request that a stream delivers was written on a line. -/
theorem exists_line_of_mem_deliveries {request : Request} {events : List Event}
    (member : .ok request ∈ deliveries events) :
    ∃ line, Request.ofLine line = .ok (some request) :=
  exists_line_of_mem_deliveriesFrom member

/-! ### The id of a request -/

namespace Request

theorem id?_ne_null {written : Json.Written} {id : Option Json} (read : id? written = some id) :
    id ≠ some .null := by
  unfold id? at read
  split at read
  · simp at read
  · obtain rfl : none = id := by simpa using read
    simp
  · next value notNull _ =>
    obtain rfl : some value = id := by simpa using read
    simpa using notNull

theorem Fields.id_ne_null_of_read? {fields changed : Fields} {name : String}
    {written : Json.Written} (sound : fields.id ≠ some (some .null))
    (read : fields.read? name written = some changed) : changed.id ≠ some (some .null) := by
  unfold Fields.read? at read
  split at read
  case h_2 =>
    split at read
    · simp at read
    · obtain ⟨id, readId, rfl⟩ := Option.map_eq_some_iff.mp read
      simpa using id?_ne_null readId
  case h_5 => exact Option.some.inj read ▸ sound
  all_goals
    split at read
    · simp at read
    · obtain ⟨value, -, rfl⟩ := Option.map_eq_some_iff.mp read
      exact sound

theorem Fields.id_ne_null_of_readAll? {others : List (List Char × Json.Written)} :
    ∀ {fields changed : Fields}, fields.id ≠ some (some .null) →
      fields.readAll? others = some changed → changed.id ≠ some (some .null) := by
  induction others with
  | nil => exact fun sound read => Option.some.inj read ▸ sound
  | cons field others ih =>
    intro fields changed sound read
    unfold Fields.readAll? at read
    split at read
    · simp at read
    · split at read
      · simp at read
      · next one => exact ih (id_ne_null_of_read? sound one) read

theorem id_ne_null_of_ofWritten? {written : Json.Written} {request : Request}
    (read : ofWritten? written = some request) : request.id ≠ some .null := by
  unfold ofWritten? at read
  split at read
  · obtain ⟨fields, readAll, whole⟩ := Option.bind_eq_some_iff.mp read
    have sound := Fields.id_ne_null_of_readAll? (by simp) readAll
    unfold ofFields? at whole
    split at whole
    · obtain rfl := Option.some.inj whole
      cases present : fields.id with
      | none => simp
      | some id => simpa [present] using sound
    · simp at whole
  · split at read
    · next readId _ => exact Option.some.inj read ▸ id?_ne_null readId
    · simp at read
  · split at read
    · next readId _ _ => exact Option.some.inj read ▸ id?_ne_null readId
    · simp at read
  · simp at read

/-- No request has the id null. -/
theorem id_ne_null {line : List Char} {request : Request}
    (read : ofLine line = .ok (some request)) : request.id ≠ some .null := by
  unfold ofLine at read
  dsimp only at read
  split at read
  · simp at read
  · split at read
    · next found written =>
      obtain rfl : found = request := by simpa using read
      obtain ⟨whole, -, readWhole⟩ := Option.bind_eq_some_iff.mp written
      exact id_ne_null_of_ofWritten? readWhole
    · simp at read

end Request

/-! ### The end of a stream -/

theorem Framing.deliveriesFrom_of_isGone {framing : Framing} (gone : framing.isGone = true)
    (events : List Event) : framing.deliveriesFrom events = [] := by
  induction events with
  | nil => simp [deliveriesFrom, finish, gone]
  | cons event others ih => simp [deliveriesFrom, feed, gone, ih]

theorem Framing.deliveriesFrom_append_gone (framing : Framing) (before behind : List Event) :
    framing.deliveriesFrom (before ++ .fault .gone :: behind)
      = framing.deliveriesFrom (before ++ [.fault .gone]) := by
  induction before generalizing framing with
  | nil =>
    have isGone : (framing.feed (.fault .gone)).1.isGone = true := by
      unfold feed
      split
      · assumption
      · rfl
    simp only [List.nil_append, deliveriesFrom.eq_2, deliveriesFrom_of_isGone isGone]
  | cons event others ih => simp only [List.cons_append, deliveriesFrom.eq_2, ih]

/-- Nothing is delivered once the peer is gone. -/
theorem deliveries_append_gone (before behind : List Event) :
    deliveries (before ++ .fault .gone :: behind) = deliveries (before ++ [.fault .gone]) :=
  Framing.deliveriesFrom_append_gone {} before behind

end MessageRefs
