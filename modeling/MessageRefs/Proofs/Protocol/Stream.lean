import Mathlib.Data.List.TakeWhile
import MessageRefs.Proofs.Protocol.Delivery
import MessageRefs.Proofs.Text.Utf8

/-!
**A stream is read line by line, however it is cut.**

What a stream delivers from an event on depends on the bytes of the line that has begun and on
nothing else of what was read. White space at either end of these bytes does not matter.

* `Framing.deliveriesFrom_data_append`: a piece of data is read as its parts in turn;
* `Framing.deliveriesFrom_leading`: white space at the front of the line that has begun;
* `StartsLine`, `EndsLine`: the places of a stream at which a line starts or ends;
* `exists_framing_behind`: what was read before a place counts as a state and some deliveries, and
  where a line starts the state is that of a new stream;
* `deliveries_notReady`: a stream that is not ready loses the line that has begun, and only that.
-/

namespace MessageRefs

/-- White space within a line. -/
def IsSpace (spaces : List Char) : Prop :=
  ∀ c ∈ spaces, Text.isBlank c = true ∧ c ≠ '\n'

theorem IsSpace.newline_notMem {spaces : List Char} (space : IsSpace spaces) :
    10 ∉ Text.bytes spaces := by
  rw [Text.newline_mem_bytes_iff]
  exact fun member => (space '\n' member).2 rfl

namespace Text

theorem trim_append_left {blanks : List Char} (blank : ∀ c ∈ blanks, isBlank c = true)
    (text : List Char) : trim (blanks ++ text) = trim text := by
  rw [trim, trimStart, List.dropWhile_append_of_pos blank]
  rfl

theorem trim_append_right {blanks : List Char} (blank : ∀ c ∈ blanks, isBlank c = true)
    (text : List Char) : trim (text ++ blanks) = trim text := by
  have gone : blanks.dropWhile isBlank = [] := List.dropWhile_eq_nil_iff.mpr blank
  have reversed : ∀ c ∈ blanks.reverse, isBlank c = true :=
    fun c member => blank c (List.mem_reverse.mp member)
  rw [trim, trim, trimStart, trimStart, List.dropWhile_append, gone]
  split
  next empty => rw [List.isEmpty_iff.mp empty]
  next =>
    rw [dropBack, dropBack, List.reverse_append, List.dropWhile_append_of_pos reversed]

end Text

namespace Framing

/-! ### One line -/

/-- Lines that are the same text apart from white space at its ends, or that are no text at all,
deliver the same. -/
theorem deliver_congr {first second : List UInt8}
    (same : ∀ text, first.reverse = Text.bytes text →
      ∃ text', second.reverse = Text.bytes text' ∧ Text.trim text' = Text.trim text)
    (back : ∀ text', second.reverse = Text.bytes text' → ∃ text, first.reverse = Text.bytes text) :
    deliver first = deliver second := by
  by_cases valid : ∃ text, first.reverse = Text.bytes text
  · obtain ⟨text, isText⟩ := valid
    obtain ⟨text', isText', trimmed⟩ := same text isText
    rw [deliver, deliver, isText, isText', Text.fromUTF8?_bytes, Text.fromUTF8?_bytes]
    simp only [String.toList_ofList, Request.ofLine, trimmed]
  · have invalid : ∀ text, first.reverse ≠ Text.bytes text :=
      fun text isText => valid ⟨text, isText⟩
    have invalid' : ∀ text', second.reverse ≠ Text.bytes text' :=
      fun text' isText' => valid (back text' isText')
    rw [deliver, deliver, Text.fromUTF8?_eq_none invalid, Text.fromUTF8?_eq_none invalid']

theorem deliver_nil : deliver [] = [] := by
  have empty : ([] : List UInt8).reverse = Text.bytes [] := rfl
  rw [deliver, empty, Text.fromUTF8?_bytes]
  rfl

section Space

variable {spaces : List Char} (space : IsSpace spaces) (reversed : List UInt8)

include space

theorem deliver_trailing :
    deliver ((Text.bytes spaces).reverse ++ reversed) = deliver reversed := by
  rw [← List.reverse_reverse reversed, ← List.reverse_append]
  refine deliver_congr ?_ ?_
  · intro text isText
    rw [List.reverse_reverse] at isText
    obtain ⟨front, rfl, isFront⟩ := Text.exists_front_of_bytes isText
    refine ⟨front, by rw [List.reverse_reverse, isFront], ?_⟩
    exact (Text.trim_append_right (fun c member => (space c member).1) front).symm
  · intro front isFront
    rw [List.reverse_reverse] at isFront
    exact ⟨front ++ spaces, by rw [List.reverse_reverse, isFront, Text.bytes_append]⟩

theorem deliver_leading : deliver (reversed ++ (Text.bytes spaces).reverse) = deliver reversed := by
  rw [← List.reverse_reverse reversed, ← List.reverse_append]
  refine deliver_congr ?_ ?_
  · intro text isText
    rw [List.reverse_reverse] at isText
    obtain ⟨others, rfl, isOthers⟩ := Text.exists_append_of_bytes isText
    refine ⟨others, by rw [List.reverse_reverse, isOthers], ?_⟩
    exact (Text.trim_append_left (fun c member => (space c member).1) others).symm
  · intro others isOthers
    rw [List.reverse_reverse] at isOthers
    exact ⟨spaces ++ others, by rw [List.reverse_reverse, isOthers, Text.bytes_append]⟩

end Space

/-! ### One byte, one fault -/

section Steps

variable {framing : Framing} {reversed : List UInt8} {bytes : List UInt8} (others : List Event)

/-- What was found before joins what is found next. -/
theorem readBytes_eq (found : Array Delivery) (reversed bytes : List UInt8) :
    readBytes found reversed bytes
      = (found ++ (readBytes #[] reversed bytes).1, (readBytes #[] reversed bytes).2) := by
  induction bytes generalizing found reversed with
  | nil => simp [readBytes]
  | cons byte rest ih =>
    unfold readBytes
    split
    · rw [ih, ih (#[] ++ deliver reversed)]
      refine Prod.ext (Array.ext' ?_) rfl
      simp only [Array.toList_append, Array.toList_appendList, List.nil_append, List.append_assoc]
    · exact ih found (byte :: reversed)

theorem deliveriesFrom_data_nil :
    framing.deliveriesFrom (.data [] :: others) = framing.deliveriesFrom others := by
  cases framing with
  | mk reversed gone => cases gone <;> simp [deliveriesFrom, feed, readBytes]

theorem deliveriesFrom_newline :
    deliveriesFrom ⟨reversed, false⟩ (.data (10 :: bytes) :: others)
      = deliver reversed ++ deliveriesFrom {} (.data bytes :: others) := by
  simp only [deliveriesFrom, feed, readBytes, Bool.false_eq_true, if_false, if_true]
  rw [readBytes_eq]
  simp

theorem deliveriesFrom_byte {byte : UInt8} (inside : byte ≠ 10) :
    deliveriesFrom ⟨reversed, false⟩ (.data (byte :: bytes) :: others)
      = deliveriesFrom ⟨byte :: reversed, false⟩ (.data bytes :: others) := by
  simp only [deliveriesFrom, feed, readBytes, Bool.false_eq_true, if_false, inside]

theorem deliveriesFrom_interrupted :
    framing.deliveriesFrom (.fault .interrupted :: others) = framing.deliveriesFrom others := by
  cases framing with
  | mk reversed gone => cases gone <;> rfl

/-- Any other fault loses the line that has begun. -/
theorem deliveriesFrom_fault {fault : Fault} (loses : fault ≠ .interrupted)
    (reversed reversed' : List UInt8) (gone : Bool) :
    deliveriesFrom ⟨reversed, gone⟩ (.fault fault :: others)
      = deliveriesFrom ⟨reversed', gone⟩ (.fault fault :: others) := by
  cases gone with
  | true => rw [deliveriesFrom_of_isGone rfl, deliveriesFrom_of_isGone rfl]
  | false => cases fault <;> first | rfl | exact absurd rfl loses

end Steps

/-! ### Data in pieces -/

section Data

variable {framing : Framing} {reversed : List UInt8} {first : List UInt8} (others : List Event)

/-- **A piece of data is read as its parts in turn.** -/
theorem deliveriesFrom_data_append (first second : List UInt8) :
    framing.deliveriesFrom (.data (first ++ second) :: others)
      = framing.deliveriesFrom (.data first :: .data second :: others) := by
  cases framing with
  | mk reversed gone =>
    cases gone with
    | true => rw [deliveriesFrom_of_isGone rfl, deliveriesFrom_of_isGone rfl]
    | false =>
      induction first generalizing reversed with
      | nil => rw [List.nil_append, deliveriesFrom_data_nil]
      | cons byte rest ih =>
        rw [List.cons_append]
        by_cases newline : byte = 10
        · subst newline
          rw [deliveriesFrom_newline, deliveriesFrom_newline, ih]
        · rw [deliveriesFrom_byte _ newline, deliveriesFrom_byte _ newline, ih]

/-- Data within a line joins the line. -/
theorem deliveriesFrom_data_inside (inside : 10 ∉ first) :
    deliveriesFrom ⟨reversed, false⟩ (.data first :: others)
      = deliveriesFrom ⟨first.reverse ++ reversed, false⟩ others := by
  induction first generalizing reversed with
  | nil => exact deliveriesFrom_data_nil others
  | cons byte rest ih =>
    rw [List.mem_cons, not_or] at inside
    rw [deliveriesFrom_byte _ (Ne.symm inside.1), ih inside.2, List.reverse_cons, List.append_assoc,
      List.singleton_append]

end Data

/-- The end of a stream delivers the line that has begun. -/
theorem deliveriesFrom_nil (reversed : List UInt8) :
    deliveriesFrom ⟨reversed, false⟩ [] = deliver reversed := by
  cases reversed with
  | nil => exact deliver_nil.symm
  | cons byte rest => rfl

/-- **White space at the front of the line that has begun does not matter.** -/
theorem deliveriesFrom_leading {spaces : List Char} (space : IsSpace spaces)
    (reversed : List UInt8) (events : List Event) :
    deliveriesFrom ⟨reversed ++ (Text.bytes spaces).reverse, false⟩ events
      = deliveriesFrom ⟨reversed, false⟩ events := by
  induction events generalizing reversed with
  | nil => rw [deliveriesFrom_nil, deliveriesFrom_nil, deliver_leading space]
  | cons event others ih =>
    cases event with
    | data bytes =>
      induction bytes generalizing reversed with
      | nil => rw [deliveriesFrom_data_nil, deliveriesFrom_data_nil, ih]
      | cons byte rest ihBytes =>
        by_cases newline : byte = 10
        · subst newline
          rw [deliveriesFrom_newline, deliveriesFrom_newline, deliver_leading space]
        · rw [deliveriesFrom_byte _ newline, deliveriesFrom_byte _ newline, ← List.cons_append,
            ihBytes]
    | fault fault =>
      by_cases interrupted : fault = .interrupted
      · subst interrupted
        rw [deliveriesFrom_interrupted, deliveriesFrom_interrupted, ih]
      · exact deliveriesFrom_fault others interrupted _ _ false

/-! ### The state behind some events -/

/-- The state of a stream behind some events. -/
def after (framing : Framing) : List Event → Framing
  | [] => framing
  | event :: others => (framing.feed event).1.after others

theorem after_append (framing : Framing) (before behind : List Event) :
    framing.after (before ++ behind) = (framing.after before).after behind := by
  induction before generalizing framing with
  | nil => rfl
  | cons event others ih => exact ih (framing.feed event).1

/-- What was read before counts as a state and some deliveries. -/
theorem exists_deliveriesFrom_append (framing : Framing) (before : List Event) :
    ∃ found, ∀ behind, framing.deliveriesFrom (before ++ behind)
      = found ++ (framing.after before).deliveriesFrom behind := by
  induction before generalizing framing with
  | nil => exact ⟨[], fun behind => rfl⟩
  | cons event others ih =>
    obtain ⟨found, same⟩ := ih (framing.feed event).1
    refine ⟨(framing.feed event).2 ++ found, fun behind => ?_⟩
    rw [List.append_assoc, after, ← same behind]
    rfl

theorem readBytes_newline (found : Array Delivery) (reversed bytes : List UInt8) :
    (readBytes found reversed (bytes ++ [10])).2 = [] := by
  induction bytes generalizing found reversed with
  | nil => rfl
  | cons byte rest ih =>
    rw [List.cons_append, readBytes]
    split
    · exact ih _ _
    · exact ih _ _

end Framing

/-! ### Where lines start and end -/

/-- Behind these events a line starts: there are none, or the last of them ends or loses a line. -/
inductive StartsLine : List Event → Prop
  | beginning : StartsLine []
  | broken {before : List Event} {bytes : List UInt8} :
      StartsLine (before ++ [.data (bytes ++ [10])])
  | lost {before : List Event} {fault : Fault} : fault ≠ .interrupted →
      StartsLine (before ++ [.fault fault])

/-- Before these events a line ends: there are none, or the first of them ends or loses a line. -/
inductive EndsLine : List Event → Prop
  | ending : EndsLine []
  | broken {behind : List Event} {bytes : List UInt8} : EndsLine (.data (10 :: bytes) :: behind)
  | lost {behind : List Event} {fault : Fault} : fault ≠ .interrupted →
      EndsLine (.fault fault :: behind)

/-- Where a line starts, a stream is read as a new one, or the peer is gone. -/
theorem StartsLine.after_eq {before : List Event} (starts : StartsLine before) :
    Framing.after {} before = {} ∨ (Framing.after {} before).isGone = true := by
  cases starts with
  | beginning => exact .inl rfl
  | @broken before bytes =>
    rw [Framing.after_append]
    generalize Framing.after {} before = framing
    cases gone : framing.isGone with
    | true => exact .inr (by simp [Framing.after, Framing.feed, gone])
    | false =>
      left
      simp [Framing.after, Framing.feed, gone, Framing.readBytes_newline]
  | @lost before fault loses =>
    rw [Framing.after_append]
    generalize Framing.after {} before = framing
    cases gone : framing.isGone with
    | true => exact .inr (by simp [Framing.after, Framing.feed, gone])
    | false =>
      cases fault with
      | interrupted => exact absurd rfl loses
      | notReady => simp [Framing.after, Framing.feed, gone]
      | gone => simp [Framing.after, Framing.feed, gone]
      | failed => simp [Framing.after, Framing.feed, gone]

/-- Where a line ends, white space at its end does not matter. -/
theorem EndsLine.deliveriesFrom_trailing {behind : List Event} (ends : EndsLine behind)
    {spaces : List Char} (space : IsSpace spaces) (reversed : List UInt8) :
    Framing.deliveriesFrom ⟨(Text.bytes spaces).reverse ++ reversed, false⟩ behind
      = Framing.deliveriesFrom ⟨reversed, false⟩ behind := by
  cases ends with
  | ending =>
    rw [Framing.deliveriesFrom_nil, Framing.deliveriesFrom_nil, Framing.deliver_trailing space]
  | broken =>
    rw [Framing.deliveriesFrom_newline, Framing.deliveriesFrom_newline,
      Framing.deliver_trailing space]
  | lost loses => exact Framing.deliveriesFrom_fault _ loses _ _ false

/-- What was read before a place of a stream counts as a state and some deliveries. Where a line
starts the state is that of a new stream, unless the peer is gone. -/
theorem exists_framing_behind (before : List Event) :
    ∃ (framing : Framing) (found : List Delivery),
      (∀ behind, deliveries (before ++ behind) = found ++ framing.deliveriesFrom behind) ∧
      (StartsLine before → framing = {} ∨ framing.isGone = true) := by
  obtain ⟨found, same⟩ := Framing.exists_deliveriesFrom_append {} before
  exact ⟨Framing.after {} before, found, same, StartsLine.after_eq⟩

/-! ### A stream that is not ready -/

/-- An event that neither ends nor loses a line. -/
def Event.IsInside : Event → Prop
  | .data bytes => 10 ∉ bytes
  | .fault kind => kind = .interrupted

/-- Before a fault that loses a line, what has been read of the line does not matter. -/
theorem Framing.deliveriesFrom_inside_fault {fault : Fault} (loses : fault ≠ .interrupted)
    {inside : List Event} (isInside : ∀ event ∈ inside, event.IsInside) (reversed : List UInt8)
    (gone : Bool) (others : List Event) :
    deliveriesFrom ⟨reversed, gone⟩ (inside ++ .fault fault :: others)
      = deliveriesFrom ⟨reversed, gone⟩ (.fault fault :: others) := by
  cases gone with
  | true => rw [deliveriesFrom_of_isGone rfl, deliveriesFrom_of_isGone rfl]
  | false =>
    induction inside generalizing reversed with
    | nil => rfl
    | cons event more ih =>
      have here : event.IsInside := isInside event List.mem_cons_self
      have isInsideMore := fun other member => isInside other (List.mem_cons_of_mem event member)
      cases event with
      | data bytes =>
        rw [List.cons_append, deliveriesFrom_data_inside _ here, ih isInsideMore]
        exact deliveriesFrom_fault others loses _ _ false
      | fault kind =>
        obtain rfl : kind = .interrupted := here
        rw [List.cons_append, deliveriesFrom_interrupted, ih isInsideMore]

/-- **A stream that is not ready loses the line that has begun, and nothing else.** The stream
delivers what it would deliver without the events read since the line started. Where no line has
begun, nothing is lost. -/
theorem deliveries_notReady {before inside : List Event} (starts : StartsLine before)
    (isInside : ∀ event ∈ inside, event.IsInside) (behind : List Event) :
    deliveries (before ++ inside ++ .fault .notReady :: behind)
      = deliveries (before ++ behind) := by
  obtain ⟨⟨reversed, gone⟩, found, same, fresh⟩ := exists_framing_behind before
  have notReady : Fault.notReady ≠ .interrupted := by decide
  rw [List.append_assoc, same, same, Framing.deliveriesFrom_inside_fault notReady isInside]
  rcases fresh starts with isNew | isGone
  · cases isNew
    rfl
  · rw [Framing.deliveriesFrom_of_isGone isGone, Framing.deliveriesFrom_of_isGone isGone]

set_option maxRecDepth 8000 in
/-- Behind a line, a request that has been read in part, with an interruption, is lost: what is left
of its line is no request. -/
theorem deliveries_notReady_within_request :
    deliveries ([.data (Text.bytes "[\"1.0\",null,\"a\"]".toList ++ [10])] ++
        [.data (Text.bytes "[\"2.0\",".toList), .fault .interrupted,
          .data (Text.bytes "\"é\",".toList)] ++
        .fault .notReady :: [.data (Text.bytes "\"m\"]\n".toList)])
      = deliveries ([.data (Text.bytes "[\"1.0\",null,\"a\"]".toList ++ [10])] ++
          [.data (Text.bytes "\"m\"]\n".toList)]) ∧
    deliveries ([.data (Text.bytes "[\"1.0\",null,\"a\"]".toList ++ [10])] ++
        [.data (Text.bytes "\"m\"]\n".toList)])
      = [.ok ⟨"1.0", none, "a", .null⟩, .error .malformed] := by
  refine ⟨deliveries_notReady (@StartsLine.broken [] _) ?_ _, rfl⟩
  intro event member
  simp only [List.mem_cons, List.not_mem_nil, or_false] at member
  rcases member with rfl | rfl | rfl
  · exact Text.newline_mem_bytes_iff.not.mpr (by decide)
  · rfl
  · exact Text.newline_mem_bytes_iff.not.mpr (by decide)

set_option maxRecDepth 8000 in
/-- It is not true that a stream can fail to be ready anywhere without a loss. -/
theorem not_forall_deliveries_notReady :
    ¬ ∀ before behind : List Event,
      deliveries (before ++ .fault .notReady :: behind) = deliveries (before ++ behind) := by
  intro unchanged
  have parted : deliveries ([.data (Text.bytes "\x7b\"jsonrpc\":\"2.0\",\"id\":\"a\",".toList)] ++
      .fault .notReady :: [.data (Text.bytes "\"method\":\"m\"\x7d\n".toList)])
        = [.error .malformed] := by
    rfl
  have whole : deliveries ([.data (Text.bytes "\x7b\"jsonrpc\":\"2.0\",\"id\":\"a\",".toList)] ++
      [.data (Text.bytes "\"method\":\"m\"\x7d\n".toList)])
        = [.ok ⟨"2.0", some (.string "a"), "m", .null⟩] := by
    rfl
  rw [unchanged, whole] at parted
  cases parted

end MessageRefs
