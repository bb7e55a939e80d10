import MessageRefs.Proofs.Protocol.Stream
import MessageRefs.Proofs.Session.Serve

/-!
**A session depends on the lines of its stream, not on how they are framed.**

* `SameLines`: two streams that differ only in how their data is cut, in interruptions, in blank
  lines, in white space at the ends of lines and in the break behind the last line;
* `SameLines.deliveries_eq`: they deliver the same;
* `SameLines.run_eq`: so that a session over either is the same.
-/

namespace MessageRefs

/-- Two streams that differ only in how their lines are framed. -/
inductive SameLines : List Event → List Event → Prop
  /-- A piece of data comes in two parts. -/
  | cut {before behind : List Event} (first second : List UInt8) :
      SameLines (before ++ .data (first ++ second) :: behind)
        (before ++ .data first :: .data second :: behind)
  /-- The stream is interrupted. -/
  | interrupted {before behind : List Event} :
      SameLines (before ++ .fault .interrupted :: behind) (before ++ behind)
  /-- A line of white space stands between two lines. -/
  | blank {before behind : List Event} {spaces : List Char} :
      StartsLine before → IsSpace spaces →
      SameLines (before ++ .data (Text.bytes spaces ++ [10]) :: behind) (before ++ behind)
  /-- White space stands at either end of a line. -/
  | space {before behind : List Event} {spaces : List Char} :
      StartsLine before ∨ EndsLine behind → IsSpace spaces →
      SameLines (before ++ .data (Text.bytes spaces) :: behind) (before ++ behind)
  /-- The last line ends with a line break. -/
  | ended {events : List Event} : SameLines (events ++ [.data [10]]) events
  | refl (events : List Event) : SameLines events events
  | symm {first second : List Event} : SameLines first second → SameLines second first
  | trans {first second third : List Event} :
      SameLines first second → SameLines second third → SameLines first third

namespace Framing

/-- White space where a line starts or ends does not matter. -/
theorem deliveriesFrom_space {framing : Framing} {behind : List Event} {spaces : List Char}
    (isEnd : framing = {} ∨ framing.isGone = true ∨ EndsLine behind) (space : IsSpace spaces) :
    framing.deliveriesFrom (.data (Text.bytes spaces) :: behind)
      = framing.deliveriesFrom behind := by
  cases gone : framing.isGone with
  | true => rw [deliveriesFrom_of_isGone gone, deliveriesFrom_of_isGone gone]
  | false =>
    obtain ⟨reversed, rfl⟩ : ∃ reversed, framing = ⟨reversed, false⟩ :=
      ⟨framing.reversed, by rw [← gone]⟩
    rw [deliveriesFrom_data_inside _ space.newline_notMem]
    rcases isEnd with isNew | isGone | ends
    · cases isNew
      rw [List.append_nil]
      exact deliveriesFrom_leading space [] behind
    · cases isGone
    · exact ends.deliveriesFrom_trailing space reversed

theorem deliveriesFrom_emptyLine (behind : List Event) :
    deliveriesFrom {} (.data [10] :: behind) = deliveriesFrom {} behind := by
  rw [deliveriesFrom_newline, deliver_nil, List.nil_append, deliveriesFrom_data_nil]

/-- The break behind the last line does not matter. -/
theorem deliveriesFrom_ended (framing : Framing) :
    framing.deliveriesFrom [.data [10]] = framing.deliveriesFrom [] := by
  obtain ⟨reversed, gone⟩ := framing
  cases gone with
  | true => rw [deliveriesFrom_of_isGone rfl, deliveriesFrom_of_isGone rfl]
  | false =>
    rw [deliveriesFrom_newline, deliveriesFrom_data_nil, deliveriesFrom_nil, deliveriesFrom_nil,
      deliver_nil, List.append_nil]

end Framing

/-- Streams of the same lines deliver the same. -/
theorem SameLines.deliveries_eq {first second : List Event} (same : SameLines first second) :
    deliveries first = deliveries second := by
  induction same with
  | @cut before _ first second =>
    obtain ⟨framing, found, split, -⟩ := exists_framing_behind before
    rw [split, split, Framing.deliveriesFrom_data_append]
  | @interrupted before _ =>
    obtain ⟨framing, found, split, -⟩ := exists_framing_behind before
    rw [split, split, Framing.deliveriesFrom_interrupted]
  | @blank before behind spaces starts space =>
    obtain ⟨framing, found, split, fresh⟩ := exists_framing_behind before
    rw [split, split, Framing.deliveriesFrom_data_append]
    rcases fresh starts with rfl | gone
    · rw [Framing.deliveriesFrom_space (.inl rfl) space, Framing.deliveriesFrom_emptyLine]
    · rw [Framing.deliveriesFrom_of_isGone gone, Framing.deliveriesFrom_of_isGone gone]
  | @space before behind spaces atEnd space =>
    obtain ⟨framing, found, split, fresh⟩ := exists_framing_behind before
    rw [split, split, Framing.deliveriesFrom_space ?_ space]
    rcases atEnd with starts | ends
    · exact (fresh starts).imp_right .inl
    · exact .inr (.inr ends)
  | @ended events =>
    obtain ⟨framing, found, split, -⟩ := exists_framing_behind events
    have whole := split []
    rw [List.append_nil] at whole
    rw [split, whole, Framing.deliveriesFrom_ended]
  | refl => rfl
  | symm _ ih => exact ih.symm
  | trans _ _ ihFirst ihSecond => exact ihFirst.trans ihSecond

/-- **A session depends on the lines of its stream, not on how they are framed.** Streams of the
same lines deliver the same requests and errors, in the same order, and a session over either sends
the same lines, comes to the same end and leaves the same server behind. -/
theorem SameLines.run_eq {first second : List Event} (same : SameLines first second) :
    deliveries first = deliveries second ∧
      ∀ (files : Workspace.FileSystem) (failure? : Nat → Option String),
        Session.run files failure? first = Session.run files failure? second := by
  refine ⟨same.deliveries_eq, fun files failure? => ?_⟩
  rw [Session.run_eq_runFrom, Session.run_eq_runFrom, same.deliveries_eq]

/-- A request on a line without a break. -/
def requestInOnePiece : List Event :=
  [.data (Text.bytes "[\"2.0\",\"é\",\"m\"]".toList)]

/-- The same request behind a blank line, cut inside a character and interrupted there, with an
ideographic space and a break behind it. -/
def requestInPieces : List Event :=
  [.data (Text.bytes ['\t'] ++ [10]), .data (Text.bytes "[\"2.0\",\"".toList ++ [0xc3]),
    .fault .interrupted, .data (0xa9 :: Text.bytes "\",\"m\"]".toList),
    .data (Text.bytes ['\u3000']), .data [10]]

theorem isSpace_singleton {c : Char} (blank : Text.isBlank c = true) (other : c ≠ '\n') :
    IsSpace [c] := by
  intro d member
  obtain rfl := List.mem_singleton.mp member
  exact ⟨blank, other⟩

theorem sameLines_requestInPieces : SameLines requestInPieces requestInOnePiece := by
  have blankLine : SameLines requestInPieces requestInPieces.tail :=
    SameLines.blank .beginning (isSpace_singleton rfl (by decide))
  have interruption := @SameLines.interrupted [.data (Text.bytes "[\"2.0\",\"".toList ++ [0xc3])]
    [.data (0xa9 :: Text.bytes "\",\"m\"]".toList), .data (Text.bytes ['\u3000']), .data [10]]
  have space := @SameLines.space [.data (Text.bytes "[\"2.0\",\"".toList ++ [0xc3]),
    .data (0xa9 :: Text.bytes "\",\"m\"]".toList)] [.data [10]] ['\u3000'] (.inr .broken)
    (isSpace_singleton rfl (by decide))
  have lastBreak := @SameLines.ended [.data (Text.bytes "[\"2.0\",\"".toList ++ [0xc3]),
    .data (0xa9 :: Text.bytes "\",\"m\"]".toList)]
  have onePiece := (@SameLines.cut [] [] (Text.bytes "[\"2.0\",\"".toList ++ [0xc3])
    (0xa9 :: Text.bytes "\",\"m\"]".toList)).symm
  exact blankLine.trans (interruption.trans (space.trans (lastBreak.trans onePiece)))

set_option maxRecDepth 8000 in
/-- The request in pieces comes to the session of the request in one piece, and is delivered. -/
theorem SameLines.run_eq_requestInPieces :
    SameLines requestInPieces requestInOnePiece ∧
      Session.run (.ofWorkingDirectory (.directory [])) (fun _ => none) requestInPieces
        = Session.run (.ofWorkingDirectory (.directory [])) (fun _ => none) requestInOnePiece ∧
      deliveries requestInPieces = [.ok ⟨"2.0", some (.string "é"), "m", .null⟩] := by
  obtain ⟨delivered, run⟩ := SameLines.run_eq sameLines_requestInPieces
  refine ⟨sameLines_requestInPieces, run _ _, ?_⟩
  rw [delivered]
  rfl

end MessageRefs
