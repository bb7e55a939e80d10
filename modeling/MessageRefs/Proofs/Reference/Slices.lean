import Mathlib.Algebra.Group.Nat.Defs
import MessageRefs.Proofs.Position.Resolve
import MessageRefs.Proofs.Reference.Selection

/-!
**Reported positions cut out the references.**

* `Matcher.IsAcceptable.exists_parts`: an acceptable anchor, its path and its call in the text;
* `Matcher.CutsOut`: what the positions of a reference say of the text;
* `Matcher.located_cutsOut`: the positions of an acceptable anchor cut it out;
* `Matcher.locate_cutsOut`: so do those of every reference, and no two spans overlap.
-/

namespace MessageRefs.Matcher

/-- An anchor with its dot, a path, and a call of the grammar if any. -/
theorem IsAcceptable.exists_parts {matcher : Matcher} {text : List Char} {marker start : Nat}
    {tail : Tail} (acceptable : matcher.IsAcceptable text marker start tail) :
    ∃ front call after, text = front ++ matcher.lead ++ tail.messageId ++ call ++ after ∧
      Text.byteLength front = start ∧
      Text.byteLength (front ++ matcher.lead ++ tail.messageId ++ call) = tail.stop ∧
      tail.messageId ≠ [] ∧
      (call = [] ∨ Grammar.Derives .call (front ++ matcher.lead ++ tail.messageId) call after) := by
  obtain ⟨front, rest, rfl, rfl⟩ := acceptable.occurs
  have read := acceptable.read
  rw [← Text.byteLength_append, Tail.parseAt_byteLength] at read
  obtain ⟨filled, call, after, rfl, stop, derives⟩ := Tail.exists_call_of_parse read
  refine ⟨front, call, after, ?_, rfl, stop.symm, filled, derives⟩
  simp only [List.append_assoc]

/-- The positions of a reference cut its text out of the text between `front` and `after`, where
`call` stands behind the path. -/
structure CutsOut (matcher : Matcher) (text : List Char) (reference : MessageReference)
    (front call after : List Char) : Prop where
  whole : text = front ++ matcher.lead ++ reference.messageId.toList ++ call ++ after
  balanced : call = [] ∨
    Grammar.Derives .call (front ++ matcher.lead ++ reference.messageId.toList) call after
  starts : reference.span.start.resolve text = Text.byteLength front
  span : reference.span.slice? text = some (matcher.lead ++ reference.messageId.toList ++ call)
  position : (matcher.item reference).position.zeroBased.slice? text
    = some (reference.messageId.toList ++ call)
  span_lt : reference.span.start < reference.span.stop
  position_lt : (matcher.item reference).position.start < (matcher.item reference).position.stop

theorem length_lead (matcher : Matcher) :
    matcher.lead.length = matcher.config.anchor.length + 1 := by
  rw [lead_eq, Anchor.lead, List.length_append, String.length_toList]
  rfl

section

variable {matcher : Matcher} {text front call after : List Char} {reference : MessageReference}

/-- The path stands behind the anchor's dot, on the same line. -/
theorem messageIdSpan_eq {more : List Char}
    (span : reference.span = ⟨.behind front, .behind (front ++ matcher.lead ++ more)⟩) :
    matcher.messageIdSpan reference
      = ⟨.behind (front ++ matcher.lead), .behind (front ++ matcher.lead ++ more)⟩ := by
  rw [messageIdSpan, span, ← length_lead, Position.onward_behind matcher.newline_notMem_lead]

/-- A span between the two ends of a reference's text cuts it out. -/
theorem cutsOut_of_span (short : Text.byteLength text < Position.limit)
    (whole : text = front ++ matcher.lead ++ reference.messageId.toList ++ call ++ after)
    (span : reference.span = ⟨.behind front,
      .behind (front ++ matcher.lead ++ (reference.messageId.toList ++ call))⟩)
    (filled : reference.messageId.toList ≠ [])
    (balanced : call = [] ∨
      Grammar.Derives .call (front ++ matcher.lead ++ reference.messageId.toList) call after) :
    matcher.CutsOut text reference front call after := by
  have filled' : reference.messageId.toList ++ call ≠ [] :=
    List.append_ne_nil_of_left_ne_nil filled call
  have behindLead : text = front ++ matcher.lead ++ (reference.messageId.toList ++ call)
      ++ after := by
    rw [whole]
    simp only [List.append_assoc]
  have behindFront : text = front ++ (matcher.lead ++ (reference.messageId.toList ++ call))
      ++ after := by
    rw [behindLead]
    simp only [List.append_assoc]
  have fits : Text.byteLength (front ++ matcher.lead ++ (reference.messageId.toList ++ call))
      < Position.limit := by
    rw [behindLead, Text.byteLength_append] at short
    omega
  have fitsFront : Text.byteLength front ≤ Position.limit := by
    rw [Text.byteLength_append, Text.byteLength_append] at fits
    omega
  have idSpan := messageIdSpan_eq span
  have position : (matcher.item reference).position.zeroBased
      = matcher.messageIdSpan reference := by
    rw [item, idSpan]
    exact Span.zeroBased_oneBased_behind fits
  have ends := Position.behind_lt_limit fits
  have begins := Position.behind_lt filled' (Nat.le_of_lt fits)
  refine ⟨whole, balanced, ?_, ?_, ?_, ?_, ?_⟩
  · rw [span]
    exact Position.resolve_behind (behindFront.trans (List.append_assoc _ _ _)) fitsFront
  · rw [List.append_assoc] at fits
    rw [span, List.append_assoc, List.append_assoc]
    exact Span.slice?_behind behindFront (Nat.le_of_lt fits)
  · rw [position, idSpan]
    exact Span.slice?_behind behindLead (Nat.le_of_lt fits)
  · rw [List.append_assoc] at fits
    rw [span, List.append_assoc]
    exact Position.behind_lt (List.append_ne_nil_of_left_ne_nil matcher.lead_ne_nil _)
      (Nat.le_of_lt fits)
  · show (matcher.messageIdSpan reference).start.oneBased
      < (matcher.messageIdSpan reference).stop.oneBased
    rw [idSpan]
    exact Position.oneBased_lt ends.1 ends.2 begins

/-- **The positions of an acceptable anchor cut it out.** -/
theorem exists_cutsOut_of_isAcceptable {marker : Nat} {access : Access}
    (short : Text.byteLength text < Position.limit)
    (acceptable : matcher.IsAcceptable text marker access.start access.tail) :
    ∃ front call after,
      matcher.CutsOut text (access.located (LineIndex.ofText text)) front call after := by
  obtain ⟨front, call, after, whole, start, stop, filled, balanced⟩ := acceptable.exists_parts
  have id : (access.located (LineIndex.ofText text)).messageId.toList = access.tail.messageId :=
    String.toList_ofList
  refine ⟨front, call, after, cutsOut_of_span short ?_ ?_ ?_ ?_⟩
  · rw [id, whole]
  · have whole' : text = front ++ (matcher.lead ++ access.tail.messageId ++ call ++ after) := by
      rw [whole]
      simp only [List.append_assoc]
    rw [id, ← List.append_assoc, Access.located, ← start, ← stop,
      LineIndex.position_byteLength text whole', LineIndex.position_byteLength text whole]
  · rwa [id]
  · rwa [id]

/-- An access that ends before another starts has the earlier span. -/
theorem stop_le_start {marker : Nat} {first second : Access}
    (short : Text.byteLength text < Position.limit)
    (acceptable : matcher.IsAcceptable text marker first.start first.tail)
    (acceptable' : matcher.IsAcceptable text marker second.start second.tail)
    (ordered : first.tail.stop ≤ second.start) :
    (first.located (LineIndex.ofText text)).span.stop
      ≤ (second.located (LineIndex.ofText text)).span.start := by
  obtain ⟨front, call, after, whole, -, stop, -, -⟩ := acceptable.exists_parts
  obtain ⟨front', rest', whole', start'⟩ := acceptable'.occurs
  rw [List.append_assoc] at whole'
  rw [← stop, ← start'] at ordered
  obtain ⟨between, rfl, -⟩ := Text.split_le (whole.symm.trans whole') ordered
  have fits : Text.byteLength (front ++ matcher.lead ++ first.tail.messageId ++ call ++ between)
      ≤ Position.limit := by
    rw [whole', Text.byteLength_append] at short
    omega
  rw [Access.located, Access.located, ← stop, ← start',
    LineIndex.position_byteLength text whole, LineIndex.position_byteLength text whole']
  exact Position.behind_le fits

end

/-- **The positions of every reference cut it out**, and a reference ends before the next one
starts. -/
theorem locate_cutsOut (matcher : Matcher) (text : String)
    (short : Text.byteLength text.toList < 2 ^ 32 - 1) :
    (∀ reference ∈ matcher.locate text, ∃ front call after,
      matcher.CutsOut text.toList reference front call after) ∧
    (matcher.locate text).Pairwise fun earlier later => earlier.span.stop ≤ later.span.start := by
  have short' : Text.byteLength text.toList < Position.limit := short
  rw [locate]
  cases marked : Marker.offset? matcher.config text.toList with
  | none =>
    rw [locateChars, marked]
    exact ⟨fun reference member => absurd member List.not_mem_nil, .nil⟩
  | some marker =>
    have selected := matcher.mem_all_iff text.toList marker
    rw [locateChars_eq_map marked]
    constructor
    · intro reference member
      obtain ⟨access, inAll, rfl⟩ := List.mem_map.mp member
      have isSelected := isSelected_iff.mp ((selected access).mp inAll)
      exact exists_cutsOut_of_isAcceptable short' isSelected.1
    · rw [List.pairwise_map]
      refine (matcher.all_pairwise text.toList marker).imp_of_mem ?_
      intro first second inFirst inSecond before
      have isFirst := (selected first).mp inFirst
      have isSecond := isSelected_iff.mp ((selected second).mp inSecond)
      exact stop_le_start short' (isSelected_iff.mp isFirst).1 isSecond.1
        (isSecond.2 first.start before first.tail isFirst)

set_option maxRecDepth 4000 in
/-- Two references, the first one with a call over two lines and beyond ASCII. -/
theorem locate_cutsOut_two_references :
    standard.locate "@inlang/paraglide-js\ncontext.t.a(\nü)+context.t.b"
        = [⟨"a", ⟨⟨1, 0⟩, ⟨2, 2⟩⟩⟩, ⟨"b", ⟨⟨2, 3⟩, ⟨2, 14⟩⟩⟩] ∧
      (∀ reference ∈
          standard.locate "@inlang/paraglide-js\ncontext.t.a(\nü)+context.t.b",
        ∃ front call after, standard.CutsOut
          "@inlang/paraglide-js\ncontext.t.a(\nü)+context.t.b".toList
          reference front call after) ∧
      (standard.locate "@inlang/paraglide-js\ncontext.t.a(\nü)+context.t.b").Pairwise
        fun earlier later => earlier.span.stop ≤ later.span.start := by
  refine ⟨?_, standard.locate_cutsOut _ (by decide)⟩
  rw [@locate_eq_map_behind standard _ 0 (by decide +kernel)]
  decide +kernel

end MessageRefs.Matcher
