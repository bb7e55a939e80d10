import MessageRefs.Proofs.Protocol.Line
import MessageRefs.Proofs.Session.Duties
import MessageRefs.Proofs.Session.Serve

/-!
**A session answers what it owes.**

A session goes through what the stream delivers, in order, and attempts a response where one is
owed and nowhere else. It ends with the stream, behind a shutdown, or where a response to a refused
delivery cannot be sent. Other responses that cannot be sent make no difference.

* `Throughout`: a property of each item of a list and of the items before it;
* `Session.Answers`: the attempts that a list of deliveries calls for;
* `Session.Ends`: how a session comes to its end;
* `Session.exists_handles_run`: a session handles a first part of its deliveries and ends there;
* `Session.run_answers`: this together with what is sent, and with what failures can change.
-/

namespace MessageRefs

/-! ### Items and what stands before them -/

/-- A property of each item of a list and of the items before it. -/
def Throughout {α : Type} (items : List α) (property : List α → α → Prop) : Prop :=
  ∀ before item behind, items = before ++ item :: behind → property before item

section

variable {α : Type} {items before : List α} {item last : α} {property : List α → α → Prop}

theorem throughout_nil : Throughout [] property :=
  fun before item behind split => absurd split (by simp)

theorem Throughout.mono {other : List α → α → Prop} (holds : Throughout items property)
    (weaker : ∀ before item, property before item → other before item) : Throughout items other :=
  fun before item behind split => weaker before item (holds before item behind split)

theorem throughout_append_singleton :
    Throughout (items ++ [last]) property ↔ Throughout items property ∧ property items last := by
  constructor
  · intro holds
    refine ⟨fun before item behind split => holds before item (behind ++ [last]) ?_,
      holds items last [] rfl⟩
    rw [split, List.append_assoc, List.cons_append]
  · rintro ⟨earlier, here⟩ before item behind split
    rcases List.eq_nil_or_concat behind with rfl | ⟨others, final, rfl⟩
    · obtain ⟨rfl, same⟩ := List.append_inj' split rfl
      obtain rfl := List.singleton_inj.mp same
      exact here
    · rw [List.concat_eq_append, ← List.cons_append, ← List.append_assoc] at split
      obtain ⟨inner, -⟩ := List.append_inj' split rfl
      exact earlier before item others inner

theorem throughout_cons (holds : Throughout (item :: items) property) :
    property [] item ∧ Throughout items fun before => property (item :: before) :=
  ⟨holds [] item items rfl, fun before next behind split =>
    holds (item :: before) next behind (by rw [split, List.cons_append])⟩

end

namespace Session

variable (files : Workspace.FileSystem) (failure? : Nat → Option String)

/-- The attempts that deliveries call for: one for each that is owed a response, in their order,
with the response that the server owes at that point. -/
structure Answers (handled : List Delivery) (attempts : List Attempt) : Prop where
  length_eq : attempts.length = handled.countP Delivery.isDue
  owed : Throughout handled fun before delivery => delivery.isDue = true →
    ∃ response, Owes files (Server.behind files before) delivery response ∧
      attempts[before.countP Delivery.isDue]?
        = some ⟨response, failure? (before.countP Delivery.isDue)⟩

/-- Deliveries that do not end a session: there is no shutdown among them, and the response to each
one that is refused is sent. -/
def Continues (handled : List Delivery) : Prop :=
  Throughout handled fun before delivery => ¬ delivery.IsShutdown ∧
    (delivery.IsRefused → failure? (before.countP Delivery.isDue) = none)

/-- How a session comes to its end: what it has handled, what is left, and the error that ends it,
if one does. -/
inductive Ends : List Delivery → List Delivery → Option String → Prop
  | exhausted {handled : List Delivery} (continues : Continues failure? handled) :
      Ends handled [] none
  | shutdown {before left : List Delivery} {delivery : Delivery}
      (continues : Continues failure? before) (stops : delivery.IsShutdown) :
      Ends (before ++ [delivery]) left none
  | unsent {before left : List Delivery} {delivery : Delivery} {error : String}
      (continues : Continues failure? before) (refused : delivery.IsRefused)
      (failed : failure? (before.countP Delivery.isDue) = some error) :
      Ends (before ++ [delivery]) left (some error)

/-- A session that handled some deliveries and left the others. -/
structure Handles (handled left : List Delivery) (session : Session) : Prop where
  answers : Answers files failure? handled session.attempts
  ends : Ends failure? handled left session.fatal
  server_eq : session.server = Server.behind files handled

/-! ### One delivery more -/

section

variable {files failure?} {handled : List Delivery} {attempts : List Attempt}
  {delivery : Delivery}

theorem Answers.nil : Answers files failure? [] [] :=
  ⟨rfl, throughout_nil⟩

theorem Answers.append_quiet (answers : Answers files failure? handled attempts)
    (notDue : delivery.isDue = false) :
    Answers files failure? (handled ++ [delivery]) attempts := by
  refine ⟨?_, throughout_append_singleton.mpr ⟨answers.owed, fun due => ?_⟩⟩
  · rw [List.countP_append, answers.length_eq]
    simp [notDue]
  · exact absurd due (by simp [notDue])

theorem Answers.append_due {response : Response} (answers : Answers files failure? handled attempts)
    (due : delivery.isDue = true)
    (owes : Owes files (Server.behind files handled) delivery response) :
    Answers files failure? (handled ++ [delivery])
      (attempts ++ [⟨response, failure? attempts.length⟩]) := by
  refine ⟨?_, throughout_append_singleton.mpr ⟨?_, fun _ => ⟨response, owes, ?_⟩⟩⟩
  · rw [List.countP_append, List.length_append, answers.length_eq]
    simp [due]
  · refine answers.owed.mono fun before item earlier isDue => ?_
    obtain ⟨response, owes, attempted⟩ := earlier isDue
    refine ⟨response, owes, ?_⟩
    rw [List.getElem?_append_left (List.getElem?_eq_some_iff.mp attempted).1]
    exact attempted
  · rw [← answers.length_eq, List.getElem?_concat_length]

theorem Continues.append {handled : List Delivery} (continues : Continues failure? handled)
    (notShutdown : ¬ delivery.IsShutdown)
    (sent : delivery.IsRefused → failure? (handled.countP Delivery.isDue) = none) :
    Continues failure? (handled ++ [delivery]) :=
  throughout_append_singleton.mpr ⟨continues, notShutdown, sent⟩

end

/-! ### The whole run -/

section

variable {files failure?} {server : Server} {made : Array Attempt} {delivery : Delivery}
  (others : List Delivery)

theorem runFrom_of_not_isDue (notDue : delivery.isDue = false) :
    runFrom files failure? server made (delivery :: others)
      = runFrom files failure? (server.next files delivery) made others :=
  runFrom_of_unanswered others (Server.answer_of_not_isDue notDue)

end

/-- Behind deliveries that did not end it, a session handles a first part of what it is delivered
and ends there. -/
theorem exists_handles_runFrom (items : List Delivery) :
    ∀ {past : List Delivery} {made : Array Attempt}, Answers files failure? past made.toList →
      Continues failure? past →
        ∃ handled left, items = handled ++ left ∧
          Handles files failure? (past ++ handled) left
            (runFrom files failure? (Server.behind files past) made items) := by
  induction items with
  | nil =>
    intro past made answers continues
    refine ⟨[], [], rfl, ?_⟩
    rw [List.append_nil]
    exact ⟨answers, .exhausted continues, rfl⟩
  | cons delivery others ih =>
    intro past made answers continues
    have size : made.size = past.countP Delivery.isDue := answers.length_eq
    -- What is handled next joins the past.
    have goesOn {made' : Array Attempt}
        (answers' : Answers files failure? (past ++ [delivery]) made'.toList)
        (continues' : Continues failure? (past ++ [delivery])) :
        ∃ handled left, delivery :: others = handled ++ left ∧
          Handles files failure? (past ++ handled) left
            (runFrom files failure? ((Server.behind files past).next files delivery) made'
              others) := by
      obtain ⟨handled, left, split, handles⟩ := ih answers' continues'
      rw [Server.behind_append_singleton, ← List.append_cons] at handles
      exact ⟨delivery :: handled, left, by rw [split, List.cons_append], handles⟩
    cases due : delivery.isDue with
    | false =>
      rw [runFrom_of_not_isDue others due]
      refine goesOn (answers.append_quiet due) (continues.append ?_ ?_)
      · exact fun shutdown => absurd shutdown.isDue (by simp [due])
      · exact fun refused => absurd refused.isDue (by simp [due])
    | true =>
      obtain ⟨reply, answer, owes, vital, last⟩ :=
        Server.exists_answer_of_isDue files (Server.behind files past) due
      have answers' := answers.append_due due owes
      rw [runFrom_of_answer others answer]
      split_ifs with unsent shutdown
      · obtain ⟨isVital, failed⟩ := Bool.and_eq_true_iff.mp unsent
        obtain ⟨error, failed⟩ := Option.isSome_iff_exists.mp failed
        refine ⟨[delivery], others, rfl, answers', ?_, (Server.behind_append_singleton _).symm⟩
        rw [failed]
        exact .unsent continues (vital.mp isVital) (size ▸ failed)
      · refine ⟨[delivery], others, rfl, answers', ?_, (Server.behind_append_singleton _).symm⟩
        exact .shutdown continues (last.mp shutdown)
      · refine goesOn (by rw [Array.toList_push]; exact answers') (continues.append ?_ ?_)
        · exact fun isShutdown => shutdown (last.mpr isShutdown)
        · intro refused
          rw [vital.mpr refused, Bool.true_and, Option.not_isSome_iff_eq_none] at unsent
          exact size ▸ unsent

/-- A session handles a first part of what the stream delivers and ends there. -/
theorem exists_handles_run (events : List Event) :
    ∃ handled left, deliveries events = handled ++ left ∧
      Handles files failure? handled left (run files failure? events) := by
  rw [run_eq_runFrom]
  exact exists_handles_runFrom files failure? (deliveries events) .nil throughout_nil

/-! ### What is sent -/

/-- The lines sent are the responses whose attempts did not fail, one line each. -/
theorem out_eq (session : Session) :
    session.out
      = (session.attempts.filter (·.error.isNone)).map (·.response.render) := by
  rw [out, ← List.filterMap_eq_map, List.filterMap_filter]
  rfl

theorem newline_notMem_of_mem_out {session : Session} {line : String}
    (member : line ∈ session.out) : '\n' ∉ line.toList := by
  rw [out_eq] at member
  obtain ⟨attempt, -, rfl⟩ := List.mem_map.mp member
  exact attempt.response.newline_notMem_line

/-! ### Responses that cannot be sent -/

/-- Two sessions that take the same course; they may differ in which responses are sent. -/
structure SameCourse (first second : Session) : Prop where
  responses_eq : first.attempts.map Attempt.response = second.attempts.map Attempt.response
  fatal_eq : first.fatal = second.fatal
  server_eq : first.server = second.server

/-- The responses to refused deliveries fail in both of two ways to fail or in neither. The
responses are numbered from a start. -/
def AgreeOnRefused (other? failure? : Nat → Option String) (start : Nat)
    (items : List Delivery) : Prop :=
  Throughout items fun before delivery => delivery.IsRefused →
    other? (start + before.countP Delivery.isDue) = failure? (start + before.countP Delivery.isDue)

section

variable {files failure?} {other? : Nat → Option String} {start : Nat} {delivery : Delivery}
  {others : List Delivery}

theorem AgreeOnRefused.head (agree : AgreeOnRefused other? failure? start (delivery :: others))
    (refused : delivery.IsRefused) : other? start = failure? start :=
  (throughout_cons agree).1 refused

theorem AgreeOnRefused.tail (agree : AgreeOnRefused other? failure? start (delivery :: others)) :
    AgreeOnRefused other? failure? (start + [delivery].countP Delivery.isDue) others := by
  refine (throughout_cons agree).2.mono fun before item same refused => ?_
  have count : (delivery :: before).countP Delivery.isDue
      = [delivery].countP Delivery.isDue + before.countP Delivery.isDue := by
    rw [← List.countP_append, List.singleton_append]
  rw [Nat.add_assoc, ← count]
  exact same refused

/-- Failures to send the response to a delivery that is not refused do not change the course. -/
theorem sameCourse_runFrom (items : List Delivery) :
    ∀ {server : Server} {made' made : Array Attempt},
      made'.toList.map Attempt.response = made.toList.map Attempt.response →
        AgreeOnRefused other? failure? made.size items →
          SameCourse (runFrom files other? server made' items)
            (runFrom files failure? server made items) := by
  induction items with
  | nil => exact fun same _ => ⟨same, rfl, rfl⟩
  | cons delivery others ih =>
    intro server made' made same agree
    have size : made'.size = made.size := by simpa using congrArg List.length same
    cases due : delivery.isDue with
    | false =>
      rw [runFrom_of_not_isDue others due, runFrom_of_not_isDue others due]
      refine ih same ?_
      simpa [due] using agree.tail
    | true =>
      obtain ⟨reply, answer, -, vital, -⟩ :=
        Server.exists_answer_of_isDue files server due
      have failSame : (reply.isVital && (other? made'.size).isSome)
          = (reply.isVital && (failure? made.size).isSome) := by
        cases isVital : reply.isVital with
        | false => rfl
        | true => rw [size, agree.head (vital.mp isVital)]
      rw [runFrom_of_answer others answer, runFrom_of_answer others answer, failSame]
      have same' (error' error : Option String) :
          (made'.toList ++ [Attempt.mk reply.response error']).map Attempt.response
            = (made.toList ++ [Attempt.mk reply.response error]).map Attempt.response := by
        rw [List.map_append, List.map_append, same, List.map_singleton, List.map_singleton]
      split_ifs with unsent last
      · refine ⟨same' _ _, ?_, rfl⟩
        rw [size, agree.head (vital.mp (Bool.and_eq_true_iff.mp unsent).1)]
      · exact ⟨same' _ _, rfl, rfl⟩
      · refine ih (by simpa using same) ?_
        rw [Array.size_push]
        simpa [due] using agree.tail

end

/-- **A session answers what it owes.** It handles a first part of what the stream delivers and ends
there; nothing is delivered once the peer is gone, and no request has the id null. The responses
that do not fail are sent, a line each. Only a failure to send the response to a refused delivery
can change the course of the session. -/
theorem run_answers (events : List Event) :
    (∃ handled left, deliveries events = handled ++ left ∧
      Handles files failure? handled left (run files failure? events)) ∧
    (∀ request, .ok request ∈ deliveries events → request.id ≠ some .null) ∧
    (∀ before behind, deliveries (before ++ .fault .gone :: behind)
      = deliveries (before ++ [.fault .gone])) ∧
    (run files failure? events).out
      = ((run files failure? events).attempts.filter (·.error.isNone)).map (·.response.render) ∧
    (∀ line ∈ (run files failure? events).out, '\n' ∉ line.toList) ∧
    ∀ other? : Nat → Option String, AgreeOnRefused other? failure? 0 (deliveries events) →
      SameCourse (run files other? events) (run files failure? events) := by
  refine ⟨exists_handles_run files failure? events, fun request member => ?_,
    deliveries_append_gone, out_eq _, fun line => newline_notMem_of_mem_out,
    fun other? agree => ?_⟩
  · obtain ⟨line, read⟩ := exists_line_of_mem_deliveries member
    exact Request.id_ne_null read
  · rw [run_eq_runFrom, run_eq_runFrom]
    exact sameCourse_runFrom (deliveries events) rfl agree

end Session

end MessageRefs
