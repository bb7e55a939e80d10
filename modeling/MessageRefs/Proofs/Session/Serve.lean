import MessageRefs.Session
import MessageRefs.Proofs.Protocol.Delivery

/-!
**A stream is served as what it delivers as a whole.**

An event completes any number of deliveries, and they are answered before the next event is read.
All the same, a session is what comes of answering in turn all that its stream delivers. This is so
in every monad, and with it for the record of a session.

* `Session.answerAll_append`: deliveries are answered part by part;
* `Session.serve_eq`: how a stream parts its deliveries does not matter;
* `Session.runFrom`: the record of answering deliveries;
* `Session.run_eq_runFrom`: the record of a session is the one of its deliveries.
-/

namespace MessageRefs.Session

/-! ### In every monad -/

section Monad

variable {m : Type → Type} [Monad m] [LawfulMonad m] {files : Workspace.FileSystem}
  {send : Response → m (Option String)}

/-- Deliveries are answered part by part, the second part only if the session goes on. -/
theorem answerAll_append (server : Server) (first second : List Delivery) :
    answerAll files send server (first ++ second) = do
      match ← answerAll files send server first with
      | .underway server => answerAll files send server second
      | .ended fatal server => return .ended fatal server := by
  induction first generalizing server with
  | nil => rw [List.nil_append, answerAll, pure_bind]
  | cons delivery others ih =>
    rw [List.cons_append, answerAll, answerAll, bind_assoc]
    refine bind_congr fun course => ?_
    cases course with
    | underway server => exact ih server
    | ended fatal server => rw [pure_bind]

/-- **A stream is served as what it delivers as a whole**, however it comes. Where it ends, the
session is over. -/
theorem serve_eq (framing : Framing) (server : Server) (events : List Event) :
    serve files send framing server events
      = Course.closed <$> answerAll files send server (framing.deliveriesFrom events) := by
  induction events generalizing framing server with
  | nil =>
    rw [serve, advance, Framing.deliveriesFrom, map_eq_pure_bind, bind_assoc]
    refine bind_congr fun course => ?_
    rw [pure_bind]
    rfl
  | cons event others ih =>
    rw [serve, advance, Framing.deliveriesFrom, answerAll_append, map_bind, bind_assoc]
    refine bind_congr fun course => ?_
    rw [pure_bind]
    cases gone : (framing.feed event).1.isGone with
    | true =>
      -- Nothing is delivered any more, so it makes no difference that the session ends here.
      rw [if_pos rfl, Framing.deliveriesFrom_of_isGone gone]
      cases course with
      | underway server =>
        dsimp only
        rw [answerAll, map_pure]
        rfl
      | ended fatal server =>
        rw [map_pure]
        rfl
    | false =>
      rw [if_neg Bool.false_ne_true]
      cases course with
      | underway server => exact ih _ server
      | ended fatal server =>
        rw [map_pure]
        rfl

end Monad

/-! ### The record of a session -/

/-- The record of answering deliveries, behind the attempts already made. -/
def runFrom (files : Workspace.FileSystem) (failure? : Nat → Option String) (server : Server)
    (made : Array Attempt) (items : List Delivery) : Session :=
  ofRecord ((answerAll files (attempt failure?) server items).run made)

/-- **The record of a session is the one of answering what its stream delivers.** -/
theorem run_eq_runFrom (files : Workspace.FileSystem) (failure? : Nat → Option String)
    (events : List Event) :
    run files failure? events = runFrom files failure? {} #[] (deliveries events) := by
  rw [run, serve_eq, StateT.run_map]
  rfl

section Record

variable {files : Workspace.FileSystem} {failure? : Nat → Option String} {server next : Server}
  {made : Array Attempt} {delivery : Delivery} {reply : Reply} (others : List Delivery)

theorem runFrom_cons :
    runFrom files failure? server made (delivery :: others)
      = match (step files (attempt failure?) server delivery).run made with
        | (.underway server, made) => runFrom files failure? server made others
        | (.ended fatal server, made) => ⟨made.toList, fatal, server⟩ := by
  rw [runFrom, answerAll, StateT.run_bind]
  rcases (step files (attempt failure?) server delivery).run made with ⟨_ | _, _⟩
  · rfl
  · rfl

theorem runFrom_of_unanswered (unanswered : server.answer files delivery = (next, none)) :
    runFrom files failure? server made (delivery :: others)
      = runFrom files failure? next made others := by
  rw [runFrom_cons, step, unanswered]
  rfl

/-- Behind a reply, a session is over if the reply is vital and cannot be sent, or is the last. -/
theorem runFrom_of_answer (answer : server.answer files delivery = (next, some reply)) :
    runFrom files failure? server made (delivery :: others)
      = if reply.isVital && (failure? made.size).isSome then
          ⟨made.toList ++ [⟨reply.response, failure? made.size⟩], failure? made.size, next⟩
        else if reply.isLast then
          ⟨made.toList ++ [⟨reply.response, failure? made.size⟩], none, next⟩
        else runFrom files failure? next (made.push ⟨reply.response, failure? made.size⟩)
          others := by
  have attempted : (step files (attempt failure?) server delivery).run made
      = (.behind next reply (failure? made.size),
          made.push ⟨reply.response, failure? made.size⟩) := by
    rw [step, answer]
    rfl
  rw [runFrom_cons, attempted, Course.behind, ← Array.toList_push]
  cases reply.isVital && (failure? made.size).isSome with
  | true => rfl
  | false =>
    cases reply.isLast with
    | true => rfl
    | false => rfl

end Record

end MessageRefs.Session
