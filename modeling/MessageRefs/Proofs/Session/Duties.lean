import MessageRefs.Server

/-!
**What is owed to a delivery.**

An error is owed a response, and so is a request with an id. Everything that a server does with a
delivery is in two lemmas, one for deliveries that are owed nothing and one for the others.

* `Delivery.isDue`: whether a response is owed; `Owes`: which one;
* `Delivery.IsRefused`, `Delivery.IsShutdown`: the deliveries at which a session can end;
* `Server.next`, `Server.behind`: the server behind a delivery, and behind several;
* `Server.answer_of_not_isDue`, `Server.exists_answer_of_isDue`: the replies are what is owed.
-/

namespace MessageRefs

/-- A request that is put to the server: it carries an id and is in the version spoken here. -/
structure Request.IsServed (request : Request) : Prop where
  named : request.id.isSome
  version : request.jsonrpc = "2.0"

namespace Delivery

/-- Whether a delivery is owed a response. -/
def isDue : Delivery → Bool
  | .error _ => true
  | .ok request => request.id.isSome

/-- A delivery that is turned away without a look at what is asked: an error, or a request with an
id in another version. -/
inductive IsRefused : Delivery → Prop
  | unread (error : ReadError) : IsRefused (.error error)
  | misversioned {request : Request} (named : request.id.isSome)
      (version : request.jsonrpc ≠ "2.0") : IsRefused (.ok request)

/-- A request that stops the server. -/
inductive IsShutdown : Delivery → Prop
  | intro {request : Request} (served : request.IsServed) (method : request.method = "shutdown") :
      IsShutdown (.ok request)

theorem IsRefused.isDue {delivery : Delivery} (refused : delivery.IsRefused) :
    delivery.isDue = true := by
  cases refused with
  | unread error => rfl
  | misversioned named _ => exact named

theorem IsShutdown.isDue {delivery : Delivery} (shutdown : delivery.IsShutdown) :
    delivery.isDue = true := by
  cases shutdown with
  | intro served _ => exact served.named

end Delivery

/-- The response that a server owes to a delivery: the id of the request, if there is a request,
and either a result or a failure. -/
inductive Owes (files : Workspace.FileSystem) (server : Server) : Delivery → Response → Prop
  | unread {error : ReadError} {failure : Failure} (code : failure.code.number = -32700)
      (message : failure.message = error.message) :
      Owes files server (.error error) ⟨none, .error failure⟩
  | misversioned {request : Request} {id : Json} {failure : Failure} (named : request.id = some id)
      (version : request.jsonrpc ≠ "2.0") (code : failure.code.number = -32600)
      (message : failure.message = "invalid jsonrpc version") :
      Owes files server (.ok request) ⟨some id, .error failure⟩
  | served {request : Request} {id : Json} (named : request.id = some id)
      (version : request.jsonrpc = "2.0") :
      Owes files server (.ok request)
        ⟨some id, (server.dispatch files request.method request.params).2⟩

namespace Server

/-- The server behind a delivery: only a request that is put to it can change it. -/
def next (files : Workspace.FileSystem) (server : Server) : Delivery → Server
  | .error _ => server
  | .ok request =>
    if request.id.isSome && request.jsonrpc = "2.0" then
      (server.dispatch files request.method request.params).1
    else server

/-- The server behind all that a fresh one was delivered. -/
def behind (files : Workspace.FileSystem) (handled : List Delivery) : Server :=
  handled.foldl (next files) {}

section

variable {files : Workspace.FileSystem} {server : Server} {delivery : Delivery}

theorem behind_append_singleton (handled : List Delivery) :
    behind files (handled ++ [delivery]) = next files (behind files handled) delivery := by
  rw [behind, List.foldl_append]
  rfl

theorem next_of_isServed {request : Request} (served : request.IsServed) :
    next files server (.ok request) = (server.dispatch files request.method request.params).1 := by
  simp [next, served.named, served.version]

theorem next_of_not_isServed {request : Request} (notServed : ¬ request.IsServed) :
    next files server (.ok request) = server := by
  refine if_neg fun both => notServed ?_
  obtain ⟨named, version⟩ := Bool.and_eq_true_iff.mp both
  exact ⟨named, of_decide_eq_true version⟩

/-- A delivery that is owed nothing gets no reply. -/
theorem answer_of_not_isDue (notDue : delivery.isDue = false) :
    server.answer files delivery = (next files server delivery, none) := by
  cases delivery with
  | error error => exact absurd notDue (by simp [Delivery.isDue])
  | ok request =>
    have unnamed : request.id = none := by simpa [Delivery.isDue] using notDue
    simp [answer, next, unnamed]

variable (files server) in
/-- A delivery that is owed a response gets it. The reply is vital if the delivery is refused, and
the last one if it is a shutdown. -/
theorem exists_answer_of_isDue (due : delivery.isDue = true) :
    ∃ reply, server.answer files delivery = (next files server delivery, some reply) ∧
      Owes files server delivery reply.response ∧
      (reply.isVital = true ↔ delivery.IsRefused) ∧
      (reply.isLast = true ↔ delivery.IsShutdown) := by
  cases delivery with
  | error error =>
    refine ⟨_, rfl, .unread rfl rfl, ⟨fun _ => .unread error, fun _ => rfl⟩, ?_⟩
    exact ⟨fun last => absurd last (by simp), fun shutdown => nomatch shutdown⟩
  | ok request =>
    obtain ⟨id, named⟩ := Option.isSome_iff_exists.mp due
    have isNamed : request.id.isSome = true := due
    by_cases version : request.jsonrpc = "2.0"
    · have served : request.IsServed := ⟨isNamed, version⟩
      refine ⟨⟨⟨some id, (server.dispatch files request.method request.params).2⟩, false,
        request.method = shutdownMethod⟩, ?_, .served named version, ?_, ?_⟩
      · simp [answer, named, Request.hasValidVersion, Request.version, version,
          next_of_isServed served]
      · refine ⟨fun vital => absurd vital (by simp), fun refused => ?_⟩
        cases refused with
        | misversioned _ other => exact absurd version other
      · refine ⟨fun last => .intro served (of_decide_eq_true last), fun shutdown => ?_⟩
        cases shutdown with
        | intro _ method => exact decide_eq_true method
    · have notServed : ¬ request.IsServed := fun served => version served.version
      refine ⟨⟨⟨some id, .error ⟨.invalidRequest, "invalid jsonrpc version"⟩⟩, true, false⟩, ?_,
        .misversioned named version rfl rfl, ?_, ?_⟩
      · simp [answer, named, Request.hasValidVersion, Request.version, version,
          next_of_not_isServed notServed]
      · exact ⟨fun _ => .misversioned isNamed version, fun _ => rfl⟩
      · refine ⟨fun last => absurd last (by simp), fun shutdown => ?_⟩
        cases shutdown with
        | intro served _ => exact absurd served notServed

end

end Server

end MessageRefs
