import MessageRefs.Server

/-!
**Sessions: a server over a stream.**

A session answers whatever its stream completes, and sends the responses as its monad has it. The
command line sends them to an output; `Session.run` records the attempts, some of which may fail.

* `Session.step`: the reply to one delivery, and whether the session goes on behind it;
* `Session.advance`: what one more event of the stream, or its end, completes;
* `Session.serve`: a whole stream;
* `Session.run`: what comes of a stream, as a record;
* `Session.out`: the lines that were sent.
-/

namespace MessageRefs

/-- A response that was to be sent, and the error if it was not. -/
structure Attempt where
  response : Response
  error : Option String

/-- What came of a session: the attempts to send a response, the error that ended it, if one did,
and the server at its end. -/
structure Session where
  attempts : List Attempt
  fatal : Option String
  server : Server

namespace Session

/-- Where a session has come to, with the server there. -/
inductive Course where
  /-- It goes on. -/
  | underway (server : Server)
  /-- It is over, and the error is the one that ended it, if one did. -/
  | ended (fatal : Option String) (server : Server)

namespace Course

def fatal : Course → Option String
  | underway _ => none
  | ended fatal _ => fatal

def server : Course → Server
  | underway server => server
  | ended _ server => server

/-- Nothing more comes of it. -/
def closed (course : Course) : Course :=
  ended course.fatal course.server

/-- The course behind a reply, with the error if it was not sent. -/
def behind (server : Server) (reply : Reply) (error : Option String) : Course :=
  if reply.isVital && error.isSome then ended error server
  else if reply.isLast then ended none server
  else underway server

end Course

section

variable {m : Type → Type} [Monad m] (files : Workspace.FileSystem)
  (send : Response → m (Option String))

/-- Answers one delivery. `send` tells the error if a response was not sent. -/
def step (server : Server) (delivery : Delivery) : m Course :=
  match server.answer files delivery with
  | (server, none) => return .underway server
  | (server, some reply) => return .behind server reply (← send reply.response)

/-- Answers deliveries in turn, until the session is over. -/
def answerAll (server : Server) : List Delivery → m Course
  | [] => return .underway server
  | delivery :: others => do
    match ← step files send server delivery with
    | .underway server => answerAll server others
    | .ended fatal server => return .ended fatal server

/-- Reads one more event of a stream, or its end, and answers what it completes. The session is
over where the stream ends, and where the peer is gone. -/
def advance (framing : Framing) (server : Server) (event : Option Event) :
    m (Framing × Course) := do
  let (framing, found) :=
    match event with
    | some event => framing.feed event
    | none => ({ isGone := true }, framing.finish)
  let course ← answerAll files send server found
  return (framing, if framing.isGone then course.closed else course)

/-- Serves a stream, event by event, and its end. -/
def serve (framing : Framing) (server : Server) : List Event → m Course
  | [] => return (← advance files send framing server none).2
  | event :: others => do
    match ← advance files send framing server (some event) with
    | (framing, .underway server) => serve framing server others
    | (_, .ended fatal server) => return .ended fatal server

end

/-- Records an attempt to send a response. The attempts are numbered from zero, and `failure?` tells
which of them fail, and with what error. -/
def attempt (failure? : Nat → Option String) (response : Response) :
    StateM (Array Attempt) (Option String) :=
  modifyGet fun made =>
    let error := failure? made.size
    (error, made.push ⟨response, error⟩)

/-- A course and the attempts that were made on it. -/
def ofRecord (record : Course × Array Attempt) : Session :=
  ⟨record.2.toList, record.1.fatal, record.1.server⟩

/-- A fresh server's session over a stream. -/
def run (files : Workspace.FileSystem) (failure? : Nat → Option String) (events : List Event) :
    Session :=
  ofRecord ((serve files (attempt failure?) {} {} events).run #[])

/-- The lines that were sent. -/
def out (session : Session) : List String :=
  session.attempts.filterMap fun attempt =>
    if attempt.error.isNone then some attempt.response.render else none

end Session

end MessageRefs
