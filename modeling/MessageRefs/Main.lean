import MessageRefs.Session

/-!
**The command line: a session on standard input and output.**

The program has no files of its own to search, so to it no workspace root is a directory; a host
with files hands them to `Session.advance`.
-/

namespace MessageRefs.CommandLine

/-- What the failure of a read means for the stream. -/
def faultOf : IO.Error → Fault
  | .interrupted .. => .interrupted
  | .resourceExhausted .. => .notReady
  | .resourceVanished .. => .gone
  | _ => .failed

/-- The next event of a stream; none at its end. -/
def nextEvent (input : IO.FS.Stream) : IO (Option Event) := do
  try
    let bytes ← input.read 65536
    return if bytes.isEmpty then none else some (.data bytes.toList)
  catch error =>
    let fault := faultOf error
    if fault = .notReady then IO.sleep 1
    return some (.fault fault)

/-- Sends a response on a line of its own, and tells the error if it was not sent. -/
def send (output : IO.FS.Stream) (response : Response) : IO (Option String) := do
  try
    output.putStr (response.render ++ "\n")
    output.flush
    return none
  catch error => return some (toString error)

/-- The files that the program can search. -/
def files : Workspace.FileSystem := .ofWorkingDirectory (.directory [])

/-- Serves a stream from a state of its framing on. The result is the exit code of the program. -/
partial def serve (input output : IO.FS.Stream) (framing : Framing) (server : Server) :
    IO UInt32 := do
  match ← Session.advance files (send output) framing server (← nextEvent input) with
  | (framing, .underway server) => serve input output framing server
  | (_, .ended fatal _) => return if fatal.isSome then 1 else 0

end MessageRefs.CommandLine

/-- Serves standard input until it ends or the server is told to stop. -/
def main : IO UInt32 := do
  MessageRefs.CommandLine.serve (← IO.getStdin) (← IO.getStdout) {} {}
