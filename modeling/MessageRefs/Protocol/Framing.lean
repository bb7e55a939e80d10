import MessageRefs.Protocol.Request

/-!
**From a stream of bytes to requests.**

A stream delivers data in pieces of any size, and faults between them. Each line is one request or
one error; how the data is cut does not matter.

* `Event`: what a stream delivers;
* `Framing.feed`: what becomes complete with one more event;
* `Framing.finish`: what the end of the stream completes;
* `deliveries`: all that a stream delivers, until the peer is gone.
-/

namespace MessageRefs

/-- What can go wrong with a stream. -/
inductive Fault where
  /-- Nothing is lost, and reading goes on. -/
  | interrupted
  /-- The line that is being read is lost, and reading goes on. -/
  | notReady
  /-- The peer is gone. -/
  | gone
  /-- The line that is being read is lost, and that is an error. -/
  | failed
deriving DecidableEq, Repr

/-- What a stream delivers. -/
inductive Event where
  | data (bytes : List UInt8)
  | fault (fault : Fault)
deriving DecidableEq, Repr

/-- A request, or the reason why there is none. -/
abbrev Delivery := Except ReadError Request

/-- A stream that is being read: the bytes of the line that is not yet complete, in reverse, and
whether the peer is gone. -/
structure Framing where
  reversed : List UInt8 := []
  isGone : Bool := false
deriving DecidableEq, Repr

namespace Framing

/-- What a complete line delivers; a blank one delivers nothing. The line is given in reverse. -/
def deliver (reversed : List UInt8) : List Delivery :=
  match String.fromUTF8? reversed.reverse.toByteArray with
  | none => [.error .unreadable]
  | some line =>
    match Request.ofLine line.toList with
    | .error error => [.error error]
    | .ok none => []
    | .ok (some request) => [.ok request]

/-- Reads bytes, behind the given beginning of a line in reverse and the deliveries so far. -/
def readBytes (found : Array Delivery) (reversed : List UInt8) :
    List UInt8 → Array Delivery × List UInt8
  | [] => (found, reversed)
  | byte :: rest =>
    if byte = 10 then readBytes (found ++ deliver reversed) [] rest
    else readBytes found (byte :: reversed) rest

/-- What becomes complete with one more event. -/
def feed (framing : Framing) (event : Event) : Framing × List Delivery :=
  if framing.isGone then (framing, [])
  else
    match event with
    | .data bytes =>
      let (found, reversed) := readBytes #[] framing.reversed bytes
      (⟨reversed, false⟩, found.toList)
    | .fault .interrupted => (framing, [])
    | .fault .notReady => (⟨[], false⟩, [])
    | .fault .gone => (⟨[], true⟩, [])
    | .fault .failed => (⟨[], false⟩, [.error .unreadable])

/-- What the end of the stream completes: a last line without a line break. -/
def finish (framing : Framing) : List Delivery :=
  if framing.isGone || framing.reversed.isEmpty then [] else deliver framing.reversed

/-- What the rest of a stream delivers. -/
def deliveriesFrom (framing : Framing) : List Event → List Delivery
  | [] => framing.finish
  | event :: others =>
    let (framing, found) := framing.feed event
    found ++ deliveriesFrom framing others

end Framing

/-- All that a stream delivers, until it ends or the peer is gone. -/
def deliveries (events : List Event) : List Delivery :=
  Framing.deliveriesFrom {} events

end MessageRefs
