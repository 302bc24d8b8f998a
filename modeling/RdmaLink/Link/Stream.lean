import RdmaLink.QueuePair.Frame
import RdmaLink.Rendezvous.Record
import RdmaLink.System.Milliseconds

/-!
# Byte streams

One end of a connected stream: the bytes that have arrived and wait to be read, and the messages
that were written.  Which of the writes fail, and how much of the message has gone out by then, is
up to the system and is told by functions of their number.  What follows a message that was cut off
follows right behind its last byte, so such a stream is no longer a sequence of messages.
-/

namespace RdmaLink

/-- An option of a stream's socket that is set before frames go over it. -/
inductive SocketOption where
  | noDelay
  | readLimit
  | writeLimit
deriving DecidableEq, Repr, Inhabited

/-- One end of a connected stream. -/
structure Stream where
  /-- Bytes that have arrived and are not read yet. -/
  waiting : Bytes
  /-- Whether nothing more will arrive. -/
  ended : Bool
  /-- The messages written in full so far, oldest first. -/
  sent : List Bytes
  /-- All bytes that have gone out: those messages, and what went out of the others. -/
  wire : Bytes
  /-- Whether this end was shut down. -/
  shut : Bool
  /-- Count of the writes tried so far. -/
  attempts : Nat
  /-- Why the write with a number fails, if it does. -/
  refusals : Nat → Option IoError
  /-- How many bytes of the message go out before the write with a number fails. -/
  portions : Nat → Nat
  /-- Why an option cannot be set, if it cannot. -/
  settings : SocketOption → Option IoError

namespace Stream

/-- A fresh stream on which every write succeeds and every option can be set. -/
def ofBytes (waiting : Bytes) (ended : Bool) : Stream :=
  ⟨waiting, ended, [], [], false, 0, fun _ => none, fun _ => 0, fun _ => none⟩

/-- More bytes arrive. -/
def arrive (stream : Stream) (bytes : Bytes) : Stream :=
  { stream with waiting := stream.waiting ++ bytes }

/-- The far end stops sending. -/
def finish (stream : Stream) : Stream := { stream with ended := true }

/-- Shuts both directions down: no write succeeds any more, and nothing more arrives. -/
def shutdown (stream : Stream) : Stream := { stream with ended := true, shut := true }

/-- Sets an option. -/
def set (stream : Stream) (option : SocketOption) : Except IoError Unit :=
  match stream.settings option with
  | some e => .error e
  | none => .ok ()

/-- Sets a time limit; one of no time is refused before the system is asked. -/
def limit (stream : Stream) (option : SocketOption) (span : Milliseconds) : Except IoError Unit :=
  if span.count = 0 then .error .zeroLimit else stream.set option

/-- Gets a stream ready for frames. -/
def configure (stream : Stream) (span : Milliseconds) : Except IoError Unit :=
  match stream.set .noDelay with
  | .error e => .error e
  | .ok () =>
    match stream.limit .readLimit span with
    | .error e => .error e
    | .ok () => stream.limit .writeLimit span

/-- What goes out of a message whose write fails; if all of it did, the write would succeed. -/
def portion (stream : Stream) (message : Bytes) : Bytes :=
  message.dropLast.take (stream.portions stream.attempts)

/-- The stream after a message that was written. -/
def wrote (stream : Stream) (message : Bytes) : Stream :=
  { stream with
    attempts := stream.attempts + 1
    sent := stream.sent ++ [message]
    wire := stream.wire ++ message }

/-- The stream after a write that failed when a part of the message had gone out. -/
def cut (stream : Stream) (part : Bytes) : Stream :=
  { stream with
    attempts := stream.attempts + 1
    wire := stream.wire ++ part }

@[simp] theorem sent_wrote (stream : Stream) (message : Bytes) :
    (stream.wrote message).sent = stream.sent ++ [message] := rfl

@[simp] theorem wire_wrote (stream : Stream) (message : Bytes) :
    (stream.wrote message).wire = stream.wire ++ message := rfl

@[simp] theorem sent_cut (stream : Stream) (part : Bytes) : (stream.cut part).sent = stream.sent :=
  rfl

@[simp] theorem wire_cut (stream : Stream) (part : Bytes) :
    (stream.cut part).wire = stream.wire ++ part := rfl

/-- Writes a message. -/
def send (stream : Stream) (message : Bytes) : Except IoError Unit × Stream :=
  if stream.shut then (.error (.os Errno.brokenPipe), stream.cut [])
  else
    match stream.refusals stream.attempts with
    | some e => (.error e, stream.cut (stream.portion message))
    | none => (.ok (), stream.wrote message)

/-- Why bytes that are wanted do not come: the stream has ended, or time has run out. -/
def shortfall (stream : Stream) : IoError :=
  if stream.ended then .unexpectedEnd else .timedOut

/-- Reads a frame header. -/
def readHeader (stream : Stream) : Except IoError (Header × Stream) :=
  match Header.read stream.waiting with
  | .ok (header, rest) => .ok (header, { stream with waiting := rest })
  | .error _ => .error stream.shortfall

/-- Reads the body of a record behind its length. -/
def readBody (stream : Stream) : Except IoError (Bytes × Stream) :=
  match Record.readFramed stream.waiting with
  | .ok (body, rest) => .ok (body, { stream with waiting := rest })
  | .error _ => .error stream.shortfall

end Stream

end RdmaLink
