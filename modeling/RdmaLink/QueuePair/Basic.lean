import RdmaLink.Completion.Queue
import RdmaLink.Device.Error
import RdmaLink.Link.Stream
import RdmaLink.Memory.Registration
import RdmaLink.QueuePair.Address

/-!
# Queue pairs

A queue pair is one end of a link.  It holds the requests that were posted and not yet completed:
sends by sequence number, receives in posting order, and the immediates that arrived before a
receive was posted for them.

What has arrived of the next frame is its `Intake`.  Once the header is complete it is settled
what becomes of the payload (`Disposal`), so that the payload is taken off the stream whether or
not it is wanted.
-/

namespace RdmaLink

/-- A write with immediate that found no receive posted; its acknowledgement is held back. -/
structure HeldImmediate where
  sequence : UInt64
  immediate : UInt32
  length : UInt32
deriving DecidableEq, Repr, Inhabited

/-- A posted send that is not completed. -/
structure PendingSend where
  request : UInt64
  operation : Operation
  length : UInt32
  /-- Where the data of a read goes: region and offset. -/
  sink : Option (RegionId × Nat)
deriving DecidableEq, Repr, Inhabited

/-- What a queue pair has taken on and not completed. -/
structure Work where
  /-- Posted receives, oldest first. -/
  receives : List UInt64
  /-- Held immediates, oldest first. -/
  held : List HeldImmediate
  /-- Posted sends by sequence number, in increasing order. -/
  outstanding : List (Nat × PendingSend)
deriving DecidableEq, Repr, Inhabited

namespace Work

def none : Work := ⟨[], [], []⟩

/-- The posted send with a sequence number. -/
def send? (work : Work) (sequence : Nat) : Option PendingSend := work.outstanding.lookup sequence

/-- The work without the send of a sequence number. -/
def withoutSend (work : Work) (sequence : Nat) : Work :=
  { work with outstanding := work.outstanding.filter fun entry => entry.1 != sequence }

end Work

/-- What becomes of the payload behind a header. -/
inductive Disposal where
  /-- A write that is allowed: the payload goes into a region at an offset. -/
  | store (region : RegionId) (offset : Nat)
  /-- A write that is not allowed: the payload is dropped. -/
  | refuse
  /-- The answer to a posted read of the same length. -/
  | answer
  /-- Read data that was not asked for in this length. -/
  | unwanted
deriving DecidableEq, Repr, Inhabited

/-- What has arrived of the next frame. -/
inductive Intake where
  /-- Part of a header. -/
  | header (received : Bytes)
  /-- A header and part of its payload, latest byte first; `missing` bytes are still to come. -/
  | payload (header : Header) (disposal : Disposal) (reversed : Bytes) (missing : Nat)
deriving DecidableEq, Repr, Inhabited

/-- One end of a link. -/
structure QueuePair where
  address : QueuePairAddress
  linkTimeout : Milliseconds
  /-- The rights given when it was initialized. -/
  access : Access
  state : QueuePairState
  /-- A stream that is to carry the data path. -/
  attached : Option Stream
  /-- The data path. -/
  link : Option Stream
  /-- The frame that is being received, while frames are received at all. -/
  intake : Option Intake
  /-- The sequence number of the next send.  A counter of 64 bits holds it for the first 2^64
  sends. -/
  nextSequence : Nat
  work : Work
  destroyed : Bool

namespace QueuePair

/-- A fresh queue pair. -/
def fresh (address : QueuePairAddress) (linkTimeout : Milliseconds) : QueuePair :=
  { address := address
    linkTimeout := linkTimeout
    access := Access.none
    state := .reset
    attached := none
    link := none
    intake := none
    nextSequence := 1
    work := Work.none
    destroyed := false }

/-- Refuses a call in a state that is not accepted. -/
def expect (queuePair : QueuePair) (accepted : List QueuePairState) (expected : String) :
    Except DeviceError Unit :=
  if queuePair.state ∈ accepted then .ok ()
  else .error (.invalidState queuePair.address.number queuePair.state expected)

theorem state_of_expect {queuePair : QueuePair} {accepted : List QueuePairState}
    {expected : String} (h : queuePair.expect accepted expected = .ok ()) :
    queuePair.state ∈ accepted := by
  unfold expect at h
  split at h
  · assumption
  · cases h

end QueuePair

/-- A queue pair with the completion queue and the memory that it works on. -/
structure Station where
  queuePair : QueuePair
  completions : CompletionQueue
  memory : Memory

namespace Station

/-- A completion of this queue pair. -/
def report (station : Station) (request : UInt64) (operation : Operation) (status : Status)
    (length : UInt32) (immediate : Option UInt32) : Completion :=
  ⟨request, operation, status, length, immediate, station.queuePair.address.number⟩

/-- Pushes a completion of this queue pair. -/
def complete (station : Station) (request : UInt64) (operation : Operation) (status : Status)
    (length : UInt32) (immediate : Option UInt32) : Station :=
  { station with
    completions := station.completions.push
      (station.report request operation status length immediate) }

/-- The station with other work. -/
def withWork (station : Station) (work : Work) : Station :=
  { station with queuePair := { station.queuePair with work := work } }

/-- The completions that flush all posted requests: sends in sequence order, then receives in
posting order. -/
def flushReports (station : Station) : List Completion :=
  station.queuePair.work.outstanding.map (fun entry =>
    station.report entry.2.request entry.2.operation .flushed 0 none) ++
  station.queuePair.work.receives.map fun request =>
    station.report request .receive .flushed 0 none

/-- The completion that stands for a lost link when nothing was posted. -/
def lossReport (station : Station) : Completion := station.report 0 .receive .linkLost 0 none

/-- The station with its queue pair in the error state. -/
def marked (station : Station) : Station :=
  { station with queuePair := { station.queuePair with state := .error } }

/-- The completions of a failure: those that flush all posted requests, or, if there are none, the
one that stands for the lost link. -/
def lastReports (station : Station) : List Completion :=
  if station.flushReports.isEmpty then [station.lossReport] else station.flushReports

/-- Completes every posted request as flushed, or reports the lost link. -/
def flush (station : Station) : Station :=
  { station with
    queuePair := { station.queuePair with work := Work.none }
    completions := station.lastReports.foldl CompletionQueue.push station.completions }

/-- Enters the error state and flushes every posted request; the second time nothing happens. -/
def fail (station : Station) : Station :=
  if station.queuePair.state = .error then station else station.marked.flush

/-- Writes a frame to the link. -/
def transmit (station : Station) (header : Header) (payload : Bytes) :
    Except IoError Unit × Station :=
  match station.queuePair.link with
  | none => (.error (.other "no data path"), station)
  | some stream =>
    let (outcome, stream) := stream.send (header.toBytes ++ payload)
    (outcome, { station with queuePair := { station.queuePair with link := some stream } })

/-- Shuts the link down. -/
def shutLink (station : Station) : Station :=
  { station with
    queuePair := { station.queuePair with link := station.queuePair.link.map Stream.shutdown } }

/-! ## Lemmas -/

section Failure

variable {station : Station}

/-- What is reported depends on what was posted, not on the state. -/
@[simp] theorem lastReports_marked (station : Station) :
    station.marked.lastReports = station.lastReports := rfl

/-- With nothing posted, a failure reports the lost link. -/
theorem fail_of_idle (alive : station.queuePair.state ≠ .error)
    (idle : station.flushReports = []) :
    station.fail =
      { station with
        queuePair := { station.queuePair with state := .error, work := Work.none }
        completions := station.completions.push station.lossReport } := by
  have lost : station.lastReports = [station.lossReport] := if_pos (by rw [idle]; rfl)
  rw [fail, if_neg alive, flush, lastReports_marked, lost]
  rfl

/-- Whatever is posted is flushed by a failure. -/
theorem fail_of_posted (alive : station.queuePair.state ≠ .error)
    (posted : station.flushReports ≠ []) :
    station.fail =
      { station with
        queuePair := { station.queuePair with state := .error, work := Work.none }
        completions := station.flushReports.foldl CompletionQueue.push station.completions } := by
  have flushed : station.lastReports = station.flushReports :=
    if_neg (by rw [List.isEmpty_iff]; exact posted)
  rw [fail, if_neg alive, flush, lastReports_marked, flushed]
  rfl

end Failure

end Station

end RdmaLink
