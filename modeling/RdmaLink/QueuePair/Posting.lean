import RdmaLink.QueuePair.Receiving

/-!
# Posting requests

A send is posted with a local and a remote range and becomes one frame; a receive is matched with
a held immediate or waits for one.  Both are refused while everything in flight could not fit
into the completion queue.  A send whose frame is not taken by the link is not refused: it is
completed as lost, and the queue pair fails.
-/

namespace RdmaLink

/-- What a posted send does. -/
inductive SendOperation where
  | write
  | writeWithImmediate (immediate : UInt32)
  | read
deriving DecidableEq, Repr, Inhabited

namespace SendOperation

/-- The operation that a completion reports. -/
def operation : SendOperation → Operation
  | .write => .write
  | .writeWithImmediate _ => .writeWithImmediate
  | .read => .read

def immediate? : SendOperation → Option UInt32
  | .writeWithImmediate immediate => some immediate
  | _ => none

end SendOperation

/-- A send request: a local and a remote range, each with its key. -/
structure SendRequest where
  request : UInt64
  operation : SendOperation
  localAddress : UInt64
  localKey : UInt32
  length : UInt32
  remoteAddress : UInt64
  remoteKey : UInt32
deriving DecidableEq, Repr, Inhabited

/-- The range of a send's own side: its region and offset, if the key is known and covers it. -/
def Registrations.localRange (registrations : Registrations) (send : SendRequest) :
    Except DeviceError (RegionId × Nat) :=
  match registrations.byLocalKey? send.localKey with
  | none => .error (.invalidKey send.localKey)
  | some registration =>
    match registration.offsetOf? send.localAddress send.length.toNat with
    | none => .error (.localRange send.localAddress send.length)
    | some offset => .ok (registration.region, offset)

/-- A send that has its number and its frame and is not entered among those that wait. -/
structure Draft where
  sequence : Nat
  frame : Frame
  pending : PendingSend
deriving DecidableEq, Repr, Inhabited

namespace Station

/-- Requests in flight and completions that were not taken yet. -/
def load (station : Station) : Nat :=
  station.queuePair.work.outstanding.length + station.queuePair.work.receives.length +
    station.completions.size

/-- Refuses a post once everything in flight could not fit into the completion queue. -/
def checkRoom (station : Station) : Except DeviceError Unit :=
  if station.completions.depth ≤ station.load then .error (.exhausted "completion queue")
  else .ok ()

/-- Takes a send whose frame was not taken by the link out of those that wait, if it still waits. -/
def withdraw (station : Station) (sequence : Nat) : Option PendingSend × Station :=
  match station.queuePair.work.send? sequence with
  | some send => (some send, station.withWork (station.queuePair.work.withoutSend sequence))
  | none => (none, station)

/-- Completes a send as lost. -/
def reportLost (station : Station) (send : PendingSend) : Station :=
  station.complete send.request send.operation .linkLost 0 none

/-- The frame of a send was not taken: the send is completed as lost and the queue pair fails. -/
def sendLost (station : Station) (sequence : Nat) : Station :=
  let reported :=
    match station.withdraw sequence with
    | (some send, withdrawn) => withdrawn.reportLost send
    | (none, same) => same
  reported.fail.shutLink

/-- The frame of a send request and what is kept of it until it completes. -/
def sendFrame (station : Station) (send : SendRequest) (region : RegionId) (offset : Nat) :
    Except OutOfBounds (Frame × PendingSend) :=
  let sequence := UInt64.ofNat station.queuePair.nextSequence
  let pending := ⟨send.request, send.operation.operation, send.length, none⟩
  match send.operation with
  | .read =>
    .ok (⟨Header.readRequest sequence send.remoteAddress send.remoteKey send.length, []⟩,
      { pending with sink := some (region, offset) })
  | operation =>
    (station.memory.read region offset send.length.toNat).map fun payload =>
      (⟨Header.write sequence send.remoteAddress send.remoteKey send.length operation.immediate?,
        payload⟩, pending)

/-- Gives a send the next number and makes its frame.  The number is gone even if the data cannot
be read. -/
def prepare (registrations : Registrations) (station : Station) (send : SendRequest) :
    Except DeviceError Draft × Station :=
  match registrations.localRange send with
  | .error e => (.error e, station)
  | .ok (region, offset) =>
    let sequence := station.queuePair.nextSequence
    let numbered :=
      { station with queuePair := { station.queuePair with nextSequence := sequence + 1 } }
    match station.sendFrame send region offset with
    | .error _ => (.error (.localRange send.localAddress send.length), numbered)
    | .ok (frame, pending) => (.ok ⟨sequence, frame, pending⟩, numbered)

/-- Enters a send among those that wait. -/
def enter (station : Station) (draft : Draft) : Station :=
  let work := station.queuePair.work
  station.withWork
    { work with outstanding := work.outstanding ++ [(draft.sequence, draft.pending)] }

/-- Posts a send: it is numbered, entered among those that wait, and its frame goes to the link. -/
def postSend (registrations : Registrations) (station : Station) (send : SendRequest) :
    Except DeviceError Unit × Station :=
  match station.queuePair.expect [.readyToSend] "RTS" with
  | .error e => (.error e, station)
  | .ok () =>
    match station.checkRoom with
    | .error e => (.error e, station)
    | .ok () =>
      match station.prepare registrations send with
      | (.error e, tried) => (.error e, tried)
      | (.ok draft, numbered) =>
        match (numbered.enter draft).transmit draft.frame.header draft.frame.payload with
        | (.ok (), sent) => (.ok (), sent)
        | (.error _, tried) => (.ok (), tried.sendLost draft.sequence)

/-- Lets a receive take the write that was held first, or wait if none is held. -/
def meet (station : Station) (request : UInt64) : Option HeldImmediate × Station :=
  let work := station.queuePair.work
  match work.held with
  | [] => (none, station.withWork { work with receives := work.receives ++ [request] })
  | held :: later => (some held, station.withWork { work with held := later })

/-- Completes a receive by the held write that it took. -/
def reportMet (station : Station) (request : UInt64) (held : HeldImmediate) : Station :=
  station.complete request .receiveWithImmediate .success held.length (some held.immediate)

/-- Posts a receive: it waits, or it is completed by a held write, which is acknowledged now. -/
def postReceive (station : Station) (request : UInt64) : Except DeviceError Unit × Station :=
  match station.queuePair.expect [.init, .readyToReceive, .readyToSend] "INIT, RTR or RTS" with
  | .error e => (.error e, station)
  | .ok () =>
    match station.checkRoom with
    | .error e => (.error e, station)
    | .ok () =>
      match station.meet request with
      | (none, waiting) => (.ok (), waiting)
      | (some held, matched) =>
        match (matched.reportMet request held).transmit
            (Header.acknowledgement held.sequence Status.success.code) [] with
        | (.ok (), sent) => (.ok (), sent)
        | (.error _, tried) => (.ok (), tried.fail)

/-! ## Lemmas -/

section Steps

variable {station : Station}

theorem withdraw_of_waiting {sequence : Nat} {send : PendingSend}
    (waiting : station.queuePair.work.send? sequence = some send) :
    station.withdraw sequence =
      (some send, station.withWork (station.queuePair.work.withoutSend sequence)) := by
  rw [withdraw, waiting]

theorem withdraw_of_gone {sequence : Nat}
    (gone : station.queuePair.work.send? sequence = none) :
    station.withdraw sequence = (none, station) := by
  rw [withdraw, gone]

/-- A send that is lost is reported if it still waits, and the queue pair fails. -/
theorem sendLost_eq (station : Station) (sequence : Nat) :
    station.sendLost sequence =
      (match station.queuePair.work.send? sequence with
        | some send => (station.withWork (station.queuePair.work.withoutSend sequence)).complete
            send.request send.operation .linkLost 0 none
        | none => station).fail.shutLink := by
  unfold sendLost
  cases waiting : station.queuePair.work.send? sequence with
  | some send => rw [withdraw_of_waiting waiting]; rfl
  | none => rw [withdraw_of_gone waiting]

theorem meet_of_none {request : UInt64} (none : station.queuePair.work.held = []) :
    station.meet request = (.none, station.withWork
      { station.queuePair.work with
        receives := station.queuePair.work.receives ++ [request] }) := by
  simp only [meet, none]

theorem meet_of_held {request : UInt64} {held : HeldImmediate} {later : List HeldImmediate}
    (oldest : station.queuePair.work.held = held :: later) :
    station.meet request =
      (some held, station.withWork { station.queuePair.work with held := later }) := by
  simp only [meet, oldest]

end Steps

end Station

end RdmaLink
