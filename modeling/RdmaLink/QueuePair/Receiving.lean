import RdmaLink.QueuePair.Basic

/-!
# The receive path

What a queue pair does with the bytes that its peer sends.  Bytes are taken one at a time, so the
outcome depends on the stream and not on how it is cut:

    s.receive registrations (a ++ b) = (s.receive registrations a).receive registrations b

An incomplete frame has no effect.  A failed answer or a frame of unknown kind fails the queue
pair and ends the receiving.
-/

namespace RdmaLink

/-- Region and offset that a peer's key, address and length stand for, if the registration is
known, grants the right and covers the range. -/
def Registrations.target? (registrations : Registrations) (key : UInt32) (address : UInt64)
    (length : UInt32) (needed : Access) : Option (RegionId × Nat) :=
  match registrations.byRemoteKey? key with
  | none => none
  | some registration =>
    if registration.access.includes needed then
      (registration.offsetOf? address length.toNat).map fun offset => (registration.region, offset)
    else none

namespace Station

/-- Fails the queue pair and stops receiving. -/
def breakOff (station : Station) : Station :=
  let failed := station.fail.shutLink
  { failed with queuePair := { failed.queuePair with intake := none } }

/-- Answers a frame; a link that does not take the answer is lost. -/
def respond (station : Station) (header : Header) (payload : Bytes) : Station :=
  match station.transmit header payload with
  | (.ok (), sent) => sent
  | (.error _, tried) => tried.breakOff

/-- Acknowledges the write with a sequence number. -/
def acknowledge (station : Station) (sequence : UInt64) (status : Status) : Station :=
  station.respond (Header.acknowledgement sequence status.code) []

/-- A write has been applied: it is acknowledged at once, or, if it carries an immediate, when a
receive is there for it. -/
def written (station : Station) (header : Header) : Station :=
  if header.opcode = Opcode.write then station.acknowledge header.sequence .success
  else
    let work := station.queuePair.work
    match work.receives with
    | request :: later =>
      ((station.withWork { work with receives := later }).complete request .receiveWithImmediate
        .success header.length (some header.immediate)).acknowledge header.sequence .success
    | [] =>
      let held := ⟨header.sequence, header.immediate, header.length⟩
      station.withWork { work with held := work.held ++ [held] }

/-- A read request is answered with the data, or with the reason why there is none. -/
def answerRead (registrations : Registrations) (station : Station) (header : Header) : Station :=
  let data := (registrations.target? header.key header.address header.length
    ⟨false, false, true⟩).bind fun (region, offset) =>
      (station.memory.read region offset header.length.toNat).toOption
  match data with
  | some bytes =>
    station.respond
      (Header.readResponse header.sequence Status.success.code header.length) bytes
  | none =>
    station.respond (Header.readResponse header.sequence Status.remoteAccess.code 0) []

/-- A read is over: its data is stored, or it has failed.  `payload` is the data, if it came in
the length that was asked for. -/
def readAnswered (station : Station) (header : Header) (payload : Option Bytes) : Station :=
  let sequence := header.sequence.toNat
  match station.queuePair.work.send? sequence with
  | none => station
  | some send =>
    let freed := station.withWork (station.queuePair.work.withoutSend sequence)
    match Status.ofCode header.status with
    | .success =>
      match send.sink, payload with
      | some (region, offset), some bytes =>
        match freed.memory.write region offset bytes with
        | .ok memory =>
          ({ freed with memory := memory }).complete send.request send.operation .success
            send.length none
        | .error _ => freed.complete send.request send.operation .localProtection 0 none
      | _, _ => freed.complete send.request send.operation .localProtection 0 none
    | status => freed.complete send.request send.operation status 0 none

/-- An acknowledgement completes the send with its sequence number, of whatever kind. -/
def acknowledged (station : Station) (header : Header) : Station :=
  let sequence := header.sequence.toNat
  match station.queuePair.work.send? sequence with
  | none => station
  | some send =>
    let status := Status.ofCode header.status
    let length := if status = .success then send.length else 0
    (station.withWork (station.queuePair.work.withoutSend sequence)).complete send.request
      send.operation status length none

/-- A payload is complete. -/
def takePayload (station : Station) (header : Header) (disposal : Disposal) (payload : Bytes) :
    Station :=
  match disposal with
  | .store region offset =>
    match station.memory.write region offset payload with
    | .ok memory => ({ station with memory := memory }).written header
    | .error _ => station.acknowledge header.sequence .remoteAccess
  | .refuse => station.acknowledge header.sequence .remoteAccess
  | .answer => station.readAnswered header (some payload)
  | .unwanted => station.readAnswered header none

/-- Waits for the payload behind a header. -/
def expectPayload (station : Station) (header : Header) (disposal : Disposal) : Station :=
  if header.length = 0 then station.takePayload header disposal []
  else
    { station with
      queuePair :=
        { station.queuePair with
          intake := some (.payload header disposal [] header.length.toNat) } }

/-- A header is complete. -/
def takeHeader (registrations : Registrations) (station : Station) (header : Header) : Station :=
  if header.opcode = Opcode.write ∨ header.opcode = Opcode.writeWithImmediate then
    match registrations.target? header.key header.address header.length ⟨false, true, false⟩ with
    | some (region, offset) => station.expectPayload header (.store region offset)
    | none => station.expectPayload header .refuse
  else if header.opcode = Opcode.readRequest then station.answerRead registrations header
  else if header.opcode = Opcode.readResponse then
    if Status.ofCode header.status = .success then
      let wanted := (station.queuePair.work.send? header.sequence.toNat).map PendingSend.length
      if wanted = some header.length then station.expectPayload header .answer
      else station.expectPayload header .unwanted
    else station.readAnswered header none
  else if header.opcode = Opcode.acknowledgement then station.acknowledged header
  else station.breakOff

/-- The station with another intake. -/
def withIntake (station : Station) (intake : Option Intake) : Station :=
  { station with queuePair := { station.queuePair with intake := intake } }

/-- Takes one byte off the stream. -/
def feed (registrations : Registrations) (station : Station) (byte : UInt8) : Station :=
  match station.queuePair.intake with
  | none => station
  | some (.header received) =>
    let received := received ++ [byte]
    match Header.ofBytes? received with
    | some header =>
      (station.withIntake (some (.header []))).takeHeader registrations header
    | none => station.withIntake (some (.header received))
  | some (.payload header disposal reversed missing) =>
    if missing ≤ 1 then
      (station.withIntake (some (.header []))).takePayload header disposal
        (byte :: reversed).reverse
    else
      station.withIntake (some (.payload header disposal (byte :: reversed) (missing - 1)))

/-- Takes bytes off the stream. -/
def receive (registrations : Registrations) (station : Station) (bytes : Bytes) : Station :=
  bytes.foldl (feed registrations) station

/-- The stream has ended: whatever was being received is lost, and so is the link. -/
def endOfStream (station : Station) : Station :=
  match station.queuePair.intake with
  | none => station
  | some _ => station.breakOff

/-- Handles everything that has arrived on the link, if the queue pair receives. -/
def settle (registrations : Registrations) (station : Station) : Station :=
  match station.queuePair.intake, station.queuePair.link with
  | some _, some stream =>
    let emptied :=
      { station with
        queuePair := { station.queuePair with link := some { stream with waiting := [] } } }
    let handled := emptied.receive registrations stream.waiting
    if stream.ended then handled.endOfStream else handled
  | _, _ => station

/-- The result of a stream does not depend on how it is cut. -/
theorem receive_append (registrations : Registrations) (station : Station) (a b : Bytes) :
    station.receive registrations (a ++ b) =
      (station.receive registrations a).receive registrations b := by
  simp [receive]

end Station

end RdmaLink
