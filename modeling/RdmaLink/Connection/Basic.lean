import RdmaLink.Device.Basic
import RdmaLink.Endpoint.Error

/-!
# Connections

A connection is a registration, a completion queue and a queue pair that come up together and are
released together.  It works on the device and the memory of its endpoint; the three make a
`Session`, on which every operation is a function.
-/

namespace RdmaLink

/-- What a new connection asks of its device. -/
structure ConnectionSettings where
  port : UInt8
  gidIndex : UInt8
  /-- An endpoint takes it from its configuration, which says it as a word: the clock can name the
  end of such a span. -/
  linkTimeout : Milliseconds
  depth : Nat
deriving DecidableEq, Repr, Inhabited

/-- What the system draws for a new connection: remote keys, and the numbers of its queue pair. -/
structure ConnectionLot where
  keys : List UInt32
  queuePair : QueuePairLot

/-- One point-to-point connection. -/
structure Connection where
  id : Nat
  lifecycle : Lifecycle
  transport : Transport
  registration : Option Registration
  completions : CompletionQueue
  queuePair : Option QueuePair
  /-- The record that was sent to the peer. -/
  ownRecord : Option Record
  /-- The record that the peer sent. -/
  peerRecord : Option Record

/-- A finished exchange of records and the stream over which it went. -/
structure Exchange where
  stream : Stream
  own : Record
  peer : Record

/-- A connection with the device and the memory that it works on. -/
structure Session where
  connection : Connection
  device : Device
  memory : Memory

namespace Connection

def state (connection : Connection) : LifecycleState := connection.lifecycle.state

def role (connection : Connection) : Role := connection.lifecycle.role

/-- Applies an event; out of place, it is an error of the operation. -/
def apply (connection : Connection) (event : LifecycleEvent) (operation : String) :
    Except EndpointError Connection :=
  match connection.lifecycle.step event with
  | .ok lifecycle => .ok { connection with lifecycle := lifecycle }
  | .error _ => .error (.invalidState operation connection.state)

/-- The connection in the error state, unless it is over. -/
def faulted (connection : Connection) : Connection :=
  { connection with lifecycle := connection.lifecycle.after .fault }

/-- Registers the region and makes a completion queue and a queue pair; what was made before a
failure is released. -/
def create (id : Nat) (role : Role) (transport : Transport) (device : Device) (regionId : RegionId)
    (region : Region) (settings : ConnectionSettings) (lot : ConnectionLot) :
    Except EndpointError Connection × Device :=
  match device.register regionId region Access.all lot.keys with
  | (.error e, device) => (.error (.allocation region.size (.device e)), device)
  | (.ok registration, device) =>
    match device.createQueue settings.depth with
    | .error e => (.error (.device e), (device.deregister registration.localKey).2)
    | .ok completions =>
      match device.createQueuePair settings.port settings.gidIndex settings.linkTimeout
          lot.queuePair with
      | (.error e, device) => (.error (.device e), (device.deregister registration.localKey).2)
      | (.ok queuePair, device) =>
        (.ok
          { id := id
            lifecycle := Lifecycle.ofRole role
            transport := transport
            registration := some registration
            completions := completions
            queuePair := some queuePair
            ownRecord := none
            peerRecord := none },
          device)

/-- Starts the step of the handshake that belongs to the role. -/
def begin (connection : Connection) : Except EndpointError Connection :=
  match connection.role with
  | .listener => connection.apply .listen "begin handshake"
  | .connector => connection.apply .connect "begin handshake"

/-- The record for the peer; the sender's end of the stream is filled in when it is sent. -/
def record (connection : Connection) : Except EndpointError Record :=
  match connection.queuePair, connection.registration with
  | some queuePair, some registration =>
    .ok
      { transport := connection.transport
        queuePair := queuePair.address
        region :=
          { address := registration.address
            length := UInt64.ofNat registration.length
            key := registration.remoteKey }
        ip := Ipv4.unspecified
        port := 0 }
  | _, _ => .error (.alreadyClosed connection.id)

/-- Refuses a post in a state that does not take one. -/
def checkPostable (connection : Connection) (operation : String) : Except EndpointError Unit :=
  match connection.state with
  | .error => .error (.connectionFailed connection.id)
  | .closed => .error (.alreadyClosed connection.id)
  | state => if state.canPost then .ok () else .error (.invalidState operation state)

/-- A connection in one line. -/
def described (connection : Connection) : String :=
  let number := match connection.queuePair with
    | some queuePair => "Some(" ++ toString queuePair.address.number.toNat ++ ")"
    | none => "None"
  "Connection \x7b id: ConnectionId(" ++ toString connection.id ++ "), state: " ++
    connection.state.name ++ ", role: " ++ connection.role.name ++ ", transport: " ++
    connection.transport.name ++ ", qp_num: " ++ number ++ " \x7d"

end Connection

namespace Session

/-- The session with another connection. -/
def withConnection (session : Session) (connection : Connection) : Session :=
  { session with connection := connection }

/-- The session with another queue pair. -/
def withQueuePair (session : Session) (queuePair : QueuePair) : Session :=
  session.withConnection { session.connection with queuePair := some queuePair }

/-- The queue pair with what it works on, while there is one. -/
def station? (session : Session) : Option Station :=
  session.connection.queuePair.map fun queuePair =>
    ⟨queuePair, session.connection.completions, session.memory⟩

/-- The session after its station has moved on. -/
def withStation (session : Session) (station : Station) : Session :=
  { session with
    connection :=
      { session.connection with
        queuePair := some station.queuePair
        completions := station.completions }
    memory := station.memory }

/-- Starts the handshake. -/
def begin (session : Session) : Except EndpointError LifecycleState × Session :=
  match session.connection.begin with
  | .error e => (.error e, session)
  | .ok connection => (.ok connection.state, session.withConnection connection)

/-! ## Activation -/

/-- The outcome of an activation: the result, the session, and the stream of the link as the
attempt left it, if it came to one. -/
structure Activation where
  result : Except EndpointError Unit
  session : Session
  stream : Option Stream

/-- The error of a device that does not bring a queue pair up. -/
def notActivated (session : Session) (cause : DeviceError) (stream : Option Stream) : Activation :=
  ⟨.error (.activation (.device cause)), session, stream⟩

/-- Where the peer is dialed: the interface that its identifier names, or the address that the
record came from. -/
def peerIp (record : Record) : IpAddress :=
  .v4 (record.queuePair.gid.toIpv4?.getD record.ip)

/-- Links an initialized queue pair and makes it ready to send. -/
def link (session : Session) (queuePair : QueuePair) (peer : Record)
    (conditions : LinkConditions) : Activation :=
  match session.connection.apply .queuePairInitialized "initialize queue pair" with
  | .error e => ⟨.error e, session, none⟩
  | .ok connection =>
    let session := session.withConnection connection
    match session.device.refusal .linking with
    | some e => session.notActivated e none
    | none =>
      let attempt := queuePair.toReadyToReceive peer.queuePair (peerIp peer) conditions
      let session := session.withQueuePair attempt.queuePair
      match attempt.result with
      | .error e => session.notActivated e attempt.stream
      | .ok () =>
        match session.device.refusal .activating with
        | some e => session.notActivated e attempt.stream
        | none =>
          match attempt.queuePair.toReadyToSend with
          | .error e => session.notActivated e attempt.stream
          | .ok ready =>
            let session := session.withQueuePair ready
            match session.connection.apply .queuePairActivated "activate queue pair" with
            | .error e => ⟨.error e, session, attempt.stream⟩
            | .ok connection => ⟨.ok (), session.withConnection connection, attempt.stream⟩

/-- Initializes the queue pair and hands it the stream if that is to carry the data path. -/
def bringUp (session : Session) (exchange : Exchange) (conditions : LinkConditions) : Activation :=
  match session.connection.queuePair with
  | none => ⟨.error (.alreadyClosed session.connection.id), session, none⟩
  | some queuePair =>
    match session.device.refusal .initializing with
    | some e => session.notActivated e none
    | none =>
      match queuePair.toInit Access.all with
      | .error e => session.notActivated e none
      | .ok ready =>
        let session := session.withQueuePair ready
        match session.connection.transport with
        | .rdma => session.link ready exchange.peer conditions
        | .socket =>
          match session.device.refusal .attaching with
          | some e => session.notActivated e none
          | none =>
            match ready.attach exchange.stream with
            | .error e => session.notActivated e none
            | .ok attached =>
              (session.withQueuePair attached).link attached exchange.peer conditions

/-- Takes a finished exchange and brings the queue pair up; a failure leaves the connection in the
error state. -/
def activate (session : Session) (exchange : Exchange) (conditions : LinkConditions) :
    Activation :=
  match session.connection.apply .parametersReceived "exchange parameters" with
  | .error e => ⟨.error e, session, none⟩
  | .ok connection =>
    let informed := session.withConnection
      { connection with ownRecord := some exchange.own, peerRecord := some exchange.peer }
    let activation := informed.bringUp exchange conditions
    match activation.result with
    | .ok () => activation
    | .error e =>
      { activation with
        result := .error e
        session := activation.session.withConnection activation.session.connection.faulted }

/-! ## Posting -/

/-- The error of a post that the queue pair refused; a queue pair that has failed takes the
connection with it. -/
def postFailed (session : Session) (cause : DeviceError) : EndpointError × Session :=
  match session.connection.queuePair with
  | some queuePair =>
    if queuePair.state = .error then
      (.connectionFailed session.connection.id,
        session.withConnection session.connection.faulted)
    else (.device cause, session)
  | none => (.device cause, session)

/-- The send request for offset ranges of the two regions. -/
def sendRequest (session : Session) (operation : SendOperation) (name : String) (request : UInt64)
    (offset length peerOffset : Nat) : Except EndpointError SendRequest :=
  match session.connection.registration, session.connection.peerRecord with
  | some registration, some peer =>
    if registration.length < offset + length then
      .error (.outOfBounds ⟨offset, length, registration.length⟩)
    else
      match peer.region.addressOf peerOffset length with
      | .error fault => .error (.ofAddress fault)
      | .ok remoteAddress =>
        if 2 ^ 32 ≤ length then .error (.outOfBounds ⟨offset, length, registration.length⟩)
        else
          .ok
            { request := request
              operation := operation
              localAddress := registration.address + UInt64.ofNat offset
              localKey := registration.localKey
              length := UInt32.ofNat length
              remoteAddress := remoteAddress
              remoteKey := peer.region.key }
  | _, _ => .error (.invalidState name session.connection.state)

/-- The name of the call that posts an operation. -/
def postName : SendOperation → String
  | .read => "post_read"
  | _ => "post_write"

/-- Posts a send of `length` bytes between offsets of the two regions. -/
def post (session : Session) (operation : SendOperation) (request : UInt64)
    (offset length peerOffset : Nat) : Except EndpointError Unit × Session :=
  match session.connection.checkPostable (postName operation) with
  | .error e => (.error e, session)
  | .ok () =>
    match session.sendRequest operation (postName operation) request offset length peerOffset with
    | .error e => (.error e, session)
    | .ok send =>
      match session.station? with
      | none => (.error (.alreadyClosed session.connection.id), session)
      | some station =>
        match session.device.refusal .sending with
        | some e =>
          let (error, session) := session.postFailed e
          (.error error, session)
        | none =>
          match station.postSend session.device.registrations send with
          | (.ok (), station) => (.ok (), session.withStation station)
          | (.error e, station) =>
            let (error, session) := (session.withStation station).postFailed e
            (.error error, session)

/-- Posts a receive. -/
def postReceive (session : Session) (request : UInt64) : Except EndpointError Unit × Session :=
  match session.connection.checkPostable "post_recv" with
  | .error e => (.error e, session)
  | .ok () =>
    match session.station? with
    | none => (.error (.alreadyClosed session.connection.id), session)
    | some station =>
      match session.device.refusal .receiving with
      | some e =>
        let (error, session) := session.postFailed e
        (.error error, session)
      | none =>
        match station.postReceive request with
        | (.ok (), station) => (.ok (), session.withStation station)
        | (.error e, station) =>
          let (error, session) := (session.withStation station).postFailed e
          (.error error, session)

/-! ## Receiving and draining -/

/-- Handles what has arrived on the link. -/
def settle (session : Session) : Session :=
  match session.station? with
  | some station => session.withStation (station.settle session.device.registrations)
  | none => session

/-- The session after bytes have arrived on its link, and after the link has ended if `ended`. -/
def deliver (session : Session) (bytes : Bytes) (ended : Bool) : Session :=
  match session.connection.queuePair with
  | some queuePair =>
    let link := queuePair.link.map fun stream =>
      let stream := stream.arrive bytes
      if ended then stream.finish else stream
    (session.withQueuePair { queuePair with link := link }).settle
  | none => session

/-- The completion that stands for those that the queue could not hold. -/
def lossReport (connection : Connection) : Completion :=
  let number := match connection.queuePair with
    | some queuePair => queuePair.address.number
    | none => 0
  ⟨0, .receive, .linkLost, 0, none, number⟩

/-- What a completion does to the state: the first success makes a ready connection active, a
failure ends a live one. -/
def observe (connection : Connection) (completion : Completion) : Connection :=
  if completion.succeeded then
    if connection.state = .queuePairReady then
      { connection with lifecycle := connection.lifecycle.after .firstCompletion }
    else connection
  else if connection.state.isTerminal then connection
  else connection.faulted

/-- Takes every completion and moves the state on; a trailing completion stands for those that
were dropped. -/
def drain (session : Session) : List Completion × Session :=
  let (taken, queue) := session.connection.completions.drain
  let (fault, queue) := queue.takeFault
  let connection := { session.connection with completions := queue }
  let reports := if fault then taken ++ [lossReport connection] else taken
  (reports, session.withConnection (reports.foldl observe connection))

/-! ## Closing -/

/-- Destroys the queue pair and gives up the registration; what a device turns down is passed
over. -/
def release (session : Session) : Session :=
  let device := match session.connection.queuePair with
    | some queuePair => (session.device.destroyQueuePair queuePair).2.2
    | none => session.device
  let device := match session.connection.registration with
    | some registration => (device.deregister registration.localKey).2
    | none => device
  { session with
    connection := { session.connection with queuePair := none, registration := none }
    device := device }

/-- Closes the connection; the second time that is an error. -/
def close (session : Session) : Except EndpointError Unit × Session :=
  if session.connection.state = .closed then
    (.error (.alreadyClosed session.connection.id), session)
  else
    let released := session.release
    match released.connection.apply .close "close" with
    | .error e => (.error e, released)
    | .ok connection => (.ok (), released.withConnection connection)

end Session

end RdmaLink
