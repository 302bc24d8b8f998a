import RdmaLink.Config.Basic
import RdmaLink.Device.Registry
import RdmaLink.Memory.Allocation
import RdmaLink.Multiplexer.Basic
import RdmaLink.Publication.Basic
import RdmaLink.Rendezvous.Meeting

/-!
# Endpoints

An endpoint has one region, one device, one multiplexer, and tables of its listeners and
connections.  A listener is bound, watched and published; it takes in one peer and is gone.  A
connector waits for a publication, dials and introduces itself.  What the system and the peers do
meanwhile is told to each operation by its conditions.

Where the device cannot carry a data path over a given stream, a software device of the
endpoint's own serves those connections.
-/

namespace RdmaLink

/-- What the multiplexer of an endpoint watches. -/
inductive Descriptor where
  | listener (id : Nat)
  | completions (id : Nat)
deriving DecidableEq, Repr, Inhabited

/-- One process's end of any number of connections. -/
structure Endpoint where
  config : EndpointConfig
  device : Device
  /-- Serves the connections over given streams where the device cannot. -/
  fallback : Option Device
  memory : Memory
  region : RegionId
  publication : Publication
  mux : Multiplexer Descriptor
  /-- The bound listeners and their addresses. -/
  listeners : List (Nat × SocketAddress)
  /-- Every connection, the closed ones included, in the order of their numbers. -/
  connections : List (Nat × Connection)
  /-- The numbers of the next listener and of the next connection.  Counters of 64 bits hold them as
  long as fewer than 2^64 are given out. -/
  nextListener : Nat
  nextConnection : Nat

namespace Endpoint

/-- The result of an operation, with the endpoint and the board after it. -/
structure Outcome (α : Type) where
  result : Except EndpointError α
  endpoint : Endpoint
  board : Board

/-! ## Creation -/

/-- Makes an endpoint.  `muxFault` is why there is no multiplexer, if that is so. -/
def create (config : EndpointConfig) (registry : DeviceRegistry) (publication : Publication)
    (lot : RegionLot) (muxFault : Option Errno) (space : RegionSpace) :
    Except EndpointError Endpoint × RegionSpace :=
  match config.validate with
  | .error e => (.error (.config e), space)
  | .ok () =>
    match registry.open? config.rdma.device with
    | .error e => (.error (.device e), space)
    | .ok device =>
      match device.gid config.rdma.port config.rdma.gidIndex with
      | .error e => (.error (.device e), space)
      | .ok _ =>
        match space.allocate device lot config.shared.serviceName config.rdma.regionSize with
        | (.error e, space) => (.error e, space)
        | (.ok region, space) =>
          match muxFault with
          | some errno => (.error (.multiplexer errno), space)
          | none =>
            let (id, memory) := Memory.empty.add region
            (.ok
              { config := config
                device := device
                fallback := if device.profile.attachesStreams then none else some Device.soft
                memory := memory
                region := id
                publication := publication
                mux := Multiplexer.empty
                listeners := []
                connections := []
                nextListener := 1
                nextConnection := 1 },
              space)

/-! ## Looking up -/

def connection? (endpoint : Endpoint) (id : Nat) : Option Connection :=
  endpoint.connections.lookup id

def listener? (endpoint : Endpoint) (id : Nat) : Option SocketAddress :=
  endpoint.listeners.lookup id

/-- The endpoint's own region. -/
def ownRegion? (endpoint : Endpoint) : Option Region := endpoint.memory.region? endpoint.region

/-- The endpoint with its own region changed. -/
def withOwnRegion (endpoint : Endpoint) (region : Region) : Endpoint :=
  { endpoint with memory := endpoint.memory.put endpoint.region region }

/-- The device that serves connections of a transport. -/
def carrier (endpoint : Endpoint) (transport : Transport) : Device :=
  match endpoint.fallback, transport with
  | some soft, .socket => soft
  | _, _ => endpoint.device

/-- What connections of a transport ask of their device. -/
def settings (endpoint : Endpoint) (transport : Transport) : ConnectionSettings :=
  let rdma := endpoint.config.rdma
  match endpoint.fallback, transport with
  | some _, .socket => ⟨1, 0, rdma.handshakeLimit, rdma.depth⟩
  | _, _ => ⟨rdma.port, rdma.gidIndex, rdma.handshakeLimit, rdma.depth⟩

/-- The endpoint with another device for connections of a transport. -/
def withCarrier (endpoint : Endpoint) (transport : Transport) (device : Device) : Endpoint :=
  match endpoint.fallback, transport with
  | some _, .socket => { endpoint with fallback := some device }
  | _, _ => { endpoint with device := device }

/-- A connection with the device and the memory of the endpoint. -/
def sessionOf (endpoint : Endpoint) (connection : Connection) : Session :=
  ⟨connection, endpoint.carrier connection.transport, endpoint.memory⟩

/-- The endpoint after a session of it has moved on; the connection itself is left out. -/
def afterSession (endpoint : Endpoint) (session : Session) : Endpoint :=
  { endpoint.withCarrier session.connection.transport session.device with
    memory := session.memory }

/-- The endpoint with a connection in the place of the one with its number. -/
def withConnection (endpoint : Endpoint) (connection : Connection) : Endpoint :=
  { endpoint with
    connections := endpoint.connections.map fun entry =>
      if entry.1 == connection.id then (entry.1, connection) else entry }

/-- The endpoint after a session of one of its connections has moved on. -/
def withSession (endpoint : Endpoint) (session : Session) : Endpoint :=
  (endpoint.afterSession session).withConnection session.connection

/-! ## Listening -/

/-- What the system does when a listener is bound. -/
structure BindConditions where
  /-- The address that was bound. -/
  bound : Except IoError SocketAddress
  /-- Why the socket cannot be watched. -/
  watchFault : Option Errno
  /-- Which steps of the publication fail. -/
  faults : Nat → Option FileFault

/-- Watches a descriptor. -/
def watch (endpoint : Endpoint) (fault : Option Errno) (descriptor : Descriptor)
    (source : Source) : Except EndpointError Endpoint :=
  match fault with
  | some errno => .error (.multiplexer errno)
  | none =>
    match endpoint.mux.register descriptor source with
    | .error errno => .error (.multiplexer errno)
    | .ok mux => .ok { endpoint with mux := mux }

/-- The endpoint that no longer watches a descriptor. -/
def unwatch (endpoint : Endpoint) (descriptor : Descriptor) (source : Source) : Endpoint :=
  { endpoint with mux := endpoint.mux.deregister descriptor source }

/-- Binds a listener, watches it and publishes it; a listener that cannot be published is not
kept. -/
def bind (endpoint : Endpoint) (address : SocketAddress) (conditions : BindConditions)
    (board : Board) : Outcome Nat :=
  match conditions.bound with
  | .error e => ⟨.error (.bind address e), endpoint, board⟩
  | .ok bound =>
    let id := endpoint.nextListener
    let counted := { endpoint with nextListener := id + 1 }
    match counted.watch conditions.watchFault (.listener id) (.listener id) with
    | .error e => ⟨.error e, counted, board⟩
    | .ok watching =>
      match endpoint.publication.publish conditions.faults bound board with
      | (.error e, board) =>
        ⟨.error (.ofPublication e), watching.unwatch (.listener id) (.listener id), board⟩
      | (.ok (), board) =>
        ⟨.ok id, { watching with listeners := watching.listeners ++ [(id, bound)] }, board⟩

/-! ## Setting connections up -/

/-- Adds a connection that is up to the table, and watches its completions. -/
def install (endpoint : Endpoint) (fault : Option Errno) (session : Session) :
    Except EndpointError Nat × Endpoint :=
  let id := session.connection.id
  match endpoint.watch fault (.completions id) (.connection id) with
  | .error e => (.error e, endpoint.afterSession session.release)
  | .ok watching =>
    let after := watching.afterSession session
    (.ok id, { after with connections := after.connections ++ [(id, session.connection)] })

/-- Activates a connection and installs it; one that does not come up is released.  The stream is
that of the link as the attempt left it. -/
def establish (endpoint : Endpoint) (session : Session) (exchange : Exchange)
    (conditions : LinkConditions) (fault : Option Errno) :
    Except EndpointError Nat × Endpoint × Option Stream :=
  let activation := session.activate exchange conditions
  match activation.result with
  | .error e => (.error e, endpoint.afterSession activation.session.release, activation.stream)
  | .ok () =>
    let (result, endpoint) := endpoint.install fault activation.session
    (result, endpoint, activation.stream)

/-- Makes a connection with the next number and starts its handshake. -/
def openSession (endpoint : Endpoint) (role : Role) (transport : Transport)
    (lot : ConnectionLot) : Except EndpointError (Session × Record) × Endpoint :=
  let id := endpoint.nextConnection
  let counted := { endpoint with nextConnection := id + 1 }
  match counted.memory.region? counted.region with
  | none => (.error (.allocation 0 .size), counted)
  | some region =>
    match Connection.create id role transport (counted.carrier transport) counted.region region
        (counted.settings transport) lot with
    | (.error e, device) => (.error e, counted.withCarrier transport device)
    | (.ok connection, device) =>
      let session : Session := ⟨connection, device, counted.memory⟩
      match session.begin with
      | (.error e, session) => (.error e, counted.afterSession session.release)
      | (.ok _, session) =>
        match session.connection.record with
        | .error e => (.error e, counted.afterSession session.release)
        | .ok record => (.ok (session, record), counted.afterSession session)

/-- What the system and the peer do when a listener takes a peer in. -/
structure AcceptConditions where
  /-- The peer that waits on the listener or comes in time. -/
  caller : Except IoError (Option Meeting)
  lot : ConnectionLot
  link : LinkConditions
  /-- Why the completions cannot be watched. -/
  watchFault : Option Errno
  /-- Which steps of a withdrawal fail. -/
  faults : Nat → Option FileFault

/-- Takes in the peer of a listener that was bound to an address. -/
def acceptOn (endpoint : Endpoint) (address : SocketAddress) (conditions : AcceptConditions) :
    Except EndpointError Nat × Endpoint × Option Stream :=
  match conditions.caller with
  | .error e => (.error (.accept (.io e)), endpoint, none)
  | .ok none =>
    (.error (.accept (.nobody address endpoint.config.rdma.handshakeLimit)), endpoint, none)
  | .ok (some meeting) =>
    match Meeting.readRecord meeting.stream fun e => .accept (.io e) with
    | .error e => (.error e, endpoint, some meeting.stream)
    | .ok (peer, rest) =>
      match endpoint.openSession .listener peer.transport conditions.lot with
      | (.error e, endpoint) => (.error e, endpoint, some rest)
      | (.ok (session, own), endpoint) =>
        match { meeting with stream := rest }.answer peer own with
        | (.error e, stream) => (.error e, endpoint.afterSession session.release, some stream)
        | (.ok exchange, stream) =>
          let (result, endpoint, link) :=
            endpoint.establish session exchange conditions.link conditions.watchFault
          (result, endpoint, some (link.getD stream))

/-- The outcome of taking in a peer or dialing one, with the stream as it was left. -/
structure Admission where
  outcome : Outcome Nat
  stream : Option Stream

/-- Takes in the one peer of a listener.  The listener is gone afterwards, whatever comes of it;
with the last listener the publication is withdrawn. -/
def accept (endpoint : Endpoint) (listener : Nat) (conditions : AcceptConditions)
    (board : Board) : Admission :=
  match endpoint.listener? listener with
  | none => ⟨⟨.error (.unknownListener listener), endpoint, board⟩, none⟩
  | some address =>
    let removed :=
      { endpoint.unwatch (.listener listener) (.listener listener) with
        listeners := endpoint.listeners.filter fun entry => entry.1 != listener }
    let (result, after, stream) := removed.acceptOn address conditions
    let board :=
      if after.listeners.isEmpty then (after.publication.withdraw conditions.faults board).2
      else board
    ⟨⟨result, after, board⟩, stream⟩

/-- Binds an address and takes in one peer. -/
def listen (endpoint : Endpoint) (address : SocketAddress) (binding : BindConditions)
    (conditions : AcceptConditions) (board : Board) : Admission :=
  let bound := endpoint.bind address binding board
  match bound.result with
  | .error e => ⟨⟨.error e, bound.endpoint, bound.board⟩, none⟩
  | .ok listener => bound.endpoint.accept listener conditions bound.board

/-- What the system, other processes and the peer do when a listener is dialed. -/
structure ConnectConditions where
  /-- How many nanoseconds the clock has run when the listener is waited for. -/
  uptime : Nat
  /-- What others publish meanwhile, and after how many milliseconds. -/
  arrival : Option (Nat × Board)
  /-- What comes of dialing. -/
  dial : Except IoError Meeting
  lot : ConnectionLot
  link : LinkConditions
  /-- Why the completions cannot be watched. -/
  watchFault : Option Errno

/-- Dials a listener, once one is published, and brings the connection up. -/
def connect (endpoint : Endpoint) (address : SocketAddress) (conditions : ConnectConditions)
    (board : Board) : Admission :=
  match endpoint.publication.wait endpoint.config.rdma.readyTimeout conditions.uptime
      conditions.arrival board with
  | .error e => ⟨⟨.error (.ofWait address e), endpoint, board⟩, none⟩
  | .ok _ =>
    let transport := Transport.ofSwitch endpoint.config.rdma.useRdma
    match endpoint.openSession .connector transport conditions.lot with
    | (.error e, endpoint) => ⟨⟨.error e, endpoint, board⟩, none⟩
    | (.ok (session, own), endpoint) =>
      match conditions.dial with
      | .error e =>
        ⟨⟨.error (.connect address (.io e)), endpoint.afterSession session.release, board⟩, none⟩
      | .ok meeting =>
        match meeting.introduce address own with
        | (.error e, stream) =>
          ⟨⟨.error e, endpoint.afterSession session.release, board⟩, some stream⟩
        | (.ok exchange, stream) =>
          let (result, endpoint, link) :=
            endpoint.establish session exchange conditions.link conditions.watchFault
          ⟨⟨result, endpoint, board⟩, some (link.getD stream)⟩

/-! ## Driving connections -/

/-- Runs an operation on a connection. -/
def onSession {α : Type} (endpoint : Endpoint) (id : Nat)
    (operation : Session → Except EndpointError α × Session) :
    Except EndpointError α × Endpoint :=
  match endpoint.connection? id with
  | none => (.error (.unknownConnection id), endpoint)
  | some connection =>
    let (result, session) := operation (endpoint.sessionOf connection)
    (result, endpoint.withSession session)

/-- Posts a send on a connection. -/
def post (endpoint : Endpoint) (id : Nat) (operation : SendOperation) (request : UInt64)
    (offset length peerOffset : Nat) : Except EndpointError Unit × Endpoint :=
  endpoint.onSession id fun session => session.post operation request offset length peerOffset

/-- Posts a receive on a connection. -/
def postReceive (endpoint : Endpoint) (id : Nat) (request : UInt64) :
    Except EndpointError Unit × Endpoint :=
  endpoint.onSession id fun session => session.postReceive request

/-- The endpoint after bytes have arrived on the link of a connection, and after that link has
ended if `ended`. -/
def deliver (endpoint : Endpoint) (id : Nat) (bytes : Bytes) (ended : Bool) : Endpoint :=
  match endpoint.connection? id with
  | none => endpoint
  | some connection =>
    endpoint.withSession ((endpoint.sessionOf connection).deliver bytes ended)

/-- Closes a connection; it stays in the table. -/
def close (endpoint : Endpoint) (id : Nat) : Except EndpointError Unit × Endpoint :=
  match endpoint.onSession id Session.close with
  | (.error e, endpoint) => (.error e, endpoint)
  | (.ok (), endpoint) => (.ok (), endpoint.unwatch (.completions id) (.connection id))

/-- The connections that are not closed. -/
def openIds (endpoint : Endpoint) : List Nat :=
  (endpoint.connections.filter fun entry => entry.2.state != .closed).map Prod.fst

/-- Closes every connection and listener and withdraws the publication. -/
def shutdown (endpoint : Endpoint) (faults : Nat → Option FileFault) (board : Board) :
    Outcome Unit :=
  let closed := endpoint.openIds.foldl (fun endpoint id => (endpoint.close id).2) endpoint
  let quiet := closed.listeners.foldl
    (fun endpoint entry => endpoint.unwatch (.listener entry.1) (.listener entry.1)) closed
  let emptied := { quiet with listeners := [] }
  match emptied.publication.withdraw faults board with
  | (.error e, board) => ⟨.error (.ofPublication e), emptied, board⟩
  | (.ok (), board) => ⟨.ok (), emptied, board⟩

/-- What an endpoint that goes away leaves on the board: while a listener is bound, its
publication is withdrawn. -/
def abandon (endpoint : Endpoint) (faults : Nat → Option FileFault) (board : Board) : Board :=
  if endpoint.listeners.isEmpty then board else (endpoint.publication.withdraw faults board).2

/-- The sizes of the tables in one line. -/
def describedTables (endpoint : Endpoint) : String :=
  "listeners: " ++ toString endpoint.listeners.length ++ ", connections: " ++
    toString endpoint.connections.length ++ " \x7d"

end Endpoint

end RdmaLink
