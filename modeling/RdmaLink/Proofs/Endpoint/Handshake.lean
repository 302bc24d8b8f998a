import RdmaLink.Proofs.Connection.Activation
import RdmaLink.Proofs.Endpoint.Watching
import RdmaLink.Proofs.Rendezvous.Exchange

/-!
# Handshakes

A listener takes a peer in while a connector dials it.  Each call falls into two parts, the exchange
of records and what is made of it:

    e.acceptOn address conditions = (e.listenerExchange meeting lot).conclude link fault
                                                                       (Endpoint.acceptOn_eq)
    (e.connect address conditions board).outcome.result =
      ((e.connectorExchange address meeting lot).conclude link fault).1
                                                                       (Endpoint.connect_eq)

Up to the exchange, what a side writes depends on its own end alone, so that the two calls meet
in the bytes: what has arrived at one end is the beginning of what the other end has written.  Where
both calls give a connection, each has the record that the other sent, both records are true of
the connections that they tell of, and the listener has taken over the connector's transport
(`Stand.handshake_agrees`).
-/

namespace RdmaLink

/-! ## Records and connections -/

/-- A record tells the truth of a connection over a device: its transport, its queue pair, which
is in use, and its registration, which the device has. -/
structure Record.TrueOf (record : Record) (connection : Connection) (device : Device) : Prop where
  transport : record.transport = connection.transport
  queuePair : ∃ q, connection.queuePair = some q ∧ q.destroyed = false ∧ q.state ≠ .error ∧
    record.queuePair = q.address
  region : ∃ r, connection.registration = some r ∧ r ∈ device.registrations.entries ∧
    record.region = ⟨r.address, UInt64.ofNat r.length, r.remoteKey⟩

/-- A connection over a device that is up after a meeting at which `own` was sent and `peer` was
received. -/
structure Connection.Met (connection : Connection) (device : Device) (meeting : Meeting)
    (own peer : Record) : Prop where
  ready : connection.state = .queuePairReady
  ownRecord : connection.ownRecord = some own
  peerRecord : connection.peerRecord = some peer
  tells : own.TrueOf connection device
  address : meeting.ownIpv4 = .ok (own.ip, own.port)

namespace Endpoint

/-! ## Sessions for an exchange -/

section Sessions

variable {e t after : Endpoint} {session : Session} {record : Record} {exchange : Exchange}
  {transport : Transport} {conditions : LinkConditions} {fault : Option Errno} {id : Nat}

/-- The record of a session that was opened is true of its connection. -/
theorem Opens.tells (opens : e.Opens transport session record) :
    record.TrueOf session.connection session.device := by
  obtain ⟨registration, -, device, holding⟩ := opens.charged
  obtain ⟨address, fresh⟩ := opens.queuePair
  have held : session.connection.registration = some registration :=
    congrArg Holding.registration holding
  have told := opens.record
  unfold Connection.record at told
  rw [fresh, held] at told
  cases told
  refine ⟨rfl, ⟨_, fresh, rfl, nofun, rfl⟩, registration, held, ?_, rfl⟩
  rw [device]
  exact List.mem_append_right _ (List.mem_singleton_self _)

theorem openSession_eq_ok {role : Role} {lot : ConnectionLot}
    (h : e.openSession role transport lot = (.ok (session, record), t)) :
    e.Opens transport session record ∧ t.connections = e.connections := by
  rcases e.openSession_cases role transport lot with
    ⟨fault, device, -, failed⟩ | ⟨other, told, opens, opened⟩
  · rw [failed] at h; cases h
  · rw [opened] at h
    cases h
    exact ⟨opens, connections_afterSession e.counted session⟩

theorem carrier_withCarrier (e : Endpoint) (transport : Transport) (device : Device) :
    (e.withCarrier transport device).carrier transport = device := by
  obtain ⟨_, _, fallback, _, _, _, _, _, _, _, _⟩ := e
  cases fallback <;> cases transport <;> rfl

theorem install_eq_ok (h : t.install fault session = (.ok id, after)) :
    id = session.connection.id ∧
      after.connections = t.connections ++ [(session.connection.id, session.connection)] ∧
      after.carrier session.connection.transport = session.device := by
  unfold install at h
  dsimp only at h
  split at h
  · cases h
  · next watching watched =>
    obtain ⟨mux, -, rfl⟩ := watch_eq_ok watched
    cases h
    refine ⟨rfl, ?_, ?_⟩
    · rw [connections_afterSession]
    · exact carrier_withCarrier _ session.connection.transport session.device

/-- What is installed is the connection that was activated. -/
theorem establish_eq_ok {stream : Option Stream}
    (h : t.establish session exchange conditions fault = (.ok id, after, stream)) :
    ∃ q link, session.connection.queuePair = some q ∧ id = session.connection.id ∧
      after.connections = t.connections ++
        [(session.connection.id, (session.activated q link exchange).connection)] ∧
      after.carrier session.connection.transport = session.device := by
  unfold establish at h
  dsimp only at h
  split at h
  · cases h
  · next done =>
    obtain ⟨q, link, present, activation⟩ := Session.activate_eq_ok done
    rw [activation] at h
    cases installed : t.install fault (session.activated q link exchange) with
    | mk result installing =>
      rw [installed] at h
      cases h
      exact ⟨q, link, present, install_eq_ok installed⟩

/-- The connection that is installed after an exchange can be looked up, and it has what was
exchanged. -/
theorem Opens.met (opens : e.Opens transport session record) (same : t.connections = e.connections)
    (below : ∀ entry ∈ e.connections, entry.1 < e.nextConnection) {meeting : Meeting}
    (exchanged : meeting.Exchanged record exchange) {stream : Option Stream}
    (h : t.establish session exchange conditions fault = (.ok id, after, stream)) :
    ∃ connection, after.connection? id = some connection ∧ connection.transport = transport ∧
      connection.Met (after.carrier connection.transport) meeting exchange.own exchange.peer := by
  obtain ⟨q, link, present, rfl, listed, carried⟩ := establish_eq_ok h
  have unused : e.connections.lookup session.connection.id = none := by
    rw [List.lookup_eq_none_iff, opens.number]
    exact fun entry mem => bne_iff_ne.mpr (Nat.ne_of_gt (below entry mem))
  refine ⟨(session.activated q link exchange).connection, ?_, opens.transport, ?_⟩
  · rw [connection?, listed, same, List.lookup_append, unused, Option.none_or,
      List.lookup_cons_self]
  · obtain ⟨sameTransport, ⟨other, found, whole, -, pair⟩, registration, held, live, region⟩ :=
      opens.tells
    cases present.symm.trans found
    have own := exchanged.own
    refine ⟨rfl, rfl, rfl, ⟨?_, ⟨_, rfl, whole, nofun, ?_⟩, registration, held, ?_, ?_⟩,
      exchanged.address⟩
    · rw [own]; exact sameTransport
    · rw [own]; exact pair
    · rw [show after.carrier (session.activated q link exchange).connection.transport =
        session.device from carried]
      exact live
    · rw [own]; exact region

end Sessions

/-! ## The two halves of a handshake -/

/-- An attempt to bring a connection up, as far as the exchange of records. -/
structure Attempt where
  result : Except EndpointError (Session × Exchange)
  endpoint : Endpoint
  /-- The stream of the meeting as the exchange left it, if there was one. -/
  stream : Option Stream

/-- The bytes that stand on the stream after an attempt. -/
def Attempt.written (attempt : Attempt) : Bytes :=
  match attempt.stream with
  | some stream => stream.sent.flatten
  | none => []

theorem Attempt.written_of_stream {attempt : Attempt} {stream : Stream}
    (h : attempt.stream = some stream) : attempt.written = stream.sent.flatten := by
  rw [written, h]

/-- What is made of an attempt once the exchange is over. -/
def Attempt.conclude (attempt : Attempt) (conditions : LinkConditions) (fault : Option Errno) :
    Except EndpointError Nat × Endpoint × Option Stream :=
  match attempt.result with
  | .error e => (.error e, attempt.endpoint, attempt.stream)
  | .ok (session, exchange) =>
    let (result, endpoint, link) := attempt.endpoint.establish session exchange conditions fault
    (result, endpoint, attempt.stream.map fun stream => link.getD stream)

/-- The listener reads the peer's record, opens a session for the transport in it, and answers. -/
def listenerExchange (e : Endpoint) (meeting : Meeting) (lot : ConnectionLot) : Attempt :=
  match Meeting.readRecord meeting.stream fun e => .accept (.io e) with
  | .error fault => ⟨.error fault, e, some meeting.stream⟩
  | .ok (peer, rest) =>
    match e.openSession .listener peer.transport lot with
    | (.error fault, e) => ⟨.error fault, e, some rest⟩
    | (.ok (session, own), e) =>
      match ({ meeting with stream := rest } : Meeting).answer peer own with
      | (.error fault, stream) => ⟨.error fault, e.afterSession session.release, some stream⟩
      | (.ok exchange, stream) => ⟨.ok (session, exchange), e, some stream⟩

/-- The connector opens a session for the transport of its configuration, sends its record, and
reads the listener's. -/
def connectorExchange (e : Endpoint) (address : SocketAddress) (meeting : Meeting)
    (lot : ConnectionLot) : Attempt :=
  match e.openSession .connector (Transport.ofSwitch e.config.rdma.useRdma) lot with
  | (.error fault, e) => ⟨.error fault, e, none⟩
  | (.ok (session, own), e) =>
    match meeting.introduce address own with
    | (.error fault, stream) => ⟨.error fault, e.afterSession session.release, some stream⟩
    | (.ok exchange, stream) => ⟨.ok (session, exchange), e, some stream⟩

/-- An attempt on `e` whose exchange is over has a session for it, over a transport that may
depend on the exchange. -/
def Attempt.Sound (attempt : Attempt) (e : Endpoint) (meeting : Meeting)
    (transport : Exchange → Transport) : Prop :=
  ∀ session exchange, attempt.result = .ok (session, exchange) →
    attempt.stream = some exchange.stream ∧
      ∃ record, meeting.Exchanged record exchange ∧
        e.Opens (transport exchange) session record ∧
        attempt.endpoint.connections = e.connections

section Halves

variable {e after : Endpoint} {address : SocketAddress} {meeting : Meeting} {attempt : Attempt}
  {transport : Exchange → Transport}

theorem sound_listenerExchange (e : Endpoint) (meeting : Meeting) (lot : ConnectionLot) :
    (e.listenerExchange meeting lot).Sound e meeting fun exchange => exchange.peer.transport := by
  intro session exchange
  unfold listenerExchange
  split
  · exact nofun
  · next peer rest read =>
    split
    · exact nofun
    · next opened own t opening =>
      split
      · exact nofun
      · next answer stream answered =>
        rintro ⟨⟩
        obtain ⟨same, rfl, exchanged⟩ := Meeting.exchanged_answer read answered
        exact ⟨congrArg some same, own, exchanged, openSession_eq_ok opening⟩

theorem sound_connectorExchange (e : Endpoint) (address : SocketAddress) (meeting : Meeting)
    (lot : ConnectionLot) :
    (e.connectorExchange address meeting lot).Sound e meeting
      fun _ => .ofSwitch e.config.rdma.useRdma := by
  intro session exchange
  unfold connectorExchange
  split
  · exact nofun
  · next opened own t opening =>
    split
    · exact nofun
    · next answer stream introduced =>
      rintro ⟨⟩
      obtain ⟨same, exchanged⟩ := Meeting.exchanged_introduce introduced
      exact ⟨congrArg some same, own, exchanged, openSession_eq_ok opening⟩

/-- An attempt that comes to a connection has finished its exchange. -/
theorem Attempt.Sound.met (sound : attempt.Sound e meeting transport)
    (below : ∀ entry ∈ e.connections, entry.1 < e.nextConnection) {conditions : LinkConditions}
    {fault : Option Errno} {id : Nat} {stream : Option Stream}
    (h : attempt.conclude conditions fault = (.ok id, after, stream)) :
    ∃ record exchange connection, attempt.stream = some exchange.stream ∧
      meeting.Exchanged record exchange ∧ after.connection? id = some connection ∧
      connection.transport = transport exchange ∧
      connection.Met (after.carrier connection.transport) meeting exchange.own exchange.peer := by
  unfold conclude at h
  split at h
  · cases h
  · next session exchange done =>
    obtain ⟨left, record, exchanged, opens, same⟩ := sound session exchange done
    cases established : attempt.endpoint.establish session exchange conditions fault with
    | mk result rest =>
      rw [established] at h
      cases h
      obtain ⟨connection, found, carried, met⟩ := opens.met same below exchanged established
      exact ⟨record, exchange, connection, left, exchanged, found, carried, met⟩

theorem acceptOn_eq {conditions : AcceptConditions}
    (called : conditions.caller = .ok (some meeting)) :
    e.acceptOn address conditions =
      (e.listenerExchange meeting conditions.lot).conclude conditions.link
        conditions.watchFault := by
  unfold acceptOn listenerExchange
  rw [called]
  dsimp only
  generalize Meeting.readRecord meeting.stream _ = read
  rcases read with fault | ⟨peer, rest⟩
  · rfl
  · dsimp only
    generalize e.openSession .listener peer.transport conditions.lot = opening
    rcases opening with ⟨fault | ⟨session, own⟩, t⟩
    · rfl
    · dsimp only
      generalize Meeting.answer _ peer own = answered
      rcases answered with ⟨fault | exchange, stream⟩ <;> rfl

/-- A connector that sees a listener and reaches it comes to the exchange. -/
theorem connect_eq {conditions : ConnectConditions} {board : Board} {seen : Option SocketAddress}
    (ready : e.publication.wait e.config.rdma.readyTimeout conditions.uptime conditions.arrival
      board = .ok seen)
    (dialed : conditions.dial = .ok meeting) :
    e.connect address conditions board =
      let (result, after, stream) :=
        (e.connectorExchange address meeting conditions.lot).conclude conditions.link
          conditions.watchFault
      ⟨⟨result, after, board⟩, stream⟩ := by
  unfold connect connectorExchange
  rw [ready, dialed]
  dsimp only
  generalize e.openSession .connector _ conditions.lot = opening
  rcases opening with ⟨fault | ⟨session, own⟩, t⟩
  · rfl
  · dsimp only
    generalize meeting.introduce address own = introduced
    rcases introduced with ⟨fault | exchange, stream⟩ <;> rfl

theorem connect_eq_ok {conditions : ConnectConditions} {board : Board} {id : Nat}
    (dialed : conditions.dial = .ok meeting)
    (h : (e.connect address conditions board).outcome.result = .ok id) :
    ∃ stream, (e.connectorExchange address meeting conditions.lot).conclude conditions.link
        conditions.watchFault =
      (.ok id, (e.connect address conditions board).outcome.endpoint, stream) := by
  cases seen : e.publication.wait e.config.rdma.readyTimeout conditions.uptime conditions.arrival
      board with
  | error fault =>
    unfold connect at h
    rw [seen] at h
    cases h
  | ok _ =>
    rw [connect_eq seen dialed] at h ⊢
    exact ⟨_, Prod.ext h rfl⟩

theorem accept_eq_ok {listener : Nat} {conditions : AcceptConditions} {board : Board} {id : Nat}
    (called : conditions.caller = .ok (some meeting))
    (h : (e.accept listener conditions board).outcome.result = .ok id) :
    ∃ stream, ((e.withoutListener listener).listenerExchange meeting conditions.lot).conclude
        conditions.link conditions.watchFault =
      (.ok id, (e.accept listener conditions board).outcome.endpoint, stream) := by
  rcases e.accept_paths listener conditions board with
    ⟨fault, refused⟩ | ⟨bound, attempt, hattempt, taken⟩
  · rw [refused] at h
    cases h
  · rw [taken] at h ⊢
    rw [← acceptOn_eq called, ← hattempt]
    exact ⟨_, Prod.ext h rfl⟩

end Halves

/-- A listener and a connector that are at the two ends of one stream, on which nothing was written
before: what has arrived at one end is the beginning of what the other end has written and writes
later.  Whatever the order in which the two calls go on and the bytes are delivered, and in
whatever pieces, it leads to this. -/
structure Meets (listening connecting : Endpoint) (listener : Nat) (address : SocketAddress)
    (accepting : AcceptConditions) (dialing : ConnectConditions) (near far : Meeting) : Prop where
  called : accepting.caller = .ok (some near)
  dialed : dialing.dial = .ok far
  fresh : near.stream.sent = [] ∧ far.stream.sent = []
  heard : InOrder near.stream.waiting
    (connecting.connectorExchange address far dialing.lot).written
  answered : InOrder far.stream.waiting
    ((listening.withoutListener listener).listenerExchange near accepting.lot).written

end Endpoint

namespace Stand

/-- An endpoint over a device, with which a program has done anything so far. -/
def AtWork (stand : Stand) (device : Device) : Prop :=
  ∃ config publication region board events,
    stand = run ⟨Endpoint.opened config device publication region, board⟩ events

theorem AtWork.below {stand : Stand} {device : Device} (h : stand.AtWork device) :
    ∀ entry ∈ stand.endpoint.connections, entry.1 < stand.endpoint.nextConnection := by
  obtain ⟨config, publication, region, board, events, rfl⟩ := h
  let start : Stand := ⟨Endpoint.opened config device publication region, board⟩
  have begun : start.endpoint.roster.Tidy := tidy_opened config device publication region
  have tidy := tidy_run begun events
  exact fun entry listed => tidy.connections (entry.1, entry.2.holding) (List.mem_map_of_mem listed)

/-- Handshakes agree.  Where a listener takes in the connector that dials it and both calls give a
connection, each side has the record that the other one sent, the records are true of the
connections of their senders and name the senders' ends of the stream, both connections use the
transport that the connector's configuration selects, and both are ready. -/
theorem handshake_agrees {listening connecting : Stand} {device device' : Device}
    (listens : listening.AtWork device) (connects : connecting.AtWork device')
    {listener a b : Nat} {address : SocketAddress} {accepting : Endpoint.AcceptConditions}
    {dialing : Endpoint.ConnectConditions} {near far : Meeting}
    (meets : listening.endpoint.Meets connecting.endpoint listener address accepting dialing near
      far)
    (accepted : (listening.endpoint.accept listener accepting listening.board).outcome.result =
      .ok a)
    (connected : (connecting.endpoint.connect address dialing connecting.board).outcome.result =
      .ok b) :
    let here := (listening.endpoint.accept listener accepting listening.board).outcome.endpoint
    let there := (connecting.endpoint.connect address dialing connecting.board).outcome.endpoint
    let transport := Transport.ofSwitch connecting.endpoint.config.rdma.useRdma
    ∃ (c d : Connection) (record answer : Record),
      here.connection? a = some c ∧ there.connection? b = some d ∧
      c.Met (here.carrier transport) near answer record ∧
      d.Met (there.carrier transport) far record answer ∧
      c.transport = transport ∧ d.transport = transport := by
  intro here there transport
  obtain ⟨_, accepts⟩ := Endpoint.accept_eq_ok meets.called accepted
  obtain ⟨_, dials⟩ := Endpoint.connect_eq_ok meets.dialed connected
  obtain ⟨_, exchange, c, answered, atNear, foundHere, carriedHere, metHere⟩ :=
    (Endpoint.sound_listenerExchange (listening.endpoint.withoutListener listener) near
      accepting.lot).met listens.below accepts
  obtain ⟨_, exchange', d, introduced, atFar, foundThere, carriedThere, metThere⟩ :=
    (Endpoint.sound_connectorExchange _ address far dialing.lot).met connects.below dials
  have heard := meets.heard
  have reply := meets.answered
  rw [Endpoint.Attempt.written_of_stream introduced] at heard
  rw [Endpoint.Attempt.written_of_stream answered] at reply
  obtain ⟨record, answer⟩ := atNear.cross atFar meets.fresh heard reply
  have told : exchange'.own.transport = d.transport := metThere.tells.transport
  have adopted : c.transport = transport := by
    rw [carriedHere, record, told]
    exact carriedThere
  rw [adopted, record] at metHere
  rw [carriedThere, answer] at metThere
  exact ⟨c, d, exchange'.own, exchange.own, foundHere, foundThere, metHere, metThere, adopted,
    carriedThere⟩

/-! ## A handshake over the stream itself -/

/-- A stand with a region of 32 bytes over the software device; what it publishes stands on its
board alone. -/
def modest (useRdma : Bool) (slot : Option SocketAddress) : Stand :=
  { endpoint := Endpoint.opened
      ⟨⟨.info, "modest"⟩, { RdmaConfig.default with useRdma := useRdma }⟩ Device.soft .memory
      ⟨"modest", 8192, 32, fun _ => 0, by decide⟩
    board := ⟨⟨[]⟩, slot⟩ }

/-- What is drawn for the one connection of a modest stand. -/
def modestLot (number : UInt32) : ConnectionLot := ⟨[7], ⟨number, 0, .ok 9⟩⟩

/-- The record of that connection, sent from a port. -/
def modestRecord (number : UInt32) (port : UInt16) : Record :=
  { transport := .socket
    queuePair := ⟨number, 0, 9, Gid.ofIpv4 Ipv4.unspecified⟩
    region := ⟨8192, 32, 7⟩
    ip := Ipv4.loopback
    port := port }

/-- One end of the stream, at which the peer's record and its greeting have arrived. -/
def modestMeeting (port : UInt16) (peer : Record) (number : UInt32) : Meeting :=
  { stream := Stream.ofBytes
      (Record.framed peer.toBytes ++ (Header.hello peer.queuePair.number number).toBytes) false
    ownEnd := .ok (.v4 Ipv4.loopback port) }

/-- A connector that wants no link of its own meets a listener that would have one. -/
theorem socket_handshake_agrees :
    let address : SocketAddress := .v4 Ipv4.loopback 4000
    let listening := (modest true none).run
      [.bind address ⟨.ok address, none, Publication.noFaults⟩]
    let connecting := modest false (some address)
    let near := modestMeeting 4000 (modestRecord 2 5000) 1
    let far := modestMeeting 5000 (modestRecord 1 4000) 2
    let alone : LinkConditions := ⟨fun _ => .error .timedOut, none, 0⟩
    let accepting : Endpoint.AcceptConditions :=
      ⟨.ok (some near), modestLot 1, alone, none, Publication.noFaults⟩
    let dialing : Endpoint.ConnectConditions := ⟨0, none, .ok far, modestLot 2, alone, none⟩
    let accepted := (listening.endpoint.accept 1 accepting listening.board).outcome
    let connected := (connecting.endpoint.connect address dialing connecting.board).outcome
    listening.AtWork Device.soft ∧ connecting.AtWork Device.soft ∧
      listening.endpoint.Meets connecting.endpoint 1 address accepting dialing near far ∧
      accepted.result = .ok 1 ∧ connected.result = .ok 1 ∧
      ∃ (c d : Connection) (record answer : Record),
        accepted.endpoint.connection? 1 = some c ∧ connected.endpoint.connection? 1 = some d ∧
        c.Met (accepted.endpoint.carrier .socket) near answer record ∧
        d.Met (connected.endpoint.carrier .socket) far record answer ∧
        c.transport = .socket ∧ d.transport = .socket := by
  intro address listening connecting near far alone accepting dialing accepted connected
  have listens : listening.AtWork Device.soft := ⟨_, _, _, _, _, rfl⟩
  have connects : connecting.AtWork Device.soft := ⟨_, _, _, _, [], rfl⟩
  have meets : listening.endpoint.Meets connecting.endpoint 1 address accepting dialing near far :=
    { called := rfl
      dialed := rfl
      fresh := ⟨rfl, rfl⟩
      heard := ⟨(Header.hello 2 1).toBytes, [], by decide +kernel⟩
      answered := ⟨(Header.hello 1 2).toBytes, [], by decide +kernel⟩ }
  have taken : accepted.result = .ok 1 := by decide +kernel
  have reached : connected.result = .ok 1 := by decide +kernel
  exact ⟨listens, connects, meets, taken, reached,
    handshake_agrees listens connects meets taken reached⟩

end Stand

end RdmaLink
