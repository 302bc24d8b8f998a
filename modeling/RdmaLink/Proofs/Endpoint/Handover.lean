import RdmaLink.Proofs.Endpoint.Handshake
import RdmaLink.Proofs.QueuePair.Cutting
import RdmaLink.Proofs.QueuePair.Greeting

/-!
# One stream from hand to hand

Over the socket transport one stream carries the records, the greetings and the frames.  It is read
by the rendezvous, by the queue pair that sets up its link, and by its receive path, one after the
other, and what arrives comes in pieces that know nothing of these borders.  Each of them takes what
is its own and leaves the rest:

    readRecord (framed body ++ behind)     leaves behind             (Meeting.readRecord_framed)
    activate   (greeting ++ behind)        leaves behind             (Session.activate_of_greets)
    ready.deliver piece = alone.deliver (behind ++ piece)            (Session.deliver_behind)

So whatever follows the greeting is received as if the receiving had begun with it, by a listener
as by a connector (`Endpoint.handover_loses_nothing`).
-/

namespace RdmaLink

/-! ## Bytes that arrive -/

/-- Of two ways to part the same bytes, the one that parts them later begins with the earlier
one. -/
theorem parted_later {a b x y : Bytes} (same : a ++ b = x ++ y) (later : x.length ≤ a.length) :
    ∃ middle, a = x ++ middle ∧ y = middle ++ b := by
  rcases List.append_eq_append_iff.mp same with ⟨missing, rfl, rfl⟩ | parted
  · have none : missing = [] := by
      rw [List.length_append] at later
      exact List.eq_nil_of_length_eq_zero (by omega)
    rw [none]
    exact ⟨[], by simp, rfl⟩
  · exact parted

namespace Stream

/-- Neither end is shut, every message is taken and every option can be set. -/
structure Open (stream : Stream) : Prop where
  going : stream.ended = false
  standing : stream.shut = false
  willing : ∀ number, stream.refusals number = none
  settable : ∀ option, stream.settings option = none

section Open

variable {stream : Stream} (h : stream.Open)

include h

theorem Open.takes : stream.Takes := ⟨h.standing, h.willing _⟩

theorem Open.serves {span : Milliseconds} (timely : span.count ≠ 0) : stream.Serves span :=
  ⟨⟨timely, h.settable⟩, h.takes⟩

theorem Open.arrive (bytes : Bytes) : (stream.arrive bytes).Open :=
  ⟨h.going, h.standing, h.willing, h.settable⟩

theorem Open.wrote (message : Bytes) : (stream.wrote message).Open :=
  ⟨h.going, h.standing, h.willing, h.settable⟩

theorem Open.leaving (waiting : Bytes) : { stream with waiting := waiting }.Open :=
  ⟨h.going, h.standing, h.willing, h.settable⟩

end Open

theorem arrive_nil (stream : Stream) : stream.arrive [] = stream := by
  rw [arrive, List.append_nil]

theorem arrive_arrive (stream : Stream) (a b : Bytes) :
    (stream.arrive a).arrive b = stream.arrive (a ++ b) := by
  simp only [arrive, List.append_assoc]

theorem foldl_arrive (stream : Stream) (pieces : List Bytes) :
    pieces.foldl arrive stream = stream.arrive pieces.flatten := by
  induction pieces generalizing stream with
  | nil => exact stream.arrive_nil.symm
  | cons piece rest ih => rw [List.foldl_cons, ih, arrive_arrive, List.flatten_cons]

end Stream

/-! ## The record -/

theorem Record.length_of_ofBytes {body : Bytes} {record : Record}
    (h : ofBytes body = .ok record) : body.length = size := by
  unfold ofBytes at h
  split at h
  · cases h
  · next whole => exact not_not.mp whole

namespace Meeting

variable {meeting : Meeting} {body behind : Bytes} {peer own : Record} {ip : Ipv4} {port : UInt16}
  {broken : IoError → EndpointError}

/-- The bytes behind a record stay on the stream. -/
theorem readRecord_framed (record : Record.ofBytes body = .ok peer) {stream : Stream}
    (waits : stream.waiting = Record.framed body ++ behind) :
    readRecord stream broken = .ok (peer, { stream with waiting := behind }) := by
  have short : body.length < BigEndian.capacity 2 := by
    rw [Record.length_of_ofBytes record]
    decide
  unfold readRecord Stream.readBody
  rw [waits, Record.readFramed_framed short]
  dsimp only
  rw [record]

theorem sendRecord_of_takes (takes : meeting.stream.Takes)
    (home : meeting.ownIpv4 = .ok (ip, port)) :
    meeting.sendRecord own broken =
      (.ok { own with ip := ip, port := port },
        meeting.stream.wrote (Record.framed { own with ip := ip, port := port }.toBytes)) := by
  unfold sendRecord
  rw [home]
  dsimp only
  rw [Stream.send_of_takes takes]

end Meeting

namespace Endpoint

/-- The transport of a side: a listener follows the record that it reads, a connector its
configuration. -/
def transportOf (e : Endpoint) (peer : Record) : Role → Transport
  | .listener => peer.transport
  | .connector => .ofSwitch e.config.rdma.useRdma

/-- The exchange of records in a role. -/
def exchangeAs (e : Endpoint) (role : Role) (address : SocketAddress) (meeting : Meeting)
    (lot : ConnectionLot) : Attempt :=
  match role with
  | .listener => e.listenerExchange meeting lot
  | .connector => e.connectorExchange address meeting lot

section Exchanging

variable {e t : Endpoint} {role : Role} {lot : ConnectionLot} {session : Session}
  {own peer : Record} {meeting : Meeting} {ip : Ipv4} {port : UInt16} {body behind : Bytes}

/-- In both roles one record is read and one is written; what is behind the record stays on the
stream. -/
theorem exchangeAs_of_record
    (opened : e.openSession role (e.transportOf peer role) lot = (.ok (session, own), t))
    (takes : meeting.stream.Takes) (home : meeting.ownIpv4 = .ok (ip, port))
    (record : Record.ofBytes body = .ok peer)
    (waits : meeting.stream.waiting = Record.framed body ++ behind) (address : SocketAddress) :
    let stamped := { own with ip := ip, port := port }
    let left := { meeting.stream with waiting := behind }.wrote (Record.framed stamped.toBytes)
    e.exchangeAs role address meeting lot =
      ⟨.ok (session, ⟨left, stamped, peer⟩), t, some left⟩ := by
  intro stamped left
  cases role with
  | listener =>
    have sent (broken : IoError → EndpointError) :
        ({ meeting with stream := { meeting.stream with waiting := behind } } : Meeting).sendRecord
          own broken = (.ok stamped, left) := Meeting.sendRecord_of_takes takes home
    unfold exchangeAs listenerExchange
    dsimp only
    rw [Meeting.readRecord_framed record waits]
    dsimp only
    rw [show e.openSession .listener peer.transport lot = _ from opened]
    dsimp only [Meeting.answer]
    rw [sent]
  | connector =>
    have sent (broken : IoError → EndpointError) :
        meeting.sendRecord own broken =
          (.ok stamped, meeting.stream.wrote (Record.framed stamped.toBytes)) :=
      Meeting.sendRecord_of_takes takes home
    have read (broken : IoError → EndpointError) :
        Meeting.readRecord (meeting.stream.wrote (Record.framed stamped.toBytes)) broken =
          .ok (peer, left) := Meeting.readRecord_framed record waits
    unfold exchangeAs connectorExchange
    dsimp only
    rw [show e.openSession .connector (.ofSwitch e.config.rdma.useRdma) lot = _ from opened]
    dsimp only [Meeting.introduce]
    rw [sent]
    dsimp only
    rw [read]

/-- A session is opened with its handshake begun. -/
theorem state_of_opened {transport : Transport}
    (opened : e.openSession role transport lot = (.ok (session, own), t)) :
    session.connection.state = .listening ∨ session.connection.state = .connecting := by
  unfold openSession at opened
  dsimp only at opened
  generalize hcounted : ({ e with nextConnection := e.nextConnection + 1 } : Endpoint) = counted
    at opened
  split at opened
  · cases opened
  · next region _ =>
    rcases Connection.create_cases e.nextConnection role transport (counted.carrier transport)
      e.region region (counted.settings transport) lot with
      ⟨fault, device, -, h⟩ | ⟨registration, address, -, -, h⟩
    · rw [h] at opened
      cases opened
    · rw [h] at opened
      cases role with
      | listener =>
        cases opened
        exact Or.inl rfl
      | connector =>
        cases opened
        exact Or.inr rfl

end Exchanging

end Endpoint

/-! ## The greeting -/

/-- The device turns down none of the calls by which a queue pair comes up over a stream. -/
def Device.Raises (device : Device) : Prop :=
  ∀ call ∈ [DeviceCall.initializing, .attaching, .linking, .activating],
    device.refusal call = none

/-- Bytes that begin with a greeting do so whatever comes behind them. -/
theorem Greets.append {bytes : Bytes} {peer own : UInt32} (greets : Greets bytes peer own)
    (behind : Bytes) : Greets (bytes ++ behind) peer own := by
  obtain ⟨long, hello, read, fields⟩ := greets
  refine ⟨by rw [List.length_append]; omega, hello, ?_, fields⟩
  rw [List.take_append_of_le_length long]
  exact read

namespace Session

/-- The handshake of a connection over the socket transport has begun, and its queue pair has not
got its rights yet. -/
structure Begun (s : Session) (q : QueuePair) : Prop where
  state : s.connection.state = .listening ∨ s.connection.state = .connecting
  transport : s.connection.transport = .socket
  queuePair : s.connection.queuePair = some q
  fresh : q.state = .reset
  timely : q.linkTimeout.count ≠ 0

variable {s : Session} {q : QueuePair} {exchange : Exchange} {stream : Stream}

/-- An initialized queue pair that has a stream is linked over it and ready to send. -/
theorem link_of_greets (informed : s.connection.state = .parametersExchanged)
    (init : q.state = .init) (attached : q.attached = some stream) (raises : s.device.Raises)
    (serves : stream.Serves q.linkTimeout) {peer : Record}
    (greets : Greets stream.waiting peer.queuePair.number q.address.number)
    (conditions : LinkConditions) :
    s.link q peer conditions =
      ⟨.ok (), s.ready (q.running (q.greeted peer.queuePair stream)),
        some (q.greeted peer.queuePair stream)⟩ := by
  have initialized : s.connection.apply .queuePairInitialized "initialize queue pair" =
      .ok { s.connection with lifecycle := ⟨.queuePairInit, s.connection.role⟩ } := by
    rw [Connection.state] at informed
    simp only [Connection.apply, Lifecycle.step, informed, Lifecycle.next?, Connection.role]
  have established : q.establish peer.queuePair (peerIp peer) conditions = .ok stream := by
    rw [QueuePair.establish, attached]
  have linked := QueuePair.linked_of_greets init established serves greets
  have linking : s.device.refusal .linking = none := raises _ (by simp)
  have activating : s.device.refusal .activating = none := raises _ (by simp)
  unfold link
  rw [initialized]
  dsimp only [withConnection]
  rw [linking]
  dsimp only
  rw [linked]
  dsimp only [withQueuePair, withConnection]
  rw [activating]
  rfl

/-- Over the socket transport the queue pair gets the stream of the exchange. -/
theorem bringUp_of_greets (informed : s.connection.state = .parametersExchanged)
    (socket : s.connection.transport = .socket) (present : s.connection.queuePair = some q)
    (fresh : q.state = .reset) (raises : s.device.Raises)
    (serves : exchange.stream.Serves q.linkTimeout)
    (greets : Greets exchange.stream.waiting exchange.peer.queuePair.number q.address.number)
    (conditions : LinkConditions) :
    s.bringUp exchange conditions =
      ⟨.ok (), s.ready ({ q with access := Access.all }.running
          (q.greeted exchange.peer.queuePair exchange.stream)),
        some (q.greeted exchange.peer.queuePair exchange.stream)⟩ := by
  let initialized : QueuePair := { q with access := Access.all, state := .init }
  let attached : QueuePair := { initialized with attached := some exchange.stream }
  have init : q.toInit Access.all = .ok initialized := by
    rw [QueuePair.toInit, QueuePair.expect, fresh]
    rfl
  have attach : initialized.attach exchange.stream = .ok attached := rfl
  have linked := link_of_greets (s := s.withQueuePair attached) (q := attached) informed rfl rfl
    raises serves greets conditions
  have initializing : s.device.refusal .initializing = none := raises _ (by simp)
  have attaching : s.device.refusal .attaching = none := raises _ (by simp)
  unfold bringUp
  rw [present]
  dsimp only
  rw [initializing]
  dsimp only
  rw [init]
  dsimp only
  rw [show (s.withQueuePair initialized).connection.transport = .socket from socket]
  dsimp only
  rw [show (s.withQueuePair initialized).device.refusal .attaching = none from attaching]
  dsimp only
  rw [attach]
  exact linked

/-- A connection comes up over the socket transport if the peer's greeting is the next thing on the
stream of the exchange; what is behind it stays there. -/
theorem activate_of_greets (begun : s.Begun q) (raises : s.device.Raises) (exchange : Exchange)
    (serves : exchange.stream.Serves q.linkTimeout)
    (greets : Greets exchange.stream.waiting exchange.peer.queuePair.number q.address.number)
    (conditions : LinkConditions) :
    s.activate exchange conditions =
      ⟨.ok (), s.activated q (q.greeted exchange.peer.queuePair exchange.stream) exchange,
        some (q.greeted exchange.peer.queuePair exchange.stream)⟩ := by
  let moved : Connection :=
    { s.connection with lifecycle := ⟨.parametersExchanged, s.connection.role⟩ }
  have informed : s.connection.apply .parametersReceived "exchange parameters" = .ok moved := by
    have state := begun.state
    unfold Connection.state at state
    rcases state with listening | connecting
    · simp only [Connection.apply, Lifecycle.step, listening, Lifecycle.next?]
      rfl
    · simp only [Connection.apply, Lifecycle.step, connecting, Lifecycle.next?]
      rfl
  let known := s.withConnection
    { moved with ownRecord := some exchange.own, peerRecord := some exchange.peer }
  have raised := bringUp_of_greets (s := known) rfl begun.transport begun.queuePair begun.fresh
    raises serves greets conditions
  unfold activate
  rw [informed]
  dsimp only
  rw [raised]
  rfl

/-! ## What is behind the greeting -/

/-- What has arrived behind the greeting stands on the link; but for that, the connection comes up
as if nothing had. -/
theorem activate_behind (begun : s.Begun q) (raises : s.device.Raises) (exchange : Exchange)
    (lasts : stream.Open) {greeting behind : Bytes} (width : greeting.length = Header.size)
    (greets : Greets greeting exchange.peer.queuePair.number q.address.number)
    (waits : stream.waiting = greeting ++ behind) (conditions : LinkConditions) :
    ∃ link : Stream, link.waiting = [] ∧ link.ended = false ∧
      s.activate { exchange with stream := stream } conditions =
        ⟨.ok (), s.activated q (link.arrive behind) exchange, some (link.arrive behind)⟩ ∧
      s.activate { exchange with stream := { stream with waiting := greeting } } conditions =
        ⟨.ok (), s.activated q link exchange, some link⟩ := by
  let peer := exchange.peer.queuePair
  let link := q.greeted peer { stream with waiting := greeting }
  have nothing : link.waiting = [] := List.drop_eq_nil_of_le (Nat.le_of_eq width)
  have left : q.greeted peer stream = link.arrive behind := by
    have drop : (q.greeted peer stream).waiting = behind := by
      rw [QueuePair.greeted, waits, List.drop_left' width]
    rw [Stream.arrive, nothing, List.nil_append, ← drop]
    rfl
  refine ⟨link, nothing, lasts.going, ?_, ?_⟩
  · rw [← left]
    exact activate_of_greets begun raises { exchange with stream := stream }
      (lasts.serves begun.timely) (by rw [waits]; exact greets.append behind) conditions
  · exact activate_of_greets begun raises
      { exchange with stream := { stream with waiting := greeting } }
      ((lasts.leaving greeting).serves begun.timely) greets conditions

/-- It goes before whatever is delivered later. -/
theorem deliver_behind (s : Session) (q : QueuePair) (link : Stream) (exchange : Exchange)
    (behind piece : Bytes) (ended : Bool) :
    (s.activated q (link.arrive behind) exchange).deliver piece ended =
      (s.activated q link exchange).deliver (behind ++ piece) ended := by
  simp only [deliver, activated, ready, withConnection, QueuePair.running, Option.map_some,
    Stream.arrive_arrive]
  rfl

/-- The queue pair of the session takes what arrives. -/
def Receives (s : Session) : Prop :=
  ∃ station, s.station? = some station ∧ station.queuePair.intake.isSome = true

theorem foldl_deliver {station : Station} (present : s.station? = some station)
    (pieces : List Bytes) :
    pieces.foldl (fun session piece => session.deliver piece false) s =
      s.withStation (pieces.foldl (Station.hear s.device.registrations) station) := by
  induction pieces generalizing s station with
  | nil => exact (withStation_station present).symm
  | cons piece rest ih =>
    rw [List.foldl_cons, Station.deliver_eq_hear present]
    exact ih rfl

/-- Pieces that are delivered one after the other are received like one, up to what comes when the
queue pair has ceased to receive. -/
theorem deliver_pieces {station : Station} (present : s.station? = some station)
    (caught : station.CaughtUp) (receiving : station.queuePair.intake.isSome = true)
    (pieces : List Bytes) :
    let once := s.deliver pieces.flatten false
    let cut := pieces.foldl (fun session piece => session.deliver piece false) s
    cut = once ∨ ¬ once.Receives ∧ ∃ unread, cut = once.deliver unread false := by
  intro once cut
  obtain ⟨unread, taken, pieced⟩ := caught.foldl_hear s.device.registrations pieces
  generalize after : station.receive s.device.registrations pieces.flatten = received
    at taken pieced
  have whole : once = s.withStation received := by
    rw [← after, ← caught.hear receiving]
    exact Station.deliver_eq_hear present _
  have parts : cut = s.withStation (received.withWaiting unread) := by
    rw [← pieced]
    exact foldl_deliver present pieces
  rw [parts, whole]
  cases stopped : received.queuePair.intake with
  | some intake =>
    rw [taken (by rw [stopped]; rfl), Station.withWaiting_nil]
    exact Or.inl rfl
  | none =>
    refine Or.inr ⟨?_, unread, ?_⟩
    · rintro ⟨_, ⟨⟩, receives⟩
      have receives : received.queuePair.intake.isSome = true := receives
      rw [stopped] at receives
      cases receives
    · rw [Station.deliver_eq_hear (s := received) rfl, Station.hear_stopped stopped]
      rfl

/-- The receiving stands before the first byte of a frame, and nothing waits on the link. -/
def StartsAfresh (s : Session) : Prop :=
  ∃ q link, s.connection.queuePair = some q ∧ q.state = .readyToSend ∧
    q.intake = some (.header []) ∧ q.link = some link ∧ link.waiting = []

/-- The greeting is read off the stream and nothing else; what is behind it is received as if the
stream had brought nothing before it. -/
theorem receives_behind (begun : s.Begun q) (raises : s.device.Raises) (exchange : Exchange)
    (lasts : stream.Open) {greeting behind : Bytes} (width : greeting.length = Header.size)
    (greets : Greets greeting exchange.peer.queuePair.number q.address.number)
    (waits : stream.waiting = greeting ++ behind) (conditions : LinkConditions) :
    let ready := s.activate { exchange with stream := stream } conditions
    let alone := s.activate
      { exchange with stream := { stream with waiting := greeting } } conditions
    ready.result = .ok () ∧ ready.stream.map Stream.waiting = some behind ∧
    alone.result = .ok () ∧ alone.session.StartsAfresh ∧
    (∀ piece ended, ready.session.deliver piece ended =
      alone.session.deliver (behind ++ piece) ended) ∧
    ∀ first rest,
      let once := alone.session.deliver (behind ++ (first :: rest).flatten) false
      let cut := (first :: rest).foldl (fun session piece => session.deliver piece false)
        ready.session
      cut = once ∨ ¬ once.Receives ∧ ∃ unread, cut = once.deliver unread false := by
  intro ready alone
  obtain ⟨link, nothing, going, hready, halone⟩ :=
    activate_behind begun raises exchange lasts width greets waits conditions
  have delivers (piece : Bytes) (ended : Bool) : ready.session.deliver piece ended =
      alone.session.deliver (behind ++ piece) ended := by
    rw [show ready = _ from hready, show alone = _ from halone]
    exact deliver_behind s q link exchange behind piece ended
  refine ⟨by rw [show ready = _ from hready], ?_, by rw [show alone = _ from halone], ?_, delivers,
    fun first rest => ?_⟩
  · rw [show ready = _ from hready, Option.map_some, Stream.arrive, nothing, List.nil_append]
  · rw [show alone = _ from halone]
    exact ⟨_, link, rfl, rfl, rfl, rfl, nothing⟩
  · intro once cut
    let station : Station :=
      ⟨{ q with access := Access.all }.running link, s.connection.completions, s.memory⟩
    have present : alone.session.station? = some station := by
      rw [show alone = _ from halone]
      rfl
    have caught : station.CaughtUp := by
      intro _
      show some (link.waiting, link.ended) = _
      rw [nothing, going]
    have later : cut = ((behind ++ first) :: rest).foldl
        (fun session piece => session.deliver piece false) alone.session := by
      rw [List.foldl_cons, ← delivers]
      rfl
    have whole : once = alone.session.deliver ((behind ++ first) :: rest).flatten false := by
      rw [List.flatten_cons, List.append_assoc, ← List.flatten_cons]
    rw [later, whole]
    exact deliver_pieces present caught rfl _

end Session

/-! ## From the record to the frames -/

/-- What a peer says over one stream before its frames: a record of 64 bytes behind their number,
and a greeting to the queue pair with a number. -/
structure Record.Speaks (peer : Record) (own : UInt32) (body greeting : Bytes) : Prop where
  record : Record.ofBytes body = .ok peer
  width : greeting.length = Header.size
  greets : Greets greeting peer.queuePair.number own

namespace Endpoint

variable {e t : Endpoint} {role : Role} {lot : ConnectionLot} {session : Session}
  {own peer : Record} {meeting : Meeting} {ip : Ipv4} {port : UInt16}
  {body greeting frames : Bytes}

/-- No limit of a valid configuration is zero. -/
theorem handshakeLimit_of_valid (valid : e.config.validate = .ok ()) :
    e.config.rdma.handshakeLimit.count ≠ 0 := by
  intro zero
  have faulty : e.config.rdma.handshakeTimeout = 0 ∨ e.config.rdma.readyTimeout = 0 ∨
      e.config.rdma.readyPoll = 0 := Or.inl zero
  unfold EndpointConfig.validate RdmaConfig.validate at valid
  rw [if_pos faulty] at valid
  split at valid
  · cases valid
  · repeat' split at valid
    all_goals cases valid

theorem begun_of_opened (valid : e.config.validate = .ok ())
    (opened : e.openSession role .socket lot = (.ok (session, own), t)) :
    ∃ q, session.Begun q ∧ q.address = own.queuePair := by
  obtain ⟨opens, -⟩ := openSession_eq_ok opened
  obtain ⟨address, fresh⟩ := opens.queuePair
  obtain ⟨q, present, -, -, same⟩ := opens.tells.queuePair
  rw [fresh] at present
  cases present
  exact ⟨_, ⟨state_of_opened opened, opens.transport, fresh, rfl, handshakeLimit_of_valid valid⟩,
    same.symm⟩

/-- Nothing is lost and nothing misread where one stream goes from hand to hand.  A peer says its
record and its greeting over the socket transport, and then anything, in any pieces: some come
before the record is read, some more before the greeting is read, and the rest later.  In both
roles the exchange of records takes the first 66 bytes and gives the peer's record, the activation
takes the next 32 and brings the connection up, and what is left is received as by a queue pair
that starts on it alone.  Once a queue pair has failed over what it received, the pieces that are
still to come are not looked at. -/
theorem handover_loses_nothing (valid : e.config.validate = .ok ())
    (opened : e.openSession role .socket lot = (.ok (session, own), t))
    (selected : e.transportOf peer role = .socket) (raises : session.device.Raises)
    (home : meeting.ownIpv4 = .ok (ip, port)) (lasts : meeting.stream.Open)
    (quiet : meeting.stream.waiting = [])
    (speaks : peer.Speaks own.queuePair.number body greeting)
    (before between : List Bytes) (first : Bytes) (rest : List Bytes)
    (said : (before ++ between ++ first :: rest).flatten =
      Record.framed body ++ (greeting ++ frames))
    (recordCame : 2 + Record.size ≤ before.flatten.length)
    (greetingCame : 2 + Record.size + Header.size ≤ (before ++ between).flatten.length)
    (address : SocketAddress) (conditions : LinkConditions) :
    let arrived := { meeting with stream := before.foldl Stream.arrive meeting.stream }
    ∃ exchange, (e.exchangeAs role address arrived lot).result = .ok (session, exchange) ∧
      exchange.peer = peer ∧
      exchange.stream.waiting = before.flatten.drop (2 + Record.size) ∧
      let ready := session.activate
        { exchange with stream := between.foldl Stream.arrive exchange.stream } conditions
      let alone := session.activate
        { exchange with stream := { exchange.stream with waiting := greeting } } conditions
      let behind := (before ++ between).flatten.drop (2 + Record.size + Header.size)
      ready.result = .ok () ∧ ready.stream.map Stream.waiting = some behind ∧
      alone.result = .ok () ∧ alone.session.StartsAfresh ∧
      (∀ piece ended, ready.session.deliver piece ended =
        alone.session.deliver (behind ++ piece) ended) ∧
      let once := alone.session.deliver frames false
      let cut := (first :: rest).foldl (fun session piece => session.deliver piece false)
        ready.session
      cut = once ∨ ¬ once.Receives ∧ ∃ unread, cut = once.deliver unread false := by
  intro arrived
  obtain ⟨record, width, greets⟩ := speaks
  have prefixed : (Record.framed body).length = 2 + Record.size := by
    rw [Record.length_framed, Record.length_of_ofBytes record]
  -- the pieces are parted where the readers are, and `early` and `behind` have come too soon
  rw [List.append_assoc, List.flatten_append] at said
  obtain ⟨early, hbefore, said⟩ := parted_later said (by rw [prefixed]; exact recordCame)
  rw [List.flatten_append, hbefore, List.append_assoc] at greetingCame ⊢
  rw [List.flatten_append, ← List.append_assoc] at said
  obtain ⟨behind, hbetween, rfl⟩ := parted_later said.symm (by
    rw [List.length_append, prefixed] at greetingCame
    omega)
  rw [hbetween, ← List.append_assoc, List.drop_left' prefixed,
    List.drop_left' (by rw [List.length_append, prefixed, width])]
  -- the record is read
  have came : arrived.stream = meeting.stream.arrive (Record.framed body ++ early) := by
    rw [← hbefore]
    exact meeting.stream.foldl_arrive before
  have lasted : arrived.stream.Open := by
    rw [came]
    exact lasts.arrive _
  have waits : arrived.stream.waiting = Record.framed body ++ early := by
    rw [came, Stream.arrive, quiet]
    rfl
  have exchanged := exchangeAs_of_record (by rw [selected]; exact opened) lasted.takes home record
    waits address
  let stamped : Record := { own with ip := ip, port := port }
  let left : Stream :=
    { arrived.stream with waiting := early }.wrote (Record.framed stamped.toBytes)
  refine ⟨⟨left, stamped, peer⟩, by rw [exchanged], rfl, rfl, ?_⟩
  -- the greeting is read
  obtain ⟨q, begun, named⟩ := begun_of_opened valid opened
  rw [← named] at greets
  have lasting : (left.arrive between.flatten).Open :=
    ((lasted.leaving early).wrote _).arrive between.flatten
  obtain ⟨raised, leaves, raisedAlone, afresh, delivers, pieces⟩ := Session.receives_behind begun
    raises ⟨left, stamped, peer⟩ lasting width greets hbetween conditions
  rw [left.foldl_arrive between]
  exact ⟨raised, leaves, raisedAlone, afresh, delivers, pieces first rest⟩

/-- A listener that is ready at once has sent its record, its greeting and a first write before the
connector reads anything. -/
theorem hurried_listener_is_received :
    let e := (Stand.modest false none).endpoint
    let peer := Stand.modestRecord 1 4000
    let greeting := (Header.hello 1 2).toBytes
    let frame := (Header.write 1 8192 7 4 none).toBytes ++ [1, 2, 3, 4]
    let said := Record.framed peer.toBytes ++ (greeting ++ frame)
    let address : SocketAddress := .v4 Ipv4.loopback 4000
    let meeting : Meeting := ⟨Stream.ofBytes [] false, .ok (.v4 Ipv4.loopback 5000)⟩
    let alone : LinkConditions := ⟨fun _ => .error .timedOut, none, 0⟩
    ∃ session own t exchange,
      e.openSession .connector .socket (Stand.modestLot 2) = (.ok (session, own), t) ∧
      session.device.Raises ∧ meeting.stream.Open ∧
      peer.Speaks own.queuePair.number peer.toBytes greeting ∧
      (e.exchangeAs .connector address
        { meeting with stream := [said].foldl Stream.arrive meeting.stream }
        (Stand.modestLot 2)).result = .ok (session, exchange) ∧
      exchange.stream.waiting = greeting ++ frame ∧
      (session.activate exchange alone).stream.map Stream.waiting = some frame := by
  intro e peer greeting frame said address meeting alone
  obtain ⟨session, own, t, opened, raises, number⟩ : ∃ session own t,
      e.openSession .connector .socket (Stand.modestLot 2) = (.ok (session, own), t) ∧
      session.device.Raises ∧ own.queuePair.number = 2 :=
    ⟨_, _, _, rfl, by unfold Device.Raises; decide, rfl⟩
  have lasts : meeting.stream.Open := ⟨rfl, rfl, fun _ => rfl, fun _ => rfl⟩
  have speaks : peer.Speaks own.queuePair.number peer.toBytes greeting := by
    refine ⟨Record.ofBytes_toBytes peer, Header.length_toBytes _, ?_⟩
    rw [number]
    exact greets_of_begins (List.prefix_refl _)
  have whole : ([said] ++ [] ++ [[]]).flatten =
      Record.framed peer.toBytes ++ (greeting ++ frame) := by simp [said]
  obtain ⟨exchange, exchanged, -, left, -, ready, -⟩ :=
    handover_loses_nothing rfl opened rfl raises rfl lasts rfl speaks [said] [] [] [] whole
      (by decide +kernel) (by decide +kernel) address alone
  refine ⟨session, own, t, exchange, opened, raises, lasts, speaks, exchanged, ?_, ?_⟩
  · rw [left]
    decide +kernel
  · refine ready.trans ?_
    decide +kernel

end Endpoint

end RdmaLink
