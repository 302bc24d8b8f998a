import RdmaLink.Proofs.Connection.Ranges
import RdmaLink.Proofs.Endpoint.Grounds
import RdmaLink.Proofs.Endpoint.Polling

/-!
# Posts between offsets

A post names two ranges by their offsets, one in the region of the endpoint and one in that of the
peer.  On its way each becomes an address and an offset again, at its own device.  In an endpoint
nothing is lost on the way: a post is refused exactly if one of its ranges is not inside its region,
and otherwise both devices come to the offsets that were meant (`Stand.posts_translate`).

Where the region of the peer's record does not end inside the address space, a range at its end has
no address, and the post of it ends its caller (`Stand.post_past_top_overflows`).
-/

namespace RdmaLink

namespace Endpoint

/-- A connection of an endpoint that can post at once: `own` is the region of the endpoint, and
`peer` is the record that the connection was sent. -/
structure Postable (e : Endpoint) (id : Nat) (connection : Connection) (q : QueuePair)
    (own : Region) (registration : Registration) (peer : Record) : Prop where
  found : e.connection? id = some connection
  able : connection.state.canPost = true
  pair : connection.queuePair = some q
  ready : q.state = .readyToSend
  room : (Station.mk q connection.completions e.memory).load < connection.completions.depth
  known : e.ownRegion? = some own
  held : connection.registration = some registration
  covers : registration.Covers e.region own
  met : connection.peerRecord = some peer
  willing : (e.sessionOf connection).device.refusal .sending = none

/-- In an endpoint over the software device nothing else is needed than a connection that takes
posts, and a queue pair with room that can send. -/
theorem Grounded.postable {e : Endpoint} {region : Region} {id : Nat} {connection : Connection}
    {q : QueuePair} (grounded : e.Grounded region) (sound : e.books.Sound)
    (found : e.connection? id = some connection) (able : connection.state.canPost = true)
    (pair : connection.queuePair = some q) (ready : q.state = .readyToSend)
    (room : (Station.mk q connection.completions e.memory).load < connection.completions.depth) :
    ∃ own registration peer, e.Postable id connection q own registration peer ∧
      own.size = region.size := by
  obtain ⟨own, known, base, size⟩ := grounded.place
  have listed := mem_of_found found
  have coherent : connection.Coherent := grounded.coherent (id, connection) listed
  obtain ⟨held, -, met, -⟩ := Session.in_place_of_postable coherent able
  obtain ⟨registration, held⟩ := Option.isSome_iff_exists.mp held
  obtain ⟨peer, met⟩ := Option.isSome_iff_exists.mp met
  have covers := grounded.covers (id, connection) listed registration held
  refine ⟨own, registration, peer,
    { found := found, able := able, pair := pair, ready := ready, room := room, known := known
      held := held, met := met
      covers := ⟨covers.region, covers.access, covers.address.trans base.symm,
        covers.length.trans size.symm, size ▸ covers.small⟩
      willing := ?_ }, size⟩
  rw [device_sessionOf sound]
  unfold Device.refusal
  rw [grounded.profile]
  rfl

namespace Postable

variable {e : Endpoint} {id : Nat} {connection : Connection} {q : QueuePair} {own : Region}
  {registration : Registration} {peer : Record} {operation : SendOperation} {request : UInt64}
  {offset length peerOffset : Nat} {send : SendRequest} {fault : EndpointError}

theorem mem_held (p : e.Postable id connection q own registration peer) :
    registration ∈ e.books.held :=
  List.mem_filterMap.mpr
    ⟨(id, connection.holding), List.mem_map.mpr ⟨(id, connection), mem_of_found p.found, rfl⟩,
      p.held⟩

theorem small (p : e.Postable id connection q own registration peer) : own.size < 2 ^ 32 := by
  have := p.covers.small
  unfold Region.maxSize at this
  omega

/-! ## The checks -/

theorem checks (p : e.Postable id connection q own registration peer)
    (operation : SendOperation) (request : UInt64) (offset length peerOffset : Nat) :
    (e.sessionOf connection).sendRequest operation (Session.postName operation) request offset
        length peerOffset =
      if offset + length ≤ own.size then
        if peerOffset + length ≤ peer.region.length.toNat then
          if peer.region.address.toNat + peerOffset < 2 ^ 64 then
            .ok (.between registration peer.region operation request offset length peerOffset)
          else .error .overflow
        else .error (.outOfBounds ⟨peerOffset, length, peer.region.length.toNat⟩)
      else .error (.outOfBounds ⟨offset, length, own.size⟩) := by
  rw [← p.covers.length]
  exact Session.sendRequest_eq (s := e.sessionOf connection) p.held p.met
    (p.covers.length ▸ p.small) _ _ _ _ _ _

/-- What passes the checks is the request between the two ranges, and they are inside. -/
theorem passed (p : e.Postable id connection q own registration peer) :
    (e.sessionOf connection).sendRequest operation (Session.postName operation) request offset
        length peerOffset = .ok send ↔
      (offset + length ≤ own.size ∧ peerOffset + length ≤ peer.region.length.toNat ∧
        peer.region.address.toNat + peerOffset < 2 ^ 64) ∧
        send = .between registration peer.region operation request offset length peerOffset := by
  rw [← p.covers.length]
  exact Session.sendRequest_eq_ok (s := e.sessionOf connection) p.held p.met
    (p.covers.length ▸ p.small)

/-- What does not pass the checks changes nothing. -/
theorem refused (p : e.Postable id connection q own registration peer) (tidy : e.roster.Tidy)
    (h : (e.sessionOf connection).sendRequest operation (Session.postName operation) request offset
      length peerOffset = .error fault) :
    e.post id operation request offset length peerOffset = (.error fault, e) := by
  have replaced : e.withSession (e.sessionOf connection) = e.withConnection connection :=
    withSession_of_connection rfl
  have unmoved : e.withSession (e.sessionOf connection) = e :=
    replaced.trans (withConnection_self tidy p.found)
  unfold post onSession
  rw [p.found]
  dsimp only
  rw [Session.post_of_error p.able h]
  dsimp only
  rw [unmoved]

/-! ## At the own device -/

/-- The own device comes to the offset that was meant, and makes a frame of the range. -/
theorem framed (p : e.Postable id connection q own registration peer)
    (inside : offset + length ≤ own.size) :
    let send :=
      SendRequest.between registration peer.region operation request offset length peerOffset
    send.length.toNat = length ∧
      registration.offsetOf? send.localAddress send.length.toNat = some offset ∧
      ∃ frame pending,
        (Station.mk q connection.completions e.memory).sendFrame send e.region offset =
          .ok (frame, pending) ∧
        send.Framed own e.region offset frame pending := by
  intro send
  have short : length < 2 ^ 32 := by have := p.small; omega
  have same : send.length.toNat = length := SendRequest.length_between short
  refine ⟨same, SendRequest.offset_between p.covers.placed short ?_,
    Station.sendFrame_of_room p.known ?_⟩
  · rw [p.covers.length]; exact inside
  · rw [same]; exact inside

/-- Under a live registration a post that passes its checks is taken on. -/
theorem taken (p : e.Postable id connection q own registration peer) (sound : e.books.Sound)
    (keyed : e.device.registrations.Keyed) (live : registration ∈ e.device.registrations.entries)
    (passed : (e.sessionOf connection).sendRequest operation (Session.postName operation) request
      offset length peerOffset = .ok send)
    (key : send.localKey = registration.localKey)
    (place : registration.offsetOf? send.localAddress send.length.toNat = some offset)
    {frame : Frame} {pending : PendingSend}
    (framed : (Station.mk q connection.completions e.memory).sendFrame send e.region offset =
      .ok (frame, pending)) :
    e.device.registrations.byLocalKey? send.localKey = some registration ∧
      e.post id operation request offset length peerOffset =
        (.ok (), e.withSession ((e.sessionOf connection).withStation
          (((Station.mk q connection.completions e.memory).withPosted pending).launch frame
            q.nextSequence))) := by
  have known : e.device.registrations.byLocalKey? send.localKey = some registration := by
    rw [key]
    exact keyed.byLocalKey? live
  refine ⟨known, ?_⟩
  have present : (e.sessionOf connection).station? =
      some ⟨q, connection.completions, e.memory⟩ := congrArg (Option.map _) p.pair
  rw [← p.covers.region] at framed
  have posted := Station.postSend_eq_ok p.ready p.room known place framed
  rw [← device_sessionOf sound connection] at posted
  unfold post onSession
  rw [p.found]
  dsimp only
  rw [Session.post_eq_ok p.able passed present p.willing posted]

end Postable

end Endpoint

/-- In every run of an endpoint over the software device, let a connection take posts, its queue
pair be ready to send and its completion queue have room; `peer` is the record that it was sent.
A post passes its checks if and only if both ranges are inside their regions, the ranges taken as
numbers without bound, and the address at the peer is a word; otherwise it is refused with the range
that is not inside, or ends its caller, and nothing changes.  A region that a peer has registered
and told of has no range without an address.  A post that passes is made of the range that was
meant, and as long as the registration of the connection is live, the device takes it on.  It is
live unless a local key was given out again while in use, for which more than four billion attempts
are needed.  At a device that still has the registration of which the peer's record tells, with
every right, the frame of the post stands for the offset that was meant. -/
theorem Stand.posts_translate (config : EndpointConfig) (publication : Publication)
    (region : Region) (board : Board) (events : List EndpointEvent) :
    let start : Stand := ⟨Endpoint.opened config Device.soft publication region, board⟩
    let e := (start.run events).endpoint
    let table := e.device.registrations
    table.Keyed ∧
    (e.nextConnection < 2 ^ 32 → start.KeysFree events) ∧
    ∀ id connection q, e.connection? id = some connection →
      connection.state = .queuePairReady ∨ connection.state = .active →
      connection.queuePair = some q → q.state = .readyToSend →
      let station : Station := ⟨q, connection.completions, e.memory⟩
      station.load < connection.completions.depth →
      ∃ own registration peer, e.ownRegion? = some own ∧ own.size = region.size ∧
        connection.registration = some registration ∧ connection.peerRecord = some peer ∧
        (start.KeysFree events → registration ∈ table.entries) ∧
        (∀ (them : Connection) told other (theirs : Region), them.record = .ok told →
          told.region = peer.region → them.registration = some other →
          other.address = theirs.base → other.length = theirs.size → peer.region.Addressable) ∧
        ∀ operation request offset length peerOffset,
          let session := e.sessionOf connection
          let checked := session.sendRequest operation (Session.postName operation) request offset
            length peerOffset
          let posted := e.post id operation request offset length peerOffset
          let here := offset + length ≤ own.size
          let there := peerOffset + length ≤ peer.region.length.toNat
          let addressed := peer.region.address.toNat + peerOffset < 2 ^ 64
          ((∃ send, checked = .ok send) ↔ here ∧ there ∧ addressed) ∧
          (¬ here → posted = (.error (.outOfBounds ⟨offset, length, own.size⟩), e)) ∧
          (here → ¬ there → posted =
            (.error (.outOfBounds ⟨peerOffset, length, peer.region.length.toNat⟩), e)) ∧
          (here → there → ¬ addressed → posted = (.error .overflow, e)) ∧
          (there → peer.region.Addressable → addressed) ∧
          ∀ send, checked = .ok send →
            send.operation = operation ∧ send.length.toNat = length ∧
            registration.offsetOf? send.localAddress send.length.toNat = some offset ∧
            ∃ frame pending, station.sendFrame send e.region offset = .ok (frame, pending) ∧
              send.Framed own e.region offset frame pending ∧
              (registration ∈ table.entries →
                table.byLocalKey? send.localKey = some registration ∧
                posted = (.ok (), e.withSession (session.withStation
                  ((station.withPosted pending).launch frame q.nextSequence)))) ∧
              ∀ (theirs : Registrations) (them : Connection) told other needed, theirs.Keyed →
                them.record = .ok told → told.region = peer.region →
                them.registration = some other → other ∈ theirs.entries →
                other.access = Access.all →
                theirs.target? frame.header.key frame.header.address frame.header.length needed =
                  some (other.region, peerOffset) := by
  intro start e table
  obtain ⟨kept, grounded⟩ := Stand.grounded_run config publication region board events
  have tidy : e.roster.Tidy := tidy_run (tidy_opened config Device.soft publication region) events
  have begun : start.endpoint.books.Kept := Books.kept_opened config publication region
  refine ⟨grounded.keyed, keysFree_of_few begun, ?_⟩
  intro id connection q found able pair ready station room
  have able : connection.state.canPost = true := by rcases able with h | h <;> rw [h] <;> rfl
  obtain ⟨own, registration, peer, p, size⟩ :=
    grounded.postable kept.sound found able pair ready room
  refine ⟨own, registration, peer, p.known, size, p.held, p.met, ?_, ?_, ?_⟩
  · intro free
    have enrolled : e.books.Enrolled := enrolled_run begun (List.Perm.refl []) free
    exact enrolled.mem_iff.mpr p.mem_held
  · intro them told other theirs recorded same held base size
    rw [← same]
    exact Connection.record_addressable held ⟨base, size⟩ recorded
  intro operation request offset length peerOffset session checked posted here there addressed
  have checks : checked = _ := p.checks operation request offset length peerOffset
  refine ⟨?_, ?_, ?_, ?_, ?_, ?_⟩
  · constructor
    · rintro ⟨send, h⟩
      exact (p.passed.mp h).1
    · intro inside
      exact ⟨_, p.passed.mpr ⟨inside, rfl⟩⟩
  · intro outside
    exact p.refused tidy (checks.trans (if_neg outside))
  · intro inside outside
    exact p.refused tidy ((checks.trans (if_pos inside)).trans (if_neg outside))
  · intro inside inside' past
    exact p.refused tidy
      (((checks.trans (if_pos inside)).trans (if_pos inside')).trans (if_neg past))
  · intro inside ends
    unfold RemoteRegion.Addressable at ends
    show peer.region.address.toNat + peerOffset < 2 ^ 64
    have : peerOffset + length ≤ peer.region.length.toNat := inside
    omega
  · intro send h
    obtain ⟨⟨inside, inside', -⟩, rfl⟩ := p.passed.mp h
    obtain ⟨same, place, frame, pending, made, framed⟩ := p.framed inside
    refine ⟨rfl, same, place, frame, pending, made, framed, ?_, ?_⟩
    · intro live
      exact p.taken kept.sound grounded.keyed live h rfl place made
    · intro theirs them told other needed keyed recorded same' theirHeld listed all
      have short : length < 2 ^ 32 := by have := p.small; omega
      have tells : peer.region = other.told :=
        same'.symm.trans (Connection.region_of_record theirHeld recorded)
      have grants : other.access.includes needed = true := by
        rw [all]
        rfl
      rw [framed.key, framed.address, framed.length]
      exact SendRequest.target_between keyed listed tells short inside' grants

theorem sixteenBytes_fit : (4096 : UInt64).toNat + 16 < UInt64.size := by decide

/-- A region of sixteen bytes. -/
def sixteenBytes : Region := ⟨"host", 4096, 16, fun _ => 0, sixteenBytes_fit⟩

/-- What happens at an endpoint that takes in one peer, whose record tells of a region. -/
def takingIn (told : RemoteRegion) : List EndpointEvent :=
  let peer : Record :=
    ⟨.socket, ⟨7, 0, 0, Gid.ofIpv4 Ipv4.unspecified⟩, told, Ipv4.loopback, 0⟩
  let address : SocketAddress := .v4 Ipv4.loopback 4001
  [.bind address ⟨.ok address, none, Publication.noFaults⟩,
    .accept 1
      ⟨.ok (some ⟨Stream.ofBytes (Record.framed peer.toBytes ++ (Header.hello 7 9).toBytes) true,
          .ok address⟩), ⟨[], ⟨9, 0, .ok 40000⟩⟩, ⟨fun _ => .error .unexpectedEnd, none, 0⟩, none,
        Publication.noFaults⟩]

/-- The endpoint over sixteen bytes that has taken in the peer. -/
def Stand.host (told : RemoteRegion) : Stand :=
  Stand.run ⟨Endpoint.opened (EndpointConfig.ofService "host") Device.soft .memory sixteenBytes,
    ⟨⟨[]⟩, none⟩⟩ (takingIn told)

/-- Empty ranges at the ends of both regions are taken on, and one byte further they are refused. -/
theorem Stand.ends_are_inside :
    let e := (Stand.host ⟨64, 16, 3⟩).endpoint
    (∃ connection q, e.connection? 1 = some connection ∧ connection.state = .queuePairReady ∧
      connection.queuePair = some q ∧ q.state = .readyToSend ∧
      (Station.mk q connection.completions e.memory).load < connection.completions.depth) ∧
    (e.post 1 .write 5 16 0 16).1 = .ok () ∧
    e.post 1 .write 5 17 0 16 = (.error (.outOfBounds ⟨17, 0, 16⟩), e) ∧
    e.post 1 .read 5 0 1 16 = (.error (.outOfBounds ⟨16, 1, 16⟩), e) := by
  intro e
  have few : e.nextConnection < 2 ^ 32 := by decide +kernel
  have seen : (e.connection? 1).map (fun c => (c.state, c.peerRecord.map Record.region,
      c.queuePair.map fun q => (q.state,
        decide ((Station.mk q c.completions e.memory).load < c.completions.depth)))) =
      some (.queuePairReady, some ⟨64, 16, 3⟩, some (.readyToSend, true)) := by decide +kernel
  obtain ⟨connection, found, same⟩ := Option.map_eq_some_iff.mp seen
  simp only [Prod.mk.injEq] at same
  obtain ⟨state, met, pair⟩ := same
  obtain ⟨q, pair, same⟩ := Option.map_eq_some_iff.mp pair
  simp only [Prod.mk.injEq, decide_eq_true_eq] at same
  obtain ⟨ready, room⟩ := same
  refine ⟨⟨connection, q, found, state, pair, ready, room⟩, ?_⟩
  obtain ⟨-, free, posts⟩ := Stand.posts_translate (EndpointConfig.ofService "host") .memory
    sixteenBytes ⟨⟨[]⟩, none⟩ (takingIn ⟨64, 16, 3⟩)
  obtain ⟨own, registration, peer, -, size, -, told, live, -, posts⟩ :=
    posts 1 connection q found (Or.inl state) pair ready room
  have size : own.size = 16 := size
  have region : peer.region = ⟨64, 16, 3⟩ := by
    rw [told] at met
    exact Option.some.inj met
  refine ⟨?_, ?_, ?_⟩
  · obtain ⟨passes, -, -, -, -, posts⟩ := posts .write 5 16 0 16
    obtain ⟨send, checked⟩ := passes.mpr ⟨by omega, by rw [region]; decide,
      by rw [region]; decide⟩
    obtain ⟨-, -, -, frame, pending, -, -, taken, -⟩ := posts send checked
    exact congrArg Prod.fst (taken (live (free few))).2
  · obtain ⟨-, refused, -⟩ := posts .write 5 17 0 16
    rw [size] at refused
    exact refused (by decide)
  · obtain ⟨-, -, refused, -⟩ := posts .read 5 0 1 16
    rw [size, region] at refused
    exact refused (by decide) (by decide)

/-- A peer tells of a region of two bytes at the very end of the address space.  An empty range
behind the first of them is inside it, and the post of it ends its caller; the same post at the
beginning of the region is taken on. -/
theorem Stand.post_past_top_overflows :
    let e := (Stand.host ⟨18446744073709551615, 2, 3⟩).endpoint
    (e.connection? 1).map (fun c => (c.state, c.peerRecord.map fun peer => peer.region.length)) =
        some (.queuePairReady, some 2) ∧
      (e.post 1 .write 5 0 0 1).1 = .error .overflow ∧ (e.post 1 .write 5 0 0 0).1 = .ok () := by
  decide +kernel

end RdmaLink
