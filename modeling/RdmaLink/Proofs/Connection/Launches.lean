import RdmaLink.Proofs.Connection.Ranges
import RdmaLink.Proofs.Peers.Deeds
import RdmaLink.Proofs.QueuePair.Answers

/-!
# Posts in two steps

A post takes a send on, and then its frame goes to the link, which may take long.  Meanwhile the
peer may send, and what it sends is handled.  So a post falls into two parts:

    s.post operation request offset length peerOffset =
      match s.ask operation request offset length peerOffset with
      | (.error e, t) => (.error e, t)
      | (.ok post, t) => (.ok (), (t.launch post).2)                        (Session.post_eq_ask)

What a send that is taken on asks for is the range of the peer that was meant, and a write carries
the bytes that the own range holds at this moment (`Session.ask_eq_ok`).
-/

namespace RdmaLink

namespace Station

/-- Takes a send on: what is posted, before its frame goes to the link. -/
def ask (registrations : Registrations) (station : Station) (send : SendRequest) :
    Except DeviceError Post × Station :=
  match station.queuePair.expect [.readyToSend] "RTS" with
  | .error e => (.error e, station)
  | .ok () =>
    match station.checkRoom with
    | .error e => (.error e, station)
    | .ok () =>
      match registrations.byLocalKey? send.localKey with
      | none => (.error (.invalidKey send.localKey), station)
      | some registration =>
        match registration.offsetOf? send.localAddress send.length.toNat with
        | none => (.error (.localRange send.localAddress send.length), station)
        | some offset =>
          match station.sendFrame send registration.region offset with
          | .error _ =>
            (.error (.localRange send.localAddress send.length),
              { station with
                queuePair :=
                  { station.queuePair with nextSequence := station.queuePair.nextSequence + 1 } })
          | .ok (_, pending) =>
            (.ok (station.post send registration.region offset), station.withPosted pending)

variable {s t : Station} {registrations : Registrations} {send : SendRequest} {post : Post}

/-- A post is a send that is taken on and whose frame goes to the link. -/
theorem postSend_eq_ask (registrations : Registrations) (s : Station) (send : SendRequest) :
    s.postSend registrations send =
      match s.ask registrations send with
      | (.error e, t) => (.error e, t)
      | (.ok post, t) => (.ok (), t.launch post.frame post.sequence) := by
  rw [postSend_eq]
  unfold ask
  rcases s.queuePair.expect [.readyToSend] "RTS" with e | _
  · rfl
  rcases s.checkRoom with e | _
  · rfl
  cases known : registrations.byLocalKey? send.localKey with
  | none => simp only [prepare, Registrations.localRange, known]
  | some registration =>
    cases place : registration.offsetOf? send.localAddress send.length.toNat with
    | none => simp only [prepare, Registrations.localRange, known, place]
    | some offset =>
      cases framed : s.sendFrame send registration.region offset with
      | error e => simp only [prepare, Registrations.localRange, known, place, framed]
      | ok made =>
        obtain ⟨frame, pending⟩ := made
        obtain ⟨rfl, rfl, -⟩ := sendFrame_eq_ok framed
        rw [prepare_eq_ok known place framed]
        simp only [place, framed]
        rfl

theorem link_ask (registrations : Registrations) (s : Station) (send : SendRequest) :
    (s.ask registrations send).2.queuePair.link = s.queuePair.link := by
  unfold ask
  rcases s.queuePair.expect [.readyToSend] "RTS" with e | _
  · rfl
  rcases s.checkRoom with e | _
  · rfl
  rcases registrations.byLocalKey? send.localKey with _ | registration
  · rfl
  dsimp only
  rcases registration.offsetOf? send.localAddress send.length.toNat with _ | offset
  · rfl
  dsimp only
  rcases s.sendFrame send registration.region offset with e | framed <;> rfl

/-- What is taken on is the next send, with the bytes that its range holds. -/
theorem ask_eq_ok (asked : s.ask registrations send = (.ok post, t)) :
    s.queuePair.state = .readyToSend ∧ Captured registrations s.memory post ∧
      post.send = send ∧ post.sequence = s.queuePair.nextSequence ∧
      t = s.withPosted post.pending := by
  unfold ask at asked
  split at asked
  · cases asked
  · next ready =>
    split at asked
    · cases asked
    · split at asked
      · cases asked
      · next registration known =>
        split at asked
        · cases asked
        · next offset place =>
          cases made : s.sendFrame send registration.region offset with
          | error e => rw [made] at asked; cases asked
          | ok framed =>
            obtain ⟨frame, pending⟩ := framed
            obtain ⟨-, rfl, payload⟩ := sendFrame_eq_ok made
            rw [made] at asked
            cases asked
            exact ⟨by simpa using QueuePair.state_of_expect ready,
              ⟨⟨registration, known, place, rfl⟩, payload, fun read => if_pos read⟩, rfl, rfl, rfl⟩

end Station

/-- The messages that were written to the link of a connection. -/
def Connection.messages (connection : Connection) : List Bytes :=
  match connection.queuePair.bind QueuePair.link with
  | some stream => stream.sent
  | none => []

namespace Session

/-- Takes a send of `length` bytes on, between offsets of the two regions. -/
def ask (session : Session) (operation : SendOperation) (request : UInt64)
    (offset length peerOffset : Nat) : Except EndpointError Post × Session :=
  match session.connection.checkPostable (postName operation) with
  | .error e => (.error e, session)
  | .ok () =>
    match session.sendRequest operation (postName operation) request offset length peerOffset with
    | .error e => (.error e, session)
    | .ok send =>
      match session.station? with
      | none => (.error (.alreadyClosed session.connection.id), session)
      | some station =>
        match session.device.refusal .sending with
        | some e =>
          let (error, session) := session.postFailed e
          (.error error, session)
        | none =>
          match station.ask session.device.registrations send with
          | (.ok post, station) => (.ok post, session.withStation station)
          | (.error e, station) =>
            let (error, session) := (session.withStation station).postFailed e
            (.error error, session)

/-- The frame of a send that was taken on goes to the link; what came of it is noted. -/
def launch (session : Session) (post : Post) : Mark × Session :=
  match session.station? with
  | none => (.refused post.sequence, session)
  | some station =>
    (station.launched post.frame post.sequence,
      session.withStation (station.launch post.frame post.sequence))

/-- The frames that are taken when bytes arrive on the link. -/
def heard (session : Session) (bytes : Bytes) (ended : Bool) : List Frame :=
  match session.station? with
  | none => []
  | some station =>
    (station.withLink (station.queuePair.link.map fun stream =>
      let stream := stream.arrive bytes
      if ended then stream.finish else stream)).framesWaiting session.device.registrations

variable {s t : Session} {here : Station} {operation : SendOperation} {request : UInt64}
  {offset length peerOffset : Nat} {post : Post}

theorem post_eq_ask (s : Session) (operation : SendOperation) (request : UInt64)
    (offset length peerOffset : Nat) :
    s.post operation request offset length peerOffset =
      match s.ask operation request offset length peerOffset with
      | (.error e, t) => (.error e, t)
      | (.ok post, t) => (.ok (), (t.launch post).2) := by
  unfold Session.post ask
  rcases s.connection.checkPostable (postName operation) with e | _
  · rfl
  rcases s.sendRequest operation (postName operation) request offset length peerOffset with e | send
  · rfl
  dsimp only
  cases present : s.station? with
  | none => rfl
  | some station =>
    rcases s.device.refusal .sending with _ | e
    · dsimp only
      rw [station.postSend_eq_ask]
      rcases station.ask s.device.registrations send with ⟨e | post, after⟩ <;> rfl
    · rfl

/-- Two states of a session with the same connection, on whose link the same was written. -/
structure Along (s t : Session) : Prop where
  id : t.connection.id = s.connection.id
  transport : t.connection.transport = s.connection.transport
  messages : t.connection.messages = s.connection.messages

theorem Along.refl (s : Session) : Along s s := ⟨rfl, rfl, rfl⟩

theorem messages_of_present (present : s.station? = some here) :
    s.connection.messages = here.messages := by
  obtain ⟨q, hq, rfl⟩ := Option.map_eq_some_iff.mp present
  unfold Connection.messages
  rw [hq]
  rfl

theorem along_withStation (present : s.station? = some here) {there : Station}
    (same : there.queuePair.link = here.queuePair.link) : Along s (s.withStation there) := by
  refine ⟨rfl, rfl, ?_⟩
  rw [messages_of_present present]
  show Station.messages there = _
  unfold Station.messages
  rw [same]

theorem along_postFailed (s : Session) (cause : DeviceError) : Along s (s.postFailed cause).2 := by
  unfold postFailed
  split
  · split <;> exact ⟨rfl, rfl, rfl⟩
  · exact .refl s

/-- A send that is taken on or refused is not written yet. -/
theorem along_ask (s : Session) (operation : SendOperation) (request : UInt64)
    (offset length peerOffset : Nat) :
    Along s (s.ask operation request offset length peerOffset).2 := by
  unfold ask
  rcases s.connection.checkPostable (postName operation) with e | _
  · exact .refl s
  rcases s.sendRequest operation (postName operation) request offset length peerOffset with e | send
  · exact .refl s
  cases present : s.station? with
  | none => exact .refl s
  | some station =>
    rcases s.device.refusal .sending with _ | e
    · have along := along_withStation present (station.link_ask s.device.registrations send)
      dsimp only
      generalize station.ask s.device.registrations send = asked at along ⊢
      obtain ⟨e | post, after⟩ := asked
      · obtain ⟨id, transport, messages⟩ := (s.withStation after).along_postFailed e
        exact ⟨id, transport, messages.trans along.messages⟩
      · exact along
    · exact s.along_postFailed e

theorem same_launch (s : Session) (post : Post) :
    (s.launch post).2.connection.id = s.connection.id ∧
      (s.launch post).2.connection.transport = s.connection.transport := by
  unfold launch
  split <;> exact ⟨rfl, rfl⟩

/-- What is taken on asks for the range at the peer that was meant, and a write carries the bytes
of the own range. -/
theorem ask_eq_ok {registration : Registration} {peer : Record}
    (held : s.connection.registration = some registration)
    (known : s.device.registrations.byLocalKey? registration.localKey = some registration)
    (placed : registration.Placed) (short : registration.length < 2 ^ 32)
    (met : s.connection.peerRecord = some peer) (present : s.station? = some here)
    (asked : s.ask operation request offset length peerOffset = (.ok post, t)) :
    here.queuePair.state = .readyToSend ∧ length < 2 ^ 32 ∧
      post.sequence = here.queuePair.nextSequence ∧
      post.send = .between registration peer.region operation request offset length peerOffset ∧
      (operation ≠ .read →
        here.memory.read registration.region offset length = .ok post.payload) ∧
      t = s.withStation (here.withPosted post.pending) := by
  unfold ask at asked
  split at asked
  · cases asked
  · split at asked
    · cases asked
    · next send checked =>
      obtain ⟨⟨inside, -, -⟩, rfl⟩ := (sendRequest_eq_ok held met short).mp checked
      rw [present] at asked
      dsimp only at asked
      split at asked
      · cases asked
      · split at asked
        · next after taken =>
          cases asked
          obtain ⟨ready, captured, sent, sequence, rfl⟩ := Station.ask_eq_ok taken
          obtain ⟨other, found, place, same⟩ := captured.range
          have small : length < 2 ^ 32 := by omega
          have whole : post.send.length.toNat = length := by
            rw [sent]
            exact SendRequest.length_between small
          obtain rfl : registration = other := by
            rw [sent] at found
            exact Option.some.inj (known.symm.trans found)
          have start : offset = post.offset := by
            rw [sent] at place
            have meant : registration.offsetOf? (SendRequest.between registration peer.region
                operation request offset length peerOffset).localAddress _ = some offset :=
              SendRequest.offset_between placed small inside
            exact Option.some.inj (meant.symm.trans place)
          refine ⟨ready, small, sequence, sent, fun write => ?_, rfl⟩
          have payload := captured.payload (by rw [sent]; exact write)
          rw [whole, ← same, ← start] at payload
          exact payload
        · cases asked

/-- What arrives is heard. -/
theorem deliver_heeds (present : s.station? = some here) (only : here.WritesOnly) (bytes : Bytes)
    (ended : Bool) (quiet : ∀ frame ∈ s.heard bytes ended, frame.isRequest = false) :
    ∃ there, s.deliver bytes ended = s.withStation there ∧
      here.Heeds (s.heard bytes ended) there := by
  unfold heard at quiet ⊢
  rw [present] at quiet ⊢
  obtain ⟨q, hq, rfl⟩ := Option.map_eq_some_iff.mp present
  dsimp only at quiet ⊢
  generalize hlink : Option.map _ q.link = link at quiet ⊢
  have sent : link.map Stream.sent = q.link.map Stream.sent := by
    rw [← hlink, Option.map_map]
    congr 1
    funext stream
    show Stream.sent (if ended then _ else _) = stream.sent
    split <;> rfl
  have arrived : Station.Heed ⟨q, s.connection.completions, s.memory⟩ []
      (Station.withLink ⟨q, s.connection.completions, s.memory⟩ link) :=
    .more link q.intake sent (fun deaf => deaf) only.sound
  refine ⟨_, ?_, arrived.heeds.trans
    (Station.heeds_settle s.device.registrations (arrived.writesOnly only) quiet)⟩
  unfold deliver
  rw [hq]
  dsimp only
  rw [hlink]
  rfl

end Session

end RdmaLink
