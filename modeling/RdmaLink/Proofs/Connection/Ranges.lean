import RdmaLink.Proofs.Connection.Runs
import RdmaLink.Proofs.Device.Keys
import RdmaLink.Proofs.Rendezvous.RemoteAddresses

/-!
# The ranges of a post

A post names a range of the own region and a range of the peer's by their offsets.  Both are
checked, and then they are written as addresses: the own one for the own device, which takes it
back to an offset, and the peer's for the peer's device, which does the same.

    s.sendRequest operation name request offset length peerOffset =
      .ok (.between registration peer.region operation request offset length peerOffset)
                       if offset + length ≤ registration.length
                         and peerOffset + length ≤ peer.region.length
                         and peer.region.address + peerOffset < 2 ^ 64
                                                                     (Session.sendRequest_eq)

On both ways the offset comes out that was put in (`SendRequest.offset_between`,
`SendRequest.target_between`).
-/

namespace RdmaLink

/-- The record of a connection tells of its registration. -/
theorem Connection.region_of_record {connection : Connection} {registration : Registration}
    {record : Record} (held : connection.registration = some registration)
    (recorded : connection.record = .ok record) : record.region = registration.told := by
  unfold Connection.record at recorded
  rw [held] at recorded
  split at recorded
  · next same =>
    cases same
    cases recorded
    rfl
  · cases recorded

namespace SendRequest

/-- The send request between ranges of a registered region and of a peer's region. -/
def between (registration : Registration) (peer : RemoteRegion) (operation : SendOperation)
    (request : UInt64) (offset length peerOffset : Nat) : SendRequest :=
  { request := request
    operation := operation
    localAddress := registration.address + UInt64.ofNat offset
    localKey := registration.localKey
    length := UInt32.ofNat length
    remoteAddress := peer.address + UInt64.ofNat peerOffset
    remoteKey := peer.key }

/-- The frame of a send, and what is kept of it: the frame asks for the range at the peer; a write
carries the bytes of the own range, and for a read that is where the answer goes. -/
structure Framed (send : SendRequest) (own : Region) (id : RegionId) (offset : Nat) (frame : Frame)
    (pending : PendingSend) : Prop where
  key : frame.header.key = send.remoteKey
  address : frame.header.address = send.remoteAddress
  length : frame.header.length = send.length
  payload : send.operation ≠ .read → frame.payload = own.slice offset send.length.toNat
  sink : send.operation = .read → pending.sink = some (id, offset)

variable {registration : Registration} {peer : RemoteRegion} {operation : SendOperation}
  {request : UInt64} {offset length peerOffset : Nat}

theorem length_between (short : length < 2 ^ 32) :
    (between registration peer operation request offset length peerOffset).length.toNat = length :=
  UInt32.toNat_ofNat_of_lt' (by rw [UInt32.size]; exact short)

/-- The own device finds the offset that was meant. -/
theorem offset_between (placed : registration.Placed) (short : length < 2 ^ 32)
    (inside : offset + length ≤ registration.length) :
    let send := between registration peer operation request offset length peerOffset
    registration.offsetOf? send.localAddress send.length.toNat = some offset := by
  intro send
  rw [length_between short]
  exact Registration.offsetOf?_address placed inside

/-- The peer's device finds the offset that was meant, as long as it has the registration of which
it was told. -/
theorem target_between {theirs : Registrations} (keyed : theirs.Keyed) {other : Registration}
    (listed : other ∈ theirs.entries) (told : peer = other.told) (short : length < 2 ^ 32)
    (inside : peerOffset + length ≤ peer.length.toNat) {needed : Access}
    (grants : other.access.includes needed = true) :
    let send := between registration peer operation request offset length peerOffset
    theirs.target? send.remoteKey send.remoteAddress send.length needed =
      some (other.region, peerOffset) := by
  intro send
  subst told
  rw [(keyed.placed other listed).length_told] at inside
  exact keyed.target? listed grants (by rw [length_between short]; exact inside)

end SendRequest

namespace Station

variable {s : Station} {send : SendRequest} {registrations : Registrations}
  {registration : Registration} {own : Region} {id : RegionId} {offset : Nat} {frame : Frame}
  {pending : PendingSend}

/-- A range inside a region makes a frame. -/
theorem sendFrame_of_room (known : s.memory.region? id = some own)
    (room : offset + send.length.toNat ≤ own.size) :
    ∃ frame pending, s.sendFrame send id offset = .ok (frame, pending) ∧
      send.Framed own id offset frame pending := by
  have payload := Memory.read_of_room known room
  unfold sendFrame
  dsimp only
  split
  · next read =>
    exact ⟨_, _, rfl, rfl, rfl, rfl, fun other => absurd read other, fun _ => rfl⟩
  · next other =>
    rw [payload]
    exact ⟨_, _, rfl, rfl, rfl, rfl, fun _ => rfl, fun read => absurd read other⟩

/-- A queue pair that can send, with room for one more completion, takes on a send whose key is
known and whose ranges are in order. -/
theorem postSend_eq_ok (ready : s.queuePair.state = .readyToSend)
    (room : s.load < s.completions.depth)
    (known : registrations.byLocalKey? send.localKey = some registration)
    (place : registration.offsetOf? send.localAddress send.length.toNat = some offset)
    (framed : s.sendFrame send registration.region offset = .ok (frame, pending)) :
    s.postSend registrations send =
      (.ok (), (s.withPosted pending).launch frame s.queuePair.nextSequence) := by
  have expected : s.queuePair.expect [.readyToSend] "RTS" = .ok () :=
    if_pos (by rw [ready]; exact List.mem_singleton_self _)
  have free : s.checkRoom = .ok () := if_neg (Nat.not_le_of_lt room)
  rw [postSend_eq, expected, free, prepare_eq_ok known place framed]
  rfl

end Station

namespace Session

variable {s : Session} {registration : Registration} {peer : Record}

/-- The checks of a post are that each range is inside its region; the length never is too long for
a frame, but the address at the peer may be no word. -/
theorem sendRequest_eq (held : s.connection.registration = some registration)
    (met : s.connection.peerRecord = some peer) (short : registration.length < 2 ^ 32)
    (operation : SendOperation) (name : String) (request : UInt64)
    (offset length peerOffset : Nat) :
    s.sendRequest operation name request offset length peerOffset =
      if offset + length ≤ registration.length then
        if peerOffset + length ≤ peer.region.length.toNat then
          if peer.region.address.toNat + peerOffset < 2 ^ 64 then
            .ok (.between registration peer.region operation request offset length peerOffset)
          else .error .overflow
        else .error (.outOfBounds ⟨peerOffset, length, peer.region.length.toNat⟩)
      else .error (.outOfBounds ⟨offset, length, registration.length⟩) := by
  unfold sendRequest
  rw [held, met]
  dsimp only
  rw [RemoteRegion.addressOf_eq]
  by_cases inside : offset + length ≤ registration.length
  · rw [if_neg (Nat.not_lt_of_le inside), if_pos inside]
    by_cases there : peerOffset + length ≤ peer.region.length.toNat
    · rw [if_pos there, if_pos there]
      by_cases fits : peer.region.address.toNat + peerOffset < 2 ^ 64
      · rw [if_pos fits, if_pos fits]
        dsimp only
        rw [if_neg (by omega)]
        rfl
      · rw [if_neg fits, if_neg fits]
        rfl
    · rw [if_neg there, if_neg there]
      rfl
  · rw [if_pos (by omega), if_neg inside]

/-- What passes the checks is the request between the two ranges: they are inside, and the one at
the peer has an address. -/
theorem sendRequest_eq_ok (held : s.connection.registration = some registration)
    (met : s.connection.peerRecord = some peer) (short : registration.length < 2 ^ 32)
    {operation : SendOperation} {name : String} {request : UInt64}
    {offset length peerOffset : Nat} {send : SendRequest} :
    s.sendRequest operation name request offset length peerOffset = .ok send ↔
      (offset + length ≤ registration.length ∧ peerOffset + length ≤ peer.region.length.toNat ∧
        peer.region.address.toNat + peerOffset < 2 ^ 64) ∧
      send = .between registration peer.region operation request offset length peerOffset := by
  rw [sendRequest_eq held met short]
  constructor
  · intro passed
    split at passed
    · next inside =>
      split at passed
      · next there =>
        split at passed
        · next fits =>
          cases passed
          exact ⟨⟨inside, there, fits⟩, rfl⟩
        · cases passed
      · cases passed
    · cases passed
  · rintro ⟨⟨inside, there, fits⟩, rfl⟩
    rw [if_pos inside, if_pos there, if_pos fits]

/-- A post that fails its checks changes nothing. -/
theorem post_of_error (able : s.connection.state.canPost = true) {operation : SendOperation}
    {request : UInt64} {offset length peerOffset : Nat} {fault : EndpointError}
    (refused : s.sendRequest operation (postName operation) request offset length peerOffset =
      .error fault) :
    s.post operation request offset length peerOffset = (.error fault, s) := by
  unfold post
  rw [check_of_postable able]
  dsimp only
  rw [refused]

/-- A post that passes its checks is taken on if its queue pair takes it on. -/
theorem post_eq_ok (able : s.connection.state.canPost = true) {operation : SendOperation}
    {request : UInt64} {offset length peerOffset : Nat} {send : SendRequest}
    {station after : Station}
    (checked : s.sendRequest operation (postName operation) request offset length peerOffset =
      .ok send)
    (present : s.station? = some station) (willing : s.device.refusal .sending = none)
    (posted : station.postSend s.device.registrations send = (.ok (), after)) :
    s.post operation request offset length peerOffset = (.ok (), s.withStation after) := by
  unfold post
  rw [check_of_postable able]
  dsimp only
  rw [checked]
  dsimp only
  rw [present]
  dsimp only
  rw [willing]
  dsimp only
  rw [posted]

end Session

end RdmaLink
