import RdmaLink.Proofs.QueuePair.Exchange

/-!
# Two queue pairs and the bytes between them

Each of two queue pairs writes to a stream of bytes that the other takes one byte at a time.  In
any order either of them posts, takes the next byte, polls, lets its process store bytes in its
regions, or sees its stream end.  The registrations of both stay as they are.

A chronicle tells what was done in the order in which it was done (`Deed`).  Each deed is read off
the states before and after a turn: what a post took on, what became of a request that arrived in
full, which data was fetched, and which completions an answer gave rise to.
-/

namespace RdmaLink

/-- One of the two. -/
inductive Side where
  | left
  | right
deriving DecidableEq, Repr, Inhabited

namespace Side

def other : Side → Side
  | .left => .right
  | .right => .left

@[simp] theorem other_other (side : Side) : side.other.other = side := by
  cases side <;> rfl

@[simp] theorem other_ne (side : Side) : side.other ≠ side := by
  cases side <;> decide

theorem forall_iff {P : Side → Prop} (side : Side) :
    (∀ s, P s) ↔ P side ∧ P side.other := by
  constructor
  · exact fun h => ⟨h side, h side.other⟩
  · rintro ⟨h, h'⟩ s
    cases s <;> cases side <;> assumption

end Side

/-- A send that was taken on: its number, its local range, and the bytes that a write carries. -/
structure Post where
  sequence : Nat
  send : SendRequest
  region : RegionId
  offset : Nat
  payload : Bytes
deriving DecidableEq, Repr, Inhabited

namespace Post

/-- The frame of a post. -/
def frame (post : Post) : Frame :=
  match post.send.operation with
  | .read =>
    ⟨Header.readRequest (UInt64.ofNat post.sequence) post.send.remoteAddress post.send.remoteKey
      post.send.length, []⟩
  | operation =>
    ⟨Header.write (UInt64.ofNat post.sequence) post.send.remoteAddress post.send.remoteKey
      post.send.length operation.immediate?, post.payload⟩

/-- What is kept of a post until it completes. -/
def pending (post : Post) : PendingSend :=
  { request := post.send.request
    operation := post.send.operation.operation
    length := post.send.length
    sink := if post.send.operation = .read then some (post.region, post.offset) else none }

end Post

namespace Station

/-- The post that a send request makes of a local range. -/
def post (station : Station) (send : SendRequest) (region : RegionId) (offset : Nat) : Post :=
  { sequence := station.queuePair.nextSequence
    send := send
    region := region
    offset := offset
    payload :=
      if send.operation = .read then []
      else (station.memory.read region offset send.length.toNat).toOption.getD [] }

/-- The post that a send request makes, if it is taken on. -/
def post? (registrations : Registrations) (station : Station) (send : SendRequest) :
    Option Post :=
  match (station.postSend registrations send).1 with
  | .error _ => none
  | .ok () =>
    (registrations.byLocalKey? send.localKey).bind fun registration =>
      (registration.offsetOf? send.localAddress send.length.toNat).map
        (station.post send registration.region)

end Station

/-- Something that was done. -/
inductive Deed where
  | posted (side : Side) (post : Post)
  /-- A request of the other side has arrived in full. -/
  | handled (side : Side) (request : Frame) (outcome : Outcome)
  /-- The data of an answered read went into its sink. -/
  | fetched (side : Side) (sequence : Nat) (region : RegionId) (offset : Nat) (data : Bytes)
  /-- The process stored bytes of its own. -/
  | stored (side : Side) (region : RegionId) (offset : Nat) (data : Bytes)
  /-- An answer with a number completed a send. -/
  | completed (side : Side) (sequence : Nat) (completion : Completion)
deriving DecidableEq, Repr

namespace Deed

/-- What a deed does to the memory of a side. -/
def onto (side : Side) (memory : Memory) : Deed → Memory
  | .handled s request (.applied region offset) =>
    if s = side then memory.stored (some (region, offset)) request.payload else memory
  | .fetched s _ region offset data =>
    if s = side then memory.stored (some (region, offset)) data else memory
  | .stored s region offset data =>
    if s = side then memory.stored (some (region, offset)) data else memory
  | _ => memory

def post? (side : Side) : Deed → Option Post
  | .posted s post => if s = side then some post else none
  | _ => none

def handled? (side : Side) : Deed → Option (Frame × Outcome)
  | .handled s request outcome => if s = side then some (request, outcome) else none
  | _ => none

end Deed

/-- What one side has posted, in order. -/
def posts (side : Side) (deeds : List Deed) : List Post := deeds.filterMap (Deed.post? side)

/-- The requests that one side has handled, in order, with what became of them. -/
def handled (side : Side) (deeds : List Deed) : List (Frame × Outcome) :=
  deeds.filterMap (Deed.handled? side)

/-- The memory of a side after deeds. -/
def replay (side : Side) (memory : Memory) (deeds : List Deed) : Memory :=
  deeds.foldl (Deed.onto side) memory

theorem posts_append (side : Side) (a b : List Deed) :
    posts side (a ++ b) = posts side a ++ posts side b := List.filterMap_append

theorem handled_append (side : Side) (a b : List Deed) :
    handled side (a ++ b) = handled side a ++ handled side b := List.filterMap_append

theorem replay_append (side : Side) (memory : Memory) (a b : List Deed) :
    replay side memory (a ++ b) = replay side (replay side memory a) b := List.foldl_append

/-- A queue pair with its registrations, and how many bytes of the other's stream it has taken. -/
structure Peer where
  station : Station
  table : Registrations
  taken : Nat

/-- Two queue pairs. -/
structure Peers where
  left : Peer
  right : Peer

/-- The peer on a side. -/
def Peers.peer (peers : Peers) : Side → Peer
  | .left => peers.left
  | .right => peers.right

instance : CoeFun Peers fun _ => Side → Peer := ⟨Peers.peer⟩

/-- One of the two takes a turn. -/
inductive Turn where
  | postSend (side : Side) (send : SendRequest)
  | postReceive (side : Side) (request : UInt64)
  /-- The side takes the next byte off its stream. -/
  | deliver (side : Side)
  /-- The process of the side stores bytes. -/
  | store (side : Side) (region : RegionId) (offset : Nat) (data : Bytes)
  | poll (side : Side) (most : Nat)
  /-- The stream that the side takes bytes off has ended. -/
  | hangUp (side : Side)
deriving DecidableEq, Repr

namespace Peers

/-- The two with another peer on one side. -/
def set (peers : Peers) (side : Side) (peer : Peer) : Peers :=
  match side with
  | .left => { peers with left := peer }
  | .right => { peers with right := peer }

@[simp] theorem set_self (peers : Peers) (side : Side) (peer : Peer) :
    peers.set side peer side = peer := by
  cases side <;> rfl

@[simp] theorem set_other (peers : Peers) (side : Side) (peer : Peer) :
    peers.set side peer side.other = peers side.other := by
  cases side <;> rfl

/-- What holds of a new peer on one side, and of the other as it was, holds of both. -/
theorem set_cases {motive : Side → Peer → Prop} {peers : Peers} {side : Side} {peer : Peer}
    (own : motive side peer) (other : motive side.other (peers side.other)) (s : Side) :
    motive s (peers.set side peer s) := by
  revert s
  refine (Side.forall_iff side).mpr ⟨?_, ?_⟩
  · rw [set_self]
    exact own
  · rw [set_other]
    exact other

/-- The bytes on their way to a side. -/
def flight (peers : Peers) (side : Side) : Bytes :=
  (peers side.other).station.outgoing.drop (peers side).taken

/-- The two with another station on one side. -/
def withStation (peers : Peers) (side : Side) (station : Station) : Peers :=
  peers.set side { peers side with station := station }

def step (peers : Peers) : Turn → Peers
  | .postSend side send =>
    peers.withStation side ((peers side).station.postSend (peers side).table send).2
  | .postReceive side request =>
    peers.withStation side ((peers side).station.postReceive request).2
  | .deliver side =>
    match peers.flight side with
    | [] => peers
    | byte :: _ =>
      let peer := peers side
      peers.set side
        { peer with station := peer.station.feed peer.table byte, taken := peer.taken + 1 }
  | .store side region offset data =>
    let station := (peers side).station
    peers.withStation side
      { station with memory := station.memory.stored (some (region, offset)) data }
  | .poll side most =>
    let station := (peers side).station
    peers.withStation side { station with completions := (station.completions.poll most).2 }
  | .hangUp side => peers.withStation side (peers side).station.endOfStream

def run (peers : Peers) (turns : List Turn) : Peers := turns.foldl step peers

/-- The data that an answer brings goes into its sink. -/
def fetching (side : Side) (before : Station) (arrival : Arrival) : List Deed :=
  match before.place? arrival with
  | some (region, offset) =>
    [.fetched side arrival.header.sequence.toNat region offset arrival.payload]
  | none => []

/-- What a side does when a frame has arrived in full. -/
def taking (side : Side) (registrations : Registrations) (before after : Station)
    (arrival : Arrival) : List Deed :=
  if arrival.frame.isRequest then
    [.handled side arrival.frame (before.outcome registrations arrival)]
  else
    fetching side before arrival ++
      (after.completions.toList.drop before.completions.toList.length).map
        (.completed side arrival.header.sequence.toNat)

/-- What is done in a turn. -/
def deeds (peers : Peers) : Turn → List Deed
  | .postSend side send =>
    ((peers side).station.post? (peers side).table send).toList.map (.posted side)
  | .deliver side =>
    match peers.flight side with
    | [] => []
    | byte :: _ =>
      let station := (peers side).station
      let table := (peers side).table
      match station.arrival? table byte with
      | none => []
      | some arrival => taking side table station (station.feed table byte) arrival
  | .store side region offset data => [.stored side region offset data]
  | _ => []

/-- What is done in turns, in order. -/
def chronicle (peers : Peers) : List Turn → List Deed
  | [] => []
  | turn :: later => peers.deeds turn ++ chronicle (peers.step turn) later

theorem run_concat (peers : Peers) (turns : List Turn) (turn : Turn) :
    peers.run (turns ++ [turn]) = (peers.run turns).step turn := by
  simp [run]

end Peers

end RdmaLink
