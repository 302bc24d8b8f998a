import RdmaLink.QueuePair.Basic

/-!
# Linking two queue pairs

A queue pair is initialized, linked to its peer, made ready to send and at last destroyed.  Of
two queue pairs the one whose triple comes first dials, the other waits to be dialed; an attached
stream takes the place of both.  Over the link each side greets the other by both numbers.
-/

namespace RdmaLink

/-- What a queue pair does to get a link to a peer. -/
inductive LinkRole where
  | dials
  | waits
  /-- The peer has the queue pair's own triple. -/
  | meetsItself
deriving DecidableEq, Repr, Inhabited

/-- Who of two queue pairs dials. -/
def QueuePairAddress.roleTowards (own peer : QueuePairAddress) : LinkRole :=
  if own.sameTriple peer then .meetsItself
  else if own.precedes peer then .dials
  else .waits

/-- What the network does while a link is set up. -/
structure LinkConditions where
  /-- What comes of dialing an address. -/
  dial : SocketAddress → Except IoError Stream
  /-- The stream of the peer that dials the queue pair's port in time. -/
  caller : Option Stream
  /-- How many nanoseconds the clock has run. -/
  uptime : Nat

/-- Dials an address; within no time nobody is dialed. -/
def LinkConditions.dialWithin (conditions : LinkConditions) (span : Milliseconds)
    (address : SocketAddress) : Except IoError Stream :=
  if span.count = 0 then .error .zeroLimit else conditions.dial address

namespace QueuePair

/-- Gives a fresh queue pair its rights. -/
def toInit (queuePair : QueuePair) (access : Access) : Except DeviceError QueuePair :=
  (queuePair.expect [.reset] "RESET").map fun _ =>
    { queuePair with access := access, state := .init }

/-- Lets a stream carry the data path. -/
def attach (queuePair : QueuePair) (stream : Stream) : Except DeviceError QueuePair :=
  (queuePair.expect [.reset, .init] "RESET or INIT").map fun _ =>
    { queuePair with attached := some stream }

/-- The stream that is to become the link. -/
def establish (queuePair : QueuePair) (peer : QueuePairAddress) (ip : IpAddress)
    (conditions : LinkConditions) : Except DeviceError Stream :=
  match queuePair.attached with
  | some stream => .ok stream
  | none =>
    match queuePair.address.roleTowards peer with
    | .meetsItself => .error (.peer .ownQueuePair)
    | .dials =>
      let address := SocketAddress.ofIp ip peer.lid
      (conditions.dialWithin queuePair.linkTimeout address).mapError fun e =>
        .link (.dial address e)
    | .waits =>
      if queuePair.linkTimeout.outlasts conditions.uptime then .error .noDeadline
      else
        match conditions.caller with
        | some stream => .ok stream
        | none => .error (.link (.notDialed queuePair.linkTimeout))

/-- Greets the peer and checks its greeting. -/
def greet (queuePair : QueuePair) (peer : QueuePairAddress) (stream : Stream) :
    Except DeviceError Unit × Stream :=
  let own := queuePair.address.number
  match stream.configure queuePair.linkTimeout with
  | .error e => (.error (.io e), stream)
  | .ok () =>
    match stream.send (Header.hello own peer.number).toBytes with
    | (.error e, tried) => (.error (.link (.greeting e)), tried)
    | (.ok (), sent) =>
      match sent.readHeader with
      | .error e => (.error (.link (.greeting e)), sent)
      | .ok (hello, rest) =>
        if hello.opcode ≠ Opcode.hello then
          (.error (.peer (.noGreeting hello.opcode)), rest)
        else if hello.sequence ≠ peer.number.toUInt64 ∨ hello.immediate ≠ own then
          (.error (.peer (.otherQueuePairs hello.sequence hello.immediate peer.number own)), rest)
        else (.ok (), rest)

/-- The outcome of an attempt to link: the result, the queue pair, and the stream as the attempt
left it, if there was one. -/
structure LinkAttempt where
  result : Except DeviceError Unit
  queuePair : QueuePair
  stream : Option Stream

/-- Links the queue pair to a peer; an attempt that fails leaves it in the error state.  One that
does not return changes nothing. -/
def toReadyToReceive (queuePair : QueuePair) (peer : QueuePairAddress) (ip : IpAddress)
    (conditions : LinkConditions) : LinkAttempt :=
  match queuePair.expect [.init] "INIT" with
  | .error e => ⟨.error e, queuePair, none⟩
  | .ok () =>
    let detached := { queuePair with attached := none }
    match queuePair.establish peer ip conditions with
    | .error .noDeadline => ⟨.error .noDeadline, queuePair, none⟩
    | .error e => ⟨.error e, { detached with state := .error }, none⟩
    | .ok stream =>
      match queuePair.greet peer stream with
      | (.error e, greeted) => ⟨.error e, { detached with state := .error }, some greeted⟩
      | (.ok (), greeted) =>
        ⟨.ok (), { detached with state := .readyToReceive, link := some greeted }, some greeted⟩

/-- Starts to receive.  The state is still the old one. -/
def startReceiving (queuePair : QueuePair) : Except DeviceError QueuePair :=
  match queuePair.expect [.readyToReceive] "RTR" with
  | .error e => .error e
  | .ok () =>
    match queuePair.link with
    | none => .error (.link .notEstablished)
    | some _ => .ok { queuePair with intake := some (.header []) }

/-- Lets sends be posted, whatever the state has become meanwhile. -/
def setReady (queuePair : QueuePair) : QueuePair := { queuePair with state := .readyToSend }

/-- Starts to receive and lets sends be posted. -/
def toReadyToSend (queuePair : QueuePair) : Except DeviceError QueuePair :=
  queuePair.startReceiving.map setReady

/-- Shuts the link down, whoever uses it. -/
def close (queuePair : QueuePair) : QueuePair :=
  { queuePair with
    attached := none
    link := queuePair.link.map Stream.shutdown
    destroyed := true }

/-- What is left when nothing is received any more. -/
def retire (queuePair : QueuePair) : QueuePair :=
  { queuePair with state := .error, intake := none }

/-- Stops everything; the second time nothing happens. -/
def destroy (queuePair : QueuePair) : QueuePair :=
  if queuePair.destroyed then queuePair else queuePair.close.retire

/-! ## Lemmas -/

section SetUp

variable {q after : QueuePair}

theorem toInit_eq_ok {access : Access} (h : q.toInit access = .ok after) :
    q.state = .reset ∧ after = { q with access := access, state := .init } := by
  unfold toInit at h
  cases early : q.expect [.reset] "RESET" with
  | error e => rw [early] at h; cases h
  | ok _ => rw [early] at h; cases h; exact ⟨by simpa using state_of_expect early, rfl⟩

theorem attach_eq_ok {stream : Stream} (h : q.attach stream = .ok after) :
    (q.state = .reset ∨ q.state = .init) ∧ after = { q with attached := some stream } := by
  unfold attach at h
  cases early : q.expect [.reset, .init] "RESET or INIT" with
  | error e => rw [early] at h; cases h
  | ok _ => rw [early] at h; cases h; exact ⟨by simpa using state_of_expect early, rfl⟩

/-- An attempt to link is not made; or it fails; or the queue pair has a link. -/
theorem toReadyToReceive_cases (q : QueuePair) (peer : QueuePairAddress) (ip : IpAddress)
    (conditions : LinkConditions) :
    (∃ e, (e = .noDeadline ∨ q.state ≠ .init) ∧
      q.toReadyToReceive peer ip conditions = ⟨.error e, q, none⟩) ∨
    q.state = .init ∧
      ((∃ e tried, q.toReadyToReceive peer ip conditions =
        ⟨.error e, { q with attached := none, state := .error }, tried⟩) ∨
      ∃ link, q.toReadyToReceive peer ip conditions =
        ⟨.ok (), { q with attached := none, state := .readyToReceive, link := some link },
          some link⟩) := by
  unfold toReadyToReceive
  cases early : q.expect [.init] "INIT" with
  | error e =>
    refine Or.inl ⟨e, Or.inr fun init => ?_, rfl⟩
    rw [expect, init] at early
    cases early
  | ok _ =>
    have init : q.state = .init := by simpa using state_of_expect early
    dsimp only
    split
    · exact Or.inl ⟨_, Or.inl rfl, rfl⟩
    · exact Or.inr ⟨init, Or.inl ⟨_, _, rfl⟩⟩
    · split
      · exact Or.inr ⟨init, Or.inl ⟨_, _, rfl⟩⟩
      · exact Or.inr ⟨init, Or.inr ⟨_, rfl⟩⟩

theorem toReadyToReceive_eq_ok {peer : QueuePairAddress} {ip : IpAddress}
    {conditions : LinkConditions} (h : (q.toReadyToReceive peer ip conditions).result = .ok ()) :
    ∃ link, q.toReadyToReceive peer ip conditions =
      ⟨.ok (), { q with attached := none, state := .readyToReceive, link := some link },
        some link⟩ := by
  rcases q.toReadyToReceive_cases peer ip conditions with
    ⟨e, -, refused⟩ | ⟨-, ⟨e, tried, failed⟩ | linked⟩
  · rw [refused] at h; cases h
  · rw [failed] at h; cases h
  · exact linked

theorem startReceiving_eq_ok (h : q.startReceiving = .ok after) :
    q.state = .readyToReceive ∧ q.link.isSome = true ∧
      after = { q with intake := some (.header []) } := by
  unfold startReceiving at h
  split at h
  · cases h
  · next late =>
    split at h
    · cases h
    · next link =>
      cases h
      exact ⟨by simpa using state_of_expect late, by rw [link]; rfl, rfl⟩

theorem toReadyToSend_eq_ok (h : q.toReadyToSend = .ok after) :
    q.state = .readyToReceive ∧ q.link.isSome = true ∧
      after = { q with state := .readyToSend, intake := some (.header []) } := by
  unfold toReadyToSend at h
  cases started : q.startReceiving with
  | error e => rw [started] at h; cases h
  | ok receiving =>
    rw [started] at h
    cases h
    obtain ⟨late, linked, rfl⟩ := startReceiving_eq_ok started
    exact ⟨late, linked, rfl⟩

end SetUp

end QueuePair

end RdmaLink
