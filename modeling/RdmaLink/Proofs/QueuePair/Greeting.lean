import Mathlib.Data.Prod.Lex
import RdmaLink.Proofs.QueuePair.Accounting

/-!
# How two queue pairs get a link

Two queue pairs that are told each other's addresses come to opposite decisions: the one whose
triple is less dials, the other waits, and two with one triple both refuse.  Over the link each
greets the other, and what it hears decides alone whether the link stands.

    a.triple < b.triple → a.Dials b, b.Waits a            (QueuePair.dials_of_lt, waits_of_gt)
    Greets stream.waiting peer own → q is ready to receive         (QueuePair.linked_of_greets)
    ¬ Greets stream.waiting peer own → q has failed            (QueuePair.broken_of_not_greets)

All this takes time.  A queue pair whose link timeout is zero can set no time limit on a stream, so
it gets no link, whatever it hears (`QueuePair.no_link_in_no_time`).
-/

namespace RdmaLink

/-! ## Who dials -/

namespace QueuePairAddress

/-- What orders two queue pairs: sequence number, then queue pair number, then local identifier. -/
def triple (address : QueuePairAddress) : ℕ ×ₗ ℕ ×ₗ ℕ :=
  toLex (address.psn.toNat, toLex (address.number.toNat, address.lid.toNat))

variable {a b : QueuePairAddress}

theorem sameTriple_iff : a.sameTriple b = true ↔ a.triple = b.triple := by
  simp [sameTriple, triple, UInt32.toNat_inj, UInt16.toNat_inj, and_assoc]

theorem precedes_iff : a.precedes b = true ↔ a.triple < b.triple := by
  simp [precedes, triple, Prod.Lex.toLex_lt_toLex, UInt32.lt_iff_toNat_lt, UInt16.lt_iff_toNat_lt,
    UInt32.toNat_inj]

theorem roleTowards_of_eq (same : a.triple = b.triple) : a.roleTowards b = .meetsItself :=
  if_pos (sameTriple_iff.mpr same)

theorem roleTowards_of_lt (first : a.triple < b.triple) : a.roleTowards b = .dials := by
  rw [roleTowards, if_neg fun same => first.ne (sameTriple_iff.mp same),
    if_pos (precedes_iff.mpr first)]

theorem roleTowards_of_gt (later : b.triple < a.triple) : a.roleTowards b = .waits := by
  rw [roleTowards, if_neg fun same => later.ne' (sameTriple_iff.mp same),
    if_neg fun first => (precedes_iff.mp first).asymm later]

end QueuePairAddress

/-! ## Greetings -/

namespace Stream

/-- The next message is taken. -/
def Takes (stream : Stream) : Prop :=
  stream.shut = false ∧ stream.refusals stream.attempts = none

theorem send_of_takes {stream : Stream} (takes : stream.Takes) (message : Bytes) :
    stream.send message = (.ok (), stream.wrote message) := by
  simp only [send, takes.1, takes.2, Bool.false_eq_true, if_false]

/-- The options of a stream can be set, time limits of a span among them. -/
structure Settable (stream : Stream) (span : Milliseconds) : Prop where
  timely : span.count ≠ 0
  options : ∀ option, stream.settings option = none

theorem set_eq_ok_iff {stream : Stream} {option : SocketOption} :
    stream.set option = .ok () ↔ stream.settings option = none := by
  unfold set
  cases stream.settings option <;> simp

theorem limit_eq_ok_iff {stream : Stream} {option : SocketOption} {span : Milliseconds} :
    stream.limit option span = .ok () ↔ span.count ≠ 0 ∧ stream.settings option = none := by
  unfold limit
  split
  · simp [*]
  · simp [set_eq_ok_iff, *]

theorem configure_eq_ok_iff {stream : Stream} {span : Milliseconds} :
    stream.configure span = .ok () ↔ stream.Settable span := by
  have all : stream.Settable span ↔ stream.set .noDelay = .ok () ∧
      stream.limit .readLimit span = .ok () ∧ stream.limit .writeLimit span = .ok () := by
    simp only [set_eq_ok_iff, limit_eq_ok_iff]
    refine ⟨fun h => ⟨h.options _, ⟨h.timely, h.options _⟩, h.timely, h.options _⟩,
      fun ⟨delay, ⟨timely, read⟩, _, write⟩ => ⟨timely, fun option => ?_⟩⟩
    cases option
    · exact delay
    · exact read
    · exact write
  rw [all]
  unfold configure
  cases stream.set .noDelay with
  | error e => simp
  | ok _ => cases stream.limit .readLimit span <;> simp

/-- A stream over which a queue pair can greet within a span. -/
structure Serves (stream : Stream) (span : Milliseconds) : Prop where
  settable : stream.Settable span
  takes : stream.Takes

end Stream

/-- Bytes begin with the greeting that a peer sends to a queue pair: a header of its kind with both
numbers, whatever the other fields are. -/
def Greets (bytes : Bytes) (peer own : UInt32) : Prop :=
  Header.size ≤ bytes.length ∧ ∃ hello, Header.ofBytes? (bytes.take Header.size) = some hello ∧
    hello.opcode = Opcode.hello ∧ hello.sequence = peer.toUInt64 ∧ hello.immediate = own

/-- The greeting that a queue pair writes is one. -/
theorem greets_of_begins {bytes : Bytes} {peer own : UInt32}
    (begins : (Header.hello peer own).toBytes <+: bytes) : Greets bytes peer own := by
  obtain ⟨rest, rfl⟩ := begins
  have front : ((Header.hello peer own).toBytes ++ rest).take Header.size =
      (Header.hello peer own).toBytes := List.take_left' (Header.length_toBytes _)
  refine ⟨by simp, Header.hello peer own, ?_, rfl, rfl, rfl⟩
  rw [front, Header.ofBytes?_toBytes]

namespace QueuePair

variable {q : QueuePair} {peer : QueuePairAddress} {ip : IpAddress} {conditions : LinkConditions}
  {stream : Stream}

/-- The greeting of a queue pair to a peer. -/
def greeting (q : QueuePair) (peer : QueuePairAddress) : Bytes :=
  (Header.hello q.address.number peer.number).toBytes

/-- A stream over which a queue pair has greeted and was greeted. -/
def greeted (q : QueuePair) (peer : QueuePairAddress) (stream : Stream) : Stream :=
  { stream.wrote (q.greeting peer) with waiting := stream.waiting.drop Header.size }

/-- Once the greeting is written, what has been read decides. -/
theorem greet_of_serves (serves : stream.Serves q.linkTimeout) :
    q.greet peer stream =
      match (stream.wrote (q.greeting peer)).readHeader with
      | .error e => (.error (.link (.greeting e)), stream.wrote (q.greeting peer))
      | .ok (hello, rest) =>
        if hello.opcode ≠ Opcode.hello then
          (.error (.peer (.noGreeting hello.opcode)), rest)
        else if hello.sequence ≠ peer.number.toUInt64 ∨ hello.immediate ≠ q.address.number then
          (.error (.peer (.otherQueuePairs hello.sequence hello.immediate peer.number
            q.address.number)), rest)
        else (.ok (), rest) := by
  have sends := Stream.send_of_takes serves.takes (q.greeting peer)
  unfold greeting at sends
  unfold greet
  dsimp only
  rw [Stream.configure_eq_ok_iff.mpr serves.settable]
  dsimp only
  rw [sends]
  rfl

theorem greet_of_greets (serves : stream.Serves q.linkTimeout)
    (greets : Greets stream.waiting peer.number q.address.number) :
    q.greet peer stream = (.ok (), q.greeted peer stream) := by
  obtain ⟨-, hello, read, opcode, sequence, immediate⟩ := greets
  have heard : (stream.wrote (q.greeting peer)).readHeader =
      .ok (hello, q.greeted peer stream) := by
    simp only [Stream.readHeader, Header.read, Stream.wrote, read]
    rfl
  rw [greet_of_serves serves, heard]
  dsimp only
  rw [if_neg (fun other => other opcode),
    if_neg (fun other => other.elim (· sequence) (· immediate))]

theorem greet_of_not_greets (serves : stream.Serves q.linkTimeout)
    (silent : ¬ Greets stream.waiting peer.number q.address.number) :
    ∃ e tried, q.greet peer stream = (.error e, tried) ∧
      tried.sent = stream.sent ++ [q.greeting peer] := by
  rw [greet_of_serves serves]
  cases heard : (stream.wrote (q.greeting peer)).readHeader with
  | error e => exact ⟨_, _, rfl, rfl⟩
  | ok read =>
    obtain ⟨hello, rest⟩ := read
    have first : Header.ofBytes? (stream.waiting.take Header.size) = some hello ∧
        rest.sent = stream.sent ++ [q.greeting peer] := by
      simp only [Stream.readHeader, Header.read, Stream.wrote] at heard
      cases read : Header.ofBytes? (stream.waiting.take Header.size) with
      | none => simp only [read] at heard; cases heard
      | some header => simp only [read] at heard; cases heard; exact ⟨rfl, rfl⟩
    dsimp only
    split
    · exact ⟨_, _, rfl, first.2⟩
    · next opcode =>
      split
      · exact ⟨_, _, rfl, first.2⟩
      · next numbers =>
        simp only [ne_eq, not_or, not_not] at opcode numbers
        refine absurd ⟨?_, hello, first.1, opcode, numbers⟩ silent
        have full : (stream.waiting.take Header.size).length = Header.size := by
          have read := first.1
          unfold Header.ofBytes? at read
          split at read
          · assumption
          · cases read
        rw [List.length_take] at full
        omega

/-- A stream whose options cannot be set is left alone, and its error is the answer. -/
theorem greet_of_not_settable (peer : QueuePairAddress)
    (fixed : ¬ stream.Settable q.linkTimeout) :
    ∃ e, q.greet peer stream = (.error (.io e), stream) := by
  unfold greet
  cases configured : stream.configure q.linkTimeout with
  | error e => exact ⟨e, rfl⟩
  | ok _ => exact absurd (Stream.configure_eq_ok_iff.mp configured) fixed

/-! ## Attempts -/

/-- The queue pair after an attempt to link that has failed. -/
def broken (q : QueuePair) : QueuePair := { q with attached := none, state := .error }

/-- The queue pair with a link over which it was greeted. -/
def linked (q : QueuePair) (peer : QueuePairAddress) (stream : Stream) : QueuePair :=
  { q with attached := none, state := .readyToReceive, link := some (q.greeted peer stream) }

/-- The messages that an attempt has left on its stream. -/
def LinkAttempt.messages (attempt : LinkAttempt) : List Bytes :=
  match attempt.stream with
  | some stream => stream.sent
  | none => []

theorem expect_init (init : q.state = .init) : q.expect [.init] "INIT" = .ok () := by
  rw [expect, init]
  rfl

theorem broken_of_not_established (init : q.state = .init) {e : DeviceError}
    (failed : q.establish peer ip conditions = .error e) (returns : e ≠ .noDeadline) :
    q.toReadyToReceive peer ip conditions = ⟨.error e, q.broken, none⟩ := by
  unfold toReadyToReceive
  rw [expect_init init]
  dsimp only
  rw [failed]
  cases e <;> first | rfl | exact absurd rfl returns

theorem toReadyToReceive_of_established (init : q.state = .init)
    (established : q.establish peer ip conditions = .ok stream) :
    q.toReadyToReceive peer ip conditions =
      match q.greet peer stream with
      | (.error e, tried) => ⟨.error e, q.broken, some tried⟩
      | (.ok (), sent) =>
        ⟨.ok (), { q with attached := none, state := .readyToReceive, link := some sent },
          some sent⟩ := by
  unfold toReadyToReceive
  rw [expect_init init]
  dsimp only
  rw [established]
  rfl

theorem linked_of_greets (init : q.state = .init)
    (established : q.establish peer ip conditions = .ok stream)
    (serves : stream.Serves q.linkTimeout)
    (greets : Greets stream.waiting peer.number q.address.number) :
    q.toReadyToReceive peer ip conditions =
      ⟨.ok (), q.linked peer stream, some (q.greeted peer stream)⟩ := by
  rw [toReadyToReceive_of_established init established, greet_of_greets serves greets]
  rfl

theorem broken_of_not_greets (init : q.state = .init)
    (established : q.establish peer ip conditions = .ok stream)
    (serves : stream.Serves q.linkTimeout)
    (silent : ¬ Greets stream.waiting peer.number q.address.number) :
    ∃ e tried, q.toReadyToReceive peer ip conditions = ⟨.error e, q.broken, some tried⟩ ∧
      tried.sent = stream.sent ++ [q.greeting peer] := by
  obtain ⟨e, tried, greeted, sent⟩ := greet_of_not_greets serves silent
  refine ⟨e, tried, ?_, sent⟩
  rw [toReadyToReceive_of_established init established, greeted]

theorem broken_of_not_settable (init : q.state = .init)
    (established : q.establish peer ip conditions = .ok stream)
    (fixed : ¬ stream.Settable q.linkTimeout) :
    ∃ e, q.toReadyToReceive peer ip conditions = ⟨.error (.io e), q.broken, some stream⟩ := by
  obtain ⟨e, greeted⟩ := greet_of_not_settable peer fixed
  refine ⟨e, ?_⟩
  rw [toReadyToReceive_of_established init established, greeted]

/-- An attempt that fails over its stream, for whatever reason, leaves no link. -/
theorem broken_of_established (init : q.state = .init)
    (established : q.establish peer ip conditions = .ok stream) {e : DeviceError}
    (failed : (q.toReadyToReceive peer ip conditions).result = .error e) :
    (q.toReadyToReceive peer ip conditions).queuePair = q.broken := by
  rw [toReadyToReceive_of_established init established] at failed ⊢
  cases greeted : q.greet peer stream with
  | mk answer tried =>
    cases answer with
    | error e => rfl
    | ok _ => simp only [greeted] at failed; cases failed

/-- One greeting is written over a stream that takes it, whatever comes back. -/
theorem messages_of_established (init : q.state = .init)
    (established : q.establish peer ip conditions = .ok stream)
    (serves : stream.Serves q.linkTimeout) :
    (q.toReadyToReceive peer ip conditions).messages = stream.sent ++ [q.greeting peer] := by
  by_cases greets : Greets stream.waiting peer.number q.address.number
  · rw [linked_of_greets init established serves greets]
    rfl
  · obtain ⟨e, tried, attempt, sent⟩ := broken_of_not_greets init established serves greets
    rw [attempt]
    exact sent

/-! ## Two attempts -/

/-- The queue pair dials the port of its peer, and what comes of that is its stream. -/
def Dials (q : QueuePair) (peer : QueuePairAddress) (ip : IpAddress) : Prop :=
  ∀ conditions : LinkConditions, q.establish peer ip conditions =
    (conditions.dialWithin q.linkTimeout (SocketAddress.ofIp ip peer.lid)).mapError fun e =>
      .link (.dial (SocketAddress.ofIp ip peer.lid) e)

/-- The queue pair dials nobody; its stream is that of whoever dials it in time. -/
def Waits (q : QueuePair) (peer : QueuePairAddress) (ip : IpAddress) : Prop :=
  ∀ conditions : LinkConditions, q.establish peer ip conditions =
    if q.linkTimeout.outlasts conditions.uptime then .error .noDeadline
    else
      match conditions.caller with
      | some stream => .ok stream
      | none => .error (.link (.notDialed q.linkTimeout))

theorem Waits.not_dials (waits : q.Waits peer ip) : ¬ q.Dials peer ip := by
  intro dials
  have both := (waits ⟨fun _ => .error .timedOut, some (Stream.ofBytes [] false), 0⟩).symm.trans
    (dials _)
  have refused : (⟨fun _ => .error .timedOut, some (Stream.ofBytes [] false), 0⟩ :
      LinkConditions).dialWithin q.linkTimeout (SocketAddress.ofIp ip peer.lid) =
      .error (if q.linkTimeout.count = 0 then .zeroLimit else .timedOut) := by
    unfold LinkConditions.dialWithin
    split <;> rfl
  rw [refused] at both
  split at both <;> cases both

theorem dials_of_lt (bare : q.attached = none) (first : q.address.triple < peer.triple) :
    q.Dials peer ip := by
  intro conditions
  rw [establish, bare, QueuePairAddress.roleTowards_of_lt first]

theorem waits_of_gt (bare : q.attached = none) (later : peer.triple < q.address.triple) :
    q.Waits peer ip := by
  intro conditions
  have decided := QueuePairAddress.roleTowards_of_gt later
  cases called : conditions.caller <;> simp only [establish, bare, decided, called]

/-- A queue pair that would wait for longer than the clock can tell is left as it is. -/
theorem Waits.unchanged (waits : q.Waits peer ip) (init : q.state = .init)
    (unnamed : q.linkTimeout.outlasts conditions.uptime = true) :
    q.toReadyToReceive peer ip conditions = ⟨.error .noDeadline, q, none⟩ := by
  unfold toReadyToReceive
  rw [expect_init init, waits conditions, unnamed]
  rfl

theorem meetsItself_of_eq (init : q.state = .init) (bare : q.attached = none)
    (same : q.address.triple = peer.triple) :
    q.toReadyToReceive peer ip conditions = ⟨.error (.peer .ownQueuePair), q.broken, none⟩ := by
  refine broken_of_not_established init ?_ nofun
  rw [establish, bare, QueuePairAddress.roleTowards_of_eq same]

/-- The dial of one queue pair reaches the port of another while that waits: each gets one end of a
fresh connection whose options can be set and that takes its greeting, and when it reads, what the
other one has written is there. -/
structure Reaches (dialer waiter : QueuePair) (dialerIp waiterIp : IpAddress)
    (atDialer atWaiter : LinkConditions) (dialed called : Stream) : Prop where
  dial : atDialer.dial (SocketAddress.ofIp waiterIp waiter.address.lid) = .ok dialed
  call : atWaiter.caller = some called
  fresh : dialed.sent = [] ∧ called.sent = []
  options : ∀ option, dialed.settings option = none ∧ called.settings option = none
  takes : dialed.Takes ∧ called.Takes
  answered : (waiter.toReadyToReceive dialer.address dialerIp atWaiter).messages.flatten <+:
    dialed.waiting
  heard : (dialer.toReadyToReceive waiter.address waiterIp atDialer).messages.flatten <+:
    called.waiting

/-- If the dial reaches the other queue pair, and the limits of both are some time that the clock
can name, both are linked. -/
theorem Reaches.linked {dialer waiter : QueuePair} {dialerIp waiterIp : IpAddress}
    {atDialer atWaiter : LinkConditions} {dialed called : Stream}
    (reaches : Reaches dialer waiter dialerIp waiterIp atDialer atWaiter dialed called)
    (dialerInit : dialer.state = .init) (waiterInit : waiter.state = .init)
    (dialerTime : dialer.linkTimeout.count ≠ 0) (waiterTime : waiter.linkTimeout.count ≠ 0)
    (named : waiter.linkTimeout.outlasts atWaiter.uptime = false)
    (dials : dialer.Dials waiter.address waiterIp) (waits : waiter.Waits dialer.address dialerIp) :
    dialer.toReadyToReceive waiter.address waiterIp atDialer =
        ⟨.ok (), dialer.linked waiter.address dialed,
          some (dialer.greeted waiter.address dialed)⟩ ∧
      waiter.toReadyToReceive dialer.address dialerIp atWaiter =
        ⟨.ok (), waiter.linked dialer.address called,
          some (waiter.greeted dialer.address called)⟩ := by
  have dialerHas : dialer.establish waiter.address waiterIp atDialer = .ok dialed := by
    rw [dials, LinkConditions.dialWithin, if_neg dialerTime, reaches.dial]
    rfl
  have waiterHas : waiter.establish dialer.address dialerIp atWaiter = .ok called := by
    rw [waits, named, reaches.call]
    rfl
  have dialerServed : dialed.Serves dialer.linkTimeout :=
    ⟨⟨dialerTime, fun option => (reaches.options option).1⟩, reaches.takes.1⟩
  have waiterServed : called.Serves waiter.linkTimeout :=
    ⟨⟨waiterTime, fun option => (reaches.options option).2⟩, reaches.takes.2⟩
  have answered := reaches.answered
  have heard := reaches.heard
  rw [messages_of_established waiterInit waiterHas waiterServed, reaches.fresh.2] at answered
  rw [messages_of_established dialerInit dialerHas dialerServed, reaches.fresh.1] at heard
  rw [List.nil_append, List.flatten_singleton] at answered heard
  exact ⟨linked_of_greets dialerInit dialerHas dialerServed (greets_of_begins answered),
    linked_of_greets waiterInit waiterHas waiterServed (greets_of_begins heard)⟩

/-- Two initialized queue pairs without streams of their own, each told the other's address: of
different triples exactly one dials, the lesser one, and the other waits for it; if the dial
reaches it in time, and neither has a link timeout of zero nor the one that waits one that the clock
cannot name the end of, both become ready to receive; of equal triples both refuse.

An initialized queue pair whose stream is there and takes its greeting becomes ready to receive
exactly if the options of the stream can be set, which a link timeout of zero cannot, and the bytes
that arrive on it begin with the greeting of its peer.  It has then read the 32 bytes of that
greeting and no more, and written one greeting.  If it does not become ready to receive, it has
failed and has no link. -/
theorem link_set_up_agrees :
    (∀ (a b : QueuePair) (aIp bIp : IpAddress) (atA atB : LinkConditions),
      a.state = .init → b.state = .init → a.attached = none → b.attached = none →
      let linkA := a.toReadyToReceive b.address bIp atA
      let linkB := b.toReadyToReceive a.address aIp atB
      (a.address.triple = b.address.triple →
        linkA = ⟨.error (.peer .ownQueuePair), a.broken, none⟩ ∧
        linkB = ⟨.error (.peer .ownQueuePair), b.broken, none⟩) ∧
      (a.address.triple ≠ b.address.triple →
        Xor (a.Dials b.address bIp) (b.Dials a.address aIp)) ∧
      (a.address.triple < b.address.triple →
        a.Dials b.address bIp ∧ b.Waits a.address aIp ∧
        (a.linkTimeout.count ≠ 0 → b.linkTimeout.count ≠ 0 →
          b.linkTimeout.outlasts atB.uptime = false →
          ∀ dialed called, Reaches a b aIp bIp atA atB dialed called →
            linkA.result = .ok () ∧ linkA.queuePair.state = .readyToReceive ∧
            linkB.result = .ok () ∧ linkB.queuePair.state = .readyToReceive))) ∧
    ∀ (address : QueuePairAddress) (linkTimeout : Milliseconds) (depth : Nat) (memory : Memory)
      (events : List QueuePairEvent) (peer : QueuePairAddress) (ip : IpAddress)
      (conditions : LinkConditions),
      let q := ((History.fresh address linkTimeout depth memory).run events).station.queuePair
      let attempt := q.toReadyToReceive peer ip conditions
      q.state = .init →
        ∀ stream, q.establish peer ip conditions = .ok stream →
          (stream.Takes →
            (attempt.result = .ok () ↔
              stream.Settable q.linkTimeout ∧ Greets stream.waiting peer.number q.address.number) ∧
            (attempt.result = .ok () → attempt.queuePair.state = .readyToReceive ∧
              ∃ link, attempt.queuePair.link = some link ∧
                link.waiting = stream.waiting.drop Header.size ∧
                link.sent = stream.sent ++ [q.greeting peer])) ∧
          ∀ e, attempt.result = .error e →
            attempt.queuePair.state = .error ∧ attempt.queuePair.link = none := by
  constructor
  · intro a b aIp bIp atA atB initA initB bareA bareB linkA linkB
    refine ⟨fun same => ?_, fun differ => ?_, fun first => ?_⟩
    · exact ⟨meetsItself_of_eq initA bareA same, meetsItself_of_eq initB bareB same.symm⟩
    · rcases lt_or_gt_of_ne differ with first | later
      · exact Or.inl ⟨dials_of_lt bareA first, (waits_of_gt bareB first).not_dials⟩
      · exact Or.inr ⟨dials_of_lt bareB later, (waits_of_gt bareA later).not_dials⟩
    · have dials : a.Dials b.address bIp := dials_of_lt bareA first
      have waits : b.Waits a.address aIp := waits_of_gt bareB first
      refine ⟨dials, waits, fun timeA timeB named dialed called reaches => ?_⟩
      obtain ⟨ownLink, peerLink⟩ := reaches.linked initA initB timeA timeB named dials waits
      rw [show linkA = _ from ownLink, show linkB = _ from peerLink]
      exact ⟨rfl, rfl, rfl, rfl⟩
  · intro address linkTimeout depth memory events peer ip conditions q attempt init stream
      established
    have bare : q.link = none :=
      (History.kept_run address linkTimeout depth memory events).linked.early (Or.inr init)
    refine ⟨fun takes => ?_, fun e failed => ?_⟩
    · by_cases settable : stream.Settable q.linkTimeout
      · have serves : stream.Serves q.linkTimeout := ⟨settable, takes⟩
        by_cases greets : Greets stream.waiting peer.number q.address.number
        · have linked := linked_of_greets init established serves greets
          rw [show attempt = _ from linked]
          exact ⟨iff_of_true rfl ⟨settable, greets⟩, fun _ => ⟨rfl, _, rfl, rfl, rfl⟩⟩
        · obtain ⟨e, tried, failed, -⟩ := broken_of_not_greets init established serves greets
          rw [show attempt = _ from failed]
          exact ⟨iff_of_false nofun fun both => greets both.2, nofun⟩
      · obtain ⟨e, failed⟩ := broken_of_not_settable init established settable
        rw [show attempt = _ from failed]
        exact ⟨iff_of_false nofun fun both => settable both.1, nofun⟩
    · rw [show attempt.queuePair = q.broken from broken_of_established init established failed]
      exact ⟨rfl, bare⟩

/-- Two queue pairs with the same sequence number: that with the lesser number dials the port of the
other, and both are linked. -/
theorem neighbours_link :
    let home : IpAddress := .v4 ⟨0x7F000001⟩
    let a : QueuePair := { fresh ⟨1, 5, 9, ⟨0⟩⟩ ⟨1000⟩ with state := .init }
    let b : QueuePair := { fresh ⟨2, 5, 7, ⟨0⟩⟩ ⟨1000⟩ with state := .init }
    let dialed := Stream.ofBytes (Header.hello 2 1).toBytes false
    let called := Stream.ofBytes (Header.hello 1 2).toBytes false
    let atA : LinkConditions :=
      ⟨fun port => if port = SocketAddress.ofIp home 7 then .ok dialed else .error .timedOut, none,
        0⟩
    let atB : LinkConditions := ⟨fun _ => .error .timedOut, some called, 0⟩
    Reaches a b home home atA atB dialed called ∧
      (a.toReadyToReceive b.address home atA).result = .ok () ∧
      (b.toReadyToReceive a.address home atB).result = .ok () := by
  intro home a b dialed called atA atB
  have reaches : Reaches a b home home atA atB dialed called :=
    ⟨rfl, rfl, ⟨rfl, rfl⟩, fun _ => ⟨rfl, rfl⟩, ⟨⟨rfl, rfl⟩, rfl, rfl⟩, by decide +kernel,
      by decide +kernel⟩
  obtain ⟨-, -, meet⟩ := link_set_up_agrees.1 a b home home atA atB rfl rfl rfl rfl
  have linked := (meet (by decide)).2.2 (by decide) (by decide) (by decide) dialed called reaches
  exact ⟨reaches, linked.1, linked.2.2.1⟩

/-- An initialized queue pair with a link timeout of zero, to which a stream is attached that takes
whatever is written and on which the greeting of its peer and nothing else arrives: it gets no link,
fails and has written nothing.  The dial that would reach such a queue pair does no better, and one
that waits longer than the clock can tell does not return. -/
theorem no_link_in_no_time :
    let home : IpAddress := .v4 ⟨0x7F000001⟩
    let peer : QueuePairAddress := ⟨2, 5, 7, ⟨0⟩⟩
    let hello := Stream.ofBytes (Header.hello 2 1).toBytes false
    let start : QueuePair := fresh ⟨1, 5, 9, ⟨0⟩⟩ ⟨0⟩
    let q : QueuePair := { start with state := .init, attached := some hello }
    let patient : QueuePair := { fresh ⟨1, 6, 9, ⟨0⟩⟩ ⟨2 ^ 64 * 1000⟩ with state := .init }
    let called : LinkConditions := ⟨fun _ => .ok hello, some hello, 0⟩
    q.establish peer home called = .ok hello ∧ hello.Takes ∧ Greets hello.waiting 2 1 ∧
      q.toReadyToReceive peer home called = ⟨.error (.io .zeroLimit), q.broken, some hello⟩ ∧
      ({ q with attached := none }).toReadyToReceive peer home called =
        ⟨.error (.link (.dial (SocketAddress.ofIp home 7) .zeroLimit)), q.broken, none⟩ ∧
      patient.toReadyToReceive peer home called = ⟨.error .noDeadline, patient, none⟩ := by
  intro home peer hello start q patient called
  have waits : patient.Waits peer home := waits_of_gt rfl (by decide)
  exact ⟨rfl, ⟨rfl, rfl⟩, greets_of_begins List.prefix_rfl, rfl, rfl,
    waits.unchanged rfl (by decide +kernel)⟩

end QueuePair

end RdmaLink
