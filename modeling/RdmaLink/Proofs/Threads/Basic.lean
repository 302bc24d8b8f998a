import RdmaLink.Proofs.QueuePair.History
import RdmaLink.Proofs.QueuePair.Reactions

/-!
# The threads of a queue pair

The owner of a queue pair calls it from one thread, and the frames of its peer are handled by
another.  Each does its work in steps, between which the other may go on: a post checks for room,
is entered, and only then goes to the link; a failure sets the state first and flushes later.  What
the owner's call does next is its `Action`, what the receive thread does next its `Reception`.

A step is what happens under one lock, or between two.  Where a step reads something that only its
own thread writes, it is put together with the next one; the registrations, which anybody may
change, are given to each step anew.

    t.run (.call (.postSend send) :: replicate 9 (.proceed r)) = t after s.postSend r send
                                                                (Threads.postSend_uninterrupted)

so the calls and frames of a `History` are the steps of one thread with nothing in between.
-/

namespace RdmaLink

/-- A call of the owner. -/
inductive Call where
  | toInit (access : Access)
  | attach (stream : Stream)
  | link (peer : QueuePairAddress) (ip : IpAddress) (conditions : LinkConditions)
  | start
  | postSend (send : SendRequest)
  | postReceive (request : UInt64)
  | destroy

/-- What the call in progress does next. -/
inductive Action where
  /-- No call is in progress. -/
  | idle
  /-- A send has found an accepting state and looks for room. -/
  | admitting (send : SendRequest)
  /-- A send has found room and is given a number and a frame. -/
  | preparing (send : SendRequest)
  | entering (draft : Draft)
  /-- The frame of an entered send goes to the link. -/
  | launching (draft : Draft)
  /-- The link has not taken the frame. -/
  | withdrawing (sequence : Nat)
  | reporting (send : PendingSend)
  /-- A receive has found an accepting state and looks for room. -/
  | awaiting (request : UInt64)
  /-- A receive has found room, and takes a held write or waits. -/
  | meeting (request : UInt64)
  /-- A receive has taken a held write and is to be completed. -/
  | met (request : UInt64) (held : HeldImmediate)
  /-- The write that a receive has taken is acknowledged. -/
  | confirming (sequence : UInt64)
  /-- The queue pair is to fail, and then perhaps its link is shut down. -/
  | failing (shuts : Bool)
  /-- The state is set, and what is posted is to be flushed. -/
  | flushing (shuts : Bool)
  | shutting
  /-- Frames are received, and the state is to be set. -/
  | starting
  /-- The end of the receive thread is waited for. -/
  | joining
deriving DecidableEq, Repr, Inhabited

/-- What the receive thread does next. -/
inductive Reception where
  | absent
  /-- It waits for bytes. -/
  | reading
  /-- A header is complete, and it is to be settled what becomes of its payload. -/
  | settling (header : Header)
  /-- A frame is complete and takes its effect. -/
  | taking (arrival : Arrival)
  /-- A write with an immediate is stored and looks for a receive. -/
  | claiming (header : Header)
  | answering (header : Header) (payload : Bytes)
  /-- It cannot go on. -/
  | broken
  /-- The queue pair is to fail. -/
  | failing
  /-- The state is set, and what is posted is to be flushed. -/
  | flushing
  | shutting
  | finished
deriving DecidableEq, Repr, Inhabited

/-- Whether there is no receive thread, or no longer one. -/
def Reception.Gone (reception : Reception) : Prop := reception = .absent ∨ reception = .finished

instance (reception : Reception) : Decidable reception.Gone :=
  inferInstanceAs (Decidable (_ ∨ _))

/-- A queue pair with its two threads. -/
structure Threads where
  station : Station
  action : Action
  reception : Reception
  /-- What the last call that has returned has answered. -/
  answer : Option (Except DeviceError Unit)

/-- Something that happens: one step of a thread, bytes of the peer, or what others do. -/
inductive ThreadEvent where
  | call (call : Call)
  /-- The call in progress goes on. -/
  | proceed (registrations : Registrations)
  /-- The receive thread gets the next byte. -/
  | byte (byte : UInt8)
  /-- The receive thread gets the end of the stream, or an error. -/
  | hangUp
  /-- The receive thread goes on. -/
  | advance (registrations : Registrations)
  | poll (most : Nat)
  /-- Something else in the process changes the memory. -/
  | remember (memory : Memory)

namespace Threads

/-- A fresh queue pair with a completion queue of its own. -/
def fresh (address : QueuePairAddress) (linkTimeout : Milliseconds) (depth : Nat)
    (memory : Memory) : Threads :=
  ⟨Station.fresh address linkTimeout depth memory, .idle, .absent, none⟩

/-- The call returns. -/
def returns (t : Threads) (answer : Except DeviceError Unit) (station : Station) : Threads :=
  { t with station := station, action := .idle, answer := some answer }

/-- The call has more to do. -/
def goesOn (t : Threads) (station : Station) (action : Action) : Threads :=
  { t with station := station, action := action }

/-- The queue pair has failed, and the call returns, or shuts the link down before. -/
def failed (t : Threads) (station : Station) (shuts : Bool) : Threads :=
  if shuts then t.goesOn station .shutting else t.returns (.ok ()) station

/-- A call that is over at once returns. -/
def settles (t : Threads) (result : Except DeviceError QueuePair) : Threads :=
  t.returns (result.map fun _ => ()) (t.station.advance result)

/-- The first step of a call. -/
def begin (t : Threads) : Call → Threads
  | .toInit access => t.settles (t.station.queuePair.toInit access)
  | .attach stream => t.settles (t.station.queuePair.attach stream)
  | .link peer ip conditions =>
    let attempt := t.station.queuePair.toReadyToReceive peer ip conditions
    t.returns attempt.result { t.station with queuePair := attempt.queuePair }
  | .start =>
    match t.station.queuePair.startReceiving with
    | .error e => t.returns (.error e) t.station
    | .ok queuePair =>
      { t.goesOn { t.station with queuePair := queuePair } .starting with reception := .reading }
  | .postSend send =>
    match t.station.queuePair.expect [.readyToSend] "RTS" with
    | .error e => t.returns (.error e) t.station
    | .ok () => t.goesOn t.station (.admitting send)
  | .postReceive request =>
    match t.station.queuePair.expect [.init, .readyToReceive, .readyToSend]
        "INIT, RTR or RTS" with
    | .error e => t.returns (.error e) t.station
    | .ok () => t.goesOn t.station (.awaiting request)
  | .destroy =>
    if t.station.queuePair.destroyed then t.returns (.ok ()) t.station
    else t.goesOn { t.station with queuePair := t.station.queuePair.close } .joining

/-- The next step of the call in progress. -/
def proceed (registrations : Registrations) (t : Threads) : Threads :=
  let s := t.station
  match t.action with
  | .idle => t
  | .admitting send =>
    match s.checkRoom with
    | .error e => t.returns (.error e) s
    | .ok () => t.goesOn s (.preparing send)
  | .preparing send =>
    match s.prepare registrations send with
    | (.error e, tried) => t.returns (.error e) tried
    | (.ok draft, numbered) => t.goesOn numbered (.entering draft)
  | .entering draft => t.goesOn (s.enter draft) (.launching draft)
  | .launching draft =>
    match s.transmit draft.frame.header draft.frame.payload with
    | (.ok (), sent) => t.returns (.ok ()) sent
    | (.error _, tried) => t.goesOn tried (.withdrawing draft.sequence)
  | .withdrawing sequence =>
    match s.withdraw sequence with
    | (some send, withdrawn) => t.goesOn withdrawn (.reporting send)
    | (none, same) => t.goesOn same (.failing true)
  | .reporting send => t.goesOn (s.reportLost send) (.failing true)
  | .awaiting request =>
    match s.checkRoom with
    | .error e => t.returns (.error e) s
    | .ok () => t.goesOn s (.meeting request)
  | .meeting request =>
    match s.meet request with
    | (none, waiting) => t.returns (.ok ()) waiting
    | (some held, matched) => t.goesOn matched (.met request held)
  | .met request held => t.goesOn (s.reportMet request held) (.confirming held.sequence)
  | .confirming sequence =>
    match s.transmit (Header.acknowledgement sequence Status.success.code) [] with
    | (.ok (), sent) => t.returns (.ok ()) sent
    | (.error _, tried) => t.goesOn tried (.failing false)
  | .failing shuts =>
    if s.queuePair.state = .error then t.failed s shuts else t.goesOn s.marked (.flushing shuts)
  | .flushing shuts => t.failed s.flush shuts
  | .shutting => t.returns (.ok ()) s.shutLink
  | .starting => t.returns (.ok ()) { s with queuePair := s.queuePair.setReady }
  | .joining =>
    if t.reception.Gone then t.returns (.ok ()) { s with queuePair := s.queuePair.retire } else t

/-- The receive thread has more to do. -/
def receives (t : Threads) (station : Station) (reception : Reception) : Threads :=
  { t with station := station, reception := reception }

/-- The receive thread cannot go on. -/
def breaks (t : Threads) (station : Station) : Threads :=
  t.receives (station.withIntake none) .broken

/-- The receive thread does what is left to do for a frame. -/
def follows (t : Threads) (station : Station) : Rest → Threads
  | .nothing => t.receives station .reading
  | .claim header => t.receives station (.claiming header)
  | .answer header payload => t.receives station (.answering header payload)
  | .quit => t.breaks station

/-- The receive thread gets a byte. -/
def hears (t : Threads) (byte : UInt8) : Threads :=
  match t.reception, t.station.queuePair.intake with
  | .reading, some (.header received) =>
    match Header.ofBytes? (received ++ [byte]) with
    | none => t.receives (t.station.withIntake (some (.header (received ++ [byte])))) .reading
    | some header => t.receives (t.station.withIntake (some (.header []))) (.settling header)
  | .reading, some (.payload header disposal reversed missing) =>
    if missing ≤ 1 then
      t.receives (t.station.withIntake (some (.header [])))
        (.taking ⟨header, some disposal, (byte :: reversed).reverse⟩)
    else
      t.receives (t.station.withIntake
        (some (.payload header disposal (byte :: reversed) (missing - 1)))) .reading
  | _, _ => t

/-- The next step of the receive thread. -/
def advance (registrations : Registrations) (t : Threads) : Threads :=
  let s := t.station
  match t.reception with
  | .absent => t
  | .reading => t
  | .settling header =>
    match s.disposal? registrations header with
    | none => t.receives s (.taking ⟨header, none, []⟩)
    | some disposal =>
      if header.length = 0 then t.receives s (.taking ⟨header, some disposal, []⟩)
      else
        t.receives (s.withIntake (some (.payload header disposal [] header.length.toNat))) .reading
  | .taking arrival =>
    t.follows (s.react registrations arrival).1 (s.react registrations arrival).2
  | .claiming header => t.follows (s.claim header).1 (s.claim header).2
  | .answering header payload =>
    match s.transmit header payload with
    | (.ok (), sent) => t.receives sent .reading
    | (.error _, tried) => t.breaks tried
  | .broken => t.receives s (if s.queuePair.destroyed then .finished else .failing)
  | .failing =>
    if s.queuePair.state = .error then t.receives s .shutting else t.receives s.marked .flushing
  | .flushing => t.receives s.flush .shutting
  | .shutting => t.receives s.shutLink .finished
  | .finished => t

def step (t : Threads) : ThreadEvent → Threads
  | .call call => if t.action = .idle then t.begin call else t
  | .proceed registrations => t.proceed registrations
  | .byte byte => t.hears byte
  | .hangUp => if t.reception = .reading then t.breaks t.station else t
  | .advance registrations => t.advance registrations
  | .poll most =>
    { t with station :=
      { t.station with completions := (t.station.completions.poll most).2 } }
  | .remember memory => { t with station := { t.station with memory := memory } }

def run (t : Threads) (events : List ThreadEvent) : Threads := events.foldl step t

theorem run_append (t : Threads) (a b : List ThreadEvent) : t.run (a ++ b) = (t.run a).run b :=
  List.foldl_append

/-- What holds at the start and is kept by every step holds of every run. -/
theorem run_induction {P : Threads → Prop} {t : Threads} (base : P t)
    (keep : ∀ t event, P t → P (t.step event)) (events : List ThreadEvent) : P (t.run events) := by
  induction events generalizing t with
  | nil => exact base
  | cons event rest ih => exact ih (keep t event base)

end Threads

end RdmaLink
