import Mathlib.Data.List.Induction
import RdmaLink.Proofs.Connection.Runs

/-!
# Coherence of a connection

The states of a connection have ranks, and no event takes it back to a lower one:

    created < listening, connecting < parametersExchanged < queuePairInit < queuePairReady < active
      < error < closed

Its lifecycle, its queue pair, its registration and its records are kept in step
(`Connection.Coherent`); what one turn does to them is `Session.Turn.coherent`, and
`Session.lifecycle_coherent` is what holds after every run.
-/

namespace RdmaLink

/-- How far a connection has come. -/
def LifecycleState.rank : LifecycleState → Nat
  | .created => 0
  | .listening => 1
  | .connecting => 1
  | .parametersExchanged => 2
  | .queuePairInit => 3
  | .queuePairReady => 4
  | .active => 5
  | .error => 6
  | .closed => 7

theorem LifecycleState.rank_le_error {state : LifecycleState} (h : state ≠ .closed) :
    state.rank ≤ LifecycleState.error.rank := by
  cases state <;> first | decide | exact absurd rfl h

namespace Connection

/-- The state of a connection fits what it has. -/
structure Coherent (c : Connection) : Prop where
  settled : c.state ≠ .parametersExchanged ∧ c.state ≠ .queuePairInit
  pair : c.state = .closed ↔ c.pairState = none
  registration : c.state = .closed ↔ c.registration = none
  ready : c.state.canPost = true → c.ownRecord.isSome = true ∧ c.peerRecord.isSome = true ∧
    (c.pairState = some .readyToSend ∨ c.pairState = some .error)

/-- An open connection has a queue pair and a registration. -/
theorem Coherent.of_open {c : Connection}
    (settled : c.state ≠ .parametersExchanged ∧ c.state ≠ .queuePairInit)
    (alive : c.state ≠ .closed) (pair : c.pairState.isSome = true)
    (registration : c.registration.isSome = true)
    (ready : c.state.canPost = true → c.ownRecord.isSome = true ∧ c.peerRecord.isSome = true ∧
      (c.pairState = some .readyToSend ∨ c.pairState = some .error)) : c.Coherent := by
  refine ⟨settled, ⟨fun closed => absurd closed alive, fun none => ?_⟩,
    ⟨fun closed => absurd closed alive, fun none => ?_⟩, ready⟩
  · rw [none] at pair; cases pair
  · rw [none] at registration; cases registration

theorem Coherent.has {c : Connection} (coherent : c.Coherent) (alive : c.state ≠ .closed) :
    c.pairState.isSome = true ∧ c.registration.isSome = true :=
  ⟨Option.isSome_iff_ne_none.mpr fun none => alive (coherent.pair.mpr none),
    Option.isSome_iff_ne_none.mpr fun none => alive (coherent.registration.mpr none)⟩

theorem coherent_opened (id : Nat) (role : Role) (transport : Transport)
    (settings : ConnectionSettings) (registration : Registration) (address : QueuePairAddress) :
    (opened id role transport settings registration address).Coherent :=
  .of_open ⟨nofun, nofun⟩ nofun rfl rfl nofun

end Connection

namespace Session

open Connection (Coherent)

variable {s t : Session} {event : ConnectionEvent}

/-! ## One turn -/

theorem Turn.rank_le (h : Turn s event t) :
    s.connection.state.rank ≤ t.connection.state.rank := by
  cases h with
  | stay state _ _ => exact Nat.le_of_eq (congrArg LifecycleState.rank state.symm)
  | begun before after _ _ =>
    rw [before]
    exact Nat.zero_le _
  | ready before after _ _ =>
    rw [after]
    rcases before with before | before <;> rw [before] <;> decide
  | active before after _ _ _ => rw [before, after]; decide
  | failed before after _ _ => rw [after]; exact LifecycleState.rank_le_error before
  | closed before after _ _ =>
    rw [after]
    exact Nat.le_trans (LifecycleState.rank_le_error before) (by decide)

theorem Turn.coherent (h : Turn s event t) (coherent : s.connection.Coherent) :
    t.connection.Coherent := by
  cases h with
  | stay state papers pair =>
    have same : t.connection.pairState = none ↔ s.connection.pairState = none := by
      rcases pair with pair | ⟨present, pair⟩
      · rw [pair]
      · rw [pair]
        exact ⟨nofun, fun none => by rw [none] at present; cases present⟩
    simp only [Connection.papers, Prod.mk.injEq] at papers
    obtain ⟨registration, own, peer⟩ := papers
    refine ⟨by rw [state]; exact coherent.settled, by rw [state, same]; exact coherent.pair,
      by rw [state, registration]; exact coherent.registration, fun able => ?_⟩
    rw [state] at able
    obtain ⟨hown, hpeer, hpair⟩ := coherent.ready able
    refine ⟨by rw [own]; exact hown, by rw [peer]; exact hpeer, ?_⟩
    rcases pair with pair | ⟨-, pair⟩
    · rw [pair]; exact hpair
    · exact Or.inr pair
  | begun before after papers pair =>
    obtain ⟨hpair, hregistration⟩ := coherent.has (by rw [before]; decide)
    have registration : t.connection.registration.isSome = true := by
      rw [show t.connection.registration = s.connection.registration from congrArg Prod.fst papers]
      exact hregistration
    rcases after with after | after
    · exact .of_open (by rw [after]; decide) (by rw [after]; decide) (by rw [pair]; exact hpair)
        registration (by rw [after]; exact nofun)
    · exact .of_open (by rw [after]; decide) (by rw [after]; decide) (by rw [pair]; exact hpair)
        registration (by rw [after]; exact nofun)
  | ready before after papers pair =>
    have alive : s.connection.state ≠ .closed := by
      rcases before with before | before <;> rw [before] <;> decide
    simp only [Connection.papers, Prod.mk.injEq] at papers
    obtain ⟨registration, own, peer⟩ := papers
    exact .of_open (by rw [after]; decide) (by rw [after]; decide) (by rw [pair]; rfl)
      (by rw [registration]; exact (coherent.has alive).2)
      fun _ => ⟨by rw [own]; rfl, by rw [peer]; rfl, Or.inl pair⟩
  | active before after _ papers pair =>
    obtain ⟨hpair, hregistration⟩ := coherent.has (by rw [before]; decide)
    obtain ⟨hown, hpeer, running⟩ := coherent.ready (by rw [before]; rfl)
    simp only [Connection.papers, Prod.mk.injEq] at papers
    obtain ⟨registration, own, peer⟩ := papers
    exact .of_open (by rw [after]; decide) (by rw [after]; decide) (by rw [pair]; exact hpair)
      (by rw [registration]; exact hregistration)
      fun _ => ⟨by rw [own]; exact hown, by rw [peer]; exact hpeer, by rw [pair]; exact running⟩
  | failed before after registration pair =>
    obtain ⟨hpair, hregistration⟩ := coherent.has before
    exact .of_open (by rw [after]; decide) (by rw [after]; decide) (by rw [pair]; exact hpair)
      (by rw [registration]; exact hregistration) (by rw [after]; exact nofun)
  | closed _ after registration pair =>
    exact ⟨by rw [after]; decide, ⟨fun _ => pair, fun _ => after⟩,
      ⟨fun _ => registration, fun _ => after⟩, by rw [after]; exact nofun⟩

/-- A connection takes posts only after its queue pair has become ready to send. -/
theorem Turn.entered (h : Turn s event t) (able : t.connection.state.canPost = true) :
    s.connection.state.canPost = true ∨ t.connection.pairState = some .readyToSend := by
  cases h with
  | stay state _ _ => exact Or.inl (by rw [← state]; exact able)
  | begun _ after _ _ => rcases after with after | after <;> rw [after] at able <;> cases able
  | ready _ _ _ pair => exact Or.inr pair
  | active before _ _ _ _ => exact Or.inl (by rw [before]; rfl)
  | failed _ after _ _ => rw [after] at able; cases able
  | closed _ after _ _ => rw [after] at able; cases able

/-- Only a drain that finds a success makes a connection active. -/
theorem Turn.activated (h : Turn s event t) (before : s.connection.state ≠ .active)
    (after : t.connection.state = .active) :
    event = .drain ∧ ∃ report ∈ s.drain.1, report.succeeded = true := by
  cases h with
  | stay state _ _ => exact absurd (state.symm.trans after) before
  | begun _ state _ _ => rcases state with state | state <;> rw [state] at after <;> cases after
  | ready _ state _ _ => rw [state] at after; cases after
  | active _ _ success _ _ => exact ⟨rfl, success⟩
  | failed _ state _ _ => rw [state] at after; cases after
  | closed _ state _ _ => rw [state] at after; cases after

/-! ## Posts after the check -/

/-- What is in place when a connection takes posts. -/
theorem in_place_of_postable {c : Connection} (coherent : c.Coherent)
    (able : c.state.canPost = true) : c.registration.isSome = true ∧ c.ownRecord.isSome = true ∧
      c.peerRecord.isSome = true ∧ ∃ queuePair, c.queuePair = some queuePair ∧
        (queuePair.state = .readyToSend ∨ queuePair.state = .error) := by
  obtain ⟨own, peer, pair⟩ := coherent.ready able
  refine ⟨(coherent.has (open_of_postable able)).2, own, peer, ?_⟩
  simp only [Connection.pairState, Option.map_eq_some_iff] at pair
  rcases pair with ⟨queuePair, present, state⟩ | ⟨queuePair, present, state⟩
  · exact ⟨queuePair, present, Or.inl state⟩
  · exact ⟨queuePair, present, Or.inr state⟩

/-- What a post comes to once it was checked: it is taken on, or it is refused for a range or ends
in the address of one, or it is refused by the device, or because the queue pair has failed. -/
inductive Answer (id : Nat) : Except EndpointError Unit → Prop
  | taken : Answer id (.ok ())
  | range (fault : AddressFault) : Answer id (.error (.ofAddress fault))
  | device (cause : DeviceError) : Answer id (.error (.device cause))
  | failed : Answer id (.error (.connectionFailed id))

theorem answer_postFailed (s : Session) (cause : DeviceError) :
    Answer s.connection.id (.error (s.postFailed cause).1) := by
  unfold postFailed
  split
  · split
    · exact .failed
    · exact .device cause
  · exact .device cause

theorem sendRequest_cases (operation : SendOperation) (name : String) (request : UInt64)
    (offset length peerOffset : Nat) (registration : s.connection.registration.isSome = true)
    (peer : s.connection.peerRecord.isSome = true) :
    (∃ send, s.sendRequest operation name request offset length peerOffset = .ok send) ∨
      ∃ fault, s.sendRequest operation name request offset length peerOffset =
        .error (.ofAddress fault) := by
  obtain ⟨r, hr⟩ := Option.isSome_iff_exists.mp registration
  obtain ⟨p, hp⟩ := Option.isSome_iff_exists.mp peer
  unfold sendRequest
  rw [hr, hp]
  dsimp only
  split
  · exact Or.inr ⟨.range _, rfl⟩
  · split
    · exact Or.inr ⟨_, rfl⟩
    · split
      · exact Or.inr ⟨.range _, rfl⟩
      · exact Or.inl ⟨_, rfl⟩

theorem answer_post (coherent : s.connection.Coherent) (able : s.connection.state.canPost = true)
    (operation : SendOperation) (request : UInt64) (offset length peerOffset : Nat) :
    Answer s.connection.id (s.post operation request offset length peerOffset).1 := by
  obtain ⟨registration, -, peer, queuePair, present, -⟩ := in_place_of_postable coherent able
  unfold post
  rw [check_of_postable able]
  dsimp only
  rcases sendRequest_cases operation (postName operation) request offset length peerOffset
    registration peer with ⟨send, h⟩ | ⟨fault, h⟩
  · rw [h, station?, present]
    dsimp only [Option.map_some]
    split
    · exact answer_postFailed s _
    · split
      · exact .taken
      · exact answer_postFailed (s.withStation _) _
  · rw [h]
    exact .range fault

theorem answer_postReceive (coherent : s.connection.Coherent)
    (able : s.connection.state.canPost = true) (request : UInt64) :
    Answer s.connection.id (s.postReceive request).1 := by
  obtain ⟨-, -, -, queuePair, present, -⟩ := in_place_of_postable coherent able
  unfold postReceive
  rw [check_of_postable able, station?, present]
  dsimp only [Option.map_some]
  split
  · exact answer_postFailed s _
  · split
    · exact .taken
    · exact answer_postFailed (s.withStation _) _

/-! ## Runs -/

theorem run_rank_le (s : Session) (events : List ConnectionEvent) :
    s.connection.state.rank ≤ (s.run events).connection.state.rank :=
  run_induction (P := fun t => s.connection.state.rank ≤ t.connection.state.rank)
    (Nat.le_refl _) (fun t event h => Nat.le_trans h (t.turn_step event).rank_le) events

theorem run_coherent (coherent : s.connection.Coherent) (events : List ConnectionEvent) :
    (s.run events).connection.Coherent :=
  run_induction (P := fun t => t.connection.Coherent) coherent
    (fun t event h => (t.turn_step event).coherent h) events

/-- A connection that takes posts has a queue pair that was ready to send at some time. -/
theorem run_entered (before : s.connection.state.canPost = false) (events : List ConnectionEvent)
    (able : (s.run events).connection.state.canPost = true) :
    ∃ earlier later, events = earlier ++ later ∧
      (s.run earlier).connection.pairState = some .readyToSend := by
  induction events using List.reverseRecOn with
  | nil => rw [show (s.run []) = s from rfl, before] at able; cases able
  | append_singleton events event ih =>
    have turned := (s.run events).turn_step event
    rw [← run_concat] at turned
    rcases turned.entered able with already | now
    · obtain ⟨earlier, later, rfl, h⟩ := ih already
      exact ⟨earlier, later ++ [event], List.append_assoc _ _ _, h⟩
    · exact ⟨events ++ [event], [], (List.append_nil _).symm, now⟩

/-- Whatever is done with a connection, over whatever device and peer: it goes forward only; no
operation leaves it half way up; it is closed exactly when what it held is released; it takes posts
only with all that a post needs in place, over a queue pair that was ready to send; it becomes
active only in a drain that finds a success; and it is closed once.  So a post that passes the
check is never refused as out of place or for a closed connection. -/
theorem lifecycle_coherent (id : Nat) (role : Role) (transport : Transport)
    (settings : ConnectionSettings) (registration : Registration) (address : QueuePairAddress)
    (device : Device) (memory : Memory) (events : List ConnectionEvent) :
    let start : Session :=
      ⟨Connection.opened id role transport settings registration address, device, memory⟩
    let s := start.run events
    let c := s.connection
    (∀ later, c.state.rank ≤ (s.run later).connection.state.rank) ∧
    (c.state ≠ .parametersExchanged ∧ c.state ≠ .queuePairInit) ∧
    (c.state = .closed ↔ c.queuePair = none) ∧
    (c.state = .closed ↔ c.registration = none) ∧
    (c.state = .queuePairReady ∨ c.state = .active →
      c.ownRecord.isSome = true ∧ c.peerRecord.isSome = true ∧ c.registration.isSome = true ∧
      (∃ queuePair, c.queuePair = some queuePair ∧
        (queuePair.state = .readyToSend ∨ queuePair.state = .error)) ∧
      ∃ earlier later, events = earlier ++ later ∧
        (start.run earlier).connection.pairState = some .readyToSend) ∧
    (∀ event, c.state ≠ .active → (s.step event).connection.state = .active →
      event = .drain ∧ ∃ report ∈ s.drain.1, report.succeeded = true) ∧
    (c.state ≠ .closed → s.close.1 = .ok () ∧ s.close.2.connection.state = .closed ∧
      ∃ queuePair held, c.queuePair = some queuePair ∧ c.registration = some held ∧
        s.close.2.device =
          ((s.device.destroyQueuePair queuePair).2.2.deregister held.localKey).2) ∧
    (c.state = .closed → s.close = (.error (.alreadyClosed id), s)) ∧
    (∀ operation request offset length peerOffset,
      c.checkPostable (postName operation) = .ok () →
        Answer id (s.post operation request offset length peerOffset).1) ∧
    (∀ request, c.checkPostable "post_recv" = .ok () → Answer id (s.postReceive request).1) := by
  intro start s c
  have coherent : c.Coherent := run_coherent (Connection.coherent_opened ..) events
  have number : c.id = id := id_run start events
  refine ⟨run_rank_le s, coherent.settled, coherent.pair.trans Connection.pairState_eq_none,
    coherent.registration, fun able => ?_, fun event before after => ?_, fun alive => ?_,
    fun closed => ?_, fun operation request offset length peerOffset checked => ?_,
    fun request checked => ?_⟩
  · have able : c.state.canPost = true := by rcases able with h | h <;> rw [h] <;> rfl
    obtain ⟨held, own, peer, pair⟩ := in_place_of_postable coherent able
    exact ⟨own, peer, held, pair, run_entered rfl events able⟩
  · exact (s.turn_step event).activated before after
  · obtain ⟨pair, held⟩ := coherent.has alive
    rw [Connection.isSome_pairState] at pair
    obtain ⟨queuePair, hpair⟩ := Option.isSome_iff_exists.mp pair
    obtain ⟨held, hheld⟩ := Option.isSome_iff_exists.mp held
    rw [close_of_open alive]
    refine ⟨rfl, rfl, queuePair, held, hpair, hheld, ?_⟩
    have hpair' : s.connection.queuePair = some queuePair := hpair
    have hheld' : s.connection.registration = some held := hheld
    simp only [withConnection, release, hpair', hheld']
  · rw [close_closed (Connection.not_isOpen_iff.mpr closed), ← number]
  · rw [← number]
    exact answer_post coherent (postable_of_check checked) _ _ _ _ _
  · rw [← number]
    exact answer_postReceive coherent (postable_of_check checked) _

end Session

end RdmaLink
