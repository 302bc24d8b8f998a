import RdmaLink.Connection.Basic
import RdmaLink.Proofs.QueuePair.Moves

/-!
# What a connection holds of its device

A connection is made with a registration and a queue pair and is released with both.  In between
nothing that is done with it takes or gives up either:

    (session.begin).2, (session.activate exchange conditions).session, (session.post …).2,
    (session.postReceive request).2, session.deliver bytes ended, (session.drain).2

are all `Steady`: device and holding are the same after as before.  Making a connection charges
the device with one registration and one queue pair, or fails and leaves at most a local key
spent; releasing it takes both off again.

    (device.charged registration).relieved registration = device.spent
                                                                      (Device.relieved_charged)
-/

namespace RdmaLink

/-! ## Devices -/

namespace Registrations

/-- The table without the registration of a local key. -/
def without (table : Registrations) (key : UInt32) : Registrations :=
  { table with entries := table.entries.filter fun r => r.localKey != key }

/-- The table with one more registration, which displaces another of the same local key. -/
def having (table : Registrations) (registration : Registration) : Registrations :=
  ⟨(table.without registration.localKey).entries ++ [registration], registration.localKey⟩

/-- Local keys are given out in a circle. -/
theorem toNat_nextKey (table : Registrations) :
    table.nextKey.toNat = table.lastKey.toNat % (2 ^ 32 - 1) + 1 := by
  have sum : (table.lastKey + 1).toNat = (table.lastKey.toNat + 1) % 2 ^ 32 := UInt32.toNat_add _ _
  have small : table.lastKey.toNat < 2 ^ 32 := table.lastKey.toNat_lt
  unfold nextKey
  split
  · next zero =>
    rw [zero] at sum
    have sum : 0 = (table.lastKey.toNat + 1) % 2 ^ 32 := sum
    show 1 = _
    omega
  · next positive =>
    have positive : (table.lastKey + 1).toNat ≠ 0 := fun zero => positive (UInt32.toNat_inj.mp zero)
    omega

theorem insert_eq (table : Registrations) (id : RegionId) (region : Region) (access : Access)
    (draws : List UInt32) :
    ∃ registration, registration.localKey = table.nextKey ∧
      table.insert id region access draws = (registration, table.having registration) :=
  ⟨_, rfl, rfl⟩

theorem entries_without_unused {table : Registrations} {key : UInt32}
    (unused : ∀ r ∈ table.entries, r.localKey ≠ key) :
    (table.without key).entries = table.entries :=
  List.filter_eq_self.mpr fun r hr => by simpa using unused r hr

theorem remove?_getD (table : Registrations) (key : UInt32) :
    (table.remove? key).getD table = table.without key := by
  unfold remove?
  split
  · rfl
  · next unknown =>
    have unused : ∀ r ∈ table.entries, r.localKey ≠ key := by
      intro r hr
      simp only [byLocalKey?, List.find?_isSome, not_exists, not_and] at unknown
      simpa using unknown r hr
    exact congrArg (Registrations.mk · table.lastKey) (entries_without_unused unused).symm

@[simp] theorem without_having (table : Registrations) (registration : Registration) :
    (table.having registration).without registration.localKey =
      { table.without registration.localKey with lastKey := registration.localKey } := by
  simp [having, without, List.filter_append, List.filter_filter]

end Registrations

namespace Device

/-- Whether a device takes registrations back. -/
def Yields (device : Device) : Prop := DeviceCall.deregistering ∉ device.profile.refused

/-- The device after it has taken on a registration and a queue pair. -/
def charged (device : Device) (registration : Registration) : Device :=
  { device with
    registrations := device.registrations.having registration
    queuePairs := device.queuePairs + 1 }

/-- The device after it has given out the next local key for nothing. -/
def spent (device : Device) : Device :=
  { device with
    registrations :=
      { device.registrations.without device.registrations.nextKey with
        lastKey := device.registrations.nextKey } }

/-- The device after a registration and a queue pair were given back. -/
def relieved (device : Device) (registration : Registration) : Device :=
  { device with
    registrations := device.registrations.without registration.localKey
    queuePairs := device.queuePairs - 1 }

theorem relieved_charged {device : Device} {registration : Registration}
    (key : registration.localKey = device.registrations.nextKey) :
    (device.charged registration).relieved registration = device.spent := by
  rw [spent, ← key]
  simp only [relieved, charged, Registrations.without_having, Nat.add_sub_cancel]

theorem deregister_eq {device : Device} (yields : device.Yields) (key : UInt32) :
    (device.deregister key).2 =
      { device with registrations := device.registrations.without key } := by
  have takes : device.refusal .deregistering = none := if_neg yields
  rw [← device.registrations.remove?_getD key]
  unfold deregister
  rw [takes]
  split
  · cases ‹none = some _›
  · split
    · next h => rw [h]; rfl
    · next h => rw [h]; rfl

/-- A registration is refused, or it comes under the next local key. -/
theorem register_cases (device : Device) (id : RegionId) (region : Region) (access : Access)
    (draws : List UInt32) :
    (∃ e, device.register id region access draws = (.error e, device)) ∨
    (∃ registration, registration.localKey = device.registrations.nextKey ∧
      device.register id region access draws = (.ok registration,
        { device with registrations := device.registrations.having registration })) := by
  unfold register
  split
  · exact Or.inl ⟨_, rfl⟩
  · split
    · exact Or.inl ⟨_, rfl⟩
    · obtain ⟨registration, key, h⟩ := device.registrations.insert_eq id region access draws
      rw [h]
      exact Or.inr ⟨registration, key, rfl⟩

theorem register_eq_ok {device after : Device} {id : RegionId} {region : Region} {access : Access}
    {draws : List UInt32} {registration : Registration}
    (h : device.register id region access draws = (.ok registration, after)) :
    region.size ≤ device.profile.maxRegion ∧
      registration = (device.registrations.insert id region access draws).1 ∧
      after = { device with
        registrations := (device.registrations.insert id region access draws).2 } := by
  unfold register at h
  split at h
  · cases h
  · split at h
    · cases h
    · next fits =>
      cases h
      exact ⟨Nat.le_of_not_lt fits, rfl, rfl⟩

theorem createQueue_eq_ok {device : Device} {depth : Nat} {completions : CompletionQueue}
    (h : device.createQueue depth = .ok completions) :
    0 < depth ∧ completions = CompletionQueue.ofDepth depth := by
  unfold createQueue at h
  split at h
  · cases h
  · split at h
    · cases h
    · next within =>
      cases h
      exact ⟨Nat.pos_of_ne_zero fun zero => within (Or.inl zero), rfl⟩

/-- A queue pair is refused, or a fresh one takes a place. -/
theorem createQueuePair_cases (device : Device) (port index : UInt8) (linkTimeout : Milliseconds)
    (lot : QueuePairLot) :
    (∃ e, device.createQueuePair port index linkTimeout lot = (.error e, device)) ∨
    (∃ address, device.createQueuePair port index linkTimeout lot =
      (.ok (QueuePair.fresh address linkTimeout),
        { device with queuePairs := device.queuePairs + 1 })) := by
  unfold createQueuePair
  split
  · exact Or.inl ⟨_, rfl⟩
  · split
    · exact Or.inl ⟨_, rfl⟩
    · split
      · exact Or.inl ⟨_, rfl⟩
      · split
        · exact Or.inl ⟨_, rfl⟩
        · exact Or.inr ⟨_, rfl⟩

theorem createQueuePair_eq_ok {device after : Device} {port index : UInt8}
    {linkTimeout : Milliseconds} {lot : QueuePairLot} {queuePair : QueuePair}
    (h : device.createQueuePair port index linkTimeout lot = (.ok queuePair, after)) :
    device.queuePairs < device.profile.maxQueuePairs ∧
      ∃ address, queuePair = QueuePair.fresh address linkTimeout ∧
        after = { device with queuePairs := device.queuePairs + 1 } := by
  unfold createQueuePair at h
  split at h
  · cases h
  · split at h
    · cases h
    · split at h
      · cases h
      · next free =>
        split at h
        · cases h
        · cases h
          exact ⟨Nat.lt_of_not_le free, _, rfl, rfl⟩

end Device

/-! ## Holdings -/

/-- What a connection holds of its device. -/
structure Holding where
  connection : Nat
  registration : Option Registration
  /-- Whether there is a queue pair that is not destroyed. -/
  hasPair : Bool
  /-- Whether the connection is not closed. -/
  isOpen : Bool
deriving DecidableEq

namespace Connection

def holding (connection : Connection) : Holding :=
  { connection := connection.id
    registration := connection.registration
    hasPair := connection.queuePair.any fun queuePair => !queuePair.destroyed
    isOpen := connection.state != .closed }

theorem isOpen_iff {connection : Connection} :
    connection.holding.isOpen = true ↔ connection.state ≠ .closed := bne_iff_ne

theorem not_isOpen_iff {connection : Connection} :
    connection.holding.isOpen = false ↔ connection.state = .closed := by
  simp [holding]

/-! ## What the lifecycle leaves as it is -/

/-- No event but the close leads to the closed state, and none leads out of it. -/
theorem open_of_next? {role : Role} {state next : LifecycleState} {event : LifecycleEvent}
    (h : Lifecycle.next? role state event = some next) (other : event ≠ .close) :
    (next != .closed) = (state != .closed) := by
  cases state <;> cases event <;> simp_all [Lifecycle.next?, LifecycleState.isTerminal]
  all_goals
    obtain ⟨-, rfl⟩ := h
    rfl

theorem holding_apply {connection after : Connection} {event : LifecycleEvent}
    {operation : String} (h : connection.apply event operation = .ok after)
    (other : event ≠ .close) : after.holding = connection.holding := by
  unfold apply Lifecycle.step at h
  cases hn : Lifecycle.next? connection.lifecycle.role connection.lifecycle.state event with
  | none => rw [hn] at h; cases h
  | some next =>
    rw [hn] at h
    cases h
    have same := open_of_next? hn other
    simp only [holding, state, same]

theorem holding_after {connection : Connection} {event : LifecycleEvent}
    (other : event ≠ .close) :
    Connection.holding { connection with lifecycle := connection.lifecycle.after event } =
      connection.holding := by
  unfold Lifecycle.after Lifecycle.step
  cases hn : Lifecycle.next? connection.lifecycle.role connection.lifecycle.state event with
  | none => rfl
  | some next =>
    have same := open_of_next? hn other
    simp only [holding, state, same]

theorem holding_faulted (connection : Connection) :
    connection.faulted.holding = connection.holding :=
  holding_after (by decide)

theorem holding_begin {connection after : Connection} (h : connection.begin = .ok after) :
    after.holding = connection.holding := by
  unfold begin at h
  split at h
  · exact holding_apply h (by decide)
  · exact holding_apply h (by decide)

theorem holding_observe (connection : Connection) (completion : Completion) :
    (Session.observe connection completion).holding = connection.holding := by
  unfold Session.observe
  split
  · split
    · exact holding_after (by decide)
    · rfl
  · split
    · rfl
    · exact holding_faulted connection

end Connection

/-! ## Calls that destroy no queue pair -/

namespace QueuePair

theorem destroyed_toInit {q after : QueuePair} {access : Access}
    (h : q.toInit access = .ok after) : after.destroyed = q.destroyed := by
  rw [(toInit_eq_ok h).2]

theorem destroyed_attach {q after : QueuePair} {stream : Stream}
    (h : q.attach stream = .ok after) : after.destroyed = q.destroyed := by
  rw [(attach_eq_ok h).2]

theorem destroyed_toReadyToReceive (q : QueuePair) (peer : QueuePairAddress) (ip : IpAddress)
    (conditions : LinkConditions) :
    (q.toReadyToReceive peer ip conditions).queuePair.destroyed = q.destroyed := by
  rcases q.toReadyToReceive_cases peer ip conditions with
    ⟨e, -, h⟩ | ⟨-, ⟨e, tried, h⟩ | ⟨link, h⟩⟩ <;> rw [h]

theorem destroyed_toReadyToSend {q after : QueuePair} (h : q.toReadyToSend = .ok after) :
    after.destroyed = q.destroyed := by
  rw [(toReadyToSend_eq_ok h).2.2]

end QueuePair

/-! ## Sessions -/

namespace Session

/-- Nothing was taken from the device and nothing given back. -/
structure Steady (s t : Session) : Prop where
  device : t.device = s.device
  holding : t.connection.holding = s.connection.holding

theorem Steady.refl (s : Session) : Steady s s := ⟨rfl, rfl⟩

theorem Steady.trans {s t u : Session} (h : Steady s t) (h' : Steady t u) : Steady s u :=
  ⟨h'.device.trans h.device, h'.holding.trans h.holding⟩

theorem steady_withConnection (s : Session) {connection : Connection}
    (same : connection.holding = s.connection.holding) : Steady s (s.withConnection connection) :=
  ⟨rfl, same⟩

theorem steady_withQueuePair {s : Session} {q after : QueuePair}
    (present : s.connection.queuePair = some q) (same : after.destroyed = q.destroyed) :
    Steady s (s.withQueuePair after) := by
  refine ⟨rfl, ?_⟩
  simp only [withQueuePair, withConnection, Connection.holding, Connection.state, present,
    Option.any_some, same]

theorem steady_withStation {s : Session} {station after : Station}
    (present : s.station? = some station)
    (same : after.queuePair.destroyed = station.queuePair.destroyed) :
    Steady s (s.withStation after) := by
  simp only [station?, Option.map_eq_some_iff] at present
  obtain ⟨q, hq, rfl⟩ := present
  refine ⟨rfl, ?_⟩
  simp only [withStation, Connection.holding, Connection.state, hq, Option.any_some, same]

/-! ### Coming up -/

theorem steady_begin (s : Session) : Steady s s.begin.2 := by
  unfold begin
  split
  · exact .refl s
  · next h => exact steady_withConnection s (Connection.holding_begin h)

theorem steady_link {s : Session} {q : QueuePair} (present : s.connection.queuePair = some q)
    (peer : Record) (conditions : LinkConditions) :
    Steady s (s.link q peer conditions).session := by
  unfold link
  split
  · exact .refl s
  · next connection h =>
    have first : Steady s (s.withConnection connection) :=
      steady_withConnection s (Connection.holding_apply h (by decide))
    have kept : connection.queuePair = some q := by
      unfold Connection.apply at h
      split at h
      · cases h; exact present
      · cases h
    dsimp only
    split
    · exact first
    · generalize hattempt : q.toReadyToReceive peer.queuePair (peerIp peer) conditions = attempt
      have tried : attempt.queuePair.destroyed = q.destroyed := by
        rw [← hattempt]; exact QueuePair.destroyed_toReadyToReceive _ _ _ _
      have second : Steady s ((s.withConnection connection).withQueuePair attempt.queuePair) :=
        first.trans (steady_withQueuePair kept tried)
      split
      · exact second
      · split
        · exact second
        · split
          · exact second
          · next ready hready =>
            have third := second.trans (steady_withQueuePair
              (s := (s.withConnection connection).withQueuePair attempt.queuePair) rfl
              (QueuePair.destroyed_toReadyToSend hready))
            split
            · exact third
            · next active hactive =>
              exact third.trans (steady_withConnection _
                (Connection.holding_apply hactive (by decide)))

theorem steady_bringUp (s : Session) (exchange : Exchange) (conditions : LinkConditions) :
    Steady s (s.bringUp exchange conditions).session := by
  unfold bringUp
  split
  · exact .refl s
  · next q present =>
    split
    · exact .refl s
    · split
      · exact .refl s
      · next ready hready =>
        have first : Steady s (s.withQueuePair ready) :=
          steady_withQueuePair present (QueuePair.destroyed_toInit hready)
        dsimp only
        split
        · exact first.trans (steady_link rfl _ _)
        · split
          · exact first
          · split
            · exact first
            · next attached hattached =>
              have second := first.trans (steady_withQueuePair (s := s.withQueuePair ready) rfl
                (QueuePair.destroyed_attach hattached))
              exact second.trans (steady_link rfl _ _)

theorem steady_activate (s : Session) (exchange : Exchange) (conditions : LinkConditions) :
    Steady s (s.activate exchange conditions).session := by
  unfold activate
  split
  · exact .refl s
  · next connection h =>
    have same := Connection.holding_apply h (by decide)
    dsimp only
    generalize hinformed : s.withConnection
      { connection with ownRecord := some exchange.own, peerRecord := some exchange.peer } =
        informed
    have first : Steady s informed := by
      rw [← hinformed]; exact steady_withConnection s same
    have second := first.trans (steady_bringUp informed exchange conditions)
    split
    · exact second
    · exact second.trans (steady_withConnection _ (Connection.holding_faulted _))

/-! ### Working -/

theorem steady_postFailed (s : Session) (cause : DeviceError) :
    Steady s (s.postFailed cause).2 := by
  unfold postFailed
  split
  · split
    · exact steady_withConnection s (Connection.holding_faulted _)
    · exact .refl s
  · exact .refl s

theorem steady_post (s : Session) (operation : SendOperation) (request : UInt64)
    (offset length peerOffset : Nat) :
    Steady s (s.post operation request offset length peerOffset).2 := by
  unfold post
  split
  · exact .refl s
  · split
    · exact .refl s
    · next send _ =>
      split
      · exact .refl s
      · next station present =>
        split
        · exact steady_postFailed s _
        · have moved := (Station.moves_postSend s.device.registrations station send).destroyed
          have posted := steady_withStation present moved
          split
          · next h => rw [h] at posted; exact posted
          · next h => rw [h] at posted; exact posted.trans (steady_postFailed _ _)

theorem steady_postReceive (s : Session) (request : UInt64) :
    Steady s (s.postReceive request).2 := by
  unfold postReceive
  split
  · exact .refl s
  · split
    · exact .refl s
    · next station present =>
      split
      · exact steady_postFailed s _
      · have moved := (Station.moves_postReceive station request).destroyed
        have posted := steady_withStation present moved
        split
        · next h => rw [h] at posted; exact posted
        · next h => rw [h] at posted; exact posted.trans (steady_postFailed _ _)

theorem steady_settle (s : Session) : Steady s s.settle := by
  unfold settle
  split
  · next station present =>
    exact steady_withStation present (Station.moves_settle _ station).destroyed
  · exact .refl s

theorem steady_deliver (s : Session) (bytes : Bytes) (ended : Bool) :
    Steady s (s.deliver bytes ended) := by
  unfold deliver
  split
  · next q present =>
    dsimp only
    refine Steady.trans ?_ (steady_settle _)
    exact steady_withQueuePair present rfl
  · exact .refl s

theorem steady_drain (s : Session) : Steady s s.drain.2 := by
  have observed (reports : List Completion) (connection : Connection) :
      (reports.foldl observe connection).holding = connection.holding := by
    induction reports generalizing connection with
    | nil => rfl
    | cons report rest ih => exact (ih _).trans (Connection.holding_observe connection report)
  unfold drain
  exact steady_withConnection s (observed _ _)

/-! ### Being released -/

/-- What a connection holds is given back. -/
theorem release_eq {s : Session} (yields : s.device.Yields) {id : Nat}
    {registration : Registration} {isOpen : Bool}
    (held : s.connection.holding = ⟨id, some registration, true, isOpen⟩) :
    s.release.device = s.device.relieved registration ∧
      s.release.connection.holding = ⟨id, none, false, isOpen⟩ := by
  simp only [Connection.holding, Holding.mk.injEq] at held
  obtain ⟨hid, hr, hq, hopen⟩ := held
  cases hpair : s.connection.queuePair with
  | none => rw [hpair] at hq; cases hq
  | some q =>
    have whole : q.destroyed = false := by
      rw [hpair, Option.any_some] at hq
      simpa using hq
    constructor
    · have freed : ({ s.device with queuePairs := s.device.queuePairs - 1 } : Device).Yields :=
        yields
      unfold release
      simp only [hpair, hr, Device.destroyQueuePair, whole, Bool.false_eq_true, if_false]
      exact Device.deregister_eq freed _
    · simp only [release, Connection.holding, Connection.state] at hopen ⊢
      rw [hid, hopen]
      rfl

/-- An open connection is released and closed. -/
theorem close_of_open {s : Session} (alive : s.connection.state ≠ .closed) :
    s.close = (.ok (), s.release.withConnection
      { s.release.connection with lifecycle := ⟨.closed, s.connection.role⟩ }) := by
  have closes : Lifecycle.next? s.connection.lifecycle.role s.connection.lifecycle.state .close =
      some .closed := by
    have alive' : s.connection.lifecycle.state ≠ .closed := alive
    cases hstate : s.connection.lifecycle.state <;> simp_all [Lifecycle.next?,
      LifecycleState.isTerminal]
  have applied : s.release.connection.apply .close "close" =
      .ok { s.release.connection with lifecycle := ⟨.closed, s.connection.role⟩ } := by
    have same : s.release.connection.lifecycle = s.connection.lifecycle := rfl
    unfold Connection.apply Lifecycle.step
    rw [same, closes]
    rfl
  unfold close
  rw [if_neg alive]
  dsimp only
  rw [applied]

/-- An open connection is closed, and what it holds is given back. -/
theorem close_eq {s : Session} (yields : s.device.Yields) {id : Nat}
    {registration : Registration}
    (held : s.connection.holding = ⟨id, some registration, true, true⟩) :
    s.close.1 = .ok () ∧ s.close.2.device = s.device.relieved registration ∧
      s.close.2.connection.holding = ⟨id, none, false, false⟩ := by
  obtain ⟨hdevice, hholding⟩ := release_eq yields held
  rw [close_of_open (Connection.isOpen_iff.mp (congrArg Holding.isOpen held))]
  refine ⟨rfl, hdevice, ?_⟩
  simp only [Connection.holding, Holding.mk.injEq] at hholding ⊢
  exact ⟨hholding.1, hholding.2.1, hholding.2.2.1, rfl⟩

/-- A closed connection is not closed again. -/
theorem close_closed {s : Session} (closed : s.connection.holding.isOpen = false) :
    s.close = (.error (.alreadyClosed s.connection.id), s) := by
  rw [close, if_pos (Connection.not_isOpen_iff.mp closed)]

end Session

end RdmaLink
