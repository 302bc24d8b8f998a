import Mathlib.Data.List.Nodup
import Mathlib.Data.List.Perm.Subperm
import Mathlib.Logic.Function.Iterate
import RdmaLink.Proofs.Device.Lifetimes
import RdmaLink.Proofs.Endpoint.Books
import RdmaLink.Proofs.Endpoint.Publication

/-!
# The resources of an endpoint

Whatever is done with an endpoint over the software device, and whatever comes of it, the device
has as many queue pairs as the endpoint has connections that are not closed, and the same number
of registrations.

    e.device.queuePairs = e.openIds.length
    start.KeysFree events → e.device.registrations.count = e.openIds.length
                                                         (Stand.resources_accounted)

Local keys are given out in a circle of `2 ^ 32 - 1` words.  After a whole round the next key may
be one that is still in use, and the registration that has it is displaced
(`Books.Enrolled.displaced`; `Books.KeyFree` says that the key is not in use).  In fewer attempts
than that it does not happen; a round of attempts that are refused leaves a connection without its
registration (`Stand.open_without_registration`).
-/

namespace RdmaLink

namespace Books

/-- The registrations that connections hold. -/
def held (b : Books) : List Registration := b.holdings.filterMap fun entry => entry.2.registration

/-- The next local key is not held by a connection. -/
def KeyFree (b : Books) : Prop := ∀ r ∈ b.held, r.localKey ≠ b.device.registrations.nextKey

theorem held_length {b : Books} (sound : b.Sound) : b.held.length = b.device.queuePairs := by
  have counted (entries : List (Nat × Holding))
      (whole : ∀ entry ∈ entries, entry.2 = void entry.1 ∨ ∃ registration,
        entry.2 = full entry.1 registration) :
      (entries.filterMap fun entry => entry.2.registration).length =
        entries.countP fun entry => entry.2.isOpen := by
    induction entries with
    | nil => rfl
    | cons entry rest ih =>
      have later := ih fun other h => whole other (List.mem_cons_of_mem _ h)
      rcases whole entry (List.mem_cons_self ..) with h | ⟨registration, h⟩
      · simp [h, void, later]
      · simp [h, full, later]
  rw [sound.places]
  exact counted b.holdings sound.whole

theorem held_gained {b t : Books} (h : b.Gained t) :
    ∃ registration, registration.localKey = b.device.registrations.nextKey ∧
      t.held = b.held ++ [registration] ∧ t.device = b.device.charged registration ∧
      t.nextConnection = b.nextConnection + 1 := by
  obtain ⟨registration, key, rfl⟩ := h
  refine ⟨registration, key, ?_, rfl, rfl⟩
  simp [held, full]

theorem held_released {b t : Books} {id : Nat} {registration : Registration}
    (h : b.Released id registration t) :
    ∃ former later, b.held = former ++ registration :: later ∧ t.held = former ++ later ∧
      t.device = b.device.relieved registration ∧ t.nextConnection = b.nextConnection := by
  obtain ⟨before, after, split, rfl⟩ := h
  refine ⟨before.filterMap fun entry => entry.2.registration,
    after.filterMap fun entry => entry.2.registration, ?_, ?_, rfl, rfl⟩
  · simp [held, split, full]
  · simp [held, void]

/-! ## No registration without a connection -/

/-- Every registration of the device is held by a connection. -/
structure Owned (b : Books) : Prop where
  owned : ∀ r ∈ b.device.registrations.entries, r ∈ b.held
  distinct : (b.device.registrations.entries.map Registration.localKey).Nodup

theorem nodup_without {table : Registrations}
    (distinct : (table.entries.map Registration.localKey).Nodup) (key : UInt32) :
    ((table.without key).entries.map Registration.localKey).Nodup :=
  distinct.sublist (List.Sublist.map _ List.filter_sublist)

theorem Owned.missed {b t : Books} (owned : b.Owned) (h : b.Missed t) : t.Owned := by
  rcases h with rfl | ⟨device, rfl | rfl, rfl⟩
  · exact owned
  · exact ⟨owned.owned, owned.distinct⟩
  · exact ⟨fun r hr => owned.owned r (List.mem_filter.mp hr).1, nodup_without owned.distinct _⟩

theorem Owned.gained {b t : Books} (owned : b.Owned) (h : b.Gained t) : t.Owned := by
  obtain ⟨registration, -, hh, hd, -⟩ := held_gained h
  have entries : t.device.registrations.entries =
      (b.device.registrations.without registration.localKey).entries ++ [registration] := by
    rw [hd]; rfl
  constructor
  · intro r hr
    rw [entries] at hr
    rw [hh]
    rcases List.mem_append.mp hr with old | new
    · exact List.mem_append_left _ (owned.owned r (List.mem_filter.mp old).1)
    · exact List.mem_append_right _ new
  · rw [entries, List.map_append, List.map_singleton, List.nodup_append]
    refine ⟨nodup_without owned.distinct _, List.pairwise_singleton _ _, fun a ha c hc same => ?_⟩
    obtain ⟨r, hr, rfl⟩ := List.mem_map.mp ha
    have other := (List.mem_filter.mp hr).2
    rw [same, List.mem_singleton.mp hc, bne_self_eq_false] at other
    cases other

theorem Owned.released {b t : Books} {id : Nat} {registration : Registration} (owned : b.Owned)
    (h : b.Released id registration t) : t.Owned := by
  obtain ⟨former, later, before, after, hd, -⟩ := held_released h
  constructor
  · intro r hr
    rw [hd] at hr
    obtain ⟨old, other⟩ := List.mem_filter.mp hr
    have mem := owned.owned r old
    rw [before] at mem
    rw [after]
    rcases List.mem_append.mp mem with mem | mem
    · exact List.mem_append_left _ mem
    · rcases List.mem_cons.mp mem with rfl | mem
      · rw [bne_self_eq_false] at other; cases other
      · exact List.mem_append_right _ mem
  · rw [hd]; exact nodup_without owned.distinct _

/-- The device has no more registrations than connections hold. -/
theorem Owned.count_le {b : Books} (owned : b.Owned) :
    b.device.registrations.count ≤ b.held.length :=
  (List.subperm_of_subset (List.Nodup.of_map _ owned.distinct) owned.owned).length_le

/-! ## No connection without its registration -/

/-- The registrations of the device are those that connections hold. -/
def Enrolled (b : Books) : Prop := b.device.registrations.entries.Perm b.held

theorem Enrolled.free {b : Books} (enrolled : b.Enrolled) (free : b.KeyFree) :
    (b.device.registrations.without b.device.registrations.nextKey).entries =
      b.device.registrations.entries :=
  Registrations.entries_without_unused fun r hr => free r (enrolled.mem_iff.mp hr)

theorem Enrolled.missed {b t : Books} (enrolled : b.Enrolled) (free : b.KeyFree)
    (h : b.Missed t) : t.Enrolled := by
  rcases h with rfl | ⟨device, rfl | rfl, rfl⟩
  · exact enrolled
  · exact enrolled
  · show (b.device.registrations.without b.device.registrations.nextKey).entries.Perm b.held
    rw [enrolled.free free]
    exact enrolled

theorem Enrolled.gained {b t : Books} (enrolled : b.Enrolled) (free : b.KeyFree)
    (h : b.Gained t) : t.Enrolled := by
  obtain ⟨registration, key, hh, hd, -⟩ := held_gained h
  unfold Enrolled
  rw [hh, hd]
  show ((b.device.registrations.without registration.localKey).entries ++ [registration]).Perm _
  rw [key, enrolled.free free]
  exact List.Perm.append_right _ enrolled

/-- Under distinct keys nothing goes with a registration but itself. -/
theorem filter_of_distinct {former later : List Registration} {registration : Registration}
    (distinct : ((former ++ registration :: later).map Registration.localKey).Nodup) :
    (former ++ registration :: later).filter (fun r => r.localKey != registration.localKey) =
      former ++ later := by
  rw [List.map_append, List.map_cons, List.nodup_append, List.nodup_cons] at distinct
  obtain ⟨-, ⟨unique, -⟩, apart⟩ := distinct
  have hformer : ∀ r ∈ former, (r.localKey != registration.localKey) = true := fun r hr =>
    bne_iff_ne.mpr (apart _ (List.mem_map_of_mem hr) _ (List.mem_cons_self ..))
  have hlater : ∀ r ∈ later, (r.localKey != registration.localKey) = true := fun r hr =>
    bne_iff_ne.mpr fun same => unique (same ▸ List.mem_map_of_mem hr)
  rw [List.filter_append, List.filter_cons, bne_self_eq_false, if_neg (by decide),
    List.filter_eq_self.mpr hformer, List.filter_eq_self.mpr hlater]

theorem Enrolled.released {b t : Books} {id : Nat} {registration : Registration}
    (enrolled : b.Enrolled) (owned : b.Owned) (h : b.Released id registration t) :
    t.Enrolled := by
  obtain ⟨former, later, before, after, hd, -⟩ := held_released h
  have distinct : (b.held.map Registration.localKey).Nodup :=
    (enrolled.map Registration.localKey).nodup_iff.mp owned.distinct
  rw [before] at distinct
  unfold Enrolled at enrolled ⊢
  rw [hd, after, ← filter_of_distinct distinct, ← before]
  exact enrolled.filter _

/-- A key that is in use must not come next: even an attempt that comes to nothing takes the
registration of that key away. -/
theorem Enrolled.displaced {b : Books} (enrolled : b.Enrolled) (owned : b.Owned)
    (used : ¬ b.KeyFree) : b.device.spent.registrations.count + 1 = b.held.length := by
  simp only [KeyFree, not_forall, Classical.not_not] at used
  obtain ⟨registration, held, key⟩ := used
  obtain ⟨former, later, split⟩ := List.append_of_mem (enrolled.mem_iff.mpr held)
  have distinct := owned.distinct
  rw [split] at distinct
  have left : b.device.spent.registrations.entries = former ++ later := by
    rw [← filter_of_distinct distinct, ← split, key]
    rfl
  have full : b.device.registrations.entries.length = b.held.length := enrolled.length_eq
  rw [split] at full
  simp only [Registrations.count, left, List.length_append, List.length_cons] at full ⊢
  omega

/-! ## Keys that were not given out before -/

/-- Keys are counted up with the attempts, and until they have gone round, those in use are not
greater than the last one. -/
structure Numbered (b : Books) : Prop where
  last : b.device.registrations.lastKey.toNat < b.nextConnection
  old : b.nextConnection ≤ 2 ^ 32 →
    ∀ r ∈ b.held, r.localKey.toNat ≤ b.device.registrations.lastKey.toNat

theorem Numbered.free {b : Books} (numbered : b.Numbered) (few : b.nextConnection < 2 ^ 32) :
    b.KeyFree := by
  intro r hr same
  have old := numbered.old (Nat.le_of_lt few) r hr
  have last := numbered.last
  have next := b.device.registrations.toNat_nextKey
  rw [same, next] at old
  omega

theorem Numbered.missed {b t : Books} (numbered : b.Numbered) (h : b.Missed t) : t.Numbered := by
  have next := b.device.registrations.toNat_nextKey
  have last := numbered.last
  rcases h with rfl | ⟨device, rfl | rfl, rfl⟩
  · exact numbered
  · exact ⟨Nat.lt_succ_of_lt last, fun few => numbered.old (Nat.le_of_succ_le few)⟩
  · constructor
    · show b.device.registrations.nextKey.toNat < b.nextConnection + 1
      omega
    · intro few r hr
      have few : b.nextConnection + 1 ≤ 2 ^ 32 := few
      have old := numbered.old (by omega) r hr
      show _ ≤ b.device.registrations.nextKey.toNat
      omega

theorem Numbered.gained {b t : Books} (numbered : b.Numbered) (h : b.Gained t) : t.Numbered := by
  obtain ⟨registration, key, hh, hd, hn⟩ := held_gained h
  have next := b.device.registrations.toNat_nextKey
  have last := numbered.last
  have lastKey : t.device.registrations.lastKey = b.device.registrations.nextKey := by
    rw [hd, ← key]; rfl
  constructor
  · rw [lastKey, hn]
    omega
  · intro few r hr
    rw [hn] at few
    rw [hh] at hr
    rw [lastKey]
    rcases List.mem_append.mp hr with hr | hr
    · have old := numbered.old (by omega) r hr
      omega
    · have same : r.localKey = b.device.registrations.nextKey := by
        rw [List.mem_singleton.mp hr, key]
      exact Nat.le_of_eq (congrArg UInt32.toNat same)

theorem Numbered.released {b t : Books} {id : Nat} {registration : Registration}
    (numbered : b.Numbered) (h : b.Released id registration t) : t.Numbered := by
  obtain ⟨former, later, before, after, hd, hn⟩ := held_released h
  have lastKey : t.device.registrations.lastKey = b.device.registrations.lastKey := by
    rw [hd]; rfl
  constructor
  · rw [lastKey, hn]; exact numbered.last
  · intro few r hr
    rw [hn] at few
    rw [lastKey]
    refine numbered.old few r ?_
    rw [before]
    rw [after] at hr
    rcases List.mem_append.mp hr with hr | hr
    · exact List.mem_append_left _ hr
    · exact List.mem_append_right _ (List.mem_cons_of_mem _ hr)

/-! ## All of it -/

/-- What holds of the books of an endpoint after every run. -/
structure Kept (b : Books) : Prop where
  sound : b.Sound
  owned : b.Owned
  numbered : b.Numbered

theorem kept_opened (config : EndpointConfig) (publication : Publication) (region : Region) :
    (Endpoint.opened config Device.soft publication region).books.Kept := by
  constructor
  · constructor
    · rfl
    · show DeviceCall.deregistering ∉ []
      exact List.not_mem_nil
    · exact List.nodup_nil
    · intro entry he
      cases he
    · intro entry he
      cases he
    · rfl
  · constructor
    · intro r hr
      cases hr
    · exact List.nodup_nil
  · constructor
    · exact Nat.zero_lt_one
    · intro _ r hr
      cases hr

theorem Kept.missed {b t : Books} (kept : b.Kept) (h : b.Missed t) : t.Kept :=
  ⟨kept.sound.missed h, kept.owned.missed h, kept.numbered.missed h⟩

theorem Kept.gained {b t : Books} (kept : b.Kept) (h : b.Gained t) : t.Kept :=
  ⟨kept.sound.gained h, kept.owned.gained h, kept.numbered.gained h⟩

theorem Kept.released {b t : Books} {id : Nat} {registration : Registration} (kept : b.Kept)
    (h : b.Released id registration t) : t.Kept :=
  ⟨kept.sound.released h, kept.owned.released h, kept.numbered.released h⟩

theorem Kept.releases {b t : Books} (kept : b.Kept) (h : Releases b t) : t.Kept := by
  induction h with
  | refl => exact kept
  | step _ last ih => exact ih.released last

theorem Enrolled.releases {b t : Books} (enrolled : b.Enrolled) (kept : b.Kept)
    (h : Releases b t) : t.Enrolled := by
  induction h with
  | refl => exact enrolled
  | step earlier last ih => exact ih.released (kept.releases earlier).owned last

end Books

namespace Stand

/-! ## Runs -/

/-- At no event of a run the local key that is next is in use. -/
def KeysFree : Stand → List EndpointEvent → Prop
  | _, [] => True
  | stand, event :: rest => stand.endpoint.books.KeyFree ∧ (stand.step event).KeysFree rest

theorem kept_step {stand : Stand} (kept : stand.endpoint.books.Kept) (event : EndpointEvent) :
    (stand.step event).endpoint.books.Kept := by
  rcases stand.booked_step kept.sound event with missed | gained | releases
  · exact kept.missed missed
  · exact kept.gained gained
  · exact kept.releases releases

theorem kept_run {stand : Stand} (kept : stand.endpoint.books.Kept)
    (events : List EndpointEvent) : (stand.run events).endpoint.books.Kept :=
  run_induction (P := fun s => s.endpoint.books.Kept) kept (fun _ event h => kept_step h event)
    events

theorem enrolled_step {stand : Stand} (kept : stand.endpoint.books.Kept)
    (enrolled : stand.endpoint.books.Enrolled) (free : stand.endpoint.books.KeyFree)
    (event : EndpointEvent) : (stand.step event).endpoint.books.Enrolled := by
  rcases stand.booked_step kept.sound event with missed | gained | releases
  · exact enrolled.missed free missed
  · exact enrolled.gained free gained
  · exact enrolled.releases kept releases

theorem enrolled_run {stand : Stand} {events : List EndpointEvent}
    (kept : stand.endpoint.books.Kept) (enrolled : stand.endpoint.books.Enrolled)
    (free : stand.KeysFree events) : (stand.run events).endpoint.books.Enrolled := by
  induction events generalizing stand with
  | nil => exact enrolled
  | cons event rest ih =>
    exact ih (kept_step kept event) (enrolled_step kept enrolled free.1 event) free.2

theorem nextConnection_step {stand : Stand} (sound : stand.endpoint.books.Sound)
    (event : EndpointEvent) :
    stand.endpoint.nextConnection ≤ (stand.step event).endpoint.nextConnection := by
  have counted : stand.endpoint.books.nextConnection ≤
      (stand.step event).endpoint.books.nextConnection := by
    rcases stand.booked_step sound event with missed | gained | releases
    · rcases missed with same | ⟨_, -, same⟩
      · exact Nat.le_of_eq (congrArg Books.nextConnection same).symm
      · rw [same]; exact Nat.le_succ _
    · obtain ⟨_, -, -, -, next⟩ := Books.held_gained gained
      rw [next]
      exact Nat.le_succ _
    · generalize (stand.step event).endpoint.books = after at releases
      induction releases with
      | refl => exact Nat.le_refl _
      | step _ last ih =>
        obtain ⟨_, _, -, -, -, next⟩ := Books.held_released last
        rw [next]
        exact ih
  exact counted

theorem nextConnection_run {stand : Stand} (kept : stand.endpoint.books.Kept)
    (events : List EndpointEvent) :
    stand.endpoint.nextConnection ≤ (stand.run events).endpoint.nextConnection := by
  induction events generalizing stand with
  | nil => exact Nat.le_refl _
  | cons event rest ih =>
    exact Nat.le_trans (nextConnection_step kept.sound event) (ih (kept_step kept event))

/-- Fewer attempts than there are keys do not come to a key that is in use. -/
theorem keysFree_of_few {stand : Stand} {events : List EndpointEvent}
    (kept : stand.endpoint.books.Kept)
    (few : (stand.run events).endpoint.nextConnection < 2 ^ 32) : stand.KeysFree events := by
  induction events generalizing stand with
  | nil => trivial
  | cons event rest ih =>
    have before := nextConnection_run kept (event :: rest)
    exact ⟨kept.numbered.free (Nat.lt_of_le_of_lt before few), ih (kept_step kept event) few⟩

/-- An attempt to bring a connection up that ends with an error. -/
def Fails (stand : Stand) : EndpointEvent → Prop
  | .accept listener conditions => ∃ fault,
    (stand.endpoint.accept listener conditions stand.board).outcome.result = .error fault
  | .listen address binding conditions => ∃ fault,
    (stand.endpoint.listen address binding conditions stand.board).outcome.result = .error fault
  | .connect address conditions => ∃ fault,
    (stand.endpoint.connect address conditions stand.board).outcome.result = .error fault
  | _ => False

theorem missed_of_fails {stand : Stand} (sound : stand.endpoint.books.Sound)
    {event : EndpointEvent} (fails : stand.Fails event) :
    (stand.step event).endpoint.connections = stand.endpoint.connections ∧
      stand.endpoint.books.Missed (stand.step event).endpoint.books := by
  have tried {result : Except EndpointError Nat} {t : Endpoint}
      (h : stand.endpoint.Tried result t) (failed : ∃ fault, result = .error fault) :
      t.connections = stand.endpoint.connections ∧ stand.endpoint.books.Missed t.books := by
    obtain ⟨fault, rfl⟩ := failed
    exact h
  cases event with
  | accept listener conditions =>
    exact tried (Endpoint.tried_accept sound.alone sound.yields _ _ _) fails
  | listen address binding conditions =>
    exact tried (Endpoint.tried_listen sound.alone sound.yields _ _ _ _) fails
  | connect address conditions =>
    exact tried (Endpoint.tried_connect sound.alone sound.yields _ _ _) fails
  | _ => exact fails.elim

end Stand

namespace Endpoint

theorem openIds_length {e : Endpoint} (sound : e.books.Sound) :
    e.openIds.length = e.device.queuePairs := by
  have places : e.device.queuePairs = e.books.holdings.countP fun entry => entry.2.isOpen :=
    sound.places
  rw [places, openIds, List.length_map, ← List.countP_eq_length_filter]
  simp only [books, List.countP_map]
  rfl

theorem exists_of_owned {e : Endpoint} (owned : e.books.Owned) {r : Registration}
    (h : r ∈ e.device.registrations.entries) :
    ∃ entry ∈ e.connections, entry.2.registration = some r := by
  obtain ⟨listed, mem, held⟩ := List.mem_filterMap.mp (owned.owned r h)
  obtain ⟨entry, he, rfl⟩ := List.mem_map.mp mem
  exact ⟨entry, he, held⟩

/-- What a failed attempt leaves as it was. -/
theorem same_of_missed {e t : Endpoint} (owned : e.books.Owned) (missed : e.books.Missed t.books) :
    t.device.queuePairs = e.device.queuePairs ∧
      t.device.registrations.entries ⊆ e.device.registrations.entries ∧
      (e.books.KeyFree → t.device.registrations.entries = e.device.registrations.entries) := by
  have unused (free : e.books.KeyFree) :
      (e.device.registrations.without e.device.registrations.nextKey).entries =
        e.device.registrations.entries :=
    Registrations.entries_without_unused fun r hr => free r (owned.owned r hr)
  rcases missed with same | ⟨device, hd, same⟩
  · have device : t.device = e.device := congrArg Books.device same
    rw [device]
    exact ⟨rfl, List.Subset.refl _, fun _ => rfl⟩
  · have device' : t.device = device := congrArg Books.device same
    rw [device']
    rcases hd with rfl | rfl
    · exact ⟨rfl, List.Subset.refl _, fun _ => rfl⟩
    · exact ⟨rfl, List.filter_subset_self _, unused⟩

/-- What a connection that is closed gives back. -/
theorem given_back {e t : Endpoint} {id : Nat} {registration : Registration}
    (kept : e.books.Kept) (released : e.books.Released id registration t.books) :
    t.device.queuePairs + 1 = e.device.queuePairs ∧
      registration ∉ t.device.registrations.entries ∧
      (e.books.Enrolled → registration ∈ e.device.registrations.entries ∧
        t.device.registrations.count + 1 = e.device.registrations.count) := by
  obtain ⟨former, later, before, after, hd, -⟩ := Books.held_released released
  have device : t.device = e.device.relieved registration := hd
  have held := Books.held_length kept.sound
  have left := Books.held_length (kept.released released).sound
  rw [before, List.length_append, List.length_cons] at held
  rw [after, List.length_append] at left
  have places : t.device.queuePairs + 1 = e.device.queuePairs := by
    have := left.symm
    have := held.symm
    simp only [books] at *
    omega
  refine ⟨places, ?_, fun enrolled => ⟨?_, ?_⟩⟩
  · rw [device]
    intro mem
    have other := (List.mem_filter.mp mem).2
    rw [bne_self_eq_false] at other
    cases other
  · refine enrolled.mem_iff.mpr ?_
    rw [before]
    exact List.mem_append_right _ (List.mem_cons_self ..)
  · have full := enrolled.length_eq
    have rest := (enrolled.released kept.owned released).length_eq
    rw [before, List.length_append, List.length_cons] at full
    rw [after, List.length_append] at rest
    simp only [books] at full rest
    simp only [Registrations.count]
    omega

end Endpoint

/-- In every run of an endpoint over the software device there is a queue pair for every
connection that is not closed, and a registration too, as long as no local key in use is given out
again, for which more than four billion attempts are needed.  No registration is left without a
connection.  An attempt that fails changes nothing of this, and a close gives back both, once. -/
theorem Stand.resources_accounted (config : EndpointConfig) (publication : Publication)
    (region : Region) (board : Board) (events : List EndpointEvent) :
    let start : Stand := ⟨Endpoint.opened config Device.soft publication region, board⟩
    let stand := start.run events
    let e := stand.endpoint
    e.device.queuePairs = e.openIds.length ∧
    e.device.registrations.count ≤ e.openIds.length ∧
    (∀ r ∈ e.device.registrations.entries,
      ∃ entry ∈ e.connections, entry.2.registration = some r) ∧
    (start.KeysFree events → e.device.registrations.count = e.openIds.length) ∧
    (e.nextConnection < 2 ^ 32 → start.KeysFree events ∧ e.books.KeyFree) ∧
    (∀ event, stand.Fails event → let t := (stand.step event).endpoint
      t.connections = e.connections ∧ t.device.queuePairs = e.device.queuePairs ∧
        t.device.registrations.entries ⊆ e.device.registrations.entries ∧
        (e.books.KeyFree →
          t.device.registrations.entries = e.device.registrations.entries)) ∧
    (∀ id connection, e.connection? id = some connection → let t := (e.close id).2
      (connection.state = .closed → connection.registration = none ∧
        (e.close id).1 = .error (.alreadyClosed id) ∧ t.device = e.device) ∧
      (connection.state ≠ .closed → ∃ registration, connection.registration = some registration ∧
        (e.close id).1 = .ok () ∧ t.device.queuePairs + 1 = e.device.queuePairs ∧
        registration ∉ t.device.registrations.entries ∧
        (start.KeysFree events → registration ∈ e.device.registrations.entries ∧
          t.device.registrations.count + 1 = e.device.registrations.count))) := by
  intro start stand e
  have begun : start.endpoint.books.Kept := Books.kept_opened config publication region
  have kept : e.books.Kept := kept_run begun events
  have enrolled (free : start.KeysFree events) : e.books.Enrolled :=
    enrolled_run begun (List.Perm.refl []) free
  have places : e.openIds.length = e.device.queuePairs := Endpoint.openIds_length kept.sound
  have held : e.books.held.length = e.openIds.length :=
    (Books.held_length kept.sound).trans places.symm
  refine ⟨places.symm, ?_, fun r => Endpoint.exists_of_owned kept.owned, ?_, ?_, ?_, ?_⟩
  · rw [← held]
    exact kept.owned.count_le
  · intro free
    rw [← held]
    exact (enrolled free).length_eq
  · intro few
    exact ⟨keysFree_of_few begun few, kept.numbered.free few⟩
  · intro event fails
    obtain ⟨connections, missed⟩ := missed_of_fails kept.sound fails
    exact ⟨connections, Endpoint.same_of_missed kept.owned missed⟩
  · intro id connection found t
    rcases Endpoint.close_cases kept.sound found with
      ⟨registration, holding, result, released⟩ | ⟨holding, result, same⟩
    · have live : connection.state ≠ .closed :=
        Connection.isOpen_iff.mp (congrArg Holding.isOpen holding)
      have own : connection.registration = some registration :=
        congrArg Holding.registration holding
      obtain ⟨pair, gone, back⟩ := Endpoint.given_back kept released
      constructor
      · intro closed
        exact absurd closed live
      · intro _
        exact ⟨registration, own, result, pair, gone, fun free => back (enrolled free)⟩
    · have closed : connection.state = .closed :=
        Connection.not_isOpen_iff.mp (congrArg Holding.isOpen holding)
      constructor
      · intro _
        exact ⟨congrArg Holding.registration holding, result, congrArg Books.device same⟩
      · intro live
        exact absurd closed live

/-- One peer is taken in, and another goes away before the link is up. -/
example :
    let peer : Record :=
      ⟨.socket, ⟨7, 0, 0, Gid.ofIpv4 Ipv4.unspecified⟩, ⟨0, 16, 3⟩, Ipv4.loopback, 0⟩
    let address : SocketAddress := .v4 Ipv4.loopback 4001
    let binding : Endpoint.BindConditions := ⟨.ok address, none, Publication.noFaults⟩
    let caller (greeting : Bytes) : Endpoint.AcceptConditions :=
      ⟨.ok (some ⟨Stream.ofBytes (Record.framed peer.toBytes ++ greeting) true, .ok address⟩),
        ⟨[], ⟨9, 0, .ok 40000⟩⟩, ⟨fun _ => .error .unexpectedEnd, none, 0⟩, none,
        Publication.noFaults⟩
    let region : Region := ⟨"host", 4096, 16, fun _ => 0, by decide⟩
    let start : Stand :=
      ⟨Endpoint.opened (EndpointConfig.ofService "host") Device.soft .memory region, ⟨⟨[]⟩, none⟩⟩
    let after := start.run [.bind address binding, .accept 1 (caller (Header.hello 7 9).toBytes),
      .bind address binding, .accept 2 (caller [])]
    after.endpoint.openIds = [1] ∧ after.endpoint.device.queuePairs = 1 ∧
      after.endpoint.device.registrations.count = 1 ∧ after.endpoint.nextConnection = 3 :=
  ⟨rfl, rfl, rfl, rfl⟩

/-! ## A whole round of keys -/

namespace Device

/-- The next local key is one more, until the last was given out. -/
theorem lastKey_spent (n : Nat) {device : Device}
    (within : device.registrations.lastKey.toNat + n < 2 ^ 32) :
    ((spent^[n]) device).registrations.lastKey.toNat = device.registrations.lastKey.toNat + n := by
  induction n with
  | zero => rfl
  | succ n ih =>
    have before := ih (by omega)
    rw [Function.iterate_succ_apply']
    show ((spent^[n]) device).registrations.nextKey.toNat = _
    rw [Registrations.toNat_nextKey, before]
    omega

theorem entries_spent_subset (n : Nat) (device : Device) :
    ((spent^[n]) device).registrations.entries ⊆ device.registrations.entries := by
  induction n with
  | zero => exact List.Subset.refl _
  | succ n ih =>
    rw [Function.iterate_succ_apply']
    exact List.Subset.trans (List.filter_subset_self _) ih

theorem queuePairs_spent (n : Nat) (device : Device) :
    ((spent^[n]) device).queuePairs = device.queuePairs := by
  induction n with
  | zero => rfl
  | succ n ih =>
    rw [Function.iterate_succ_apply']
    exact ih

/-- Once every other local key was given out for nothing, the first key comes again, and the
registration that has it is displaced. -/
theorem entries_spent_of_round {device : Device} (first : device.registrations.lastKey = 1)
    (only : ∀ r ∈ device.registrations.entries, r.localKey = 1) {n : Nat} (round : n + 2 = 2 ^ 32) :
    ((spent^[n + 1]) device).registrations.entries = [] := by
  have within : device.registrations.lastKey.toNat + n < 2 ^ 32 := by
    rw [first]
    show 1 + n < 2 ^ 32
    omega
  have last := lastKey_spent n within
  have next : ((spent^[n]) device).registrations.nextKey = 1 := by
    refine UInt32.toNat_inj.mp ?_
    rw [Registrations.toNat_nextKey, last, first]
    show (1 + n) % (2 ^ 32 - 1) + 1 = 1
    omega
  rw [Function.iterate_succ_apply']
  refine List.filter_eq_nil_iff.mpr fun r listed => ?_
  rw [only r (entries_spent_subset _ _ listed), next]
  decide

end Device

namespace Endpoint

/-- An endpoint that dials an address at which nobody listens. -/
def nobodyListens : ConnectConditions :=
  ⟨0, none, .error (.other "Connection refused"), ⟨[], ⟨9, 0, .ok 40000⟩⟩,
    ⟨fun _ => .error .unexpectedEnd, none, 0⟩, none⟩

/-- An endpoint over the software device that dials without waiting. -/
structure Dials (e : Endpoint) : Prop where
  config : e.config = EndpointConfig.ofService "host"
  publication : e.publication = .files none none
  alone : e.fallback = none
  profile : e.device.profile = Device.softProfile
  places : e.device.queuePairs < 1024
  region : ∃ region, e.memory.region? e.region = some region ∧ region.size ≤ Region.maxSize

/-- The endpoint after it has given out a number and a local key for nothing. -/
def spent (e : Endpoint) : Endpoint :=
  { e with device := e.device.spent, nextConnection := e.nextConnection + 1 }

variable {e : Endpoint}

theorem Dials.spent (dials : e.Dials) : e.spent.Dials :=
  ⟨dials.config, dials.publication, dials.alone, dials.profile, dials.places, dials.region⟩

theorem Dials.create (dials : e.Dials) {region : Region} (fits : region.size ≤ Region.maxSize) :
    ∃ connection device, Connection.create e.nextConnection .connector .rdma e.device e.region
      region (e.settings .rdma) nobodyListens.lot = (.ok connection, device) := by
  have settings : e.settings .rdma = ⟨1, 0, ⟨5000⟩, 256⟩ := by
    unfold Endpoint.settings
    rw [dials.alone, dials.config]
    rfl
  have registered := Device.register_soft dials.profile e.region region Access.all
    nobodyListens.lot.keys fits
  generalize hd : ({ e.device with
    registrations := (e.device.registrations.insert e.region region Access.all
      nobodyListens.lot.keys).2 } : Device) = device at registered
  have profile : device.profile = Device.softProfile := by rw [← hd]; exact dials.profile
  have places : ¬ device.profile.maxQueuePairs ≤ device.queuePairs := by
    rw [profile, ← hd]
    exact Nat.not_le.mpr dials.places
  have queue : device.createQueue 256 = .ok (CompletionQueue.ofDepth 256) := by
    unfold Device.createQueue
    rw [Device.refusal_soft profile, profile]
    rfl
  have gid : device.gid 1 0 = .ok (Gid.ofIpv4 Ipv4.unspecified) := by
    unfold Device.gid
    rw [profile]
    rfl
  unfold Connection.create
  rw [registered, settings]
  dsimp only
  rw [queue, Device.createQueuePair, Device.refusal_soft profile, gid]
  dsimp only
  rw [if_neg places]
  exact ⟨_, _, rfl⟩

theorem Dials.openSession (dials : e.Dials) :
    ∃ session record, e.Opens .rdma session record ∧
      e.openSession .connector .rdma nobodyListens.lot =
        (.ok (session, record), e.counted.afterSession session) := by
  obtain ⟨region, known, fits⟩ := dials.region
  obtain ⟨connection, device, created⟩ := dials.create fits
  rcases e.openSession_cases .connector .rdma nobodyListens.lot with
    ⟨fault, left, -, failed⟩ | opened
  · rcases Connection.create_cases e.nextConnection .connector .rdma e.device e.region region
      (e.settings .rdma) nobodyListens.lot with ⟨_, _, -, h⟩ | ⟨registration, address, -, -, h⟩
    · rw [h] at created
      cases created
    · have carried : e.counted.carrier .rdma = e.device :=
        carrier_alone (e := e.counted) dials.alone _
      have succeeded : ∃ pair, (e.openSession .connector .rdma nobodyListens.lot).1 = .ok pair := by
        unfold Endpoint.openSession
        dsimp only
        rw [known]
        dsimp only
        rw [show ({ e with nextConnection := e.nextConnection + 1 } : Endpoint).carrier .rdma =
          e.device from carried, show Connection.create e.nextConnection .connector .rdma e.device
            e.region region (({ e with nextConnection := e.nextConnection + 1 } :
              Endpoint).settings .rdma) nobodyListens.lot = _ from h]
        exact ⟨_, rfl⟩
      obtain ⟨pair, succeeded⟩ := succeeded
      rw [failed] at succeeded
      cases succeeded
  · exact opened

theorem Dials.refused (dials : e.Dials) (address : SocketAddress) (board : Board) :
    (e.connect address nobodyListens board).outcome.endpoint = e.spent := by
  obtain ⟨session, record, opens, opened⟩ := dials.openSession
  obtain ⟨registration, key, device, holding⟩ := opens.charged
  have looks : e.publication.wait e.config.rdma.readyTimeout nobodyListens.uptime
      nobodyListens.arrival board = .ok none := by
    rw [dials.publication]
    rfl
  have switch : Transport.ofSwitch e.config.rdma.useRdma = .rdma := by
    rw [dials.config]
    rfl
  have given : (e.connect address nobodyListens board).outcome.endpoint =
      (e.counted.afterSession session).afterSession session.release := by
    unfold connect
    rw [looks, switch]
    dsimp only
    rw [opened]
    rfl
  have memory : session.memory = e.memory := by
    obtain ⟨_, _, _, _, connection, device, -, -, rfl⟩ := opens.created
    unfold Session.begin
    split <;> rfl
  have yields : session.device.Yields := by
    rw [device, carrier_alone dials.alone]
    show DeviceCall.deregistering ∉ e.device.profile.refused
    rw [dials.profile]
    exact List.not_mem_nil
  have back : session.release.device = e.device.spent := by
    rw [carrier_alone dials.alone] at key device
    rw [(Session.release_eq yields holding).1, device, Device.relieved_charged key]
  have carried (t : Endpoint) (alone : t.fallback = none) (s : Session) :
      t.afterSession s = { t with device := s.device, memory := s.memory } := by
    unfold afterSession withCarrier
    rw [alone]
  rw [given, carried e.counted dials.alone, carried _ (by exact dials.alone), back]
  show ({ e.counted with device := e.device.spent, memory := session.memory } : Endpoint) = _
  rw [memory]
  rfl

end Endpoint

namespace Stand

/-- So many refused attempts give out so many numbers and local keys for nothing. -/
theorem run_refused {stand : Stand} (dials : stand.endpoint.Dials) (address : SocketAddress)
    (n : Nat) :
    stand.run (List.replicate n (.connect address Endpoint.nobodyListens)) =
      ⟨{ stand.endpoint with
          device := (Device.spent^[n]) stand.endpoint.device
          nextConnection := stand.endpoint.nextConnection + n }, stand.board⟩ := by
  induction n generalizing stand with
  | zero => rfl
  | succ n ih =>
    have stepped : stand.step (.connect address Endpoint.nobodyListens) =
        ⟨stand.endpoint.spent, stand.board⟩ := by
      have board := stand.endpoint.board_connect address Endpoint.nobodyListens stand.board
      simp only [step, ofOutcome, dials.refused, board]
    have spent : (⟨stand.endpoint.spent, stand.board⟩ : Stand).endpoint.Dials := dials.spent
    have later := ih spent
    rw [List.replicate_succ]
    show (stand.step _).run _ = _
    rw [stepped, later, Function.iterate_succ_apply]
    simp only [Endpoint.spent, Nat.add_assoc, Nat.add_comm 1 n]

/-- An endpoint that dials without waiting, and with which nothing was done yet. -/
def dialer : Stand :=
  ⟨Endpoint.opened (EndpointConfig.ofService "host") Device.soft (.files none none)
    ⟨"host", 4096, 16, fun _ => 0, by decide⟩, ⟨⟨[]⟩, none⟩⟩

/-- The address that it dials. -/
def dialed : SocketAddress := .v4 Ipv4.loopback 4001

/-- The peer answers and accepts the link. -/
def peerAnswers : Endpoint.ConnectConditions :=
  let peer : Record :=
    ⟨.rdma, ⟨7, 2, 0, Gid.ofIpv4 Ipv4.loopback⟩, ⟨0, 16, 3⟩, Ipv4.loopback, 0⟩
  ⟨0, none, .ok ⟨Stream.ofBytes (Record.framed peer.toBytes) false, .ok dialed⟩,
    ⟨[], ⟨9, 1, .ok 40000⟩⟩,
    ⟨fun _ => .ok (Stream.ofBytes (Header.hello 7 9).toBytes false), none, 0⟩, none⟩

/-- A connection that outlives a whole round of local keys has no registration left, though nothing
was given back but by attempts that had failed. -/
theorem unregistered_after_round (n : Nat) (round : n + 2 = 2 ^ 32) :
    let e := (dialer.run (.connect dialed peerAnswers ::
      List.replicate (n + 1) (.connect dialed Endpoint.nobodyListens))).endpoint
    e.openIds = [1] ∧ e.device.queuePairs = 1 ∧ e.device.registrations.count = 0 := by
  have connected : (dialer.step (.connect dialed peerAnswers)).endpoint.openIds = [1] := by
    decide +kernel
  have charged : let device := (dialer.step (.connect dialed peerAnswers)).endpoint.device
      device.profile = Device.softProfile ∧ device.queuePairs = 1 ∧
        device.registrations.lastKey = 1 ∧
        ∀ r ∈ device.registrations.entries, r.localKey = 1 := by
    decide +kernel
  have dials : (dialer.step (.connect dialed peerAnswers)).endpoint.Dials :=
    { config := rfl, publication := rfl, alone := rfl, profile := charged.1
      places := by rw [charged.2.1]; decide
      region := ⟨_, rfl, by decide⟩ }
  have spent := Device.entries_spent_of_round charged.2.2.1 charged.2.2.2 round
  intro e
  have after : e = { (dialer.step (.connect dialed peerAnswers)).endpoint with
      device := (Device.spent^[n + 1]) (dialer.step (.connect dialed peerAnswers)).endpoint.device
      nextConnection :=
        (dialer.step (.connect dialed peerAnswers)).endpoint.nextConnection + (n + 1) } :=
    congrArg Stand.endpoint (run_refused dials dialed (n + 1))
  rw [after]
  refine ⟨connected, ?_, congrArg List.length spent⟩
  exact (Device.queuePairs_spent (n + 1) _).trans charged.2.1

/-- One connection and a whole round of attempts that are refused: there is a connection that is not
closed, and no registration. -/
theorem open_without_registration :
    let e := (dialer.run (.connect dialed peerAnswers ::
      List.replicate (2 ^ 32 - 2 + 1) (.connect dialed Endpoint.nobodyListens))).endpoint
    e.openIds = [1] ∧ e.device.queuePairs = 1 ∧ e.device.registrations.count = 0 :=
  unregistered_after_round (2 ^ 32 - 2) (by decide)

end Stand

end RdmaLink
