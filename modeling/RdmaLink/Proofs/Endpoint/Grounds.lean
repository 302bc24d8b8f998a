import RdmaLink.Proofs.Connection.Coherence
import RdmaLink.Proofs.Connection.Regions
import RdmaLink.Proofs.Device.Keys
import RdmaLink.Proofs.Endpoint.Moves

/-!
# What the connections of an endpoint stand on

An endpoint over the software device registers its one region for every connection, with every
right.  Whatever is done with the endpoint, the region stays where it is, all that connections hold
are registrations of the whole of it, and the keys of the device lead to one registration each
(`Endpoint.Grounded`).

    Memory.Keeps e.memory t.memory ∧ t.region = e.region                     (Endpoint.Move.memory)
    (stand.run events).endpoint.Grounded region                                 (Stand.grounded_run)
-/

namespace RdmaLink

/-- The registration of a whole region with every right, as the software device makes it. -/
structure Registration.Covers (registration : Registration) (id : RegionId) (own : Region) :
    Prop where
  region : registration.region = id
  access : registration.access = Access.all
  address : registration.address = own.base
  length : registration.length = own.size
  small : own.size ≤ Region.maxSize

theorem Registration.Covers.placed {registration : Registration} {id : RegionId} {own : Region}
    (covers : registration.Covers id own) : registration.Placed := by
  unfold Placed
  rw [covers.address, covers.length]
  exact own.fits

theorem Session.AtMostActivated.memory {s after : Session} (h : s.AtMostActivated after) :
    after.memory = s.memory := by
  rcases h with rfl | ⟨exchange, conditions, rfl⟩
  · rfl
  · exact s.memory_activate exchange conditions

theorem Session.AtMostActivated.coherent {s after : Session} (h : s.AtMostActivated after)
    (coherent : s.connection.Coherent) : after.connection.Coherent := by
  rcases h with rfl | ⟨exchange, conditions, rfl⟩
  · exact coherent
  · exact (s.turn_activate exchange conditions).coherent coherent

namespace Endpoint

variable {e t : Endpoint} {transport : Transport} {session after : Session} {record : Record}

/-! ## Sessions that are opened -/

theorem Opens.memory (opens : e.Opens transport session record) : session.memory = e.memory := by
  obtain ⟨_, _, _, _, connection, device, -, -, rfl⟩ := opens.created
  exact (Session.mk connection device e.memory).memory_begin

theorem Opens.coherent (opens : e.Opens transport session record) :
    session.connection.Coherent := by
  obtain ⟨_, _, _, _, connection, device, -, created, rfl⟩ := opens.created
  obtain ⟨-, -, -, address, rfl⟩ := Connection.create_eq_ok created
  exact (Session.turn_begin _).coherent (Connection.coherent_opened ..)

/-- A session is opened with a registration of the region of the endpoint. -/
theorem Opens.registers (opens : e.Opens transport session record) :
    ∃ region draws, e.memory.region? e.region = some region ∧
      region.size ≤ (e.carrier transport).profile.maxRegion ∧
      (e.carrier transport).queuePairs < (e.carrier transport).profile.maxQueuePairs ∧
      session.device = (e.carrier transport).charged
        ((e.carrier transport).registrations.insert e.region region Access.all draws).1 ∧
      session.connection.registration = some
        ((e.carrier transport).registrations.insert e.region region Access.all draws).1 := by
  obtain ⟨_, region, _, lot, connection, device, known, created, begun⟩ := opens.created
  have steady := (Session.mk connection device e.memory).steady_begin
  rw [← begun] at steady
  obtain ⟨fits, place, rfl, address, rfl⟩ := Connection.create_eq_ok created
  exact ⟨region, lot.keys, known, fits, place, steady.device,
    congrArg Holding.registration steady.holding⟩

/-! ## Memory -/

theorem region_afterSession (e : Endpoint) (session : Session) :
    (e.afterSession session).region = e.region := by
  unfold afterSession withCarrier
  split <;> rfl

theorem Attempted.memory {result : Except EndpointError Nat} (attempt : e.Attempted result t) :
    t.memory = e.memory ∧ t.region = e.region := by
  cases attempt with
  | nothing fault => exact ⟨rfl, rfl⟩
  | @unopened transport device fault spends =>
    unfold withCarrier
    split <;> exact ⟨rfl, rfl⟩
  | @givenUp transport session after record fault opens reached =>
    refine ⟨reached.memory.trans opens.memory, ?_⟩
    rw [region_afterSession, region_afterSession]
    rfl
  | @installed transport session after record mux opens reached watched =>
    refine ⟨reached.memory.trans opens.memory, ?_⟩
    exact (region_afterSession { e.counted.afterSession session with mux := mux } after).trans
      (region_afterSession e.counted session)

theorem Move.memory (h : e.Move t) : Memory.Keeps e.memory t.memory ∧ t.region = e.region := by
  cases h with
  | listening mux listeners nextListener => exact ⟨.refl _, rfl⟩
  | @working id connection event found own =>
    refine ⟨(e.sessionOf connection).keeps_step ?_, region_afterSession e _⟩
    rintro device memory rfl
    cases own
  | attempted attempt =>
    obtain ⟨memory, region⟩ := attempt.memory
    rw [memory]
    exact ⟨.refl _, region⟩

/-! ## The device -/

/-- A move leaves the device as it is, spends a local key, gives a registration back, or takes one
of the region. -/
theorem Move.device (h : e.Move t) (kept : e.books.Kept) :
    t.device = e.device ∨ t.device = e.device.spent ∨ (∃ r, t.device = e.device.relieved r) ∨
      ∃ region draws, e.memory.region? e.region = some region ∧
        region.size ≤ e.device.profile.maxRegion ∧
        e.device.queuePairs < e.device.profile.maxQueuePairs ∧
        t.device = e.device.charged
          (e.device.registrations.insert e.region region Access.all draws).1 := by
  cases h with
  | listening mux listeners nextListener => exact Or.inl rfl
  | @working id connection event found own =>
    rcases own.steady (e.sessionOf connection) with steady | rfl
    · exact Or.inl (congrArg Books.device (books_steady kept.sound found steady))
    · rcases closing_cases kept.sound found with ⟨r, -, -, released⟩ | ⟨-, refused, same⟩
      · obtain ⟨_, _, -, books⟩ := released
        exact Or.inr (Or.inr (Or.inl ⟨r, congrArg Books.device books⟩))
      · refine Or.inl ?_
        rw [show (e.sessionOf connection).step .close = (e.sessionOf connection).close.2 from rfl,
          refused]
        exact congrArg Books.device same
  | @attempted result t attempt =>
    have missed {fault : EndpointError} (failed : e.Attempted (.error fault) t) :
        t.device = e.device ∨ t.device = e.device.spent := by
      rcases (tried_attempted kept.sound.alone kept.sound.yields failed).2 with
        same | ⟨device, rfl | rfl, books⟩
      · exact Or.inl (congrArg Books.device same)
      · exact Or.inl (congrArg Books.device books)
      · exact Or.inr (congrArg Books.device books)
    cases attempt with
    | nothing fault => exact Or.inl rfl
    | unopened fault spends => exact (missed (.unopened fault spends)).imp_right Or.inl
    | givenUp fault opens reached => exact (missed (.givenUp fault opens reached)).imp_right Or.inl
    | @installed transport session after record mux opens reached watched =>
      obtain ⟨region, draws, known, fits, place, device, -⟩ := opens.registers
      rw [carrier_alone kept.sound.alone] at fits place device
      refine Or.inr (Or.inr (Or.inr ⟨region, draws, known, fits, place, ?_⟩))
      have apart : (e.counted.afterSession session).fallback = none :=
        (congrArg Books.fallback
          (books_afterSession (e := e.counted) kept.sound.alone session)).trans kept.sound.alone
      have same := books_afterSession
        (e := { e.counted.afterSession session with mux := mux }) apart after
      exact (congrArg Books.device same).trans (reached.steady.device.trans device)

/-! ## The ground -/

/-- What the connections of an endpoint over the software device stand on. -/
structure Grounded (own : Region) (e : Endpoint) : Prop where
  profile : e.device.profile = Device.softProfile
  keyed : e.device.registrations.Keyed
  place : ∃ now, e.memory.region? e.region = some now ∧ now.base = own.base ∧ now.size = own.size
  coherent : ∀ entry ∈ e.connections, entry.2.Coherent
  covers : ∀ entry ∈ e.connections, ∀ r, entry.2.registration = some r → r.Covers e.region own

variable {own : Region}

theorem Grounded.covers_inserted (grounded : e.Grounded own) {region : Region}
    (known : e.memory.region? e.region = some region)
    (fits : region.size ≤ e.device.profile.maxRegion) (draws : List UInt32) :
    (e.device.registrations.insert e.region region Access.all draws).1.Covers e.region own := by
  obtain ⟨now, present, base, size⟩ := grounded.place
  cases known.symm.trans present
  rw [grounded.profile] at fits
  exact ⟨rfl, rfl, base, size, size ▸ fits⟩

/-- There are far fewer registrations than odd words. -/
theorem Grounded.few (grounded : e.Grounded own) (kept : e.books.Kept)
    (place : e.device.queuePairs < e.device.profile.maxQueuePairs) :
    e.device.registrations.count < 2 ^ 31 := by
  have most : e.device.registrations.count ≤ e.books.held.length := kept.owned.count_le
  have pairs : e.books.held.length = e.device.queuePairs := Books.held_length kept.sound
  rw [grounded.profile] at place
  have place : e.device.queuePairs < 1024 := place
  omega

theorem Grounded.device (grounded : e.Grounded own) (kept : e.books.Kept) (h : e.Move t) :
    t.device.profile = Device.softProfile ∧ t.device.registrations.Keyed := by
  rcases h.device kept with same | same | ⟨r, same⟩ | ⟨region, draws, known, fits, place, same⟩
  · rw [same]
    exact ⟨grounded.profile, grounded.keyed⟩
  · rw [same]
    exact ⟨grounded.profile, (grounded.keyed.without _).of_entries rfl⟩
  · rw [same]
    exact ⟨grounded.profile, grounded.keyed.without _⟩
  · rw [same]
    exact ⟨grounded.profile,
      (grounded.keyed.insert (Registrations.hasFreeKey_of_few (grounded.few kept place))
        _ _ _ draws).of_entries rfl⟩

theorem Grounded.place_move (grounded : e.Grounded own) (h : e.Move t) :
    ∃ now, t.memory.region? t.region = some now ∧ now.base = own.base ∧ now.size = own.size := by
  obtain ⟨now, present, base, size⟩ := grounded.place
  obtain ⟨keeps, region⟩ := h.memory
  obtain ⟨now', present', base', size'⟩ := keeps _ now present
  rw [region]
  exact ⟨now', present', base'.trans base, size'.trans size⟩

/-- What is said of the connections of an endpoint is kept by a move, if events keep it and it can
be said of a connection that is installed. -/
theorem Move.connections {P : Connection → Prop} (h : e.Move t) (sound : e.books.Sound)
    (all : ∀ entry ∈ e.connections, P entry.2)
    (step : ∀ (s : Session) (event : ConnectionEvent), event.InTable → P s.connection →
      P (s.step event).connection)
    (installed : ∀ transport (session after : Session) record, e.Opens transport session record →
      session.AtMostActivated after → P after.connection) :
    ∀ entry ∈ t.connections, P entry.2 := by
  cases h with
  | listening mux listeners nextListener => exact all
  | @working id connection event found own =>
    have number : ((e.sessionOf connection).step event).connection.id = id :=
      (Session.id_step _ event).trans (id_of_found sound found)
    obtain ⟨former, later, before, after⟩ :=
      withSession_split (numbered_connections sound) found number
    intro entry listed
    rw [after] at listed
    rcases List.mem_append.mp listed with listed | listed
    · exact all entry (before ▸ List.mem_append_left _ listed)
    · rcases List.mem_cons.mp listed with rfl | listed
      · refine step _ event own (all (id, connection) ?_)
        rw [before]
        exact List.mem_append_right _ (List.mem_cons_self ..)
      · refine all entry ?_
        rw [before]
        exact List.mem_append_right _ (List.mem_cons_of_mem _ listed)
  | @attempted result t attempt =>
    cases attempt with
    | nothing fault => exact all
    | unopened fault spends => rw [connections_withCarrier]; exact all
    | givenUp fault opens reached =>
      rw [connections_afterSession, connections_afterSession]
      exact all
    | @installed transport session after record mux opens reached watched =>
      intro entry listed
      rcases List.mem_append.mp listed with listed | listed
      · exact all entry listed
      · rw [List.mem_singleton.mp listed]
        exact installed transport session after record opens reached

theorem Grounded.move (grounded : e.Grounded own) (kept : e.books.Kept) (h : e.Move t) :
    t.Grounded own := by
  obtain ⟨profile, keyed⟩ := grounded.device kept h
  refine ⟨profile, keyed, grounded.place_move h, ?_, ?_⟩
  · exact h.connections kept.sound grounded.coherent
      (fun s event _ coherent => (s.turn_step event).coherent coherent)
      fun _ _ _ _ opens reached => reached.coherent opens.coherent
  · rw [h.memory.2]
    refine h.connections
      (P := fun connection => ∀ r, connection.registration = some r → r.Covers e.region own)
      kept.sound grounded.covers (fun s event _ covers r held => ?_)
      (fun _ session after _ opens reached r held => ?_)
    · rcases s.registration_step event with same | none
      · exact covers r (same ▸ held)
      · rw [none] at held; cases held
    · obtain ⟨region, draws, known, fits, -, -, registered⟩ := opens.registers
      rw [carrier_alone kept.sound.alone] at fits registered
      have same : after.connection.registration = session.connection.registration :=
        congrArg Holding.registration reached.steady.holding
      rw [same, registered] at held
      cases held
      exact grounded.covers_inserted known fits draws

theorem grounded_opened (config : EndpointConfig) (publication : Publication) (region : Region) :
    (opened config Device.soft publication region).Grounded region :=
  ⟨rfl, Registrations.keyed_empty, ⟨region, rfl, rfl, rfl⟩,
    fun _ listed => absurd listed List.not_mem_nil, fun _ listed => absurd listed List.not_mem_nil⟩

end Endpoint

/-- In every run of an endpoint over the software device. -/
theorem Stand.grounded_run (config : EndpointConfig) (publication : Publication) (region : Region)
    (board : Board) (events : List EndpointEvent) :
    let e := (Stand.run ⟨Endpoint.opened config Device.soft publication region, board⟩
      events).endpoint
    e.books.Kept ∧ e.Grounded region :=
  moves_induction (P := fun e => e.books.Kept ∧ e.Grounded region)
    ⟨Books.kept_opened config publication region,
      Endpoint.grounded_opened config publication region⟩
    (fun _ _ h move => ⟨move.kept h.1, h.2.move h.1 move⟩) events

end RdmaLink
