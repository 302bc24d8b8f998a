import RdmaLink.Proofs.Endpoint.Attempts

/-!
# The books of an endpoint

The books list what each connection of an endpoint holds of its device.  An operation changes them
in one of three ways: an attempt to bring a connection up comes to nothing (`Books.Missed`), a
connection is added (`Books.Gained`), or connections are closed (`Books.Releases`).

    sound → books.Missed after ∨ books.Gained after ∨ books.Releases after     (Stand.booked_step)

Each of these keeps the books sound: as many places of the device are taken as connections are
open, every open connection holds a queue pair and a registration, and a closed one holds nothing.
-/

namespace RdmaLink

/-- The device of an endpoint with what its connections hold of it. -/
structure Books where
  device : Device
  fallback : Option Device
  holdings : List (Nat × Holding)
  nextConnection : Nat

def Endpoint.books (endpoint : Endpoint) : Books :=
  { device := endpoint.device
    fallback := endpoint.fallback
    holdings := endpoint.connections.map fun entry => (entry.1, entry.2.holding)
    nextConnection := endpoint.nextConnection }

namespace Books

/-- What an open connection with a registration holds. -/
def full (id : Nat) (registration : Registration) : Holding := ⟨id, some registration, true, true⟩

/-- What a closed connection holds. -/
def void (id : Nat) : Holding := ⟨id, none, false, false⟩

/-- An attempt came to nothing; the number of the connection and a local key may be spent. -/
def Missed (b t : Books) : Prop :=
  t = b ∨ ∃ device, (device = b.device ∨ device = b.device.spent) ∧
    t = { b with device := device, nextConnection := b.nextConnection + 1 }

/-- A connection was added, and the device is charged with what it holds. -/
def Gained (b t : Books) : Prop :=
  ∃ registration, registration.localKey = b.device.registrations.nextKey ∧
    t =
      { device := b.device.charged registration
        fallback := b.fallback
        holdings := b.holdings ++ [(b.nextConnection, full b.nextConnection registration)]
        nextConnection := b.nextConnection + 1 }

/-- A connection was closed, and the device got back what it held. -/
def Released (b : Books) (id : Nat) (registration : Registration) (t : Books) : Prop :=
  ∃ before after, b.holdings = before ++ (id, full id registration) :: after ∧
    t =
      { b with
        device := b.device.relieved registration
        holdings := before ++ (id, void id) :: after }

/-- Any number of connections were closed, one after the other. -/
inductive Releases : Books → Books → Prop
  | refl (b : Books) : Releases b b
  | step {b t u : Books} {id : Nat} {registration : Registration} (earlier : Releases b t)
      (last : Released t id registration u) : Releases b u

theorem Releases.trans {b t u : Books} (h : Releases b t) (h' : Releases t u) : Releases b u := by
  induction h' with
  | refl => exact h
  | step _ last ih => exact .step ih last

/-- What holds of the books of an endpoint over one device that takes registrations back. -/
structure Sound (b : Books) : Prop where
  alone : b.fallback = none
  yields : b.device.Yields
  numbered : (b.holdings.map Prod.fst).Nodup
  below : ∀ entry ∈ b.holdings, entry.1 < b.nextConnection
  whole : ∀ entry ∈ b.holdings, entry.2 = void entry.1 ∨ ∃ registration,
    entry.2 = full entry.1 registration
  places : b.device.queuePairs = b.holdings.countP fun entry => entry.2.isOpen

theorem Sound.missed {b t : Books} (sound : b.Sound) (h : b.Missed t) : t.Sound := by
  rcases h with rfl | ⟨device, hd, rfl⟩
  · exact sound
  · have same : device.Yields ∧ device.queuePairs = b.device.queuePairs := by
      rcases hd with rfl | rfl
      · exact ⟨sound.yields, rfl⟩
      · exact ⟨sound.yields, rfl⟩
    exact
      { alone := sound.alone
        yields := same.1
        numbered := sound.numbered
        below := fun entry he => Nat.lt_succ_of_lt (sound.below entry he)
        whole := sound.whole
        places := same.2.trans sound.places }

theorem Sound.gained {b t : Books} (sound : b.Sound) (h : b.Gained t) : t.Sound := by
  obtain ⟨registration, -, rfl⟩ := h
  have fresh : b.nextConnection ∉ b.holdings.map Prod.fst := by
    intro mem
    obtain ⟨entry, he, same⟩ := List.mem_map.mp mem
    exact Nat.lt_irrefl _ (same ▸ sound.below entry he)
  constructor
  · exact sound.alone
  · exact sound.yields
  · rw [List.map_append, List.map_singleton, List.nodup_append]
    refine ⟨sound.numbered, List.pairwise_singleton _ _, fun a ha c hc => ?_⟩
    rw [List.mem_singleton.mp hc]
    rintro rfl
    exact fresh ha
  · intro entry he
    rcases List.mem_append.mp he with he | he
    · exact Nat.lt_succ_of_lt (sound.below entry he)
    · rw [List.mem_singleton.mp he]
      exact Nat.lt_succ_self _
  · intro entry he
    rcases List.mem_append.mp he with he | he
    · exact sound.whole entry he
    · rw [List.mem_singleton.mp he]
      exact Or.inr ⟨registration, rfl⟩
  · rw [List.countP_append, ← sound.places]
    rfl

theorem Sound.released {b t : Books} {id : Nat} {registration : Registration} (sound : b.Sound)
    (h : b.Released id registration t) : t.Sound := by
  obtain ⟨before, after, split, rfl⟩ := h
  have others (entry : Nat × Holding) (he : entry ∈ before ++ (id, void id) :: after) :
      entry = (id, void id) ∨ entry ∈ b.holdings := by
    rw [split]
    rcases List.mem_append.mp he with he | he
    · exact Or.inr (List.mem_append_left _ he)
    · rcases List.mem_cons.mp he with he | he
      · exact Or.inl he
      · exact Or.inr (List.mem_append_right _ (List.mem_cons_of_mem _ he))
  have present : (id, full id registration) ∈ b.holdings := by rw [split]; simp
  constructor
  · exact sound.alone
  · exact sound.yields
  · have := sound.numbered
    rw [split, List.map_append, List.map_cons] at this
    rw [List.map_append, List.map_cons]
    exact this
  · intro entry he
    rcases others entry he with rfl | he
    · exact sound.below (id, full id registration) present
    · exact sound.below entry he
  · intro entry he
    rcases others entry he with rfl | he
    · exact Or.inl rfl
    · exact sound.whole entry he
  · have places := sound.places
    rw [split, List.countP_append, List.countP_cons] at places
    rw [List.countP_append, List.countP_cons]
    show b.device.queuePairs - 1 = _
    rw [places]
    simp [full, void]

theorem Sound.releases {b t : Books} (sound : b.Sound) (h : Releases b t) : t.Sound := by
  induction h with
  | refl => exact sound
  | step _ last ih => exact ih.released last

end Books

namespace Endpoint

/-! ## Operations that leave the books as they are -/

theorem books_watch {e watching : Endpoint} {fault : Option Errno} {descriptor : Descriptor}
    {source : Source} (h : e.watch fault descriptor source = .ok watching) :
    watching.books = e.books ∧ watching.connections = e.connections := by
  obtain ⟨mux, -, rfl⟩ := watch_eq_ok h
  exact ⟨rfl, rfl⟩

theorem books_bind (e : Endpoint) (address : SocketAddress) (conditions : BindConditions)
    (board : Board) :
    (e.bind address conditions board).endpoint.books = e.books ∧
      (e.bind address conditions board).endpoint.connections = e.connections := by
  unfold bind
  split
  · exact ⟨rfl, rfl⟩
  · dsimp only
    split
    · exact ⟨rfl, rfl⟩
    · next watching hw =>
      have same := books_watch hw
      split
      · exact same
      · exact same

/-! ## Attempts to bring a connection up -/

theorem carrier_alone {e : Endpoint} (alone : e.fallback = none) (transport : Transport) :
    e.carrier transport = e.device := by
  unfold carrier
  rw [alone]

theorem books_withCarrier {e : Endpoint} (alone : e.fallback = none) (transport : Transport)
    (device : Device) :
    (e.withCarrier transport device).books = { e.books with device := device } := by
  unfold withCarrier
  split
  · next h => rw [alone] at h; cases h
  · rfl

theorem books_afterSession {e : Endpoint} (alone : e.fallback = none) (session : Session) :
    (e.afterSession session).books = { e.books with device := session.device } :=
  books_withCarrier alone session.connection.transport session.device

/-- What comes of an attempt that was made on `e`: with an error the table of connections is the
same and nothing is held that was not held before. -/
def Tried (e : Endpoint) (result : Except EndpointError Nat) (t : Endpoint) : Prop :=
  match result with
  | .error _ => t.connections = e.connections ∧ e.books.Missed t.books
  | .ok id => id = e.nextConnection ∧ e.books.Gained t.books

theorem tried_nothing (e : Endpoint) (fault : EndpointError) : Tried e (.error fault) e :=
  ⟨rfl, Or.inl rfl⟩

section Attempts

variable {e t : Endpoint} {result : Except EndpointError Nat}

/-- An attempt that is given up gives back what it has taken, and one that is not has added the
connection that it took it for. -/
theorem tried_attempted (alone : e.fallback = none) (yields : e.device.Yields)
    (h : e.Attempted result t) : Tried e result t := by
  have apart (session : Session) : (e.counted.afterSession session).fallback = none :=
    (congrArg Books.fallback (books_afterSession (e := e.counted) alone session)).trans alone
  cases h with
  | nothing fault => exact tried_nothing e fault
  | @unopened transport device fault spends =>
    rw [carrier_alone alone] at spends
    exact ⟨connections_withCarrier e.counted transport device, Or.inr ⟨device, spends yields,
      books_withCarrier (e := e.counted) alone transport device⟩⟩
  | @givenUp transport session after record fault opens reached =>
    obtain ⟨registration, key, device, holding⟩ := opens.charged_after reached
    rw [carrier_alone alone] at key device
    have given := (Session.release_eq (by rw [device]; exact yields) holding).1
    rw [device, Device.relieved_charged key] at given
    refine ⟨?_, Or.inr ⟨_, Or.inr rfl, ?_⟩⟩
    · exact (connections_afterSession _ _).trans (connections_afterSession e.counted session)
    · rw [books_afterSession (apart session), books_afterSession (e := e.counted) alone, given]
      rfl
  | @installed transport session after record mux opens reached watched =>
    obtain ⟨registration, key, device, holding⟩ := opens.charged_after reached
    rw [carrier_alone alone] at key device
    have same := books_afterSession
      (e := { e.counted.afterSession session with mux := mux }) (apart session) after
    have before := books_afterSession (e := e.counted) alone session
    simp only [Endpoint.books, Books.mk.injEq] at same before
    refine ⟨rfl, registration, key, ?_⟩
    simp only [Endpoint.books, Books.mk.injEq, List.map_append, List.map_singleton, holding]
    exact ⟨same.1.trans device, same.2.1.trans before.2.1, rfl,
      same.2.2.2.trans before.2.2.2⟩

theorem tried_connect (alone : e.fallback = none) (yields : e.device.Yields)
    (address : SocketAddress) (conditions : ConnectConditions) (board : Board) :
    Tried e (e.connect address conditions board).outcome.result
      (e.connect address conditions board).outcome.endpoint :=
  tried_attempted alone yields (e.attempted_connect address conditions board)

theorem tried_accept (alone : e.fallback = none) (yields : e.device.Yields) (listener : Nat)
    (conditions : AcceptConditions) (board : Board) :
    Tried e (e.accept listener conditions board).outcome.result
      (e.accept listener conditions board).outcome.endpoint := by
  rcases e.accept_paths listener conditions board with
    ⟨fault, refused⟩ | ⟨address, attempt, hattempt, taken⟩
  · rw [refused]
    exact tried_nothing e fault
  · rw [taken, hattempt]
    -- Listeners are no part of the books.
    exact tried_attempted (e := e.withoutListener listener) alone yields
      (attempted_acceptOn _ address conditions)

theorem tried_listen (alone : e.fallback = none) (yields : e.device.Yields)
    (address : SocketAddress) (binding : BindConditions) (conditions : AcceptConditions)
    (board : Board) :
    Tried e (e.listen address binding conditions board).outcome.result
      (e.listen address binding conditions board).outcome.endpoint := by
  obtain ⟨books, connections⟩ := books_bind e address binding board
  unfold listen
  generalize e.bind address binding board = bound at books connections ⊢
  have number : bound.endpoint.nextConnection = e.nextConnection :=
    congrArg Books.nextConnection books
  have fallback : bound.endpoint.fallback = e.fallback := congrArg Books.fallback books
  have device : bound.endpoint.device = e.device := congrArg Books.device books
  dsimp only
  split
  · exact ⟨connections, Or.inl books⟩
  · next listener _ =>
    have tried := tried_accept (e := bound.endpoint) (fallback.trans alone)
      (by rw [device]; exact yields) listener conditions bound.board
    unfold Tried at tried ⊢
    rw [books, connections, number] at tried
    exact tried

end Attempts

/-! ## Connections that are up -/

/-- A connection that is looked up stands in the table, and what replaces it stands in its
place. -/
theorem withConnection_split {e : Endpoint} {id : Nat} {connection after : Connection}
    (numbered : (e.connections.map Prod.fst).Nodup) (found : e.connection? id = some connection)
    (number : after.id = id) :
    ∃ former later, e.connections = former ++ (id, connection) :: later ∧
      (e.withConnection after).connections = former ++ (id, after) :: later := by
  subst number
  obtain ⟨former, later, split, others⟩ := List.lookup_eq_some_iff.mp found
  refine ⟨former, later, split, ?_⟩
  rw [split, List.map_append, List.map_cons, List.nodup_append, List.nodup_cons] at numbered
  obtain ⟨-, ⟨unique, -⟩, -⟩ := numbered
  have kept (entries : List (Nat × Connection)) (ne : ∀ entry ∈ entries, entry.1 ≠ after.id) :
      (entries.map fun entry => if entry.1 == after.id then (entry.1, after) else entry) =
        entries := by
    refine (List.map_congr_left fun entry he => ?_).trans (List.map_id _)
    rw [if_neg (by simpa using ne entry he)]
    rfl
  have hformer := kept former fun entry he same => by
    have other := others entry he
    rw [same, bne_self_eq_false] at other
    cases other
  have hlater := kept later fun entry he same =>
    unique (List.mem_map.mpr ⟨entry, he, same⟩)
  simp only [withConnection, split, List.map_append, List.map_cons, hformer, hlater,
    beq_self_eq_true, if_true]

/-- A connection whose session moves on stands in its place. -/
theorem withSession_split {e : Endpoint} {id : Nat} {connection : Connection} {after : Session}
    (numbered : (e.connections.map Prod.fst).Nodup) (found : e.connection? id = some connection)
    (number : after.connection.id = id) :
    ∃ former later, e.connections = former ++ (id, connection) :: later ∧
      (e.withSession after).connections = former ++ (id, after.connection) :: later := by
  have listed := connections_afterSession e after
  rw [← listed] at numbered
  have found' : (e.afterSession after).connection? id = some connection := by
    unfold connection? at found ⊢
    rw [listed]
    exact found
  obtain ⟨former, later, split, replaced⟩ := withConnection_split numbered found' number
  rw [listed] at split
  exact ⟨former, later, split, replaced⟩

section Working

variable {e : Endpoint} {id : Nat} {connection : Connection}

theorem numbered_connections (sound : e.books.Sound) : (e.connections.map Prod.fst).Nodup := by
  have := sound.numbered
  simp only [books, List.map_map] at this
  exact this

theorem mem_of_found (found : e.connection? id = some connection) :
    (id, connection) ∈ e.connections := by
  obtain ⟨former, later, split, -⟩ := List.lookup_eq_some_iff.mp found
  rw [split]
  exact List.mem_append_right _ (List.mem_cons_self ..)

/-- A connection that is looked up is open and holds a queue pair and a registration, or it is
closed and holds nothing. -/
theorem holding_cases (sound : e.books.Sound) (found : e.connection? id = some connection) :
    connection.holding = Books.void id ∨
      ∃ registration, connection.holding = Books.full id registration := by
  have listed : (id, connection.holding) ∈ e.books.holdings :=
    List.mem_map.mpr ⟨(id, connection), mem_of_found found, rfl⟩
  exact sound.whole (id, connection.holding) listed

theorem id_of_found (sound : e.books.Sound) (found : e.connection? id = some connection) :
    connection.id = id := by
  rcases holding_cases sound found with held | ⟨registration, held⟩
  · exact congrArg Holding.connection held
  · exact congrArg Holding.connection held

theorem device_sessionOf (sound : e.books.Sound) (connection : Connection) :
    (e.sessionOf connection).device = e.device := carrier_alone sound.alone _

/-- What a session of a connection does to the books. -/
theorem books_withSession (sound : e.books.Sound) (found : e.connection? id = some connection)
    {after : Session} (number : after.connection.id = id) :
    ∃ former later, e.books.holdings = former ++ (id, connection.holding) :: later ∧
      (e.withSession after).books =
        { e.books with
          device := after.device
          holdings := former ++ (id, after.connection.holding) :: later } := by
  have moved := books_afterSession sound.alone after
  obtain ⟨former, later, split, replaced⟩ :=
    withSession_split (numbered_connections sound) found number
  refine ⟨former.map fun entry => (entry.1, entry.2.holding),
    later.map fun entry => (entry.1, entry.2.holding), ?_, ?_⟩
  · simp only [books, split, List.map_append, List.map_cons]
  · simp only [books, Books.mk.injEq] at moved
    obtain ⟨hd, hf, -, hn⟩ := moved
    have device : (e.withSession after).device = after.device := hd
    have fallback : (e.withSession after).fallback = e.fallback := hf
    have next : (e.withSession after).nextConnection = e.nextConnection := hn
    have connections : (e.withSession after).connections =
      former ++ (id, after.connection) :: later := replaced
    simp only [books, device, fallback, next, connections, List.map_append, List.map_cons]

theorem books_steady (sound : e.books.Sound) (found : e.connection? id = some connection)
    {after : Session} (steady : (e.sessionOf connection).Steady after) :
    (e.withSession after).books = e.books := by
  have holding : after.connection.holding = connection.holding := steady.holding
  have number : after.connection.id = id :=
    (congrArg Holding.connection holding).trans (id_of_found sound found)
  have device : after.device = e.books.device :=
    steady.device.trans (device_sessionOf sound connection)
  obtain ⟨former, later, before, moved⟩ := books_withSession sound found number
  rw [moved, holding, device, ← before]

end Working

/-- Sound books are kept by all that only moves sessions on. -/
theorem books_keeps {b : Books} (sound : b.Sound) (e : Endpoint) (id : Nat)
    (connection : Connection) (after : Session) (same : e.books = b)
    (found : e.connection? id = some connection)
    (steady : (e.sessionOf connection).Steady after) : (e.withSession after).books = b := by
  have sound' : e.books.Sound := by rw [same]; exact sound
  exact (books_steady sound' found steady).trans same

/-! ## Closing -/

/-- A session that closes an open connection gives back what it holds, and a closed connection is
not closed again. -/
theorem closing_cases {e : Endpoint} (sound : e.books.Sound) {id : Nat} {connection : Connection}
    (found : e.connection? id = some connection) :
    (∃ registration, connection.holding = Books.full id registration ∧
      (e.sessionOf connection).close.1 = .ok () ∧
      e.books.Released id registration (e.withSession (e.sessionOf connection).close.2).books) ∨
    (connection.holding = Books.void id ∧
      (e.sessionOf connection).close = (.error (.alreadyClosed id), e.sessionOf connection) ∧
      (e.withSession (e.sessionOf connection)).books = e.books) := by
  have yields : (e.sessionOf connection).device.Yields := by
    rw [device_sessionOf sound]; exact sound.yields
  rcases holding_cases sound found with held | ⟨registration, held⟩
  · have closed : connection.holding.isOpen = false := congrArg Holding.isOpen held
    have refused := Session.close_closed (s := e.sessionOf connection) closed
    have id' : (e.sessionOf connection).connection.id = id := id_of_found sound found
    rw [id'] at refused
    exact Or.inr ⟨held, refused, books_steady sound found (.refl _)⟩
  · obtain ⟨hr, hd, hh⟩ := Session.close_eq (s := e.sessionOf connection) yields held
    obtain ⟨former, later, before, moved⟩ :=
      books_withSession sound found (congrArg Holding.connection hh)
    rw [held] at before
    rw [hh, hd, device_sessionOf sound] at moved
    exact Or.inl ⟨registration, held, hr, former, later, before, moved⟩

/-- An open connection is closed, and a closed one is not closed again. -/
theorem close_cases {e : Endpoint} (sound : e.books.Sound) {id : Nat} {connection : Connection}
    (found : e.connection? id = some connection) :
    (∃ registration, connection.holding = Books.full id registration ∧ (e.close id).1 = .ok () ∧
      e.books.Released id registration (e.close id).2.books) ∨
    (connection.holding = Books.void id ∧ (e.close id).1 = .error (.alreadyClosed id) ∧
      (e.close id).2.books = e.books) := by
  unfold close onSession
  rw [found]
  dsimp only
  rcases closing_cases sound found with ⟨registration, held, hr, released⟩ | ⟨held, refused, same⟩
  · generalize (e.sessionOf connection).close = closing at hr released ⊢
    obtain ⟨result, after⟩ := closing
    subst hr
    exact Or.inl ⟨registration, held, rfl, released⟩
  · rw [refused]
    exact Or.inr ⟨held, rfl, same⟩

theorem releases_close {e : Endpoint} (sound : e.books.Sound) (id : Nat) :
    Books.Releases e.books (e.close id).2.books := by
  cases found : e.connection? id with
  | none =>
    have same : (e.close id).2 = e := by
      unfold close onSession
      rw [found]
    rw [same]
    exact .refl _
  | some connection =>
    rcases close_cases sound found with ⟨_, -, -, released⟩ | ⟨-, -, same⟩
    · exact .step (.refl _) released
    · rw [same]; exact .refl _

theorem releases_shutdown {e : Endpoint} (sound : e.books.Sound)
    (faults : Nat → Option FileFault) (board : Board) :
    Books.Releases e.books (e.shutdown faults board).endpoint.books := by
  have closing (ids : List Nat) (start : Endpoint) (sound : start.books.Sound) :
      Books.Releases start.books
        (ids.foldl (fun endpoint id => (endpoint.close id).2) start).books := by
    induction ids generalizing start with
    | nil => exact .refl _
    | cons id rest ih =>
      have first := releases_close sound id
      exact first.trans (ih _ (sound.releases first))
  obtain ⟨closed, hclosed, he, -⟩ := e.shutdown_eq faults board
  have released := closing e.openIds e sound
  rw [← hclosed] at released
  rw [he]
  exact released

end Endpoint

/-! ## One event -/

theorem Stand.booked_step {stand : Stand} (sound : stand.endpoint.books.Sound)
    (event : EndpointEvent) :
    stand.endpoint.books.Missed (stand.step event).endpoint.books ∨
      stand.endpoint.books.Gained (stand.step event).endpoint.books ∨
      Books.Releases stand.endpoint.books (stand.step event).endpoint.books := by
  have tried {result : Except EndpointError Nat} {t : Endpoint}
      (h : stand.endpoint.Tried result t) :
      stand.endpoint.books.Missed t.books ∨ stand.endpoint.books.Gained t.books ∨
        Books.Releases stand.endpoint.books t.books := by
    cases result with
    | error _ => exact Or.inl h.2
    | ok _ => exact Or.inr (Or.inl h.2)
  have same {t : Endpoint} (h : t.books = stand.endpoint.books) :
      stand.endpoint.books.Missed t.books ∨ stand.endpoint.books.Gained t.books ∨
        Books.Releases stand.endpoint.books t.books := Or.inl (Or.inl h)
  cases event with
  | bind address conditions => exact same (Endpoint.books_bind _ _ _ _).1
  | accept listener conditions =>
    exact tried (Endpoint.tried_accept sound.alone sound.yields _ _ _)
  | listen address binding conditions =>
    exact tried (Endpoint.tried_listen sound.alone sound.yields _ _ _ _)
  | connect address conditions =>
    exact tried (Endpoint.tried_connect sound.alone sound.yields _ _ _)
  | post connection operation request offset length peerOffset =>
    exact same (Endpoint.onSession_keeps (Endpoint.books_keeps sound)
      (fun s => s.steady_post _ _ _ _ _) rfl _)
  | postReceive connection request =>
    exact same (Endpoint.onSession_keeps (Endpoint.books_keeps sound)
      (fun s => s.steady_postReceive _) rfl _)
  | deliver connection bytes ended =>
    exact same (Endpoint.deliver_keeps (Endpoint.books_keeps sound) rfl _ _ _)
  | poll limited moments =>
    exact same (Endpoint.poll_keeps (Endpoint.books_keeps sound) rfl _ _)
  | close connection => exact Or.inr (Or.inr (Endpoint.releases_close sound _))
  | shutdown faults => exact Or.inr (Or.inr (Endpoint.releases_shutdown sound _ _))

end RdmaLink
