import RdmaLink.Proofs.Endpoint.Holdings

/-!
# A connection at work

Every call on a connection is an event, and so are the bytes that arrive on its link, a completion
that its device reports, and whatever others do with the device and the memory meanwhile.  What the
system and the peer make of a call is part of the event.

    s.run (a ++ b) = (s.run a).run b                                        (Session.run_append)

A connection starts as it was created (`Connection.opened`, `Connection.create_cases`).  An event
turns it in one of six ways (`Session.Turn`, `Session.turn_step`): its state stays, it begins its
handshake, it comes up, it becomes active, it fails, or it is closed.
-/

namespace RdmaLink

/-- Something that is done with a connection, or that happens to it. -/
inductive ConnectionEvent where
  | begin
  | activate (exchange : Exchange) (conditions : LinkConditions)
  | post (operation : SendOperation) (request : UInt64) (offset length peerOffset : Nat)
  | postReceive (request : UInt64)
  /-- Bytes arrive on the link, which ends after them if `ended`. -/
  | deliver (bytes : Bytes) (ended : Bool)
  /-- The device reports a completion. -/
  | report (completion : Completion)
  | drain
  | close
  /-- Others change the device and the memory. -/
  | elsewhere (device : Device) (memory : Memory)

theorem Lifecycle.next?_queuePairActivated {role : Role} {state next : LifecycleState}
    (h : next? role state .queuePairActivated = some next) : next = .queuePairReady := by
  cases state <;> simp_all [next?]

theorem QueuePair.state_toReadyToSend {q after : QueuePair} (h : q.toReadyToSend = .ok after) :
    after.state = .readyToSend := by
  rw [(toReadyToSend_eq_ok h).2.2]

namespace Connection

/-- A connection with which nothing was done yet. -/
def opened (id : Nat) (role : Role) (transport : Transport) (settings : ConnectionSettings)
    (registration : Registration) (address : QueuePairAddress) : Connection :=
  { id := id
    lifecycle := Lifecycle.ofRole role
    transport := transport
    registration := some registration
    completions := CompletionQueue.ofDepth settings.depth
    queuePair := some (QueuePair.fresh address settings.linkTimeout)
    ownRecord := none
    peerRecord := none }

/-- Registering, making a queue and making a queue pair fail, and a device that takes registrations
back has at most a key less to give; or they charge the device, and the new connection, whose queue
has room, holds what it is charged with. -/
theorem create_cases (id : Nat) (role : Role) (transport : Transport) (device : Device)
    (regionId : RegionId) (region : Region) (settings : ConnectionSettings) (lot : ConnectionLot) :
    (∃ e after, (device.Yields → after = device ∨ after = device.spent) ∧
      create id role transport device regionId region settings lot = (.error e, after)) ∨
    (∃ registration address, registration.localKey = device.registrations.nextKey ∧
      0 < settings.depth ∧
      create id role transport device regionId region settings lot =
        (.ok (opened id role transport settings registration address),
          device.charged registration)) := by
  unfold create
  rcases device.register_cases regionId region Access.all lot.keys with
    ⟨e, h⟩ | ⟨registration, key, h⟩
  · rw [h]
    exact Or.inl ⟨_, device, fun _ => Or.inl rfl, rfl⟩
  · rw [h]
    generalize hd : ({ device with
      registrations := device.registrations.having registration } : Device) = registered
    have back (yields : device.Yields) :
        (registered.deregister registration.localKey).2 = device.spent := by
      have willing : registered.Yields := by rw [← hd]; exact yields
      rw [Device.deregister_eq willing, ← hd, Device.spent, ← key]
      simp only [Registrations.without_having]
    dsimp only
    split
    · exact Or.inl ⟨_, _, fun yields => Or.inr (back yields), rfl⟩
    · next completions hqueue =>
      obtain ⟨room, rfl⟩ := Device.createQueue_eq_ok hqueue
      rcases registered.createQueuePair_cases settings.port settings.gidIndex settings.linkTimeout
        lot.queuePair with ⟨e, hq⟩ | ⟨address, hq⟩
      · rw [hq]
        exact Or.inl ⟨_, _, fun yields => Or.inr (back yields), rfl⟩
      · rw [hq, ← hd]
        exact Or.inr ⟨registration, address, key, room, rfl⟩

/-- What is created has the registration that the device makes of the region, which is not too
large for it, and there was a place for its queue pair. -/
theorem create_eq_ok {id : Nat} {role : Role} {transport : Transport} {device after : Device}
    {regionId : RegionId} {region : Region} {settings : ConnectionSettings} {lot : ConnectionLot}
    {connection : Connection}
    (h : create id role transport device regionId region settings lot = (.ok connection, after)) :
    let inserted := device.registrations.insert regionId region Access.all lot.keys
    region.size ≤ device.profile.maxRegion ∧ device.queuePairs < device.profile.maxQueuePairs ∧
      after = device.charged inserted.1 ∧
      ∃ address, connection = opened id role transport settings inserted.1 address := by
  intro inserted
  unfold create at h
  split at h
  · cases h
  · next registration registered registering =>
    obtain ⟨fits, rfl, rfl⟩ := Device.register_eq_ok registering
    split at h
    · cases h
    · next completions queue =>
      obtain ⟨-, rfl⟩ := Device.createQueue_eq_ok queue
      split at h
      · cases h
      · next q paired pairing =>
        obtain ⟨place, address, rfl, rfl⟩ := Device.createQueuePair_eq_ok pairing
        cases h
        exact ⟨fits, place, rfl, address, rfl⟩

/-- The state of the queue pair, while there is one. -/
def pairState (connection : Connection) : Option QueuePairState :=
  connection.queuePair.map QueuePair.state

theorem pairState_eq_none {connection : Connection} :
    connection.pairState = none ↔ connection.queuePair = none := Option.map_eq_none_iff

theorem isSome_pairState (connection : Connection) :
    connection.pairState.isSome = connection.queuePair.isSome := Option.isSome_map

/-- The registration and the two records. -/
def papers (connection : Connection) : Option Registration × Option Record × Option Record :=
  (connection.registration, connection.ownRecord, connection.peerRecord)

/-! ## Steps of the lifecycle -/

theorem apply_eq_ok {connection after : Connection} {event : LifecycleEvent} {operation : String}
    (h : connection.apply event operation = .ok after) :
    ∃ state, Lifecycle.next? connection.role connection.state event = some state ∧
      after = { connection with lifecycle := ⟨state, connection.role⟩ } := by
  unfold apply Lifecycle.step at h
  cases hn : Lifecycle.next? connection.lifecycle.role connection.lifecycle.state event with
  | none => rw [hn] at h; cases h
  | some state => rw [hn] at h; cases h; exact ⟨state, hn, rfl⟩

theorem kept_of_apply {connection after : Connection} {event : LifecycleEvent}
    {operation : String} (h : connection.apply event operation = .ok after) :
    after.papers = connection.papers ∧ after.completions = connection.completions ∧
      after.queuePair = connection.queuePair := by
  obtain ⟨state, -, rfl⟩ := apply_eq_ok h
  exact ⟨rfl, rfl, rfl⟩

/-- A connection that is not over fails. -/
theorem state_faulted {connection : Connection} (alive : connection.state ≠ .closed) :
    connection.faulted.state = .error := by
  unfold faulted state Lifecycle.after Lifecycle.step
  unfold state at alive
  cases hs : connection.lifecycle.state <;>
    simp_all [Lifecycle.next?, LifecycleState.isTerminal]

end Connection

namespace Session

def step (s : Session) : ConnectionEvent → Session
  | .begin => s.begin.2
  | .activate exchange conditions => (s.activate exchange conditions).session
  | .post operation request offset length peerOffset =>
    (s.post operation request offset length peerOffset).2
  | .postReceive request => (s.postReceive request).2
  | .deliver bytes ended => s.deliver bytes ended
  | .report completion =>
    s.withConnection
      { s.connection with completions := s.connection.completions.push completion }
  | .drain => s.drain.2
  | .close => s.close.2
  | .elsewhere device memory => { s with device := device, memory := memory }

def run (s : Session) (events : List ConnectionEvent) : Session := events.foldl step s

theorem run_append (s : Session) (a b : List ConnectionEvent) :
    s.run (a ++ b) = (s.run a).run b := List.foldl_append

theorem run_concat (s : Session) (events : List ConnectionEvent) (event : ConnectionEvent) :
    s.run (events ++ [event]) = (s.run events).step event := by
  rw [run_append]; rfl

/-- What holds at the start and is kept by every event holds after every run. -/
theorem run_induction {P : Session → Prop} {start : Session} (base : P start)
    (keep : ∀ s event, P s → P (s.step event)) (events : List ConnectionEvent) :
    P (start.run events) := by
  induction events generalizing start with
  | nil => exact base
  | cons event rest ih => exact ih (keep start event base)

theorem id_step (s : Session) (event : ConnectionEvent) :
    (s.step event).connection.id = s.connection.id := by
  have steady {t : Session} (h : Steady s t) : t.connection.id = s.connection.id :=
    congrArg Holding.connection h.holding
  cases event with
  | begin => exact steady (steady_begin s)
  | activate exchange conditions => exact steady (steady_activate s exchange conditions)
  | post operation request offset length peerOffset => exact steady (steady_post s _ _ _ _ _)
  | postReceive request => exact steady (steady_postReceive s request)
  | deliver bytes ended => exact steady (steady_deliver s bytes ended)
  | report completion => rfl
  | drain => exact steady (steady_drain s)
  | close =>
    show s.close.2.connection.id = s.connection.id
    by_cases shut : s.connection.state = .closed
    · rw [close_closed (Connection.not_isOpen_iff.mpr shut)]
    · rw [close_of_open shut]; rfl
  | elsewhere device memory => rfl

theorem id_run (s : Session) (events : List ConnectionEvent) :
    (s.run events).connection.id = s.connection.id :=
  run_induction (P := fun t => t.connection.id = s.connection.id) rfl
    (fun t event h => (t.id_step event).trans h) events

/-! ## Coming up -/

/-- What an attempt to bring the queue pair up does to a connection, whatever comes of it. -/
structure Raised (s : Session) (attempt : Activation) : Prop where
  papers : attempt.session.connection.papers = s.connection.papers
  completions : attempt.session.connection.completions = s.connection.completions
  pair : attempt.session.connection.queuePair.isSome = s.connection.queuePair.isSome
  ready : attempt.result = .ok () → attempt.session.connection.state = .queuePairReady ∧
    attempt.session.connection.pairState = some .readyToSend

theorem raised_nothing (s : Session) (e : EndpointError) (stream : Option Stream) :
    Raised s ⟨.error e, s, stream⟩ := ⟨rfl, rfl, rfl, nofun⟩

theorem Raised.of_same {s t : Session} {attempt : Activation} (h : Raised t attempt)
    (papers : t.connection.papers = s.connection.papers)
    (completions : t.connection.completions = s.connection.completions)
    (pair : t.connection.queuePair.isSome = s.connection.queuePair.isSome) : Raised s attempt :=
  ⟨h.papers.trans papers, h.completions.trans completions, h.pair.trans pair, h.ready⟩

theorem raised_link {s : Session} {q : QueuePair} (present : s.connection.queuePair = some q)
    (peer : Record) (conditions : LinkConditions) : Raised s (s.link q peer conditions) := by
  unfold link
  split
  · exact raised_nothing _ _ _
  · next connection h =>
    obtain ⟨papers, completions, pair⟩ := Connection.kept_of_apply h
    have linked (t : QueuePair) (e : EndpointError) (stream : Option Stream) :
        Raised s ⟨.error e, (s.withConnection connection).withQueuePair t, stream⟩ :=
      ⟨papers, completions, by rw [present]; rfl, nofun⟩
    dsimp only
    split
    · exact ⟨papers, completions, congrArg Option.isSome pair, nofun⟩
    · generalize q.toReadyToReceive peer.queuePair (peerIp peer) conditions = attempt
      split
      · exact linked _ _ _
      · split
        · exact linked _ _ _
        · split
          · exact linked _ _ _
          · next ready hready =>
            split
            · exact linked _ _ _
            · next active hactive =>
              obtain ⟨papers', completions', pair'⟩ := Connection.kept_of_apply hactive
              have same : active.queuePair.isSome = s.connection.queuePair.isSome := by
                rw [pair', present]; rfl
              refine ⟨papers'.trans papers, completions'.trans completions, same,
                fun _ => ⟨?_, ?_⟩⟩
              · obtain ⟨state, hstate, rfl⟩ := Connection.apply_eq_ok hactive
                exact Lifecycle.next?_queuePairActivated hstate
              · exact (congrArg (Option.map QueuePair.state) pair').trans
                  (congrArg some (QueuePair.state_toReadyToSend hready))

theorem raised_bringUp (s : Session) (exchange : Exchange) (conditions : LinkConditions) :
    Raised s (s.bringUp exchange conditions) := by
  unfold bringUp
  split
  · exact raised_nothing _ _ _
  · next q present =>
    have replaced (t : QueuePair) :
        (s.withQueuePair t).connection.queuePair.isSome = s.connection.queuePair.isSome := by
      rw [present]; rfl
    split
    · exact raised_nothing _ _ _
    · split
      · exact raised_nothing _ _ _
      · next ready _ =>
        dsimp only
        split
        · exact (raised_link rfl _ _).of_same rfl rfl (replaced ready)
        · split
          · exact (raised_nothing _ _ _).of_same rfl rfl (replaced ready)
          · split
            · exact (raised_nothing _ _ _).of_same rfl rfl (replaced ready)
            · next attached _ => exact (raised_link rfl _ _).of_same rfl rfl (replaced attached)

/-! ## Draining -/

theorem kept_of_observe (connection : Connection) (report : Completion) :
    (observe connection report).papers = connection.papers ∧
      (observe connection report).completions = connection.completions ∧
      (observe connection report).queuePair = connection.queuePair := by
  unfold observe
  split
  · split <;> exact ⟨rfl, rfl, rfl⟩
  · split <;> exact ⟨rfl, rfl, rfl⟩

theorem state_observe (connection : Connection) (report : Completion) :
    (observe connection report).state =
      if report.succeeded then
        if connection.state = .queuePairReady then .active else connection.state
      else if connection.state = .closed then .closed
      else .error := by
  unfold observe
  split
  · split
    · next ready =>
      have ready' : connection.lifecycle.state = .queuePairReady := ready
      simp only [Connection.state, Lifecycle.after, Lifecycle.step, ready', Lifecycle.next?]
    · rfl
  · split
    · next ended =>
      cases hs : connection.state <;> simp_all [LifecycleState.isTerminal]
    · next live =>
      have alive : connection.state ≠ .closed := fun closed => live (by rw [closed]; rfl)
      rw [if_neg alive, Connection.state_faulted alive]

theorem kept_of_observed (reports : List Completion) (connection : Connection) :
    (reports.foldl observe connection).papers = connection.papers ∧
      (reports.foldl observe connection).completions = connection.completions ∧
      (reports.foldl observe connection).queuePair = connection.queuePair := by
  induction reports generalizing connection with
  | nil => exact ⟨rfl, rfl, rfl⟩
  | cons report rest ih =>
    obtain ⟨papers, completions, pair⟩ := kept_of_observe connection report
    obtain ⟨papers', completions', pair'⟩ := ih (observe connection report)
    exact ⟨papers'.trans papers, completions'.trans completions, pair'.trans pair⟩

/-- What one completion does to the state: nothing, or a success makes the connection active, or
it fails. -/
theorem observe_cases (connection : Connection) (report : Completion) :
    (observe connection report).state = connection.state ∨
      (connection.state = .queuePairReady ∧ (observe connection report).state = .active ∧
        report.succeeded = true) ∨
      (connection.state ≠ .closed ∧ (observe connection report).state = .error) := by
  rw [state_observe]
  by_cases good : report.succeeded = true
  · rw [if_pos good]
    by_cases ready : connection.state = .queuePairReady
    · exact Or.inr (Or.inl ⟨ready, if_pos ready, good⟩)
    · exact Or.inl (if_neg ready)
  · rw [if_neg good]
    by_cases closed : connection.state = .closed
    · exact Or.inl (by rw [if_pos closed, closed])
    · exact Or.inr (Or.inr ⟨closed, if_neg closed⟩)

/-- What the completions of a drain do to the state: nothing, or the first success makes the
connection active, or it fails. -/
theorem observed_cases (reports : List Completion) (connection : Connection) :
    (reports.foldl observe connection).state = connection.state ∨
      (connection.state = .queuePairReady ∧ (reports.foldl observe connection).state = .active ∧
        ∃ report ∈ reports, report.succeeded = true) ∨
      (connection.state ≠ .closed ∧ (reports.foldl observe connection).state = .error) := by
  induction reports generalizing connection with
  | nil => exact Or.inl rfl
  | cons report rest ih =>
    rw [List.foldl_cons]
    have later := ih (observe connection report)
    rcases observe_cases connection report with same | ⟨ready, active, good⟩ | ⟨alive, failed⟩
    · rw [same] at later
      rcases later with same' | ⟨ready, active, seen, member, good⟩ | failed
      · exact Or.inl same'
      · exact Or.inr (Or.inl ⟨ready, active, seen, List.mem_cons_of_mem _ member, good⟩)
      · exact Or.inr (Or.inr failed)
    · rw [active] at later
      rcases later with same | ⟨impossible, -⟩ | ⟨-, failed⟩
      · exact Or.inr (Or.inl ⟨ready, same, report, List.mem_cons_self, good⟩)
      · cases impossible
      · exact Or.inr (Or.inr ⟨by rw [ready]; decide, failed⟩)
    · rw [failed] at later
      rcases later with same | ⟨impossible, -⟩ | ⟨-, failed'⟩
      · exact Or.inr (Or.inr ⟨alive, same⟩)
      · cases impossible
      · exact Or.inr (Or.inr ⟨alive, failed'⟩)

/-- A failure among the completions of a drain ends a connection that is not closed. -/
theorem state_observed_of_failure {reports : List Completion} {connection : Connection}
    (failure : ∃ report ∈ reports, report.succeeded = false)
    (alive : connection.state ≠ .closed) :
    (reports.foldl observe connection).state = .error := by
  have stays (rest : List Completion) (c : Connection) (failed : c.state = .error) :
      (rest.foldl observe c).state = .error := by
    rcases observed_cases rest c with same | ⟨ready, -⟩ | ⟨-, failed⟩
    · exact same.trans failed
    · rw [failed] at ready; cases ready
    · exact failed
  induction reports generalizing connection with
  | nil => obtain ⟨_, none, -⟩ := failure; cases none
  | cons report rest ih =>
    have first := state_observe connection report
    rw [List.foldl_cons]
    cases hs : report.succeeded with
    | false =>
      rw [hs] at first
      exact stays rest _ (by rw [first, if_neg alive]; rfl)
    | true =>
      obtain ⟨failed, member, unsuccessful⟩ := failure
      rcases List.mem_cons.mp member with rfl | later
      · rw [hs] at unsuccessful; cases unsuccessful
      · refine ih ⟨failed, later, unsuccessful⟩ ?_
        rw [first, hs]
        simp only [if_true]
        split
        · decide
        · exact alive

/-! ## Working -/

theorem postable_of_check {connection : Connection} {name : String}
    (h : connection.checkPostable name = .ok ()) : connection.state.canPost = true := by
  unfold Connection.checkPostable at h
  split at h
  · cases h
  · cases h
  · split at h
    · assumption
    · cases h

theorem check_of_postable {connection : Connection} {name : String}
    (h : connection.state.canPost = true) : connection.checkPostable name = .ok () := by
  unfold Connection.checkPostable
  split
  · next state => rw [state] at h; cases h
  · next state => rw [state] at h; cases h
  · exact if_pos h

theorem open_of_postable {state : LifecycleState} (h : state.canPost = true) : state ≠ .closed := by
  rintro rfl
  cases h

/-- What is left of a session whose queue pair works: nothing has moved, or the queue pair has made
moves, after which a refused post may end the connection. -/
inductive Works (s : Session) : Session → Prop
  | still : Works s s
  | moved {station after : Station} {requests : List Request}
      (present : s.station? = some station) (moves : Station.Moves station requests after) :
      Works s (s.withStation after)
  | refused {station after : Station} {requests : List Request}
      (able : s.connection.state.canPost = true) (present : s.station? = some station)
      (moves : Station.Moves station requests after) (cause : DeviceError) :
      Works s ((s.withStation after).postFailed cause).2

/-- A station that has not moved leaves the session as it is. -/
theorem withStation_station {s : Session} {station : Station}
    (present : s.station? = some station) :
    s.withStation station = s := by
  simp only [station?, Option.map_eq_some_iff] at present
  obtain ⟨q, hq, rfl⟩ := present
  simp only [withStation, ← hq]

/-- A post that the device turns down. -/
theorem Works.turnedDown {s : Session} {station : Station}
    (able : s.connection.state.canPost = true) (present : s.station? = some station)
    (cause : DeviceError) : Works s (s.postFailed cause).2 := by
  have refused := Works.refused able present (.refl station) cause
  rwa [withStation_station present] at refused

theorem works_post (s : Session) (operation : SendOperation) (request : UInt64)
    (offset length peerOffset : Nat) :
    Works s (s.post operation request offset length peerOffset).2 := by
  unfold post
  split
  · exact .still
  · next checked =>
    have able := postable_of_check checked
    split
    · exact .still
    · next send _ =>
      split
      · exact .still
      · next station present =>
        split
        · exact .turnedDown able present _
        · have moves := Station.moves_postSend s.device.registrations station send
          split
          · next h => rw [h] at moves; exact .moved present moves
          · next h => rw [h] at moves; exact .refused able present moves _

theorem works_postReceive (s : Session) (request : UInt64) :
    Works s (s.postReceive request).2 := by
  unfold postReceive
  split
  · exact .still
  · next checked =>
    have able := postable_of_check checked
    split
    · exact .still
    · next station present =>
      split
      · exact .turnedDown able present _
      · have moves := Station.moves_postReceive station request
        split
        · next h => rw [h] at moves; exact .moved present moves
        · next h => rw [h] at moves; exact .refused able present moves _

/-- What arrives on the link only lets the queue pair work. -/
theorem deliver_moves {s : Session} {here : Station} (present : s.station? = some here)
    (bytes : Bytes) (ended : Bool) :
    ∃ there, s.deliver bytes ended = s.withStation there ∧ Station.Moves here [] there := by
  obtain ⟨q, hq, rfl⟩ := Option.map_eq_some_iff.mp present
  unfold deliver
  rw [hq]
  dsimp only
  generalize hlink : Option.map _ q.link = link
  have linked : link.isSome = q.link.isSome := by rw [← hlink]; exact Option.isSome_map
  let heard : Station := ⟨{ q with link := link }, s.connection.completions, s.memory⟩
  have arrived : Station.Moves ⟨q, s.connection.completions, s.memory⟩ [] heard :=
    Station.Alike.moves ⟨rfl, rfl, rfl, Nat.le_refl _, linked, rfl⟩
  exact ⟨_, rfl, arrived.after (Station.moves_settle s.device.registrations heard)⟩

theorem works_deliver (s : Session) (bytes : Bytes) (ended : Bool) :
    Works s (s.deliver bytes ended) := by
  cases present : s.station? with
  | some here =>
    obtain ⟨there, delivered, moves⟩ := deliver_moves present bytes ended
    rw [delivered]
    exact .moved present moves
  | none =>
    have absent : s.connection.queuePair = none := Option.map_eq_none_iff.mp present
    unfold deliver
    rw [absent]
    exact .still

/-! ## Turns -/

/-- What an event makes of a connection. -/
inductive Turn (s : Session) : ConnectionEvent → Session → Prop
  /-- The state stays; a queue pair may fail. -/
  | stay {event : ConnectionEvent} {t : Session} (state : t.connection.state = s.connection.state)
      (papers : t.connection.papers = s.connection.papers)
      (pair : t.connection.pairState = s.connection.pairState ∨
        (s.connection.pairState.isSome = true ∧ t.connection.pairState = some .error)) :
      Turn s event t
  | begun {t : Session} (before : s.connection.state = .created)
      (after : t.connection.state = .listening ∨ t.connection.state = .connecting)
      (papers : t.connection.papers = s.connection.papers)
      (pair : t.connection.pairState = s.connection.pairState) : Turn s .begin t
  | ready {exchange : Exchange} {conditions : LinkConditions} {t : Session}
      (before : s.connection.state = .listening ∨ s.connection.state = .connecting)
      (after : t.connection.state = .queuePairReady)
      (papers : t.connection.papers =
        (s.connection.registration, some exchange.own, some exchange.peer))
      (pair : t.connection.pairState = some .readyToSend) :
      Turn s (.activate exchange conditions) t
  /-- A drain finds a success. -/
  | active {t : Session} (before : s.connection.state = .queuePairReady)
      (after : t.connection.state = .active)
      (success : ∃ report ∈ s.drain.1, report.succeeded = true)
      (papers : t.connection.papers = s.connection.papers)
      (pair : t.connection.pairState = s.connection.pairState) : Turn s .drain t
  | failed {event : ConnectionEvent} {t : Session} (before : s.connection.state ≠ .closed)
      (after : t.connection.state = .error)
      (registration : t.connection.registration = s.connection.registration)
      (pair : t.connection.pairState.isSome = s.connection.pairState.isSome) : Turn s event t
  | closed {t : Session} (before : s.connection.state ≠ .closed)
      (after : t.connection.state = .closed) (registration : t.connection.registration = none)
      (pair : t.connection.pairState = none) : Turn s .close t

theorem Turn.refl (s : Session) (event : ConnectionEvent) : Turn s event s :=
  .stay rfl rfl (Or.inl rfl)

theorem turn_begin (s : Session) : Turn s .begin s.begin.2 := by
  unfold begin
  split
  · exact .refl s _
  · next connection h =>
    have started : ∃ event, (event = .listen ∨ event = .connect) ∧
        s.connection.apply event "begin handshake" = .ok connection := by
      unfold Connection.begin at h
      split at h
      · exact ⟨_, Or.inl rfl, h⟩
      · exact ⟨_, Or.inr rfl, h⟩
    obtain ⟨event, hevent, applied⟩ := started
    obtain ⟨state, hnext, rfl⟩ := Connection.apply_eq_ok applied
    have moved : s.connection.state = .created ∧ (state = .listening ∨ state = .connecting) := by
      rcases hevent with rfl | rfl <;> cases hs : s.connection.state <;>
        simp_all [Lifecycle.next?]
    exact .begun moved.1 moved.2 rfl rfl

theorem turn_activate (s : Session) (exchange : Exchange) (conditions : LinkConditions) :
    Turn s (.activate exchange conditions) (s.activate exchange conditions).session := by
  unfold activate
  split
  · exact .refl s _
  · next connection h =>
    obtain ⟨state, hnext, rfl⟩ := Connection.apply_eq_ok h
    have waiting : (s.connection.state = .listening ∨ s.connection.state = .connecting) ∧
        state = .parametersExchanged := by
      cases hs : s.connection.state <;> simp_all [Lifecycle.next?]
    dsimp only
    generalize hinformed : s.withConnection _ = informed
    have papers : informed.connection.papers =
        (s.connection.registration, some exchange.own, some exchange.peer) := by
      rw [← hinformed]; rfl
    have pair : informed.connection.queuePair = s.connection.queuePair := by
      rw [← hinformed]; rfl
    have alive : informed.connection.holding.isOpen = true := by
      rw [← hinformed, Connection.isOpen_iff]
      exact fun closed => by rw [waiting.2] at closed; cases closed
    have raised := raised_bringUp informed exchange conditions
    have steady := steady_bringUp informed exchange conditions
    split
    · next done =>
      obtain ⟨ready, running⟩ := raised.ready done
      exact .ready waiting.1 ready (raised.papers.trans papers) running
    · rw [← steady.holding, Connection.isOpen_iff] at alive
      refine .failed (fun closed => ?_) (Connection.state_faulted alive)
        (congrArg Prod.fst (raised.papers.trans papers)) ?_
      · rcases waiting.1 with h | h <;> rw [h] at closed <;> cases closed
      · rw [Connection.isSome_pairState, Connection.isSome_pairState, ← pair]
        exact raised.pair

/-- A session with a station has a queue pair, and has one after the station has moved. -/
theorem isSome_withStation {s : Session} {station : Station} (present : s.station? = some station)
    (after : Station) :
    (s.withStation after).connection.pairState.isSome = s.connection.pairState.isSome := by
  simp only [station?, Option.map_eq_some_iff] at present
  obtain ⟨q, hq, rfl⟩ := present
  rw [Connection.isSome_pairState, Connection.isSome_pairState, hq]
  rfl

/-- Moves of the queue pair leave the state of the connection. -/
theorem turn_moved {s : Session} {station after : Station} {requests : List Request}
    (event : ConnectionEvent) (present : s.station? = some station)
    (moves : Station.Moves station requests after) : Turn s event (s.withStation after) := by
  simp only [station?, Option.map_eq_some_iff] at present
  obtain ⟨q, hq, rfl⟩ := present
  have before : s.connection.pairState = some q.state := by rw [Connection.pairState, hq]; rfl
  refine .stay rfl rfl ?_
  show some after.queuePair.state = _ ∨ _ ∧ some after.queuePair.state = _
  rw [before]
  rcases moves.state.1 with same | failed
  · exact Or.inl (congrArg some same)
  · exact Or.inr ⟨rfl, congrArg some failed⟩

theorem Works.turn {s t : Session} (h : Works s t) (event : ConnectionEvent) : Turn s event t := by
  cases h with
  | still => exact .refl s event
  | moved present moves => exact turn_moved event present moves
  | refused able present moves cause =>
    have turned := turn_moved event present moves
    have alive := open_of_postable able
    unfold postFailed
    split
    · split
      · exact .failed alive (Connection.state_faulted alive) rfl (isSome_withStation present _)
      · exact turned
    · exact turned

theorem turn_drain (s : Session) : Turn s .drain s.drain.2 := by
  obtain ⟨papers, -, pair⟩ := kept_of_observed s.drain.1
    { s.connection with completions := s.connection.completions.drain.2.takeFault.2 }
  have pair := congrArg (Option.map QueuePair.state) pair
  rcases observed_cases s.drain.1
    { s.connection with completions := s.connection.completions.drain.2.takeFault.2 } with
    same | ⟨before, after, success⟩ | ⟨before, after⟩
  · exact .stay same papers (Or.inl pair)
  · exact .active before after success papers pair
  · exact .failed before after (congrArg Prod.fst papers) (congrArg Option.isSome pair)

theorem turn_close (s : Session) : Turn s .close s.close.2 := by
  by_cases shut : s.connection.state = .closed
  · rw [close_closed (Connection.not_isOpen_iff.mpr shut)]
    exact .refl s _
  · rw [close_of_open shut]
    exact .closed shut rfl rfl rfl

theorem turn_step (s : Session) (event : ConnectionEvent) : Turn s event (s.step event) := by
  cases event with
  | begin => exact turn_begin s
  | activate exchange conditions => exact turn_activate s exchange conditions
  | post operation request offset length peerOffset => exact (works_post s _ _ _ _ _).turn _
  | postReceive request => exact (works_postReceive s request).turn _
  | deliver bytes ended => exact (works_deliver s bytes ended).turn _
  | report completion => exact .stay rfl rfl (Or.inl rfl)
  | drain => exact turn_drain s
  | close => exact turn_close s
  | elsewhere device memory => exact .stay rfl rfl (Or.inl rfl)

end Session

end RdmaLink
