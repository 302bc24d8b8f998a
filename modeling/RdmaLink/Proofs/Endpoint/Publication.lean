import RdmaLink.Proofs.Endpoint.Attempts

/-!
# What an endpoint publishes

A publication shows one address.  Every listener that is bound overwrites it, and it is withdrawn
when the last listener is taken.  So it tells of the listener that was bound latest, and goes on to
do so after that one was taken, as long as an older one is left.

    after.endpoint.listeners = [] → after.board.slot = none
    after.endpoint.listeners ≠ [] → after.board.slot = some (the address of the latest listener)
                                                            (Stand.slot_names_latest_listener)

Of the publication this takes only that it can be written and withdrawn (`Publication.Faithful`),
as a slot always can.

Only binding, accepting and the shutdown have to do with the listeners; everything else leaves the
`front` of an endpoint as it is.
-/

namespace RdmaLink

/-! ## What is asked of a publication -/

namespace Publication

/-- A publication that shows addresses on boards can be written and withdrawn where steps fail as
they do. -/
structure Faithful (publication : Publication) (shows : Board → Option SocketAddress → Prop)
    (faults : Nat → Option FileFault) : Prop where
  publish : ∀ {board : Board} {shown : Option SocketAddress} (address : SocketAddress),
    shows board shown →
      ∃ after, publication.publish faults address board = (.ok (), after) ∧
        shows after (some address)
  withdraw : ∀ {board : Board} {shown : Option SocketAddress}, shows board shown →
    shows (publication.withdraw faults board).2 none

/-- A slot shows what it holds. -/
theorem faithful_memory (faults : Nat → Option FileFault) :
    memory.Faithful (fun board shown => board.slot = shown) faults :=
  ⟨fun _ _ => ⟨_, rfl, rfl⟩, fun _ => rfl⟩

end Publication

namespace Endpoint

/-- The side of an endpoint that peers look for. -/
structure Front where
  listeners : List (Nat × SocketAddress)
  nextListener : Nat
  publication : Publication

def front (endpoint : Endpoint) : Front :=
  ⟨endpoint.listeners, endpoint.nextListener, endpoint.publication⟩

/-! ## Operations that leave the front as it is -/

theorem front_watch {e watching : Endpoint} {fault : Option Errno} {descriptor : Descriptor}
    {source : Source} (h : e.watch fault descriptor source = .ok watching) :
    watching.front = e.front := by
  obtain ⟨mux, -, rfl⟩ := watch_eq_ok h
  rfl

@[simp] theorem front_withCarrier (e : Endpoint) (transport : Transport) (device : Device) :
    (e.withCarrier transport device).front = e.front := by
  unfold withCarrier
  split <;> rfl

@[simp] theorem front_afterSession (e : Endpoint) (session : Session) :
    (e.afterSession session).front = e.front :=
  front_withCarrier e session.connection.transport session.device

@[simp] theorem front_withSession (e : Endpoint) (session : Session) :
    (e.withSession session).front = e.front :=
  front_afterSession e session

theorem front_attempted {e t : Endpoint} {result : Except EndpointError Nat}
    (h : e.Attempted result t) : t.front = e.front := by
  cases h with
  | nothing fault => rfl
  | unopened fault spends => exact front_withCarrier _ _ _
  | @givenUp transport session after record fault opens reached =>
    exact (front_afterSession _ after.release).trans (front_afterSession e.counted session)
  | @installed transport session after record mux opens reached watched =>
    have same := front_afterSession { e.counted.afterSession session with mux := mux } after
    exact same.trans (front_afterSession e.counted session)

/-- Who connects only reads the board. -/
theorem board_connect (e : Endpoint) (address : SocketAddress) (conditions : ConnectConditions)
    (board : Board) : (e.connect address conditions board).outcome.board = board := by
  unfold connect
  split
  · rfl
  · simp only
    split
    · rfl
    · split
      · rfl
      · split <;> rfl

theorem front_onSession {α : Type} (e : Endpoint) (id : Nat)
    (operation : Session → Except EndpointError α × Session) :
    (e.onSession id operation).2.front = e.front := by
  unfold onSession
  split
  · rfl
  · exact front_withSession _ _

theorem front_close (e : Endpoint) (id : Nat) : (e.close id).2.front = e.front := by
  have same := front_onSession e id Session.close
  unfold close
  split
  · next h => rw [h] at same; exact same
  · next h => rw [h] at same; exact same

theorem front_closed (ids : List Nat) (e : Endpoint) :
    (ids.foldl (fun endpoint id => (endpoint.close id).2) e).front = e.front := by
  induction ids generalizing e with
  | nil => rfl
  | cons id rest ih => exact (ih _).trans (front_close e id)

/-- The front is kept by all that only moves sessions on. -/
theorem front_keeps (front : Front) (e : Endpoint) (id : Nat) (connection : Connection)
    (after : Session) (same : e.front = front) (_ : e.connection? id = some connection)
    (_ : (e.sessionOf connection).Steady after) : (e.withSession after).front = front :=
  (front_withSession e after).trans same

/-! ## Operations on the front -/

section Front

variable {e : Endpoint} {publication : Publication}
  {shows : Board → Option SocketAddress → Prop} {shown : Option SocketAddress}

/-- A listener is bound under the next number and published, or nothing changes that peers look
for. -/
theorem bind_cases (published : e.publication = publication) {conditions : BindConditions}
    (faithful : publication.Faithful shows conditions.faults) (address : SocketAddress)
    {board : Board} (tells : shows board shown) :
    (∃ fault next, e.nextListener ≤ next ∧
      (e.bind address conditions board).result = .error fault ∧
      (e.bind address conditions board).endpoint.front = ⟨e.listeners, next, publication⟩ ∧
      (e.bind address conditions board).board = board) ∨
    (∃ bound, conditions.bound = .ok bound ∧
      (e.bind address conditions board).result = .ok e.nextListener ∧
      (e.bind address conditions board).endpoint.front =
        ⟨e.listeners ++ [(e.nextListener, bound)], e.nextListener + 1, publication⟩ ∧
      shows (e.bind address conditions board).board (some bound)) := by
  unfold bind
  split
  · exact Or.inl ⟨_, _, Nat.le_refl _, rfl, by rw [front, published], rfl⟩
  · next bound hb =>
    simp only
    split
    · exact Or.inl ⟨_, _, Nat.le_succ _, rfl, by rw [front, published], rfl⟩
    · next watching hw =>
      have same := front_watch hw
      simp only [front, Front.mk.injEq] at same
      obtain ⟨hl, hn, hp⟩ := same
      obtain ⟨after, done, told⟩ := faithful.publish bound tells
      rw [published] at hp ⊢
      rw [done]
      refine Or.inr ⟨bound, hb, rfl, ?_, told⟩
      simp only [front, hl, hn, hp]

/-- A listener that is taken is gone, and with the last one the publication. -/
theorem accept_cases (published : e.publication = publication) (listener : Nat)
    {conditions : AcceptConditions} (faithful : publication.Faithful shows conditions.faults)
    {board : Board} (tells : shows board shown) :
    ((e.accept listener conditions board).outcome.endpoint = e ∧
      (e.accept listener conditions board).outcome.board = board) ∨
    ((e.accept listener conditions board).outcome.endpoint.front =
        ⟨e.listeners.filter fun entry => entry.1 != listener, e.nextListener, publication⟩ ∧
      shows (e.accept listener conditions board).outcome.board
        (if (e.listeners.filter fun entry => entry.1 != listener).isEmpty then none
        else shown)) := by
  rcases e.accept_paths listener conditions board with
    ⟨fault, refused⟩ | ⟨address, attempt, hattempt, taken⟩
  · rw [refused]
    exact Or.inl ⟨rfl, rfl⟩
  · have same : attempt.2.1.front = (e.withoutListener listener).front := by
      rw [hattempt]
      exact front_attempted (attempted_acceptOn _ address conditions)
    have without : (e.withoutListener listener).front =
        ⟨e.listeners.filter fun entry => entry.1 != listener, e.nextListener, publication⟩ := by
      rw [← published]; rfl
    rw [taken]
    refine Or.inr ⟨same.trans without, ?_⟩
    rw [without] at same
    simp only [front, Front.mk.injEq] at same
    obtain ⟨listed, -, still⟩ := same
    dsimp only
    rw [listed, still]
    split
    · exact faithful.withdraw tells
    · exact tells

/-- A shutdown leaves no listener and nothing published. -/
theorem shutdown_front (published : e.publication = publication)
    {faults : Nat → Option FileFault} (faithful : publication.Faithful shows faults)
    {board : Board} (tells : shows board shown) :
    (e.shutdown faults board).endpoint.front = ⟨[], e.nextListener, publication⟩ ∧
      shows (e.shutdown faults board).board none := by
  obtain ⟨closed, hclosed, he, hb⟩ := e.shutdown_eq faults board
  have same : closed.front = e.front := by rw [hclosed]; exact front_closed _ _
  simp only [front, Front.mk.injEq] at same
  obtain ⟨-, hn, hp⟩ := same
  rw [he, hb, hp, published]
  exact ⟨by simp only [front, hn], faithful.withdraw tells⟩

end Front

end Endpoint

/-! ## The latest listener -/

/-- A publication tells of the listener that was bound last while a listener is bound, and of
nothing otherwise. -/
structure Announced (publication : Publication) (last : Option (Nat × SocketAddress))
    (front : Endpoint.Front) (shown : Option SocketAddress) : Prop where
  published : front.publication = publication
  below : ∀ entry ∈ front.listeners, entry.1 < front.nextListener
  withdrawn : front.listeners = [] → shown = none
  announced : front.listeners ≠ [] → ∃ id address, last = some (id, address) ∧
    shown = some address ∧ ∀ entry ∈ front.listeners,
      entry.1 ≤ id ∧ (entry.1 = id → entry.2 = address)

namespace Announced

variable {publication : Publication} {last : Option (Nat × SocketAddress)}
  {listeners : List (Nat × SocketAddress)} {next : Nat} {shown : Option SocketAddress}

theorem named {front : Endpoint.Front} (h : Announced publication last front shown) :
    Announced publication last ⟨front.listeners, front.nextListener, publication⟩ shown :=
  ⟨rfl, h.below, h.withdrawn, h.announced⟩

theorem later (h : Announced publication last ⟨listeners, next, publication⟩ shown) {number : Nat}
    (up : next ≤ number) : Announced publication last ⟨listeners, number, publication⟩ shown :=
  ⟨rfl, fun entry he => Nat.lt_of_lt_of_le (h.below entry he) up, h.withdrawn, h.announced⟩

theorem bound (h : Announced publication last ⟨listeners, next, publication⟩ shown)
    (address : SocketAddress) :
    Announced publication (some (next, address))
      ⟨listeners ++ [(next, address)], next + 1, publication⟩ (some address) := by
  have cases (entry : Nat × SocketAddress) (he : entry ∈ listeners ++ [(next, address)]) :
      entry.1 < next ∨ entry = (next, address) := by
    rcases List.mem_append.mp he with he | he
    · exact Or.inl (h.below entry he)
    · exact Or.inr (List.mem_singleton.mp he)
  refine ⟨rfl, fun entry he => ?_, fun none => by simp at none, fun _ => ?_⟩
  · rcases cases entry he with lt | rfl
    · exact Nat.lt_succ_of_lt lt
    · exact Nat.lt_succ_self next
  · refine ⟨next, address, rfl, rfl, fun entry he => ?_⟩
    rcases cases entry he with lt | rfl
    · exact ⟨Nat.le_of_lt lt, fun same => absurd same (Nat.ne_of_lt lt)⟩
    · exact ⟨Nat.le_refl _, fun _ => rfl⟩

theorem taken (h : Announced publication last ⟨listeners, next, publication⟩ shown)
    (keep : Nat × SocketAddress → Bool) :
    Announced publication last ⟨listeners.filter keep, next, publication⟩
      (if (listeners.filter keep).isEmpty then none else shown) := by
  have sub : ∀ entry ∈ listeners.filter keep, entry ∈ listeners :=
    fun entry he => (List.mem_filter.mp he).1
  refine ⟨rfl, fun entry he => h.below entry (sub entry he), fun none => ?_, fun some => ?_⟩
  · rw [if_pos (List.isEmpty_iff.mpr none)]
  · have left : listeners ≠ [] := by
      intro empty
      rw [empty] at some
      exact some rfl
    obtain ⟨id, address, hlast, hslot, rest⟩ := h.announced left
    rw [if_neg (by rwa [List.isEmpty_iff])]
    exact ⟨id, address, hlast, hslot, fun entry he => rest entry (sub entry he)⟩

theorem nobody (last : Option (Nat × SocketAddress)) (next : Nat) :
    Announced publication last ⟨[], next, publication⟩ none :=
  ⟨rfl, fun _ he => (List.not_mem_nil he).elim, fun _ => rfl, fun some => absurd rfl some⟩

end Announced

/-- Which steps of its publications fail, each time an event publishes or withdraws. -/
def EndpointEvent.publicationFaults : EndpointEvent → List (Nat → Option FileFault)
  | .bind _ conditions => [conditions.faults]
  | .accept _ conditions => [conditions.faults]
  | .listen _ binding conditions => [binding.faults, conditions.faults]
  | .shutdown faults => [faults]
  | _ => []

namespace Stand

/-- The listener that a binding makes, with its address. -/
def binding (stand : Stand) (address : SocketAddress) (conditions : Endpoint.BindConditions) :
    Option (Nat × SocketAddress) :=
  match (stand.endpoint.bind address conditions stand.board).result, conditions.bound with
  | .ok id, .ok bound => some (id, bound)
  | _, _ => none

/-- The listener that an event binds. -/
def binds (stand : Stand) : EndpointEvent → Option (Nat × SocketAddress)
  | .bind address conditions => stand.binding address conditions
  | .listen address conditions _ => stand.binding address conditions
  | _ => none

/-- The listener that a run binds latest; before the run that was `last`. -/
def latest (stand : Stand) (last : Option (Nat × SocketAddress)) :
    List EndpointEvent → Option (Nat × SocketAddress)
  | [] => last
  | event :: rest => (stand.step event).latest ((stand.binds event).or last) rest

/-- A stand whose publication tells of the listener that was bound last. -/
def Tells (publication : Publication) (shows : Board → Option SocketAddress → Prop) (stand : Stand)
    (last : Option (Nat × SocketAddress)) : Prop :=
  ∃ shown, shows stand.board shown ∧ Announced publication last stand.endpoint.front shown

namespace Tells

variable {publication : Publication} {shows : Board → Option SocketAddress → Prop}
  {stand : Stand} {last : Option (Nat × SocketAddress)}

theorem bind (h : Tells publication shows stand last) (address : SocketAddress)
    {conditions : Endpoint.BindConditions}
    (faithful : publication.Faithful shows conditions.faults) :
    Tells publication shows (ofOutcome (stand.endpoint.bind address conditions stand.board))
      ((stand.binding address conditions).or last) := by
  obtain ⟨shown, tells, announced⟩ := h
  have published : stand.endpoint.publication = publication := announced.published
  rcases Endpoint.bind_cases published faithful address tells with
    ⟨fault, next, up, hr, hf, hb⟩ | ⟨bound, hc, hr, hf, told⟩
  · have refused : stand.binding address conditions = none := by rw [binding, hr]
    have kept := announced.named.later up
    rw [refused, Option.none_or]
    refine ⟨shown, ?_, ?_⟩
    · simp only [ofOutcome, hb]
      exact tells
    · simp only [ofOutcome, hf]
      exact kept
  · have made : stand.binding address conditions = some (stand.endpoint.nextListener, bound) := by
      rw [binding, hr, hc]
    rw [made, Option.some_or]
    refine ⟨some bound, told, ?_⟩
    simp only [ofOutcome, hf]
    exact announced.named.bound bound

theorem accept (h : Tells publication shows stand last) (listener : Nat)
    {conditions : Endpoint.AcceptConditions}
    (faithful : publication.Faithful shows conditions.faults) :
    Tells publication shows
      (ofOutcome (stand.endpoint.accept listener conditions stand.board).outcome) last := by
  obtain ⟨shown, tells, announced⟩ := h
  have published : stand.endpoint.publication = publication := announced.published
  rcases Endpoint.accept_cases published listener faithful tells with ⟨he, hb⟩ | ⟨hf, told⟩
  · unfold Tells ofOutcome
    rw [he, hb]
    exact ⟨shown, tells, announced⟩
  · refine ⟨_, told, ?_⟩
    simp only [ofOutcome, hf]
    exact announced.named.taken fun entry => entry.1 != listener

/-- An event that leaves front and board leaves what is told of. -/
theorem same (h : Tells publication shows stand last) {endpoint : Endpoint}
    (same : endpoint.front = stand.endpoint.front) :
    Tells publication shows ⟨endpoint, stand.board⟩ last := by
  obtain ⟨shown, tells, announced⟩ := h
  exact ⟨shown, tells, same ▸ announced⟩

theorem step (h : Tells publication shows stand last) (event : EndpointEvent)
    (faithful : ∀ faults ∈ event.publicationFaults, publication.Faithful shows faults) :
    Tells publication shows (stand.step event) ((stand.binds event).or last) := by
  cases event with
  | bind address conditions => exact h.bind address (faithful _ List.mem_cons_self)
  | accept listener conditions => exact h.accept listener (faithful _ List.mem_cons_self)
  | listen address binding conditions =>
    have bound := h.bind address (faithful _ List.mem_cons_self)
    simp only [Stand.step, binds, Endpoint.listen]
    split
    · exact bound
    · exact bound.accept _ (faithful _ (List.mem_cons_of_mem _ List.mem_cons_self))
  | connect address conditions =>
    have board : (stand.endpoint.connect address conditions stand.board).outcome.board =
        stand.board := Endpoint.board_connect _ _ _ _
    simp only [Stand.step, ofOutcome, board]
    exact h.same (Endpoint.front_attempted (Endpoint.attempted_connect _ _ _ _))
  | post connection operation request offset length peerOffset =>
    exact h.same (Endpoint.front_onSession _ _ _)
  | postReceive connection request => exact h.same (Endpoint.front_onSession _ _ _)
  | deliver connection bytes ended =>
    exact h.same (Endpoint.deliver_keeps (Endpoint.front_keeps _) rfl _ _ _)
  | poll limited moments =>
    exact h.same (Endpoint.poll_keeps (Endpoint.front_keeps _) rfl _ _)
  | close connection => exact h.same (Endpoint.front_close _ _)
  | shutdown faults =>
    obtain ⟨shown, tells, announced⟩ := h
    obtain ⟨hf, told⟩ := Endpoint.shutdown_front announced.published
      (faithful _ List.mem_cons_self) tells
    refine ⟨none, told, ?_⟩
    simp only [Stand.step, ofOutcome, hf]
    exact Announced.nobody _ _

theorem run (h : Tells publication shows stand last) (events : List EndpointEvent)
    (faithful : ∀ event ∈ events, ∀ faults ∈ event.publicationFaults,
      publication.Faithful shows faults) :
    Tells publication shows (stand.run events) (stand.latest last events) := by
  induction events generalizing stand last with
  | nil => exact h
  | cons event rest ih =>
    obtain ⟨first, later⟩ := List.forall_mem_cons.mp faithful
    exact ih (h.step event first) later

/-- The listener that is told of is bound, or it was taken before an older one. -/
theorem latest (h : Tells publication shows stand last) (left : stand.endpoint.listeners ≠ []) :
    ∃ id address, last = some (id, address) ∧ shows stand.board (some address) ∧
      (∀ entry ∈ stand.endpoint.listeners, entry.1 ≤ id) ∧
      (stand.endpoint.listener? id = some address ∨ stand.endpoint.listener? id = none) := by
  obtain ⟨shown, tells, announced⟩ := h
  obtain ⟨id, address, hlast, rfl, rest⟩ := announced.announced left
  refine ⟨id, address, hlast, tells, fun entry he => (rest entry he).1, ?_⟩
  cases found : stand.endpoint.listener? id with
  | none => exact Or.inr rfl
  | some bound =>
    obtain ⟨before, behind, split, -⟩ := List.lookup_eq_some_iff.mp found
    have mem : (id, bound) ∈ stand.endpoint.listeners := by rw [split]; simp
    exact Or.inl (congrArg Option.some ((rest _ mem).2 rfl))

end Tells

/-- In every run of an endpoint that alone publishes in its slot, the slot is empty when no
listener is bound, and otherwise it holds the address of the listener that was bound latest: that
listener is bound to it, or it was taken before an older one. -/
theorem slot_names_latest_listener (config : EndpointConfig) (device : Device) (region : Region)
    (tree : FileTree) (events : List EndpointEvent) :
    let start : Stand := ⟨Endpoint.opened config device .memory region, ⟨tree, none⟩⟩
    let after := start.run events
    (after.endpoint.listeners = [] → after.board.slot = none) ∧
    (after.endpoint.listeners ≠ [] → ∃ id address, start.latest none events = some (id, address) ∧
      after.board.slot = some address ∧
      (∀ entry ∈ after.endpoint.listeners, entry.1 ≤ id) ∧
      (after.endpoint.listener? id = some address ∨ after.endpoint.listener? id = none)) := by
  intro start after
  have begun : Tells .memory (fun board shown => board.slot = shown) start none :=
    ⟨none, rfl, Announced.nobody none 1⟩
  have told : Tells _ _ after (start.latest none events) :=
    begun.run events fun _ _ faults _ => Publication.faithful_memory faults
  refine ⟨fun none => ?_, told.latest⟩
  obtain ⟨shown, same, announced⟩ := told
  exact same.trans (announced.withdrawn none)

/-- Two listeners are bound and the later one is taken first, though nobody comes.  Its address
stays published, while the listener that is left has another one. -/
theorem taken_listener_stays_published :
    let region : Region := ⟨"twins", 4096, 16, fun _ => 0, by decide⟩
    let config := EndpointConfig.ofService "twins"
    let address (port : UInt16) : SocketAddress := .v4 Ipv4.loopback port
    let binding (port : UInt16) : Endpoint.BindConditions :=
      ⟨.ok (address port), none, Publication.noFaults⟩
    let nobody : Endpoint.AcceptConditions :=
      ⟨.ok none, ⟨[], ⟨1, 0, .ok 40000⟩⟩, ⟨fun _ => .error .unexpectedEnd, none, 0⟩, none,
        Publication.noFaults⟩
    let start : Stand := ⟨Endpoint.opened config Device.soft .memory region, ⟨⟨[]⟩, none⟩⟩
    let after := start.run
      [.bind (address 0) (binding 4001), .bind (address 0) (binding 4002), .accept 2 nobody]
    after.endpoint.listeners = [(1, address 4001)] ∧ after.board.slot = some (address 4002) ∧
      ∀ entry ∈ after.endpoint.listeners, entry.2 ≠ address 4002 := by
  refine ⟨rfl, rfl, ?_⟩
  decide

end Stand

end RdmaLink
