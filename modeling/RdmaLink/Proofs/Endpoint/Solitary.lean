import RdmaLink.Proofs.Connection.Attendance
import RdmaLink.Proofs.Endpoint.Grounds
import RdmaLink.Proofs.Endpoint.Handshake

/-!
# Endpoints with one connection

An endpoint that has taken in its one peer and listens no more is its one session, as far as posts,
arrivals, looks and closing go.

    e.Holds s → (e.postReceive id request).2.Holds (s.postReceive request).2
                                                                       (Endpoint.Holds.onSession)
    e.Holds s → (e.deliver id bytes ended).Holds (s.deliver bytes ended)
                                                                       (Endpoint.Holds.deliver)

What it gives when it is looked at are the events of one drain, from whatever sources
(`Endpoint.Holds.collect`).
-/

namespace RdmaLink

namespace Endpoint

variable {e : Endpoint} {s : Session} {count : Nat}

/-- An endpoint with one connection and no listener. -/
structure Holds (e : Endpoint) (s : Session) : Prop where
  only : e.connections = [(s.connection.id, s.connection)]
  session : e.sessionOf s.connection = s
  unbound : e.listeners = []

theorem Holds.found (holds : e.Holds s) (id : Nat) :
    e.connection? id = if id = s.connection.id then some s.connection else none := by
  unfold connection?
  rw [holds.only, List.lookup_cons]
  by_cases its : id = s.connection.id
  · rw [if_pos its, beq_iff_eq.mpr its]
  · rw [if_neg its, beq_eq_false_iff_ne.mpr its]
    rfl

theorem Holds.withSession (holds : e.Holds s) {after : Session}
    (number : after.connection.id = s.connection.id) : (e.withSession after).Holds after where
  only := by
    show (e.afterSession after).connections.map _ = _
    rw [connections_afterSession, holds.only, List.map_singleton]
    simp [number]
  session := by
    have carried := carrier_withCarrier e after.connection.transport after.device
    show Session.mk after.connection ((e.withCarrier after.connection.transport
      after.device).carrier after.connection.transport) after.memory = after
    rw [carried]
  unbound := by
    have moved := congrArg Roster.listeners (roster_afterSession e after)
    have none : (e.withSession after).listeners.map Prod.fst = [] :=
      moved.trans (congrArg (List.map Prod.fst) holds.unbound)
    exact List.map_eq_nil_iff.mp none

theorem Holds.onSession {α : Type} (holds : e.Holds s)
    (operation : Session → Except EndpointError α × Session)
    (number : (operation s).2.connection.id = s.connection.id) :
    (e.onSession s.connection.id operation).1 = (operation s).1 ∧
      (e.onSession s.connection.id operation).2.Holds (operation s).2 := by
  have found := holds.found s.connection.id
  rw [if_pos rfl] at found
  unfold Endpoint.onSession
  rw [found]
  dsimp only
  rw [holds.session]
  exact ⟨rfl, holds.withSession number⟩

/-- What arrives for another connection is lost. -/
theorem Holds.deliver (holds : e.Holds s) (id : Nat) (bytes : Bytes) (ended : Bool) :
    (e.deliver id bytes ended).Holds
      (if id = s.connection.id then s.deliver bytes ended else s) := by
  have found := holds.found id
  unfold Endpoint.deliver
  rw [found]
  by_cases its : id = s.connection.id
  · rw [if_pos its, if_pos its]
    dsimp only
    rw [holds.session]
    exact holds.withSession (s.id_step (.deliver bytes ended))
  · rw [if_neg its, if_neg its]
    exact holds

/-- A source gives nothing, or what a drain gives. -/
theorem Holds.eventsOf (holds : e.Holds s) (source : Source) :
    ((e.eventsOf source).1 = [] ∧ (e.eventsOf source).2.Holds s) ∨
      ((e.eventsOf source).1 = s.drain.1.map (Event.ofCompletion s.connection.id) ∧
        (e.eventsOf source).2.Holds s.drain.2) := by
  cases source with
  | listener id =>
    have unbound : e.listener? id = none := by
      unfold listener?
      rw [holds.unbound]
      rfl
    refine Or.inl ?_
    unfold Endpoint.eventsOf
    dsimp only
    rw [unbound]
    exact ⟨rfl, holds⟩
  | connection id =>
    have found := holds.found id
    unfold Endpoint.eventsOf
    dsimp only
    rw [found]
    by_cases its : id = s.connection.id
    · rw [if_pos its]
      dsimp only
      rw [holds.session, its]
      exact Or.inr ⟨rfl, holds.withSession (s.id_step .drain)⟩
    · rw [if_neg its]
      exact Or.inl ⟨rfl, holds⟩

theorem Holds.collect_drained (holds : e.Holds s) (empty : s.drain = ([], s))
    (sources : List Source) :
    (e.collect sources).1 = [] ∧ (e.collect sources).2.Holds s := by
  induction sources generalizing e with
  | nil => exact ⟨rfl, holds⟩
  | cons source rest ih =>
    unfold Endpoint.collect
    dsimp only
    rcases holds.eventsOf source with ⟨nothing, kept⟩ | ⟨given, left⟩
    · rw [nothing]
      exact ih kept
    · rw [empty] at given left
      rw [given]
      exact ih left

/-- Whatever sources are gone through, they give nothing, or what one drain gives. -/
theorem Holds.collect (holds : e.Holds s) (sources : List Source) :
    ((e.collect sources).1 = [] ∧ (e.collect sources).2.Holds s) ∨
      ((e.collect sources).1 = s.drain.1.map (Event.ofCompletion s.connection.id) ∧
        (e.collect sources).2.Holds s.drain.2) := by
  induction sources generalizing e with
  | nil => exact Or.inl ⟨rfl, holds⟩
  | cons source rest ih =>
    unfold Endpoint.collect
    dsimp only
    rcases holds.eventsOf source with ⟨nothing, kept⟩ | ⟨given, left⟩
    · rw [nothing]
      exact ih kept
    · obtain ⟨nothing, kept⟩ := left.collect_drained s.drain_drained rest
      rw [given, nothing, List.append_nil]
      exact Or.inr ⟨rfl, kept⟩

theorem Holds.close (holds : e.Holds s) (unclosed : s.connection.state ≠ .closed) :
    (e.close s.connection.id).1 = .ok () ∧
      ∃ closed, (e.close s.connection.id).2.Holds closed ∧
        closed.connection.id = s.connection.id ∧ closed.connection.state = .closed := by
  obtain ⟨same, closed⟩ := holds.onSession Session.close (s.id_step .close)
  rw [Session.close_of_open unclosed] at same closed
  unfold Endpoint.close
  split
  · next h => rw [h] at same; cases same
  · next h =>
    rw [h] at closed
    exact ⟨rfl, _, ⟨closed.only, closed.session, closed.unbound⟩, rfl, rfl⟩

/-! ## Taking in the one peer -/

section Accepting

variable {transport : Transport} {session : Session} {record : Record} {q : QueuePair}
  {link : Stream} {exchange : Exchange} {listener : Nat} {address : SocketAddress}
  {conditions : AcceptConditions} {board : Board} {id : Nat}

/-- A connection that has come up serves its peer, before the first receive is posted. -/
theorem Opens.serves (opens : e.Opens transport session record)
    (willing : (e.carrier transport).refusal .receiving = none)
    (brought : s.connection = (session.activated q link exchange).connection)
    (present : session.connection.queuePair = some q) (device : s.device = session.device) :
    s.Serves 0 ∧ ¬ s.Lost ∧ s.Unheld := by
  obtain ⟨registration, -, charged, holding⟩ := opens.charged
  obtain ⟨number, fresh⟩ := opens.queuePair
  obtain rfl : q = .fresh number e.config.rdma.handshakeLimit :=
    Option.some.inj (present.symm.trans fresh)
  have state : s.connection.state = .queuePairReady := by rw [brought]; rfl
  have pair : s.connection.pairState = some .readyToSend := by rw [brought]; rfl
  have registered : s.connection.registration = some registration := by
    rw [brought]
    exact congrArg Holding.registration holding
  have queue : s.connection.completions = .ofDepth (e.settings transport).depth := by
    rw [brought]
    exact opens.completions
  have alive : s.connection.state ≠ .closed := by rw [state]; decide
  refine ⟨⟨?_, ?_, alive, ?_, ?_⟩, ?_, ?_⟩
  · refine .of_open (by rw [state]; decide) alive (by rw [pair]; rfl) (by rw [registered]; rfl) ?_
    exact fun _ => ⟨by rw [brought]; rfl, by rw [brought]; rfl, Or.inl pair⟩
  · exact Nat.le_of_eq (congrArg LifecycleState.rank state).symm
  · rw [device, charged]
    exact willing
  · have here : s.station? = some ⟨{ QueuePair.fresh number e.config.rdma.handshakeLimit with
        access := Access.all }.running link, .ofDepth (e.settings transport).depth, s.memory⟩ := by
      rw [← queue, Session.station?, brought]
      rfl
    have running : QueuePairState.readyToSend ≠ .error := by decide
    have none : ∀ report ∈ ([] : List Completion), report.isWrite = true := List.forall_mem_nil _
    exact ⟨_, here,
      Or.inr ⟨⟨running, rfl, rfl, Nat.zero_le _, none, rfl⟩, by rw [state]; decide⟩⟩
  · rw [Session.Lost, pair]
    decide
  · intro other same
    rw [brought] at same
    rw [← Option.some.inj same]
    rfl

/-- With its only listener taken, an endpoint listens no more. -/
theorem unbound_accept (one : e.listeners = [(listener, address)])
    (h : (e.accept listener conditions board).outcome.result = .ok id) :
    (e.accept listener conditions board).outcome.endpoint.listeners = [] ∧
      id = e.nextConnection := by
  rcases e.accept_paths listener conditions board with
    ⟨fault, refused⟩ | ⟨bound, attempt, hattempt, taken⟩
  · rw [refused] at h; cases h
  · have admits := admits_attempted
      (attempted_acceptOn (e.withoutListener listener) bound conditions)
    rw [taken] at h ⊢
    dsimp only at h ⊢
    rw [← hattempt, h] at admits
    obtain ⟨number, mux, holding, -, -, -, installed⟩ := admits
    have listeners : attempt.2.1.listeners.map Prod.fst =
        ((e.withoutListener listener).listeners.map Prod.fst) := congrArg Roster.listeners installed
    have none : (e.withoutListener listener).listeners = [] := by
      simp [withoutListener, one]
    rw [none] at listeners
    exact ⟨List.map_eq_nil_iff.mp listeners, number⟩

theorem called_of_accept (h : (e.accept listener conditions board).outcome.result = .ok id) :
    ∃ meeting, conditions.caller = .ok (some meeting) := by
  rcases e.accept_paths listener conditions board with
    ⟨fault, refused⟩ | ⟨bound, attempt, rfl, taken⟩
  · rw [refused] at h; cases h
  · rw [taken] at h
    unfold acceptOn at h
    split at h
    · cases h
    · cases h
    · next meeting called => exact ⟨meeting, called⟩

theorem settings_depth (e : Endpoint) (transport : Transport) :
    (e.settings transport).depth = e.config.rdma.depth := by
  unfold settings
  dsimp only
  split <;> rfl

/-- With its only listener taken, an endpoint holds the connection of the peer that it took in. -/
theorem holds_accept (alone : e.connections = []) (one : e.listeners = [(listener, address)])
    (willing : ∀ transport, (e.carrier transport).refusal .receiving = none)
    (h : (e.accept listener conditions board).outcome.result = .ok id) :
    id = e.nextConnection ∧
      ∃ s, (e.accept listener conditions board).outcome.endpoint.Holds s ∧
        s.connection.id = id ∧ s.Serves 0 ∧ ¬ s.Lost ∧ s.Unheld ∧
        s.connection.completions.depth = e.config.rdma.depth := by
  obtain ⟨unbound, number⟩ := unbound_accept one h
  obtain ⟨meeting, called⟩ := called_of_accept h
  obtain ⟨stream, concluded⟩ := accept_eq_ok called h
  generalize (e.accept listener conditions board).outcome.endpoint = after at concluded unbound ⊢
  refine ⟨number, ?_⟩
  unfold Attempt.conclude at concluded
  split at concluded
  · cases concluded
  · next session exchange done =>
    obtain ⟨-, record, -, opens, same⟩ :=
      sound_listenerExchange (e.withoutListener listener) meeting conditions.lot session exchange
        done
    generalize established : Endpoint.establish _ session exchange _ _ = outcome at concluded
    obtain ⟨result, endpoint, ended⟩ := outcome
    cases concluded
    obtain ⟨q, link, present, rfl, listed, carried⟩ := establish_eq_ok established
    have served : (e.withoutListener listener).connections = [] := alone
    rw [same, served, List.nil_append] at listed
    obtain ⟨serves, running, unheld⟩ := opens.serves
      (s := after.sessionOf (session.activated q link exchange).connection)
      (willing exchange.peer.transport) rfl present carried
    refine ⟨after.sessionOf (session.activated q link exchange).connection,
      ⟨listed, rfl, unbound⟩, rfl, serves, running, unheld, ?_⟩
    show session.connection.completions.depth = _
    rw [opens.completions]
    exact settings_depth _ _

end Accepting

end Endpoint

end RdmaLink
