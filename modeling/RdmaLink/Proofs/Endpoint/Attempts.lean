import RdmaLink.Proofs.Connection.Runs
import RdmaLink.Proofs.Endpoint.Runs

/-!
# Attempts to bring a connection up

Taking a peer in and dialing one go the same ways.  Nothing is done; or a number is given out and
no session comes of it; or there is a session and it is given up; or its connection is installed
under the number that was given out.

    e.Attempted (e.acceptOn address conditions).1 (e.acceptOn address conditions).2.1
                                                                   (Endpoint.attempted_acceptOn)
    e.Attempted (e.connect address conditions board).outcome.result
      (e.connect address conditions board).outcome.endpoint        (Endpoint.attempted_connect)

What is to be shown of both calls is shown of the four ways.
-/

namespace RdmaLink

/-- A session as it was, or as an activation has left it, whatever came of that. -/
def Session.AtMostActivated (s after : Session) : Prop :=
  after = s ∨ ∃ exchange conditions, after = (s.activate exchange conditions).session

theorem Session.AtMostActivated.steady {s after : Session} (h : s.AtMostActivated after) :
    s.Steady after := by
  rcases h with rfl | ⟨exchange, conditions, rfl⟩
  · exact .refl after
  · exact s.steady_activate exchange conditions

namespace Endpoint

/-- The endpoint after it has given out the number of the next connection. -/
def counted (e : Endpoint) : Endpoint := { e with nextConnection := e.nextConnection + 1 }

theorem withCarrier_carrier (e : Endpoint) (transport : Transport) :
    e.withCarrier transport (e.carrier transport) = e := by
  obtain ⟨_, _, fallback, _, _, _, _, _, _, _, _⟩ := e
  cases fallback <;> cases transport <;> rfl

theorem connections_withCarrier (e : Endpoint) (transport : Transport) (device : Device) :
    (e.withCarrier transport device).connections = e.connections := by
  unfold withCarrier
  split <;> rfl

theorem connections_afterSession (e : Endpoint) (session : Session) :
    (e.afterSession session).connections = e.connections :=
  connections_withCarrier e session.connection.transport session.device

theorem watch_eq_ok {e watching : Endpoint} {fault : Option Errno} {descriptor : Descriptor}
    {source : Source} (h : e.watch fault descriptor source = .ok watching) :
    ∃ mux, e.mux.register descriptor source = .ok mux ∧ watching = { e with mux := mux } := by
  unfold watch at h
  split at h
  · cases h
  · split at h
    · cases h
    · next mux hmux => cases h; exact ⟨mux, hmux, rfl⟩

/-! ## Sessions -/

/-- A session that `e` has opened over a transport, and its record.  The connection is new; the
device is charged with what it holds. -/
structure Opens (e : Endpoint) (transport : Transport) (session : Session) (record : Record) :
    Prop where
  charged : ∃ registration, registration.localKey = (e.carrier transport).registrations.nextKey ∧
    session.device = (e.carrier transport).charged registration ∧
    session.connection.holding = ⟨e.nextConnection, some registration, true, true⟩
  created : ∃ role region settings lot connection device, e.memory.region? e.region = some region ∧
    Connection.create e.nextConnection role transport (e.carrier transport) e.region region
      settings lot = (.ok connection, device) ∧
    session = (Session.mk connection device e.memory).begin.2
  completions : session.connection.completions = .ofDepth (e.settings transport).depth
  transport : session.connection.transport = transport
  queuePair : ∃ address,
    session.connection.queuePair = some (.fresh address e.config.rdma.handshakeLimit)
  record : session.connection.record = .ok record

theorem Opens.number {e : Endpoint} {transport : Transport} {session : Session} {record : Record}
    (opens : e.Opens transport session record) : session.connection.id = e.nextConnection := by
  obtain ⟨registration, -, -, holding⟩ := opens.charged
  exact congrArg Holding.connection holding

/-- Activating changes nothing of what the device is charged with. -/
theorem Opens.charged_after {e : Endpoint} {transport : Transport} {session after : Session}
    {record : Record} (opens : e.Opens transport session record)
    (reached : session.AtMostActivated after) :
    ∃ registration, registration.localKey = (e.carrier transport).registrations.nextKey ∧
      after.device = (e.carrier transport).charged registration ∧
      after.connection.holding = ⟨e.nextConnection, some registration, true, true⟩ := by
  obtain ⟨registration, key, device, holding⟩ := opens.charged
  exact ⟨registration, key, reached.steady.device.trans device,
    reached.steady.holding.trans holding⟩

theorem linkTimeout_settings (e : Endpoint) (transport : Transport) :
    (e.settings transport).linkTimeout = e.config.rdma.handshakeLimit := by
  unfold settings
  split <;> rfl

/-- No session is opened, and a device that takes registrations back has at most a key less to
give; or one is.  Once there is a connection, nothing can fail. -/
theorem openSession_cases (e : Endpoint) (role : Role) (transport : Transport)
    (lot : ConnectionLot) :
    (∃ fault device, ((e.carrier transport).Yields →
        device = e.carrier transport ∨ device = (e.carrier transport).spent) ∧
      e.openSession role transport lot = (.error fault, e.counted.withCarrier transport device)) ∨
    (∃ session record, e.Opens transport session record ∧
      e.openSession role transport lot =
        (.ok (session, record), e.counted.afterSession session)) := by
  have carried : e.counted.carrier transport = e.carrier transport := rfl
  unfold openSession
  dsimp only
  generalize hcounted : ({ e with nextConnection := e.nextConnection + 1 } : Endpoint) = counted
  obtain rfl : counted = e.counted := hcounted.symm
  split
  · have same : e.counted.withCarrier transport (e.carrier transport) = e.counted :=
      e.counted.withCarrier_carrier transport
    exact Or.inl ⟨_, e.carrier transport, fun _ => Or.inl rfl, by rw [same]⟩
  · next region known =>
    rw [carried]
    rcases Connection.create_cases e.nextConnection role transport (e.carrier transport)
      e.region region (e.counted.settings transport) lot with
      ⟨fault, device, spends, h⟩ | ⟨registration, address, key, -, h⟩
    · rw [h]
      exact Or.inl ⟨fault, device, spends, rfl⟩
    · rw [h]
      cases role
      all_goals
        exact Or.inr ⟨_, _,
          { charged := ⟨registration, key, rfl, rfl⟩
            created := ⟨_, region, _, lot, _, _, known, h, rfl⟩
            transport := rfl
            completions := rfl
            queuePair := ⟨address, by rw [← e.linkTimeout_settings transport]; rfl⟩
            record := rfl }, rfl⟩

/-! ## The four ways -/

/-- What comes of an attempt that was made on `e`. -/
inductive Attempted (e : Endpoint) : Except EndpointError Nat → Endpoint → Prop
  | nothing (fault : EndpointError) : Attempted e (.error fault) e
  | unopened {transport : Transport} {device : Device} (fault : EndpointError)
      (spends : (e.carrier transport).Yields →
        device = e.carrier transport ∨ device = (e.carrier transport).spent) :
      Attempted e (.error fault) (e.counted.withCarrier transport device)
  | givenUp {transport : Transport} {session after : Session} {record : Record}
      (fault : EndpointError) (opens : e.Opens transport session record)
      (reached : session.AtMostActivated after) :
      Attempted e (.error fault) ((e.counted.afterSession session).afterSession after.release)
  | installed {transport : Transport} {session after : Session} {record : Record}
      {mux : Multiplexer Descriptor} (opens : e.Opens transport session record)
      (reached : session.AtMostActivated after)
      (watched : e.mux.register (.completions e.nextConnection) (.connection e.nextConnection) =
        .ok mux) :
      Attempted e (.ok e.nextConnection)
        { ({ e.counted.afterSession session with mux := mux }).afterSession after with
          connections := e.connections ++ [(e.nextConnection, after.connection)] }

section Attempts

variable {e : Endpoint} {transport : Transport} {session after : Session} {record : Record}

theorem mux_afterSession (e : Endpoint) (session : Session) :
    (e.afterSession session).mux = e.mux := by
  unfold afterSession withCarrier
  split <;> rfl

theorem attempted_install (opens : e.Opens transport session record)
    (reached : session.AtMostActivated after) (fault : Option Errno) :
    e.Attempted ((e.counted.afterSession session).install fault after).1
      ((e.counted.afterSession session).install fault after).2 := by
  have number : after.connection.id = e.nextConnection :=
    (congrArg Holding.connection reached.steady.holding).trans opens.number
  unfold install
  dsimp only
  split
  · exact .givenUp _ opens reached
  · next watching hw =>
    obtain ⟨mux, registered, rfl⟩ := watch_eq_ok hw
    have listed : (({ e.counted.afterSession session with mux := mux }).afterSession
        after).connections = e.connections := by
      rw [connections_afterSession]
      exact connections_afterSession e.counted session
    rw [mux_afterSession, number] at registered
    rw [listed, number]
    exact .installed opens reached registered

theorem attempted_establish (opens : e.Opens transport session record) (exchange : Exchange)
    (conditions : LinkConditions) (fault : Option Errno) :
    e.Attempted ((e.counted.afterSession session).establish session exchange conditions fault).1
      ((e.counted.afterSession session).establish session exchange conditions fault).2.1 := by
  have reached : session.AtMostActivated (session.activate exchange conditions).session :=
    Or.inr ⟨exchange, conditions, rfl⟩
  unfold establish
  dsimp only
  split
  · exact .givenUp _ opens reached
  · exact attempted_install opens reached fault

theorem attempted_acceptOn (e : Endpoint) (address : SocketAddress)
    (conditions : AcceptConditions) :
    e.Attempted (e.acceptOn address conditions).1 (e.acceptOn address conditions).2.1 := by
  unfold acceptOn
  split
  · exact .nothing _
  · exact .nothing _
  · split
    · exact .nothing _
    · next peer rest _ =>
      rcases e.openSession_cases .listener peer.transport conditions.lot with
        ⟨fault, device, spends, h⟩ | ⟨session, record, opens, h⟩
      · rw [h]; exact .unopened fault spends
      · rw [h]
        dsimp only
        split
        · exact .givenUp _ opens (Or.inl rfl)
        · exact attempted_establish opens _ _ _

theorem attempted_connect (e : Endpoint) (address : SocketAddress)
    (conditions : ConnectConditions) (board : Board) :
    e.Attempted (e.connect address conditions board).outcome.result
      (e.connect address conditions board).outcome.endpoint := by
  unfold connect
  split
  · exact .nothing _
  · dsimp only
    rcases e.openSession_cases .connector (Transport.ofSwitch e.config.rdma.useRdma)
      conditions.lot with ⟨fault, device, spends, h⟩ | ⟨session, record, opens, h⟩
    · rw [h]; exact .unopened fault spends
    · rw [h]
      dsimp only
      split
      · exact .givenUp _ opens (Or.inl rfl)
      · split
        · exact .givenUp _ opens (Or.inl rfl)
        · exact attempted_establish opens _ _ _

end Attempts

/-! ## Listeners that are taken -/

/-- The endpoint without a listener: so it takes in that listener's peer. -/
def withoutListener (e : Endpoint) (listener : Nat) : Endpoint :=
  { e.unwatch (.listener listener) (.listener listener) with
    listeners := e.listeners.filter fun entry => entry.1 != listener }

/-- An unknown listener is refused; a known one is taken and its peer is taken in. -/
theorem accept_paths (e : Endpoint) (listener : Nat) (conditions : AcceptConditions)
    (board : Board) :
    (∃ fault, (e.accept listener conditions board).outcome = ⟨.error fault, e, board⟩) ∨
    (∃ address, ∃ attempt : Except EndpointError Nat × Endpoint × Option Stream,
      attempt = (e.withoutListener listener).acceptOn address conditions ∧
      (e.accept listener conditions board).outcome = ⟨attempt.1, attempt.2.1,
        if attempt.2.1.listeners.isEmpty then
          (attempt.2.1.publication.withdraw conditions.faults board).2
        else board⟩) := by
  unfold accept
  split
  · exact Or.inl ⟨_, rfl⟩
  · next address _ => exact Or.inr ⟨address, _, rfl, rfl⟩

end Endpoint

end RdmaLink
