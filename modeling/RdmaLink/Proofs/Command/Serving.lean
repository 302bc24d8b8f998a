import RdmaLink.Command.Listening
import RdmaLink.Proofs.Endpoint.Solitary

/-!
# The command `listen` and its one connection

Once it has taken its peer in, the command has an endpoint with one connection for which it posts
receives and nothing else (`Attended`).  What it does with each event that it is handed follows:

    service.answer admission (.incoming 1) = (.running after, List.replicate receiveDepth 1)
                                                                           (Starts.answer)
    service.handle admission (.completed 1 write) = .running after         (Service.handle_write)
    service.answer admission (.failed 1 failure) = (.ended after (.ok ()), [])
                                                                           (Service.answer_failure)

A receive is posted only while the queue pair is alive.  When it has failed already, the command
ends over the receive (`Service.postReceive_lost`), and so over the write that asked for it
(`Service.handle_write_lost`).
-/

namespace RdmaLink

/-- What is drained is handed out as writes and failures behind them. -/
theorem Tapers.events {reports writes failures : List Completion}
    (tapers : Tapers reports writes failures) (id : Nat) :
    reports.map (Event.ofCompletion id) =
      writes.map (.completed id) ++ failures.map (.failed id) := by
  rw [tapers.parts, List.map_append]
  congr 1
  · refine List.map_congr_left fun write member => ?_
    have success := tapers.writes write member
    rw [Completion.isWrite, Bool.and_eq_true] at success
    exact if_pos success.2
  · refine List.map_congr_left fun failure member => if_neg ?_
    rw [tapers.failures failure member]
    decide

namespace Command

/-- An endpoint with one connection, number 1, whose owner only receives. -/
structure Attended (e : Endpoint) (s : Session) (count : Nat) : Prop where
  holds : e.Holds s
  number : s.connection.id = 1
  serves : s.Serves count
  deep : receiveDepth ≤ s.connection.completions.depth

namespace Attended

variable {e t : Endpoint} {s : Session} {count rest : Nat}

theorem found (attended : Attended e s count) : e.connection? 1 = some s.connection := by
  rw [attended.holds.found, if_pos attended.number.symm]

theorem step (attended : Attended e s count) (event : ConnectionEvent)
    (holds : t.Holds (s.step event)) (serves : (s.step event).Serves rest) :
    Attended t (s.step event) rest :=
  ⟨holds, (s.id_step event).trans attended.number, serves,
    (s.depth_step event).symm ▸ attended.deep⟩

theorem deliver (attended : Attended e s count) (id : Nat) (bytes : Bytes) (ended : Bool) :
    ∃ after, Attended (e.deliver id bytes ended) after count ∧ (s.Lost → after.Lost) := by
  have holds := attended.holds.deliver id bytes ended
  by_cases its : id = s.connection.id
  · rw [if_pos its] at holds
    exact ⟨_, attended.step (.deliver bytes ended) holds
        (attended.serves.deliver bytes ended),
      fun lost => attended.serves.lost_step lost (.deliver bytes ended) rfl⟩
  · rw [if_neg its] at holds
    exact ⟨s, { attended with holds := holds }, fun lost => lost⟩

/-- Whatever sources are gone through, they give writes, and failures behind them if the queue
pair has failed. -/
theorem collect (attended : Attended e s count) (sources : List Source) :
    ∃ after rest reports writes failures, Attended (e.collect sources).2 after rest ∧
      (e.collect sources).1 = reports.map (Event.ofCompletion 1) ∧
      Tapers reports writes failures ∧
      (¬ s.Lost → failures = [] ∧ rest + writes.length = count) ∧ (s.Lost → after.Lost) := by
  rcases attended.holds.collect sources with ⟨nothing, holds⟩ | ⟨given, holds⟩
  · exact ⟨s, count, [], [], [], { attended with holds := holds }, nothing, tapers_nil,
      fun _ => ⟨rfl, rfl⟩, fun lost => lost⟩
  · obtain ⟨writes, failures, rest, tapers, serves, running⟩ := attended.serves.drain
    rw [attended.number] at given
    exact ⟨_, rest, _, writes, failures, attended.step .drain holds serves, given,
      tapers, running, fun lost => attended.serves.lost_step lost .drain rfl⟩

/-- A receive that the endpoint is asked for is one of its session. -/
theorem posted (attended : Attended e s count) (request : UInt64) :
    ∃ t, e.postReceive 1 request = ((s.postReceive request).1, t) ∧
      t.Holds (s.step (.postReceive request)) := by
  obtain ⟨same, holds⟩ := attended.holds.onSession (fun s => s.postReceive request)
    (s.id_step (.postReceive request))
  rw [attended.number] at same holds
  exact ⟨_, Prod.ext same rfl, holds⟩

/-- Up to the depth that is kept, a receive is taken on. -/
theorem postReceive (attended : Attended e s count) (running : ¬ s.Lost)
    (room : count < receiveDepth) (request : UInt64) :
    ∃ t after, e.postReceive 1 request = (.ok (), t) ∧ Attended t after (count + 1) ∧
      (s.Unheld → ¬ after.Lost ∧ after.Unheld) := by
  have fits : count < s.connection.completions.depth := Nat.lt_of_lt_of_le room attended.deep
  obtain ⟨taken, serves⟩ := attended.serves.receives running fits request
  obtain ⟨t, posted, holds⟩ := attended.posted request
  rw [taken] at posted
  exact ⟨t, _, posted, attended.step (.postReceive request) holds serves,
    fun unheld => attended.serves.awaits running unheld fits request⟩

/-- Once the queue pair has failed, a receive is refused. -/
theorem refuses (attended : Attended e s count) (lost : s.Lost) (request : UInt64) :
    ∃ t connection, e.postReceive 1 request = (.error (.connectionFailed 1), t) ∧
      t.connection? 1 = some connection ∧ connection.pairState = some .error := by
  obtain ⟨t, posted, holds⟩ := attended.posted request
  rw [attended.serves.refuses lost request, attended.number] at posted
  have number := (s.id_step (.postReceive request)).trans attended.number
  exact ⟨t, _, posted, (holds.found 1).trans (if_pos number.symm),
    attended.serves.lost_step lost (.postReceive request) rfl⟩

end Attended

namespace Service

variable {service : Service} {s : Session} {count : Nat}

/-- While the queue pair is alive, a receive is taken on. -/
theorem postReceive_attended (attended : Attended service.endpoint s count) (running : ¬ s.Lost)
    (room : count < receiveDepth) :
    ∃ after t, service.postReceive 1 = .running after ∧
      Attended after.endpoint t (count + 1) ∧ (s.Unheld → ¬ t.Lost ∧ t.Unheld) := by
  obtain ⟨e, t, posted, attended, goes⟩ :=
    attended.postReceive running room (UInt64.ofNat service.nextReceive)
  unfold postReceive
  rw [posted]
  exact ⟨_, t, rfl, attended, goes⟩

/-- Once the queue pair has failed, a receive that is posted ends the command. -/
theorem postReceive_lost (attended : Attended service.endpoint s count) (lost : s.Lost) :
    ∃ after connection,
      service.postReceive 1 = .ended after (.error (.connectionFailed 1)) ∧
      after.endpoint.connection? 1 = some connection ∧ connection.pairState = some .error := by
  obtain ⟨e, connection, posted, failed⟩ :=
    attended.refuses lost (UInt64.ofNat service.nextReceive)
  unfold postReceive
  rw [posted]
  exact ⟨_, connection, rfl, failed⟩

/-- The receives of a new connection are all taken on if nothing comes between. -/
theorem postReceives_new (service : Service) (attended : Attended service.endpoint s count)
    (running : ¬ s.Lost) (unheld : s.Unheld) (more : Nat) (fits : count + more = receiveDepth) :
    ∃ after, service.postReceives (List.replicate more 1) = .running after := by
  induction more generalizing service s count with
  | zero => exact ⟨service, rfl⟩
  | succ more ih =>
    obtain ⟨after, t, posted, attended, goes⟩ := postReceive_attended attended running (by omega)
    obtain ⟨running, unheld⟩ := goes unheld
    rw [List.replicate_succ]
    unfold postReceives
    rw [posted]
    exact ih after attended running unheld (by omega)

/-- Behind the line of a write stands a receive. -/
theorem answer_write (service : Service) {write : Completion} (written : write.isWrite = true)
    (admission : Endpoint.AcceptConditions) :
    service.answer admission (.completed 1 write) =
      (.running (service.logged (writeLine 1 write)), [1]) := by
  rw [Completion.isWrite, Bool.and_eq_true, beq_iff_eq] at written
  exact if_pos written.1

theorem handle_of_write {write : Completion} (written : write.isWrite = true)
    (admission : Endpoint.AcceptConditions) :
    service.handle admission (.completed 1 write) =
      (service.logged (writeLine 1 write)).postReceive 1 := by
  unfold handle
  rw [answer_write service written]
  dsimp only [postReceives]
  cases (service.logged (writeLine 1 write)).postReceive 1 <;> rfl

/-- While the queue pair is alive, a write that is handled is replaced by a receive. -/
theorem handle_write (attended : Attended service.endpoint s count) (running : ¬ s.Lost)
    (room : count < receiveDepth) {write : Completion} (written : write.isWrite = true)
    (admission : Endpoint.AcceptConditions) :
    ∃ after, service.handle admission (.completed 1 write) = .running after := by
  have logged : Attended (service.logged (writeLine 1 write)).endpoint s count := attended
  obtain ⟨after, -, posted, -⟩ := postReceive_attended logged running room
  exact ⟨after, (handle_of_write written admission).trans posted⟩

/-- Once the queue pair has failed, a write that is handled ends the command. -/
theorem handle_write_lost (attended : Attended service.endpoint s count) (lost : s.Lost)
    {write : Completion} (written : write.isWrite = true)
    (admission : Endpoint.AcceptConditions) :
    ∃ after, service.handle admission (.completed 1 write) =
      .ended after (.error (.connectionFailed 1)) := by
  have logged : Attended (service.logged (writeLine 1 write)).endpoint s count := attended
  obtain ⟨after, -, posted, -⟩ := postReceive_lost logged lost
  exact ⟨after, (handle_of_write written admission).trans posted⟩

/-- A failure that is handled ends the command: the connection is closed. -/
theorem answer_failure (attended : Attended service.endpoint s count) (failure : Completion)
    (admission : Endpoint.AcceptConditions) :
    ∃ after connection, service.answer admission (.failed 1 failure) =
        (.ended after (.ok ()), []) ∧
      after.endpoint.connection? 1 = some connection ∧ connection.state = .closed := by
  obtain ⟨closes, closed, holds, same, shut⟩ := attended.holds.close attended.serves.unclosed
  rw [attended.number] at closes holds same
  have closes : (service.logged (failureLine 1 failure)).endpoint.close 1 =
      (.ok (), (service.endpoint.close 1).2) := Prod.ext closes rfl
  unfold answer
  dsimp only
  rw [closes]
  exact ⟨_, closed.connection, rfl, by rw [holds.found, if_pos same.symm], shut⟩

end Service

/-! ## The first look -/

/-- What the command finds before it looks for the first time: a listener, number 1, and no
connection. -/
structure Starts (start : Service) : Prop where
  alone : start.endpoint.connections = []
  bound : ∃ address, start.endpoint.listeners = [(1, address)]
  watched : ∀ glance, start.endpoint.fired glance = [] ∨
    start.endpoint.fired glance = [.listener 1]
  next : start.endpoint.nextConnection = 1
  willing : ∀ transport, (start.endpoint.carrier transport).refusal .receiving = none
  deep : receiveDepth ≤ start.endpoint.config.rdma.depth

namespace Starts

variable {start : Service}

theorem deliver (starts : Starts start) (id : Nat) (bytes : Bytes) (ended : Bool) :
    start.endpoint.deliver id bytes ended = start.endpoint := by
  unfold Endpoint.deliver Endpoint.connection?
  rw [starts.alone]
  rfl

/-- A look finds that the peer waits, or nothing. -/
theorem collect (starts : Starts start) (glance : Glance) :
    ∃ batch, (batch = [] ∨ batch = [.incoming 1]) ∧
      start.endpoint.collect (start.endpoint.fired glance) = (batch, start.endpoint) := by
  obtain ⟨address, bound⟩ := starts.bound
  have known : start.endpoint.listener? 1 = some address := by
    unfold Endpoint.listener?
    rw [bound]
    rfl
  rcases starts.watched glance with nothing | one
  · rw [nothing]
    exact ⟨[], Or.inl rfl, rfl⟩
  · rw [one]
    refine ⟨[.incoming 1], Or.inr rfl, ?_⟩
    simp only [Endpoint.collect, Endpoint.eventsOf, known, Option.isSome_some, if_true,
      List.append_nil]

/-- The peer is taken in and all receives are due, or the command ends with the reason why it could
not be taken in. -/
theorem answer (starts : Starts start) (admission : Endpoint.AcceptConditions) :
    (∃ after fault, (start.endpoint.accept 1 admission start.board).outcome.result =
        .error fault ∧ start.answer admission (.incoming 1) = (.ended after (.error fault), [])) ∨
      ∃ after s, start.answer admission (.incoming 1) =
          (.running after, List.replicate receiveDepth 1) ∧
        Attended after.endpoint s 0 ∧ ¬ s.Lost ∧ s.Unheld := by
  obtain ⟨address, bound⟩ := starts.bound
  unfold Service.answer
  dsimp only
  cases accepted : (start.endpoint.accept 1 admission start.board).outcome.result with
  | error fault => exact Or.inl ⟨_, fault, rfl, rfl⟩
  | ok id =>
    obtain ⟨number, s, holds, same, serves, running, unheld, depth⟩ :=
      Endpoint.holds_accept starts.alone bound starts.willing accepted
    obtain rfl : id = 1 := number.trans starts.next
    exact Or.inr ⟨_, s, rfl, ⟨holds, same, serves, depth.symm ▸ starts.deep⟩, running, unheld⟩

/-- If nothing comes between, a peer that is taken in gets all its receives. -/
theorem handle (starts : Starts start) {admission : Endpoint.AcceptConditions} {id : Nat}
    (accepted : (start.endpoint.accept 1 admission start.board).outcome.result = .ok id) :
    ∃ after, start.handle admission (.incoming 1) = .running after := by
  rcases starts.answer admission with ⟨after, fault, refused, -⟩ |
    ⟨after, s, answered, attended, running, unheld⟩
  · cases accepted.symm.trans refused
  · unfold Service.handle
    rw [answered]
    exact Service.postReceives_new after attended running unheld receiveDepth (Nat.zero_add _)

end Starts

/-- This build opens no device but the one in software. -/
theorem builtin_soft {name : String} {device : Device}
    (opened : DeviceRegistry.builtin.open? name = .ok device) : device = Device.soft := by
  unfold DeviceRegistry.open? at opened
  split at opened
  · next found =>
    obtain ⟨former, later, split, -⟩ := List.lookup_eq_some_iff.mp found
    have only : (name, .ok device) ∈ DeviceRegistry.builtin.factories := by
      rw [split, opened]
      exact List.mem_append_right _ List.mem_cons_self
    exact Except.ok.inj (congrArg Prod.snd (List.mem_singleton.mp only))
  · cases opened

/-- Where one listener is watched, a wait gives nothing else. -/
theorem wait_listener (registered : List Source) (ready : Descriptor → Bool)
    (order : ReadyOrder Descriptor) :
    let mux : Multiplexer Descriptor := ⟨registered, [(.listener 1, (Source.listener 1).token)]⟩
    mux.wait ready order = [] ∨ mux.wait ready order = [.listener 1] := by
  intro mux
  unfold Multiplexer.wait
  rw [List.filter_cons, List.filter_nil]
  split
  · rw [List.perm_singleton.mp (order.perm _)]
    exact Or.inr rfl
  · rw [List.perm_nil.mp (order.perm _)]
    exact Or.inl rfl

/-- A command that has bound its listener over the device of this build. -/
theorem starts_of_bound {config : EndpointConfig} {device : Device} {publication : Publication}
    {region : Region} {board : Board} {log : List LogLine} {address : SocketAddress}
    {binding : Endpoint.BindConditions} {start : Service}
    (opened : DeviceRegistry.builtin.open? config.rdma.device = .ok device)
    (deep : receiveDepth ≤ config.rdma.depth)
    (bound : Service.start (Endpoint.opened config device publication region) board log address
      binding = .running start) : Starts start := by
  obtain rfl : device = Device.soft := builtin_soft opened
  rcases Endpoint.bind_paths (Stand.tidy_opened config Device.soft publication region) address
    binding board with ⟨cause, next, -, -, h⟩ | ⟨_, cause, after, -, -, h⟩ |
    ⟨own, mux, after, -, registered, -, h⟩
  all_goals
    unfold Service.start at bound
    rw [h] at bound
  · cases bound
  · cases bound
  · cases bound
    cases registered
    refine ⟨rfl, ⟨own, rfl⟩, fun glance => ?_, rfl, fun transport => ?_, deep⟩
    · exact wait_listener [.listener 1] _ _
    · cases transport <;> rfl

end Command

end RdmaLink
