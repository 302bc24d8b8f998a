import RdmaLink.Proofs.Command.Serving
import RdmaLink.Proofs.Command.Watch

/-!
# What the command `listen` reports

Whatever happens between two of its events, a watch of the command stands in one of a few ways
(`Stands`): the peer has not come, it could not be taken in, the command serves it, or the command
has ended in one of three ways.  Each step leads from one of them to another (`Stands.step`), and
they tell what was reported (`Stands.accounted`).

    w.progress.service.log = log ++ owed (w.handled ++ w.batch)              (Accounted.closes)

So a command that ends over a failure has reported all that it was handed, however that was
grouped.  It ends over a receive, and leaves what stands behind it unreported, where the receive is
posted when the queue pair has failed: the receive that replaces a write, or one of the first.
-/

namespace RdmaLink.Command

/-! ## Where a watch stands -/

/-- The events of a peer that was taken in: it writes, and it fails. -/
def tale (writes failures : List Completion) : List Event :=
  writes.map (.completed 1) ++ failures.map (.failed 1)

theorem tale_eq_nil {writes failures : List Completion} (none : tale writes failures = []) :
    writes = [] ∧ failures = [] := by
  obtain ⟨first, second⟩ := List.append_eq_nil_iff.mp none
  exact ⟨List.map_eq_nil_iff.mp first, List.map_eq_nil_iff.mp second⟩

/-- Where a watch of a command may stand. -/
inductive Stands (start : Service) : Watch → Prop
  | waiting {batch : List Event} (offered : batch = [] ∨ batch = [.incoming 1]) :
      Stands start ⟨.running start, [], batch, [], false⟩
  | refused {service : Service} {fault : EndpointError} (admission : Endpoint.AcceptConditions)
      (cause : (start.endpoint.accept 1 admission start.board).outcome.result = .error fault) :
      Stands start ⟨.ended service (.error fault), [.incoming 1], [], [], false⟩
  | serving {service : Service} {s : Session} {count : Nat} (more : Nat)
      {past writes failures : List Completion}
      (attended : Attended service.endpoint s count)
      (tapers : Tapers (past ++ writes ++ failures) (past ++ writes) failures)
      (kept : ¬ s.Lost → failures = [] ∧ count + more + writes.length = receiveDepth) :
      Stands start ⟨.running service, .incoming 1 :: tale past [], tale writes failures,
        List.replicate more 1, false⟩
  | closed {service : Service} {connection : Connection} {past failures : List Completion}
      {failure : Completion}
      (tapers : Tapers (past ++ failure :: failures) past (failure :: failures))
      (found : service.endpoint.connection? 1 = some connection)
      (shut : connection.state = .closed) :
      Stands start
        ⟨.ended service (.ok ()), .incoming 1 :: tale past [failure], tale [] failures, [], false⟩
  | cut {service : Service} {connection : Connection} {past writes failures : List Completion}
      {due : List Nat}
      (tapers : Tapers (past ++ writes ++ failures) (past ++ writes) failures)
      (found : service.endpoint.connection? 1 = some connection)
      (lost : connection.pairState = some .error) :
      Stands start ⟨.ended service (.error (.connectionFailed 1)),
        .incoming 1 :: tale past [], tale writes failures, due, false⟩
  | stopped {service : Service} {handled : List Event}
      (told : handled = [] ∨
        ∃ past, Tapers past past [] ∧ handled = .incoming 1 :: tale past []) :
      Stands start ⟨.ended service (.ok ()), handled, [], [], true⟩

namespace Stands

variable {start service : Service} {s : Session} {count more : Nat}
  {past writes failures : List Completion}

/-- A look after the last batch was handled. -/
theorem look (attended : Attended service.endpoint s count)
    (written : ∀ report ∈ past, report.isWrite = true)
    (kept : ¬ s.Lost → count = receiveDepth) (sources : List Source) :
    Stands start ⟨.running { service with endpoint := (service.endpoint.collect sources).2 },
      .incoming 1 :: tale past [], (service.endpoint.collect sources).1, [], false⟩ := by
  obtain ⟨after, rest, reports, writes, failures, attended, given, tapers, running, lost⟩ :=
    attended.collect sources
  rw [given, tapers.events 1]
  have all : Tapers (past ++ writes ++ failures) (past ++ writes) failures :=
    ⟨rfl, fun report member => (List.mem_append.mp member).elim (written report)
      (tapers.writes report), tapers.failures⟩
  refine .serving 0 attended all fun alive => ?_
  have alive : ¬ s.Lost := fun before => alive (lost before)
  rw [← kept alive]
  exact running alive

/-- The next event of a batch is a write, or it is a failure. -/
theorem answer (attended : Attended service.endpoint s count)
    (tapers : Tapers (past ++ writes ++ failures) (past ++ writes) failures)
    (kept : ¬ s.Lost → failures = [] ∧ count + 0 + writes.length = receiveDepth)
    (admission : Endpoint.AcceptConditions) :
    Stands start ((⟨.running service, .incoming 1 :: tale past [], tale writes failures, [],
      false⟩ : Watch).step (.handle admission)) := by
  cases writes with
  | cons write rest =>
    have written := tapers.writes write (List.mem_append_right _ List.mem_cons_self)
    have handled : (.incoming 1 :: tale past []) ++ [Event.completed 1 write] =
        .incoming 1 :: tale (past ++ [write]) [] := by
      simp [tale]
    show Stands start ((⟨.running service, .incoming 1 :: tale past [],
      .completed 1 write :: tale rest failures, [], false⟩ : Watch).step (.handle admission))
    rw [Watch.step_handle, handled, Service.answer_write service written]
    have tapers : Tapers (past ++ [write] ++ rest ++ failures) (past ++ [write] ++ rest)
        failures := by
      rw [List.append_assoc past, List.singleton_append]
      exact tapers
    have attended : Attended (service.logged (Service.writeLine 1 write)).endpoint s count :=
      attended
    refine .serving 1 attended tapers fun alive => ?_
    obtain ⟨none, sum⟩ := kept alive
    rw [List.length_cons] at sum
    exact ⟨none, by omega⟩
  | nil =>
    cases failures with
    | nil => exact .serving 0 attended tapers kept
    | cons failure rest =>
      rw [List.append_nil] at tapers
      obtain ⟨after, connection, ended, found, shut⟩ :=
        Service.answer_failure attended failure admission
      have handled : (.incoming 1 :: tale past []) ++ [Event.failed 1 failure] =
          .incoming 1 :: tale past [failure] := by
        simp [tale]
      show Stands start ((⟨.running service, .incoming 1 :: tale past [],
        .failed 1 failure :: tale [] rest, [], false⟩ : Watch).step (.handle admission))
      rw [Watch.step_handle, handled, ended]
      exact .closed tapers found shut

/-- A receive that is due is taken on, or the queue pair has failed and the command ends. -/
theorem post (attended : Attended service.endpoint s count)
    (tapers : Tapers (past ++ writes ++ failures) (past ++ writes) failures)
    (kept : ¬ s.Lost → failures = [] ∧ count + (more + 1) + writes.length = receiveDepth) :
    Stands start ⟨service.postReceive 1, .incoming 1 :: tale past [], tale writes failures,
      List.replicate more 1, false⟩ := by
  by_cases lost : s.Lost
  · obtain ⟨after, connection, ended, found, failed⟩ := Service.postReceive_lost attended lost
    rw [ended]
    exact .cut tapers found failed
  · obtain ⟨none, sum⟩ := kept lost
    obtain ⟨after, t, goes, attended, -⟩ :=
      Service.postReceive_attended attended lost (by omega)
    rw [goes]
    exact .serving _ attended tapers fun _ => ⟨none, by omega⟩

theorem step (starts : Starts start) {w : Watch} (stands : Stands start w) (event : WatchEvent) :
    Stands start (w.step event) := by
  cases stands with
  | @waiting batch offered =>
    cases event with
    | arrive id bytes ended =>
      rw [Watch.step_arrive, starts.deliver]
      exact .waiting offered
    | look glance =>
      cases batch with
      | nil =>
        obtain ⟨batch, offered, looked⟩ := starts.collect glance
        rw [Watch.step_look]
        dsimp only
        rw [looked]
        exact .waiting offered
      | cons event rest => exact .waiting offered
    | handle admission =>
      rcases offered with rfl | rfl
      · exact .waiting (Or.inl rfl)
      · rw [Watch.step_handle]
        rcases starts.answer admission with
          ⟨after, fault, cause, ended⟩ | ⟨after, s, goes, attended, -, -⟩
        · rw [ended]
          exact .refused admission cause
        · rw [goes]
          have none : Tapers ([] ++ [] ++ []) ([] ++ []) [] := tapers_nil
          exact .serving _ attended none fun _ => ⟨rfl, Nat.zero_add _⟩
    | post => exact .waiting offered
    | interrupt =>
      cases batch with
      | nil => exact .stopped (Or.inl rfl)
      | cons event rest => exact .waiting offered
  | refused admission cause => exact .refused admission cause
  | @serving service s count more past writes failures attended tapers kept =>
    have stays : Stands start ⟨_, _, tale writes failures, _, _⟩ :=
      .serving _ attended tapers kept
    cases event with
    | arrive id bytes ended =>
      obtain ⟨after, attended, lost⟩ := attended.deliver id bytes ended
      rw [Watch.step_arrive]
      exact .serving _ attended tapers fun running => kept fun before => running (lost before)
    | post =>
      cases more with
      | zero => exact stays
      | succ more =>
        rw [List.replicate_succ, Watch.step_post]
        exact post attended tapers kept
    | look glance =>
      cases more with
      | succ more => exact stays
      | zero =>
        generalize hbatch : tale writes failures = batch at stays ⊢
        cases batch with
        | nil =>
          obtain ⟨rfl, rfl⟩ := tale_eq_nil hbatch
          rw [List.replicate_zero, Watch.step_look]
          exact look attended (fun report member => tapers.writes report
            (List.mem_append_left _ member)) (fun running => (kept running).2) _
        | cons event rest => exact stays
    | handle admission =>
      cases more with
      | succ more => exact stays
      | zero => exact answer attended tapers kept admission
    | interrupt =>
      cases more with
      | succ more => exact stays
      | zero =>
        generalize hbatch : tale writes failures = batch at stays ⊢
        cases batch with
        | nil =>
          obtain ⟨rfl, rfl⟩ := tale_eq_nil hbatch
          rw [List.append_nil, List.append_nil] at tapers
          exact .stopped (Or.inr ⟨past, tapers, rfl⟩)
        | cons event rest => exact stays
  | closed tapers found shut => exact .closed tapers found shut
  | cut tapers found lost => exact .cut tapers found lost
  | stopped told => exact .stopped told

end Stands

/-! ## What is reported -/

/-- The lines that a command owes for events, however they are grouped: one for each, up to the
first failure. -/
def owed : List Event → List LogLine
  | [] => []
  | .failed connection completion :: _ => [Service.failureLine connection completion]
  | event :: rest => (lineOf? event).toList ++ owed rest

/-- Writes are owed their lines, and so is the first failure. -/
theorem owed_tale (past : List Completion) (failure : Completion) (rest : List Event) :
    owed (tale past [failure] ++ rest) = (tale past [failure]).filterMap lineOf? := by
  induction past with
  | nil => rfl
  | cons write past ih =>
    show (lineOf? (.completed 1 write)).toList ++ owed (tale past [failure] ++ rest) =
      (Event.completed 1 write :: tale past [failure]).filterMap lineOf?
    rw [ih, List.filterMap_cons]
    cases lineOf? (.completed 1 write) <;> rfl

/-- What a peer that was taken in finds while the command runs, a batch is still to be handled and
receives are still to be posted. -/
structure Provides (service : Service) (batch : List Event) (due : List Nat)
    (connection : Connection) (q : QueuePair) : Prop where
  found : service.endpoint.connection? 1 = some connection
  pair : connection.queuePair = some q
  /-- As many receives as are kept are posted, or due, or completed and not handled yet. -/
  kept : q.state ≠ .error →
    q.work.receives.length + connection.completions.size + due.length + batch.length = receiveDepth
  posts : q.state ≠ .error → ∀ id ∈ due, ∃ after, service.postReceive id = .running after
  /-- A receive whose turn comes after the queue pair has failed ends the command. -/
  ends : q.state = .error → ∀ id ∈ due,
    ∃ after, service.postReceive id = .ended after (.error (.connectionFailed 1))
  goes : q.state ≠ .error → ∀ write rest, batch = .completed 1 write :: rest →
    ∀ admission, ∃ after, service.handle admission (.completed 1 write) = .running after
  /-- And so does a write. -/
  cut : q.state = .error → ∀ write rest, batch = .completed 1 write :: rest →
    ∀ admission, ∃ after,
      service.handle admission (.completed 1 write) = .ended after (.error (.connectionFailed 1))

/-- What can be said of a command that was watched, whatever happened to it. -/
structure Accounted (start : Service) (w : Watch) : Prop where
  /-- Every event that was handled has its line, in order. -/
  logged : w.progress.service.log = start.log ++ w.handled.filterMap lineOf? ++
    if w.interrupted then [interruptLine] else []
  /-- What is handed out is the peer, its writes, and failures behind them. -/
  handed : w.handled ++ w.batch = [] ∨ ∃ reports writes failures,
    Tapers reports writes failures ∧
      w.handled ++ w.batch = .incoming 1 :: reports.map (Event.ofCompletion 1)
  /-- Where nothing comes between, a peer that is taken in gets all its receives. -/
  taken : ∀ service rest, w.progress = .running service → w.batch = .incoming 1 :: rest →
    ∀ admission id, (service.endpoint.accept 1 admission service.board).outcome.result = .ok id →
      ∃ after, service.handle admission (.incoming 1) = .running after
  provides : ∀ service, w.progress = .running service → w.handled ≠ [] →
    ∃ connection q, Provides service w.batch w.due connection q
  /-- The first failure that is handled closes the connection and ends the command well.  All
  writes have been reported then, and nothing is owed any more. -/
  closes : ∀ failure, .failed 1 failure ∈ w.handled →
    (∃ service connection, w.progress = .ended service (.ok ()) ∧
      service.endpoint.connection? 1 = some connection ∧ connection.state = .closed) ∧
    (∀ write, .completed 1 write ∉ w.batch) ∧
    w.progress.service.log = start.log ++ owed (w.handled ++ w.batch)
  well : ∀ service, w.progress = .ended service (.ok ()) →
    (w.interrupted = true ∧ w.batch = [] ∧ w.due = []) ∨ ∃ failure, .failed 1 failure ∈ w.handled
  /-- It ends ill if the peer cannot be taken in, or if a receive is posted when the queue pair has
  failed: one of the first, or that of the write which was handled last.  What stands behind that
  write is not reported. -/
  ill : ∀ service fault, w.progress = .ended service (.error fault) →
    (w.handled = [.incoming 1] ∧ ∃ admission,
      (start.endpoint.accept 1 admission start.board).outcome.result = .error fault) ∨
    (fault = .connectionFailed 1 ∧
      (w.handled = [.incoming 1] ∨
        ∃ past write, w.handled = .incoming 1 :: tale (past ++ [write]) []) ∧
      ∃ connection, service.endpoint.connection? 1 = some connection ∧
        connection.pairState = some .error)

theorem Attended.provides {service : Service} {s : Session} {count more : Nat}
    {past writes failures : List Completion} (attended : Attended service.endpoint s count)
    (tapers : Tapers (past ++ writes ++ failures) (past ++ writes) failures)
    (kept : ¬ s.Lost → failures = [] ∧ count + more + writes.length = receiveDepth) :
    ∃ connection q,
      Provides service (tale writes failures) (List.replicate more 1) connection q := by
  obtain ⟨here, present, -⟩ := attended.serves.station
  have lost := Session.lost_iff present
  obtain ⟨q, hq, rfl⟩ := Option.map_eq_some_iff.mp present
  have written {write : Completion} {rest : List Event}
      (next : tale writes failures = .completed 1 write :: rest) :
      ∃ later, writes = write :: later := by
    cases writes with
    | nil => cases failures <;> cases next
    | cons first later => cases next; exact ⟨later, rfl⟩
  have isWrite {write : Completion} {later : List Completion} (next : writes = write :: later) :
      write.isWrite = true :=
    tapers.writes write (by rw [next]; exact List.mem_append_right _ List.mem_cons_self)
  refine ⟨s.connection, q, attended.found, hq, fun alive => ?_, ?_, ?_, ?_, ?_⟩
  · obtain ⟨none, sum⟩ := kept (mt lost.mp alive)
    obtain ⟨-, here, present', attends, -⟩ := attended.serves.attends (mt lost.mp alive)
    obtain rfl := Option.some.inj (present.symm.trans present')
    have held : q.work.receives.length + s.connection.completions.size = count := attends.sum
    rw [none, tale, List.map_nil, List.append_nil, List.length_map, List.length_replicate]
    omega
  · intro alive id member
    obtain ⟨some, rfl⟩ := List.mem_replicate.mp member
    obtain ⟨-, sum⟩ := kept (mt lost.mp alive)
    obtain ⟨after, -, goes, -⟩ :=
      Service.postReceive_attended attended (mt lost.mp alive) (by omega)
    exact ⟨after, goes⟩
  · intro failed id member
    obtain ⟨-, rfl⟩ := List.mem_replicate.mp member
    obtain ⟨after, -, ended, -⟩ := Service.postReceive_lost attended (lost.mpr failed)
    exact ⟨after, ended⟩
  · intro alive write rest next admission
    obtain ⟨later, next⟩ := written next
    obtain ⟨-, sum⟩ := kept (mt lost.mp alive)
    rw [next, List.length_cons] at sum
    exact Service.handle_write attended (mt lost.mp alive) (by omega) (isWrite next) admission
  · intro failed write rest next admission
    obtain ⟨later, next⟩ := written next
    exact Service.handle_write_lost attended (lost.mpr failed) (isWrite next) admission

theorem not_failed_tale (past : List Completion) (failure : Completion) :
    Event.failed 1 failure ∉ Event.incoming 1 :: tale past [] := by
  simp [tale]

theorem handed_of_tapers {reports writes failures : List Completion} {handled batch : List Event}
    (tapers : Tapers reports writes failures)
    (same : handled ++ batch = .incoming 1 :: tale writes failures) :
    ∃ reports writes failures, Tapers reports writes failures ∧
      handled ++ batch = .incoming 1 :: reports.map (Event.ofCompletion 1) :=
  ⟨reports, writes, failures, tapers, by rw [same, tapers.events]; rfl⟩

theorem Stands.accounted {start : Service} (starts : Starts start) {w : Watch}
    (stands : Stands start w) (logged : w.Logged start.log) : Accounted start w := by
  refine ⟨logged.lines, ?_, ?_, ?_, ?_, ?_, ?_⟩
  · cases stands with
    | waiting offered => exact offered.imp_right fun offered => handed_of_tapers tapers_nil offered
    | refused admission cause => exact Or.inr (handed_of_tapers tapers_nil rfl)
    | serving more attended tapers kept =>
      exact Or.inr (handed_of_tapers tapers (by simp [tale]))
    | closed tapers found shut => exact Or.inr (handed_of_tapers tapers (by simp [tale]))
    | cut tapers found lost => exact Or.inr (handed_of_tapers tapers (by simp [tale]))
    | stopped told =>
      rw [List.append_nil]
      refine told.imp_right ?_
      rintro ⟨past, tapers, rfl⟩
      exact ⟨past, past, [], tapers, by rw [tapers.events]; rfl⟩
  · intro service rest running offered admission id accepted
    cases stands with
    | waiting _ => cases running; exact starts.handle accepted
    | @serving _ _ _ _ _ writes failures =>
      cases writes with
      | nil => cases failures <;> cases offered
      | cons write later => cases offered
    | refused | closed | cut | stopped => cases running
  · intro service running begun
    cases stands with
    | waiting offered => exact absurd rfl begun
    | serving more attended tapers kept =>
      cases running
      exact attended.provides tapers kept
    | refused | closed | cut | stopped => cases running
  · intro failure member
    cases stands with
    | waiting offered => cases member
    | refused admission cause => exact absurd member (not_failed_tale [] failure)
    | @serving _ _ _ _ past => exact absurd member (not_failed_tale past failure)
    | @cut _ _ past => exact absurd member (not_failed_tale past failure)
    | stopped told =>
      rcases told with rfl | ⟨past, -, rfl⟩
      · cases member
      · exact absurd member (not_failed_tale past failure)
    | @closed service connection past failures failure' tapers found shut =>
      refine ⟨⟨service, connection, rfl, found, shut⟩, fun write => by simp [tale], ?_⟩
      have lines := logged.lines
      dsimp only at lines ⊢
      rw [lines, List.cons_append, if_neg Bool.false_ne_true, List.append_nil]
      show start.log ++ (tale past [failure']).filterMap lineOf? =
        start.log ++ owed (tale past [failure'] ++ tale [] failures)
      rw [owed_tale]
  · intro service ended
    cases stands with
    | stopped told => exact Or.inl ⟨rfl, rfl, rfl⟩
    | @closed _ _ past failures failure => exact Or.inr ⟨failure, by simp [tale]⟩
    | waiting | refused | serving | cut => cases ended
  · intro service fault ended
    cases stands with
    | refused admission cause =>
      cases ended
      exact Or.inl ⟨rfl, admission, cause⟩
    | @cut _ connection past _ _ _ tapers found lost =>
      cases ended
      refine Or.inr ⟨rfl, ?_, connection, found, lost⟩
      rcases List.eq_nil_or_concat past with rfl | ⟨before, write, rfl⟩
      · exact Or.inl rfl
      · exact Or.inr ⟨before, write, by rw [List.concat_eq_append]⟩
    | waiting | serving | closed | stopped => cases ended

/-! ## The command `listen` -/

/-- The command `listen` accounts for what it is handed, over every device of this build, under
every configuration with room for the receives that are kept, and however the arrivals are
grouped into looks and fall between the events that are handled and the receives that are posted.
It reports in order, and a failure that is handled ends it well with nothing left to report.  Only
a receive that is posted when the queue pair has failed already ends it before its time. -/
theorem listen_accounts_for_reports {config : EndpointConfig} {device : Device}
    {publication : Publication} {region : Region} {board : Board} {log : List LogLine}
    {address : SocketAddress} {binding : Endpoint.BindConditions} {start : Service}
    (opened : DeviceRegistry.builtin.open? config.rdma.device = .ok device)
    (deep : receiveDepth ≤ config.rdma.depth)
    (bound : Service.start (Endpoint.opened config device publication region) board log address
      binding = .running start) :
    (∀ ticks, ∃ events, ((Watch.of start).run events).progress = start.run ticks) ∧
      ∀ events, Accounted start ((Watch.of start).run events) := by
  have starts := starts_of_bound opened deep bound
  refine ⟨Watch.run_ticks start [], fun events => ?_⟩
  have stands : Stands start ((Watch.of start).run events) :=
    Watch.run_induction (.waiting (Or.inl rfl)) (fun _ event stands => stands.step starts event)
      events
  have logged : ((Watch.of start).run events).Logged start.log := by
    refine Watch.run_induction (P := Watch.Logged start.log) ⟨?_, fun _ _ => rfl⟩
      (fun _ event logged => Watch.logged_step logged event) events
    show start.log = start.log ++ [] ++ []
    rw [List.append_nil, List.append_nil]
  exact stands.accounted starts logged

/-- The command over an endpoint with a region of 32 bytes, before its first look. -/
def modestStart : Progress :=
  Service.start (Stand.modest true none).endpoint (Stand.modest true none).board []
    (.v4 Ipv4.loopback 4000) ⟨.ok (.v4 Ipv4.loopback 4000), none, Publication.noFaults⟩

/-- Where nothing is configured, the queues are deep enough. -/
theorem modest_start_accounts :
    let rdma := (Stand.modest true none).endpoint.config.rdma
    DeviceRegistry.builtin.open? rdma.device = .ok Device.soft ∧ receiveDepth ≤ rdma.depth ∧
      modestStart = .running modestStart.service ∧
      (∀ ticks, ∃ events, ((Watch.of modestStart.service).run events).progress =
        modestStart.service.run ticks) ∧
      ∀ events, Accounted modestStart.service ((Watch.of modestStart.service).run events) := by
  intro rdma
  have opened : DeviceRegistry.builtin.open? rdma.device = .ok Device.soft := rfl
  have deep : receiveDepth ≤ rdma.depth := by decide
  have bound : modestStart = .running modestStart.service := rfl
  exact ⟨opened, deep, bound, listen_accounts_for_reports opened deep bound⟩

/-- A peer comes, makes two writes with immediates and closes its end, all of it before the command
looks for its completions. -/
def hastyPeer : List WatchEvent :=
  let came : Endpoint.AcceptConditions :=
    ⟨.ok (some (Stand.modestMeeting 4000 (Stand.modestRecord 2 5000) 1)), Stand.modestLot 1,
      ⟨fun _ => .error .timedOut, none, 0⟩, none, Publication.noFaults⟩
  let writes := (Header.write 1 8192 7 2 (some 1)).toBytes ++ [1, 2] ++
    (Header.write 2 8194 7 2 (some 2)).toBytes ++ [3, 4]
  [.look (.ofPeers fun _ => true), .handle came] ++ List.replicate receiveDepth .post ++
    [.arrive 1 writes true, .look (.ofPeers fun _ => false), .handle came, .post]

/-- The command reports the first of the two writes and ends with an error: the second one is never
reported, though it was handed out. -/
theorem hasty_peer_not_reported :
    let w := (Watch.of modestStart.service).run hastyPeer
    (match w.progress with
      | .running _ => none
      | .ended _ result => some result) = some (.error (.connectionFailed 1)) ∧
    w.progress.service.log.length = 1 ∧ (owed (w.handled ++ w.batch)).length = 3 := by
  decide +kernel

end RdmaLink.Command
