import RdmaLink.Proofs.Connection.Loss
import RdmaLink.Proofs.QueuePair.Failure

/-!
# Connections that only receive

The owner of a connection posts receives and nothing else.  While its queue pair is alive, each
receive that was posted is still waiting, or it was consumed by a write of the peer, and the
completion of that write is in the queue.

    s.Attends count → s.Moves requests t →
      t.Attends (count + requests.length) ∨ t.Lapsed               (Station.Attends.moves)

When the queue pair fails, what is flushed stands behind all the writes, and nothing comes after it
(`Station.Lapsed`).  So what a drain gives are writes, and failures behind them.
-/

namespace RdmaLink

/-- Whether a completion is that of a write of the peer, which a receive was consumed by. -/
def Completion.isWrite (completion : Completion) : Bool :=
  completion.operation == .receiveWithImmediate && completion.succeeded

/-- Writes of the peer, and failures behind them. -/
structure Tapers (reports writes failures : List Completion) : Prop where
  parts : reports = writes ++ failures
  writes : ∀ report ∈ writes, report.isWrite = true
  failures : ∀ report ∈ failures, report.succeeded = false

theorem tapers_nil : Tapers [] [] [] := ⟨rfl, nofun, nofun⟩

namespace Station

variable {s t : Station} {requests : List Request} {count : Nat}

/-- A queue pair that is alive, with nothing but receives posted: so many were not consumed yet or
were consumed by a write whose completion is in the queue. -/
structure Attends (s : Station) (count : Nat) : Prop where
  alive : s.queuePair.state ≠ .error
  silent : s.queuePair.work.outstanding = []
  sum : s.queuePair.work.receives.length + s.completions.size = count
  room : count ≤ s.completions.depth
  writes : ∀ report ∈ s.completions.toList, report.isWrite = true
  whole : s.completions.fault = false

/-- A queue pair that has failed with nothing but receives posted. -/
structure Lapsed (s : Station) : Prop where
  failed : s.queuePair.state = .error
  cleared : s.Cleared
  tapers : ∃ writes failures, Tapers s.completions.toList writes failures

theorem Lapsed.moves (lapsed : s.Lapsed) (moves : Moves s requests t) : t.Lapsed := by
  obtain ⟨failed, cleared, same⟩ := lapsed.cleared.moves lapsed.failed moves
  exact ⟨failed, cleared, by rw [same]; exact lapsed.tapers⟩

/-- The receives that wait are flushed behind the writes. -/
theorem Attends.fail (attends : s.Attends count) : s.fail.Lapsed := by
  have failure : ∀ report ∈ s.lastReports, report.succeeded = false := by
    intro report member
    unfold lastReports at member
    split at member
    · rw [List.mem_singleton.mp member]
      rfl
    · unfold flushReports at member
      rw [attends.silent] at member
      obtain ⟨request, -, rfl⟩ := List.mem_map.mp member
      rfl
  have pushed : s.lastReports.foldl CompletionQueue.push s.completions = _ := rfl
  obtain ⟨kept, held, among, -⟩ := CompletionQueue.toList_foldl_push pushed
  rw [Station.fail, if_neg attends.alive]
  exact ⟨rfl, ⟨rfl, rfl⟩, s.completions.toList, kept, held, attends.writes,
    fun report member => failure report (among.subset member)⟩

/-- A receive is consumed by a write of the peer. -/
theorem Attends.consume (attends : s.Attends count) (work : Work) (request : UInt64)
    (length : UInt32) (immediate : Option UInt32) {sum : Nat} (silent : work.outstanding = [])
    (one : work.receives.length + 1 + s.completions.size = sum)
    (fits : sum ≤ s.completions.depth) :
    Attends ((s.withWork work).complete request .receiveWithImmediate .success length immediate)
      sum := by
  generalize hreport : (s.withWork work).report request .receiveWithImmediate .success length
    immediate = report
  have write : report.isWrite = true := by rw [← hreport]; rfl
  have room : s.completions.size < s.completions.depth := by omega
  have pushed := s.completions.size_push report
  rw [if_pos room] at pushed
  unfold complete
  rw [hreport]
  refine ⟨attends.alive, silent, ?_, ?_, fun other member => ?_, ?_⟩
  · show work.receives.length + (s.completions.push report).size = _
    omega
  · show _ ≤ (s.completions.push report).depth
    rw [CompletionQueue.depth_push]
    exact fits
  · have member : other ∈ (s.completions.push report).toList := member
    rw [CompletionQueue.toList_push_of_room room] at member
    rcases List.mem_append.mp member with old | new
    · exact attends.writes other old
    · rw [List.mem_singleton.mp new]
      exact write
  · show (s.completions.push report).fault = false
    rw [CompletionQueue.push_of_room room]
    exact attends.whole

/-- One move of a queue pair with nothing but receives posted. -/
theorem Attends.move (attends : s.Attends count) (move : Move s requests t)
    (receives : ∀ request ∈ requests, ∃ number, request = .receive number) :
    t.Attends (count + requests.length) ∨ t.Lapsed := by
  have ⟨alive, silent, counted, room, writes, whole⟩ := attends
  cases move with
  | quiet same =>
    refine Or.inl ⟨?_, ?_, ?_, ?_, ?_, ?_⟩
    · rw [same.state]; exact alive
    · rw [same.work]; exact silent
    · rw [same.work, same.completions]; exact counted
    · rw [same.completions]; exact room
    · rw [same.completions]; exact writes
    · rw [same.completions]; exact whole
  | finish status length posted =>
    rw [Work.send?, silent] at posted
    cases posted
  | @consume request later length immediate waiting =>
    rw [waiting, List.length_cons] at counted
    exact Or.inl (attends.consume { s.queuePair.work with receives := later } request length
      immediate silent counted room)
  | hold held nobody => exact Or.inl ⟨alive, silent, counted, room, writes, whole⟩
  | fail => exact Or.inr attends.fail
  | post pending ready room isSend sink =>
    obtain ⟨number, other⟩ := receives _ (List.mem_singleton_self _)
    cases other
  | await request running place nobody =>
    refine Or.inl ⟨alive, silent, ?_, ?_, writes, whole⟩
    · show (s.queuePair.work.receives ++ [request]).length + s.completions.size = _
      rw [List.length_append, List.length_singleton, List.length_singleton]
      omega
    · unfold load at place
      rw [silent, List.length_nil] at place
      show count + 1 ≤ s.completions.depth
      omega
  | @meet held later request running place waiting =>
    unfold load at place
    rw [silent, List.length_nil] at place
    refine Or.inl (attends.consume { s.queuePair.work with held := later } request held.length
      (some held.immediate) silent ?_ ?_)
    · show s.queuePair.work.receives.length + 1 + s.completions.size = count + 1
      omega
    · show count + 1 ≤ s.completions.depth
      omega

/-- With room for one more a receive is taken on. -/
theorem postReceive_of_room (ready : s.queuePair.state = .readyToSend)
    (room : s.load < s.completions.depth) (request : UInt64) :
    (s.postReceive request).1 = .ok () := by
  have accepted : s.queuePair.expect [.init, .readyToReceive, .readyToSend]
      "INIT, RTR or RTS" = .ok () := if_pos (by rw [ready]; decide)
  have fits : s.checkRoom = .ok () := if_neg (Nat.not_le.mpr room)
  rw [postReceive_eq, accepted, fits]
  rcases s.meet request with ⟨_ | held, t⟩ <;> rfl

/-- A queue pair with nothing but receives posted attends to its peer until it fails. -/
theorem Attends.moves (attends : s.Attends count) (moves : Moves s requests t)
    (receives : ∀ request ∈ requests, ∃ number, request = .receive number) :
    t.Attends (count + requests.length) ∨ t.Lapsed := by
  induction moves with
  | refl => exact Or.inl attends
  | step before last ih =>
    rcases ih fun request member => receives request (List.mem_append_left _ member) with
      attends | lapsed
    · rw [List.length_append, ← Nat.add_assoc]
      exact attends.move last fun request member =>
        receives request (List.mem_append_right _ member)
    · exact Or.inr (lapsed.moves last.moves)

end Station

namespace Session

variable {s : Session} {count : Nat}

/-- Whether the queue pair has failed; the connection may not have noticed yet. -/
def Lost (s : Session) : Prop := s.connection.pairState = some .error

instance (s : Session) : Decidable s.Lost := inferInstanceAs (Decidable (_ = _))

/-- A connection that has come up and was not closed, with nothing but receives posted. -/
structure Serves (s : Session) (count : Nat) : Prop where
  coherent : s.connection.Coherent
  up : CameUp s
  unclosed : s.connection.state ≠ .closed
  willing : s.device.refusal .receiving = none
  station : ∃ station, s.station? = some station ∧
    (station.Lapsed ∨ (station.Attends count ∧ s.connection.state ≠ .error))

theorem lost_iff {here : Station} (present : s.station? = some here) :
    s.Lost ↔ here.queuePair.state = .error := by
  obtain ⟨q, hq, rfl⟩ := Option.map_eq_some_iff.mp present
  unfold Lost Connection.pairState
  rw [hq]
  exact ⟨Option.some.inj, congrArg some⟩

/-- While the queue pair is alive the connection takes posts. -/
theorem Serves.attends (serves : s.Serves count) (running : ¬ s.Lost) :
    s.connection.state.canPost = true ∧
      ∃ here, s.station? = some here ∧ here.Attends count ∧
        here.queuePair.state = .readyToSend := by
  obtain ⟨coherent, up, alive, -, here, present, lapsed | ⟨attends, sound⟩⟩ := serves
  · exact absurd ((lost_iff present).mpr lapsed.failed) running
  · have able : s.connection.state.canPost = true := by
      unfold CameUp at up
      revert up alive sound
      cases s.connection.state <;> decide
    obtain ⟨-, -, state⟩ := coherent.ready able
    refine ⟨able, here, present, attends, ?_⟩
    obtain ⟨q, hq, rfl⟩ := Option.map_eq_some_iff.mp present
    rw [Connection.pairState, hq] at state
    exact (state.imp Option.some.inj Option.some.inj).resolve_right attends.alive

/-- What is kept by an event that leaves the device as it is and does not close the connection. -/
theorem Serves.keeps (serves : s.Serves count) (event : ConnectionEvent)
    (other : event.isClose = false) (device : (s.step event).device = s.device) {rest : Nat}
    (station : ∃ station, (s.step event).station? = some station ∧
      (station.Lapsed ∨ (station.Attends rest ∧ (s.step event).connection.state ≠ .error))) :
    (s.step event).Serves rest where
  coherent := (s.turn_step event).coherent serves.coherent
  up := Nat.le_trans serves.up (s.turn_step event).rank_le
  unclosed := fun closed => by
    rcases (closed_step s event).mp closed with closed | closes
    · exact serves.unclosed closed
    · rw [other] at closes; cases closes
  willing := by rw [device]; exact serves.willing
  station := station

/-- Whatever arrives, each receive is accounted for, or the queue pair has failed. -/
theorem Serves.deliver (serves : s.Serves count) (bytes : Bytes) (ended : Bool) :
    (s.deliver bytes ended).Serves count := by
  refine serves.keeps (.deliver bytes ended) rfl (s.steady_deliver bytes ended).device ?_
  obtain ⟨here, present, stands⟩ := serves.station
  obtain ⟨there, delivered, moves⟩ := deliver_moves present bytes ended
  show ∃ station, (s.deliver bytes ended).station? = some station ∧
    (station.Lapsed ∨ (station.Attends count ∧ (s.deliver bytes ended).connection.state ≠ .error))
  rw [delivered]
  refine ⟨there, rfl, ?_⟩
  rcases stands with lapsed | ⟨attends, sound⟩
  · exact Or.inl (lapsed.moves moves)
  · exact (attends.moves moves nofun).symm.imp_right fun attends => ⟨attends, sound⟩

/-- While there is room for one more, a receive is taken on. -/
theorem Serves.posts (serves : s.Serves count) (running : ¬ s.Lost)
    (room : count < s.connection.completions.depth) (request : UInt64) :
    ∃ here, s.station? = some here ∧ here.Attends count ∧ (here.postReceive request).1 = .ok () ∧
      s.postReceive request = (.ok (), s.withStation (here.postReceive request).2) := by
  obtain ⟨able, here, present, attends, ready⟩ := serves.attends running
  have taken : (here.postReceive request).1 = .ok () := by
    refine here.postReceive_of_room ready ?_ request
    have depth : here.completions.depth = s.connection.completions.depth := by
      obtain ⟨q, -, rfl⟩ := Option.map_eq_some_iff.mp present
      rfl
    have sum := attends.sum
    unfold Station.load
    rw [attends.silent, List.length_nil, depth]
    omega
  refine ⟨here, present, attends, taken, ?_⟩
  unfold postReceive
  rw [check_of_postable able, present, serves.willing]
  dsimp only
  rw [← Prod.eta (here.postReceive request), taken]

theorem Serves.receives (serves : s.Serves count) (running : ¬ s.Lost)
    (room : count < s.connection.completions.depth) (request : UInt64) :
    (s.postReceive request).1 = .ok () ∧ (s.postReceive request).2.Serves (count + 1) := by
  obtain ⟨able, -⟩ := serves.attends running
  obtain ⟨here, present, attends, taken, posted⟩ := serves.posts running room request
  refine ⟨by rw [posted], ?_⟩
  refine serves.keeps (.postReceive request) rfl (s.steady_postReceive request).device ?_
  show ∃ station, (s.postReceive request).2.station? = some station ∧
    (station.Lapsed ∨ (station.Attends (count + 1) ∧
      (s.postReceive request).2.connection.state ≠ .error))
  rw [posted]
  refine ⟨_, rfl, ?_⟩
  have moves := Station.moves_postReceive here request
  rw [taken] at moves
  have stands := attends.moves moves fun other member =>
    ⟨request, List.mem_singleton.mp member⟩
  have sound : s.connection.state ≠ .error := fun failed => by rw [failed] at able; cases able
  exact stands.symm.imp_right fun attends => ⟨attends, sound⟩

/-- No write of the peer waits for a receive. -/
def Unheld (s : Session) : Prop := ∀ q, s.connection.queuePair = some q → q.work.held = []

/-- Where no write waits, a receive does, and nothing is sent that could fail. -/
theorem Serves.awaits (serves : s.Serves count) (running : ¬ s.Lost) (unheld : s.Unheld)
    (room : count < s.connection.completions.depth) (request : UInt64) :
    ¬ (s.postReceive request).2.Lost ∧ (s.postReceive request).2.Unheld := by
  obtain ⟨here, present, attends, taken, posted⟩ := serves.posts running room request
  obtain ⟨q, hq, rfl⟩ := Option.map_eq_some_iff.mp present
  rcases Station.postReceive_cases _ request with
    ⟨e, refused⟩ | ⟨-, -, nobody, waits⟩ | ⟨held, later, -, -, waiting, -⟩
  · rw [refused] at taken; cases taken
  · rw [posted, waits]
    refine ⟨fun lost => attends.alive (Option.some.inj lost), ?_⟩
    rintro _ ⟨⟩
    exact nobody
  · have none : q.work.held = [] := unheld q hq
    rw [none] at waiting
    cases waiting

/-- A queue pair that has failed stays so until the connection is closed. -/
theorem Serves.lost_step (serves : s.Serves count) (lost : s.Lost) (event : ConnectionEvent)
    (other : event.isClose = false) : (s.step event).Lost := by
  have kept : [event].any ConnectionEvent.isClose = false := by rw [List.any_cons, other]; rfl
  exact lost_run serves.up lost kept

/-- Once the queue pair has failed, no receive is taken on. -/
theorem Serves.refuses (serves : s.Serves count) (lost : s.Lost) (request : UInt64) :
    (s.postReceive request).1 = .error (.connectionFailed s.connection.id) :=
  ((refused_of_lost serves.coherent serves.up lost serves.unclosed).2 request).1

/-- Successes do not end a connection. -/
theorem state_observed_of_success {reports : List Completion} {connection : Connection}
    (success : ∀ report ∈ reports, report.succeeded = true) (sound : connection.state ≠ .error) :
    (reports.foldl observe connection).state ≠ .error := by
  induction reports generalizing connection with
  | nil => exact sound
  | cons report rest ih =>
    refine ih (fun other member => success other (List.mem_cons_of_mem _ member)) ?_
    rw [state_observe, if_pos (success report List.mem_cons_self)]
    split
    · decide
    · exact sound

/-- A drain gives the writes that consumed receives, and failures behind them if the queue pair has
failed. -/
theorem Serves.drain (serves : s.Serves count) :
    ∃ writes failures rest, Tapers s.drain.1 writes failures ∧ s.drain.2.Serves rest ∧
      (¬ s.Lost → failures = [] ∧ rest + writes.length = count) := by
  obtain ⟨here, present, stands⟩ := serves.station
  obtain ⟨loss, failure, given⟩ := s.drain_reports
  have emptied := s.completions_drain
  rw [CompletionQueue.drain_eq] at emptied
  obtain ⟨-, -, pair⟩ := kept_of_observed s.drain.1
    { s.connection with completions := s.connection.completions.drain.2.takeFault.2 }
  have same : s.drain.2.connection.queuePair = s.connection.queuePair := pair
  have lost := lost_iff present
  obtain ⟨q, hq, rfl⟩ := Option.map_eq_some_iff.mp present
  have present' : s.drain.2.station? =
      some ⟨q, s.drain.2.connection.completions, s.drain.2.memory⟩ := by
    rw [station?, same, hq]; rfl
  have kept {rest : Nat} (station : Station.Lapsed
        ⟨q, s.drain.2.connection.completions, s.drain.2.memory⟩ ∨
      (Station.Attends ⟨q, s.drain.2.connection.completions, s.drain.2.memory⟩ rest ∧
        s.drain.2.connection.state ≠ .error)) : s.drain.2.Serves rest :=
    serves.keeps .drain rfl s.steady_drain.device ⟨_, present', station⟩
  rcases stands with ⟨failed, cleared, writes, failures, tapers⟩ | ⟨attends, sound⟩
  · refine ⟨writes, failures ++ if s.connection.completions.fault then [loss] else [], count, ?_,
      kept (Or.inl ⟨failed, cleared, [], [], ?_⟩), fun running => absurd (lost.mpr failed) running⟩
    · refine ⟨by rw [given, ← List.append_assoc, ← tapers.parts], tapers.writes, ?_⟩
      intro report member
      rcases List.mem_append.mp member with flushed | dropped
      · exact tapers.failures report flushed
      · split at dropped
        · rw [List.mem_singleton.mp dropped]
          exact failure
        · cases dropped
    · rw [emptied]
      exact tapers_nil
  · have taken : s.drain.1 = s.connection.completions.toList := by
      have whole : s.connection.completions.fault = false := attends.whole
      rw [given, whole]
      exact List.append_nil _
    have success : ∀ report ∈ s.drain.1, report.succeeded = true := by
      intro report member
      rw [taken] at member
      have write := attends.writes report member
      rw [Completion.isWrite, Bool.and_eq_true] at write
      exact write.2
    have held := attends.sum
    have room := attends.room
    refine ⟨s.drain.1, [], q.work.receives.length,
      ⟨(List.append_nil _).symm, ?_, List.forall_mem_nil _⟩,
      kept (Or.inr ⟨⟨attends.alive, attends.silent, ?_, ?_, ?_, ?_⟩, ?_⟩), fun _ => ⟨rfl, ?_⟩⟩
    · rw [taken]
      exact attends.writes
    · rw [emptied]
      rfl
    · rw [emptied]
      show _ ≤ s.connection.completions.depth
      have size : q.work.receives.length + s.connection.completions.size = count := held
      have room : count ≤ s.connection.completions.depth := room
      omega
    · rw [emptied]
      exact List.forall_mem_nil _
    · rw [emptied]
      rfl
    · exact state_observed_of_success success sound
    · rw [taken, ← CompletionQueue.size_eq_length]
      exact held

/-- A second drain gives nothing and changes nothing. -/
theorem drain_drained (s : Session) : s.drain.2.drain = ([], s.drain.2) := by
  have emptied := s.completions_drain
  rw [CompletionQueue.drain_eq] at emptied
  generalize s.drain.2 = after at emptied
  obtain ⟨⟨_, _, _, _, queue, _, _, _⟩, _, _⟩ := after
  obtain rfl : queue = _ := emptied
  rfl

end Session

end RdmaLink
