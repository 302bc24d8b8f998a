import RdmaLink.Proofs.Completion.Queue
import RdmaLink.Proofs.Connection.Coherence
import RdmaLink.Proofs.QueuePair.Effects

/-!
# A lost link is seen

A queue pair that fails reports at least one failure.  The completion queue keeps it, or it is full
and keeps the fault instead; either way the next drain gives a failure, behind everything that was
in the queue before, and ends the connection.

    q.Fails r → r.Grows t → q.Fails t                               (CompletionQueue.Fails.grows)
    s.Moves requests t → alive s → failed t → ∃ u, … u.fail.Moves … t    (Station.Moves.failure)

Until the drain the signal of the queue is raised: in every run it is raised exactly while the queue
holds something (`Session.run_signalled`).
-/

namespace RdmaLink

/-! ## The completion queue -/

namespace CompletionQueue

/-- One queue comes from the other by pushing completions. -/
def Grows (q r : CompletionQueue) : Prop := ∃ reports : List Completion, r = reports.foldl push q

/-- Completions were pushed, and a failure was among them. -/
def Fails (q r : CompletionQueue) : Prop :=
  ∃ reports : List Completion, r = reports.foldl push q ∧
    ∃ report ∈ reports, report.succeeded = false

variable {q r t : CompletionQueue}

theorem Grows.refl (q : CompletionQueue) : Grows q q := ⟨[], rfl⟩

theorem Grows.push (q : CompletionQueue) (report : Completion) : Grows q (q.push report) :=
  ⟨[report], rfl⟩

theorem Grows.trans (h : Grows q r) (h' : Grows r t) : Grows q t := by
  obtain ⟨a, rfl⟩ := h
  obtain ⟨b, rfl⟩ := h'
  exact ⟨a ++ b, List.foldl_append.symm⟩

theorem Fails.grown (h : Fails q r) : Grows q r := by
  obtain ⟨reports, grown, -⟩ := h
  exact ⟨reports, grown⟩

theorem Fails.grows (h : Fails q r) (h' : Grows r t) : Fails q t := by
  obtain ⟨a, rfl, report, member, failed⟩ := h
  obtain ⟨b, rfl⟩ := h'
  exact ⟨a ++ b, List.foldl_append.symm, report, List.mem_append_left b member, failed⟩

theorem Grows.fails (h : Grows q r) (h' : Fails r t) : Fails q t := by
  obtain ⟨a, rfl⟩ := h
  obtain ⟨b, rfl, report, member, failed⟩ := h'
  exact ⟨a ++ b, List.foldl_append.symm, report, List.mem_append_right a member, failed⟩

/-- What is pushed stands behind what was held; if it does not all stand there, there is a
fault. -/
theorem toList_foldl_push {reports : List Completion}
    (h : r = reports.foldl CompletionQueue.push q) :
    ∃ kept, r.toList = q.toList ++ kept ∧ kept.Sublist reports ∧
      (q.fault = true → r.fault = true) ∧ (kept = reports ∨ r.fault = true) := by
  induction reports generalizing q with
  | nil =>
    subst h
    exact ⟨[], (List.append_nil _).symm, .refl _, id, Or.inl rfl⟩
  | cons report rest ih =>
    obtain ⟨kept, held, among, latched, whole⟩ := ih h
    rcases Nat.lt_or_ge q.size q.depth with room | full
    · rw [toList_push_of_room room, List.append_assoc] at held
      rw [push_of_room room] at latched
      exact ⟨report :: kept, held, among.cons_cons report, latched,
        whole.imp_left (congrArg (report :: ·))⟩
    · rw [toList_push_of_full full] at held
      have fault : r.fault = true := latched (by rw [push_of_full full])
      exact ⟨kept, held, among.cons report, fun _ => fault, Or.inr fault⟩

theorem Grows.size_le (h : Grows q r) : q.size ≤ r.size := by
  obtain ⟨reports, rfl⟩ := h
  induction reports generalizing q with
  | nil => exact Nat.le_refl _
  | cons report rest ih =>
    have first := q.size_push report
    have later := ih (q := q.push report)
    rw [List.foldl_cons]
    split at first <;> omega

/-- A queue that was made for completions and has failed holds something. -/
theorem Fails.size_pos (h : Fails q r) (room : 0 < q.depth) : 0 < r.size := by
  obtain ⟨reports, rfl, report, member, -⟩ := h
  cases reports with
  | nil => cases member
  | cons first rest =>
    have pushed := q.size_push first
    have later := Grows.size_le ⟨rest, rfl⟩ (q := q.push first)
    rw [List.foldl_cons]
    split at pushed <;> omega

theorem Grows.depth (h : Grows q r) : r.depth = q.depth := by
  obtain ⟨reports, rfl⟩ := h
  induction reports generalizing q with
  | nil => rfl
  | cons report rest ih => exact ih.trans (depth_push q report)

theorem Signalled.grows (h : q.Signalled) (grown : Grows q r) : r.Signalled := by
  obtain ⟨reports, rfl⟩ := grown
  induction reports generalizing q with
  | nil => exact h
  | cons report rest ih => exact ih (h.push report)

end CompletionQueue

/-! ## The moment of a failure -/

namespace Station

variable {s t : Station} {a : List Request}

theorem Move.grows (h : Move s a t) : s.completions.Grows t.completions := by
  cases h with
  | quiet same => rw [same.completions]; exact .refl _
  | finish _ _ _ => exact .push _ _
  | consume _ _ _ => exact .push _ _
  | hold _ _ => exact .refl _
  | fail =>
    unfold Station.fail
    split
    · exact .refl _
    · exact ⟨_, rfl⟩
  | post _ _ _ _ _ => exact .refl _
  | await _ _ _ _ => exact .refl _
  | meet _ _ _ _ => exact .push _ _

theorem Moves.grows (h : Moves s a t) : s.completions.Grows t.completions := by
  induction h with
  | refl => exact .refl _
  | step _ last ih => exact ih.trans last.grows

/-- A queue pair that fails reports a failure. -/
theorem fails_fail (alive : s.queuePair.state ≠ .error) :
    s.completions.Fails s.fail.completions := by
  unfold fail
  rw [if_neg alive]
  refine ⟨s.lastReports, rfl, ?_⟩
  unfold lastReports
  generalize hf : s.flushReports = flushed
  cases flushed with
  | nil => exact ⟨s.lossReport, List.mem_singleton_self _, rfl⟩
  | cons first rest =>
    refine ⟨first, List.mem_cons_self, ?_⟩
    have member : first ∈ s.flushReports := by rw [hf]; exact List.mem_cons_self
    rcases List.mem_append.mp member with sent | awaited
    · obtain ⟨entry, -, rfl⟩ := List.mem_map.mp sent
      rfl
    · obtain ⟨request, -, rfl⟩ := List.mem_map.mp awaited
      rfl

/-- Every move but the failure keeps the state. -/
theorem Move.state_cases (h : Move s a t) :
    t.queuePair.state = s.queuePair.state ∨ (a = [] ∧ t = s.fail) := by
  cases h with
  | quiet same => exact Or.inl same.state
  | fail => exact Or.inr ⟨rfl, rfl⟩
  | _ => exact Or.inl rfl

/-- Moves that end in the error state have a moment at which the queue pair fails. -/
theorem Moves.failure (h : Moves s a t) (alive : s.queuePair.state ≠ .error)
    (failed : t.queuePair.state = .error) :
    ∃ u b c, Moves s b u ∧ u.queuePair.state = s.queuePair.state ∧ Moves u.fail c t := by
  induction h with
  | refl => exact absurd failed alive
  | @step r t former last earlier move ih =>
    rcases earlier.state.1 with same | fell
    · rcases move.state_cases with kept | ⟨rfl, rfl⟩
      · exact absurd ((kept.trans same).symm.trans failed) alive
      · exact ⟨r, former, [], earlier, same, .refl _⟩
    · obtain ⟨u, b, c, toFailure, running, onward⟩ := ih fell
      exact ⟨u, b, c ++ last, toFailure, running, .step onward move⟩

end Station

/-- Whether an event is the close. -/
def ConnectionEvent.isClose : ConnectionEvent → Bool
  | .close => true
  | _ => false

namespace Session

variable {s t : Session}

/-! ## Draining -/

theorem drain_reports (s : Session) :
    ∃ loss, loss.succeeded = false ∧ s.drain.1 = s.connection.completions.toList ++
      if s.connection.completions.fault then [loss] else [] := by
  refine ⟨lossReport { s.connection with
    completions := s.connection.completions.drain.2.takeFault.2 }, rfl, ?_⟩
  simp only [drain, CompletionQueue.drain_eq, CompletionQueue.takeFault]
  split
  · rfl
  · exact (List.append_nil _).symm

/-- What has failed is seen by a drain, behind what was in the queue before. -/
theorem drained_failure {q : CompletionQueue} (h : q.Fails s.connection.completions) :
    ∃ rest, s.drain.1 = q.toList ++ rest ∧ ∃ report ∈ rest, report.succeeded = false := by
  obtain ⟨reports, grown, report, member, failed⟩ := h
  obtain ⟨kept, held, -, -, whole⟩ := CompletionQueue.toList_foldl_push grown
  obtain ⟨loss, lost, drained⟩ := s.drain_reports
  rw [held, List.append_assoc] at drained
  refine ⟨_, drained, ?_⟩
  rcases whole with rfl | fault
  · exact ⟨report, List.mem_append_left _ member, failed⟩
  · rw [fault, if_pos rfl]
    exact ⟨loss, List.mem_append_right _ (List.mem_singleton_self _), lost⟩

theorem state_drain_of_failure (failure : ∃ report ∈ s.drain.1, report.succeeded = false)
    (alive : s.connection.state ≠ .closed) : s.drain.2.connection.state = .error :=
  state_observed_of_failure failure alive

theorem completions_drain (s : Session) :
    s.drain.2.connection.completions = s.connection.completions.drain.2.takeFault.2 :=
  (kept_of_observed s.drain.1
    { s.connection with completions := s.connection.completions.drain.2.takeFault.2 }).2.1

/-! ## What events do to the queue -/

theorem Works.grows (h : Works s t) : s.connection.completions.Grows t.connection.completions := by
  have moved {station after : Station} {requests : List Request}
      (present : s.station? = some station) (moves : Station.Moves station requests after) :
      s.connection.completions.Grows after.completions := by
    simp only [station?, Option.map_eq_some_iff] at present
    obtain ⟨q, -, rfl⟩ := present
    exact moves.grows
  cases h with
  | still => exact .refl _
  | moved present moves => exact moved present moves
  | refused _ present moves cause =>
    unfold postFailed
    split
    · split
      · exact moved present moves
      · exact moved present moves
    · exact moved present moves

theorem completions_begin (s : Session) :
    s.begin.2.connection.completions = s.connection.completions := by
  unfold begin
  split
  · rfl
  · next h =>
    unfold Connection.begin at h
    split at h
    · exact (Connection.kept_of_apply h).2.1
    · exact (Connection.kept_of_apply h).2.1

theorem completions_activate (s : Session) (exchange : Exchange) (conditions : LinkConditions) :
    (s.activate exchange conditions).session.connection.completions =
      s.connection.completions := by
  unfold activate
  split
  · rfl
  · next connection h =>
    have kept := (Connection.kept_of_apply h).2.1
    have raised := (raised_bringUp (s.withConnection
      { connection with ownRecord := some exchange.own, peerRecord := some exchange.peer })
      exchange conditions).completions
    dsimp only
    split
    · exact raised.trans kept
    · exact raised.trans kept

theorem completions_close (s : Session) :
    s.close.2.connection.completions = s.connection.completions := by
  by_cases shut : s.connection.state = .closed
  · rw [close_closed (Connection.not_isOpen_iff.mpr shut)]
  · rw [close_of_open shut]; rfl

/-- All but a drain only adds to the queue. -/
theorem grows_step (s : Session) {event : ConnectionEvent} (other : event ≠ .drain) :
    s.connection.completions.Grows (s.step event).connection.completions := by
  have same {q r : CompletionQueue} (h : r = q) : q.Grows r := by rw [h]; exact .refl q
  cases event with
  | begin => exact same (completions_begin s)
  | activate exchange conditions => exact same (completions_activate s exchange conditions)
  | post operation request offset length peerOffset => exact (works_post s _ _ _ _ _).grows
  | postReceive request => exact (works_postReceive s request).grows
  | deliver bytes ended => exact (works_deliver s bytes ended).grows
  | report completion => exact .push _ _
  | drain => exact absurd rfl other
  | close => exact same (completions_close s)
  | elsewhere device memory => exact .refl _

theorem grows_run (s : Session) {events : List ConnectionEvent}
    (others : ∀ event ∈ events, event ≠ .drain) :
    s.connection.completions.Grows (s.run events).connection.completions := by
  induction events generalizing s with
  | nil => exact .refl _
  | cons event rest ih =>
    exact (grows_step s (others event List.mem_cons_self)).trans
      (ih (s.step event) fun other member => others other (List.mem_cons_of_mem _ member))

/-- The queue of a connection stays as deep as it was made. -/
theorem depth_step (s : Session) (event : ConnectionEvent) :
    (s.step event).connection.completions.depth = s.connection.completions.depth := by
  by_cases drained : event = .drain
  · subst drained
    rw [show (s.step .drain).connection.completions = _ from completions_drain s,
      CompletionQueue.drain_eq]
    rfl
  · exact (grows_step s drained).depth

/-- In every run the signal is raised exactly while the queue holds something. -/
theorem run_signalled (signalled : s.connection.completions.Signalled)
    (events : List ConnectionEvent) :
    (s.run events).connection.completions.Signalled ∧
      (s.run events).connection.completions.depth = s.connection.completions.depth := by
  refine run_induction (P := fun t => t.connection.completions.Signalled ∧
    t.connection.completions.depth = s.connection.completions.depth) ⟨signalled, rfl⟩
    (fun t event h => ⟨?_, (t.depth_step event).trans h.2⟩) events
  by_cases drained : event = .drain
  · subst drained
    rw [show (t.step .drain).connection.completions = _ from completions_drain t]
    exact h.1.drained
  · exact h.1.grows (grows_step t drained)

/-! ## The event that fails the queue pair -/

/-- The state of a connection that has come up, and every later one. -/
def CameUp (s : Session) : Prop := LifecycleState.queuePairReady.rank ≤ s.connection.state.rank

theorem cameUp_of_postable (able : s.connection.state.canPost = true) : CameUp s := by
  unfold CameUp
  revert able
  cases s.connection.state <;> decide

/-- Unless it comes up, the queue pair works or is left alone, or it is released. -/
theorem works_or_kept (s : Session) {event : ConnectionEvent}
    (other : ∀ exchange conditions, event ≠ .activate exchange conditions) :
    Works s (s.step event) ∨ (s.step event).connection.queuePair = s.connection.queuePair ∨
      (event.isClose = true ∧ (s.step event).connection.queuePair = none) := by
  cases event with
  | begin =>
    refine Or.inr (Or.inl ?_)
    show s.begin.2.connection.queuePair = _
    unfold begin
    split
    · rfl
    · next h =>
      unfold Connection.begin at h
      split at h
      · exact (Connection.kept_of_apply h).2.2
      · exact (Connection.kept_of_apply h).2.2
  | activate exchange conditions => exact absurd rfl (other exchange conditions)
  | post operation request offset length peerOffset => exact Or.inl (works_post s _ _ _ _ _)
  | postReceive request => exact Or.inl (works_postReceive s request)
  | deliver bytes ended => exact Or.inl (works_deliver s bytes ended)
  | report completion => exact Or.inr (Or.inl rfl)
  | drain => exact Or.inr (Or.inl (kept_of_observed s.drain.1
      { s.connection with completions := s.connection.completions.drain.2.takeFault.2 }).2.2)
  | close =>
    show _ ∨ s.close.2.connection.queuePair = _ ∨ _ ∧ s.close.2.connection.queuePair = none
    by_cases shut : s.connection.state = .closed
    · rw [close_closed (Connection.not_isOpen_iff.mpr shut)]
      exact Or.inr (Or.inl rfl)
    · rw [close_of_open shut]
      exact Or.inr (Or.inr ⟨rfl, rfl⟩)
  | elsewhere device memory => exact Or.inr (Or.inl rfl)

/-- Once a connection has come up, the queue pair works or is left alone, or it is released. -/
theorem works_or_idle (up : CameUp s) (event : ConnectionEvent) :
    Works s (s.step event) ∨ (s.step event).connection.queuePair = s.connection.queuePair ∨
      (event.isClose = true ∧ (s.step event).connection.queuePair = none) := by
  by_cases other : ∀ exchange conditions, event ≠ .activate exchange conditions
  · exact works_or_kept s other
  · simp only [not_forall, not_not] at other
    obtain ⟨exchange, conditions, rfl⟩ := other
    refine Or.inr (Or.inl ?_)
    show (s.activate exchange conditions).session.connection.queuePair = _
    unfold activate
    split
    · rfl
    · next h =>
      -- A connection that has come up does not wait for records any more.
      obtain ⟨state, hnext, -⟩ := Connection.apply_eq_ok h
      unfold CameUp at up
      revert up hnext
      cases s.connection.state <;> simp [Lifecycle.next?, LifecycleState.rank]

theorem Works.station {here : Station} (h : Works s t) (present : s.station? = some here) :
    ∃ requests there, t.station? = some there ∧ Station.Moves here requests there := by
  cases h with
  | still => exact ⟨[], here, present, .refl _⟩
  | @moved _ after requests present' moves =>
    cases present'.symm.trans present
    exact ⟨requests, after, rfl, moves⟩
  | @refused _ after requests _ present' moves cause =>
    cases present'.symm.trans present
    refine ⟨requests, after, ?_, moves⟩
    unfold postFailed
    split
    · split <;> rfl
    · rfl

/-- The moment at which a queue pair fails. -/
theorem lost_step {here : Station} (up : CameUp s)
    (present : s.station? = some here) (running : here.queuePair.state ≠ .error)
    {event : ConnectionEvent} (lost : (s.step event).connection.pairState = some .error) :
    ∃ there u a b, (s.step event).station? = some there ∧ Station.Moves here a u ∧
      u.queuePair.state ≠ .error ∧ Station.Moves u.fail b there := by
  obtain ⟨q, hq, hhere⟩ := Option.map_eq_some_iff.mp present
  rcases works_or_idle up event with works | same | ⟨-, gone⟩
  · obtain ⟨requests, there, hthere, moves⟩ := works.station present
    have failed : there.queuePair.state = .error := by
      obtain ⟨p, hp, rfl⟩ := Option.map_eq_some_iff.mp hthere
      rw [Connection.pairState, hp] at lost
      exact Option.some.inj lost
    obtain ⟨u, a, b, before, state, after⟩ := moves.failure running failed
    exact ⟨there, u, a, b, hthere, before, by rw [state]; exact running, after⟩
  · rw [Connection.pairState, same, hq, Option.map_some] at lost
    rw [← hhere] at running
    exact absurd (Option.some.inj lost) running
  · rw [Connection.pairState, gone] at lost
    cases lost

/-- A queue pair that has failed stays so until it is released. -/
theorem lost_run (up : CameUp s) (lost : s.connection.pairState = some .error)
    {events : List ConnectionEvent} (kept : events.any ConnectionEvent.isClose = false) :
    (s.run events).connection.pairState = some .error := by
  induction events generalizing s with
  | nil => exact lost
  | cons event rest ih =>
    rw [List.any_cons, Bool.or_eq_false_iff] at kept
    have up' : CameUp (s.step event) := Nat.le_trans up (s.turn_step event).rank_le
    refine ih up' ?_ kept.2
    rcases works_or_idle up event with works | same | ⟨closes, -⟩
    · obtain ⟨q, hq, failed⟩ := Option.map_eq_some_iff.mp lost
      have present : s.station? = some ⟨q, s.connection.completions, s.memory⟩ := by
        rw [station?, hq]; rfl
      obtain ⟨requests, there, hthere, moves⟩ := works.station present
      obtain ⟨p, hp, hstation⟩ := Option.map_eq_some_iff.mp hthere
      have state : p.state = there.queuePair.state := by rw [← hstation]
      rw [Connection.pairState, hp, Option.map_some, state]
      rcases moves.state.1 with same | fell
      · rw [same]; exact congrArg some failed
      · rw [fell]
    · rw [Connection.pairState, same]
      exact lost
    · rw [kept.1] at closes
      cases closes

/-! ## The end of a connection -/

theorem Turn.closed_iff {event : ConnectionEvent} (h : Turn s event t)
    (other : event.isClose = false) :
    t.connection.state = .closed ↔ s.connection.state = .closed := by
  cases h with
  | stay state _ _ => rw [state]
  | begun before after _ _ =>
    rw [before]
    rcases after with after | after <;> rw [after] <;> exact ⟨nofun, nofun⟩
  | ready before after _ _ =>
    rw [after]
    rcases before with before | before <;> rw [before] <;> exact ⟨nofun, nofun⟩
  | active before after _ _ _ => rw [before, after]; exact ⟨nofun, nofun⟩
  | failed before after _ _ => rw [after]; exact ⟨nofun, fun closed => absurd closed before⟩
  | closed _ _ _ _ => cases other

theorem closed_close (s : Session) : s.close.2.connection.state = .closed := by
  by_cases shut : s.connection.state = .closed
  · rw [close_closed (Connection.not_isOpen_iff.mpr shut)]
    exact shut
  · rw [close_of_open shut]
    rfl

theorem closed_step (s : Session) (event : ConnectionEvent) :
    (s.step event).connection.state = .closed ↔
      s.connection.state = .closed ∨ event.isClose = true := by
  cases closes : event.isClose with
  | false =>
    rw [(s.turn_step event).closed_iff closes]
    exact ⟨Or.inl, fun h => h.elim id nofun⟩
  | true =>
    cases event <;> cases closes
    exact ⟨fun _ => Or.inr rfl, fun _ => closed_close s⟩

theorem closed_run (s : Session) (events : List ConnectionEvent) :
    (s.run events).connection.state = .closed ↔
      s.connection.state = .closed ∨ events.any ConnectionEvent.isClose = true := by
  induction events generalizing s with
  | nil => simp [run]
  | cons event rest ih =>
    rw [show s.run (event :: rest) = (s.step event).run rest from rfl, ih, closed_step,
      List.any_cons, Bool.or_eq_true, or_assoc]

/-- A connection that has failed stays so until it is closed. -/
theorem failed_run (failed : s.connection.state = .error) (events : List ConnectionEvent) :
    (s.run events).connection.state =
      if events.any ConnectionEvent.isClose then .closed else .error := by
  have forward := s.run_rank_le events
  have closes := s.closed_run events
  rw [failed] at forward closes
  split
  · next closed => exact closes.mpr (Or.inr closed)
  · next kept =>
    have alive : (s.run events).connection.state ≠ .closed := fun closed =>
      (closes.mp closed).elim nofun kept
    revert forward alive
    cases (s.run events).connection.state <;> decide

/-- A connection that has ended stays so; it may be closed. -/
theorem ended_run {closed : Bool} (ended : s.connection.state = if closed then .closed else .error)
    (events : List ConnectionEvent) :
    (s.run events).connection.state =
      if closed || events.any ConnectionEvent.isClose then .closed else .error := by
  cases closed with
  | true => exact (closed_run s events).mpr (Or.inl ended)
  | false => exact failed_run ended events

/-- Why a connection that has ended refuses every post. -/
def refusal (id : Nat) (closed : Bool) : EndpointError :=
  if closed then .alreadyClosed id else .connectionFailed id

theorem post_of_ended {closed : Bool}
    (ended : s.connection.state = if closed then .closed else .error) :
    (∀ operation request offset length peerOffset,
      s.post operation request offset length peerOffset =
        (.error (refusal s.connection.id closed), s)) ∧
    ∀ request, s.postReceive request = (.error (refusal s.connection.id closed), s) := by
  have refused (name : String) :
      s.connection.checkPostable name = .error (refusal s.connection.id closed) := by
    unfold Connection.checkPostable
    rw [ended]
    cases closed <;> rfl
  exact ⟨fun _ _ _ _ _ => by rw [post, refused], fun _ => by rw [postReceive, refused]⟩

/-! ## Posts on a failed queue pair -/

theorem postFailed_of_lost (lost : s.connection.pairState = some .error) (cause : DeviceError) :
    s.postFailed cause =
      (.connectionFailed s.connection.id, s.withConnection s.connection.faulted) := by
  obtain ⟨q, hq, failed⟩ := Option.map_eq_some_iff.mp lost
  unfold postFailed
  rw [hq]
  exact if_pos failed

theorem expect_of_failed {q : QueuePair} (failed : q.state = .error)
    (accepted : List QueuePairState) (out : QueuePairState.error ∉ accepted) (expected : String) :
    ∃ cause, q.expect accepted expected = .error cause :=
  ⟨_, if_neg (by rw [failed]; exact out)⟩

/-- Before the drain that ends the connection a post is already refused, and nothing is added to
the queue. -/
theorem post_of_lost (coherent : s.connection.Coherent)
    (lost : s.connection.pairState = some .error)
    (able : s.connection.state.canPost = true) :
    (∀ operation request offset length peerOffset,
      ((s.post operation request offset length peerOffset).1 =
          .error (.connectionFailed s.connection.id) ∨
        ∃ fault, (s.post operation request offset length peerOffset).1 =
          .error (.ofAddress fault)) ∧
      (s.post operation request offset length peerOffset).2.connection.completions =
        s.connection.completions) ∧
    ∀ request, (s.postReceive request).1 = .error (.connectionFailed s.connection.id) ∧
      (s.postReceive request).2.connection.completions = s.connection.completions := by
  obtain ⟨registration, -, peer, -⟩ := in_place_of_postable coherent able
  obtain ⟨q, hq, failed⟩ := Option.map_eq_some_iff.mp lost
  have present : s.station? = some ⟨q, s.connection.completions, s.memory⟩ := by
    rw [station?, hq]; rfl
  have lost' : (s.withStation ⟨q, s.connection.completions, s.memory⟩).connection.pairState =
      some .error := congrArg some failed
  constructor
  · intro operation request offset length peerOffset
    unfold post
    rw [check_of_postable able]
    dsimp only
    rcases sendRequest_cases operation (postName operation) request offset length peerOffset
      registration peer with ⟨send, h⟩ | ⟨fault, h⟩
    · rw [h, present]
      dsimp only
      split
      · rw [postFailed_of_lost lost]
        exact ⟨Or.inl rfl, rfl⟩
      · obtain ⟨cause, hcause⟩ := expect_of_failed failed [.readyToSend] (by decide) "RTS"
        simp only [Station.postSend, hcause]
        rw [postFailed_of_lost lost']
        exact ⟨Or.inl rfl, rfl⟩
    · rw [h]
      exact ⟨Or.inr ⟨fault, rfl⟩, rfl⟩
  · intro request
    unfold postReceive
    rw [check_of_postable able, present]
    dsimp only
    split
    · rw [postFailed_of_lost lost]
      exact ⟨rfl, rfl⟩
    · obtain ⟨cause, hcause⟩ := expect_of_failed failed
        [.init, .readyToReceive, .readyToSend] (by decide) "INIT, RTR or RTS"
      simp only [Station.postReceive, hcause]
      rw [postFailed_of_lost lost']
      exact ⟨rfl, rfl⟩

/-- A connection whose queue pair has failed refuses posts, whether or not it has noticed. -/
theorem refused_of_lost (coherent : s.connection.Coherent) (up : CameUp s)
    (lost : s.connection.pairState = some .error) (alive : s.connection.state ≠ .closed) :
    (∀ operation request offset length peerOffset,
      ((s.post operation request offset length peerOffset).1 =
          .error (.connectionFailed s.connection.id) ∨
        ∃ fault, (s.post operation request offset length peerOffset).1 =
          .error (.ofAddress fault)) ∧
      (s.post operation request offset length peerOffset).2.connection.completions =
        s.connection.completions) ∧
    ∀ request, (s.postReceive request).1 = .error (.connectionFailed s.connection.id) ∧
      (s.postReceive request).2.connection.completions = s.connection.completions := by
  by_cases able : s.connection.state.canPost = true
  · exact post_of_lost coherent lost able
  · have failed : s.connection.state = if false then .closed else .error := by
      unfold CameUp at up
      revert up alive able
      cases s.connection.state <;> decide
    obtain ⟨posts, receives⟩ := post_of_ended failed
    refine ⟨fun _ _ _ _ _ => ?_, fun _ => ?_⟩
    · rw [posts]; exact ⟨Or.inl rfl, rfl⟩
    · rw [receives]; exact ⟨rfl, rfl⟩

/-- A lost link is seen.  Let the queue pair of a connection that takes posts fail, whatever its
completion queue holds and whatever is posted.  `u` is the station at the moment of the failure.
Until it is drained, the completions of the connection are readable; the next drain gives all that
was in the queue at that moment, and a failure behind it; it leaves the connection failed, and from
then on every post is refused and changes nothing. -/
theorem lost_link_is_seen (id : Nat) (role : Role) (transport : Transport)
    (settings : ConnectionSettings) (registration : Registration) (address : QueuePairAddress)
    (device : Device) (memory : Memory) (room : 0 < settings.depth)
    (before : List ConnectionEvent)
    (reached : s = Session.run
      ⟨Connection.opened id role transport settings registration address, device, memory⟩ before)
    (able : s.connection.state = .queuePairReady ∨ s.connection.state = .active)
    {here : Station} (present : s.station? = some here) (running : here.queuePair.state ≠ .error)
    {event : ConnectionEvent} (lost : (s.step event).connection.pairState = some .error)
    {later : List ConnectionEvent} (undrained : ∀ other ∈ later, other ≠ .drain) :
    let t := (s.step event).run later
    t.connection.completions.isReadable = true ∧
    (∃ there u a b, (s.step event).station? = some there ∧ Station.Moves here a u ∧
      u.queuePair.state ≠ .error ∧ Station.Moves u.fail b there ∧
      ∃ rest, t.drain.1 = u.completions.toList ++ rest ∧
        ∃ report ∈ rest, report.succeeded = false) ∧
    t.drain.2.connection.state =
      (if later.any ConnectionEvent.isClose then .closed else .error) ∧
    (∀ more, let v := t.drain.2.run more
      let refused := refusal id ((later ++ more).any ConnectionEvent.isClose)
      (∀ operation request offset length peerOffset,
        v.post operation request offset length peerOffset = (.error refused, v)) ∧
      ∀ request, v.postReceive request = (.error refused, v)) ∧
    (later.any ConnectionEvent.isClose = false →
      (∀ operation request offset length peerOffset,
        ((t.post operation request offset length peerOffset).1 = .error (.connectionFailed id) ∨
          ∃ fault, (t.post operation request offset length peerOffset).1 =
            .error (.ofAddress fault)) ∧
        (t.post operation request offset length peerOffset).2.connection.completions =
          t.connection.completions) ∧
      ∀ request, (t.postReceive request).1 = .error (.connectionFailed id) ∧
        (t.postReceive request).2.connection.completions = t.connection.completions) := by
  intro t
  have postable : s.connection.state.canPost = true := by
    rcases able with h | h <;> rw [h] <;> rfl
  have up := cameUp_of_postable postable
  obtain ⟨there, u, a, b, hthere, toFailure, alive, onward⟩ := lost_step up present running lost
  -- The failure is in the queue, or its fault is.
  have fails : u.completions.Fails t.connection.completions := by
    obtain ⟨q, -, rfl⟩ := Option.map_eq_some_iff.mp hthere
    exact ((Station.fails_fail alive).grows onward.grows).grows (grows_run _ undrained)
  have whole : t = Session.run
      ⟨Connection.opened id role transport settings registration address, device, memory⟩
      (before ++ [event] ++ later) := by
    rw [run_append, run_concat, ← reached]
  have coherent : t.connection.Coherent := by
    rw [whole]; exact run_coherent (Connection.coherent_opened ..) _
  have number : t.connection.id = id := by rw [whole]; exact id_run _ _
  have opened : (s.step event).connection.state ≠ .closed := by
    intro closed
    have gone := ((s.turn_step event).coherent (by
      rw [reached]; exact run_coherent (Connection.coherent_opened ..) _)).pair.mp closed
    rw [lost] at gone
    cases gone
  have closes : t.connection.state = .closed ↔ later.any ConnectionEvent.isClose = true :=
    (closed_run _ later).trans (or_iff_right opened)
  obtain ⟨rest, drained, failure⟩ := drained_failure fails
  have ended : t.drain.2.connection.state =
      if later.any ConnectionEvent.isClose then .closed else .error := by
    split
    · next closed => exact (closed_step t .drain).mpr (Or.inl (closes.mpr closed))
    · next kept =>
      obtain ⟨report, member, failed⟩ := failure
      exact state_drain_of_failure
        ⟨report, by rw [drained]; exact List.mem_append_right _ member, failed⟩
        fun closed => kept (closes.mp closed)
  refine ⟨?_, ⟨there, u, a, b, hthere, toFailure, alive, onward, rest, drained, failure⟩, ended,
    fun more => ?_, fun kept => ?_⟩
  · obtain ⟨signalled, depth⟩ := run_signalled (s := ⟨Connection.opened id role transport settings
      registration address, device, memory⟩) (CompletionQueue.signalled_ofDepth settings.depth)
      (before ++ [event] ++ later)
    rw [← whole] at signalled depth
    refine signalled.mpr (fails.size_pos ?_)
    rw [← fails.grown.depth, depth]
    exact room
  · intro v refused
    have ending : v.connection.state =
        if (later ++ more).any ConnectionEvent.isClose then .closed else .error := by
      rw [List.any_append]
      exact ended_run ended more
    have same : v.connection.id = id := (id_run _ more).trans ((id_step t .drain).trans number)
    have refuses := post_of_ended ending
    rw [same] at refuses
    exact refuses
  · have stepped : CameUp (s.step event) := Nat.le_trans up (s.turn_step event).rank_le
    have up' : CameUp t := Nat.le_trans stepped (run_rank_le _ later)
    have lost' : t.connection.pairState = some .error := lost_run stepped lost kept
    have alive' : t.connection.state ≠ .closed := fun closed => by
      rw [closes.mp closed] at kept; cases kept
    rw [← number]
    exact refused_of_lost coherent up' lost' alive'

/-- A connection whose queue holds one completion, at the start. -/
def narrow : Session :=
  ⟨.opened 1 .listener .socket ⟨1, 1, ⟨1000⟩, 1⟩ ⟨1, 5, 4096, 4, Access.all, ⟨0⟩⟩ ⟨1, 0, 0, ⟨0⟩⟩,
    Device.soft, Memory.empty⟩

/-- It is brought up over a stream on which the peer has said its greeting, and then its queue is
filled. -/
def filled : List ConnectionEvent :=
  let record (number : UInt32) : Record :=
    ⟨.socket, ⟨number, 0, 0, ⟨0⟩⟩, ⟨4096, 4, 5⟩, Ipv4.unspecified, 0⟩
  [.begin,
    .activate ⟨Stream.ofBytes (Header.hello 2 1).toBytes false, record 1, record 2⟩
      ⟨fun _ => .error .timedOut, none, 0⟩,
    .report ⟨3, .read, .success, 4, none, 1⟩]

/-- The stream ends while nothing is posted and the queue is full. -/
theorem narrow_loss_is_seen :
    (narrow.run filled).connection.state = .queuePairReady ∧
    (narrow.run filled).connection.completions.isFull = true ∧
    ((narrow.run filled).step (.deliver [] true)).connection.pairState = some .error ∧
    ((narrow.run filled).step (.deliver [] true)).drain.2.connection.state = .error := by
  have ready : (narrow.run filled).connection.state = .queuePairReady := by decide +kernel
  have lost : ((narrow.run filled).step (.deliver [] true)).connection.pairState = some .error := by
    decide +kernel
  have pair : (narrow.run filled).station?.map (·.queuePair.state) = some .readyToSend := by
    decide +kernel
  obtain ⟨here, present, running⟩ := Option.map_eq_some_iff.mp pair
  refine ⟨ready, by decide +kernel, lost, ?_⟩
  exact (lost_link_is_seen 1 .listener .socket ⟨1, 1, ⟨1000⟩, 1⟩
    ⟨1, 5, 4096, 4, Access.all, ⟨0⟩⟩ ⟨1, 0, 0, ⟨0⟩⟩ Device.soft Memory.empty (by decide) filled rfl
    (Or.inl ready) present (by rw [running]; decide) lost
    (nofun : ∀ other ∈ ([] : List ConnectionEvent), other ≠ .drain)).2.2.1

end Session

end RdmaLink
