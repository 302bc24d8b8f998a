import RdmaLink.Proofs.Peers.InStep

/-!
# Two queue pairs at their start

Until a queue pair is ready to send, nothing was sent, nothing has arrived and nothing was
completed, whatever calls it has seen (`History.Idle`).  So two queue pairs are ready once the
last call that sets them up has made them ready to send (`Peers.ready_of_start`).
-/

namespace RdmaLink

namespace History

/-- Before a queue pair is ready to send, no send waits, no immediate is held back and nothing was
completed. -/
def Idle (h : History) : Prop :=
  h.station.queuePair.state ≠ .readyToSend → h.station.queuePair.state ≠ .error →
    h.station.queuePair.work.outstanding = [] ∧ h.station.queuePair.work.held = [] ∧
      h.station.completions.toList = []

theorem idle_fresh (address : QueuePairAddress) (linkTimeout : Milliseconds) (depth : Nat)
    (memory : Memory) : Idle (fresh address linkTimeout depth memory) :=
  fun _ _ => ⟨rfl, rfl, rfl⟩

theorem Idle.step {h : History} (idle : Idle h) (tracked : Tracked h) (event : QueuePairEvent) :
    Idle (h.step event) := by
  intro h1 h2
  have young : h.station.queuePair.state ≠ .readyToSend ∧ h.station.queuePair.state ≠ .error := by
    rcases state_after h.station event with hs | hs | hs
    · rw [← hs]; exact ⟨h1, h2⟩
    · exact absurd hs h2
    · exact hs
  obtain ⟨sends, held, quiet⟩ := idle young.1 young.2
  have intake := (tracked.early young.1 young.2).1
  -- a call that sets the queue pair up leaves what was posted as it is
  have advanced (result : Except DeviceError QueuePair)
      (set : ∀ queuePair, result = .ok queuePair → h.station.queuePair.SetUp queuePair) :
      (h.station.advance result).queuePair.work.outstanding = [] ∧
        (h.station.advance result).queuePair.work.held = [] ∧
        (h.station.advance result).completions.toList = [] := by
    cases result with
    | ok queuePair =>
      refine ⟨?_, ?_, quiet⟩
      · simp only [Station.advance, (set queuePair rfl).work]; exact sends
      · simp only [Station.advance, (set queuePair rfl).work]; exact held
    | error e => exact ⟨sends, held, quiet⟩
  cases event with
  | toInit access => exact advanced _ fun _ => QueuePair.setUp_toInit
  | attach stream => exact advanced _ fun _ => QueuePair.setUp_attach
  | link peer ip conditions =>
    have same : (h.station.queuePair.toReadyToReceive peer ip conditions).queuePair.work =
        h.station.queuePair.work := by
      rcases h.station.queuePair.setUp_toReadyToReceive peer ip conditions with hl | hl
      · rw [hl]
      · exact hl.work
    refine ⟨?_, ?_, quiet⟩
    · simp only [History.step, Station.after, same]; exact sends
    · simp only [History.step, Station.after, same]; exact held
  | start => exact advanced _ fun _ => QueuePair.setUp_toReadyToSend
  | postSend registrations send =>
    simp only [History.step, Station.after]
    rcases h.station.postSend_cases registrations send with ⟨e, heq⟩ | ⟨e, heq⟩ |
      ⟨_, _, _, _, ready, -, -, -, -, -⟩
    · rw [heq]; exact ⟨sends, held, quiet⟩
    · rw [heq]; exact ⟨sends, held, quiet⟩
    · exact absurd ready young.1
  | postReceive request =>
    simp only [History.step, Station.after]
    rcases h.station.postReceive_cases request with ⟨e, heq⟩ | ⟨-, -, -, heq⟩ |
      ⟨first, later, -, -, hheld, -⟩
    · rw [heq]; exact ⟨sends, held, quiet⟩
    · rw [heq]; exact ⟨sends, held, quiet⟩
    · rw [held] at hheld; cases hheld
  | receive registrations byte =>
    simp only [History.step, Station.after, Station.feed, intake]
    exact ⟨sends, held, quiet⟩
  | endOfStream =>
    simp only [History.step, Station.after, Station.endOfStream, intake]
    exact ⟨sends, held, quiet⟩
  | poll most =>
    refine ⟨sends, held, ?_⟩
    have poll := CompletionQueue.toList_poll h.station.completions most
    rw [quiet] at poll
    exact (List.append_eq_nil_iff.mp poll).2
  | remember memory => exact ⟨sends, held, quiet⟩

/-- Every history of a fresh queue pair is idle until the queue pair is ready to send. -/
theorem idle_run (address : QueuePairAddress) (linkTimeout : Milliseconds) (depth : Nat)
    (memory : Memory) (events : List QueuePairEvent) :
    Idle ((fresh address linkTimeout depth memory).run events) := by
  refine (run_induction (P := fun h => (Kept h ∧ Tracked h) ∧ Idle h)
    ⟨⟨kept_fresh address linkTimeout depth memory, tracked_fresh address linkTimeout depth memory⟩,
      idle_fresh address linkTimeout depth memory⟩ ?_ events).2
  rintro h event ⟨⟨kept, tracked⟩, idle⟩
  exact ⟨⟨kept.step event, tracked.step kept event⟩, idle.step tracked event⟩

end History

/-- A queue pair that was linked by a stream that takes every message and is started is ready; what
its peer has written so far is the greeting, and it is taken. -/
theorem Peers.ready_of_start {peers : Peers} {side : Side} {address : QueuePairAddress}
    {linkTimeout : Milliseconds} {depth : Nat} {memory : Memory} {events : List QueuePairEvent}
    (linked : ((History.fresh address linkTimeout depth memory).run
      events).station.queuePair.state = .readyToReceive)
    (started : (peers side).station =
      (((History.fresh address linkTimeout depth memory).run events).step .start).station)
    (steady : (peers side).station.Steady)
    (taken : (peers side).taken = (peers side.other).station.wire.length)
    (described : (peers side).table.Describes (peers side).station.memory) : peers.Ready side := by
  have idle := History.idle_run address linkTimeout depth memory events
  have kept := History.kept_run address linkTimeout depth memory events
  generalize (History.fresh address linkTimeout depth memory).run events = h at *
  obtain ⟨sends, held, quiet⟩ := idle (by rw [linked]; decide) (by rw [linked]; decide)
  obtain ⟨stream, hl⟩ := Option.isSome_iff_exists.mp (kept.linked.late (Or.inl linked))
  have result : h.station.queuePair.toReadyToSend = .ok
      { h.station.queuePair with state := .readyToSend, intake := some (.header []) } := by
    simp only [QueuePair.toReadyToSend, QueuePair.startReceiving, QueuePair.expect, linked, hl]
    rfl
  have now : (peers side).station = { h.station with queuePair :=
      { h.station.queuePair with state := .readyToSend, intake := some (.header []) } } := by
    rw [started]
    simp only [History.step, Station.after, result]
    rfl
  refine ⟨steady, ?_, ?_, ?_, ?_, ?_, taken, described⟩
  · rw [now]
  · rw [now]
  · rw [now]; exact sends
  · rw [now]; exact held
  · rw [now]; exact quiet

end RdmaLink
