import RdmaLink.Proofs.QueuePair.Moves
import RdmaLink.QueuePair.Linking

/-!
# Histories of a queue pair

A history runs a queue pair from its creation through any sequence of events: the calls that set
it up, posts, bytes that its peer sends, the end of the stream, polls of its completion queue, and
whatever else the process does to its memory.  Which sends fail is up to the stream that becomes
the link.  Every event carries what it depends on, so nothing is assumed of their order.

Beside the queue pair a history keeps what its owner and its peer have seen: the requests that
were taken on, the completions that were taken out of the queue, and the bytes that the receive
path took off the stream.

    s.settle r = (bytes.map (.receive r) ++ [.endOfStream]).foldl Station.after emptied
                                                          (Station.settle_eq_foldl)
-/

namespace RdmaLink

/-- Something that happens to a queue pair. -/
inductive QueuePairEvent where
  | toInit (access : Access)
  | attach (stream : Stream)
  | link (peer : QueuePairAddress) (ip : IpAddress) (conditions : LinkConditions)
  | start
  | postSend (registrations : Registrations) (send : SendRequest)
  | postReceive (request : UInt64)
  /-- The receive path takes the next byte off the stream. -/
  | receive (registrations : Registrations) (byte : UInt8)
  | endOfStream
  | poll (most : Nat)
  /-- Something else in the process changes the memory. -/
  | remember (memory : Memory)

/-- A queue pair with what has become of it so far. -/
structure History where
  station : Station
  /-- The requests that were taken on, oldest first. -/
  accepted : List Request
  /-- The completions taken out of the queue, oldest first. -/
  taken : List Completion
  /-- The bytes taken off the stream. -/
  received : Bytes

namespace Station

/-- A station with a fresh queue pair and a completion queue of its own. -/
def fresh (address : QueuePairAddress) (linkTimeout : Milliseconds) (depth : Nat)
    (memory : Memory) : Station :=
  ⟨QueuePair.fresh address linkTimeout, CompletionQueue.ofDepth depth, memory⟩

/-- The station after a call that changes the queue pair, or leaves it as it is if it fails. -/
def advance (station : Station) (result : Except DeviceError QueuePair) : Station :=
  match result with
  | .ok queuePair => { station with queuePair := queuePair }
  | .error _ => station

/-- The station after an event. -/
def after (station : Station) : QueuePairEvent → Station
  | .toInit access => station.advance (station.queuePair.toInit access)
  | .attach stream => station.advance (station.queuePair.attach stream)
  | .link peer ip conditions =>
    { station with
      queuePair := (station.queuePair.toReadyToReceive peer ip conditions).queuePair }
  | .start => station.advance station.queuePair.toReadyToSend
  | .postSend registrations send => (station.postSend registrations send).2
  | .postReceive request => (station.postReceive request).2
  | .receive registrations byte => station.feed registrations byte
  | .endOfStream => station.endOfStream
  | .poll most => { station with completions := (station.completions.poll most).2 }
  | .remember memory => { station with memory := memory }

/-- Handling all that has arrived is one event for each byte, and one for the end. -/
theorem settle_eq_foldl (registrations : Registrations) {station : Station} {stream : Stream}
    (receiving : station.queuePair.intake.isSome) (hl : station.queuePair.link = some stream) :
    station.settle registrations =
      (stream.waiting.map (QueuePairEvent.receive registrations) ++
        (if stream.ended then [QueuePairEvent.endOfStream] else [])).foldl after
          (station.withLink (some { stream with waiting := [] })) := by
  obtain ⟨intake, hi⟩ := Option.isSome_iff_exists.mp receiving
  unfold settle
  split
  · next stream' _ hl' =>
    cases hl'.symm.trans hl
    rw [List.foldl_append, List.foldl_map]
    by_cases he : stream.ended = true
    · simp only [he, if_true]; rfl
    · simp only [he]; rfl
  · next h => exact absurd hl (h intake stream hi)

end Station

/-! ## Setting up -/

namespace QueuePair

/-- What a call that sets a queue pair up does: it leaves what was posted as it is, and the queue
pair is linked exactly when it becomes ready to receive. -/
structure SetUp (a b : QueuePair) : Prop where
  work : b.work = a.work
  numbering : b.nextSequence = a.nextSequence
  intake : b.intake = a.intake ∨
    (a.state = .readyToReceive ∧ b.state = .readyToSend ∧ b.intake = some (.header []))
  alive : a.state ≠ .error
  young : a.state ≠ .readyToSend
  link : ((a.state = .reset ∨ a.state = .init) ∧ b.link = a.link ∧
      b.state ≠ .readyToReceive ∧ b.state ≠ .readyToSend) ∨
    (b.link.isSome = true ∧ (b.state = .readyToReceive ∨ b.state = .readyToSend))

theorem setUp_toInit {queuePair result : QueuePair} {access : Access}
    (h : queuePair.toInit access = .ok result) : SetUp queuePair result := by
  obtain ⟨early, rfl⟩ := toInit_eq_ok h
  exact ⟨rfl, rfl, Or.inl rfl, by rw [early]; decide, by rw [early]; decide,
    Or.inl ⟨Or.inl early, rfl, nofun, nofun⟩⟩

theorem setUp_attach {queuePair result : QueuePair} {stream : Stream}
    (h : queuePair.attach stream = .ok result) : SetUp queuePair result := by
  obtain ⟨early, rfl⟩ := attach_eq_ok h
  have unlike (state : QueuePairState) (other : state ≠ .reset ∧ state ≠ .init) :
      queuePair.state ≠ state := by
    rintro rfl
    exact early.elim other.1 other.2
  exact ⟨rfl, rfl, Or.inl rfl, unlike _ (by decide), unlike _ (by decide),
    Or.inl ⟨early, rfl, unlike _ (by decide), unlike _ (by decide)⟩⟩

/-- An attempt to link that is made and returns sets the queue pair up. -/
theorem setUp_toReadyToReceive (queuePair : QueuePair) (peer : QueuePairAddress) (ip : IpAddress)
    (conditions : LinkConditions) :
    (queuePair.toReadyToReceive peer ip conditions).queuePair = queuePair ∨
      SetUp queuePair (queuePair.toReadyToReceive peer ip conditions).queuePair := by
  rcases queuePair.toReadyToReceive_cases peer ip conditions with ⟨e, -, h⟩ | ⟨early, attempt⟩
  · exact Or.inl (by rw [h])
  · have alive : queuePair.state ≠ .error := by rw [early]; decide
    have young : queuePair.state ≠ .readyToSend := by rw [early]; decide
    refine Or.inr ?_
    rcases attempt with ⟨e, tried, h⟩ | ⟨link, h⟩
    · rw [h]
      exact ⟨rfl, rfl, Or.inl rfl, alive, young, Or.inl ⟨Or.inr early, rfl, nofun, nofun⟩⟩
    · rw [h]
      exact ⟨rfl, rfl, Or.inl rfl, alive, young, Or.inr ⟨rfl, Or.inl rfl⟩⟩

theorem setUp_toReadyToSend {queuePair result : QueuePair}
    (h : queuePair.toReadyToSend = .ok result) : SetUp queuePair result := by
  obtain ⟨late, linked, rfl⟩ := toReadyToSend_eq_ok h
  exact ⟨rfl, rfl, Or.inr ⟨late, rfl, rfl⟩, by rw [late]; decide, by rw [late]; decide,
    Or.inr ⟨linked, Or.inr rfl⟩⟩

end QueuePair

namespace Station

/-- A queue pair has a link from when it is ready to receive. -/
structure Linked (s : Station) : Prop where
  early : s.queuePair.state = .reset ∨ s.queuePair.state = .init → s.queuePair.link = none
  late : s.queuePair.state = .readyToReceive ∨ s.queuePair.state = .readyToSend →
    s.queuePair.link.isSome = true

theorem Linked.of_setUp {s : Station} {queuePair : QueuePair} (h : s.Linked)
    (set : s.queuePair.SetUp queuePair) : Linked { s with queuePair := queuePair } := by
  rcases set.link with ⟨hs, hl, h1, h2⟩ | ⟨hl, hs⟩
  · refine ⟨fun _ => hl.trans (h.early hs), ?_⟩
    rintro (hr | hr)
    · exact absurd hr h1
    · exact absurd hr h2
  · refine ⟨?_, fun _ => hl⟩
    simp only
    rintro (hr | hr) <;> rcases hs with hs | hs <;> rw [hs] at hr <;> cases hr

theorem Linked.of_moves {s t : Station} {a : List Request} (h : s.Linked) (m : Moves s a t) :
    t.Linked := by
  obtain ⟨hs, hl⟩ := m.state
  refine ⟨?_, ?_⟩
  · intro ht
    rcases hs with hs | hs
    · have := h.early (hs ▸ ht)
      rw [this] at hl
      exact Option.not_isSome_iff_eq_none.mp (by rw [hl]; simp)
    · rw [hs] at ht
      rcases ht with ht | ht <;> cases ht
  · intro ht
    rcases hs with hs | hs
    · rw [hl]; exact h.late (hs ▸ ht)
    · rw [hs] at ht
      rcases ht with ht | ht <;> cases ht

end Station

namespace History

def fresh (address : QueuePairAddress) (linkTimeout : Milliseconds) (depth : Nat)
    (memory : Memory) : History :=
  ⟨Station.fresh address linkTimeout depth memory, [], [], []⟩

/-- The requests that an event takes on. -/
def accepts (station : Station) : QueuePairEvent → List Request
  | .postSend registrations send => Request.ofSend (station.postSend registrations send).1 send
  | .postReceive request => Request.ofReceive (station.postReceive request).1 request
  | _ => []

/-- The completions that an event takes out of the queue. -/
def takes (station : Station) : QueuePairEvent → List Completion
  | .poll most => (station.completions.poll most).1
  | _ => []

/-- The bytes that an event takes off the stream. -/
def reads (station : Station) : QueuePairEvent → Bytes
  | .receive _ byte => if station.queuePair.intake.isSome then [byte] else []
  | _ => []

def step (history : History) (event : QueuePairEvent) : History :=
  { station := history.station.after event
    accepted := history.accepted ++ accepts history.station event
    taken := history.taken ++ takes history.station event
    received := history.received ++ reads history.station event }

def run (history : History) (events : List QueuePairEvent) : History := events.foldl step history

/-- Every completion that the queue took, oldest first. -/
def log (history : History) : List Completion :=
  history.taken ++ history.station.completions.toList

/-- An event is a call that sets the queue pair up, a poll, or moves. -/
theorem after_cases (s : Station) (event : QueuePairEvent) :
    (∃ queuePair, s.queuePair.SetUp queuePair ∧ s.after event = { s with queuePair := queuePair } ∧
      accepts s event = [] ∧ takes s event = []) ∨
    (∃ most, event = .poll most) ∨
    (Station.Moves s (accepts s event) (s.after event) ∧ takes s event = []) := by
  cases event with
  | toInit access =>
    simp only [Station.after]
    cases h : s.queuePair.toInit access with
    | ok result => exact Or.inl ⟨result, QueuePair.setUp_toInit h, rfl, rfl, rfl⟩
    | error e => exact Or.inr (Or.inr ⟨.refl s, rfl⟩)
  | attach stream =>
    simp only [Station.after]
    cases h : s.queuePair.attach stream with
    | ok result => exact Or.inl ⟨result, QueuePair.setUp_attach h, rfl, rfl, rfl⟩
    | error e => exact Or.inr (Or.inr ⟨.refl s, rfl⟩)
  | link peer ip conditions =>
    rcases s.queuePair.setUp_toReadyToReceive peer ip conditions with h | h
    · refine Or.inr (Or.inr ⟨?_, rfl⟩)
      simp only [Station.after, h]
      exact .refl s
    · exact Or.inl ⟨_, h, rfl, rfl, rfl⟩
  | start =>
    simp only [Station.after]
    cases h : s.queuePair.toReadyToSend with
    | ok result => exact Or.inl ⟨result, QueuePair.setUp_toReadyToSend h, rfl, rfl, rfl⟩
    | error e => exact Or.inr (Or.inr ⟨.refl s, rfl⟩)
  | postSend registrations send =>
    exact Or.inr (Or.inr ⟨Station.moves_postSend registrations s send, rfl⟩)
  | postReceive request => exact Or.inr (Or.inr ⟨Station.moves_postReceive s request, rfl⟩)
  | receive registrations byte =>
    exact Or.inr (Or.inr ⟨Station.moves_feed registrations s byte, rfl⟩)
  | endOfStream => exact Or.inr (Or.inr ⟨Station.moves_endOfStream s, rfl⟩)
  | poll most => exact Or.inr (Or.inl ⟨most, rfl⟩)
  | remember memory => exact Or.inr (Or.inr ⟨Station.moves_withMemory s memory, rfl⟩)

theorem ages_after (s : Station) (event : QueuePairEvent) : Station.Ages s (s.after event) := by
  rcases after_cases s event with ⟨queuePair, set, heq, -, -⟩ | ⟨most, rfl⟩ | ⟨m, -⟩
  · rw [heq]
    refine ⟨Nat.le_of_eq set.numbering.symm, fun number send _ ht => ?_⟩
    rwa [show ({ s with queuePair := queuePair } : Station).queuePair.work =
      s.queuePair.work from set.work] at ht
  · exact ⟨Nat.le_refl _, fun _ _ _ ht => ht⟩
  · exact m.ages

/-- A link is never lost, only shut down. -/
theorem link_after {s : Station} (event : QueuePairEvent) (h : s.queuePair.link.isSome = true) :
    (s.after event).queuePair.link.isSome = true := by
  rcases after_cases s event with ⟨queuePair, set, heq, -, -⟩ | ⟨most, rfl⟩ | ⟨m, -⟩
  · rw [heq]
    rcases set.link with ⟨-, hl, -, -⟩ | ⟨hl, -⟩
    · simp only [hl, h]
    · exact hl
  · exact h
  · rw [m.state.2]; exact h

/-- A failure is final. -/
theorem failed_after {s : Station} (event : QueuePairEvent) (failed : s.queuePair.state = .error) :
    (s.after event).queuePair.state = .error := by
  rcases after_cases s event with ⟨queuePair, set, -, -, -⟩ | ⟨most, rfl⟩ | ⟨m, -⟩
  · exact absurd failed set.alive
  · exact failed
  · rcases m.state.1 with same | ended
    · exact same.trans failed
    · exact ended

theorem run_append (history : History) (a b : List QueuePairEvent) :
    history.run (a ++ b) = (history.run a).run b := List.foldl_append

theorem run_concat (history : History) (events : List QueuePairEvent) (event : QueuePairEvent) :
    history.run (events ++ [event]) = (history.run events).step event := by
  rw [run_append]; rfl

/-- What holds of a fresh queue pair and is kept by every event holds of every history. -/
theorem run_induction {P : History → Prop} {history : History} (base : P history)
    (keep : ∀ h event, P h → P (h.step event)) (events : List QueuePairEvent) :
    P (history.run events) := by
  induction events generalizing history with
  | nil => exact base
  | cons event rest ih => exact ih (keep history event base)

end History

end RdmaLink
