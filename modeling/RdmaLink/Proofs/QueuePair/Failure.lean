import RdmaLink.Proofs.Endpoint.Holdings
import RdmaLink.Proofs.QueuePair.Alignment

/-!
# What a frame and a post do to a failing queue pair

The states come in one order, and a queue pair may fail in each of them.  Calls that its state does
not accept are refused and change nothing.  What a frame, the end of the stream or a posted send
leaves of the link when it fails the queue pair is said here, for an event that nothing interrupts;
what the two threads make of it comes after it.

    a frame fails s → nothing is received any more                    (Station.Reacts.stopped)
    the link of s is shut down → no frame is sent                      (Station.Reacts.hushed)
    a posted send fails s → its link is shut down              (Station.shut_of_failed_postSend)
-/

namespace RdmaLink

/-- The order of the states: one follows the other, and each may fail. -/
inductive QueuePairState.Leads : QueuePairState → QueuePairState → Prop
  | stay (state : QueuePairState) : Leads state state
  | fail (state : QueuePairState) : Leads state .error
  | init : Leads .reset .init
  | link : Leads .init .readyToReceive
  | start : Leads .readyToReceive .readyToSend

theorem QueuePairState.Leads.final {a b : QueuePairState} (leads : a.Leads b)
    (failed : a = .error) : b = .error := by
  cases leads with
  | stay => exact failed
  | fail => rfl
  | _ => cases failed

/-- The states in which a call is accepted, and how a refusal puts them. -/
def QueuePairEvent.accepted? : QueuePairEvent → Option (List QueuePairState × String)
  | .toInit _ => some ([.reset], "RESET")
  | .attach _ => some ([.reset, .init], "RESET or INIT")
  | .link _ _ _ => some ([.init], "INIT")
  | .start => some ([.readyToReceive], "RTR")
  | .postSend _ _ => some ([.readyToSend], "RTS")
  | .postReceive _ => some ([.init, .readyToReceive, .readyToSend], "INIT, RTR or RTS")
  | _ => none

namespace Station

/-- What a call returns. -/
def returned (s : Station) : QueuePairEvent → Except DeviceError Unit
  | .toInit access => (s.queuePair.toInit access).map fun _ => ()
  | .attach stream => (s.queuePair.attach stream).map fun _ => ()
  | .link peer ip conditions => (s.queuePair.toReadyToReceive peer ip conditions).result
  | .start => s.queuePair.toReadyToSend.map fun _ => ()
  | .postSend registrations send => (s.postSend registrations send).1
  | .postReceive request => (s.postReceive request).1
  | _ => .ok ()

variable {s t : Station} {registrations : Registrations}

/-! ## Calls out of place -/

/-- A call that the state does not accept is refused, and changes nothing. -/
theorem refused_of_unaccepted {event : QueuePairEvent} {accepted : List QueuePairState}
    {expected : String} (call : event.accepted? = some (accepted, expected))
    (outside : s.queuePair.state ∉ accepted) :
    s.returned event =
        .error (.invalidState s.queuePair.address.number s.queuePair.state expected) ∧
      s.after event = s := by
  have refused : s.queuePair.expect accepted expected =
      .error (.invalidState s.queuePair.address.number s.queuePair.state expected) :=
    if_neg outside
  cases event with
  | toInit access =>
    cases call
    exact ⟨by simp only [returned, QueuePair.toInit, refused]; rfl,
      by simp only [after, QueuePair.toInit, refused]; rfl⟩
  | attach stream =>
    cases call
    exact ⟨by simp only [returned, QueuePair.attach, refused]; rfl,
      by simp only [after, QueuePair.attach, refused]; rfl⟩
  | link peer ip conditions =>
    cases call
    exact ⟨by simp only [returned, QueuePair.toReadyToReceive, refused],
      by simp only [after, QueuePair.toReadyToReceive, refused]⟩
  | start =>
    cases call
    exact ⟨by simp only [returned, QueuePair.toReadyToSend, QueuePair.startReceiving, refused]; rfl,
      by simp only [after, QueuePair.toReadyToSend, QueuePair.startReceiving, refused]; rfl⟩
  | postSend registrations send =>
    cases call
    exact ⟨by simp only [returned, postSend, refused],
      by simp only [after, postSend, refused]⟩
  | postReceive request =>
    cases call
    exact ⟨by simp only [returned, postReceive, refused],
      by simp only [after, postReceive, refused]⟩
  | _ => cases call

/-- No state that accepts a call is the error state. -/
theorem error_not_accepted {event : QueuePairEvent} {accepted : List QueuePairState}
    {expected : String} (call : event.accepted? = some (accepted, expected)) :
    QueuePairState.error ∉ accepted := by
  cases event <;> cases call <;> decide

/-! ## Nothing more is completed -/

/-- No posted request is left. -/
def Cleared (s : Station) : Prop :=
  s.queuePair.work.outstanding = [] ∧ s.queuePair.work.receives = []

theorem send?_of_cleared (cleared : s.Cleared) (sequence : Nat) :
    s.queuePair.work.send? sequence = none := by
  rw [Work.send?, cleared.1]
  rfl

/-- A move of a failed queue pair with nothing left to flush completes nothing. -/
theorem Cleared.move {requests : List Request} (cleared : s.Cleared)
    (failed : s.queuePair.state = .error) (move : Move s requests t) :
    t.Cleared ∧ t.completions = s.completions := by
  cases move with
  | quiet alike => exact ⟨by rw [Cleared, alike.work]; exact cleared, alike.completions⟩
  | finish status length posted =>
    rw [send?_of_cleared cleared] at posted
    cases posted
  | consume length immediate waiting =>
    rw [cleared.2] at waiting
    cases waiting
  | hold held nobody => exact ⟨cleared, rfl⟩
  | fail => rw [fail, if_pos failed]; exact ⟨cleared, rfl⟩
  | post pending ready =>
    rw [failed] at ready
    cases ready
  | await request alive => exact absurd failed alive
  | meet request alive => exact absurd failed alive

theorem Cleared.moves {requests : List Request} (cleared : s.Cleared)
    (failed : s.queuePair.state = .error) (moves : Moves s requests t) :
    t.queuePair.state = .error ∧ t.Cleared ∧ t.completions = s.completions := by
  induction moves with
  | refl => exact ⟨failed, cleared, rfl⟩
  | step _ last ih =>
    obtain ⟨failed, cleared, same⟩ := ih
    obtain ⟨cleared', same'⟩ := cleared.move failed last
    refine ⟨?_, cleared', same'.trans same⟩
    rcases last.state.1 with kept | ended
    · exact kept.trans failed
    · exact ended

/-! ## What a frame does to state and link -/

/-- The link, if there is one, is shut down. -/
def Shut (s : Station) : Prop :=
  ∀ stream, s.queuePair.link = some stream → stream.shut = true

/-- The messages written to the link. -/
def sent (s : Station) : Option (List Bytes) := s.queuePair.link.map Stream.sent

/-- What handling a frame does: a frame that fails the queue pair ends the receiving, and nothing
is written to a link that is shut down. -/
structure Reacts (s t : Station) : Prop where
  stopped : t.queuePair.state = s.queuePair.state ∨ t.queuePair.intake = none
  hushed : s.Shut → t.Shut ∧ t.sent = s.sent

/-- Work, memory and completions do not matter. -/
theorem Reacts.of_same {u : Station} (h : Reacts t u)
    (state : t.queuePair.state = s.queuePair.state) (link : t.queuePair.link = s.queuePair.link) :
    Reacts s u := by
  refine ⟨by rw [← state]; exact h.stopped, fun shut => ?_⟩
  have same : t.sent = s.sent := by rw [sent, link]; rfl
  rw [← same]
  exact h.hushed (by rw [Shut, link]; exact shut)

theorem Reacts.of_kept (state : t.queuePair.state = s.queuePair.state)
    (link : t.queuePair.link = s.queuePair.link) : Reacts s t :=
  Reacts.of_same (t := t) ⟨Or.inl rfl, fun shut => ⟨shut, rfl⟩⟩ state link

theorem shut_shutLink (s : Station) : s.shutLink.Shut := by
  intro stream h
  obtain ⟨before, -, rfl⟩ := Option.map_eq_some_iff.mp h
  rfl

theorem sent_shutLink (s : Station) : s.shutLink.sent = s.sent := by
  simp only [sent, shutLink, Option.map_map]
  rfl

theorem sent_breakOff (s : Station) : s.breakOff.sent = s.sent := by
  show s.fail.shutLink.sent = s.sent
  rw [sent_shutLink, sent, link_fail]
  rfl

theorem reacts_breakOff (s : Station) : Reacts s s.breakOff :=
  ⟨Or.inr rfl, fun _ => ⟨s.fail.shut_shutLink, s.sent_breakOff⟩⟩

/-- A link that is shut down takes nothing. -/
theorem Shut.transmit (shut : s.Shut) (header : Header) (payload : Bytes) :
    ∃ e tried, s.transmit header payload = (.error e, tried) ∧ tried.sent = s.sent := by
  unfold Station.transmit
  cases linked : s.queuePair.link with
  | none => exact ⟨_, s, rfl, rfl⟩
  | some stream =>
    simp only [Stream.send, shut stream linked, if_true]
    exact ⟨_, _, rfl, by simp only [sent, linked, Option.map_some, Stream.sent_cut]⟩

theorem reacts_respond (s : Station) (header : Header) (payload : Bytes) :
    Reacts s (s.respond header payload) := by
  unfold respond
  refine ⟨?_, fun shut => ?_⟩
  · have same := (s.alike_transmit header payload).state
    split
    · next h => rw [h] at same; exact Or.inl same
    · exact Or.inr rfl
  · obtain ⟨e, tried, refused, same⟩ := shut.transmit header payload
    rw [refused]
    exact ⟨tried.fail.shut_shutLink, tried.sent_breakOff.trans same⟩

theorem reacts_written (s : Station) (header : Header) : Reacts s (s.written header) := by
  unfold written
  split
  · exact reacts_respond _ _ _
  · dsimp only
    split
    · next request later _ =>
      exact (reacts_respond ((s.withWork { s.queuePair.work with receives := later }).complete
        request .receiveWithImmediate .success header.length (some header.immediate)) _ _).of_same
          rfl rfl
    · exact .of_kept rfl rfl

theorem reacts_readAnswered (s : Station) (header : Header) (payload : Option Bytes) :
    Reacts s (s.readAnswered header payload) := by
  unfold readAnswered
  dsimp only
  split
  · exact .of_kept rfl rfl
  · split
    · split
      · split <;> exact .of_kept rfl rfl
      · exact .of_kept rfl rfl
    · exact .of_kept rfl rfl

theorem reacts_handle (registrations : Registrations) (s : Station) (arrival : Arrival) :
    Reacts s (s.handle registrations arrival) := by
  unfold handle
  split
  · next disposal _ =>
    cases disposal with
    | store region offset =>
      simp only [takePayload]
      split
      · next memory _ => exact (reacts_written { s with memory := memory } _).of_same rfl rfl
      · exact reacts_respond _ _ _
    | refuse => exact reacts_respond _ _ _
    | answer => exact reacts_readAnswered _ _ _
    | unwanted => exact reacts_readAnswered _ _ _
  · unfold takeBare
    split
    · unfold answerRead
      dsimp only
      split <;> exact reacts_respond _ _ _
    · split
      · exact reacts_readAnswered _ _ _
      · split
        · unfold acknowledged
          dsimp only
          split <;> exact .of_kept rfl rfl
        · exact reacts_breakOff s

theorem reacts_feed (registrations : Registrations) (s : Station) (byte : UInt8) :
    Reacts s (s.feed registrations byte) := by
  cases harr : s.arrival? registrations byte with
  | none =>
    rw [feed_of_no_arrival harr]
    exact .of_kept rfl rfl
  | some arrival =>
    rw [feed_of_arrival harr]
    exact (reacts_handle registrations (s.withIntake (some (.header []))) arrival).of_same rfl rfl

theorem reacts_endOfStream (s : Station) : Reacts s s.endOfStream := by
  unfold endOfStream
  split
  · exact .of_kept rfl rfl
  · exact reacts_breakOff s

/-- A posted send that fails the queue pair leaves its link shut down. -/
theorem shut_of_failed_postSend {send : SendRequest} (alive : s.queuePair.state ≠ .error)
    (failed : (s.postSend registrations send).2.queuePair.state = .error) :
    (s.postSend registrations send).2.Shut := by
  rcases s.postSend_cases registrations send with ⟨e, h⟩ | ⟨e, h⟩ |
    ⟨_, _, frame, pending, -, -, -, -, -, h⟩
  · rw [h] at failed
    exact absurd failed alive
  · rw [h] at failed
    exact absurd failed alive
  · rw [h] at failed ⊢
    unfold launch at failed ⊢
    have same := ((s.withPosted pending).alike_transmit frame.header frame.payload).state
    split at failed
    · next h =>
      rw [h] at same
      exact absurd (same.symm.trans failed) alive
    · exact shut_shutLink _

end Station

end RdmaLink
