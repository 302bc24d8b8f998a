import RdmaLink.Proofs.QueuePair.Flushing

/-!
# What a post leaves behind

A post that is refused leaves the queue pair as it is, as long as every registration is of a region
that is there.  A send that is taken on gets the next sequence number, whatever the link makes of
its frame (`Station.TakesSend`); a receive that is taken on waits in a place of its own, or takes
the write that has been held longest (`Station.TakesReceive`).

    s.postSend registrations send = (.error e, t) → t = s                (Station.postSend_eq_error)
    s.postSend registrations send = (.ok (), t) → TakesSend s pending frame t
                                                                         (Station.takes_postSend)
    s.postReceive request = (.ok (), t) → TakesReceive s request t       (Station.takes_postReceive)
-/

namespace RdmaLink

/-- An address that a registration covers is at an offset inside it. -/
theorem Registration.room_of_offsetOf? {registration : Registration} {address : UInt64}
    {length offset : Nat} (h : registration.offsetOf? address length = some offset) :
    offset + length ≤ registration.length := by
  unfold offsetOf? at h
  split at h
  · simp only at h
    split at h
    · next inside =>
      cases h
      exact inside
    · cases h
  · cases h

/-- A range that a key stands for is inside a region. -/
theorem Registrations.Describes.local_room {table : Registrations} {memory : Memory}
    (describes : table.Describes memory) {key : UInt32} {registration : Registration}
    {address : UInt64} {length offset : Nat} (known : table.byLocalKey? key = some registration)
    (place : registration.offsetOf? address length = some offset) :
    ∃ region, memory.region? registration.region = some region ∧ offset + length ≤ region.size := by
  obtain ⟨region, present, -, size⟩ := describes registration (List.mem_of_find?_eq_some known)
  exact ⟨region, present, size ▸ Registration.room_of_offsetOf? place⟩

namespace Station

variable {s t : Station}

/-! ## Frames of sends -/

/-- The frame of a send can be made of a range that a registration covers. -/
theorem sendFrame_of_described {registrations : Registrations}
    (describes : registrations.Describes s.memory) {send : SendRequest}
    {registration : Registration} {offset : Nat}
    (known : registrations.byLocalKey? send.localKey = some registration)
    (place : registration.offsetOf? send.localAddress send.length.toNat = some offset) :
    ∃ frame pending, s.sendFrame send registration.region offset = .ok (frame, pending) := by
  obtain ⟨region, present, room⟩ := describes.local_room known place
  have readable := Memory.read_of_room present room
  unfold sendFrame
  dsimp only
  split
  · exact ⟨_, _, rfl⟩
  · rw [readable]
    exact ⟨_, _, rfl⟩

/-- The frame of a send carries the number that the send gets. -/
theorem sequence_sendFrame {send : SendRequest} {region : RegionId} {offset : Nat} {frame : Frame}
    {pending : PendingSend} (h : s.sendFrame send region offset = .ok (frame, pending)) :
    frame.header.sequence = UInt64.ofNat s.queuePair.nextSequence := by
  unfold sendFrame at h
  dsimp only at h
  split at h
  · cases h
    rfl
  · cases readable : s.memory.read region offset send.length.toNat with
    | error e => rw [readable] at h; cases h
    | ok payload => rw [readable] at h; cases h; rfl

theorem prepare_eq_error {registrations : Registrations}
    (describes : registrations.Describes s.memory) {send : SendRequest} {e : DeviceError}
    (refused : s.prepare registrations send = (.error e, t)) : t = s := by
  unfold prepare Registrations.localRange at refused
  cases known : registrations.byLocalKey? send.localKey with
  | none =>
    simp only [known] at refused
    cases refused
    rfl
  | some registration =>
    cases place : registration.offsetOf? send.localAddress send.length.toNat with
    | none =>
      simp only [known, place] at refused
      cases refused
      rfl
    | some offset =>
      -- The number is already taken here, but the frame of a registered range can be made.
      obtain ⟨frame, pending, framed⟩ := sendFrame_of_described describes known place
      simp only [known, place, framed] at refused
      cases refused

/-- A send that is refused leaves no trace: its number is given out only after every check. -/
theorem postSend_eq_error {registrations : Registrations}
    (describes : registrations.Describes s.memory) {send : SendRequest} {e : DeviceError}
    (refused : s.postSend registrations send = (.error e, t)) : t = s := by
  rw [postSend_eq] at refused
  split at refused
  · cases refused
    rfl
  · split at refused
    · cases refused
      rfl
    · split at refused
      · next unprepared =>
        cases refused
        exact prepare_eq_error describes unprepared
      · cases refused

theorem postReceive_eq_error {request : UInt64} {e : DeviceError}
    (refused : s.postReceive request = (.error e, t)) : t = s := by
  rcases s.postReceive_cases request with ⟨_, h⟩ | ⟨-, -, -, h⟩ | ⟨_, _, -, -, -, h⟩
  · rw [h] at refused
    cases refused
    rfl
  · rw [h] at refused
    cases refused
  · rw [h] at refused
    cases refused

/-! ## What the link makes of a frame -/

theorem messages_eq_sent (s : Station) : s.messages = s.sent.getD [] := by
  unfold messages sent
  cases s.queuePair.link <;> rfl

theorem messages_of_sent (same : t.sent = s.sent) : t.messages = s.messages := by
  rw [messages_eq_sent, messages_eq_sent, same]

/-- A message is written, or nothing is. -/
theorem messages_transmit (s : Station) (header : Header) (payload : Bytes) :
    (∃ t, s.transmit header payload = (.ok (), t) ∧
      t.messages = s.messages ++ [header.toBytes ++ payload]) ∨
    ∃ e t, s.transmit header payload = (.error e, t) ∧ t.messages = s.messages := by
  rcases s.transmit_cases header payload with ⟨stream, hl, h⟩ | ⟨e, stream, part, hl, h⟩ |
    ⟨e, hl, h⟩
  · exact Or.inl ⟨_, h, by simp [messages, withLink, hl]⟩
  · exact Or.inr ⟨e, _, h, by simp [messages, withLink, hl]⟩
  · exact Or.inr ⟨e, s, h, rfl⟩

theorem messages_fail (s : Station) : s.fail.messages = s.messages := by
  unfold messages
  rw [link_fail]

theorem messages_sendLost (s : Station) (sequence : Nat) :
    (s.sendLost sequence).messages = s.messages := by
  rw [sendLost_eq, messages_of_sent (sent_shutLink _), messages_fail]
  split <;> rfl

/-! ## Posts that are taken on -/

/-- A send is taken on under the next number: its frame is written and the send waits, or the link
refuses the frame and the send is completed as lost, before all others are flushed. -/
structure TakesSend (s : Station) (pending : PendingSend) (frame : Frame) (t : Station) :
    Prop where
  fresh : ∀ entry ∈ s.queuePair.work.outstanding, entry.1 < s.queuePair.nextSequence
  sequence : frame.header.sequence = UInt64.ofNat s.queuePair.nextSequence
  numbering : t.queuePair.nextSequence = s.queuePair.nextSequence + 1
  memory : t.memory = s.memory
  outcome :
    (t.queuePair.work = { s.queuePair.work with
        outstanding := s.queuePair.work.outstanding ++ [(s.queuePair.nextSequence, pending)] } ∧
      t.completions = s.completions ∧ t.queuePair.state = s.queuePair.state ∧
      t.messages = s.messages ++ [frame.toBytes]) ∨
    (Flushes s [s.report pending.request pending.operation .linkLost 0 none] s.queuePair.work t ∧
      t.queuePair.state = .error ∧ t.messages = s.messages)

/-- A receive is taken on: it waits behind the others while no write is held; or it takes the held
write that came first and is completed by it, and the acknowledgement of that write is written, or
the link refuses it and everything else is flushed. -/
structure TakesReceive (s : Station) (request : UInt64) (t : Station) : Prop where
  numbering : t.queuePair.nextSequence = s.queuePair.nextSequence
  memory : t.memory = s.memory
  outcome :
    (s.queuePair.work.held = [] ∧ t = s.withWork
      { s.queuePair.work with receives := s.queuePair.work.receives ++ [request] }) ∨
    ∃ held later, s.queuePair.work.held = held :: later ∧
      let met := s.report request .receiveWithImmediate .success held.length (some held.immediate)
      (t.queuePair.work = { s.queuePair.work with held := later } ∧
        t.completions = s.completions.push met ∧ t.queuePair.state = s.queuePair.state ∧
        t.messages = s.messages ++
          [(Header.acknowledgement held.sequence Status.success.code).toBytes]) ∨
      (Flushes s [met] { s.queuePair.work with held := later } t ∧
        t.queuePair.state = .error ∧ t.messages = s.messages)

/-! ### Numbers -/

theorem nextSequence_fail (s : Station) :
    s.fail.queuePair.nextSequence = s.queuePair.nextSequence := by
  unfold fail
  split <;> rfl

theorem nextSequence_transmit (s : Station) (header : Header) (payload : Bytes) :
    (s.transmit header payload).2.queuePair.nextSequence = s.queuePair.nextSequence := by
  rcases s.transmit_cases header payload with ⟨_, -, h⟩ | ⟨_, _, _, -, h⟩ | ⟨_, -, h⟩
  all_goals rw [h] <;> rfl

theorem nextSequence_sendLost (s : Station) (sequence : Nat) :
    (s.sendLost sequence).queuePair.nextSequence = s.queuePair.nextSequence := by
  rw [sendLost_eq]
  show (fail _).queuePair.nextSequence = _
  rw [nextSequence_fail]
  split <;> rfl

theorem nextSequence_launch (s : Station) (frame : Frame) (sequence : Nat) :
    (s.launch frame sequence).queuePair.nextSequence = s.queuePair.nextSequence := by
  have tried := s.nextSequence_transmit frame.header frame.payload
  unfold launch
  split
  · next h => rw [h] at tried; exact tried
  · next h => rw [h] at tried; rw [nextSequence_sendLost]; exact tried

theorem nextSequence_confirm (s : Station) (sequence : UInt64) :
    (s.confirm sequence).queuePair.nextSequence = s.queuePair.nextSequence := by
  have tried := s.nextSequence_transmit (Header.acknowledgement sequence Status.success.code) []
  unfold confirm
  split
  · next h => rw [h] at tried; exact tried
  · next h => rw [h] at tried; rw [nextSequence_fail]; exact tried

/-! ### Sends -/

/-- The frame of a send that has just been taken on goes to the link, or the send is lost. -/
theorem takes_launch {pending : PendingSend} {frame : Frame}
    (ready : s.queuePair.state = .readyToSend)
    (numbered : s.queuePair.work.Numbered s.queuePair.nextSequence)
    (sequence : frame.header.sequence = UInt64.ofNat s.queuePair.nextSequence) :
    TakesSend s pending frame ((s.withPosted pending).launch frame s.queuePair.nextSequence) := by
  refine ⟨numbered.below, sequence, nextSequence_launch _ _ _, by rw [memory_launch]; rfl, ?_⟩
  rcases (s.withPosted pending).messages_transmit frame.header frame.payload with
    ⟨sent, h, written⟩ | ⟨e, refused, h, unwritten⟩
  · obtain ⟨alike, -⟩ := alike_of_transmit h
    refine Or.inl ?_
    unfold launch
    rw [h]
    exact ⟨alike.work, alike.completions, alike.state, written⟩
  · obtain ⟨alike, address⟩ := alike_of_transmit h
    have alive : refused.queuePair.state ≠ .error := by
      rw [alike.state, show (s.withPosted pending).queuePair.state = _ from ready]
      exact nofun
    have found : refused.queuePair.work.send? s.queuePair.nextSequence = some pending := by
      rw [alike.work]
      exact numbered.send?_posted pending
    have rest : refused.queuePair.work.withoutSend s.queuePair.nextSequence =
        s.queuePair.work := by
      rw [alike.work]
      exact numbered.withoutSend_posted pending
    have report : refused.report pending.request pending.operation .linkLost 0 none =
        s.report pending.request pending.operation .linkLost 0 none := by
      simp only [Station.report, address]
      rfl
    have flushed := flushes_sendLost alive found
    rw [rest, report] at flushed
    refine Or.inr ?_
    unfold launch
    rw [h]
    exact ⟨Flushes.after [] flushed address alike.completions, state_fail _,
      (messages_sendLost _ _).trans unwritten⟩

/-- A send that is not refused is taken on. -/
theorem takes_postSend {registrations : Registrations} {send : SendRequest}
    (numbered : s.queuePair.work.Numbered s.queuePair.nextSequence)
    (taken : s.postSend registrations send = (.ok (), t)) :
    ∃ pending frame, pending.request = send.request ∧
      pending.operation = send.operation.operation ∧ TakesSend s pending frame t := by
  rcases s.postSend_cases registrations send with ⟨e, h⟩ | ⟨e, h⟩ |
    ⟨registration, offset, frame, pending, ready, -, -, -, framed, h⟩
  · rw [h] at taken
    cases taken
  · rw [h] at taken
    cases taken
  · rw [h] at taken
    cases taken
    obtain ⟨request, operation, -⟩ := sendFrame_pending framed
    exact ⟨pending, frame, request, operation,
      takes_launch ready numbered (sequence_sendFrame framed)⟩

/-! ### Receives -/

/-- An acknowledgement is written, or the link refuses it and the queue pair fails. -/
theorem confirm_cases (alive : s.queuePair.state ≠ .error) (sequence : UInt64) :
    ((s.confirm sequence).queuePair.work = s.queuePair.work ∧
      (s.confirm sequence).completions = s.completions ∧
      (s.confirm sequence).queuePair.state = s.queuePair.state ∧
      (s.confirm sequence).messages =
        s.messages ++ [(Header.acknowledgement sequence Status.success.code).toBytes]) ∨
    (Flushes s [] s.queuePair.work (s.confirm sequence) ∧
      (s.confirm sequence).queuePair.state = .error ∧
      (s.confirm sequence).messages = s.messages) := by
  rcases s.messages_transmit (Header.acknowledgement sequence Status.success.code) [] with
    ⟨sent, h, written⟩ | ⟨e, refused, h, unwritten⟩
  · have confirmed : s.confirm sequence = sent := by unfold confirm; rw [h]
    obtain ⟨alike, -⟩ := alike_of_transmit h
    rw [List.append_nil] at written
    rw [confirmed]
    exact Or.inl ⟨alike.work, alike.completions, alike.state, written⟩
  · have confirmed : s.confirm sequence = refused.fail := by unfold confirm; rw [h]
    have failed : (s.confirm sequence).queuePair.state = .error := by
      rw [confirmed]
      exact state_fail refused
    refine Or.inr ⟨flushes_confirm alive failed, failed, ?_⟩
    rw [confirmed]
    exact (messages_fail refused).trans unwritten

/-- A receive that is not refused is taken on. -/
theorem takes_postReceive {request : UInt64} (taken : s.postReceive request = (.ok (), t)) :
    TakesReceive s request t := by
  rcases s.postReceive_cases request with ⟨e, h⟩ | ⟨-, -, nobody, h⟩ |
    ⟨held, later, alive, -, waiting, h⟩
  · rw [h] at taken
    cases taken
  · rw [h] at taken
    cases taken
    exact ⟨rfl, rfl, Or.inl ⟨nobody, rfl⟩⟩
  · rw [h] at taken
    cases taken
    refine ⟨nextSequence_confirm _ _, memory_confirm _ _, Or.inr ⟨held, later, waiting, ?_⟩⟩
    rcases confirm_cases (s := (s.withWork { s.queuePair.work with held := later }).complete
        request .receiveWithImmediate .success held.length (some held.immediate)) alive
        held.sequence with written | ⟨flushed, failed, unwritten⟩
    · exact Or.inl written
    · exact Or.inr ⟨flushed.after [_] rfl rfl, failed, unwritten⟩

end Station

end RdmaLink
