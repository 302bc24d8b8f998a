import RdmaLink.Proofs.QueuePair.Effects
import RdmaLink.Proofs.QueuePair.Reactions

/-!
# Requests and answers

Two queue pairs ask each other to write and to read, and each answers the other.  What the
exchange depends on is the `Face` of a station: what it has posted, what it holds back, what has
arrived of the next frame and what it has written to the link.

    a request is answered, or held back after it was applied, or the receiving stops
                                                                    (Station.answered_handle)
    an answer takes the send under its number away                  (Station.face_handle_answer)
    a post puts one frame on the wire, or the link is lost          (Station.face_launch)

A link that takes every message until it is shut down carries those frames and nothing between
them (`Station.Steady`).
-/

namespace RdmaLink

namespace Frame

/-- Whether a frame asks for something: a write or a read. -/
def isRequest (frame : Frame) : Bool :=
  frame.header.opcode == Opcode.write || frame.header.opcode == Opcode.writeWithImmediate ||
    frame.header.opcode == Opcode.readRequest

/-- Whether a frame answers a request. -/
def isAnswer (frame : Frame) : Bool :=
  frame.header.opcode == Opcode.readResponse || frame.header.opcode == Opcode.acknowledgement

theorem isRequest_iff {frame : Frame} : frame.isRequest = true ↔
    frame.header.opcode = Opcode.write ∨ frame.header.opcode = Opcode.writeWithImmediate ∨
      frame.header.opcode = Opcode.readRequest := by
  simp [isRequest, or_assoc]

theorem isAnswer_iff {frame : Frame} : frame.isAnswer = true ↔
    frame.header.opcode = Opcode.readResponse ∨
      frame.header.opcode = Opcode.acknowledgement := by
  simp [isAnswer]

theorem isAnswer_of_isRequest {frame : Frame} (h : frame.isRequest = true) :
    frame.isAnswer = false := by
  rcases isRequest_iff.mp h with h | h | h <;> rw [isAnswer, h] <;> decide

end Frame

/-- What became of a request. -/
inductive Outcome where
  /-- The payload of a write was stored. -/
  | applied (region : RegionId) (offset : Nat)
  /-- A write was not allowed. -/
  | refused
  /-- A read was answered with data. -/
  | served (region : RegionId) (offset : Nat) (data : Bytes)
  /-- A read was not allowed. -/
  | denied
deriving DecidableEq, Repr, Inhabited

namespace Outcome

def isApplied : Outcome → Bool
  | .applied _ _ => true
  | _ => false

/-- The frame that answers a request. -/
def answer (header : Header) : Outcome → Frame
  | .applied _ _ => ⟨Header.acknowledgement header.sequence Status.success.code, []⟩
  | .refused => ⟨Header.acknowledgement header.sequence Status.remoteAccess.code, []⟩
  | .served _ _ data =>
    ⟨Header.readResponse header.sequence Status.success.code header.length, data⟩
  | .denied => ⟨Header.readResponse header.sequence Status.remoteAccess.code 0, []⟩

@[simp] theorem sequence_answer (header : Header) (outcome : Outcome) :
    (outcome.answer header).header.sequence = header.sequence := by
  cases outcome <;> rfl

theorem isAnswer_answer (header : Header) (outcome : Outcome) :
    (outcome.answer header).isAnswer = true := by
  cases outcome <;> rfl

end Outcome

/-- What the exchange between two queue pairs depends on. -/
structure Face where
  state : QueuePairState
  nextSequence : Nat
  outstanding : List (Nat × PendingSend)
  held : List HeldImmediate
  intake : Option Intake
  /-- The bytes of the messages that the link has taken whole. -/
  wire : Bytes

/-- The face without the send of a sequence number. -/
def Face.withoutSend (f : Face) (sequence : Nat) : Face :=
  { f with outstanding := f.outstanding.filter fun entry => entry.1 != sequence }

/-- Nothing new is posted or held back, and receiving stops only with a failure. -/
structure Calm (f g : Face) : Prop where
  state : g.state = f.state ∨ g.state = .error
  numbering : f.nextSequence ≤ g.nextSequence
  outstanding : g.outstanding.Sublist f.outstanding
  held : g.held.Sublist f.held
  intake : g.intake = f.intake ∨ (g.intake = none ∧ g.state = .error)

theorem Calm.refl (f : Face) : Calm f f :=
  ⟨Or.inl rfl, Nat.le_refl _, List.Sublist.refl _, List.Sublist.refl _, Or.inl rfl⟩

theorem Calm.trans {f g h : Face} (a : Calm f g) (b : Calm g h) : Calm f h := by
  have fails : g.state = .error → h.state = .error := by
    intro hg
    rcases b.state with hs | hs
    · exact hs.trans hg
    · exact hs
  refine ⟨?_, Nat.le_trans a.numbering b.numbering, b.outstanding.trans a.outstanding,
    b.held.trans a.held, ?_⟩
  · rcases a.state with hs | hs
    · rw [← hs]; exact b.state
    · exact Or.inr (fails hs)
  · rcases b.intake with hi | hi
    · rcases a.intake with hi' | ⟨hi', hs⟩
      · exact Or.inl (hi.trans hi')
      · exact Or.inr ⟨hi.trans hi', fails hs⟩
    · exact Or.inr hi

/-- How a request was answered. -/
inductive Answered (f g : Face) (outcome : Outcome) (header : Header) : Prop
  | sent (calm : Calm f g) (going : g.intake = f.intake)
      (wire : g.wire = f.wire ++ (outcome.answer header).toBytes)
  /-- The link did not take the answer. -/
  | stopped (calm : Calm f g) (ended : g.intake = none) (wire : g.wire = f.wire)
  /-- The answer waits for a receive. -/
  | held (immediate : HeldImmediate) (applied : outcome.isApplied = true)
      (sequence : immediate.sequence = header.sequence)
      (face : g = { f with held := f.held ++ [immediate] })

/-- A stream that takes every message in full until it is shut down, and has done so. -/
structure Stream.Steady (stream : Stream) : Prop where
  willing : ∀ number, stream.refusals number = none
  whole : stream.wire = stream.sent.flatten

theorem Stream.Steady.send {stream : Stream} (steady : stream.Steady) (message : Bytes) :
    (stream.send message).2.Steady := by
  unfold Stream.send
  split
  · exact ⟨steady.willing, by rw [wire_cut, List.append_nil, sent_cut, steady.whole]⟩
  · rw [steady.willing]
    exact ⟨steady.willing, by rw [wire_wrote, sent_wrote, steady.whole]; simp⟩

namespace Station

/-- The bytes of the messages that the link has taken whole. -/
def wire (station : Station) : Bytes :=
  match station.queuePair.link with
  | some stream => stream.sent.flatten
  | none => []

/-- All bytes that have gone out on the link. -/
def outgoing (station : Station) : Bytes :=
  match station.queuePair.link with
  | some stream => stream.wire
  | none => []

def face (station : Station) : Face :=
  { state := station.queuePair.state
    nextSequence := station.queuePair.nextSequence
    outstanding := station.queuePair.work.outstanding
    held := station.queuePair.work.held
    intake := station.queuePair.intake
    wire := station.wire }

/-- What becomes of a request that has arrived in full. -/
def outcome (registrations : Registrations) (station : Station) (arrival : Arrival) : Outcome :=
  if arrival.header.opcode = Opcode.readRequest then
    match registrations.target? arrival.header.key arrival.header.address arrival.header.length
      ⟨false, false, true⟩ with
    | none => .denied
    | some (region, offset) =>
      match station.memory.read region offset arrival.header.length.toNat with
      | .ok data => .served region offset data
      | .error _ => .denied
  else
    match arrival.disposal with
    | some (.store region offset) =>
      match station.memory.write region offset arrival.payload with
      | .ok _ => .applied region offset
      | .error _ => .refused
    | _ => .refused

/-! ## Failing -/

theorem calm_fail (s : Station) : Calm s.face s.fail.face ∧ s.fail.face.intake = s.face.intake ∧
    s.fail.face.wire = s.face.wire := by
  unfold fail
  split
  · exact ⟨Calm.refl _, rfl, rfl⟩
  · exact ⟨⟨Or.inr rfl, Nat.le_refl _, List.nil_sublist _, List.nil_sublist _, Or.inl rfl⟩,
      rfl, rfl⟩

@[simp] theorem wire_shutLink (s : Station) : s.shutLink.wire = s.wire := by
  unfold wire shutLink
  cases s.queuePair.link <;> rfl

theorem state_fail (s : Station) : s.fail.queuePair.state = .error := by
  unfold fail
  split
  · assumption
  · rfl

theorem calm_breakOff (s : Station) : Calm s.face s.breakOff.face ∧
    s.breakOff.face.intake = none ∧ s.breakOff.face.wire = s.face.wire := by
  obtain ⟨⟨hs, hn, ho, hh, -⟩, -, hw⟩ := s.calm_fail
  refine ⟨⟨hs, hn, ho, hh, Or.inr ⟨rfl, s.state_fail⟩⟩, rfl, ?_⟩
  exact Eq.trans (wire_shutLink s.fail) hw

/-! ## The wire -/

/-- A frame goes to the wire, or the link does not take it. -/
theorem face_transmit (s : Station) (header : Header) (payload : Bytes) :
    (∃ t, s.transmit header payload = (.ok (), t) ∧
      t.face = { s.face with wire := s.face.wire ++ (header.toBytes ++ payload) }) ∨
    (∃ e t, s.transmit header payload = (.error e, t) ∧ t.face = s.face) := by
  have hface : s.face.wire = s.wire := rfl
  rcases s.transmit_cases header payload with ⟨stream, hl, h⟩ | ⟨e, stream, part, hl, h⟩ |
    ⟨e, hl, h⟩
  · refine Or.inl ⟨_, h, ?_⟩
    rw [hface]
    simp only [face, wire, withLink, hl, Stream.sent_wrote, List.flatten_append, List.flatten_cons,
      List.flatten_nil, List.append_nil]
  · refine Or.inr ⟨e, _, h, ?_⟩
    simp only [face, wire, withLink, hl, Stream.sent_cut]
  · exact Or.inr ⟨e, s, h, rfl⟩

/-- An answer goes to the wire, or the receiving stops. -/
theorem answered_respond (s : Station) (outcome : Outcome) (header : Header) :
    Answered s.face (s.respond (outcome.answer header).header
      (outcome.answer header).payload).face outcome header := by
  unfold respond
  rcases s.face_transmit (outcome.answer header).header (outcome.answer header).payload with
    ⟨t, h, hf⟩ | ⟨e, t, h, hf⟩
  · rw [h]
    refine .sent ?_ ?_ ?_
    · rw [hf]
      exact ⟨Or.inl rfl, Nat.le_refl _, List.Sublist.refl _, List.Sublist.refl _, Or.inl rfl⟩
    · rw [hf]
    · rw [hf]; rfl
  · rw [h]
    obtain ⟨calm, ended, wire⟩ := t.calm_breakOff
    rw [hf] at calm wire
    exact .stopped calm ended wire

theorem answered_acknowledge (s : Station) {outcome : Outcome} {header : Header} {status : Status}
    (h : outcome.answer header = ⟨Header.acknowledgement header.sequence status.code, []⟩) :
    Answered s.face (s.acknowledge header.sequence status).face outcome header := by
  have := s.answered_respond outcome header
  rw [h] at this
  exact this

/-- A write that was applied is acknowledged, or its acknowledgement is held back. -/
theorem answered_written (s : Station) (header : Header) (region : RegionId) (offset : Nat) :
    Answered s.face (s.written header).face (.applied region offset) header := by
  unfold written
  split
  · exact answered_acknowledge s rfl
  · simp only
    split
    · next request later _ =>
      exact answered_acknowledge ((s.withWork { s.queuePair.work with receives := later }).complete
        request .receiveWithImmediate .success header.length (some header.immediate)) rfl
    · exact .held ⟨header.sequence, header.immediate, header.length⟩ rfl rfl rfl

/-! ## Requests -/

/-- A read request has no payload, and a write has one that is stored or refused. -/
theorem disposal_of_isRequest {arrival : Arrival} (sound : arrival.Sound)
    (request : arrival.frame.isRequest = true) :
    (arrival.header.opcode = Opcode.readRequest ∧ arrival.disposal = none) ∨
      (arrival.header.opcode ≠ Opcode.readRequest ∧
        ((∃ region offset, arrival.disposal = some (.store region offset)) ∨
          arrival.disposal = some .refuse)) := by
  have bare (h : ¬ arrival.header.HasPayload) : arrival.disposal = none := by
    cases hd : arrival.disposal with
    | none => rfl
    | some disposal => exact absurd (sound.suits disposal hd).hasPayload h
  have loaded (h : arrival.header.HasPayload)
      (hw : arrival.header.opcode ≠ Opcode.readResponse) :
      (∃ region offset, arrival.disposal = some (.store region offset)) ∨
        arrival.disposal = some .refuse := by
    cases hd : arrival.disposal with
    | none => exact absurd h (sound.bare hd)
    | some disposal =>
      cases disposal with
      | store region offset => exact Or.inl ⟨region, offset, rfl⟩
      | refuse => exact Or.inr rfl
      | answer => exact absurd (sound.suits _ hd).1 hw
      | unwanted => exact absurd (sound.suits _ hd).1 hw
  have hop : arrival.header.opcode = Opcode.write ∨
      arrival.header.opcode = Opcode.writeWithImmediate ∨
      arrival.header.opcode = Opcode.readRequest := Frame.isRequest_iff.mp request
  rcases hop with h | h | h
  · exact Or.inr ⟨by rw [h]; decide, loaded (Or.inl h) (by rw [h]; decide)⟩
  · exact Or.inr ⟨by rw [h]; decide, loaded (Or.inr (Or.inl h)) (by rw [h]; decide)⟩
  · refine Or.inl ⟨h, bare ?_⟩
    unfold Header.HasPayload
    rw [h]
    rintro (hw | hw | ⟨hw, -⟩)
    · exact absurd hw (by decide)
    · exact absurd hw (by decide)
    · exact absurd hw (by decide)

/-- A request is answered with its outcome, or held back after it was applied, or the receiving
stops. -/
theorem answered_handle (registrations : Registrations) (s : Station) {arrival : Arrival}
    (sound : arrival.Sound) (request : arrival.frame.isRequest = true) :
    Answered s.face (s.handle registrations arrival).face (s.outcome registrations arrival)
      arrival.header := by
  rcases disposal_of_isRequest sound request with ⟨hop, hd⟩ | ⟨hop, ⟨region, offset, hd⟩ | hd⟩
  · unfold handle outcome
    simp only [hd, takeBare, hop, if_true, answerRead]
    cases ht : registrations.target? arrival.header.key arrival.header.address
      arrival.header.length ⟨false, false, true⟩ with
    | none => exact answered_respond s .denied arrival.header
    | some place =>
      obtain ⟨region, offset⟩ := place
      simp only [Option.bind_some]
      cases hm : s.memory.read region offset arrival.header.length.toNat with
      | ok data => exact answered_respond s (.served region offset data) arrival.header
      | error e => exact answered_respond s .denied arrival.header
  · unfold handle outcome
    simp only [hd, takePayload, if_neg hop]
    cases hm : s.memory.write region offset arrival.payload with
    | ok memory => exact answered_written { s with memory := memory } arrival.header region offset
    | error e => exact answered_acknowledge s rfl
  · unfold handle outcome
    simp only [hd, takePayload, if_neg hop]
    exact answered_acknowledge s rfl

/-! ## Answers -/

theorem filter_of_send?_none {work : Work} {sequence : Nat} (h : work.send? sequence = none) :
    work.outstanding.filter (fun entry => entry.1 != sequence) = work.outstanding := by
  refine List.filter_eq_self.mpr fun entry he => ?_
  have hne := List.lookup_eq_none_iff.mp h entry he
  rw [bne_iff_ne]
  intro heq
  rw [heq] at hne
  exact absurd hne (by simp)

theorem face_readAnswered (s : Station) (header : Header) (payload : Option Bytes) :
    (s.readAnswered header payload).face = s.face.withoutSend header.sequence.toNat := by
  unfold readAnswered
  simp only
  split
  · next hs => unfold Face.withoutSend; simp only [face, filter_of_send?_none hs]
  · split
    · split
      · split <;> rfl
      · rfl
    · rfl

theorem face_acknowledged (s : Station) (header : Header) :
    (s.acknowledged header).face = s.face.withoutSend header.sequence.toNat := by
  unfold acknowledged
  simp only
  split
  · next hs => unfold Face.withoutSend; simp only [face, filter_of_send?_none hs]
  · rfl

/-- An answer takes the send under its number away, and nothing else. -/
theorem face_handle_answer (registrations : Registrations) (s : Station) {arrival : Arrival}
    (sound : arrival.Sound) (answer : arrival.frame.isAnswer = true) :
    (s.handle registrations arrival).face =
      s.face.withoutSend arrival.header.sequence.toNat := by
  have hop : arrival.header.opcode = Opcode.readResponse ∨
      arrival.header.opcode = Opcode.acknowledgement := Frame.isAnswer_iff.mp answer
  cases hd : arrival.disposal with
  | some disposal =>
    have hsuits := sound.suits disposal hd
    simp only [handle, hd]
    cases disposal with
    | store region offset =>
      rcases hsuits with h | h <;> rw [h] at hop <;> rcases hop with hop | hop <;>
        exact absurd hop (by decide)
    | refuse =>
      rcases hsuits with h | h <;> rw [h] at hop <;> rcases hop with hop | hop <;>
        exact absurd hop (by decide)
    | answer => exact face_readAnswered _ _ _
    | unwanted => exact face_readAnswered _ _ _
  | none =>
    simp only [handle, hd, takeBare]
    have hread : ¬ Opcode.readResponse = Opcode.readRequest := by decide
    have hack : ¬ Opcode.acknowledgement = Opcode.readRequest := by decide
    have hack' : ¬ Opcode.acknowledgement = Opcode.readResponse := by decide
    rcases hop with hop | hop
    · rw [hop, if_neg hread, if_pos rfl]
      exact face_readAnswered _ _ _
    · rw [hop, if_neg hack, if_neg hack', if_pos rfl]
      exact face_acknowledged _ _

/-! ## Posts -/

/-- The frame of a post goes to the wire, or everything that was posted is flushed. -/
theorem face_launch (s : Station) (ready : s.queuePair.state = .readyToSend) (frame : Frame)
    (sequence : Nat) :
    (s.launch frame sequence).face =
        { s.face with wire := s.face.wire ++ frame.toBytes } ∨
      (s.launch frame sequence).face =
        { s.face with state := .error, outstanding := [], held := [] } := by
  unfold launch
  rcases s.face_transmit frame.header frame.payload with ⟨t, h, hf⟩ | ⟨e, t, h, hf⟩
  · rw [h]
    exact Or.inl hf
  · rw [h]
    refine Or.inr ?_
    have hstate : t.queuePair.state = .readyToSend := (congrArg Face.state hf).trans ready
    have failed (u : Station) (alive : u.queuePair.state = .readyToSend) (hu : u.wire = t.wire)
        (hn : u.queuePair.nextSequence = t.queuePair.nextSequence)
        (hi : u.queuePair.intake = t.queuePair.intake) :
        u.fail.shutLink.face = { t.face with state := .error, outstanding := [], held := [] } := by
      have hw : u.fail.shutLink.wire = t.wire := by
        rw [wire_shutLink]
        exact Eq.trans u.calm_fail.2.2 hu
      unfold face
      rw [hw]
      have hne : ¬ u.queuePair.state = .error := by rw [alive]; decide
      simp only [shutLink, fail, if_neg hne, marked, flush, hn, hi]
      rfl
    rw [← hf]
    simp only [sendLost_eq]
    split
    · exact failed _ hstate rfl rfl rfl
    · exact failed _ hstate rfl rfl rfl

/-- A held acknowledgement goes to the wire, or the queue pair fails. -/
theorem face_confirm (s : Station) (sequence : UInt64) :
    (s.confirm sequence).face =
        { s.face with
          wire := s.face.wire ++
            (Header.acknowledgement sequence Status.success.code).toBytes } ∨
      (Calm s.face (s.confirm sequence).face ∧
        (s.confirm sequence).face.intake = s.face.intake ∧
        (s.confirm sequence).face.wire = s.face.wire) := by
  unfold confirm
  rcases s.face_transmit (Header.acknowledgement sequence Status.success.code) [] with
    ⟨t, h, hf⟩ | ⟨e, t, h, hf⟩
  · rw [h]
    rw [List.append_nil] at hf
    exact Or.inl hf
  · rw [h]
    refine Or.inr ?_
    rw [← hf]
    exact t.calm_fail

/-! ## A steady link -/

/-- The link, if there is one, takes every message in full until it is shut down. -/
def Steady (s : Station) : Prop := ∀ stream, s.queuePair.link = some stream → stream.Steady

namespace Steady

variable {s t : Station}

/-- What has gone out are the messages that were taken. -/
theorem outgoing (steady : s.Steady) : s.outgoing = s.wire := by
  unfold Station.outgoing wire
  cases hl : s.queuePair.link with
  | none => rfl
  | some stream => exact (steady stream hl).whole

theorem of_link (steady : s.Steady) (same : t.queuePair.link = s.queuePair.link) : t.Steady := by
  intro stream hl
  exact steady stream (same.symm.trans hl)

theorem fail (steady : s.Steady) : s.fail.Steady := by
  refine steady.of_link ?_
  unfold Station.fail
  split <;> rfl

theorem shutLink (steady : s.Steady) : s.shutLink.Steady := by
  intro stream hl
  obtain ⟨before, hb, rfl⟩ := Option.map_eq_some_iff.mp hl
  exact ⟨(steady before hb).willing, (steady before hb).whole⟩

theorem breakOff (steady : s.Steady) : s.breakOff.Steady := steady.fail.shutLink.of_link rfl

theorem transmit (steady : s.Steady) (header : Header) (payload : Bytes) :
    (s.transmit header payload).2.Steady := by
  unfold Station.transmit
  split
  · exact steady
  · next stream hl =>
    intro later h
    cases h
    exact (steady stream hl).send _

theorem respond (steady : s.Steady) (header : Header) (payload : Bytes) :
    (s.respond header payload).Steady := by
  have sent := steady.transmit header payload
  unfold Station.respond
  split
  · next h => rw [h] at sent; exact sent
  · next h => rw [h] at sent; exact sent.breakOff

theorem conclude (steady : s.Steady) (rest : Rest) : (s.conclude rest).Steady := by
  cases rest with
  | nothing => exact steady
  | claim header =>
    have claimed := steady.of_link (s.link_claim header)
    unfold Station.conclude
    dsimp only
    split
    · next h => rw [h] at claimed; exact claimed.respond _ _
    · next h => rw [h] at claimed; exact claimed
  | answer header payload => exact steady.respond header payload
  | quit => exact steady.breakOff

theorem handle (steady : s.Steady) (registrations : Registrations) (arrival : Arrival) :
    (s.handle registrations arrival).Steady := by
  rw [handle_eq_conclude]
  exact (steady.of_link (s.link_react registrations arrival)).conclude _

theorem launch (steady : s.Steady) (frame : Frame) (sequence : Nat) :
    (s.launch frame sequence).Steady := by
  have sent := steady.transmit frame.header frame.payload
  unfold Station.launch
  split
  · next h => rw [h] at sent; exact sent
  · next h =>
    rw [h] at sent
    rw [sendLost_eq]
    split
    · refine (Steady.fail ?_).shutLink
      exact sent.of_link rfl
    · exact sent.fail.shutLink

theorem confirm (steady : s.Steady) (sequence : UInt64) : (s.confirm sequence).Steady := by
  have sent := steady.transmit (Header.acknowledgement sequence Status.success.code) []
  unfold Station.confirm
  split
  · next h => rw [h] at sent; exact sent
  · next h => rw [h] at sent; exact sent.fail

theorem postSend (steady : s.Steady) (registrations : Registrations) (send : SendRequest) :
    (s.postSend registrations send).2.Steady := by
  rcases s.postSend_cases registrations send with ⟨e, h⟩ | ⟨e, h⟩ |
    ⟨_, _, frame, pending, -, -, -, -, -, h⟩
  · rw [h]; exact steady
  · rw [h]; exact steady.of_link rfl
  · rw [h]; exact Steady.launch (s := s.withPosted pending) (steady.of_link rfl) frame _

theorem postReceive (steady : s.Steady) (request : UInt64) :
    (s.postReceive request).2.Steady := by
  rcases s.postReceive_cases request with ⟨e, h⟩ | ⟨-, -, -, h⟩ | ⟨held, later, -, -, -, h⟩
  · rw [h]; exact steady
  · rw [h]; exact steady.of_link rfl
  · rw [h]
    refine Steady.confirm ?_ held.sequence
    exact steady.of_link rfl

theorem feed (steady : s.Steady) (registrations : Registrations) (byte : UInt8) :
    (s.feed registrations byte).Steady := by
  cases arrived : s.arrival? registrations byte with
  | none =>
    rw [feed_of_no_arrival arrived]
    exact steady.of_link rfl
  | some arrival =>
    rw [feed_of_arrival arrived]
    refine Steady.handle ?_ registrations arrival
    exact steady.of_link rfl

theorem endOfStream (steady : s.Steady) : s.endOfStream.Steady := by
  unfold Station.endOfStream
  split
  · exact steady
  · exact steady.breakOff

end Steady

end Station

end RdmaLink
