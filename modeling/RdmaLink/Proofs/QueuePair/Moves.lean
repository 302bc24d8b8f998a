import RdmaLink.Proofs.QueuePair.Arrival

/-!
# What can happen to posted requests

Whatever a queue pair does with a call or with a byte of its peer, it does it in a few kinds of
moves on what it has taken on and completed (`Move`).  Each move also names the requests that it
takes on.

    Moves s [] (s.feed r byte)                                      (moves_feed)
    Moves s [] s.endOfStream                                        (moves_endOfStream)
    Moves s (Request.ofSend (s.postSend r send).1 send) (s.postSend r send).2
                                                                    (moves_postSend)
    Moves s (Request.ofReceive (s.postReceive n).1 n) (s.postReceive n).2
                                                                    (moves_postReceive)

What every move keeps, every call and every byte keeps.
-/

namespace RdmaLink

/-- Whether an operation is posted as a send. -/
def Operation.isSend : Operation → Bool
  | .write => true
  | .writeWithImmediate => true
  | .read => true
  | .receive => false
  | .receiveWithImmediate => false

/-- A request that a queue pair has taken on. -/
inductive Request where
  | send (request : UInt64) (operation : Operation)
  | receive (request : UInt64)
deriving DecidableEq, Repr, Inhabited

namespace Request

/-- What is taken on by posting a send with an outcome. -/
def ofSend (outcome : Except DeviceError Unit) (send : SendRequest) : List Request :=
  match outcome with
  | .ok () => [.send send.request send.operation.operation]
  | .error _ => []

/-- What is taken on by posting a receive with an outcome. -/
def ofReceive (outcome : Except DeviceError Unit) (request : UInt64) : List Request :=
  match outcome with
  | .ok () => [.receive request]
  | .error _ => []

end Request

@[simp] theorem SendOperation.isSend_operation (operation : SendOperation) :
    operation.operation.isSend = true := by
  cases operation <;> rfl

namespace Station

/-- The station with another link. -/
def withLink (station : Station) (link : Option Stream) : Station :=
  { station with queuePair := { station.queuePair with link := link } }

/-- The station with one more send, under the next sequence number. -/
def withPosted (station : Station) (pending : PendingSend) : Station :=
  { station with
    queuePair :=
      { station.queuePair with
        nextSequence := station.queuePair.nextSequence + 1
        work :=
          { station.queuePair.work with
            outstanding := station.queuePair.work.outstanding ++
              [(station.queuePair.nextSequence, pending)] } } }

/-- The frame of a posted send goes to the link; if the link does not take it, the send is lost. -/
def launch (station : Station) (frame : Frame) (sequence : Nat) : Station :=
  match station.transmit frame.header frame.payload with
  | (.ok (), sent) => sent
  | (.error _, tried) => tried.sendLost sequence

/-- The held acknowledgement of a write goes to the link. -/
def confirm (station : Station) (sequence : UInt64) : Station :=
  match station.transmit (Header.acknowledgement sequence Status.success.code) [] with
  | (.ok (), sent) => sent
  | (.error _, tried) => tried.fail

/-- Two stations that have taken on and completed the same.  Memory, intake and what the link
carries may differ. -/
structure Alike (s t : Station) : Prop where
  work : t.queuePair.work = s.queuePair.work
  state : t.queuePair.state = s.queuePair.state
  completions : t.completions = s.completions
  numbering : s.queuePair.nextSequence ≤ t.queuePair.nextSequence
  linked : t.queuePair.link.isSome = s.queuePair.link.isSome
  destroyed : t.queuePair.destroyed = s.queuePair.destroyed

/-- One move, with the requests that it takes on. -/
inductive Move : Station → List Request → Station → Prop
  | quiet {s t : Station} (alike : Alike s t) : Move s [] t
  /-- A send is completed. -/
  | finish {s : Station} {sequence : Nat} {send : PendingSend} (status : Status) (length : UInt32)
      (posted : s.queuePair.work.send? sequence = some send) :
      Move s [] ((s.withWork (s.queuePair.work.withoutSend sequence)).complete send.request
        send.operation status length none)
  /-- A receive is consumed by a write that has just arrived. -/
  | consume {s : Station} {request : UInt64} {later : List UInt64} (length : UInt32)
      (immediate : Option UInt32) (waiting : s.queuePair.work.receives = request :: later) :
      Move s [] ((s.withWork { s.queuePair.work with receives := later }).complete request
        .receiveWithImmediate .success length immediate)
  /-- A write finds no receive and is held. -/
  | hold {s : Station} (held : HeldImmediate) (nobody : s.queuePair.work.receives = []) :
      Move s [] (s.withWork
        { s.queuePair.work with held := s.queuePair.work.held ++ [held] })
  | fail {s : Station} : Move s [] s.fail
  /-- A send is taken on under the next sequence number. -/
  | post {s : Station} (pending : PendingSend) (ready : s.queuePair.state = .readyToSend)
      (room : s.load < s.completions.depth) (isSend : pending.operation.isSend = true)
      (sink : pending.sink.isSome = true → pending.operation = .read) :
      Move s [.send pending.request pending.operation] (s.withPosted pending)
  /-- A receive is taken on and waits. -/
  | await {s : Station} (request : UInt64) (alive : s.queuePair.state ≠ .error)
      (room : s.load < s.completions.depth) (nobody : s.queuePair.work.held = []) :
      Move s [.receive request] (s.withWork
        { s.queuePair.work with receives := s.queuePair.work.receives ++ [request] })
  /-- A receive is taken on and completed by a held write. -/
  | meet {s : Station} {held : HeldImmediate} {later : List HeldImmediate} (request : UInt64)
      (alive : s.queuePair.state ≠ .error) (room : s.load < s.completions.depth)
      (waiting : s.queuePair.work.held = held :: later) :
      Move s [.receive request] ((s.withWork { s.queuePair.work with held := later }).complete
        request .receiveWithImmediate .success held.length (some held.immediate))

/-- Moves one after the other. -/
inductive Moves : Station → List Request → Station → Prop
  | refl (s : Station) : Moves s [] s
  | step {s t u : Station} {a b : List Request} (before : Moves s a t) (last : Move t b u) :
      Moves s (a ++ b) u

/-! ## Runs of moves -/

theorem Move.moves {s t : Station} {a : List Request} (h : Move s a t) : Moves s a t :=
  Moves.step (.refl s) h

theorem Moves.trans {s t u : Station} {a b : List Request} (h : Moves s a t) (h' : Moves t b u) :
    Moves s (a ++ b) u := by
  induction h' with
  | refl => simpa using h
  | step _ last ih => rw [← List.append_assoc]; exact .step ih last

/-- Moves that take nothing on, followed by others. -/
theorem Moves.after {s t u : Station} {a : List Request} (h : Moves s [] t) (h' : Moves t a u) :
    Moves s a u := h.trans h'

/-- Moves followed by others that take nothing on. -/
theorem Moves.then {s t u : Station} {a : List Request} (h : Moves s a t) (h' : Moves t [] u) :
    Moves s a u := by
  have := h.trans h'
  rwa [List.append_nil] at this

theorem Alike.refl (s : Station) : Alike s s := ⟨rfl, rfl, rfl, Nat.le_refl _, rfl, rfl⟩

theorem Alike.trans {s t u : Station} (h : Alike s t) (h' : Alike t u) : Alike s u :=
  ⟨h'.work.trans h.work, h'.state.trans h.state, h'.completions.trans h.completions,
    Nat.le_trans h.numbering h'.numbering, h'.linked.trans h.linked,
    h'.destroyed.trans h.destroyed⟩

theorem Alike.moves {s t : Station} (h : Alike s t) : Moves s [] t := (Move.quiet h).moves

/-- Moves keep the state, or end it, and neither make nor lose a link. -/
theorem Move.state {s t : Station} {a : List Request} (h : Move s a t) :
    (t.queuePair.state = s.queuePair.state ∨ t.queuePair.state = .error) ∧
      t.queuePair.link.isSome = s.queuePair.link.isSome := by
  cases h with
  | quiet same => exact ⟨Or.inl same.state, same.linked⟩
  | finish _ _ _ => exact ⟨Or.inl rfl, rfl⟩
  | consume _ _ _ => exact ⟨Or.inl rfl, rfl⟩
  | hold _ _ => exact ⟨Or.inl rfl, rfl⟩
  | fail =>
    unfold Station.fail
    split
    · exact ⟨Or.inl rfl, rfl⟩
    · exact ⟨Or.inr rfl, rfl⟩
  | post _ _ _ _ _ => exact ⟨Or.inl rfl, rfl⟩
  | await _ _ _ _ => exact ⟨Or.inl rfl, rfl⟩
  | meet _ _ _ _ => exact ⟨Or.inl rfl, rfl⟩

theorem Moves.state {s t : Station} {a : List Request} (h : Moves s a t) :
    (t.queuePair.state = s.queuePair.state ∨ t.queuePair.state = .error) ∧
      t.queuePair.link.isSome = s.queuePair.link.isSome := by
  induction h with
  | refl => exact ⟨Or.inl rfl, rfl⟩
  | step _ last ih =>
    obtain ⟨hs, hl⟩ := last.state
    refine ⟨?_, hl.trans ih.2⟩
    rcases hs with hs | hs
    · rw [hs]; exact ih.1
    · exact Or.inr hs

/-- No move destroys a queue pair. -/
theorem Move.destroyed {s t : Station} {a : List Request} (h : Move s a t) :
    t.queuePair.destroyed = s.queuePair.destroyed := by
  cases h with
  | quiet same => exact same.destroyed
  | fail => unfold Station.fail; split <;> rfl
  | _ => rfl

theorem Moves.destroyed {s t : Station} {a : List Request} (h : Moves s a t) :
    t.queuePair.destroyed = s.queuePair.destroyed := by
  induction h with
  | refl => rfl
  | step _ last ih => exact last.destroyed.trans ih

theorem moves_fail (s : Station) : Moves s [] s.fail := Move.fail.moves

/-! ## Sequence numbers -/

theorem send?_withoutSend (work : Work) (sequence number : Nat) :
    (work.withoutSend sequence).send? number =
      if number = sequence then none else work.send? number := by
  unfold Work.send? Work.withoutSend
  simp only
  induction work.outstanding with
  | nil => simp
  | cons entry rest ih =>
    obtain ⟨key, send⟩ := entry
    by_cases hk : key = sequence
    · subst hk
      simp only [List.filter_cons, bne_self_eq_false, Bool.false_eq_true, if_false, ih,
        List.lookup_cons]
      by_cases hn : number = key
      · simp [hn]
      · have hne : (number == key) = false := by simpa using hn
        simp [hn, hne]
    · have hkeep : (key != sequence) = true := by simpa using hk
      simp only [List.filter_cons, hkeep, if_true, List.lookup_cons, ih]
      by_cases hn : number = key
      · subst hn; simp [hk]
      · have hne : (number == key) = false := by simpa using hn
        simp [hne]

/-- Numbers only go up, and what waits under a number that was given out before has waited
before. -/
structure Ages (s t : Station) : Prop where
  numbering : s.queuePair.nextSequence ≤ t.queuePair.nextSequence
  old : ∀ number send, number < s.queuePair.nextSequence →
    t.queuePair.work.send? number = some send → s.queuePair.work.send? number = some send

theorem Ages.refl (s : Station) : Ages s s := ⟨Nat.le_refl _, fun _ _ _ h => h⟩

theorem Ages.trans {s t u : Station} (h : Ages s t) (h' : Ages t u) : Ages s u :=
  ⟨Nat.le_trans h.numbering h'.numbering, fun number send hn hu =>
    h.old number send hn (h'.old number send (Nat.lt_of_lt_of_le hn h.numbering) hu)⟩

theorem Move.ages {s t : Station} {a : List Request} (h : Move s a t) : Ages s t := by
  cases h with
  | quiet same => exact ⟨same.numbering, fun number send _ ht => by rwa [same.work] at ht⟩
  | @finish sequence _ _ _ _ =>
    refine ⟨Nat.le_refl _, fun number send _ ht => ?_⟩
    have ht : (s.queuePair.work.withoutSend sequence).send? number = some send := ht
    rw [send?_withoutSend] at ht
    split at ht
    · cases ht
    · exact ht
  | consume _ _ _ => exact ⟨Nat.le_refl _, fun _ _ _ ht => ht⟩
  | hold _ _ => exact ⟨Nat.le_refl _, fun _ _ _ ht => ht⟩
  | fail =>
    unfold Station.fail
    split
    · exact Ages.refl s
    · exact ⟨Nat.le_refl _, fun _ _ _ ht => by cases ht⟩
  | post pending _ _ _ _ =>
    refine ⟨Nat.le_succ _, fun number send hn ht => ?_⟩
    have hne : (number == s.queuePair.nextSequence) = false := by
      simpa using Nat.ne_of_lt hn
    simpa only [withPosted, Work.send?, List.lookup_append, List.lookup_cons, hne,
      List.lookup_nil, Option.or_none] using ht
  | await _ _ _ _ => exact ⟨Nat.le_refl _, fun _ _ _ ht => ht⟩
  | meet _ _ _ _ => exact ⟨Nat.le_refl _, fun _ _ _ ht => ht⟩

theorem Moves.ages {s t : Station} {a : List Request} (h : Moves s a t) : Ages s t := by
  induction h with
  | refl => exact Ages.refl _
  | step _ last ih => exact ih.trans last.ages

/-! ## The link -/

theorem alike_withIntake (s : Station) (intake : Option Intake) : Alike s (s.withIntake intake) :=
  ⟨rfl, rfl, rfl, Nat.le_refl _, rfl, rfl⟩

theorem alike_shutLink (s : Station) : Alike s s.shutLink :=
  ⟨rfl, rfl, rfl, Nat.le_refl _, by simp [shutLink], rfl⟩

/-- A frame is written to the link, or it is refused and was not written in full. -/
theorem transmit_cases (s : Station) (header : Header) (payload : Bytes) :
    (∃ stream, s.queuePair.link = some stream ∧
      s.transmit header payload =
        (.ok (), s.withLink (some (stream.wrote (header.toBytes ++ payload))))) ∨
    (∃ e stream part, s.queuePair.link = some stream ∧
      s.transmit header payload = (.error e, s.withLink (some (stream.cut part)))) ∨
    (∃ e, s.queuePair.link = none ∧ s.transmit header payload = (.error e, s)) := by
  unfold transmit
  cases hl : s.queuePair.link with
  | none => exact Or.inr (Or.inr ⟨_, rfl, rfl⟩)
  | some stream =>
    simp only [Stream.send]
    by_cases hshut : stream.shut = true
    · exact Or.inr (Or.inl ⟨_, stream, _, rfl, by rw [if_pos hshut]; rfl⟩)
    · rw [if_neg hshut]
      cases hr : stream.refusals stream.attempts with
      | some e => exact Or.inr (Or.inl ⟨e, stream, _, rfl, rfl⟩)
      | none => exact Or.inl ⟨stream, rfl, rfl⟩

theorem alike_transmit (s : Station) (header : Header) (payload : Bytes) :
    Alike s (s.transmit header payload).2 := by
  rcases s.transmit_cases header payload with ⟨stream, hl, h⟩ | ⟨e, stream, part, hl, h⟩ |
    ⟨e, hl, h⟩
  · rw [h]; exact ⟨rfl, rfl, rfl, Nat.le_refl _, by simp [withLink, hl], rfl⟩
  · rw [h]; exact ⟨rfl, rfl, rfl, Nat.le_refl _, by simp [withLink, hl], rfl⟩
  · rw [h]; exact ⟨rfl, rfl, rfl, Nat.le_refl _, rfl, rfl⟩

/-- Whatever the link does with a frame, what was posted stays as it is. -/
theorem alike_of_transmit {s u : Station} {header : Header} {payload : Bytes}
    {outcome : Except IoError Unit} (tried : s.transmit header payload = (outcome, u)) :
    Alike s u ∧ u.queuePair.address = s.queuePair.address := by
  have alike := s.alike_transmit header payload
  rw [tried] at alike
  refine ⟨alike, ?_⟩
  rcases s.transmit_cases header payload with ⟨stream, -, h⟩ | ⟨e, stream, part, -, h⟩ |
    ⟨e, -, h⟩ <;>
    (rw [h] at tried; cases tried; rfl)

theorem moves_breakOff (s : Station) : Moves s [] s.breakOff :=
  ((moves_fail s).after (alike_shutLink _).moves).after
    (Alike.moves ⟨rfl, rfl, rfl, Nat.le_refl _, rfl, rfl⟩)

/-! ## Frames -/

theorem moves_respond (s : Station) (header : Header) (payload : Bytes) :
    Moves s [] (s.respond header payload) := by
  have sent := (alike_transmit s header payload).moves
  unfold respond
  split
  · next h => rw [h] at sent; exact sent
  · next h => rw [h] at sent; exact sent.after (moves_breakOff _)

theorem moves_acknowledge (s : Station) (sequence : UInt64) (status : Status) :
    Moves s [] (s.acknowledge sequence status) := moves_respond _ _ _

theorem moves_withMemory (s : Station) (memory : Memory) :
    Moves s [] { s with memory := memory } :=
  Alike.moves ⟨rfl, rfl, rfl, Nat.le_refl _, rfl, rfl⟩

theorem moves_written (s : Station) (header : Header) : Moves s [] (s.written header) := by
  unfold written
  split
  · exact moves_acknowledge _ _ _
  · simp only
    split
    · next request later hr =>
      exact (Move.consume _ _ hr).moves.after (moves_acknowledge _ _ _)
    · next hr => exact (Move.hold _ hr).moves

theorem moves_answerRead (registrations : Registrations) (s : Station) (header : Header) :
    Moves s [] (s.answerRead registrations header) := by
  unfold answerRead
  simp only
  split <;> exact moves_respond _ _ _

theorem moves_readAnswered (s : Station) (header : Header) (payload : Option Bytes) :
    Moves s [] (s.readAnswered header payload) := by
  unfold readAnswered
  simp only
  split
  · exact .refl s
  · next send hs =>
    split
    · split
      · split
        · exact (Move.finish _ _ hs).moves.after (moves_withMemory _ _)
        · exact (Move.finish _ _ hs).moves
      · exact (Move.finish _ _ hs).moves
    · exact (Move.finish _ _ hs).moves

theorem moves_acknowledged (s : Station) (header : Header) :
    Moves s [] (s.acknowledged header) := by
  unfold acknowledged
  simp only
  split
  · exact .refl s
  · next send hs => exact (Move.finish _ _ hs).moves

theorem moves_takePayload (s : Station) (header : Header) (disposal : Disposal)
    (payload : Bytes) : Moves s [] (s.takePayload header disposal payload) := by
  cases disposal with
  | store region offset =>
    simp only [takePayload]
    split
    · exact (moves_withMemory _ _).after (moves_written _ _)
    · exact moves_acknowledge _ _ _
  | refuse => exact moves_acknowledge _ _ _
  | answer => exact moves_readAnswered _ _ _
  | unwanted => exact moves_readAnswered _ _ _

theorem moves_takeBare (registrations : Registrations) (s : Station) (header : Header) :
    Moves s [] (s.takeBare registrations header) := by
  unfold takeBare
  split
  · exact moves_answerRead _ _ _
  · split
    · exact moves_readAnswered _ _ _
    · split
      · exact moves_acknowledged _ _
      · exact moves_breakOff _

theorem moves_handle (registrations : Registrations) (s : Station) (arrival : Arrival) :
    Moves s [] (s.handle registrations arrival) := by
  unfold handle
  split
  · exact moves_takePayload _ _ _ _
  · exact moves_takeBare _ _ _

/-! ## Bytes and calls -/

theorem moves_feed (registrations : Registrations) (s : Station) (byte : UInt8) :
    Moves s [] (s.feed registrations byte) := by
  cases h : s.arrival? registrations byte with
  | none => rw [feed_of_no_arrival h]; exact (alike_withIntake _ _).moves
  | some arrival =>
    rw [feed_of_arrival h]
    exact (alike_withIntake _ _).moves.after (moves_handle _ _ _)

theorem moves_endOfStream (s : Station) : Moves s [] s.endOfStream := by
  unfold endOfStream
  split
  · exact .refl s
  · exact moves_breakOff s

theorem moves_receive (registrations : Registrations) (s : Station) (bytes : Bytes) :
    Moves s [] (s.receive registrations bytes) := by
  induction bytes generalizing s with
  | nil => exact .refl s
  | cons byte rest ih => exact (moves_feed registrations s byte).after (ih _)

theorem moves_settle (registrations : Registrations) (s : Station) :
    Moves s [] (s.settle registrations) := by
  unfold settle
  split
  · next stream _ linked =>
    have emptied (link : Stream) : Moves s [] (s.withLink (some link)) :=
      Alike.moves ⟨rfl, rfl, rfl, Nat.le_refl _, by rw [linked]; rfl, rfl⟩
    have handled := (emptied { stream with waiting := [] }).after
      (moves_receive registrations _ stream.waiting)
    dsimp only
    split
    · exact handled.after (moves_endOfStream _)
    · exact handled
  · exact .refl s

theorem moves_sendLost (s : Station) (sequence : Nat) : Moves s [] (s.sendLost sequence) := by
  have failed (t : Station) : Moves t [] t.fail.shutLink :=
    (moves_fail t).after (alike_shutLink _).moves
  unfold sendLost
  cases waiting : s.queuePair.work.send? sequence with
  | some send =>
    rw [withdraw_of_waiting waiting]
    exact (Move.finish .linkLost 0 waiting).moves.after (failed _)
  | none =>
    rw [withdraw_of_gone waiting]
    exact failed s

theorem checkRoom_eq_ok {s : Station} (h : s.checkRoom = .ok ()) :
    s.load < s.completions.depth := by
  unfold checkRoom at h
  split at h
  · cases h
  · omega

/-- What is kept of a send is what its completion reports, and only a read keeps a sink. -/
theorem sendFrame_pending {s : Station} {send : SendRequest} {region : RegionId} {offset : Nat}
    {frame : Frame} {pending : PendingSend}
    (h : s.sendFrame send region offset = .ok (frame, pending)) :
    pending.request = send.request ∧ pending.operation = send.operation.operation ∧
      (pending.sink.isSome = true → pending.operation = .read) := by
  unfold sendFrame at h
  simp only at h
  split at h
  · next hop => cases h; exact ⟨rfl, by rw [hop], fun _ => by rw [hop]; rfl⟩
  · cases hm : s.memory.read region offset send.length.toNat with
    | error e => rw [hm] at h; cases h
    | ok payload => rw [hm] at h; cases h; exact ⟨rfl, rfl, fun hs => by cases hs⟩

/-- A post is taken on whether or not the link takes its frame. -/
theorem launch_eq (s : Station) (frame : Frame) (sequence : Nat) :
    (match s.transmit frame.header frame.payload with
      | (.ok (), sent) => ((.ok (), sent) : Except DeviceError Unit × Station)
      | (.error _, tried) => (.ok (), tried.sendLost sequence)) =
      (.ok (), s.launch frame sequence) := by
  unfold launch
  generalize s.transmit frame.header frame.payload = tried
  obtain ⟨outcome, t⟩ := tried
  cases outcome with
  | ok _ => rfl
  | error e => rfl

theorem prepare_eq_ok {registrations : Registrations} {s : Station} {send : SendRequest}
    {registration : Registration} {offset : Nat} {frame : Frame} {pending : PendingSend}
    (known : registrations.byLocalKey? send.localKey = some registration)
    (place : registration.offsetOf? send.localAddress send.length.toNat = some offset)
    (framed : s.sendFrame send registration.region offset = .ok (frame, pending)) :
    s.prepare registrations send =
      (.ok ⟨s.queuePair.nextSequence, frame, pending⟩, { s with queuePair :=
        { s.queuePair with nextSequence := s.queuePair.nextSequence + 1 } }) := by
  simp only [prepare, Registrations.localRange, known, place, framed]

/-- A send that is numbered is numbered next, and its frame is made of a range of its own side. -/
theorem prepare_cases (registrations : Registrations) (s : Station) (send : SendRequest) :
    (∃ e, s.prepare registrations send = (.error e, s)) ∨
    (∃ e, s.prepare registrations send = (.error e, { s with queuePair :=
      { s.queuePair with nextSequence := s.queuePair.nextSequence + 1 } })) ∨
    (∃ registration offset frame pending,
      registrations.byLocalKey? send.localKey = some registration ∧
      registration.offsetOf? send.localAddress send.length.toNat = some offset ∧
      s.sendFrame send registration.region offset = .ok (frame, pending) ∧
      s.prepare registrations send =
        (.ok ⟨s.queuePair.nextSequence, frame, pending⟩, { s with queuePair :=
          { s.queuePair with nextSequence := s.queuePair.nextSequence + 1 } })) := by
  cases known : registrations.byLocalKey? send.localKey with
  | none =>
    exact Or.inl
      ⟨.invalidKey send.localKey, by simp only [prepare, Registrations.localRange, known]⟩
  | some registration =>
    cases place : registration.offsetOf? send.localAddress send.length.toNat with
    | none =>
      exact Or.inl ⟨.localRange send.localAddress send.length,
        by simp only [prepare, Registrations.localRange, known, place]⟩
    | some offset =>
      cases framed : s.sendFrame send registration.region offset with
      | error e =>
        exact Or.inr (Or.inl ⟨.localRange send.localAddress send.length,
          by simp only [prepare, Registrations.localRange, known, place, framed]⟩)
      | ok made =>
        exact Or.inr (Or.inr ⟨registration, offset, made.1, made.2, rfl, place, framed,
          prepare_eq_ok known place framed⟩)

theorem postSend_eq (registrations : Registrations) (s : Station) (send : SendRequest) :
    s.postSend registrations send =
      match s.queuePair.expect [.readyToSend] "RTS" with
      | .error e => (.error e, s)
      | .ok () =>
        match s.checkRoom with
        | .error e => (.error e, s)
        | .ok () =>
          match s.prepare registrations send with
          | (.error e, t) => (.error e, t)
          | (.ok draft, t) => (.ok (), (t.enter draft).launch draft.frame draft.sequence) := by
  unfold postSend
  rcases s.queuePair.expect [.readyToSend] "RTS" with e | _
  · rfl
  · rcases s.checkRoom with e | _
    · rfl
    · rcases s.prepare registrations send with ⟨e | draft, t⟩
      · rfl
      · exact launch_eq (t.enter draft) draft.frame draft.sequence

/-- A send is refused, or it is taken on and its frame goes to the link. -/
theorem postSend_cases (registrations : Registrations) (s : Station) (send : SendRequest) :
    (∃ e, s.postSend registrations send = (.error e, s)) ∨
    (∃ e, s.postSend registrations send = (.error e, { s with queuePair :=
      { s.queuePair with nextSequence := s.queuePair.nextSequence + 1 } })) ∨
    (∃ registration offset frame pending, s.queuePair.state = .readyToSend ∧
      s.load < s.completions.depth ∧
      registrations.byLocalKey? send.localKey = some registration ∧
      registration.offsetOf? send.localAddress send.length.toNat = some offset ∧
      s.sendFrame send registration.region offset = .ok (frame, pending) ∧
      s.postSend registrations send =
        (.ok (), (s.withPosted pending).launch frame s.queuePair.nextSequence)) := by
  rw [postSend_eq]
  split
  · exact Or.inl ⟨_, rfl⟩
  · next hexpect =>
    split
    · exact Or.inl ⟨_, rfl⟩
    · next hroom =>
      rcases s.prepare_cases registrations send with ⟨e, h⟩ | ⟨e, h⟩ |
        ⟨registration, offset, frame, pending, known, place, framed, h⟩
      · rw [h]
        exact Or.inl ⟨e, rfl⟩
      · rw [h]
        exact Or.inr (Or.inl ⟨e, rfl⟩)
      · rw [h]
        exact Or.inr (Or.inr ⟨registration, offset, frame, pending,
          by simpa using QueuePair.state_of_expect hexpect, checkRoom_eq_ok hroom, known, place,
          framed, rfl⟩)

theorem moves_launch (s : Station) (frame : Frame) (sequence : Nat) :
    Moves s [] (s.launch frame sequence) := by
  have tried := (alike_transmit s frame.header frame.payload).moves
  unfold launch
  split
  · next h => rw [h] at tried; exact tried
  · next h => rw [h] at tried; exact tried.after (moves_sendLost _ _)

theorem moves_postSend (registrations : Registrations) (s : Station) (send : SendRequest) :
    Moves s (Request.ofSend (s.postSend registrations send).1 send)
      (s.postSend registrations send).2 := by
  rcases s.postSend_cases registrations send with ⟨e, h⟩ | ⟨e, h⟩ |
    ⟨registration, offset, frame, pending, hstate, hroom, -, -, hframe, h⟩
  · rw [h]; exact .refl s
  · rw [h]; exact Alike.moves ⟨rfl, rfl, rfl, Nat.le_succ _, rfl, rfl⟩
  · rw [h]
    obtain ⟨hr, ho, hsink⟩ := sendFrame_pending hframe
    have posted := (Move.post pending hstate hroom (by rw [ho]; simp) hsink).moves
    rw [hr, ho] at posted
    exact posted.then (moves_launch _ _ _)

theorem confirm_eq (s : Station) (sequence : UInt64) :
    (match s.transmit (Header.acknowledgement sequence Status.success.code) [] with
      | (.ok (), sent) => ((.ok (), sent) : Except DeviceError Unit × Station)
      | (.error _, tried) => (.ok (), tried.fail)) =
      (.ok (), s.confirm sequence) := by
  unfold confirm
  generalize s.transmit _ _ = tried
  obtain ⟨outcome, t⟩ := tried
  cases outcome with
  | ok _ => rfl
  | error e => rfl

theorem postReceive_eq (s : Station) (request : UInt64) :
    s.postReceive request =
      match s.queuePair.expect [.init, .readyToReceive, .readyToSend] "INIT, RTR or RTS" with
      | .error e => (.error e, s)
      | .ok () =>
        match s.checkRoom with
        | .error e => (.error e, s)
        | .ok () =>
          match s.meet request with
          | (none, t) => (.ok (), t)
          | (some held, t) => (.ok (), (t.reportMet request held).confirm held.sequence) := by
  unfold postReceive
  rcases s.queuePair.expect [.init, .readyToReceive, .readyToSend] "INIT, RTR or RTS" with e | _
  · rfl
  · rcases s.checkRoom with e | _
    · rfl
    · rcases s.meet request with ⟨_ | held, t⟩
      · rfl
      · exact confirm_eq (t.reportMet request held) held.sequence

/-- A receive is refused, or it is taken on: it waits, or it completes a held write at once. -/
theorem postReceive_cases (s : Station) (request : UInt64) :
    (∃ e, s.postReceive request = (.error e, s)) ∨
    (s.queuePair.state ≠ .error ∧ s.load < s.completions.depth ∧ s.queuePair.work.held = [] ∧
      s.postReceive request = (.ok (), s.withWork
        { s.queuePair.work with receives := s.queuePair.work.receives ++ [request] })) ∨
    (∃ held later, s.queuePair.state ≠ .error ∧ s.load < s.completions.depth ∧
      s.queuePair.work.held = held :: later ∧
      s.postReceive request = (.ok (), (((s.withWork
        { s.queuePair.work with held := later }).complete request .receiveWithImmediate .success
          held.length (some held.immediate)).confirm held.sequence))) := by
  rw [postReceive_eq]
  split
  · exact Or.inl ⟨_, rfl⟩
  · next hexpect =>
    have halive : s.queuePair.state ≠ .error := by
      intro h
      have := QueuePair.state_of_expect hexpect
      rw [h] at this
      simp at this
    split
    · exact Or.inl ⟨_, rfl⟩
    · next hroom =>
      cases hh : s.queuePair.work.held with
      | nil =>
        rw [meet_of_none hh]
        exact Or.inr (Or.inl ⟨halive, checkRoom_eq_ok hroom, rfl, rfl⟩)
      | cons held later =>
        rw [meet_of_held hh]
        exact Or.inr (Or.inr ⟨held, later, halive, checkRoom_eq_ok hroom, rfl, rfl⟩)

theorem moves_confirm (s : Station) (sequence : UInt64) : Moves s [] (s.confirm sequence) := by
  have tried := (alike_transmit s (Header.acknowledgement sequence Status.success.code) []).moves
  unfold confirm
  split
  · next h => rw [h] at tried; exact tried
  · next h => rw [h] at tried; exact tried.after (moves_fail _)

theorem moves_postReceive (s : Station) (request : UInt64) :
    Moves s (Request.ofReceive (s.postReceive request).1 request)
      (s.postReceive request).2 := by
  rcases s.postReceive_cases request with ⟨e, h⟩ | ⟨halive, hroom, hh, h⟩ |
    ⟨held, later, halive, hroom, hh, h⟩
  · rw [h]; exact .refl s
  · rw [h]; exact (Move.await request halive hroom hh).moves
  · rw [h]; exact (Move.meet request halive hroom hh).moves.then (moves_confirm _ _)

end Station

end RdmaLink
