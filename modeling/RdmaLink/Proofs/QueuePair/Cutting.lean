import RdmaLink.Connection.Basic
import RdmaLink.Proofs.QueuePair.Alignment

/-!
# The stream and how it is cut

A queue pair handles whatever has arrived on its link, in whatever pieces it comes
(`Station.hear`).  What becomes of it depends on the frames alone that are complete
(`Station.takeFrame`), one after the other:

    i.bytes ++ bytes = frames.flatMap toBytes ++ rest, rest the beginning of a frame →
      s.receive r bytes = (frames.foldl (takeFrame r) s).withIntake rest   (Station.receive_cases)
    pieces.foldl (hear r) s = s.hear r pieces.flatten                      (Station.foldl_hear)

The part of a frame that has arrived is in the intake and nowhere else, and the end of the stream
loses it.
-/

namespace RdmaLink

namespace Station

/-! ## Pieces -/

/-- The bytes that wait on the link. -/
def waiting (s : Station) : Bytes :=
  match s.queuePair.link with
  | some stream => stream.waiting
  | none => []

/-- The station when more bytes wait on its link. -/
def withWaiting (s : Station) (bytes : Bytes) : Station :=
  s.withLink (s.queuePair.link.map fun stream => stream.arrive bytes)

/-- The station when no bytes wait on its link. -/
def emptied (s : Station) : Station :=
  s.withLink (s.queuePair.link.map fun stream => { stream with waiting := [] })

/-- A piece of the stream arrives, and everything that has arrived is handled. -/
def hear (registrations : Registrations) (s : Station) (piece : Bytes) : Station :=
  (s.withWaiting piece).settle registrations

/-- The stream ends. -/
def hangUp (registrations : Registrations) (s : Station) : Station :=
  (s.withLink (s.queuePair.link.map Stream.finish)).settle registrations

/-- A session hears what is delivered to it. -/
theorem deliver_eq_hear {session : Session} {s : Station} (h : session.station? = some s)
    (piece : Bytes) : session.deliver piece false =
      session.withStation (s.hear session.device.registrations piece) := by
  obtain ⟨queuePair, hq, rfl⟩ := Option.map_eq_some_iff.mp h
  simp only [Session.deliver, hq, Session.settle, Session.station?, Session.withQueuePair,
    Session.withConnection, Option.map_some]
  rfl

/-- What becomes of the payload behind a header, as it was settled when the header was
complete. -/
def settled (registrations : Registrations) (s : Station) (header : Header) : Option Disposal :=
  match s.queuePair.intake with
  | some (.payload _ disposal _ _) => some disposal
  | _ => s.disposal? registrations header

/-- One turn of the receive loop: a frame is taken off the stream and handled. -/
def takeFrame (registrations : Registrations) (s : Station) (frame : Frame) : Station :=
  match s.queuePair.intake with
  | none => s
  | some _ =>
    (s.withIntake (some (.header []))).handle registrations
      ⟨frame.header, s.settled registrations frame.header, frame.payload⟩

variable {s t : Station} {registrations : Registrations}

/-! ## Frames -/

@[simp] theorem intake_withIntake (s : Station) (intake : Option Intake) :
    (s.withIntake intake).queuePair.intake = intake := rfl

/-- The frame in arrival is one that the next turn of the loop takes: what becomes of its payload
is what that turn settles. -/
def Awaits (registrations : Registrations) (s : Station) : Intake → Prop
  | .header _ => ∃ received, s.queuePair.intake = some (.header received)
  | .payload header disposal _ _ =>
    s.queuePair.intake.isSome = true ∧ s.settled registrations header = some disposal

theorem Awaits.receiving {intake : Intake} (awaits : Awaits registrations s intake) :
    s.queuePair.intake.isSome = true := by
  cases intake with
  | header received =>
    obtain ⟨part, hi⟩ := awaits
    rw [hi]
    rfl
  | payload header disposal reversed missing => exact awaits.1

theorem awaits_self {intake : Intake} (hi : s.queuePair.intake = some intake) :
    Awaits registrations s intake := by
  cases intake with
  | header received => exact ⟨received, hi⟩
  | payload header disposal reversed missing =>
    refine ⟨by rw [hi]; rfl, ?_⟩
    simp only [settled, hi]

theorem settled_of_header {received : Bytes} (hi : s.queuePair.intake = some (.header received))
    (header : Header) : s.settled registrations header = s.disposal? registrations header := by
  simp only [settled, hi]

/-- A byte that completes no frame is awaited as the ones before it. -/
theorem Awaits.extended {intake longer : Intake} (awaits : Awaits registrations s intake)
    {byte : UInt8} (h : (s.withIntake (some intake)).extended registrations byte = some longer) :
    Awaits registrations s longer := by
  cases intake with
  | header received =>
    obtain ⟨part, hi⟩ := awaits
    unfold Station.extended at h
    simp only [intake_withIntake, disposal?_withIntake] at h
    split at h
    · cases h
      exact ⟨part, hi⟩
    · next header _ =>
      split at h
      · next disposal settles =>
        cases h
        exact ⟨by rw [hi]; rfl, (settled_of_header hi header).trans settles⟩
      · cases h
  | payload header disposal reversed missing =>
    cases h
    exact awaits

/-- The frame that a byte completes is taken in one turn. -/
theorem Awaits.arrival {intake : Intake} (awaits : Awaits registrations s intake) {byte : UInt8}
    {arrival : Arrival}
    (h : (s.withIntake (some intake)).arrival? registrations byte = some arrival) :
    (s.withIntake (some intake)).feed registrations byte =
      s.takeFrame registrations arrival.frame := by
  have disposal : arrival.disposal = s.settled registrations arrival.header := by
    cases intake with
    | header received =>
      obtain ⟨part, hi⟩ := awaits
      rw [settled_of_header hi]
      unfold arrival? at h
      rw [intake_withIntake] at h
      simp only at h
      split at h
      · cases h
      · split at h
        · cases h
        · cases h
          rfl
    | payload header disposal reversed missing =>
      unfold arrival? at h
      simp only [intake_withIntake] at h
      split at h
      · cases h
        exact awaits.2.symm
      · cases h
  obtain ⟨part, hi⟩ := Option.isSome_iff_exists.mp awaits.receiving
  rw [feed_of_arrival h, takeFrame, hi]
  simp only [Arrival.frame, ← disposal]
  rfl

/-- A queue pair that does not receive takes nothing. -/
theorem receive_stopped (stopped : s.queuePair.intake = none) (bytes : Bytes) :
    s.receive registrations bytes = s := by
  induction bytes with
  | nil => rfl
  | cons byte rest ih =>
    have same : s.feed registrations byte = s := by simp only [feed, stopped]
    show (s.feed registrations byte).receive registrations rest = s
    rw [same]
    exact ih

/-- After a frame the receiving goes on, or it has ended with a failure. -/
theorem handle_cases (registrations : Registrations) (s : Station) (arrival : Arrival) :
    Onward s (s.handle registrations arrival) ∨ Stopped s (s.handle registrations arrival) := by
  have ends {t : Station} (proceeds : Proceeds s t) : Onward s t ∨ Stopped s t := by
    cases proceeds with
    | onward on => exact Or.inl on
    | refused stopped _ => exact Or.inr stopped
  unfold handle
  split
  · exact ends (proceeds_takePayload _ _ _ _)
  · unfold takeBare
    split
    · exact ends (proceeds_answerRead _ _ _)
    · split
      · exact ends (proceeds_readAnswered _ _ _)
      · split
        · exact ends (proceeds_acknowledged _ _)
        · exact Or.inr s.stopped_breakOff

/-- The bytes of complete frames have the effect of the frames, and those of the frame that is
not complete have none. -/
theorem receive_cases (registrations : Registrations) {intake : Intake}
    (hi : s.queuePair.intake = some intake) (sound : intake.Sound) (bytes : Bytes) :
    ∃ (frames : List Frame) (rest : Bytes), (∀ f ∈ frames, f.Whole) ∧
      intake.bytes ++ bytes = frames.flatMap Frame.toBytes ++ rest ∧
      ((∃ longer : Intake, longer.Sound ∧ longer.bytes = rest ∧
          Awaits registrations (frames.foldl (takeFrame registrations) s) longer ∧
          s.receive registrations bytes =
            (frames.foldl (takeFrame registrations) s).withIntake (some longer)) ∨
        ((frames.foldl (takeFrame registrations) s).breakOff =
            frames.foldl (takeFrame registrations) s ∧
          s.receive registrations bytes = frames.foldl (takeFrame registrations) s)) := by
  induction bytes using List.reverseRecOn with
  | nil =>
    refine ⟨[], intake.bytes, by simp, by simp, Or.inl ⟨intake, sound, rfl, awaits_self hi, ?_⟩⟩
    exact (withIntake_self hi).symm
  | append_singleton bytes byte ih =>
    obtain ⟨frames, rest, whole, split, now⟩ := ih
    rw [receive_append, ← List.append_assoc, split]
    show ∃ frames' rest', _ ∧ _ ∧ _
    rcases now with ⟨longer, partly, rfl, awaits, heq⟩ | ⟨failed, heq⟩
    · rw [heq]
      generalize hdone : frames.foldl (takeFrame registrations) s = done at awaits heq ⊢
      cases harr : (done.withIntake (some longer)).arrival? registrations byte with
      | none =>
        obtain ⟨next, extended, nextSound, more⟩ := extended_sound rfl partly harr
        refine ⟨frames, next.bytes, whole, by rw [more, List.append_assoc], Or.inl
          ⟨next, nextSound, rfl, hdone ▸ awaits.extended extended, ?_⟩⟩
        show (done.withIntake (some longer)).feed registrations byte = _
        rw [feed_of_no_arrival harr, extended, hdone]
        rfl
      | some arrival =>
        obtain ⟨all, arrived⟩ := arrival_sound rfl partly harr
        have turn : (done.withIntake (some longer)).feed registrations byte =
            (frames ++ [arrival.frame]).foldl (takeFrame registrations) s := by
          rw [awaits.arrival harr, List.foldl_append, hdone]
          rfl
        refine ⟨frames ++ [arrival.frame], [], ?_, ?_, ?_⟩
        · intro f hf
          rcases List.mem_append.mp hf with hf | hf
          · exact whole f hf
          · rw [List.mem_singleton.mp hf]
            exact arrived.whole
        · rw [List.append_assoc, ← all]
          simp
        · rw [← turn, feed_of_arrival harr]
          rcases handle_cases registrations
            ((done.withIntake (some longer)).withIntake (some (.header []))) arrival with
            on | stopped
          · have boundary := on.intake
            exact Or.inl ⟨.header [], (by decide : 0 < Header.size), rfl, ⟨[], boundary⟩,
              (withIntake_self boundary).symm ▸ (feed_of_arrival harr)⟩
          · exact Or.inr ⟨stopped.failed, feed_of_arrival harr⟩
    · -- the receiving has ended before
      refine ⟨frames, rest ++ [byte], whole, by rw [List.append_assoc], Or.inr ⟨failed, ?_⟩⟩
      rw [heq]
      have ended : (frames.foldl (takeFrame registrations) s).queuePair.intake = none := by
        rw [← failed]
        rfl
      exact receive_stopped ended [byte]

/-! ## One piece after the other -/

/-- While the queue pair receives, nothing waits on its link, and the stream has not ended. -/
def CaughtUp (s : Station) : Prop :=
  s.queuePair.intake.isSome = true →
    s.queuePair.link.map (fun stream => (stream.waiting, stream.ended)) = some ([], false)

theorem CaughtUp.of_stopped (stopped : s.queuePair.intake = none) : s.CaughtUp := by
  intro receiving
  rw [stopped] at receiving
  cases receiving

theorem caughtUp_emptied (opened : s.queuePair.link.map Stream.ended = some false) :
    s.emptied.CaughtUp := by
  intro _
  obtain ⟨stream, hl, going⟩ := Option.map_eq_some_iff.mp opened
  simp only [emptied, withLink, hl, Option.map_some, going]

theorem CaughtUp.feed (caught : s.CaughtUp) (registrations : Registrations) (byte : UInt8) :
    (s.feed registrations byte).CaughtUp := by
  cases hi : s.queuePair.intake with
  | none =>
    rw [show s.feed registrations byte = s from receive_stopped hi [byte]]
    exact caught
  | some intake =>
    have now := caught (by rw [hi]; rfl)
    cases harr : s.arrival? registrations byte with
    | none =>
      rw [feed_of_no_arrival harr]
      exact fun _ => now
    | some arrival =>
      rw [feed_of_arrival harr]
      rcases handle_cases registrations (s.withIntake (some (.header []))) arrival with
        on | stopped
      · intro _
        obtain ⟨messages, link⟩ := on.link
        rw [link, Option.map_map]
        exact now
      · exact .of_stopped stopped.intake

theorem CaughtUp.receive (caught : s.CaughtUp) (registrations : Registrations) (bytes : Bytes) :
    (s.receive registrations bytes).CaughtUp := by
  induction bytes generalizing s with
  | nil => exact caught
  | cons byte rest ih => exact ih (caught.feed registrations byte)

@[simp] theorem withWaiting_nil (s : Station) : s.withWaiting [] = s := by
  have same : s.queuePair.link.map (fun stream => stream.arrive []) = s.queuePair.link := by
    cases s.queuePair.link with
    | none => rfl
    | some stream => simp [Stream.arrive]
  rw [withWaiting, same]
  rfl

theorem withWaiting_withWaiting (s : Station) (a b : Bytes) :
    (s.withWaiting a).withWaiting b = s.withWaiting (a ++ b) := by
  simp only [withWaiting, withLink, Option.map_map]
  congr 3
  funext stream
  simp [Stream.arrive]

/-- A queue pair that does not receive leaves what arrives. -/
theorem settle_stopped (stopped : s.queuePair.intake = none) : s.settle registrations = s := by
  unfold settle
  simp only [stopped]

theorem hear_stopped (stopped : s.queuePair.intake = none) (piece : Bytes) :
    s.hear registrations piece = s.withWaiting piece :=
  settle_stopped (s := s.withWaiting piece) stopped

/-- All that waits is taken, and the piece behind it. -/
theorem hear_receiving (receiving : s.queuePair.intake.isSome = true)
    (opened : s.queuePair.link.map Stream.ended = some false) (piece : Bytes) :
    s.hear registrations piece = s.emptied.receive registrations (s.waiting ++ piece) := by
  obtain ⟨intake, hi⟩ := Option.isSome_iff_exists.mp receiving
  obtain ⟨stream, hl, going⟩ := Option.map_eq_some_iff.mp opened
  simp only [hear, settle, withWaiting, withLink, hi, hl, Option.map_some, Stream.arrive, emptied,
    waiting, going, Bool.false_eq_true, if_false]

theorem CaughtUp.hear (caught : s.CaughtUp) (receiving : s.queuePair.intake.isSome = true)
    (piece : Bytes) : s.hear registrations piece = s.receive registrations piece := by
  obtain ⟨stream, hl, now⟩ := Option.map_eq_some_iff.mp (caught receiving)
  obtain ⟨nothing, going⟩ := Prod.mk.inj now
  have emptied : s.emptied = s := by
    unfold Station.emptied
    rw [hl, Option.map_some, ← nothing, ← hl]
    rfl
  have empty : s.waiting = [] := by simp only [waiting, hl, nothing]
  rw [hear_receiving receiving (by rw [hl, Option.map_some, going]), emptied, empty]
  rfl

/-- Pieces that arrive one after the other are taken like one; what arrives once the receiving
has ended stays on the link. -/
theorem CaughtUp.foldl_hear (caught : s.CaughtUp) (registrations : Registrations)
    (pieces : List Bytes) :
    ∃ unread : Bytes,
      ((s.receive registrations pieces.flatten).queuePair.intake.isSome = true → unread = []) ∧
      pieces.foldl (Station.hear registrations) s =
        (s.receive registrations pieces.flatten).withWaiting unread := by
  induction pieces generalizing s with
  | nil => exact ⟨[], fun _ => rfl, (withWaiting_nil s).symm⟩
  | cons piece pieces ih =>
    rw [List.flatten_cons, List.foldl_cons]
    cases hi : s.queuePair.intake with
    | none =>
      obtain ⟨unread, -, heq⟩ := ih (CaughtUp.of_stopped (s := s.withWaiting piece) hi)
      rw [receive_stopped (s := s.withWaiting piece) hi, withWaiting_withWaiting] at heq
      rw [hear_stopped hi, heq, receive_stopped hi]
      refine ⟨piece ++ unread, ?_, rfl⟩
      intro receiving
      rw [hi] at receiving
      cases receiving
    | some intake =>
      rw [caught.hear (by rw [hi]; rfl), receive_append]
      exact ih (caught.receive registrations piece)

/-! ## The end of the stream -/

/-- It does not matter to a failure what was to come on the link. -/
theorem breakOff_withLink {link : Option Stream}
    (same : link.map Stream.shutdown = s.queuePair.link.map Stream.shutdown) :
    (s.withLink link).breakOff = s.breakOff := by
  have failing : (s.withLink link).fail = s.fail.withLink link := by
    unfold fail
    by_cases failed : s.queuePair.state = .error
    · rw [if_pos failed, if_pos (show (s.withLink link).queuePair.state = .error from failed)]
    · rw [if_neg failed, if_neg (show ¬ (s.withLink link).queuePair.state = .error from failed)]
      rfl
  unfold breakOff
  rw [failing]
  simp only [shutLink, withLink, same, link_fail]

theorem breakOff_withIntake (s : Station) (intake : Option Intake) :
    (s.withIntake intake).breakOff = s.breakOff := by
  have failing : (s.withIntake intake).fail = s.fail.withIntake intake := by
    unfold fail
    by_cases failed : s.queuePair.state = .error
    · rw [if_pos failed, if_pos (show (s.withIntake intake).queuePair.state = .error from failed)]
    · rw [if_neg failed,
        if_neg (show ¬ (s.withIntake intake).queuePair.state = .error from failed)]
      rfl
  unfold breakOff
  rw [failing]
  rfl

/-- The stream ends where everything has been taken: the frame in arrival is lost, and so is the
link. -/
theorem CaughtUp.hangUp (caught : s.CaughtUp) (receiving : s.queuePair.intake.isSome = true) :
    s.hangUp registrations = s.breakOff := by
  obtain ⟨intake, hi⟩ := Option.isSome_iff_exists.mp receiving
  obtain ⟨stream, hl, now⟩ := Option.map_eq_some_iff.mp (caught receiving)
  obtain ⟨nothing, -⟩ := Prod.mk.inj now
  have ended : s.hangUp registrations =
      (s.withLink (some { stream.finish with waiting := [] })).breakOff := by
    simp only [Station.hangUp, settle, withLink, hi, hl, Option.map_some, Stream.finish, nothing,
      if_true, Station.receive, List.foldl_nil, endOfStream]
  rw [ended]
  exact breakOff_withLink (by rw [hl, ← nothing]; rfl)

theorem hangUp_stopped (stopped : s.queuePair.intake = none) :
    s.hangUp registrations = s.withLink (s.queuePair.link.map Stream.finish) :=
  settle_stopped (s := s.withLink (s.queuePair.link.map Stream.finish)) stopped

/-- A failed link has ended already. -/
theorem hangUp_failed (failed : s.breakOff = s) : s.hangUp registrations = s := by
  have stopped : s.queuePair.intake = none := by
    rw [← failed]
    rfl
  have link : s.queuePair.link.map Stream.finish = s.queuePair.link := by
    rw [← failed, link_breakOff]
    cases s.queuePair.link <;> rfl
  rw [hangUp_stopped stopped, link]
  rfl

theorem hangUp_withWaiting (stopped : s.queuePair.intake = none) (bytes : Bytes) :
    (s.withWaiting bytes).hangUp registrations =
      (s.hangUp registrations).withWaiting bytes := by
  rw [hangUp_stopped stopped, hangUp_stopped (s := s.withWaiting bytes) stopped]
  simp only [withWaiting, withLink, Option.map_map]
  rfl

end Station

namespace History

open Station

/-- Whoever is ready to send receives. -/
theorem receiving_step {h : History} (tracked : Tracked h) (event : QueuePairEvent)
    (before : h.station.queuePair.state = .readyToSend →
      h.station.queuePair.intake.isSome = true)
    (ready : (h.step event).station.queuePair.state = .readyToSend) :
    (h.step event).station.queuePair.intake.isSome = true := by
  have alive : (h.step event).station.queuePair.state ≠ .error := by
    rw [ready]
    decide
  -- a move that leaves the intake as it is leaves or ends the state
  have moved {a : List Request} (moves : Moves h.station a (h.step event).station)
      (intake : (h.step event).station.queuePair.intake = h.station.queuePair.intake) :
      (h.step event).station.queuePair.intake.isSome = true := by
    rw [intake]
    rcases moves.state.1 with same | failed
    · exact before (same.symm.trans ready)
    · exact absurd failed alive
  cases event with
  | toInit access =>
    simp only [step, after, QueuePair.toInit] at ready ⊢
    cases he : h.station.queuePair.expect [.reset] "RESET" with
    | error e =>
      rw [he] at ready
      exact before ready
    | ok _ =>
      rw [he] at ready
      cases ready
  | attach stream =>
    simp only [step, after, QueuePair.attach] at ready ⊢
    cases he : h.station.queuePair.expect [.reset, .init] "RESET or INIT" with
    | error e =>
      rw [he] at ready
      exact before ready
    | ok _ =>
      rw [he] at ready
      exact before ready
  | link peer ip conditions =>
    simp only [step, after] at ready ⊢
    -- an attempt to link does not make anybody ready to send
    rcases h.station.queuePair.toReadyToReceive_cases peer ip conditions with
      ⟨e, -, h⟩ | ⟨-, ⟨e, tried, h⟩ | ⟨link, h⟩⟩
    · rw [h] at ready ⊢
      exact before ready
    · rw [h] at ready
      cases ready
    · rw [h] at ready
      cases ready
  | start =>
    simp only [step, after] at ready ⊢
    cases started : h.station.queuePair.toReadyToSend with
    | error e =>
      rw [started] at ready
      exact before ready
    | ok q =>
      obtain ⟨-, -, rfl⟩ := QueuePair.toReadyToSend_eq_ok started
      rfl
  | postSend registrations send =>
    exact moved (moves_postSend registrations h.station send)
      (h.station.intake_postSend registrations send)
  | postReceive request =>
    exact moved (moves_postReceive h.station request) (h.station.intake_postReceive request)
  | receive registrations byte =>
    have moves := moves_feed registrations h.station byte
    have receiving : h.station.queuePair.intake.isSome = true := by
      rcases moves.state.1 with same | failed
      · exact before (same.symm.trans ready)
      · exact absurd failed alive
    obtain ⟨intake, hi⟩ := Option.isSome_iff_exists.mp receiving
    show (h.station.feed registrations byte).queuePair.intake.isSome = true
    cases harr : h.station.arrival? registrations byte with
    | none =>
      obtain ⟨longer, extended, -, -⟩ := extended_sound hi (tracked.sound intake hi) harr
      rw [feed_of_no_arrival harr, extended]
      rfl
    | some arrival =>
      rw [feed_of_arrival harr]
      rcases handle_cases registrations (h.station.withIntake (some (.header []))) arrival with
        on | stopped
      · rw [on.intake]
        rfl
      · rw [← feed_of_arrival harr] at stopped
        refine absurd ?_ alive
        show (h.station.feed registrations byte).queuePair.state = .error
        rw [← stopped.failed]
        exact state_fail _
  | endOfStream =>
    have same : h.station.endOfStream = h.station := by
      unfold endOfStream
      split
      · rfl
      · next intake hi =>
        refine absurd ?_ alive
        show h.station.endOfStream.queuePair.state = .error
        simp only [endOfStream, hi]
        exact h.station.state_fail
    show h.station.endOfStream.queuePair.intake.isSome = true
    rw [same]
    refine before ?_
    rw [← ready]
    exact congrArg (fun s : Station => s.queuePair.state) same.symm
  | poll most => exact before ready
  | remember memory => exact before ready

/-- A queue pair that is ready to send receives, and part of a frame at most has arrived. -/
theorem receiving_run (address : QueuePairAddress) (linkTimeout : Milliseconds) (depth : Nat)
    (memory : Memory) (events : List QueuePairEvent)
    (ready : ((fresh address linkTimeout depth memory).run events).station.queuePair.state =
      .readyToSend) :
    ∃ intake, ((fresh address linkTimeout depth memory).run events).station.queuePair.intake =
      some intake ∧ intake.Sound := by
  have receiving := run_induction (P := fun h => Kept h ∧ Tracked h ∧
      (h.station.queuePair.state = .readyToSend → h.station.queuePair.intake.isSome = true))
    ⟨kept_fresh address linkTimeout depth memory, tracked_fresh address linkTimeout depth memory,
      fun ready => by cases ready⟩
    (fun h event ⟨kept, tracked, before⟩ =>
      ⟨kept.step event, tracked.step kept event, receiving_step tracked event before⟩) events
  obtain ⟨-, tracked, receives⟩ := receiving
  obtain ⟨intake, hi⟩ := Option.isSome_iff_exists.mp (receives ready)
  exact ⟨intake, hi, tracked.sound intake hi⟩

/-- The receive path depends on the stream and not on how it is cut.  Pieces of the stream that
arrive at a queue pair that is ready to send have the effect that they have when they arrive at
once: on memory, completions, messages, work, state and intake; once the receiving has ended,
what is left on the link is not looked at.  That effect is the one of the complete frames, taken
one by one, up to the failure of the queue pair if there is one; of the frame that is not complete
only its bytes are kept.  If the stream ends there, the complete frames have had their effect and
the queue pair fails. -/
theorem cutting_changes_nothing (address : QueuePairAddress) (linkTimeout : Milliseconds)
    (depth : Nat) (memory : Memory) (events : List QueuePairEvent)
    (registrations : Registrations) (first : Bytes) (rest : List Bytes) :
    let s := ((fresh address linkTimeout depth memory).run events).station
    s.queuePair.state = .readyToSend → s.queuePair.link.map Stream.ended = some false →
      let once := s.hear registrations (first ++ rest.flatten)
      let cut := rest.foldl (hear registrations) (s.hear registrations first)
      (∃ unread, cut = once.withWaiting unread ∧
        cut.hangUp registrations = (once.hangUp registrations).withWaiting unread) ∧
      ∃ (intake : Intake) (frames : List Frame) (part : Bytes),
        s.queuePair.intake = some intake ∧ (∀ f ∈ frames, f.Whole) ∧
        intake.bytes ++ (s.waiting ++ (first ++ rest.flatten)) =
          frames.flatMap Frame.toBytes ++ part ∧
        let done := frames.foldl (takeFrame registrations) s.emptied
        ((∃ longer : Intake, longer.Sound ∧ longer.bytes = part ∧
            done.queuePair.intake.isSome = true ∧ once = done.withIntake (some longer)) ∨
          (done.breakOff = done ∧ once = done)) ∧
        once.hangUp registrations = done.breakOff := by
  intro s ready opened once cut
  obtain ⟨intake, hi, sound⟩ := receiving_run address linkTimeout depth memory events ready
  have receiving : s.queuePair.intake.isSome = true := Option.isSome_iff_exists.mpr ⟨intake, hi⟩
  have hears (piece : Bytes) : s.hear registrations piece =
      s.emptied.receive registrations (s.waiting ++ piece) := hear_receiving receiving opened piece
  have caught (piece : Bytes) : (s.hear registrations piece).CaughtUp := by
    rw [hears]
    exact (caughtUp_emptied opened).receive registrations _
  refine ⟨?_, ?_⟩
  · have all : (s.hear registrations first).receive registrations rest.flatten = once := by
      simp only [once, hears, ← receive_append, List.append_assoc]
    obtain ⟨unread, taken, heq⟩ := (caught first).foldl_hear registrations rest
    rw [all] at taken heq
    refine ⟨unread, heq, ?_⟩
    rw [show cut = once.withWaiting unread from heq]
    cases stopped : once.queuePair.intake with
    | none => exact hangUp_withWaiting stopped unread
    | some longer =>
      rw [taken (by rw [stopped]; rfl), withWaiting_nil, withWaiting_nil]
  · obtain ⟨frames, part, whole, split, now⟩ := receive_cases (s := s.emptied) registrations hi
      sound (s.waiting ++ (first ++ rest.flatten))
    rw [← hears] at now
    refine ⟨intake, frames, part, hi, whole, split, ?_⟩
    intro done
    rcases now with ⟨longer, partly, bytes, awaits, heq⟩ | ⟨failed, heq⟩
    · refine ⟨Or.inl ⟨longer, partly, bytes, awaits.receiving, heq⟩, ?_⟩
      have going : once.queuePair.intake.isSome = true := by
        rw [show once = _ from heq]
        rfl
      rw [(caught _).hangUp going, heq, breakOff_withIntake]
    · refine ⟨Or.inr ⟨failed, heq⟩, ?_⟩
      rw [show once = done from heq, hangUp_failed failed]
      exact failed.symm

/-- The calls that make a queue pair ready to send to a peer that has greeted it. -/
def greeted : List QueuePairEvent :=
  let peer : QueuePairAddress := ⟨2, 0, 0, ⟨0⟩⟩
  [.toInit Access.all, .attach (Stream.ofBytes (Header.hello 2 1).toBytes false),
    .link peer (.v6 peer.gid.toIpv6) ⟨fun _ => .error .timedOut, none, 0⟩, .start]

/-- A write arrives in three pieces, cut in its header and in its payload, and is applied. -/
theorem write_in_pieces_applied :
    let region : Region := ⟨"region", 4096, 4, fun _ => 0, by decide⟩
    let s := ((fresh ⟨1, 0, 0, ⟨0⟩⟩ ⟨1000⟩ 4 ⟨[region]⟩).run greeted).station
    let table : Registrations := ⟨[⟨1, 5, 4096, 4, Access.all, ⟨0⟩⟩], 1⟩
    let bytes := (Header.write 1 4096 5 4 none).toBytes ++ [1, 2, 3, 4]
    let first := bytes.take 10
    let rest := [(bytes.drop 10).take 24, bytes.drop 34]
    let cut := rest.foldl (hear table) (s.hear table first)
    s.queuePair.state = .readyToSend ∧ s.queuePair.link.map Stream.ended = some false ∧
      cut.memory.read ⟨0⟩ 0 4 = .ok [1, 2, 3, 4] ∧
      ∃ unread, cut = (s.hear table (first ++ rest.flatten)).withWaiting unread ∧
        cut.hangUp table =
          ((s.hear table (first ++ rest.flatten)).hangUp table).withWaiting unread := by
  intro region s table bytes first rest cut
  have ready : s.queuePair.state = .readyToSend := by decide +kernel
  have opened : s.queuePair.link.map Stream.ended = some false := by decide +kernel
  refine ⟨ready, opened, by decide +kernel, ?_⟩
  exact (cutting_changes_nothing ⟨1, 0, 0, ⟨0⟩⟩ ⟨1000⟩ 4 ⟨[region]⟩ greeted table first rest ready
    opened).1

end History

end RdmaLink
