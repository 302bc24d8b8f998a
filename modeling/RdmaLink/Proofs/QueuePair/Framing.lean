import RdmaLink.Proofs.QueuePair.Accounting
import RdmaLink.Proofs.QueuePair.Effects

/-!
# The stream as frames

What a queue pair takes off its stream is one frame after the other, and then the part of a frame
that has arrived (`Tracked`).  A frame in full is never the beginning of another, so there is one
way only to cut a stream.

    fs.flatMap toBytes = gs.flatMap toBytes ++ part, part the beginning of g →
      part = [] ∧ fs = gs, or part = g.toBytes ∧ fs = gs ++ [g]         (Frame.eq_of_flatMap)

The answer to a read is told from other data when its header is complete, and its payload takes
many bytes more.  `Tracked` also carries over them what was known then: the read under that
number, if it still waits, has the length of the header.
-/

namespace RdmaLink

/-! ## Frames in full -/

namespace Frame

/-- A frame whose payload is as long as its header says. -/
def Whole (frame : Frame) : Prop := frame.payload.length = frame.header.payloadLength

theorem length_toBytes (frame : Frame) :
    frame.toBytes.length = Header.size + frame.payload.length := by
  simp [toBytes]

theorem toBytes_ne_nil (frame : Frame) : frame.toBytes ≠ [] := by
  intro h
  have := frame.length_toBytes
  rw [h] at this
  simp [Header.size] at this
  omega

/-- A frame in full is not the beginning of another. -/
theorem Whole.eq_of_begins {f g : Frame} (hf : f.Whole) (hg : g.Whole)
    (h : f.toBytes <+: g.toBytes) : f = g := by
  obtain ⟨fh, fp⟩ := f
  obtain ⟨gh, gp⟩ := g
  obtain ⟨rest, hr⟩ := h
  simp only [toBytes, List.append_assoc] at hr
  obtain ⟨hh, hp⟩ := List.append_inj hr (by simp)
  have heq : fh = gh := by
    have := Header.ofBytes?_toBytes fh
    rw [hh, Header.ofBytes?_toBytes] at this
    exact (Option.some.inj this).symm
  subst heq
  have hlen : fp.length = gp.length := Eq.trans hf (Eq.symm hg)
  have hrest : rest = [] := by
    have := congrArg List.length hp
    rw [List.length_append] at this
    exact List.length_eq_zero_iff.mp (by omega)
  rw [hrest, List.append_nil] at hp
  rw [hp]

/-- Bytes begin with one frame in full at most. -/
theorem Whole.eq_of_append {f g : Frame} (hf : f.Whole) (hg : g.Whole) {a b : Bytes}
    (h : f.toBytes ++ a = g.toBytes ++ b) : f = g := by
  rcases List.prefix_or_prefix_of_prefix (List.prefix_append f.toBytes a)
    (h ▸ List.prefix_append g.toBytes b) with hp | hp
  · exact hf.eq_of_begins hg hp
  · exact (hg.eq_of_begins hf hp).symm

/-- There is one way to cut bytes into frames in full and the beginning of another. -/
theorem eq_of_flatMap {g : Frame} (hg : g.Whole) {part : Bytes} (hpart : part <+: g.toBytes)
    {fs gs : List Frame} (hfs : ∀ f ∈ fs, f.Whole) (hgs : ∀ f ∈ gs, f.Whole)
    (h : fs.flatMap toBytes = gs.flatMap toBytes ++ part) :
    (part = [] ∧ fs = gs) ∨ (part = g.toBytes ∧ fs = gs ++ [g]) := by
  induction gs generalizing fs with
  | nil =>
    simp only [List.flatMap_nil, List.nil_append] at h
    cases fs with
    | nil => exact Or.inl ⟨h.symm, rfl⟩
    | cons f rest =>
      rw [List.flatMap_cons] at h
      have hfg : f = g := by
        refine (hfs f List.mem_cons_self).eq_of_begins hg (List.IsPrefix.trans ?_ hpart)
        exact ⟨_, h⟩
      subst hfg
      -- the first frame is all of the part
      obtain ⟨more, hmore⟩ := hpart
      rw [← h, List.append_assoc] at hmore
      have hnil : rest.flatMap toBytes ++ more = [] :=
        List.append_cancel_left (hmore.trans (List.append_nil _).symm)
      have hrest : rest.flatMap toBytes = [] := (List.append_eq_nil_iff.mp hnil).1
      rw [hrest, List.append_nil] at h
      refine Or.inr ⟨h.symm, ?_⟩
      cases rest with
      | nil => rfl
      | cons f' rest' =>
        rw [List.flatMap_cons] at hrest
        exact absurd (List.append_eq_nil_iff.mp hrest).1 f'.toBytes_ne_nil
  | cons g' gs ih =>
    rw [List.flatMap_cons, List.append_assoc] at h
    cases fs with
    | nil =>
      rw [List.flatMap_nil] at h
      exact absurd (List.append_eq_nil_iff.mp h.symm).1 g'.toBytes_ne_nil
    | cons f rest =>
      rw [List.flatMap_cons] at h
      have heq : f = g' :=
        (hfs f List.mem_cons_self).eq_of_append (hgs g' List.mem_cons_self) h
      subst heq
      rcases ih (fun x hx => hfs x (List.mem_cons_of_mem _ hx))
        (fun x hx => hgs x (List.mem_cons_of_mem _ hx)) (List.append_cancel_left h) with
        ⟨h1, h2⟩ | ⟨h1, h2⟩
      · exact Or.inl ⟨h1, by rw [h2]⟩
      · exact Or.inr ⟨h1, by rw [h2]; rfl⟩

end Frame

/-- A frame that has arrived in full is one. -/
theorem Arrival.Sound.whole {arrival : Arrival} (sound : arrival.Sound) : arrival.frame.Whole :=
  sound.length

namespace History

/-! ## The frame in arrival -/

/-- What is known of the frame in arrival: the bytes taken before it are frames in full, and if it
answers a read, then no other length waits under its number.  Nothing is taken off the stream
before the queue pair is ready to send. -/
structure Tracked (h : History) : Prop where
  sound : ∀ intake, h.station.queuePair.intake = some intake → intake.Sound
  received : ∀ intake, h.station.queuePair.intake = some intake →
    ∃ frames : List Frame, (∀ f ∈ frames, f.Whole) ∧
      h.received = frames.flatMap Frame.toBytes ++ intake.bytes
  early : h.station.queuePair.state ≠ .readyToSend → h.station.queuePair.state ≠ .error →
    h.station.queuePair.intake = none ∧ h.received = []
  answers : ∀ header reversed missing,
    h.station.queuePair.intake = some (.payload header .answer reversed missing) →
      header.sequence.toNat < h.station.queuePair.nextSequence ∧
      ∀ send, h.station.queuePair.work.send? header.sequence.toNat = some send →
        send.length = header.length

theorem Tracked.of_none {h : History} (hi : h.station.queuePair.intake = none)
    (early : h.station.queuePair.state ≠ .readyToSend → h.station.queuePair.state ≠ .error →
      h.received = []) : Tracked h := by
  refine ⟨?_, ?_, fun h1 h2 => ⟨hi, early h1 h2⟩, ?_⟩
  · intro _ h'; cases hi.symm.trans h'
  · intro _ h'; cases hi.symm.trans h'
  · intro _ _ _ h'; cases hi.symm.trans h'

theorem Tracked.of_boundary {h : History} (frames : List Frame)
    (hi : h.station.queuePair.intake = some (.header []))
    (late : h.station.queuePair.state = .readyToSend ∨ h.station.queuePair.state = .error)
    (whole : ∀ f ∈ frames, f.Whole) (received : h.received = frames.flatMap Frame.toBytes) :
    Tracked h := by
  refine ⟨?_, ?_, ?_, ?_⟩
  · intro _ h'
    cases hi.symm.trans h'
    exact (by decide : 0 < Header.size)
  · intro _ h'
    cases hi.symm.trans h'
    exact ⟨frames, whole, by rw [received]; simp [Intake.bytes]⟩
  · intro h1 h2
    rcases late with hl | hl
    · exact absurd hl h1
    · exact absurd hl h2
  · intro _ _ _ h'; cases hi.symm.trans h'

theorem tracked_fresh (address : QueuePairAddress) (linkTimeout : Milliseconds) (depth : Nat)
    (memory : Memory) : Tracked (fresh address linkTimeout depth memory) :=
  Tracked.of_none rfl fun _ _ => rfl

/-- The state after an event is the one before it, the error state, or a later one. -/
theorem state_after (s : Station) (event : QueuePairEvent) :
    (s.after event).queuePair.state = s.queuePair.state ∨
      (s.after event).queuePair.state = .error ∨
      (s.queuePair.state ≠ .readyToSend ∧ s.queuePair.state ≠ .error) := by
  rcases after_cases s event with ⟨queuePair, set, heq, -, -⟩ | ⟨most, rfl⟩ | ⟨m, -⟩
  · exact Or.inr (Or.inr ⟨set.young, set.alive⟩)
  · exact Or.inl rfl
  · exact m.state.1.imp_right Or.inl

/-- An event that takes no byte leaves the intake as it is, ends it or starts it. -/
theorem intake_after (s : Station) (event : QueuePairEvent)
    (other : ∀ registrations byte, event ≠ .receive registrations byte) :
    Station.IntakeKept s (s.after event) ∨
      (s.queuePair.state = .readyToReceive ∧ (s.after event).queuePair.state = .readyToSend ∧
        (s.after event).queuePair.intake = some (.header [])) := by
  have advanced : ∀ result : Except DeviceError QueuePair,
      (∀ queuePair, result = .ok queuePair → s.queuePair.SetUp queuePair) →
      Station.IntakeKept s (s.advance result) ∨
        (s.queuePair.state = .readyToReceive ∧
          (s.advance result).queuePair.state = .readyToSend ∧
          (s.advance result).queuePair.intake = some (.header [])) := by
    intro result hset
    cases result with
    | ok queuePair => exact (hset queuePair rfl).intake.imp_left Or.inl
    | error e => exact Or.inl (Or.inl rfl)
  cases event with
  | toInit access => exact advanced _ fun _ => QueuePair.setUp_toInit
  | attach stream => exact advanced _ fun _ => QueuePair.setUp_attach
  | link peer ip conditions =>
    rcases s.queuePair.setUp_toReadyToReceive peer ip conditions with h | h
    · exact Or.inl (Or.inl (by simp only [Station.after, h]))
    · exact h.intake.imp_left Or.inl
  | start => exact advanced _ fun _ => QueuePair.setUp_toReadyToSend
  | postSend registrations send =>
    exact Or.inl (Or.inl (s.intake_postSend registrations send))
  | postReceive request => exact Or.inl (Or.inl (s.intake_postReceive request))
  | receive registrations byte => exact absurd rfl (other registrations byte)
  | endOfStream =>
    refine Or.inl ?_
    simp only [Station.after, Station.endOfStream]
    split
    · exact Or.inl rfl
    · exact Or.inr rfl
  | poll most => exact Or.inl (Or.inl rfl)
  | remember memory => exact Or.inl (Or.inl rfl)

theorem reads_of_other (s : Station) (event : QueuePairEvent)
    (other : ∀ registrations byte, event ≠ .receive registrations byte) :
    reads s event = [] := by
  cases event with
  | receive registrations byte => exact absurd rfl (other registrations byte)
  | _ => rfl

/-- What has been received stays so; nothing is received early. -/
theorem Tracked.early_step {h : History} (tracked : Tracked h) (event : QueuePairEvent)
    (h1 : (h.station.after event).queuePair.state ≠ .readyToSend)
    (h2 : (h.station.after event).queuePair.state ≠ .error) :
    (h.step event).received = [] := by
  have late : h.station.queuePair.state ≠ .readyToSend ∧ h.station.queuePair.state ≠ .error := by
    rcases state_after h.station event with hs | hs | hs
    · rw [hs] at h1 h2; exact ⟨h1, h2⟩
    · exact absurd hs h2
    · exact hs
  obtain ⟨hi, hr⟩ := tracked.early late.1 late.2
  show h.received ++ reads h.station event = []
  rw [hr, List.nil_append]
  cases event with
  | receive registrations byte => simp only [reads, hi, Option.isSome_none]; rfl
  | _ => rfl

theorem Tracked.step_other {h : History} (tracked : Tracked h) (event : QueuePairEvent)
    (other : ∀ registrations byte, event ≠ .receive registrations byte) :
    Tracked (h.step event) := by
  have hreads : (h.step event).received = h.received := by
    show h.received ++ reads h.station event = h.received
    rw [reads_of_other h.station event other, List.append_nil]
  have ages := ages_after h.station event
  rcases intake_after h.station event other with (hi | hi) | ⟨hs, ht, hi⟩
  · refine ⟨?_, ?_, ?_, ?_⟩
    · simp only [step, hi]; exact tracked.sound
    · rw [hreads]
      simp only [step, hi]
      exact tracked.received
    · intro h1 h2
      have hr := tracked.early_step event h1 h2
      rcases state_after h.station event with hs | hs | hs
      · exact ⟨hi.trans (tracked.early (hs ▸ h1) (hs ▸ h2)).1, hr⟩
      · exact absurd hs h2
      · exact ⟨hi.trans (tracked.early hs.1 hs.2).1, hr⟩
    · intro header reversed missing hp
      simp only [step, hi] at hp
      obtain ⟨hlt, hsend⟩ := tracked.answers header reversed missing hp
      exact ⟨Nat.lt_of_lt_of_le hlt ages.numbering,
        fun send hs => hsend send (ages.old _ send hlt hs)⟩
  · exact Tracked.of_none hi (tracked.early_step event)
  · have early := tracked.early (by rw [hs]; decide) (by rw [hs]; decide)
    exact Tracked.of_boundary [] hi (Or.inl ht) (by simp)
      (by rw [hreads, early.2]; rfl)

/-- The answer to a read is told from other data by the read that waits. -/
theorem send?_of_answer {registrations : Registrations} {s : Station} {header : Header}
    (h : s.disposal? registrations header = some .answer) :
    ∃ send, s.queuePair.work.send? header.sequence.toNat = some send ∧
      send.length = header.length := by
  unfold Station.disposal? at h
  split at h
  · split at h <;> cases h
  · split at h
    · simp only at h
      split at h
      · next hw => exact Option.map_eq_some_iff.mp hw
      · cases h
    · cases h

/-- A send that waits has been given its number. -/
theorem lt_nextSequence {work : Work} {next sequence : Nat} {send : PendingSend}
    (numbered : work.Numbered next) (hs : work.send? sequence = some send) : sequence < next := by
  obtain ⟨a, b, hab, -⟩ := numbered.split hs
  exact numbered.below (sequence, send) (by rw [hab]; simp)

/-- The bytes of a frame that a byte completes came last, behind frames in full. -/
theorem Tracked.arrival {h : History} (tracked : Tracked h) {registrations : Registrations}
    {byte : UInt8} {arrival : Arrival}
    (harr : h.station.arrival? registrations byte = some arrival) :
    (∃ frames : List Frame, (∀ f ∈ frames, f.Whole) ∧
      h.received ++ [byte] = frames.flatMap Frame.toBytes ++ arrival.frame.toBytes) ∧
      arrival.Sound := by
  cases hi : h.station.queuePair.intake with
  | none => exact absurd hi (Station.receiving_of_arrival harr)
  | some intake =>
    obtain ⟨hbytes, hsound⟩ := Station.arrival_sound hi (tracked.sound intake hi) harr
    obtain ⟨frames, hwhole, hr⟩ := tracked.received intake hi
    exact ⟨⟨frames, hwhole, by rw [hbytes, hr, List.append_assoc]⟩, hsound⟩

/-- The answer to a read that still waits is as long as the read. -/
theorem Tracked.answer_length {h : History} (tracked : Tracked h) {registrations : Registrations}
    {byte : UInt8} {arrival : Arrival} {send : PendingSend}
    (harr : h.station.arrival? registrations byte = some arrival)
    (answer : arrival.disposal = some .answer)
    (hs : h.station.queuePair.work.send? arrival.header.sequence.toNat = some send) :
    arrival.header.length = send.length := by
  unfold Station.arrival? at harr
  split at harr
  · cases harr
  · split at harr
    · cases harr
    · next header _ =>
      simp only at harr
      split at harr
      · cases harr
      · cases harr
        obtain ⟨send', hs', hlen⟩ := send?_of_answer answer
        cases hs'.symm.trans hs
        exact hlen.symm
  · next header disposal reversed missing hi =>
    split at harr
    · cases harr
      cases answer
      exact ((tracked.answers header reversed missing hi).2 send hs).symm
    · cases harr

/-- A payload that is taken as the answer to a read is as long as the read, and the read waits
when its header is complete. -/
theorem answers_extended {s : Station} {registrations : Registrations} {byte : UInt8}
    {header : Header} {reversed : Bytes} {missing : Nat}
    (numbered : s.queuePair.work.Numbered s.queuePair.nextSequence)
    (before : ∀ header reversed missing,
      s.queuePair.intake = some (.payload header .answer reversed missing) →
        header.sequence.toNat < s.queuePair.nextSequence ∧
          ∀ send, s.queuePair.work.send? header.sequence.toNat = some send →
            send.length = header.length)
    (h : s.extended registrations byte = some (.payload header .answer reversed missing)) :
    header.sequence.toNat < s.queuePair.nextSequence ∧
      ∀ send, s.queuePair.work.send? header.sequence.toNat = some send →
        send.length = header.length := by
  unfold Station.extended at h
  cases hi : s.queuePair.intake with
  | none => rw [hi] at h; cases h
  | some intake =>
    rw [hi] at h
    cases intake with
    | header received =>
      simp only at h
      split at h
      · cases h
      · split at h
        · next disposal hdis =>
          cases h
          obtain ⟨send, hs, hlen⟩ := send?_of_answer hdis
          refine ⟨lt_nextSequence numbered hs, ?_⟩
          intro send' hs'
          rw [hs] at hs'
          cases hs'
          exact hlen
        · cases h
    | payload front disposal reversed' missing' =>
      cases h
      exact before header reversed' missing' hi

theorem received_of_receiving {h : History} {registrations : Registrations} {byte : UInt8}
    {intake : Intake} (hi : h.station.queuePair.intake = some intake) :
    (h.step (.receive registrations byte)).received = h.received ++ [byte] := by
  simp only [step, reads, hi, Option.isSome_some, if_true]

/-- Receiving goes on only while the queue pair is ready to send, or has failed. -/
theorem Tracked.late {h : History} (tracked : Tracked h) {intake : Intake}
    (hi : h.station.queuePair.intake = some intake) :
    h.station.queuePair.state = .readyToSend ∨ h.station.queuePair.state = .error := by
  by_cases h1 : h.station.queuePair.state = .readyToSend
  · exact Or.inl h1
  · by_cases h2 : h.station.queuePair.state = .error
    · exact Or.inr h2
    · rw [(tracked.early h1 h2).1] at hi; cases hi

theorem Tracked.step_receive {h : History} (tracked : Tracked h) (kept : Kept h)
    (registrations : Registrations) (byte : UInt8) :
    Tracked (h.step (.receive registrations byte)) := by
  cases hi : h.station.queuePair.intake with
  | none =>
    have hfeed : h.station.feed registrations byte = h.station := by
      unfold Station.feed
      rw [hi]
    refine Tracked.of_none ?_ (tracked.early_step _)
    show (h.station.feed registrations byte).queuePair.intake = none
    rw [hfeed, hi]
  | some intake =>
    have hread : (h.step (.receive registrations byte)).received = h.received ++ [byte] :=
      received_of_receiving hi
    have late : (h.station.feed registrations byte).queuePair.state = .readyToSend ∨
        (h.station.feed registrations byte).queuePair.state = .error := by
      have hs := (Station.moves_feed registrations h.station byte).state.1
      rcases tracked.late hi with hl | hl
      · rw [hl] at hs; exact hs
      · rw [hl] at hs; exact hs.elim Or.inr Or.inr
    cases harr : h.station.arrival? registrations byte with
    | some arrival =>
      -- a frame is complete: the next one begins, or nothing is received any more
      have hkept := Station.intakeKept_handle registrations
        (h.station.withIntake (some (.header []))) arrival
      rw [← Station.feed_of_arrival harr] at hkept
      obtain ⟨⟨frames, hwhole, hr⟩, hsound⟩ := tracked.arrival harr
      rcases hkept with hk | hk
      · refine Tracked.of_boundary (frames ++ [arrival.frame]) hk late ?_ ?_
        · intro f hf
          rcases List.mem_append.mp hf with hf | hf
          · exact hwhole f hf
          · rw [List.mem_singleton.mp hf]; exact hsound.whole
        · rw [hread, hr]; simp
      · exact Tracked.of_none hk (tracked.early_step _)
    | none =>
      obtain ⟨longer, hext, hsound, hbytes⟩ :=
        Station.extended_sound hi (tracked.sound intake hi) harr
      have hnow : (h.step (.receive registrations byte)).station =
          h.station.withIntake (some longer) := by
        simp only [step, Station.after, Station.feed_of_no_arrival harr, hext]
      refine ⟨?_, ?_, ?_, ?_⟩
      · intro i h'
        rw [hnow] at h'
        cases h'
        exact hsound
      · intro i h'
        rw [hnow] at h'
        cases h'
        obtain ⟨frames, hwhole, hr⟩ := tracked.received intake hi
        exact ⟨frames, hwhole, by rw [hread, hbytes, hr, List.append_assoc]⟩
      · intro h1 h2
        rcases late with hl | hl
        · exact absurd hl h1
        · exact absurd hl h2
      · intro header reversed missing h'
        rw [hnow] at h' ⊢
        cases h'
        have awaited := answers_extended kept.balanced.numbered tracked.answers hext
        exact awaited

theorem Tracked.step {h : History} (tracked : Tracked h) (kept : Kept h)
    (event : QueuePairEvent) : Tracked (h.step event) := by
  by_cases other : ∀ registrations byte, event ≠ .receive registrations byte
  · exact tracked.step_other event other
  · simp only [not_forall, ne_eq, not_not] at other
    obtain ⟨registrations, byte, rfl⟩ := other
    exact tracked.step_receive kept registrations byte

/-- Every history of a fresh queue pair is tracked. -/
theorem tracked_run (address : QueuePairAddress) (linkTimeout : Milliseconds) (depth : Nat)
    (memory : Memory) (events : List QueuePairEvent) :
    Kept ((fresh address linkTimeout depth memory).run events) ∧
      Tracked ((fresh address linkTimeout depth memory).run events) := by
  refine run_induction (P := fun h => Kept h ∧ Tracked h)
    ⟨kept_fresh address linkTimeout depth memory, tracked_fresh address linkTimeout depth memory⟩
    ?_ events
  rintro h event ⟨kept, tracked⟩
  exact ⟨kept.step event, tracked.step kept event⟩

/-! ## The frames that have arrived -/

/-- The frame that an event completes. -/
def arrives (station : Station) : QueuePairEvent → List Arrival
  | .receive registrations byte => (station.arrival? registrations byte).toList
  | _ => []

/-- The bytes taken off the stream begin with the frames that have arrived, and while frames are
received, nothing but part of the next one follows. -/
structure Framed (h : History) (arrivals : List Arrival) : Prop where
  front : ∃ rest, h.received = arrivals.flatMap (fun a => a.frame.toBytes) ++ rest
  rest : ∀ intake, h.station.queuePair.intake = some intake →
    h.received = arrivals.flatMap (fun a => a.frame.toBytes) ++ intake.bytes

theorem framed_fresh (address : QueuePairAddress) (linkTimeout : Milliseconds) (depth : Nat)
    (memory : Memory) : Framed (fresh address linkTimeout depth memory) [] := by
  refine ⟨⟨[], rfl⟩, ?_⟩
  intro intake hi
  cases hi

theorem Framed.step_receive {h : History} {arrivals : List Arrival} (framed : Framed h arrivals)
    (tracked : Tracked h) (registrations : Registrations) (byte : UInt8) :
    Framed (h.step (.receive registrations byte))
      (arrivals ++ arrives h.station (.receive registrations byte)) := by
  have now : (h.step (.receive registrations byte)).station =
    h.station.feed registrations byte := rfl
  cases hi : h.station.queuePair.intake with
  | none =>
    have nothing : h.station.arrival? registrations byte = none := by
      cases harr : h.station.arrival? registrations byte with
      | none => rfl
      | some arrival => exact absurd hi (Station.receiving_of_arrival harr)
    have same : h.station.feed registrations byte = h.station := by
      unfold Station.feed
      rw [hi]
    simp only [arrives, nothing, Option.toList_none, List.append_nil]
    refine ⟨?_, ?_⟩
    · simp only [History.step, reads, hi, Option.isSome_none, Bool.false_eq_true, if_false,
        List.append_nil]
      exact framed.front
    · intro intake h'
      rw [now, same, hi] at h'
      cases h'
  | some intake =>
    have read : (h.step (.receive registrations byte)).received = h.received ++ [byte] :=
      received_of_receiving hi
    cases harr : h.station.arrival? registrations byte with
    | some arrival =>
      obtain ⟨bytes, -⟩ := Station.arrival_sound hi (tracked.sound intake hi) harr
      have all : (h.step (.receive registrations byte)).received =
          (arrivals ++ [arrival]).flatMap fun a => a.frame.toBytes := by
        rw [read, framed.rest intake hi, List.append_assoc, ← bytes]
        simp
      simp only [arrives, harr, Option.toList_some]
      refine ⟨⟨[], by rw [all, List.append_nil]⟩, ?_⟩
      intro next h'
      rw [now, Station.feed_of_arrival harr] at h'
      rcases Station.intakeKept_handle registrations
        (h.station.withIntake (some (.header []))) arrival with hk | hk
      · cases hk.symm.trans h'
        rw [all]
        exact (List.append_nil _).symm
      · cases hk.symm.trans h'
    | none =>
      obtain ⟨longer, hext, -, bytes⟩ :=
        Station.extended_sound hi (tracked.sound intake hi) harr
      have all : (h.step (.receive registrations byte)).received =
          arrivals.flatMap (fun a => a.frame.toBytes) ++ longer.bytes := by
        rw [read, framed.rest intake hi, List.append_assoc, bytes]
      simp only [arrives, harr, Option.toList_none, List.append_nil]
      refine ⟨⟨_, all⟩, ?_⟩
      intro next h'
      rw [now, Station.feed_of_no_arrival harr, hext] at h'
      cases h'
      exact all

theorem Framed.step {h : History} {arrivals : List Arrival} (framed : Framed h arrivals)
    (tracked : Tracked h) (event : QueuePairEvent) :
    Framed (h.step event) (arrivals ++ arrives h.station event) := by
  by_cases receiving : ∃ registrations byte, event = .receive registrations byte
  · obtain ⟨registrations, byte, rfl⟩ := receiving
    exact framed.step_receive tracked registrations byte
  · have other : ∀ registrations byte, event ≠ .receive registrations byte :=
      fun registrations byte same => receiving ⟨registrations, byte, same⟩
    have none : arrives h.station event = [] := by
      cases event with
      | receive registrations byte => exact absurd rfl (other registrations byte)
      | _ => rfl
    have read : (h.step event).received = h.received := by
      simp only [History.step, reads_of_other h.station event other, List.append_nil]
    rw [none, List.append_nil]
    refine ⟨by rw [read]; exact framed.front, ?_⟩
    intro intake hi
    rw [read]
    rcases intake_after h.station event other with (hk | hk) | ⟨early, -, hk⟩
    · exact framed.rest intake (hk.symm.trans hi)
    · cases hk.symm.trans hi
    · -- receiving begins, and nothing was received before
      cases hk.symm.trans hi
      have empty := (tracked.early (by rw [early]; decide) (by rw [early]; decide)).2
      obtain ⟨rest, front⟩ := framed.front
      rw [empty] at front ⊢
      rw [(List.append_eq_nil_iff.mp front.symm).1]
      rfl

end History

end RdmaLink
