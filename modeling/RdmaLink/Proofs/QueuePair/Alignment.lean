import Mathlib.Data.List.Induction
import RdmaLink.Proofs.QueuePair.Accounting
import RdmaLink.Proofs.QueuePair.Exchange
import RdmaLink.Proofs.QueuePair.Framing

/-!
# Sender and receiver stay aligned

A queue pair writes frames of five forms only (`Frame.Emitted`), and each has the payload that its
header tells of.  A queue pair that takes such frames, whatever it makes of them and whatever
becomes of it in between (`Station.Takes`), takes one after the other:

    (h.run later).wire = h.wire ++ frames.flatMap toBytes, every frame Emitted
                                                                    (History.emits_run)
    s.Takes bytes taken t → bytes <+: frames.flatMap toBytes → Aligned frames bytes taken t
                                                                    (Station.Takes.aligned)

After each frame the receiving goes on at the first byte behind it.  Only a link that does not
take an answer ends it (`Station.Proceeds`).
-/

namespace RdmaLink

namespace Frame

/-- A frame that a queue pair can write to its link, with any numbers in its fields. -/
inductive Emitted : Frame → Prop
  | write (sequence address : UInt64) (key length : UInt32) (immediate : Option UInt32)
      (payload : Bytes) (full : payload.length = length.toNat) :
      Emitted ⟨Header.write sequence address key length immediate, payload⟩
  | readRequest (sequence address : UInt64) (key length : UInt32) :
      Emitted ⟨Header.readRequest sequence address key length, []⟩
  /-- A read is answered with its data. -/
  | data (sequence : UInt64) (length : UInt32) (payload : Bytes)
      (full : payload.length = length.toNat) :
      Emitted ⟨Header.readResponse sequence Status.success.code length, payload⟩
  /-- A read is answered with the reason why there is no data. -/
  | reason (sequence : UInt64) (status : UInt8) (length : UInt32)
      (failed : Status.ofCode status ≠ .success) :
      Emitted ⟨Header.readResponse sequence status length, []⟩
  | acknowledgement (sequence : UInt64) (status : UInt8) :
      Emitted ⟨Header.acknowledgement sequence status, []⟩

namespace Emitted

variable {frame : Frame}

/-- A frame that is written has the payload that its header tells of. -/
theorem whole (emitted : frame.Emitted) : frame.Whole := by
  cases emitted with
  | write sequence address key length immediate payload full =>
    have loaded : (Header.write sequence address key length immediate).HasPayload := by
      cases immediate with
      | none => exact Or.inl rfl
      | some _ => exact Or.inr (Or.inl rfl)
    rw [Whole, Header.payloadLength, if_pos loaded]
    exact full
  | readRequest sequence address key length => rfl
  | data sequence length payload full =>
    have loaded : (Header.readResponse sequence Status.success.code length).HasPayload :=
      Or.inr (Or.inr ⟨rfl, rfl⟩)
    rw [Whole, Header.payloadLength, if_pos loaded]
    exact full
  | reason sequence status length failed =>
    have bare : ¬ (Header.readResponse sequence status length).HasPayload := by
      rintro (h | h | ⟨-, h⟩)
      · cases h
      · cases h
      · exact failed h
    rw [Whole, Header.payloadLength, if_neg bare]
    rfl
  | acknowledgement sequence status => rfl

/-- A frame that is written asks for something or answers. -/
theorem known (emitted : frame.Emitted) : frame.isRequest = true ∨ frame.isAnswer = true := by
  cases emitted with
  | write _ _ _ _ immediate => cases immediate <;> exact Or.inl rfl
  | readRequest => exact Or.inl rfl
  | data => exact Or.inr rfl
  | reason => exact Or.inr rfl
  | acknowledgement => exact Or.inr rfl

end Emitted

/-- Frames in full whose bytes come first are the first frames. -/
theorem prefix_of_flatMap {fs gs : List Frame} (hfs : ∀ f ∈ fs, f.Whole)
    (hgs : ∀ g ∈ gs, g.Whole) (h : fs.flatMap toBytes <+: gs.flatMap toBytes) : fs <+: gs := by
  induction fs generalizing gs with
  | nil => exact List.nil_prefix
  | cons f rest ih =>
    obtain ⟨more, hmore⟩ := h
    rw [List.flatMap_cons, List.append_assoc] at hmore
    cases gs with
    | nil => exact absurd (List.append_eq_nil_iff.mp hmore).1 f.toBytes_ne_nil
    | cons g gs =>
      rw [List.flatMap_cons] at hmore
      have same : f = g := (hfs f List.mem_cons_self).eq_of_append (hgs g List.mem_cons_self) hmore
      subst same
      refine List.cons_prefix_cons.mpr ⟨rfl, ih (fun x hx => hfs x (List.mem_cons_of_mem _ hx))
        (fun x hx => hgs x (List.mem_cons_of_mem _ hx)) ⟨more, ?_⟩⟩
      exact List.append_cancel_left hmore

end Frame

/-- A frame in arrival does not begin with a frame in full. -/
theorem Intake.Sound.not_whole {intake : Intake} (sound : intake.Sound) {frame : Frame}
    (whole : frame.Whole) : ¬ frame.toBytes <+: intake.bytes := by
  intro front
  have short := front.length_le
  rw [frame.length_toBytes] at short
  cases intake with
  | header received =>
    have partly : received.length < Header.size := sound
    simp only [bytes] at short
    omega
  | payload header disposal reversed missing =>
    obtain ⟨more, all⟩ := front
    obtain ⟨pos, length, suits⟩ := sound
    simp only [bytes, List.length_append, Header.length_toBytes, List.length_reverse] at short
    simp only [bytes, Frame.toBytes, List.append_assoc] at all
    obtain ⟨headers, -⟩ := List.append_inj all (by simp)
    have same : frame.header = header := by
      have read := Header.ofBytes?_toBytes frame.header
      rw [headers, Header.ofBytes?_toBytes] at read
      exact (Option.some.inj read).symm
    have long : frame.payload.length = header.length.toNat := by
      rw [← suits.payloadLength, ← same]
      exact whole
    omega

/-- Where nothing has arrived of a frame, its header is awaited. -/
theorem Intake.eq_of_bytes_nil {intake : Intake} (h : intake.bytes = []) :
    intake = .header [] := by
  cases intake with
  | header received => exact congrArg Intake.header h
  | payload header disposal reversed missing =>
    have long := congrArg List.length (List.append_eq_nil_iff.mp h).1
    rw [Header.length_toBytes] at long
    cases long

namespace Station

/-! ## Answers and the link -/

/-- The link takes nothing: it was shut down, or its next write fails, or there is none. -/
def Refuses (s : Station) : Prop :=
  ∀ stream, s.queuePair.link = some stream →
    stream.shut = true ∨ (stream.refusals stream.attempts).isSome = true

/-- The link takes everything. -/
def Willing (s : Station) : Prop :=
  ∃ stream, s.queuePair.link = some stream ∧ stream.shut = false ∧
    ∀ number, stream.refusals number = none

/-- The receiving goes on, and messages were written to the link. -/
structure Onward (s t : Station) : Prop where
  intake : t.queuePair.intake = s.queuePair.intake
  link : ∃ messages : List Bytes, t.queuePair.link = s.queuePair.link.map fun stream =>
    { stream with
      attempts := stream.attempts + messages.length
      sent := stream.sent ++ messages
      wire := stream.wire ++ messages.flatten }

/-- The receiving has ended with a failure; what waits on the link stays there. -/
structure Stopped (s t : Station) : Prop where
  failed : t.breakOff = t
  waiting : t.queuePair.link.map Stream.waiting = s.queuePair.link.map Stream.waiting

/-- What a frame of a known kind does to the receiving. -/
inductive Proceeds (s t : Station) : Prop
  | onward (on : Onward s t)
  | refused (stopped : Stopped s t) (refuses : s.Refuses)

variable {s t u : Station}

theorem Willing.not_refuses (willing : s.Willing) : ¬ s.Refuses := by
  obtain ⟨stream, linked, opened, taken⟩ := willing
  intro refuses
  rcases refuses stream linked with shut | refused
  · rw [opened] at shut
    cases shut
  · rw [taken] at refused
    cases refused

theorem Onward.willing (on : Onward s t) (willing : s.Willing) : t.Willing := by
  obtain ⟨stream, linked, opened, taken⟩ := willing
  obtain ⟨messages, link⟩ := on.link
  rw [linked] at link
  exact ⟨_, link, opened, taken⟩

theorem Onward.refl (s : Station) : Onward s s := ⟨rfl, [], by cases s.queuePair.link <;> simp⟩

/-- Neither the work nor what is completed matters to the receiving. -/
theorem Proceeds.of_same (h : Proceeds s u) (intake : s.queuePair.intake = t.queuePair.intake)
    (link : s.queuePair.link = t.queuePair.link) : Proceeds t u := by
  cases h with
  | onward on =>
    refine .onward ⟨on.intake.trans intake, ?_⟩
    rw [← link]
    exact on.link
  | refused stopped refuses =>
    refine .refused ⟨stopped.failed, ?_⟩ ?_
    · rw [← link]
      exact stopped.waiting
    · intro stream linked
      exact refuses stream (link.trans linked)

theorem Proceeds.of_kept (intake : t.queuePair.intake = s.queuePair.intake)
    (link : t.queuePair.link = s.queuePair.link) : Proceeds s t :=
  Proceeds.of_same (.onward (Onward.refl t)) intake link

@[simp] theorem link_fail (s : Station) : s.fail.queuePair.link = s.queuePair.link := by
  unfold fail
  split <;> rfl

theorem link_breakOff (s : Station) :
    s.breakOff.queuePair.link = s.queuePair.link.map Stream.shutdown := by
  simp only [breakOff, shutLink, link_fail]

/-- A failure is final. -/
theorem breakOff_breakOff (s : Station) : s.breakOff.breakOff = s.breakOff := by
  have same : s.breakOff.fail = s.breakOff := if_pos s.state_fail
  have link : s.breakOff.queuePair.link.map Stream.shutdown = s.breakOff.queuePair.link := by
    rw [link_breakOff]
    cases s.queuePair.link <;> rfl
  show { s.breakOff.fail.shutLink with
    queuePair := { s.breakOff.fail.shutLink.queuePair with intake := none } } = s.breakOff
  simp only [same, shutLink, link]
  rfl

theorem Stopped.intake (stopped : Stopped s t) : t.queuePair.intake = none := by
  rw [← stopped.failed]
  rfl

theorem stopped_breakOff (s : Station) : Stopped s s.breakOff := by
  refine ⟨s.breakOff_breakOff, ?_⟩
  rw [link_breakOff]
  cases s.queuePair.link <;> rfl

/-- The link does not take an answer only if it refuses. -/
theorem proceeds_respond (s : Station) (header : Header) (payload : Bytes) :
    Proceeds s (s.respond header payload) := by
  unfold respond
  cases hl : s.queuePair.link with
  | none =>
    have tried : s.transmit header payload = (.error (.other "no data path"), s) := by
      simp only [transmit, hl]
    rw [tried]
    refine .refused s.stopped_breakOff ?_
    intro stream linked
    cases hl.symm.trans linked
  | some stream =>
    have refuse (broken : stream.shut = true ∨ (stream.refusals stream.attempts).isSome = true)
        (t : Station) (part : Bytes) (link : t.queuePair.link = some (stream.cut part)) :
        Proceeds s t.breakOff := by
      refine .refused ⟨t.breakOff_breakOff, ?_⟩ ?_
      · rw [t.stopped_breakOff.waiting, link, hl]
        rfl
      · intro stream' linked
        cases hl.symm.trans linked
        exact broken
    by_cases shut : stream.shut = true
    · simp only [transmit, hl, Stream.send, if_pos shut]
      exact refuse (Or.inl shut) _ _ rfl
    · cases failing : stream.refusals stream.attempts with
      | some e =>
        simp only [transmit, hl, Stream.send, if_neg shut, failing]
        exact refuse (Or.inr (by rw [failing]; rfl)) _ _ rfl
      | none =>
        simp only [transmit, hl, Stream.send, if_neg shut, failing]
        exact .onward ⟨rfl, [header.toBytes ++ payload], by simp [hl, Stream.wrote]⟩

theorem proceeds_written (s : Station) (header : Header) : Proceeds s (s.written header) := by
  unfold written
  split
  · exact proceeds_respond _ _ _
  · simp only
    split
    · next request later _ =>
      have answered := proceeds_respond
        ((s.withWork { s.queuePair.work with receives := later }).complete request
          .receiveWithImmediate .success header.length (some header.immediate))
        (Header.acknowledgement header.sequence Status.success.code) []
      exact answered.of_same rfl rfl
    · exact .of_kept rfl rfl

theorem proceeds_readAnswered (s : Station) (header : Header) (payload : Option Bytes) :
    Proceeds s (s.readAnswered header payload) := by
  unfold readAnswered
  simp only
  split
  · exact .of_kept rfl rfl
  · split
    · split
      · split <;> exact .of_kept rfl rfl
      · exact .of_kept rfl rfl
    · exact .of_kept rfl rfl

theorem proceeds_takePayload (s : Station) (header : Header) (disposal : Disposal)
    (payload : Bytes) : Proceeds s (s.takePayload header disposal payload) := by
  cases disposal with
  | store region offset =>
    simp only [takePayload]
    split
    · next memory _ => exact (proceeds_written { s with memory := memory } header).of_same rfl rfl
    · exact proceeds_respond _ _ _
  | refuse => exact proceeds_respond _ _ _
  | answer => exact proceeds_readAnswered _ _ _
  | unwanted => exact proceeds_readAnswered _ _ _

theorem proceeds_answerRead (registrations : Registrations) (s : Station) (header : Header) :
    Proceeds s (s.answerRead registrations header) := by
  unfold answerRead
  simp only
  split <;> exact proceeds_respond _ _ _

theorem proceeds_acknowledged (s : Station) (header : Header) :
    Proceeds s (s.acknowledged header) := by
  unfold acknowledged
  simp only
  split <;> exact .of_kept rfl rfl

/-- A frame of a known kind ends the receiving only if the link does not take the answer. -/
theorem proceeds_handle (registrations : Registrations) (s : Station) {arrival : Arrival}
    (sound : arrival.Sound)
    (known : arrival.frame.isRequest = true ∨ arrival.frame.isAnswer = true) :
    Proceeds s (s.handle registrations arrival) := by
  unfold handle
  split
  · exact proceeds_takePayload _ _ _ _
  · next bare =>
    have unloaded := sound.bare bare
    unfold takeBare
    split
    · exact proceeds_answerRead _ _ _
    · next noRead =>
      split
      · exact proceeds_readAnswered _ _ _
      · next noResponse =>
        split
        · exact proceeds_acknowledged _ _
        · next noAcknowledgement =>
          rcases known with request | answer
          · rcases Frame.isRequest_iff.mp request with h | h | h
            · exact absurd (Or.inl h) unloaded
            · exact absurd (Or.inr (Or.inl h)) unloaded
            · exact absurd h noRead
          · rcases Frame.isAnswer_iff.mp answer with h | h
            · exact absurd h noResponse
            · exact absurd h noAcknowledgement

/-- A frame of an unknown kind ends the receiving. -/
theorem handle_unknown (registrations : Registrations) (s : Station) {arrival : Arrival}
    (sound : arrival.Sound)
    (unknown : ¬ (arrival.frame.isRequest = true ∨ arrival.frame.isAnswer = true)) :
    s.handle registrations arrival = s.breakOff := by
  obtain ⟨noRequest, noAnswer⟩ := not_or.mp unknown
  have bare : arrival.disposal = none := by
    cases hd : arrival.disposal with
    | none => rfl
    | some disposal =>
      rcases (sound.suits disposal hd).hasPayload with h | h | ⟨h, -⟩
      · exact absurd (Frame.isRequest_iff.mpr (Or.inl h)) noRequest
      · exact absurd (Frame.isRequest_iff.mpr (Or.inr (Or.inl h))) noRequest
      · exact absurd (Frame.isAnswer_iff.mpr (Or.inl h)) noAnswer
  have noRead : ¬ arrival.header.opcode = Opcode.readRequest :=
    fun h => noRequest (Frame.isRequest_iff.mpr (Or.inr (Or.inr h)))
  have noResponse : ¬ arrival.header.opcode = Opcode.readResponse :=
    fun h => noAnswer (Frame.isAnswer_iff.mpr (Or.inl h))
  have noAcknowledgement : ¬ arrival.header.opcode = Opcode.acknowledgement :=
    fun h => noAnswer (Frame.isAnswer_iff.mpr (Or.inr h))
  simp only [handle, bare, takeBare]
  rw [if_neg noRead, if_neg noResponse, if_neg noAcknowledgement]

/-! ## Taking frames -/

/-- A queue pair takes bytes, and with them frames in full, with any registrations at any byte.
Anything else may happen to it in between that leaves the intake as it is or ends the receiving:
posts, polls, changes of memory, a failure. -/
inductive Takes (s : Station) : Bytes → List Frame → Station → Prop
  | start : Takes s [] [] s
  | elsewhere {bytes : Bytes} {taken : List Frame} {t u : Station} (before : Takes s bytes taken t)
      (kept : IntakeKept t u) : Takes s bytes taken u
  | byte {bytes : Bytes} {taken : List Frame} {t : Station} (before : Takes s bytes taken t)
      (registrations : Registrations) (byte : UInt8)
      (receiving : t.queuePair.intake.isSome = true) :
      Takes s (bytes ++ [byte])
        (taken ++ (t.arrival? registrations byte).toList.map Arrival.frame)
        (t.feed registrations byte)

/-- What holds where `bytes` of emitted frames have been taken, and with them the frames
`taken`. -/
structure Aligned (frames : List Frame) (bytes : Bytes) (taken : List Frame) (t : Station) :
    Prop where
  /-- The frames that were taken are the first that were emitted. -/
  front : taken <+: frames
  /-- A frame in arrival starts behind the last one that was taken. -/
  place : ∀ intake, t.queuePair.intake = some intake →
    bytes = taken.flatMap Frame.toBytes ++ intake.bytes
  /-- No byte is left over. -/
  complete : t.queuePair.intake.isSome = true → bytes = frames.flatMap Frame.toBytes →
    taken = frames ∧ t.queuePair.intake = some (.header [])
  /-- The receiving goes on within a frame. -/
  within : t.queuePair.intake.isSome = true → ∀ registrations byte,
    t.arrival? registrations byte = none →
      (t.feed registrations byte).queuePair.intake.isSome = true
  /-- The next frame in full is the next that was emitted; it is of a known kind, and the
  receiving goes on right behind it, unless the link does not take the answer. -/
  behind : ∀ registrations byte arrival, t.arrival? registrations byte = some arrival →
    bytes ++ [byte] <+: frames.flatMap Frame.toBytes →
      taken ++ [arrival.frame] <+: frames ∧
      (arrival.frame.isRequest = true ∨ arrival.frame.isAnswer = true) ∧
      ((t.feed registrations byte).queuePair.intake = some (.header []) ∨
        ((t.feed registrations byte).queuePair.intake = none ∧ t.Refuses))

namespace Takes

variable {bytes : Bytes} {taken frames : List Frame}

/-- Bytes are taken in frames in full, and while they are taken, part of the next one follows. -/
structure Parsed (bytes : Bytes) (taken : List Frame) (t : Station) : Prop where
  whole : ∀ f ∈ taken, f.Whole
  front : taken.flatMap Frame.toBytes <+: bytes
  sound : ∀ intake, t.queuePair.intake = some intake → intake.Sound
  place : ∀ intake, t.queuePair.intake = some intake →
    bytes = taken.flatMap Frame.toBytes ++ intake.bytes

theorem Parsed.feed (parsed : Parsed bytes taken t) (registrations : Registrations)
    (byte : UInt8) (receiving : t.queuePair.intake.isSome = true) :
    Parsed (bytes ++ [byte]) (taken ++ (t.arrival? registrations byte).toList.map Arrival.frame)
      (t.feed registrations byte) := by
  obtain ⟨intake, hi⟩ := Option.isSome_iff_exists.mp receiving
  have place := parsed.place intake hi
  cases harr : t.arrival? registrations byte with
  | none =>
    obtain ⟨longer, extended, sound, more⟩ := extended_sound hi (parsed.sound intake hi) harr
    rw [feed_of_no_arrival harr, extended]
    simp only [Option.toList_none, List.map_nil, List.append_nil]
    refine ⟨parsed.whole, parsed.front.trans (List.prefix_append _ _), ?_, ?_⟩
    · intro next hn
      cases hn
      exact sound
    · intro next hn
      cases hn
      rw [place, more, List.append_assoc]
  | some arrival =>
    obtain ⟨all, sound⟩ := arrival_sound hi (parsed.sound intake hi) harr
    have exact : bytes ++ [byte] = (taken ++ [arrival.frame]).flatMap Frame.toBytes := by
      rw [place, List.append_assoc, ← all]
      simp
    have kept := intakeKept_handle registrations (t.withIntake (some (.header []))) arrival
    rw [← feed_of_arrival harr] at kept
    simp only [Option.toList_some, List.map_cons, List.map_nil]
    refine ⟨?_, exact ▸ List.prefix_rfl, ?_, ?_⟩
    · intro f hf
      rcases List.mem_append.mp hf with hf | hf
      · exact parsed.whole f hf
      · rw [List.mem_singleton.mp hf]
        exact sound.whole
    · intro next hn
      rcases kept with kept | kept
      · cases kept.symm.trans hn
        exact (by decide : 0 < Header.size)
      · cases kept.symm.trans hn
    · intro next hn
      rcases kept with kept | kept
      · cases kept.symm.trans hn
        rw [exact]
        exact (List.append_nil _).symm
      · cases kept.symm.trans hn

/-- Whatever is taken is taken in frames in full. -/
theorem parsed (boundary : s.queuePair.intake = some (.header []))
    (takes : Takes s bytes taken t) : Parsed bytes taken t := by
  induction takes with
  | start =>
    refine ⟨by simp, List.nil_prefix, ?_, ?_⟩
    · intro intake hi
      cases boundary.symm.trans hi
      exact (by decide : 0 < Header.size)
    · intro intake hi
      cases boundary.symm.trans hi
      rfl
  | elsewhere _ kept ih =>
    rcases kept with kept | kept
    · exact ⟨ih.whole, ih.front, kept ▸ ih.sound, kept ▸ ih.place⟩
    · refine ⟨ih.whole, ih.front, ?_, ?_⟩
      · intro intake hi
        cases kept.symm.trans hi
      · intro intake hi
        cases kept.symm.trans hi
  | byte _ registrations byte receiving ih => exact ih.feed registrations byte receiving

/-- The frames taken off emitted ones are the first of them. -/
theorem front (boundary : s.queuePair.intake = some (.header []))
    (emitted : ∀ f ∈ frames, f.Emitted) (begins : bytes <+: frames.flatMap Frame.toBytes)
    (takes : Takes s bytes taken t) : taken <+: frames :=
  Frame.prefix_of_flatMap (takes.parsed boundary).whole (fun f hf => (emitted f hf).whole)
    ((takes.parsed boundary).front.trans begins)

/-- Emitted frames are taken one after the other. -/
theorem aligned (boundary : s.queuePair.intake = some (.header []))
    (emitted : ∀ f ∈ frames, f.Emitted) (begins : bytes <+: frames.flatMap Frame.toBytes)
    (takes : Takes s bytes taken t) : Aligned frames bytes taken t := by
  have parsed := takes.parsed boundary
  have first := takes.front boundary emitted begins
  refine ⟨first, parsed.place, ?_, ?_, ?_⟩
  · intro receiving all
    obtain ⟨intake, hi⟩ := Option.isSome_iff_exists.mp receiving
    obtain ⟨rest, split⟩ := first
    have left : intake.bytes = rest.flatMap Frame.toBytes := by
      have place := parsed.place intake hi
      rw [all, ← split, List.flatMap_append] at place
      exact (List.append_cancel_left place).symm
    cases rest with
    | nil =>
      rw [List.append_nil] at split
      exact ⟨split, by rw [hi, Intake.eq_of_bytes_nil left]⟩
    | cons f rest =>
      -- what has arrived of a frame would hold another in full
      have whole : f.Whole := (emitted f (by rw [← split]; simp)).whole
      refine absurd ?_ ((parsed.sound intake hi).not_whole whole)
      rw [left, List.flatMap_cons]
      exact List.prefix_append _ _
  · intro receiving registrations byte harr
    obtain ⟨intake, hi⟩ := Option.isSome_iff_exists.mp receiving
    obtain ⟨longer, extended, -, -⟩ := extended_sound hi (parsed.sound intake hi) harr
    rw [feed_of_no_arrival harr, extended]
    rfl
  · intro registrations byte arrival harr more
    have receiving := Option.isSome_iff_ne_none.mpr (receiving_of_arrival harr)
    have next := (takes.byte registrations byte receiving).front boundary emitted more
    rw [harr] at next
    have known := (emitted arrival.frame (next.subset (by simp))).known
    obtain ⟨intake, hi⟩ := Option.isSome_iff_exists.mp receiving
    obtain ⟨-, sound⟩ := arrival_sound hi (parsed.sound intake hi) harr
    refine ⟨next, known, ?_⟩
    rw [feed_of_arrival harr]
    cases proceeds_handle registrations (t.withIntake (some (.header []))) sound known with
    | onward on => exact Or.inl on.intake
    | refused stopped refuses => exact Or.inr ⟨stopped.intake, refuses⟩

/-- A willing link keeps the receiving going to the last byte. -/
theorem receive (registrations : Registrations)
    (boundary : s.queuePair.intake = some (.header [])) (emitted : ∀ f ∈ frames, f.Emitted)
    (willing : s.Willing) (begins : bytes <+: frames.flatMap Frame.toBytes) :
    ∃ taken, Takes s bytes taken (s.receive registrations bytes) ∧
      (s.receive registrations bytes).queuePair.intake.isSome = true ∧
      (s.receive registrations bytes).Willing := by
  induction bytes using List.reverseRecOn with
  | nil => exact ⟨[], .start, by rw [Station.receive, List.foldl_nil, boundary]; rfl, willing⟩
  | append_singleton bytes byte ih =>
    obtain ⟨taken, takes, receiving, will⟩ := ih ((List.prefix_append _ _).trans begins)
    have aligned := takes.aligned boundary emitted ((List.prefix_append _ _).trans begins)
    rw [receive_append]
    generalize s.receive registrations bytes = t at *
    refine ⟨_, takes.byte registrations byte receiving, ?_⟩
    show (t.feed registrations byte).queuePair.intake.isSome = true ∧
      (t.feed registrations byte).Willing
    cases harr : t.arrival? registrations byte with
    | none =>
      refine ⟨aligned.within receiving registrations byte harr, ?_⟩
      rw [feed_of_no_arrival harr]
      exact will
    | some arrival =>
      obtain ⟨intake, hi⟩ := Option.isSome_iff_exists.mp receiving
      obtain ⟨-, sound⟩ := arrival_sound hi ((takes.parsed boundary).sound intake hi) harr
      obtain ⟨-, known, -⟩ := aligned.behind registrations byte arrival harr begins
      rw [feed_of_arrival harr]
      cases proceeds_handle registrations (t.withIntake (some (.header []))) sound known with
      | onward on =>
        rw [on.intake]
        exact ⟨rfl, on.willing will⟩
      | refused _ refuses => exact absurd refuses will.not_refuses

end Takes

/-! ## Writing frames -/

/-- From one station to another frames are written to the link, one behind the other. -/
def Emits (s t : Station) : Prop :=
  ∃ frames : List Frame, (∀ f ∈ frames, f.Emitted) ∧
    t.wire = s.wire ++ frames.flatMap Frame.toBytes

theorem Emits.of_wire (same : t.wire = s.wire) : Emits s t := ⟨[], by simp, by simp [same]⟩

theorem Emits.frame {frame : Frame} (emitted : frame.Emitted)
    (more : t.wire = s.wire ++ frame.toBytes) : Emits s t := by
  refine ⟨[frame], ?_, by simp [more]⟩
  intro f hf
  rw [List.mem_singleton.mp hf]
  exact emitted

theorem Emits.trans (h : Emits s t) (h' : Emits t u) : Emits s u := by
  obtain ⟨first, hf, before⟩ := h
  obtain ⟨later, hl, after⟩ := h'
  refine ⟨first ++ later, ?_, by rw [after, before, List.flatMap_append, List.append_assoc]⟩
  intro f h
  rcases List.mem_append.mp h with h | h
  · exact hf f h
  · exact hl f h

/-- The answer to a request is of one of the forms. -/
theorem emitted_answer (registrations : Registrations) (s : Station) (arrival : Arrival) :
    ((s.outcome registrations arrival).answer arrival.header).Emitted := by
  unfold outcome
  split
  · split
    · exact .reason _ Status.remoteAccess.code 0 (by decide)
    · split
      · next data read => exact .data _ _ data (Memory.length_of_read read)
      · exact .reason _ Status.remoteAccess.code 0 (by decide)
  · split
    · split
      · exact .acknowledgement _ Status.success.code
      · exact .acknowledgement _ Status.remoteAccess.code
    · exact .acknowledgement _ Status.remoteAccess.code

/-- A frame in full is answered with one frame at most. -/
theorem emits_handle (registrations : Registrations) (s : Station) {arrival : Arrival}
    (sound : arrival.Sound) : Emits s (s.handle registrations arrival) := by
  by_cases request : arrival.frame.isRequest = true
  · cases answered_handle registrations s sound request with
    | sent _ _ wire => exact .frame (emitted_answer registrations s arrival) wire
    | stopped _ _ wire => exact .of_wire wire
    | held _ _ _ face => exact .of_wire (congrArg Face.wire face)
  · by_cases answer : arrival.frame.isAnswer = true
    · exact .of_wire (congrArg Face.wire (face_handle_answer registrations s sound answer))
    · rw [handle_unknown registrations s sound (not_or.mpr ⟨request, answer⟩)]
      exact .of_wire s.calm_breakOff.2.2

/-- The frame of a send is of one of the forms. -/
theorem emitted_of_sendFrame {send : SendRequest} {region : RegionId} {offset : Nat}
    {frame : Frame} {pending : PendingSend}
    (made : s.sendFrame send region offset = .ok (frame, pending)) : frame.Emitted := by
  unfold sendFrame at made
  simp only at made
  split at made
  · cases made
    exact .readRequest _ _ _ _
  · cases hm : s.memory.read region offset send.length.toNat with
    | error e => rw [hm] at made; cases made
    | ok payload =>
      rw [hm] at made
      cases made
      exact .write _ _ _ _ _ _ (Memory.length_of_read hm)

theorem emits_postSend (registrations : Registrations) (s : Station) (send : SendRequest) :
    Emits s (s.postSend registrations send).2 := by
  rcases s.postSend_cases registrations send with ⟨e, h⟩ | ⟨e, h⟩ |
    ⟨registration, offset, frame, pending, ready, -, -, -, made, h⟩
  · rw [h]
    exact .of_wire rfl
  · rw [h]
    exact .of_wire rfl
  · rw [h]
    rcases face_launch (s.withPosted pending) ready frame s.queuePair.nextSequence with face | face
    · exact .frame (emitted_of_sendFrame made) (congrArg Face.wire face)
    · exact .of_wire (congrArg Face.wire face)

theorem emits_postReceive (s : Station) (request : UInt64) :
    Emits s (s.postReceive request).2 := by
  rcases s.postReceive_cases request with ⟨e, h⟩ | ⟨-, -, -, h⟩ | ⟨held, later, -, -, -, h⟩
  · rw [h]
    exact .of_wire rfl
  · rw [h]
    exact .of_wire rfl
  · rw [h]
    rcases face_confirm ((s.withWork { s.queuePair.work with held := later }).complete request
      .receiveWithImmediate .success held.length (some held.immediate)) held.sequence with
      face | ⟨-, -, wire⟩
    · refine .frame (.acknowledgement held.sequence Status.success.code) ?_
      rw [Frame.toBytes, List.append_nil]
      exact congrArg Face.wire face
    · exact .of_wire wire

end Station

namespace History

open Station

/-- What a queue pair does once it has a link writes frames to it. -/
theorem emits_step {h : History} (kept : Kept h) (tracked : Tracked h)
    (linked : h.station.queuePair.link.isSome = true) (event : QueuePairEvent) :
    Emits h.station (h.step event).station := by
  -- a call that sets the queue pair up finds it set up, or starts the receiving
  have late : h.station.queuePair.state ≠ .reset ∧ h.station.queuePair.state ≠ .init := by
    refine ⟨fun reset => ?_, fun init => ?_⟩
    · rw [kept.linked.early (Or.inl reset)] at linked
      cases linked
    · rw [kept.linked.early (Or.inr init)] at linked
      cases linked
  have refused (accepted : List QueuePairState) (expected : String)
      (only : ∀ state ∈ accepted, state = .reset ∨ state = .init) :
      ∃ e, h.station.queuePair.expect accepted expected = .error e := by
    unfold QueuePair.expect
    rw [if_neg]
    · exact ⟨_, rfl⟩
    · intro state
      rcases only _ state with reset | init
      · exact late.1 reset
      · exact late.2 init
  cases event with
  | toInit access =>
    obtain ⟨e, he⟩ := refused [.reset] "RESET" (by simp)
    refine .of_wire ?_
    simp only [step, after, QueuePair.toInit, he]
    rfl
  | attach stream =>
    obtain ⟨e, he⟩ := refused [.reset, .init] "RESET or INIT" (by simp)
    refine .of_wire ?_
    simp only [step, after, QueuePair.attach, he]
    rfl
  | link peer ip conditions =>
    obtain ⟨e, he⟩ := refused [.init] "INIT" (by simp)
    refine .of_wire ?_
    simp only [step, after, QueuePair.toReadyToReceive, he]
  | start =>
    refine .of_wire ?_
    simp only [step, after]
    cases started : h.station.queuePair.toReadyToSend with
    | error e => rfl
    | ok q =>
      obtain ⟨-, -, rfl⟩ := QueuePair.toReadyToSend_eq_ok started
      rfl
  | postSend registrations send => exact emits_postSend registrations h.station send
  | postReceive request => exact emits_postReceive h.station request
  | receive registrations byte =>
    show Emits h.station (h.station.feed registrations byte)
    cases harr : h.station.arrival? registrations byte with
    | none =>
      rw [feed_of_no_arrival harr]
      exact .of_wire rfl
    | some arrival =>
      rw [feed_of_arrival harr]
      exact emits_handle registrations (h.station.withIntake (some (.header [])))
        (tracked.arrival harr).2
  | endOfStream =>
    show Emits h.station h.station.endOfStream
    unfold endOfStream
    split
    · exact .of_wire rfl
    · exact .of_wire h.station.calm_breakOff.2.2
  | poll most => exact .of_wire rfl
  | remember memory => exact .of_wire rfl

/-- Whatever happens to a queue pair that has a link, it writes frames to it and nothing else. -/
theorem emits_run {h : History} (kept : Kept h) (tracked : Tracked h)
    (linked : h.station.queuePair.link.isSome = true) (later : List QueuePairEvent) :
    Emits h.station (h.run later).station := by
  induction later generalizing h with
  | nil => exact .of_wire rfl
  | cons event rest ih =>
    have first := emits_step kept tracked linked event
    exact first.trans (ih (kept.step event) (tracked.step kept event)
      (link_after event linked))

end History

/-- How much payload follows a header is told by its opcode, its status and its length. -/
theorem Header.payloadLength_congr {a b : Header} (opcode : a.opcode = b.opcode)
    (status : a.status = b.status) (length : a.length = b.length) :
    a.payloadLength = b.payloadLength := by
  have same : a.HasPayload ↔ b.HasPayload := by
    unfold HasPayload
    rw [opcode, status]
  unfold payloadLength
  simp only [same, length]

/-- A queue pair that has a link writes emitted frames to it, back to back.  Whatever takes bytes
of such frames, in any state and with any registrations, takes one frame after the other, each
where the last one ended, and none of an unknown kind; on a link that takes every answer it takes
all of them and leaves no byte over.  The payload that is taken with a header is as long as its
opcode, its status and its length say. -/
theorem framing_never_drifts :
    (∀ (address : QueuePairAddress) (linkTimeout : Milliseconds) (depth : Nat) (memory : Memory)
      (before later : List QueuePairEvent),
      let h := (History.fresh address linkTimeout depth memory).run before
      h.station.queuePair.link.isSome = true → h.station.Emits (h.run later).station) ∧
    (∀ (s t : Station) (frames taken : List Frame) (bytes : Bytes),
      s.queuePair.intake = some (.header []) → (∀ f ∈ frames, f.Emitted) →
      bytes <+: frames.flatMap Frame.toBytes → s.Takes bytes taken t →
        Station.Aligned frames bytes taken t) ∧
    (∀ (s : Station) (registrations : Registrations) (frames : List Frame),
      s.queuePair.intake = some (.header []) → (∀ f ∈ frames, f.Emitted) → s.Willing →
        let t := s.receive registrations (frames.flatMap Frame.toBytes)
        s.Takes (frames.flatMap Frame.toBytes) frames t ∧
          t.queuePair.intake = some (.header [])) ∧
    (∀ (s t s' t' : Station) (bytes bytes' : Bytes) (taken taken' : List Frame),
      s.queuePair.intake = some (.header []) → s'.queuePair.intake = some (.header []) →
      s.Takes bytes taken t → s'.Takes bytes' taken' t' →
        ∀ f ∈ taken, ∀ g ∈ taken', f.header.opcode = g.header.opcode →
          f.header.status = g.header.status → f.header.length = g.header.length →
            f.payload.length = g.payload.length) := by
  refine ⟨?_, ?_, ?_, ?_⟩
  · intro address linkTimeout depth memory before later h linked
    obtain ⟨kept, tracked⟩ := History.tracked_run address linkTimeout depth memory before
    exact History.emits_run kept tracked linked later
  · intro s t frames taken bytes boundary emitted begins takes
    exact takes.aligned boundary emitted begins
  · intro s registrations frames boundary emitted willing t
    obtain ⟨taken, takes, receiving, -⟩ :=
      Station.Takes.receive registrations boundary emitted willing List.prefix_rfl
    obtain ⟨rfl, done⟩ := (takes.aligned boundary emitted List.prefix_rfl).complete receiving rfl
    exact ⟨takes, done⟩
  · intro s t s' t' bytes bytes' taken taken' boundary boundary' takes takes' f hf g hg opcode
      status length
    have told := Header.payloadLength_congr opcode status length
    have left : f.payload.length = f.header.payloadLength := (takes.parsed boundary).whole f hf
    have right : g.payload.length = g.header.payloadLength := (takes'.parsed boundary').whole g hg
    rw [left, right, told]

/-- A queue pair without registrations and without requests takes a write that it refuses, a read
request that it cannot serve, data that it did not ask for and an acknowledgement. -/
theorem unwanted_frames_are_taken :
    let link := Stream.ofBytes [] false
    let s : Station :=
      { Station.fresh ⟨1, 0, 0, ⟨0⟩⟩ ⟨1000⟩ 4 ⟨[]⟩ with
        queuePair :=
          { QueuePair.fresh ⟨1, 0, 0, ⟨0⟩⟩ ⟨1000⟩ with
            state := .readyToSend, link := some link, intake := some (.header []) } }
    let frames : List Frame :=
      [⟨Header.write 1 4096 5 3 (some 9), [1, 2, 3]⟩, ⟨Header.readRequest 2 4096 5 4, []⟩,
        ⟨Header.readResponse 1 0 2, [4, 5]⟩, ⟨Header.acknowledgement 2 0, []⟩]
    let t := s.receive Registrations.empty (frames.flatMap Frame.toBytes)
    (s.Takes (frames.flatMap Frame.toBytes) frames t ∧ t.queuePair.intake = some (.header [])) ∧
      Station.Aligned frames (frames.flatMap Frame.toBytes) frames t := by
  intro link s frames
  have emitted : ∀ f ∈ frames, f.Emitted := by
    intro f hf
    simp only [frames, List.mem_cons, List.not_mem_nil, or_false] at hf
    rcases hf with rfl | rfl | rfl | rfl
    · exact .write _ _ _ _ _ _ rfl
    · exact .readRequest _ _ _ _
    · exact .data _ _ _ rfl
    · exact .acknowledgement _ _
  have taken := framing_never_drifts.2.2.1 s Registrations.empty frames rfl emitted
    ⟨link, rfl, rfl, fun _ => rfl⟩
  exact ⟨taken, framing_never_drifts.2.1 s _ frames frames _ rfl emitted List.prefix_rfl taken.1⟩

end RdmaLink
