import RdmaLink.Proofs.Peers.Deeds

/-!
# Two queue pairs in step

What holds of two queue pairs, whatever turns they take (`InStep`): the bytes on their way to
either are frames in full, and what either has posted agrees with what the other has handled.

    InStep peers deeds → InStep (peers.step turn) (deeds ++ peers.deeds turn)   (InStep.step)

A turn changes one of the two, takes at most one frame off its stream and writes at most one, so
each turn is an instance of one lemma (`InStep.change`): most of them write nothing
(`InStep.silent`) or one answer (`InStep.replying`).
-/

namespace RdmaLink

/-- One value for a side, another for the other. -/
def Side.pick {α : Type} (side : Side) (a b : α) : Side → α := fun s => if s = side then a else b

@[simp] theorem Side.pick_self {α : Type} (side : Side) (a b : α) : side.pick a b side = a :=
  if_pos rfl

@[simp] theorem Side.pick_other {α : Type} (side : Side) (a b : α) :
    side.pick a b side.other = b := if_neg side.other_ne

/-- The requests among frames. -/
def requests (frames : List Frame) : List Frame := frames.filter Frame.isRequest

/-- The answers among frames. -/
def answers (frames : List Frame) : List Frame := frames.filter Frame.isAnswer

theorem requests_append (a b : List Frame) : requests (a ++ b) = requests a ++ requests b :=
  List.filter_append ..

theorem answers_append (a b : List Frame) : answers (a ++ b) = answers a ++ answers b :=
  List.filter_append ..

theorem requests_request {frame : Frame} (h : frame.isRequest = true) :
    requests [frame] = [frame] := by simp [requests, h]

theorem answers_request {frame : Frame} (h : frame.isRequest = true) : answers [frame] = [] := by
  simp [answers, Frame.isAnswer_of_isRequest h]

theorem answers_answer {frame : Frame} (h : frame.isAnswer = true) :
    answers [frame] = [frame] := by simp [answers, h]

theorem requests_answer {frame : Frame} (h : frame.isAnswer = true) : requests [frame] = [] := by
  have hne : frame.isRequest = false := by
    refine Bool.eq_false_iff.mpr fun hr => ?_
    rw [Frame.isAnswer_of_isRequest hr] at h
    cases h
  simp [requests, hne]

/-- The two with the frames ahead of each. -/
structure InStep (peers : Peers) (deeds : List Deed) (ahead : Side → List Frame) : Prop where
  steady : ∀ side, (peers side).station.Steady
  carried : ∀ side, Carried (peers side).table (peers side).station.face (ahead side)
    (peers.flight side)
  agreed : ∀ side, Agreed (posts side deeds) (handled side.other deeds) (peers side).station.face
    (peers side.other).station.face (requests (ahead side.other)) (answers (ahead side))
  taken : ∀ side, (peers side).taken ≤ (peers side.other).station.wire.length

/-- One of two queue pairs as it is set up to send, before anything was posted or has arrived.
Its stream takes every message until it is shut down.  The stream of the other may carry what set
them up; it is taken. -/
structure Peers.Ready (peers : Peers) (side : Side) : Prop where
  steady : (peers side).station.Steady
  state : (peers side).station.queuePair.state = .readyToSend
  intake : (peers side).station.queuePair.intake = some (.header [])
  outstanding : (peers side).station.queuePair.work.outstanding = []
  held : (peers side).station.queuePair.work.held = []
  completions : (peers side).station.completions.toList = []
  taken : (peers side).taken = (peers side.other).station.wire.length
  described : (peers side).table.Describes (peers side).station.memory

namespace InStep

variable {peers : Peers} {deeds : List Deed} {ahead : Side → List Frame} {side : Side}

/-- The bytes in flight are the messages of the other side that are not taken yet. -/
theorem flight_eq (steady : (peers side.other).station.Steady) :
    peers.flight side = (peers side.other).station.wire.drop (peers side).taken := by
  rw [Peers.flight, steady.outgoing]

theorem start (ready : ∀ side, peers.Ready side) : InStep peers [] fun _ => [] := by
  refine ⟨fun side => (ready side).steady, fun side => ?_, fun side => ?_,
    fun side => Nat.le_of_eq (ready side).taken⟩
  · refine ⟨by simp, by simp, ?_, ?_⟩
    · intro intake hi
      cases (ready side).intake.symm.trans hi
      refine ⟨(by decide : 0 < Header.size), trivial, ?_⟩
      rw [flight_eq (ready side.other).steady, (ready side).taken, List.drop_length]
      rfl
    · intro hn
      cases (ready side).intake.symm.trans hn
  · exact Agreed.start (ready side).outstanding (ready side.other).held

/-- What a side has ahead of it are the messages of the other that it has not taken. -/
theorem coming (h : InStep peers deeds ahead) (side : Side) :
    Carried (peers side).table (peers side).station.face (ahead side)
      ((peers side.other).station.wire.drop (peers side).taken) := by
  rw [← flight_eq (h.steady side.other)]
  exact h.carried side

/-- What the other side has posted agrees with what this side has handled. -/
theorem agreed_other (h : InStep peers deeds ahead) (side : Side) :
    Agreed (posts side.other deeds) (handled side deeds) (peers side.other).station.face
      (peers side).station.face (requests (ahead side)) (answers (ahead side.other)) := by
  have agreed := h.agreed side.other
  rw [Side.other_other] at agreed
  exact agreed

/-- One side changes: `later` is ahead of it and it has written the frames `new`. -/
theorem change (h : InStep peers deeds ahead) (side : Side) (later new : List Frame)
    {s : Station} {n : Nat} {deeds' : List Deed} (steady : s.Steady)
    (count : n ≤ (peers side.other).station.wire.length)
    (wire : s.face.wire = (peers side).station.face.wire ++ new.flatMap Frame.toBytes)
    (whole : ∀ frame ∈ new, frame.Whole)
    (kinds : ∀ frame ∈ new, frame.isRequest = true ∨ frame.isAnswer = true)
    (self : Carried (peers side).table s.face later ((peers side.other).station.wire.drop n))
    (asks : Agreed (posts side deeds') (handled side.other deeds') s.face
      (peers side.other).station.face (requests (ahead side.other ++ new)) (answers later))
    (replies : Agreed (posts side.other deeds') (handled side deeds')
      (peers side.other).station.face s.face (requests later)
      (answers (ahead side.other ++ new))) :
    InStep (peers.set side ⟨s, (peers side).table, n⟩) deeds'
      (side.pick later (ahead side.other ++ new)) := by
  have wire : s.wire = (peers side).station.wire ++ new.flatMap Frame.toBytes := wire
  have hcount : (peers side.other).taken ≤ (peers side).station.wire.length := by
    simpa using h.taken side.other
  have outgoing := (h.steady side.other).outgoing
  refine ⟨(Side.forall_iff side).mpr ⟨?_, ?_⟩, (Side.forall_iff side).mpr ⟨?_, ?_⟩,
    (Side.forall_iff side).mpr ⟨?_, ?_⟩, (Side.forall_iff side).mpr ⟨?_, ?_⟩⟩
  · simpa using steady
  · simpa using h.steady side.other
  · simpa [Peers.flight, outgoing] using self
  · have := (h.carried side.other).append new whole kinds
    simp only [Peers.set_other, Side.pick_other, Peers.flight, Side.other_other, Peers.set_self,
      steady.outgoing]
    rw [wire, List.drop_append_of_le_length hcount]
    simpa [Peers.flight, (h.steady side).outgoing] using this
  · simpa using asks
  · simpa using replies
  · simpa using count
  · simp only [Peers.set_other, Side.other_other, Peers.set_self, wire, List.length_append]
    omega

/-- One side changes and writes nothing. -/
theorem silent (h : InStep peers deeds ahead) (side : Side) (later : List Frame) {s : Station}
    {n : Nat} {deeds' : List Deed} (steady : s.Steady)
    (count : n ≤ (peers side.other).station.wire.length)
    (wire : s.face.wire = (peers side).station.face.wire)
    (self : Carried (peers side).table s.face later ((peers side.other).station.wire.drop n))
    (asks : Agreed (posts side deeds') (handled side.other deeds') s.face
      (peers side.other).station.face (requests (ahead side.other)) (answers later))
    (replies : Agreed (posts side.other deeds') (handled side deeds')
      (peers side.other).station.face s.face (requests later) (answers (ahead side.other))) :
    ∃ ahead', InStep (peers.set side ⟨s, (peers side).table, n⟩) deeds' ahead' := by
  refine ⟨_, h.change side later [] steady count ?_ (by simp) (by simp) self ?_ ?_⟩
  · rw [wire, List.flatMap_nil, List.append_nil]
  · rw [List.append_nil]
    exact asks
  · rw [List.append_nil]
    exact replies

/-- One side changes and writes an answer. -/
theorem replying (h : InStep peers deeds ahead) (side : Side) (later : List Frame)
    (frame : Frame) {s : Station} {n : Nat} {deeds' : List Deed} (steady : s.Steady)
    (count : n ≤ (peers side.other).station.wire.length)
    (wire : s.face.wire = (peers side).station.face.wire ++ frame.toBytes)
    (whole : frame.Whole) (kind : frame.isAnswer = true)
    (self : Carried (peers side).table s.face later ((peers side.other).station.wire.drop n))
    (asks : Agreed (posts side deeds') (handled side.other deeds') s.face
      (peers side.other).station.face (requests (ahead side.other)) (answers later))
    (replies : Agreed (posts side.other deeds') (handled side deeds')
      (peers side.other).station.face s.face (requests later)
      (answers (ahead side.other) ++ [frame])) :
    ∃ ahead', InStep (peers.set side ⟨s, (peers side).table, n⟩) deeds' ahead' := by
  refine ⟨_, h.change side later [frame] steady count ?_ ?_ ?_ self ?_ ?_⟩
  · rw [wire, List.flatMap_singleton]
  · exact List.forall_mem_singleton.mpr whole
  · exact List.forall_mem_singleton.mpr (Or.inr kind)
  · rw [requests_append, requests_answer kind, List.append_nil]
    exact asks
  · rw [answers_append, answers_answer kind]
    exact replies

/-- A turn that only lets one side go on calmly. -/
theorem calm (h : InStep peers deeds ahead) (side : Side) {s : Station} {more : List Deed}
    (steady : s.Steady)
    (calm : Calm (peers side).station.face s.face)
    (wire : s.face.wire = (peers side).station.face.wire)
    (noPosts : ∀ x, posts x more = []) (noRequests : ∀ x, handled x more = []) :
    ∃ ahead', InStep (peers.withStation side s) (deeds ++ more) ahead' := by
  have hposts (x : Side) : posts x (deeds ++ more) = posts x deeds := by
    rw [posts_append, noPosts, List.append_nil]
  have hhandled (x : Side) : handled x (deeds ++ more) = handled x deeds := by
    rw [handled_append, noRequests, List.append_nil]
  refine h.silent side (ahead side) steady (h.taken side) wire ((h.coming side).calm calm) ?_ ?_
  · rw [hposts, hhandled]
    exact (h.agreed side).asker_calm calm
  · rw [hposts, hhandled]
    exact (h.agreed_other side).answerer_calm calm

/-! ## Turns -/

/-- A send is taken on: its frame goes out, or the side fails. -/
theorem postSend (h : InStep peers deeds ahead) (side : Side) (send : SendRequest) :
    ∃ ahead', InStep (peers.step (.postSend side send))
      (deeds ++ peers.deeds (.postSend side send)) ahead' := by
  have hother := h.agreed_other side
  have steady := (h.steady side).postSend (peers side).table send
  rcases (peers side).station.post_cases (peers side).table send with
    ⟨hn, calm, wire⟩ | ⟨p, hp, captured, ready, hsequence, heq⟩
  · have hdeeds : peers.deeds (.postSend side send) = [] := by simp [Peers.deeds, hn]
    rw [hdeeds]
    exact h.calm side steady calm wire (fun _ => rfl) (fun _ => rfl)
  · have hdeeds : peers.deeds (.postSend side send) = [.posted side p] := by
      simp [Peers.deeds, hp]
    have hself : posts side [.posted side p] = [p] := by simp [posts, Deed.post?]
    have helse : posts side.other [.posted side p] = [] := by
      simp [posts, Deed.post?, side.other_ne.symm]
    have hnone (x : Side) : handled x [.posted side p] = [] := rfl
    have hposted : ((peers side).station.withPosted p.pending).queuePair.state = .readyToSend :=
      ready
    rw [hdeeds]
    rw [heq] at steady
    simp only [Peers.step, heq]
    rcases Station.face_launch _ hposted p.frame p.sequence with hf | hf
    · refine ⟨_, h.change side (ahead side) [p.frame] steady (h.taken side) ?_ ?_ ?_ ?_
        ?_ ?_⟩
      · rw [hf, List.flatMap_singleton]
        rfl
      · exact List.forall_mem_singleton.mpr captured.whole
      · exact List.forall_mem_singleton.mpr (Or.inl p.isRequest_frame)
      · rw [hf]
        exact (h.coming side).receiver (Or.inl rfl) (Or.inl rfl)
      · rw [posts_append, hself, handled_append, hnone, List.append_nil, requests_append, hf]
        rw [requests_request p.isRequest_frame]
        exact (h.agreed side).post ready hsequence rfl (by rw [hsequence]; rfl)
      · rw [posts_append, helse, handled_append, hnone, List.append_nil, List.append_nil,
          answers_append, hf]
        rw [answers_request p.isRequest_frame, List.append_nil]
        exact hother.answerer (List.Sublist.refl _) fun hi => hi
    · refine h.silent side (ahead side) steady (h.taken side) ?_ ?_ ?_ ?_
      · rw [hf]
        rfl
      · rw [hf]
        exact (h.coming side).receiver (Or.inr rfl) (Or.inl rfl)
      · rw [posts_append, hself, handled_append, hnone, List.append_nil, hf]
        exact (h.agreed side).lost hsequence rfl rfl rfl
      · rw [posts_append, helse, handled_append, hnone, List.append_nil, List.append_nil, hf]
        exact hother.answerer (List.nil_sublist _) fun hi => hi

/-- A receive is taken on: it waits, or an acknowledgement that was held back goes out. -/
theorem postReceive (h : InStep peers deeds ahead) (side : Side) (request : UInt64) :
    ∃ ahead', InStep (peers.step (.postReceive side request))
      (deeds ++ peers.deeds (.postReceive side request)) ahead' := by
  have hother := h.agreed_other side
  have hdeeds : peers.deeds (.postReceive side request) = [] := rfl
  have steady := (h.steady side).postReceive request
  rw [hdeeds]
  simp only [Peers.step]
  rcases (peers side).station.postReceive_cases request with ⟨e, heq⟩ | ⟨-, -, -, heq⟩ |
    ⟨held, later, alive, -, hheld, heq⟩
  · rw [heq]
    exact h.calm side (h.steady side) (Calm.refl _) rfl (fun _ => rfl) (fun _ => rfl)
  · rw [heq] at steady ⊢
    exact h.calm side steady (Calm.refl _) rfl (fun _ => rfl) (fun _ => rfl)
  · rw [heq] at steady ⊢
    have going : (peers side).station.face.intake ≠ none :=
      fun hn => alive ((h.carried side).stopped hn)
    have hheld : (peers side).station.face.held = held :: later := hheld
    have first : held ∈ (peers side).station.face.held := by
      rw [hheld]
      exact List.mem_cons_self
    have fewer : later.Sublist (peers side).station.face.held := by
      rw [hheld]
      exact List.sublist_cons_self _ _
    generalize hm : ((peers side).station.withWork _).complete request _ _ _ _ = m at steady ⊢
    have hface : m.face = { (peers side).station.face with held := later } := by rw [← hm]; rfl
    rcases m.face_confirm held.sequence with hf | ⟨calm, -, wire⟩
    · rw [hface] at hf
      refine h.replying side (ahead side)
        ⟨Header.acknowledgement held.sequence Status.success.code, []⟩ steady (h.taken side) ?_ rfl
        rfl ?_ ?_ ?_
      · rw [hf, Frame.toBytes, List.append_nil]
      · rw [hf]
        exact (h.coming side).receiver (Or.inl rfl) (Or.inl rfl)
      · rw [List.append_nil, hf]
        exact (h.agreed side).asker (fun ready => ready) (Nat.le_refl _) (List.Sublist.refl _)
      · rw [List.append_nil, hf]
        exact (hother.release going first).answerer fewer fun hi => hi
    · have held : Calm (peers side).station.face m.face := by
        rw [hface]
        exact ⟨Or.inl rfl, Nat.le_refl _, List.Sublist.refl _, fewer, Or.inl rfl⟩
      exact h.calm side steady (held.trans calm) (by rw [wire, hface]) (fun _ => rfl) (fun _ => rfl)

/-- A frame that has arrived in full was the first of those ahead. -/
theorem arrived (h : InStep peers deeds ahead) {side : Side} {byte : UInt8} {rest : Bytes}
    (flight : peers.flight side = byte :: rest) {arrival : Arrival}
    (harr : (peers side).station.arrival? (peers side).table byte = some arrival) :
    arrival.Sound ∧ arrival.Settled (peers side).table ∧
      (arrival.frame.isRequest = true ∨ arrival.frame.isAnswer = true) ∧
      ∃ later, ahead side = arrival.frame :: later ∧
        Carried (peers side).table
          ((peers side).station.withIntake (some (.header []))).face later rest := by
  have carried := h.carried side
  rw [flight] at carried
  obtain ⟨sound, settled, later, hahead, hc⟩ := carried.arrival harr
  exact ⟨sound, settled, carried.kinds _ (by rw [hahead]; exact List.mem_cons_self), later, hahead,
    hc⟩

/-- A request arrives: it is handled, and its answer goes out, is held back or is lost. -/
theorem request (h : InStep peers deeds ahead) {side : Side} {byte : UInt8} {rest : Bytes}
    (flight : peers.flight side = byte :: rest) {arrival : Arrival}
    (harr : (peers side).station.arrival? (peers side).table byte = some arrival)
    (hrequest : arrival.frame.isRequest = true)
    (describes : (peers side).table.Describes (peers side).station.memory)
    (count : (peers side).taken + 1 ≤ (peers side.other).station.wire.length)
    (cut : (peers side.other).station.wire.drop ((peers side).taken + 1) = rest) :
    ∃ ahead', InStep (peers.set side ⟨(peers side).station.feed (peers side).table byte,
        (peers side).table, (peers side).taken + 1⟩)
      (deeds ++ Peers.taking side (peers side).table (peers side).station
        ((peers side).station.feed (peers side).table byte) arrival) ahead' := by
  obtain ⟨sound, settled, -, later, hahead, carried⟩ := h.arrived flight harr
  have steady := (h.steady side).feed (peers side).table byte
  have hother := h.agreed_other side
  rw [hahead] at hother
  have hself := h.agreed side
  rw [hahead] at hself
  have due := Station.due_outcome sound settled describes hrequest
  have answered := Station.answered_handle (peers side).table
    ((peers side).station.withIntake (some (.header []))) sound hrequest
  rw [← Station.feed_of_arrival harr] at answered
  -- the outcome does not depend on the intake
  have same : ((peers side).station.withIntake (some (.header []))).outcome (peers side).table
      arrival = (peers side).station.outcome (peers side).table arrival := rfl
  have hposts (x : Side) : posts x (deeds ++ Peers.taking side (peers side).table
      (peers side).station ((peers side).station.feed (peers side).table byte) arrival) =
      posts x deeds := by
    rw [posts_append, posts_taking, List.append_nil]
  have hown : handled side (deeds ++ Peers.taking side (peers side).table (peers side).station
      ((peers side).station.feed (peers side).table byte) arrival) = handled side deeds ++
      [(arrival.frame, (peers side).station.outcome (peers side).table arrival)] := by
    rw [handled_append, handled_taking_self hrequest]
  have helse : handled side.other (deeds ++ Peers.taking side (peers side).table
      (peers side).station ((peers side).station.feed (peers side).table byte) arrival) =
      handled side.other deeds := by
    rw [handled_append, handled_taking_other, List.append_nil]
  rw [same] at answered
  generalize (peers side).station.outcome (peers side).table arrival = outcome at due answered hown
  have hreq : requests (arrival.frame :: later) = arrival.frame :: requests later := by
    simp [requests, hrequest]
  have hans : answers (arrival.frame :: later) = answers later := by
    simp [answers, Frame.isAnswer_of_isRequest hrequest]
  rw [hreq] at hother
  rw [hans] at hself
  have going : (peers side).station.face.intake ≠ none := Station.receiving_of_arrival harr
  -- to the side that asks it makes no difference what has arrived
  have ready : Agreed (posts side deeds) (handled side.other deeds)
      ((peers side).station.withIntake (some (.header []))).face (peers side.other).station.face
      (requests (ahead side.other)) (answers later) :=
    hself.asker (fun ready => ready) (Nat.le_refl _) (List.Sublist.refl _)
  cases answered with
  | sent calm _ wire =>
    refine h.replying side later (outcome.answer arrival.header) steady count wire due.whole
      (outcome.isAnswer_answer _) (cut ▸ carried.calm calm) ?_ ?_
    · rw [hposts, helse]
      exact ready.asker_calm calm
    · rw [hposts, hown]
      exact hother.handle going due.fits (Or.inl rfl) fun x hx => Or.inl (calm.held.subset hx)
  | stopped calm ended wire =>
    refine h.silent side later steady count wire (cut ▸ carried.calm calm) ?_ ?_
    · rw [hposts, helse]
      exact ready.asker_calm calm
    · rw [hposts, hown]
      exact hother.handle going due.fits (Or.inr ⟨rfl, Or.inr ended⟩)
        fun x hx => Or.inl (calm.held.subset hx)
  | held immediate applied sequence face =>
    refine h.silent side later steady count ?_ ?_ ?_ ?_
    · rw [face]
      rfl
    · rw [cut, face]
      exact carried.receiver (Or.inl rfl) (Or.inl rfl)
    · rw [hposts, helse, face]
      exact ready.asker (fun ready => ready) (Nat.le_refl _) (List.Sublist.refl _)
    · rw [hposts, hown]
      refine hother.handle going due.fits (Or.inr ⟨rfl, Or.inl applied⟩) fun x hx => ?_
      rw [face] at hx
      rcases List.mem_append.mp hx with hx | hx
      · exact Or.inl hx
      · rw [List.mem_singleton.mp hx]
        exact Or.inr ⟨applied, sequence⟩

/-- An answer arrives: the send under its number no longer waits. -/
theorem answer (h : InStep peers deeds ahead) {side : Side} {byte : UInt8} {rest : Bytes}
    (flight : peers.flight side = byte :: rest) {arrival : Arrival}
    (harr : (peers side).station.arrival? (peers side).table byte = some arrival)
    (hanswer : arrival.frame.isAnswer = true) (hrequest : arrival.frame.isRequest = false)
    (count : (peers side).taken + 1 ≤ (peers side.other).station.wire.length)
    (cut : (peers side.other).station.wire.drop ((peers side).taken + 1) = rest) :
    ∃ ahead', InStep (peers.set side ⟨(peers side).station.feed (peers side).table byte,
        (peers side).table, (peers side).taken + 1⟩)
      (deeds ++ Peers.taking side (peers side).table (peers side).station
        ((peers side).station.feed (peers side).table byte) arrival) ahead' := by
  obtain ⟨sound, -, -, later, hahead, carried⟩ := h.arrived flight harr
  have steady := (h.steady side).feed (peers side).table byte
  have hother := h.agreed_other side
  rw [hahead] at hother
  have hself := h.agreed side
  rw [hahead] at hself
  have hface := Station.face_handle_answer (peers side).table
    ((peers side).station.withIntake (some (.header []))) sound hanswer
  rw [← Station.feed_of_arrival harr] at hface
  have hreq : requests (arrival.frame :: later) = requests later := by
    simp [requests, hrequest]
  have hans : answers (arrival.frame :: later) = arrival.frame :: answers later := by
    simp [answers, hanswer]
  rw [hreq] at hother
  rw [hans] at hself
  refine h.silent side later steady count ?_ ?_ ?_ ?_
  · rw [hface]
    rfl
  · rw [cut, hface]
    exact carried.receiver (Or.inl rfl) (Or.inl rfl)
  · rw [posts_append, posts_taking, List.append_nil, handled_append,
      handled_taking_answer hrequest, List.append_nil, hface]
    exact hself.answer.asker (fun ready => ready) (Nat.le_refl _) (List.Sublist.refl _)
  · rw [posts_append, posts_taking, List.append_nil, handled_append,
      handled_taking_answer hrequest, List.append_nil, hface]
    exact hother.answerer (List.Sublist.refl _)
      fun hn => absurd hn (Station.receiving_of_arrival harr)

/-- The side takes the next byte off its stream. -/
theorem deliver (h : InStep peers deeds ahead) (side : Side)
    (describes : (peers side).table.Describes (peers side).station.memory) :
    ∃ ahead', InStep (peers.step (.deliver side)) (deeds ++ peers.deeds (.deliver side))
      ahead' := by
  simp only [Peers.step, Peers.deeds]
  cases flight : peers.flight side with
  | nil => exact ⟨ahead, by simpa using h⟩
  | cons byte rest =>
    have whole : (peers side.other).station.wire.drop (peers side).taken = byte :: rest := by
      rw [← flight_eq (h.steady side.other), flight]
    have cut : (peers side.other).station.wire.drop ((peers side).taken + 1) = rest := by
      rw [← List.drop_drop, whole]
      rfl
    have count : (peers side).taken + 1 ≤ (peers side.other).station.wire.length := by
      have := congrArg List.length whole
      simp only [List.length_drop, List.length_cons] at this
      omega
    simp only
    cases harr : (peers side).station.arrival? (peers side).table byte with
    | none =>
      have carried := h.carried side
      rw [flight] at carried
      obtain ⟨hface, hc⟩ := carried.byte harr
      have steady := (h.steady side).feed (peers side).table byte
      refine h.silent side (ahead side) steady count (by rw [hface]) (cut ▸ hc) ?_ ?_
      · rw [List.append_nil, hface]
        exact (h.agreed side).asker (fun ready => ready) (Nat.le_refl _) (List.Sublist.refl _)
      · rw [List.append_nil, hface]
        refine (h.agreed_other side).answerer (List.Sublist.refl _) fun hn => ?_
        have hn : (peers side).station.queuePair.intake = none := hn
        simp only [Station.extended, hn]
    | some arrival =>
      obtain ⟨-, -, kind, -⟩ := h.arrived flight harr
      by_cases hr : arrival.frame.isRequest = true
      · exact h.request flight harr hr describes count cut
      · exact h.answer flight harr (kind.resolve_left hr) (Bool.eq_false_iff.mpr hr) count cut

/-- The two stay in step whatever turn is taken. -/
theorem step (h : InStep peers deeds ahead)
    (describes : ∀ side, (peers side).table.Describes (peers side).station.memory)
    (turn : Turn) : ∃ ahead', InStep (peers.step turn) (deeds ++ peers.deeds turn) ahead' := by
  cases turn with
  | postSend side send => exact h.postSend side send
  | postReceive side request => exact h.postReceive side request
  | deliver side => exact h.deliver side (describes side)
  | store side region offset data =>
    exact h.calm side ((h.steady side).of_link rfl) (Calm.refl _) rfl (fun _ => rfl)
      (fun _ => rfl)
  | poll side most =>
    exact h.calm side ((h.steady side).of_link rfl) (Calm.refl _) rfl (fun _ => rfl)
      (fun _ => rfl)
  | hangUp side =>
    obtain ⟨calm, wire⟩ : Calm (peers side).station.face (peers side).station.endOfStream.face ∧
        (peers side).station.endOfStream.face.wire = (peers side).station.face.wire := by
      unfold Station.endOfStream
      split
      · exact ⟨Calm.refl _, rfl⟩
      · obtain ⟨calm, -, wire⟩ := (peers side).station.calm_breakOff
        exact ⟨calm, wire⟩
    exact h.calm side (h.steady side).endOfStream calm wire (fun _ => rfl) (fun _ => rfl)

end InStep

end RdmaLink
