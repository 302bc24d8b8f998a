import RdmaLink.Proofs.Peers.Record
import RdmaLink.Proofs.Peers.Start

/-!
# Integrity of what two queue pairs exchange

Two queue pairs that are ready to send exchange writes and reads in any order of turns.  Each deed
of the chronicle is right where it stands (`Peers.Right`): a post has captured its local range; a
request that is handled is the next one that the other side has posted, and becomes what is due;
fetched data is what the other side served; a successful completion was earned.

    every deed of a chronicle is right, and the chronicle accounts for the memory of both sides
    and for every successful completion of a send                      (Peers.exchange_intact)

A write whose key, right or range the other side does not know is refused, and the writes and
reads behind it are handled all the same (`Peers.read_overtakes_refused_write`).
-/

namespace RdmaLink

/-- A post of a side was handled by the other side with an outcome, after earlier deeds. -/
structure HandledAfter (side : Side) (earlier deeds : List Deed) (i : Nat) (post : Post)
    (outcome : Outcome) : Prop where
  split : ∃ later, deeds = earlier ++ .handled side.other post.frame outcome :: later
  index : (handled side.other earlier).length = i

namespace Peers

/-- The memory of a side after deeds. -/
def memoryAfter (peers : Peers) (side : Side) (deeds : List Deed) : Memory :=
  replay side (peers side).station.memory deeds

/-- A write that the other side was asked for is settled: it was applied, or it was refused and
the registrations of the other side do not admit it. -/
def WriteSettled (peers : Peers) (side : Side) (deeds : List Deed) (i : Nat) (post : Post) : Prop :=
  (∃ region offset,
    (handled side.other deeds)[i]? = some (post.frame, .applied region offset)) ∨
  ((handled side.other deeds)[i]? = some (post.frame, .refused) ∧
    (peers side.other).table.target? post.send.remoteKey post.send.remoteAddress post.send.length
      ⟨false, true, false⟩ = none)

/-- A completion is the successful one of a post. -/
structure Completes (peers : Peers) (before : List Deed) (side : Side) (sequence : Nat)
    (completion : Completion) (i : Nat) (post : Post) : Prop where
  posted : (posts side before)[i]? = some post
  sequence : post.sequence = sequence
  request : completion.request = post.send.request
  operation : completion.operation = post.send.operation.operation
  length : completion.length = post.send.length
  /-- A write has been applied, with as many bytes as the completion reports. -/
  write : post.send.operation ≠ .read →
    post.payload.length = completion.length.toNat ∧
      ∃ earlier region offset, HandledAfter side earlier before i post (.applied region offset)
  /-- The sink of a read holds the bytes that the other side held in the range that was asked for
  when it handled the read; every write posted before the read was settled by then. -/
  read : post.send.operation = .read →
    ∃ earlier region offset data,
      HandledAfter side earlier before i post (.served region offset data) ∧
      (peers side.other).table.target? post.send.remoteKey post.send.remoteAddress
        post.send.length ⟨false, false, true⟩ = some (region, offset) ∧
      (peers.memoryAfter side.other earlier).read region offset post.send.length.toNat =
        .ok data ∧
      (peers.memoryAfter side before).read post.region post.offset post.send.length.toNat =
        .ok data ∧
      ∀ j write, j < i → (posts side before)[j]? = some write → write.send.operation ≠ .read →
        peers.WriteSettled side earlier j write

/-- What is true of a deed that is done after others. -/
def Right (peers : Peers) (before : List Deed) : Deed → Prop
  | .posted side post =>
    Captured (peers side).table (peers.memoryAfter side before) post
  | .handled side request outcome =>
    (∃ post, (posts side.other before)[(handled side before).length]? = some post ∧
      request = post.frame) ∧
    Due (peers side).table (peers.memoryAfter side before) request outcome
  | .fetched side sequence region offset data =>
    ∃ i post source place,
      Met (posts side before) (handled side.other before) i post (.served source place data) ∧
      post.sequence = sequence ∧ post.send.operation = .read ∧ post.region = region ∧
      post.offset = offset
  | .stored _ _ _ _ => True
  | .completed side sequence completion =>
    completion.SentWell → ∃ i post, peers.Completes before side sequence completion i post

/-- Every deed is right where it stands. -/
def Upheld (peers : Peers) (deeds : List Deed) : Prop :=
  ∀ before deed after, deeds = before ++ deed :: after → peers.Right before deed

end Peers

/-! ## Deeds by index -/

/-- What a filter keeps at an index stands behind as many kept values. -/
theorem split_filterMap {α β : Type} {f : α → Option β} {l : List α} {i : Nat} {b : β}
    (h : (l.filterMap f)[i]? = some b) :
    ∃ front a back, l = front ++ a :: back ∧ f a = some b ∧ (front.filterMap f).length = i := by
  induction l generalizing i with
  | nil => simp at h
  | cons x rest ih =>
    cases hx : f x with
    | none =>
      rw [List.filterMap_cons_none hx] at h
      obtain ⟨front, a, back, rfl, ha, hlen⟩ := ih h
      exact ⟨x :: front, a, back, rfl, ha, by rw [List.filterMap_cons_none hx]; exact hlen⟩
    | some y =>
      rw [List.filterMap_cons_some hx] at h
      cases i with
      | zero => exact ⟨[], x, rest, rfl, by rw [hx]; simpa using h, rfl⟩
      | succ i =>
        obtain ⟨front, a, back, rfl, ha, hlen⟩ := ih (by simpa using h)
        refine ⟨x :: front, a, back, rfl, ha, ?_⟩
        rw [List.filterMap_cons_some hx, List.length_cons, hlen]

theorem posts_split {side : Side} {deeds : List Deed} {i : Nat} {post : Post}
    (h : (posts side deeds)[i]? = some post) :
    ∃ earlier later, deeds = earlier ++ .posted side post :: later := by
  obtain ⟨earlier, deed, later, heq, hd, -⟩ := split_filterMap h
  refine ⟨earlier, later, ?_⟩
  cases deed with
  | posted s p =>
    simp only [Deed.post?] at hd
    split at hd
    · next hs => cases hd; rw [heq, hs]
    · cases hd
  | _ => cases hd

theorem handled_split {side : Side} {deeds : List Deed} {i : Nat} {request : Frame}
    {outcome : Outcome} (h : (handled side deeds)[i]? = some (request, outcome)) :
    ∃ earlier later, deeds = earlier ++ .handled side request outcome :: later ∧
      (handled side earlier).length = i := by
  obtain ⟨earlier, deed, later, heq, hd, hlen⟩ := split_filterMap h
  refine ⟨earlier, later, ?_, hlen⟩
  cases deed with
  | handled s r o =>
    simp only [Deed.handled?] at hd
    split at hd
    · next hs => cases hd; rw [heq, hs]
    · cases hd
  | _ => cases hd

/-- The deeds that are handled before an index stay when more is done. -/
theorem handled_of_split {side : Side} {earlier later : List Deed} {deed : Deed} {j : Nat}
    (h : j < (handled side earlier).length) :
    (handled side (earlier ++ deed :: later))[j]? = (handled side earlier)[j]? := by
  rw [handled_append, List.getElem?_append_left h]

namespace Peers

variable {peers : Peers} {deeds : List Deed}

theorem upheld_nil : peers.Upheld [] := by
  intro before deed after h
  exact absurd h.symm (by simp)

/-- More is upheld if each deed of it is right behind those before it. -/
theorem Upheld.append (h : peers.Upheld deeds) {more : List Deed}
    (right : ∀ before deed after, more = before ++ deed :: after →
      peers.Right (deeds ++ before) deed) : peers.Upheld (deeds ++ more) := by
  intro before deed after heq
  rcases List.append_eq_append_iff.mp heq with ⟨middle, hb, hm⟩ | ⟨middle, hd, hm⟩
  · rw [hb]
    exact right middle deed after hm
  · cases middle with
    | nil =>
      rw [List.append_nil] at hd
      rw [← hd, ← List.append_nil deeds]
      exact right [] deed after hm.symm
    | cons first rest =>
      obtain ⟨rfl, -⟩ := List.cons.inj hm
      exact h before deed rest hd

theorem Upheld.concat (h : peers.Upheld deeds) {deed : Deed} (right : peers.Right deeds deed) :
    peers.Upheld (deeds ++ [deed]) := by
  refine h.append fun before d after heq => ?_
  cases before with
  | nil =>
    obtain ⟨rfl, -⟩ := List.cons.inj heq
    rw [List.append_nil]
    exact right
  | cons first rest =>
    have := congrArg List.length heq
    simp at this

end Peers

/-! ## Answers and the posts that they answer -/

@[simp] theorem Post.key_frame (post : Post) : post.frame.header.key = post.send.remoteKey := by
  unfold Post.frame
  split <;> rfl

@[simp] theorem Post.address_frame (post : Post) :
    post.frame.header.address = post.send.remoteAddress := by
  unfold Post.frame
  split <;> rfl

/-- A success under the number of a read that was handled brings the data that was served. -/
theorem Outcome.served_of_read {header : Header} {outcome : Outcome} {frame : Frame}
    (fits : outcome.Fits header) (read : header.opcode = Opcode.readRequest)
    (answers : outcome.isApplied = true ∨ frame = outcome.answer header)
    (success : Status.ofCode frame.header.status = .success) :
    ∃ region offset, outcome = .served region offset frame.payload ∧
      frame.header.opcode = Opcode.readResponse ∧ frame.header.length = header.length := by
  cases outcome with
  | applied region offset => exact absurd read fits
  | refused => exact absurd read fits
  | served region offset data =>
    rcases answers with ha | rfl
    · cases ha
    · exact ⟨region, offset, rfl, rfl, rfl⟩
  | denied =>
    rcases answers with ha | rfl
    · cases ha
    · exact absurd success (by decide : ¬ Status.ofCode Status.remoteAccess.code = .success)

/-- A success under the number of a write that was handled says that it was applied. -/
theorem Outcome.applied_of_write {header : Header} {outcome : Outcome} {frame : Frame}
    (fits : outcome.Fits header) (write : header.opcode ≠ Opcode.readRequest)
    (answers : outcome.isApplied = true ∨ frame = outcome.answer header)
    (success : Status.ofCode frame.header.status = .success) :
    ∃ region offset, outcome = .applied region offset := by
  cases outcome with
  | applied region offset => exact ⟨region, offset, rfl⟩
  | refused =>
    rcases answers with ha | rfl
    · cases ha
    · exact absurd success (by decide : ¬ Status.ofCode Status.remoteAccess.code = .success)
  | served region offset data => exact absurd fits write
  | denied => exact absurd fits write

namespace InStep

variable {peers : Peers} {deeds : List Deed} {ahead : Side → List Frame}

/-- The send that an answer finds under its number was posted, and is answered. -/
theorem answered (h : InStep peers deeds ahead) {side : Side} {byte : UInt8} {rest : Bytes}
    (flight : peers.flight side = byte :: rest) {arrival : Arrival}
    (harr : (peers side).station.arrival? (peers side).table byte = some arrival)
    (hanswer : arrival.frame.isAnswer = true) {send : PendingSend}
    (hs : (peers side).station.queuePair.work.send? arrival.header.sequence.toNat = some send) :
    ∃ i p outcome, Met (posts side deeds) (handled side.other deeds) i p outcome ∧
      p.sequence = arrival.header.sequence.toNat ∧ send = p.pending ∧
      outcome.Fits p.frame.header ∧
      (outcome.isApplied = true ∨ arrival.frame = outcome.answer p.frame.header) := by
  obtain ⟨-, -, -, later, hahead, -⟩ := h.arrived flight harr
  have agreed := h.agreed side
  have first : answers (arrival.frame :: later) = arrival.frame :: answers later := by
    simp [answers, hanswer]
  rw [hahead, first] at agreed
  obtain ⟨a, b, hab, -⟩ := List.lookup_eq_some_iff.mp hs
  have waits : (arrival.header.sequence.toNat, send) ∈
      (peers side).station.face.outstanding := by
    show _ ∈ (peers side).station.queuePair.work.outstanding
    rw [hab]
    simp
  obtain ⟨i, p, outcome, met, hsequence, hsend, hanswers⟩ := agreed.answer_right waits
  exact ⟨i, p, outcome, met, hsequence, hsend,
    agreed.fits _ (List.mem_of_getElem? met.handled), hanswers⟩

end InStep

/-! ## What is right in a turn -/

/-- Two queue pairs after deeds that account for all that has become of them. -/
structure Intact (peers now : Peers) (deeds : List Deed) : Prop where
  inStep : ∃ ahead, InStep now deeds ahead
  tables : ∀ side, (now side).table = (peers side).table
  described : ∀ side, (peers side).table.Describes (peers side).station.memory
  memory : ∀ side, (now side).station.memory = peers.memoryAfter side deeds
  upheld : peers.Upheld deeds
  recorded : ∀ side c, c ∈ (now side).station.completions.toList → c.SentWell →
    ∃ n, Deed.completed side n c ∈ deeds

namespace Intact

variable {peers now : Peers} {deeds : List Deed} {ahead : Side → List Frame}

theorem start (ready : ∀ side, peers.Ready side) : Intact peers peers [] := by
  refine ⟨⟨_, InStep.start ready⟩, fun _ => rfl, fun side => (ready side).described,
    fun _ => rfl, Peers.upheld_nil, ?_⟩
  intro side c hc
  rw [(ready side).completions] at hc
  exact absurd hc List.not_mem_nil

/-- The registrations still describe the regions. -/
theorem describes (h : Intact peers now deeds) (side : Side) :
    (now side).table.Describes (now side).station.memory := by
  rw [h.tables, h.memory]
  exact (h.described side).keeps (keeps_replay side _ deeds)

/-- A request that is handled is the next that was posted, and becomes what is due. -/
theorem right_handled (h : Intact peers now deeds) (inStep : InStep now deeds ahead) {side : Side}
    {byte : UInt8} {rest : Bytes} (flight : now.flight side = byte :: rest) {arrival : Arrival}
    (harr : (now side).station.arrival? (now side).table byte = some arrival)
    (hrequest : arrival.frame.isRequest = true) :
    peers.Right deeds (.handled side arrival.frame
      ((now side).station.outcome (now side).table arrival)) := by
  obtain ⟨sound, settled, -, later, hahead, -⟩ := inStep.arrived flight harr
  have agreed := inStep.agreed side.other
  have first : requests (arrival.frame :: later) = arrival.frame :: requests later := by
    simp [requests, hrequest]
  rw [Side.other_other, hahead, first] at agreed
  obtain ⟨p, hp, hframe⟩ := post_of_asked agreed.order
  refine ⟨⟨p, hp, hframe.symm⟩, ?_⟩
  have due := Station.due_outcome sound settled (h.describes side) hrequest
  rw [h.tables, h.memory] at due
  rw [h.tables]
  exact due

/-- Data that is fetched is what the other side served, and goes into the sink of a read. -/
theorem right_fetched (inStep : InStep now deeds ahead) {side : Side} {byte : UInt8}
    {rest : Bytes} (flight : now.flight side = byte :: rest) {arrival : Arrival}
    (harr : (now side).station.arrival? (now side).table byte = some arrival)
    (hanswer : arrival.frame.isAnswer = true) {region : RegionId} {offset : Nat}
    (place : (now side).station.place? arrival = some (region, offset)) :
    peers.Right deeds
      (.fetched side arrival.header.sequence.toNat region offset arrival.payload) := by
  obtain ⟨sound, -⟩ := inStep.arrived flight harr
  have hop := Frame.isAnswer_iff.mp hanswer
  unfold Station.place? at place
  split at place
  · next d s o hd =>
    -- a write is no answer
    rcases sound.suits _ hd with hw | hw
    · rcases hop with hr | hr <;> exact absurd (hw.symm.trans hr) (by decide)
    · rcases hop with hr | hr <;> exact absurd (hw.symm.trans hr) (by decide)
  · next hd =>
    obtain ⟨send, hs, hsink⟩ := Option.bind_eq_some_iff.mp place
    obtain ⟨i, p, outcome, met, hsequence, rfl, fits, hanswers⟩ :=
      inStep.answered flight harr hanswer hs
    have hread : p.send.operation = .read := by
      unfold Post.pending at hsink
      simp only at hsink
      split at hsink
      · assumption
      · cases hsink
    simp only [Post.pending, if_pos hread, Option.some.injEq, Prod.mk.injEq] at hsink
    obtain ⟨source, at_, rfl, -, -⟩ := Outcome.served_of_read fits (p.opcode_frame.mpr hread)
      hanswers (sound.suits _ hd).2
    exact ⟨i, p, source, at_, met, hsequence, hread, hsink.1, hsink.2⟩
  · cases place

/-- A write that was handled before an index is settled by then. -/
theorem writeSettled (h : Intact peers now deeds) (inStep : InStep now deeds ahead) {side : Side}
    {earlier later : List Deed} {deed : Deed} (split : deeds = earlier ++ deed :: later) {j : Nat}
    (hj : j < (handled side.other earlier).length) {write : Post}
    (posted : (posts side deeds)[j]? = some write) (hop : write.send.operation ≠ .read) :
    peers.WriteSettled side earlier j write := by
  have hne : write.frame.header.opcode ≠ Opcode.readRequest :=
    fun hr => hop (write.opcode_frame.mp hr)
  have hthere : (handled side.other earlier)[j]? =
      some (handled side.other earlier)[j] := List.getElem?_eq_getElem hj
  generalize (handled side.other earlier)[j] = entry at hthere
  obtain ⟨request, outcome⟩ := entry
  have hall : (handled side.other deeds)[j]? = some (request, outcome) := by
    rw [split, handled_of_split hj]
    exact hthere
  obtain ⟨q, rfl, met⟩ := met_of_handled (inStep.agreed side).order hall
  cases posted.symm.trans met.posted
  -- what became of it was due
  obtain ⟨before, after, hsplit, -⟩ := handled_split hall
  have due := (h.upheld before _ after hsplit).2
  cases outcome with
  | applied region offset => exact Or.inl ⟨region, offset, hthere⟩
  | refused => exact Or.inr ⟨hthere, by simpa using due.2⟩
  | served region offset data => exact absurd due.1 hne
  | denied => exact absurd due.1 hne

/-- A successful completion that an answer gives rise to is that of a post. -/
theorem right_completed (h : Intact peers now deeds) (inStep : InStep now deeds ahead)
    {side : Side} {byte : UInt8} {rest : Bytes} (flight : now.flight side = byte :: rest)
    {arrival : Arrival}
    (harr : (now side).station.arrival? (now side).table byte = some arrival)
    (hanswer : arrival.frame.isAnswer = true) {more : List Deed}
    (noPosts : posts side more = [])
    (memory : peers.memoryAfter side (deeds ++ more) =
      ((now side).station.feed (now side).table byte).memory) {c : Completion}
    (earned : Station.Earned (now side).table
      ((now side).station.withIntake (some (.header []))) arrival c) :
    peers.Right (deeds ++ more) (.completed side arrival.header.sequence.toNat c) := by
  intro well
  obtain ⟨sound, -⟩ := inStep.arrived flight harr
  rcases earned well.1 with hreceive | ⟨send, hs, hc, hstatus, how⟩
  · exact absurd well (InStep.received_not_sentWell c fun _ => hreceive)
  obtain ⟨i, p, outcome, met, hsequence, rfl, fits, hanswers⟩ :=
    inStep.answered flight harr hanswer hs
  have hposts : posts side (deeds ++ more) = posts side deeds := by
    rw [posts_append, noPosts, List.append_nil]
  obtain ⟨earlier, later, hsplit, hindex⟩ := handled_split met.handled
  have hlater : deeds ++ more =
      earlier ++ .handled side.other p.frame outcome :: (later ++ more) := by
    rw [hsplit]
    simp
  have hhandled : HandledAfter side earlier (deeds ++ more) i p outcome := ⟨⟨_, hlater⟩, hindex⟩
  refine ⟨i, p, ?_⟩
  subst hc
  refine ⟨by rw [hposts]; exact met.posted, hsequence, rfl, rfl, rfl, ?_, ?_⟩
  · intro hop
    have hne : p.frame.header.opcode ≠ Opcode.readRequest := fun hr => hop (p.opcode_frame.mp hr)
    obtain ⟨region, offset, rfl⟩ := Outcome.applied_of_write fits hne hanswers hstatus
    refine ⟨?_, earlier, region, offset, hhandled⟩
    obtain ⟨before, after, hpost⟩ := posts_split met.posted
    have captured : Captured _ _ p := h.upheld before _ after hpost
    exact Memory.length_of_read (captured.payload hop)
  · intro hop
    obtain ⟨region, offset, rfl, hresponse, hlength⟩ :=
      Outcome.served_of_read fits (p.opcode_frame.mpr hop) hanswers hstatus
    have due := (h.upheld earlier _ later hsplit).2
    have served := due.2.2
    rw [Post.length_frame] at served
    refine ⟨earlier, region, offset, arrival.payload, hhandled, by simpa using due.2.1, served,
      ?_, ?_⟩
    · -- the data that arrived is in the sink
      rcases how with hack | ⟨sinkRegion, sinkOffset, written, hd, hsink, hwrite, hmemory⟩
      · have hresponse : arrival.header.opcode = Opcode.readResponse := hresponse
        exact absurd (hack.symm.trans hresponse) (by decide)
      · simp only [Post.pending, if_pos hop, Option.some.injEq, Prod.mk.injEq] at hsink
        obtain ⟨rfl, rfl⟩ := hsink
        have hlen : arrival.payload.length = p.send.length.toNat := by
          rw [sound.length, (sound.suits _ hd).payloadLength, ← p.length_frame]
          exact congrArg UInt32.toNat hlength
        rw [memory, Station.feed_of_arrival harr, hmemory, ← hlen]
        exact Memory.read_of_write hwrite
    · intro j write hj hposted hwrite
      rw [hposts] at hposted
      exact h.writeSettled inStep hsplit (hindex ▸ hj) hposted hwrite

/-- What is done when a frame has arrived in full is right. -/
theorem upheld_taking (h : Intact peers now deeds) (inStep : InStep now deeds ahead) {side : Side}
    {byte : UInt8} {rest : Bytes} (flight : now.flight side = byte :: rest) {arrival : Arrival}
    (harr : (now side).station.arrival? (now side).table byte = some arrival) :
    peers.Upheld (deeds ++ Peers.taking side (now side).table (now side).station
      ((now side).station.feed (now side).table byte) arrival) := by
  obtain ⟨sound, -, kind, -⟩ := inStep.arrived flight harr
  by_cases hr : arrival.frame.isRequest = true
  · have right := h.right_handled inStep flight harr hr
    unfold Peers.taking
    rw [if_pos hr]
    exact h.upheld.concat right
  · have hanswer := kind.resolve_left hr
    have hr : arrival.frame.isRequest = false := Bool.eq_false_iff.mpr hr
    obtain ⟨kept, hkept, earned⟩ := Station.completions_feed harr
    rw [taking_answer hr hkept, ← List.append_assoc]
    refine Peers.Upheld.append ?_ ?_
    · -- the data is fetched
      cases hp : (now side).station.place? arrival with
      | none =>
        unfold Peers.fetching
        rw [hp, List.append_nil]
        exact h.upheld
      | some place =>
        obtain ⟨region, offset⟩ := place
        have right : peers.Right deeds _ := right_fetched inStep flight harr hanswer hp
        unfold Peers.fetching
        rw [hp]
        exact h.upheld.concat right
    · -- and then the send is completed
      intro before deed after heq
      obtain ⟨first, others, rfl, rfl, hothers⟩ := List.map_eq_append_iff.mp heq
      obtain ⟨c, others, rfl, rfl, rfl⟩ := List.map_eq_cons_iff.mp hothers
      rw [List.append_assoc]
      refine h.right_completed inStep flight harr hanswer ?_ ?_ (earned c (by simp))
      · refine List.filterMap_eq_nil_iff.mpr fun deed hd => ?_
        rcases List.mem_append.mp hd with hd | hd
        · obtain ⟨_, _, -, rfl⟩ := mem_fetching hd
          rfl
        · obtain ⟨_, -, rfl⟩ := List.mem_map.mp hd
          rfl
      · unfold Peers.memoryAfter
        rw [replay_append, replay_append, replay_completed]
        have hmemory := h.memory side
        unfold Peers.memoryAfter at hmemory
        rw [← hmemory, replay_fetching, Station.feed_of_arrival harr,
          Station.memory_handle _ _ sound]
        rfl

/-- Everything stays accounted for whatever turn is taken. -/
theorem step (h : Intact peers now deeds) (turn : Turn) :
    Intact peers (now.step turn) (deeds ++ now.deeds turn) := by
  obtain ⟨ahead, inStep⟩ := h.inStep
  refine ⟨inStep.step h.describes turn,
    fun side => (now.table_step turn side).trans (h.tables side), h.described, fun side => ?_,
    ?_, ?_⟩
  · unfold Peers.memoryAfter
    rw [inStep.memory_step, h.memory, replay_append]
    rfl
  · cases turn with
    | postSend side send =>
      simp only [Peers.deeds]
      rcases (now side).station.post_cases (now side).table send with
        ⟨hn, -⟩ | ⟨p, hp, captured, -⟩
      · rw [hn]
        exact (List.append_nil deeds).symm ▸ h.upheld
      · rw [hp]
        rw [h.tables, h.memory] at captured
        exact h.upheld.concat captured
    | postReceive side request => exact (List.append_nil deeds).symm ▸ h.upheld
    | deliver side =>
      simp only [Peers.deeds]
      cases flight : now.flight side with
      | nil => exact (List.append_nil deeds).symm ▸ h.upheld
      | cons byte rest =>
        simp only
        cases harr : (now side).station.arrival? (now side).table byte with
        | none => exact (List.append_nil deeds).symm ▸ h.upheld
        | some arrival => exact h.upheld_taking inStep flight harr
    | store side region offset data => exact h.upheld.concat trivial
    | poll side most => exact (List.append_nil deeds).symm ▸ h.upheld
    | hangUp side => exact (List.append_nil deeds).symm ▸ h.upheld
  · intro side c hc well
    rcases inStep.recorded turn side hc well with hc | ⟨n, hn⟩
    · obtain ⟨n, hn⟩ := h.recorded side c hc well
      exact ⟨n, List.mem_append_left _ hn⟩
    · exact ⟨n, List.mem_append_right _ hn⟩

theorem run (h : Intact peers now deeds) (turns : List Turn) :
    Intact peers (now.run turns) (deeds ++ now.chronicle turns) := by
  induction turns generalizing now deeds with
  | nil => exact (List.append_nil deeds).symm ▸ h
  | cons turn later ih =>
    have := ih (h.step turn)
    rwa [List.append_assoc] at this

end Intact

namespace Peers

/-- Whatever turns two queue pairs take: every deed is right where it stands; what a side has
handled is what the other has posted, in order and each post once; the memory of a side is changed
by the writes applied to it, its own stores and the sinks of its reads; and a send that the queue
reports as a success was posted and has been done. -/
theorem exchange_intact (peers : Peers) (ready : ∀ side, peers.Ready side) (turns : List Turn) :
    let done := peers.chronicle turns
    let now := peers.run turns
    (∀ before deed after, done = before ++ deed :: after → peers.Right before deed) ∧
    ∀ side,
      (handled side.other done).map Prod.fst <+: (posts side done).map Post.frame ∧
      (now side).station.memory = peers.memoryAfter side done ∧
      (∀ c ∈ (now side).station.completions.toList, c.SentWell →
        ∃ before after n i post, done = before ++ .completed side n c :: after ∧
          peers.Completes before side n c i post) ∧
      (∀ send, ((now side).station.postSend (now side).table send).1 = .ok () →
        ∃ post, post.send = send ∧ now.deeds (.postSend side send) = [.posted side post]) := by
  intro done now
  have intact : Intact peers now done := (Intact.start ready).run turns
  refine ⟨intact.upheld, fun side => ⟨?_, intact.memory side, ?_, ?_⟩⟩
  · obtain ⟨ahead, inStep⟩ := intact.inStep
    exact (List.prefix_append _ _).trans (inStep.agreed side).order
  · intro c hc well
    obtain ⟨n, hn⟩ := intact.recorded side c hc well
    obtain ⟨before, after, heq⟩ := List.append_of_mem hn
    obtain ⟨i, post, completes⟩ := intact.upheld before _ after heq well
    exact ⟨before, after, n, i, post, heq, completes⟩
  · intro send taken
    obtain ⟨post, hsend, hpost⟩ := Station.post?_of_taken taken
    refine ⟨post, hsend, ?_⟩
    simp only [deeds, hpost]
    rfl

/-- The calls that link a queue pair to another. -/
def linkedTo (number far : UInt32) : List QueuePairEvent :=
  let peer : QueuePairAddress := ⟨far, 0, 0, ⟨0⟩⟩
  [.toInit Access.all, .attach (Stream.ofBytes (Header.hello far number).toBytes false),
    .link peer (.v6 peer.gid.toIpv6) ⟨fun _ => .error .timedOut, none, 0⟩]

theorem numbered_fits : (4096 : UInt64).toNat + 4 < 2 ^ 64 := by
  decide

/-- A region of four bytes that hold a number. -/
def numbered (number : UInt32) : Memory :=
  ⟨[⟨"region", 4096, 4, fun _ => number.toUInt8, numbered_fits⟩]⟩

/-- A queue pair that is ready to send, with its region registered under the keys 1 and 5. -/
def started (number far : UInt32) : Peer :=
  { station := (((History.fresh ⟨number, 0, 0, ⟨0⟩⟩ ⟨1000⟩ 4 (numbered number)).run
      (linkedTo number far)).step .start).station
    table := ⟨[⟨1, 5, 4096, 4, Access.all, ⟨0⟩⟩], 1⟩
    taken := Header.size }

/-- Two queue pairs that are linked to each other. -/
def pair : Peers := ⟨started 1 2, started 2 1⟩

theorem memory_started (number far : UInt32) :
    (started number far).station.memory = numbered number := by
  have advance (s : Station) (result : Except DeviceError QueuePair) :
      (s.advance result).memory = s.memory := by
    cases result <;> rfl
  simp only [started, linkedTo, History.run, History.step, List.foldl_cons, List.foldl_nil,
    Station.after, advance]
  rfl

theorem described_started (number far : UInt32) :
    (started number far).table.Describes (started number far).station.memory := by
  rw [memory_started]
  intro registration h
  rw [List.mem_singleton.mp h]
  exact ⟨_, rfl, rfl, rfl⟩

theorem steady_pair (side : Side) : (pair side).station.Steady := by
  have greeted {station : Station} {number far : UInt32} (link : station.queuePair.link =
      some ((Stream.ofBytes [] false).wrote (Header.hello number far).toBytes)) :
      station.Steady := by
    intro stream h
    rw [link] at h
    cases h
    exact ⟨fun _ => rfl, by simp [Stream.ofBytes]⟩
  cases side with
  | left => exact @greeted _ 1 2 rfl
  | right => exact @greeted _ 2 1 rfl

theorem pair_ready (side : Side) : pair.Ready side := by
  cases side with
  | left =>
    exact @ready_of_start pair .left ⟨1, 0, 0, ⟨0⟩⟩ ⟨1000⟩ 4 (numbered 1) (linkedTo 1 2)
      (by decide +kernel) rfl (steady_pair .left) (by decide +kernel) (described_started 1 2)
  | right =>
    exact @ready_of_start pair .right ⟨2, 0, 0, ⟨0⟩⟩ ⟨1000⟩ 4 (numbered 2) (linkedTo 2 1)
      (by decide +kernel) rfl (steady_pair .right) (by decide +kernel) (described_started 2 1)

/-- A write of two bytes, then other bytes come to their place, then a read of four. -/
def writeThenRead : List Turn :=
  [.postSend .left ⟨7, .write, 4096, 1, 2, 4097, 5⟩, .store .left ⟨0⟩ 0 [9, 9, 9, 9],
    .postSend .left ⟨8, .read, 4096, 1, 4, 4096, 5⟩] ++
  List.replicate 66 (.deliver .right) ++ List.replicate 68 (.deliver .left)

/-- The read brings the two bytes as they were when the write was posted. -/
theorem write_then_read_intact :
    (∀ side, pair.Ready side) ∧
    (pair.run writeThenRead .left).station.memory.read ⟨0⟩ 0 4 = .ok [2, 1, 1, 2] ∧
    ∃ before after n i post, pair.chronicle writeThenRead =
        before ++ .completed .left n ⟨8, .read, .success, 4, none, 1⟩ :: after ∧
      pair.Completes before .left n ⟨8, .read, .success, 4, none, 1⟩ i post := by
  refine ⟨pair_ready, by decide +kernel, ?_⟩
  exact ((exchange_intact pair pair_ready writeThenRead).2 .left).2.2.1
    ⟨8, .read, .success, 4, none, 1⟩ (by decide +kernel) ⟨rfl, rfl⟩

/-- A write under a key that the other side does not know, then a read. -/
def refusedThenRead : List Turn :=
  [.postSend .left ⟨7, .write, 4096, 1, 4, 4096, 99⟩,
    .postSend .left ⟨8, .read, 4096, 1, 4, 4096, 5⟩] ++
  List.replicate 68 (.deliver .right) ++ List.replicate 68 (.deliver .left)

/-- The read succeeds, and the write that was posted before it has not been applied and never
will be. -/
theorem read_overtakes_refused_write :
    let done := pair.chronicle refusedThenRead
    (pair.run refusedThenRead .left).station.completions.toList =
        [⟨7, .write, .remoteAccess, 0, none, 1⟩, ⟨8, .read, .success, 4, none, 1⟩] ∧
      (posts .left done).map (fun post => (post.send.request, post.send.operation)) =
        [(7, .write), (8, .read)] ∧
      (handled .right done).map Prod.snd = [.refused, .served ⟨0⟩ 0 [2, 2, 2, 2]] ∧
      (pair.run refusedThenRead .right).station.memory.read ⟨0⟩ 0 4 = .ok [2, 2, 2, 2] := by
  decide +kernel

end Peers

end RdmaLink
