import RdmaLink.Proofs.Peers.Agreement
import RdmaLink.Proofs.Peers.InFlight

/-!
# What a turn does

One lemma for each kind of turn, about one station: what a send that is taken on has captured
(`Captured`), what has to become of a request (`Due`), and what a frame in full does to the memory
(`replay_taking`).

    the memory of a side = replay of what was done, from the memory at the start
-/

namespace RdmaLink

/-- A post has captured the bytes of its local range: the payload of a write is what the range
held, and a read has none. -/
structure Captured (table : Registrations) (memory : Memory) (post : Post) : Prop where
  range : ∃ registration, table.byLocalKey? post.send.localKey = some registration ∧
    registration.offsetOf? post.send.localAddress post.send.length.toNat = some post.offset ∧
    registration.region = post.region
  payload : post.send.operation ≠ .read →
    memory.read post.region post.offset post.send.length.toNat = .ok post.payload
  bare : post.send.operation = .read → post.payload = []

/-- What has to become of a request: a write that the registrations admit is applied and a read
that they admit is answered with the bytes of its range; others are not. -/
def Due (table : Registrations) (memory : Memory) (request : Frame) : Outcome → Prop
  | .applied region offset =>
    request.header.opcode ≠ Opcode.readRequest ∧
      table.target? request.header.key request.header.address request.header.length
        ⟨false, true, false⟩ = some (region, offset) ∧
      ∃ written, memory.write region offset request.payload = .ok written
  | .refused =>
    request.header.opcode ≠ Opcode.readRequest ∧
      table.target? request.header.key request.header.address request.header.length
        ⟨false, true, false⟩ = none
  | .served region offset data =>
    request.header.opcode = Opcode.readRequest ∧
      table.target? request.header.key request.header.address request.header.length
        ⟨false, false, true⟩ = some (region, offset) ∧
      memory.read region offset request.header.length.toNat = .ok data
  | .denied =>
    request.header.opcode = Opcode.readRequest ∧
      table.target? request.header.key request.header.address request.header.length
        ⟨false, false, true⟩ = none

/-! ## Posts -/

@[simp] theorem Post.length_frame (post : Post) :
    post.frame.header.length = post.send.length := by
  unfold Post.frame
  split <;> rfl

theorem Post.payload_frame {post : Post} (bare : post.send.operation = .read → post.payload = []) :
    post.frame.payload = post.payload := by
  unfold Post.frame
  split
  · next h => exact (bare h).symm
  · rfl

/-- The frame of a post is a frame in full. -/
theorem Captured.whole {table : Registrations} {memory : Memory} {post : Post}
    (captured : Captured table memory post) : post.frame.Whole := by
  have hasPayload (h : post.send.operation ≠ .read) : post.frame.header.HasPayload := by
    rcases Frame.isRequest_iff.mp post.isRequest_frame with hw | hw | hw
    · exact Or.inl hw
    · exact Or.inr (Or.inl hw)
    · exact absurd (post.opcode_frame.mp hw) h
  unfold Frame.Whole
  rw [Post.payload_frame captured.bare]
  by_cases h : post.send.operation = .read
  · have hop := post.opcode_frame.mpr h
    rw [captured.bare h, Header.payloadLength, if_neg]
    · rfl
    · rintro (hw | hw | ⟨hw, -⟩) <;> exact absurd (hop.symm.trans hw) (by decide)
  · rw [Header.payloadLength, if_pos (hasPayload h), Post.length_frame]
    exact Memory.length_of_read (captured.payload h)

namespace Station

/-- A frame is made of a send request exactly as a post of it says. -/
theorem sendFrame_eq_ok {s : Station} {send : SendRequest} {region : RegionId} {offset : Nat}
    {frame : Frame} {pending : PendingSend}
    (h : s.sendFrame send region offset = .ok (frame, pending)) :
    frame = (s.post send region offset).frame ∧
      pending = (s.post send region offset).pending ∧
      (send.operation ≠ .read → s.memory.read region offset send.length.toNat =
        .ok (s.post send region offset).payload) := by
  unfold sendFrame at h
  obtain ⟨request, operation, localAddress, localKey, length, remoteAddress, remoteKey⟩ := send
  cases operation with
  | read => cases h; exact ⟨rfl, rfl, fun hop => absurd rfl hop⟩
  | write =>
    unfold post Post.frame Post.pending
    simp only at h ⊢
    cases hm : s.memory.read region offset length.toNat with
    | error e => rw [hm] at h; cases h
    | ok payload => rw [hm] at h; cases h; exact ⟨rfl, rfl, fun _ => rfl⟩
  | writeWithImmediate immediate =>
    unfold post Post.frame Post.pending
    simp only at h ⊢
    cases hm : s.memory.read region offset length.toNat with
    | error e => rw [hm] at h; cases h
    | ok payload => rw [hm] at h; cases h; exact ⟨rfl, rfl, fun _ => rfl⟩

/-- A post that is taken on has captured its range, waits under its number, and its frame goes to
the link.  One that is not taken on changes only the number of the next. -/
theorem post_cases (table : Registrations) (s : Station) (send : SendRequest) :
    (s.post? table send = none ∧ Calm s.face (s.postSend table send).2.face ∧
      (s.postSend table send).2.wire = s.wire) ∨
    (∃ p, s.post? table send = some p ∧ Captured table s.memory p ∧
      s.queuePair.state = .readyToSend ∧ p.sequence = s.queuePair.nextSequence ∧
      (s.postSend table send).2 = (s.withPosted p.pending).launch p.frame p.sequence) := by
  rcases s.postSend_cases table send with ⟨e, h⟩ | ⟨e, h⟩ |
    ⟨registration, offset, frame, pending, hstate, -, hr, ho, hframe, h⟩
  · refine Or.inl ⟨by simp only [post?, h], ?_, by rw [h]⟩
    rw [h]
    exact Calm.refl _
  · refine Or.inl ⟨by simp only [post?, h], ?_, by rw [h]; rfl⟩
    rw [h]
    exact ⟨Or.inl rfl, Nat.le_succ _, List.Sublist.refl _, List.Sublist.refl _, Or.inl rfl⟩
  · obtain ⟨rfl, rfl, hpayload⟩ := sendFrame_eq_ok hframe
    refine Or.inr ⟨s.post send registration.region offset, ?_,
      ⟨⟨registration, hr, ho, rfl⟩, hpayload, fun hop => if_pos hop⟩, hstate, rfl, by rw [h]; rfl⟩
    simp only [post?, h, hr, ho, Option.bind_some, Option.map_some]

/-- Every send that is taken on is a post. -/
theorem post?_of_taken {table : Registrations} {s : Station} {send : SendRequest}
    (h : (s.postSend table send).1 = .ok ()) :
    ∃ p, p.send = send ∧ s.post? table send = some p := by
  rcases s.postSend_cases table send with ⟨e, he⟩ | ⟨e, he⟩ |
    ⟨registration, offset, frame, pending, -, -, hr, ho, -, he⟩
  · rw [he] at h; cases h
  · rw [he] at h; cases h
  · refine ⟨s.post send registration.region offset, rfl, ?_⟩
    simp only [post?, he, hr, ho, Option.bind_some, Option.map_some]

/-! ## Requests -/

/-- What becomes of a request is what has to become of it. -/
theorem due_outcome {table : Registrations} {s : Station} {arrival : Arrival}
    (sound : arrival.Sound) (settled : arrival.Settled table)
    (describes : table.Describes s.memory) (request : arrival.frame.isRequest = true) :
    Due table s.memory arrival.frame (s.outcome table arrival) := by
  unfold outcome
  rcases disposal_of_isRequest sound request with ⟨hop, -⟩ | ⟨hop, ⟨region, offset, hd⟩ | hd⟩
  · rw [if_pos hop]
    cases ht : table.target? arrival.header.key arrival.header.address arrival.header.length
      ⟨false, false, true⟩ with
    | none => exact ⟨hop, ht⟩
    | some place =>
      obtain ⟨region, offset⟩ := place
      obtain ⟨held, hr, room⟩ := describes.room ht
      have hread := Memory.read_of_room hr room
      simp only [hread]
      exact ⟨hop, ht, hread⟩
  · rw [if_neg hop]
    have ht : table.target? arrival.header.key arrival.header.address arrival.header.length
        ⟨false, true, false⟩ = some (region, offset) := settled _ hd
    obtain ⟨held, hr, room⟩ := describes.room ht
    have hlen : arrival.payload.length = arrival.header.length.toNat :=
      sound.length.trans (sound.suits _ hd).payloadLength
    have hwrite := Memory.write_of_room hr (hlen ▸ room)
    simp only [hd, hwrite]
    exact ⟨hop, ht, _, hwrite⟩
  · rw [if_neg hop]
    simp only [hd]
    exact ⟨hop, settled _ hd⟩

end Station

theorem Due.fits {table : Registrations} {memory : Memory} {request : Frame} {outcome : Outcome}
    (due : Due table memory request outcome) : outcome.Fits request.header := by
  cases outcome with
  | applied region offset => exact due.1
  | refused => exact due.1
  | served region offset data => exact due.1
  | denied => exact due.1

/-- The answer to a request is a frame in full. -/
theorem Due.whole {table : Registrations} {memory : Memory} {request : Frame} {outcome : Outcome}
    (due : Due table memory request outcome) : (outcome.answer request.header).Whole := by
  cases outcome with
  | applied region offset => rfl
  | refused => rfl
  | served region offset data => exact Memory.length_of_read due.2.2
  | denied => rfl

/-! ## Frames in full -/

section Taking

variable {side : Side} {table : Registrations} {before after : Station} {arrival : Arrival}

theorem mem_fetching {deed : Deed} (h : deed ∈ Peers.fetching side before arrival) :
    ∃ region offset, before.place? arrival = some (region, offset) ∧
      deed = .fetched side arrival.header.sequence.toNat region offset arrival.payload := by
  unfold Peers.fetching at h
  split at h
  · next hp => exact ⟨_, _, hp, List.mem_singleton.mp h⟩
  · cases h

/-- A frame in full is handled, or its data is fetched and a send completed. -/
theorem mem_taking {deed : Deed} (h : deed ∈ Peers.taking side table before after arrival) :
    (arrival.frame.isRequest = true ∧
      deed = .handled side arrival.frame (before.outcome table arrival)) ∨
    (arrival.frame.isRequest = false ∧
      ((∃ region offset data,
          deed = .fetched side arrival.header.sequence.toNat region offset data) ∨
        ∃ c, deed = .completed side arrival.header.sequence.toNat c)) := by
  unfold Peers.taking at h
  split at h
  · next hr => exact Or.inl ⟨hr, List.mem_singleton.mp h⟩
  · next hr =>
    refine Or.inr ⟨Bool.eq_false_iff.mpr hr, ?_⟩
    rcases List.mem_append.mp h with h | h
    · obtain ⟨region, offset, -, heq⟩ := mem_fetching h
      exact Or.inl ⟨region, offset, _, heq⟩
    · obtain ⟨c, -, rfl⟩ := List.mem_map.mp h
      exact Or.inr ⟨c, rfl⟩

/-- An answer is taken: its data is fetched, and then the completions are those that it gave rise
to. -/
theorem taking_answer (answer : arrival.frame.isRequest = false) {kept : List Completion}
    (h : after.completions.toList = before.completions.toList ++ kept) :
    Peers.taking side table before after arrival = Peers.fetching side before arrival ++
      kept.map (.completed side arrival.header.sequence.toNat) := by
  unfold Peers.taking
  rw [answer, h, List.drop_left]
  rfl

/-- Nothing is posted when a frame arrives. -/
theorem posts_taking (s : Side) :
    posts s (Peers.taking side table before after arrival) = [] := by
  refine List.filterMap_eq_nil_iff.mpr fun deed hd => ?_
  rcases mem_taking hd with ⟨-, rfl⟩ | ⟨-, ⟨_, _, _, rfl⟩ | ⟨_, rfl⟩⟩ <;> rfl

/-- A side handles the requests that arrive at it. -/
theorem handled_taking_self (request : arrival.frame.isRequest = true) :
    handled side (Peers.taking side table before after arrival) =
      [(arrival.frame, before.outcome table arrival)] := by
  unfold Peers.taking handled
  rw [if_pos request]
  simp [Deed.handled?]

theorem handled_taking_other :
    handled side.other (Peers.taking side table before after arrival) = [] := by
  refine List.filterMap_eq_nil_iff.mpr fun deed hd => ?_
  rcases mem_taking hd with ⟨-, rfl⟩ | ⟨-, ⟨_, _, _, rfl⟩ | ⟨_, rfl⟩⟩
  · exact if_neg side.other_ne.symm
  · rfl
  · rfl

theorem handled_taking_answer (answer : arrival.frame.isRequest = false) (s : Side) :
    handled s (Peers.taking side table before after arrival) = [] := by
  refine List.filterMap_eq_nil_iff.mpr fun deed hd => ?_
  rcases mem_taking hd with ⟨request, -⟩ | ⟨-, ⟨_, _, _, rfl⟩ | ⟨_, rfl⟩⟩
  · rw [answer] at request; cases request
  · rfl
  · rfl

/-- Deeds of one side leave the memory of the other. -/
theorem replay_taking_other (memory : Memory) :
    replay side.other memory (Peers.taking side table before after arrival) = memory := by
  refine List.foldlRecOn (motive := fun m => m = memory) _ _ rfl ?_
  rintro m rfl deed hd
  have hne : ¬ side = side.other := side.other_ne.symm
  rcases mem_taking hd with ⟨-, rfl⟩ | ⟨-, ⟨_, _, _, rfl⟩ | ⟨_, rfl⟩⟩
  · cases before.outcome table arrival <;> simp [Deed.onto, hne]
  · simp [Deed.onto, hne]
  · rfl

theorem replay_completed (sequence : Nat) (memory : Memory) (completions : List Completion)
    (s : Side) :
    replay s memory (completions.map (.completed side sequence)) = memory := by
  unfold replay
  induction completions with
  | nil => rfl
  | cons c rest ih => exact ih

theorem replay_fetching :
    replay side before.memory (Peers.fetching side before arrival) =
      before.memory.stored (before.place? arrival) arrival.payload := by
  unfold Peers.fetching
  cases before.place? arrival with
  | none => rfl
  | some place => exact if_pos rfl

/-- A frame in full stores its payload in its place. -/
theorem replay_taking (sound : arrival.Sound) :
    replay side before.memory (Peers.taking side table before after arrival) =
      before.memory.stored (before.place? arrival) arrival.payload := by
  unfold Peers.taking
  split
  · next request =>
    show Deed.onto side before.memory _ = _
    unfold Station.outcome Station.place?
    rcases Station.disposal_of_isRequest sound request with
      ⟨hop, hd⟩ | ⟨hop, ⟨region, offset, hd⟩ | hd⟩
    · rw [if_pos hop, hd]
      split
      · rfl
      · split <;> rfl
    · rw [if_neg hop]
      simp only [hd]
      cases hw : before.memory.write region offset arrival.payload with
      | ok written => exact if_pos rfl
      | error e => simp only [Deed.onto, Memory.stored, hw]
    · rw [if_neg hop]
      simp only [hd]
      rfl
  · rw [replay_append, replay_completed, replay_fetching]

end Taking

/-! ## Memory -/

theorem keeps_onto (side : Side) (memory : Memory) (deed : Deed) :
    Memory.Keeps memory (Deed.onto side memory deed) := by
  cases deed with
  | posted s post => exact Memory.Keeps.refl _
  | handled s request outcome =>
    cases outcome with
    | applied region offset =>
      simp only [Deed.onto]
      split
      · exact Memory.keeps_stored _ _ _
      · exact Memory.Keeps.refl _
    | refused => exact Memory.Keeps.refl _
    | served region offset data => exact Memory.Keeps.refl _
    | denied => exact Memory.Keeps.refl _
  | fetched s sequence region offset data =>
    simp only [Deed.onto]
    split
    · exact Memory.keeps_stored _ _ _
    · exact Memory.Keeps.refl _
  | stored s region offset data =>
    simp only [Deed.onto]
    split
    · exact Memory.keeps_stored _ _ _
    · exact Memory.Keeps.refl _
  | completed s sequence completion => exact Memory.Keeps.refl _

/-- Whatever is done, every region stays in its place. -/
theorem keeps_replay (side : Side) (memory : Memory) (deeds : List Deed) :
    Memory.Keeps memory (replay side memory deeds) := by
  unfold replay
  induction deeds generalizing memory with
  | nil => exact Memory.Keeps.refl _
  | cons deed rest ih => exact (keeps_onto side memory deed).trans (ih _)

end RdmaLink
