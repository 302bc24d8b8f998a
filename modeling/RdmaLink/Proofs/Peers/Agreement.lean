import RdmaLink.Proofs.Peers.Basic

/-!
# Requests and answers in step

What one queue pair has posted, what the other has handled, the requests on their way there and
the answers on their way back are kept in step (`Agreed`): the requests handled, then those in
flight, are the frames of the posts, and every answer in flight answers the post of its number.

A number of a post becomes 64 bits in its frame, and the numbers are not bounded.  The answers
are told apart even where two numbers become the same bits: the answers of an older post are in
flight before those of a younger one.

    the first answer in flight, under a number that still waits, is the answer to the post that
    waits there, or that post was applied                                 (Agreed.answer_right)
-/

namespace RdmaLink

/-- Whether an outcome is one that a request can have. -/
def Outcome.Fits (header : Header) : Outcome → Prop
  | .applied _ _ => header.opcode ≠ Opcode.readRequest
  | .refused => header.opcode ≠ Opcode.readRequest
  | .served _ _ _ => header.opcode = Opcode.readRequest
  | .denied => header.opcode = Opcode.readRequest

namespace Post

@[simp] theorem sequence_frame (post : Post) :
    post.frame.header.sequence = UInt64.ofNat post.sequence := by
  unfold frame
  split <;> rfl

theorem opcode_frame (post : Post) :
    post.frame.header.opcode = Opcode.readRequest ↔ post.send.operation = .read := by
  have write : ¬ Opcode.write = Opcode.readRequest := by decide
  have writeWithImmediate : ¬ Opcode.writeWithImmediate = Opcode.readRequest := by decide
  unfold frame
  cases post.send.operation with
  | write => exact iff_of_false write (by simp)
  | writeWithImmediate immediate => exact iff_of_false writeWithImmediate (by simp)
  | read => exact iff_of_true rfl rfl

theorem isRequest_frame (post : Post) : post.frame.isRequest = true := by
  rw [Frame.isRequest_iff]
  unfold frame
  cases post.send.operation with
  | write => exact Or.inl rfl
  | writeWithImmediate immediate => exact Or.inr (Or.inl rfl)
  | read => exact Or.inr (Or.inr rfl)

end Post

/-- The post with an index was handled with an outcome. -/
structure Met (posts : List Post) (handled : List (Frame × Outcome)) (i : Nat) (post : Post)
    (outcome : Outcome) : Prop where
  posted : posts[i]? = some post
  handled : handled[i]? = some (post.frame, outcome)

/-- The first of the frames under a number. -/
def firstUnder (sequence : UInt64) (frames : List Frame) : Option Frame :=
  frames.find? fun frame => frame.header.sequence == sequence

/-- Posts and what was handled of them, between the queue pair that asks and the one that
answers. -/
structure Agreed (posts : List Post) (handled : List (Frame × Outcome)) (f g : Face)
    (asked back : List Frame) : Prop where
  increasing : posts.Pairwise fun p q => p.sequence < q.sequence
  below : ∀ p ∈ posts, p.sequence < f.nextSequence
  order : handled.map Prod.fst ++ asked <+: posts.map Post.frame
  all : f.state = .readyToSend → handled.map Prod.fst ++ asked = posts.map Post.frame
  fits : ∀ entry ∈ handled, entry.2.Fits entry.1.header
  /-- A send that waits was posted.  Once it was handled it was applied, or its answer is in
  flight, or the other side has stopped before it could answer. -/
  waiting : ∀ entry ∈ f.outstanding, ∃ (j : Nat) (p : Post), posts[j]? = some p ∧
    entry = (p.sequence, p.pending) ∧
    (p.sequence < 2 ^ 64 → ∀ request outcome, handled[j]? = some (request, outcome) →
      outcome.isApplied = true ∨
      firstUnder (UInt64.ofNat p.sequence) back = some (outcome.answer p.frame.header) ∨
      (g.intake = none ∧ firstUnder (UInt64.ofNat p.sequence) back = none))
  answers : ∀ r ∈ back, ∃ i p outcome, Met posts handled i p outcome ∧
    r = outcome.answer p.frame.header
  held : ∀ h ∈ g.held, ∃ i p outcome, Met posts handled i p outcome ∧
    outcome.isApplied = true ∧ h.sequence = p.frame.header.sequence

/-! ## Posts and their frames -/

section Lists

variable {posts : List Post} {handled : List (Frame × Outcome)} {asked : List Frame}

theorem Met.later {i : Nat} {p : Post} {outcome : Outcome} (h : Met posts handled i p outcome)
    (posts' : List Post) (handled' : List (Frame × Outcome)) :
    Met (posts ++ posts') (handled ++ handled') i p outcome := by
  have hp := (List.getElem?_eq_some_iff.mp h.posted).1
  have hh := (List.getElem?_eq_some_iff.mp h.handled).1
  exact ⟨by rw [List.getElem?_append_left hp]; exact h.posted,
    by rw [List.getElem?_append_left hh]; exact h.handled⟩

/-- A request that was handled is the frame of the post with its index. -/
theorem met_of_handled (order : handled.map Prod.fst ++ asked <+: posts.map Post.frame)
    {i : Nat} {request : Frame} {outcome : Outcome}
    (h : handled[i]? = some (request, outcome)) :
    ∃ p, request = p.frame ∧ Met posts handled i p outcome := by
  have hi := (List.getElem?_eq_some_iff.mp h).1
  obtain ⟨rest, hrest⟩ := order
  have hmap : (posts.map Post.frame)[i]? = some request := by
    rw [← hrest, List.append_assoc, List.getElem?_append_left (by simpa using hi),
      List.getElem?_map, h]
    rfl
  rw [List.getElem?_map] at hmap
  obtain ⟨p, hp, hframe⟩ := Option.map_eq_some_iff.mp hmap
  exact ⟨p, hframe.symm, hp, by rw [hframe]; exact h⟩

/-- The next request is the frame of the first post that was not handled. -/
theorem post_of_asked {request : Frame} {later : List Frame}
    (order : handled.map Prod.fst ++ request :: later <+: posts.map Post.frame) :
    ∃ p, posts[handled.length]? = some p ∧ p.frame = request := by
  obtain ⟨rest, hrest⟩ := order
  have hmap : (posts.map Post.frame)[handled.length]? = some request := by
    rw [← hrest, List.append_assoc, List.getElem?_append_right (by simp)]
    simp
  rw [List.getElem?_map] at hmap
  exact Option.map_eq_some_iff.mp hmap

theorem length_handled_le (order : handled.map Prod.fst ++ asked <+: posts.map Post.frame) :
    handled.length ≤ posts.length := by
  have := order.length_le
  simp only [List.length_append, List.length_map] at this
  omega

/-- Of two posts the younger has the greater number. -/
theorem sequence_lt (increasing : posts.Pairwise fun p q => p.sequence < q.sequence) {i j : Nat}
    {p q : Post} (hp : posts[i]? = some p) (hq : posts[j]? = some q) (h : i < j) :
    p.sequence < q.sequence := by
  obtain ⟨hi, rfl⟩ := List.getElem?_eq_some_iff.mp hp
  obtain ⟨hj, rfl⟩ := List.getElem?_eq_some_iff.mp hq
  exact List.pairwise_iff_getElem.mp increasing i j hi hj h

theorem firstUnder_append_some {sequence : UInt64} {frames more : List Frame} {frame : Frame}
    (h : firstUnder sequence frames = some frame) :
    firstUnder sequence (frames ++ more) = some frame := by
  unfold firstUnder at h ⊢
  rw [List.find?_append, h]
  rfl

theorem firstUnder_append_none {sequence : UInt64} {frames : List Frame} {frame : Frame}
    (h : firstUnder sequence frames = none) (same : frame.header.sequence = sequence) :
    firstUnder sequence (frames ++ [frame]) = some frame := by
  unfold firstUnder at h ⊢
  rw [List.find?_append, h, Option.none_or, List.find?_cons_of_pos]
  rw [same, beq_self_eq_true]

end Lists

namespace Agreed

variable {posts : List Post} {handled : List (Frame × Outcome)} {f f' g g' : Face}
  {asked back : List Frame}

/-- Without posts there is nothing to agree on. -/
theorem start (outstanding : f.outstanding = []) (held : g.held = []) :
    Agreed [] [] f g [] [] := by
  refine ⟨List.Pairwise.nil, ?_, List.prefix_rfl, fun _ => rfl, ?_, ?_, ?_, ?_⟩
  · exact fun p hp => absurd hp List.not_mem_nil
  · exact fun entry he => absurd he List.not_mem_nil
  · rw [outstanding]
    exact fun entry he => absurd he List.not_mem_nil
  · exact fun r hr => absurd hr List.not_mem_nil
  · rw [held]
    exact fun h hh => absurd hh List.not_mem_nil

/-! ## Either side goes on -/

/-- The side that asks may go on with fewer sends. -/
theorem asker (h : Agreed posts handled f g asked back)
    (state : f'.state = .readyToSend → f.state = .readyToSend)
    (numbering : f.nextSequence ≤ f'.nextSequence)
    (outstanding : f'.outstanding.Sublist f.outstanding) :
    Agreed posts handled f' g asked back :=
  ⟨h.increasing, fun p hp => Nat.lt_of_lt_of_le (h.below p hp) numbering, h.order,
    fun ready => h.all (state ready), h.fits,
    fun entry he => h.waiting entry (outstanding.subset he), h.answers, h.held⟩

/-- The side that answers may go on with fewer immediates held back, or stop. -/
theorem answerer (h : Agreed posts handled f g asked back) (held : g'.held.Sublist g.held)
    (intake : g.intake = none → g'.intake = none) : Agreed posts handled f g' asked back := by
  refine ⟨h.increasing, h.below, h.order, h.all, h.fits, ?_, h.answers,
    fun x hx => h.held x (held.subset hx)⟩
  intro entry he
  obtain ⟨j, p, hp, heq, owed⟩ := h.waiting entry he
  refine ⟨j, p, hp, heq, fun small request outcome hh => ?_⟩
  exact (owed small request outcome hh).imp_right fun hb =>
    hb.imp_right fun ⟨hi, hn⟩ => ⟨intake hi, hn⟩

theorem asker_calm (h : Agreed posts handled f g asked back) (calm : Calm f f') :
    Agreed posts handled f' g asked back := by
  refine h.asker ?_ calm.numbering calm.outstanding
  intro ready
  rcases calm.state with hs | hs
  · exact hs.symm.trans ready
  · cases hs.symm.trans ready

theorem answerer_calm (h : Agreed posts handled f g asked back) (calm : Calm g g') :
    Agreed posts handled f g' asked back := by
  refine h.answerer calm.held ?_
  intro hn
  rcases calm.intake with hi | ⟨hi, -⟩
  · exact hi.trans hn
  · exact hi

/-! ## Posts -/

/-- A post takes the next number. -/
theorem number (h : Agreed posts handled f g asked back) {p : Post} {asked' : List Frame}
    (sequence : p.sequence = f.nextSequence) (numbering : f'.nextSequence = f.nextSequence + 1)
    (outstanding : ∀ entry ∈ f'.outstanding,
      entry ∈ f.outstanding ∨ entry = (p.sequence, p.pending))
    (order : handled.map Prod.fst ++ asked' <+: (posts ++ [p]).map Post.frame)
    (all : f'.state = .readyToSend →
      handled.map Prod.fst ++ asked' = (posts ++ [p]).map Post.frame) :
    Agreed (posts ++ [p]) handled f' g asked' back := by
  refine ⟨?_, ?_, order, all, h.fits, ?_, ?_, ?_⟩
  · refine List.pairwise_append.mpr ⟨h.increasing, List.pairwise_singleton _ _, ?_⟩
    intro q hq r hr
    rw [List.mem_singleton.mp hr, sequence]
    exact h.below q hq
  · intro q hq
    rw [numbering]
    rcases List.mem_append.mp hq with hq | hq
    · exact Nat.lt_succ_of_lt (h.below q hq)
    · rw [List.mem_singleton.mp hq, sequence]
      exact Nat.lt_succ_self _
  · intro entry he
    rcases outstanding entry he with he | he
    · obtain ⟨j, q, hq, heq, owed⟩ := h.waiting entry he
      refine ⟨j, q, ?_, heq, owed⟩
      rw [List.getElem?_append_left (List.getElem?_eq_some_iff.mp hq).1]
      exact hq
    · refine ⟨posts.length, p, by simp, he, fun _ request outcome hh => ?_⟩
      -- nothing of this post was handled yet
      have hlt := (List.getElem?_eq_some_iff.mp hh).1
      have hle := length_handled_le h.order
      omega
  · intro r hr
    obtain ⟨i, q, outcome, met, heq⟩ := h.answers r hr
    exact ⟨i, q, outcome, by simpa using met.later [p] [], heq⟩
  · intro x hx
    obtain ⟨i, q, outcome, met, rest⟩ := h.held x hx
    exact ⟨i, q, outcome, by simpa using met.later [p] [], rest⟩

/-- The frame of a post is the last in flight. -/
theorem post (h : Agreed posts handled f g asked back) (ready : f.state = .readyToSend)
    {p : Post} (sequence : p.sequence = f.nextSequence)
    (numbering : f'.nextSequence = f.nextSequence + 1)
    (outstanding : f'.outstanding = f.outstanding ++ [(p.sequence, p.pending)]) :
    Agreed (posts ++ [p]) handled f' g (asked ++ [p.frame]) back := by
  have equal : handled.map Prod.fst ++ (asked ++ [p.frame]) =
      (posts ++ [p]).map Post.frame := by
    rw [← List.append_assoc, h.all ready, List.map_append]
    rfl
  refine h.number sequence numbering ?_ (equal ▸ List.prefix_rfl) fun _ => equal
  intro entry he
  rw [outstanding] at he
  exact (List.mem_append.mp he).imp_right List.mem_singleton.mp

/-- The frame of a post does not go out: the side that asks has failed. -/
theorem lost (h : Agreed posts handled f g asked back) {p : Post}
    (sequence : p.sequence = f.nextSequence) (numbering : f'.nextSequence = f.nextSequence + 1)
    (outstanding : f'.outstanding = []) (failed : f'.state = .error) :
    Agreed (posts ++ [p]) handled f' g asked back := by
  refine h.number sequence numbering ?_ ?_ ?_
  · rw [outstanding]
    exact fun entry he => absurd he List.not_mem_nil
  · rw [List.map_append]
    exact h.order.trans (List.prefix_append _ _)
  · intro ready
    cases failed.symm.trans ready

/-! ## Requests -/

/-- No answer in flight has the number of a post that is yet to be handled. -/
theorem fresh (h : Agreed posts handled f g asked back) {p : Post}
    (hp : posts[handled.length]? = some p) (small : p.sequence < 2 ^ 64) :
    firstUnder (UInt64.ofNat p.sequence) back = none := by
  unfold firstUnder
  rw [List.find?_eq_none]
  intro r hr
  obtain ⟨i, q, outcome, met, rfl⟩ := h.answers r hr
  have hi := (List.getElem?_eq_some_iff.mp met.handled).1
  have hlt := sequence_lt h.increasing met.posted hp hi
  rw [Outcome.sequence_answer, Post.sequence_frame, beq_iff_eq]
  intro heq
  have := congrArg UInt64.toNat heq
  rw [UInt64.toNat_ofNat', UInt64.toNat_ofNat', Nat.mod_eq_of_lt small,
    Nat.mod_eq_of_lt (Nat.lt_trans hlt small)] at this
  omega

/-- The first request in flight is handled: it is answered, or it was applied and its answer is
held back, or the side that answers stops. -/
theorem handle {request : Frame} {later back' : List Frame} {outcome : Outcome}
    (h : Agreed posts handled f g (request :: later) back) (going : g.intake ≠ none)
    (fits : outcome.Fits request.header)
    (reply : back' = back ++ [outcome.answer request.header] ∨
      (back' = back ∧ (outcome.isApplied = true ∨ g'.intake = none)))
    (held : ∀ x ∈ g'.held, x ∈ g.held ∨
      (outcome.isApplied = true ∧ x.sequence = request.header.sequence)) :
    Agreed posts (handled ++ [(request, outcome)]) f g' later back' := by
  obtain ⟨p, hp, rfl⟩ := post_of_asked h.order
  have met : Met posts (handled ++ [(p.frame, outcome)]) handled.length p outcome :=
    ⟨hp, by simp⟩
  have cut : (handled ++ [(p.frame, outcome)]).map Prod.fst ++ later =
      handled.map Prod.fst ++ p.frame :: later := by
    simp
  refine ⟨h.increasing, h.below, cut ▸ h.order, fun ready => cut ▸ h.all ready, ?_, ?_, ?_, ?_⟩
  · intro entry he
    rcases List.mem_append.mp he with he | he
    · exact h.fits entry he
    · rw [List.mem_singleton.mp he]; exact fits
  · intro entry he
    obtain ⟨j, q, hq, heq, owed⟩ := h.waiting entry he
    refine ⟨j, q, hq, heq, fun small other o hh => ?_⟩
    rcases Nat.lt_trichotomy j handled.length with hj | hj | hj
    · rw [List.getElem?_append_left hj] at hh
      rcases owed small other o hh with ha | hb | ⟨hi, -⟩
      · exact Or.inl ha
      · rcases reply with rfl | ⟨rfl, -⟩
        · exact Or.inr (Or.inl (firstUnder_append_some hb))
        · exact Or.inr (Or.inl hb)
      · exact absurd hi going
    · -- this is the post that was handled
      subst hj
      cases hp.symm.trans hq
      cases met.handled.symm.trans hh
      have hfresh := h.fresh hp small
      rcases reply with rfl | ⟨rfl, ha | hi⟩
      · refine Or.inr (Or.inl (firstUnder_append_none hfresh ?_))
        rw [Outcome.sequence_answer, Post.sequence_frame]
      · exact Or.inl ha
      · exact Or.inr (Or.inr ⟨hi, hfresh⟩)
    · have := (List.getElem?_eq_some_iff.mp hh).1
      simp only [List.length_append, List.length_singleton] at this
      omega
  · have old (r : Frame) (hr : r ∈ back) : ∃ i q o,
        Met posts (handled ++ [(p.frame, outcome)]) i q o ∧ r = o.answer q.frame.header := by
      obtain ⟨i, q, o, m, heq⟩ := h.answers r hr
      exact ⟨i, q, o, by simpa using m.later [] [(p.frame, outcome)], heq⟩
    intro r hr
    rcases reply with rfl | ⟨rfl, -⟩
    · rcases List.mem_append.mp hr with hr | hr
      · exact old r hr
      · exact ⟨_, p, outcome, met, List.mem_singleton.mp hr⟩
    · exact old r hr
  · intro x hx
    rcases held x hx with hx | ⟨ha, hs⟩
    · obtain ⟨i, q, o, m, rest⟩ := h.held x hx
      exact ⟨i, q, o, by simpa using m.later [] [(p.frame, outcome)], rest⟩
    · exact ⟨_, p, outcome, met, ha, hs⟩

/-- An acknowledgement that was held back is sent. -/
theorem release (h : Agreed posts handled f g asked back) (going : g.intake ≠ none)
    {x : HeldImmediate} (hx : x ∈ g.held) :
    Agreed posts handled f g asked
      (back ++ [⟨Header.acknowledgement x.sequence Status.success.code, []⟩]) := by
  refine ⟨h.increasing, h.below, h.order, h.all, h.fits, ?_, ?_, h.held⟩
  · intro entry he
    obtain ⟨j, p, hp, heq, owed⟩ := h.waiting entry he
    refine ⟨j, p, hp, heq, fun small request outcome hh => ?_⟩
    rcases owed small request outcome hh with ha | hb | ⟨hi, -⟩
    · exact Or.inl ha
    · exact Or.inr (Or.inl (firstUnder_append_some hb))
    · exact absurd hi going
  · intro r hr
    rcases List.mem_append.mp hr with hr | hr
    · exact h.answers r hr
    · obtain ⟨i, p, outcome, met, applied, hs⟩ := h.held x hx
      refine ⟨i, p, outcome, met, ?_⟩
      rw [List.mem_singleton.mp hr, hs]
      cases outcome with
      | applied region offset => rfl
      | refused => cases applied
      | served region offset data => cases applied
      | denied => cases applied

/-! ## Answers -/

/-- The first answer in flight arrives and takes the send under its number away. -/
theorem answer {r : Frame} {rest : List Frame} (h : Agreed posts handled f g asked (r :: rest)) :
    Agreed posts handled (f.withoutSend r.header.sequence.toNat) g asked rest := by
  refine ⟨h.increasing, h.below, h.order, h.all, h.fits, ?_,
    fun x hx => h.answers x (List.mem_cons_of_mem _ hx), h.held⟩
  intro entry he
  obtain ⟨he, hne⟩ := List.mem_filter.mp he
  obtain ⟨j, p, hp, rfl, owed⟩ := h.waiting entry he
  refine ⟨j, p, hp, rfl, fun small request outcome hh => ?_⟩
  -- the answer has another number
  have other : ¬ (r.header.sequence == UInt64.ofNat p.sequence) = true := by
    rw [beq_iff_eq]
    intro heq
    rw [heq, UInt64.toNat_ofNat', Nat.mod_eq_of_lt small] at hne
    simp at hne
  have same : firstUnder (UInt64.ofNat p.sequence) (r :: rest) =
      firstUnder (UInt64.ofNat p.sequence) rest := List.find?_cons_of_neg other
  rw [← same]
  exact owed small request outcome hh

/-- The first answer in flight, under a number that waits, is the answer to the post that waits
under that number, or that post was applied. -/
theorem answer_right {r : Frame} {rest : List Frame}
    (h : Agreed posts handled f g asked (r :: rest)) {send : PendingSend}
    (hs : (r.header.sequence.toNat, send) ∈ f.outstanding) :
    ∃ j p outcome, Met posts handled j p outcome ∧ p.sequence = r.header.sequence.toNat ∧
      send = p.pending ∧
      (outcome.isApplied = true ∨ r = outcome.answer p.frame.header) := by
  obtain ⟨i, q, o, met, hr⟩ := h.answers r List.mem_cons_self
  obtain ⟨j, p, hp, heq, owed⟩ := h.waiting _ hs
  obtain ⟨hnumber, rfl⟩ := Prod.mk.inj heq
  have hsequence : r.header.sequence = UInt64.ofNat q.sequence := by
    rw [hr, Outcome.sequence_answer, Post.sequence_frame]
  have small : p.sequence < 2 ^ 64 := by
    rw [← hnumber]
    exact r.header.sequence.toNat_lt
  have same : r.header.sequence = UInt64.ofNat p.sequence := by
    rw [← hnumber, UInt64.ofNat_toNat]
  -- the post that waits is not younger than the one that is answered
  have hle : p.sequence ≤ q.sequence := by
    rw [← hnumber, hsequence, UInt64.toNat_ofNat']
    exact Nat.mod_le _ _
  have hji : j ≤ i := by
    refine Nat.le_of_not_lt fun hlt => ?_
    have := sequence_lt h.increasing met.posted hp hlt
    omega
  have hi := (List.getElem?_eq_some_iff.mp met.handled).1
  have hj : handled[j]? = some handled[j] := List.getElem?_eq_getElem (by omega)
  obtain ⟨p', hframe, met'⟩ := met_of_handled h.order hj
  cases hp.symm.trans met'.posted
  have first : firstUnder (UInt64.ofNat p.sequence) (r :: rest) = some r :=
    List.find?_cons_of_pos (by rw [same, beq_self_eq_true])
  refine ⟨j, p, _, met', hnumber.symm, rfl, ?_⟩
  rcases owed small _ _ hj with ha | hb | ⟨-, hn⟩
  · exact Or.inl ha
  · exact Or.inr (Option.some.inj (first.symm.trans hb))
  · cases first.symm.trans hn

end Agreed

end RdmaLink
