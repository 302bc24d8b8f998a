import RdmaLink.Proofs.Peers.InStep

/-!
# What the chronicle records

The chronicle tells all that becomes of the memory of either side, and every successful completion
of a send.

    (peers.step turn side).station.memory =
      replay side (peers side).station.memory (peers.deeds turn)        (InStep.memory_step)
    c reports a successful send, c is new in the queue of a side →
      Deed.completed side n c ∈ peers.deeds turn                        (InStep.recorded)
-/

namespace RdmaLink

/-- Whether a completion reports a successful send. -/
def Completion.SentWell (completion : Completion) : Prop :=
  completion.status = .success ∧ completion.operation.isSend = true

/-- The registrations of both sides stay as they are. -/
theorem Peers.table_step (peers : Peers) (turn : Turn) (side : Side) :
    (peers.step turn side).table = (peers side).table := by
  have set (s : Side) (peer : Peer) (same : peer.table = (peers s).table) :
      (peers.set s peer side).table = (peers side).table :=
    Peers.set_cases (motive := fun x p => p.table = (peers x).table) same rfl side
  cases turn with
  | deliver s =>
    simp only [Peers.step]
    cases peers.flight s with
    | nil => rfl
    | cons byte rest => exact set s _ rfl
  | _ => exact set _ _ rfl

/-- Posting changes no memory. -/
theorem replay_posted (side : Side) (memory : Memory) (s : Side) (posts : List Post) :
    replay side memory (posts.map (.posted s)) = memory := by
  unfold replay
  induction posts with
  | nil => rfl
  | cons p rest ih => exact ih

namespace InStep

variable {peers : Peers} {deeds : List Deed} {ahead : Side → List Frame}

/-- What becomes of the memory in a turn is what was done. -/
theorem memory_step (h : InStep peers deeds ahead) (turn : Turn) (side : Side) :
    (peers.step turn side).station.memory =
      replay side (peers side).station.memory (peers.deeds turn) := by
  -- a turn changes the memory of its own side only
  have change (s : Side) {t : Station} {n : Nat} {done : List Deed}
      (own : t.memory = replay s (peers s).station.memory done)
      (other : replay s.other (peers s.other).station.memory done =
        (peers s.other).station.memory) :
      ((peers.set s ⟨t, (peers s).table, n⟩) side).station.memory =
        replay side (peers side).station.memory done :=
    Peers.set_cases
      (motive := fun x p => p.station.memory = replay x (peers x).station.memory done)
      own other.symm side
  cases turn with
  | postSend s send =>
    refine change s ?_ (replay_posted _ _ _ _)
    rw [Station.memory_postSend]
    exact (replay_posted _ _ _ _).symm
  | postReceive s request => exact change s (Station.memory_postReceive _ _) rfl
  | deliver s =>
    simp only [Peers.step, Peers.deeds]
    cases flight : peers.flight s with
    | nil => rfl
    | cons byte rest =>
      simp only
      cases harr : (peers s).station.arrival? (peers s).table byte with
      | none =>
        refine change s ?_ rfl
        rw [Station.feed_of_no_arrival harr]
        rfl
      | some arrival =>
        obtain ⟨sound, -⟩ := h.arrived flight harr
        refine change s ?_ (replay_taking_other _)
        rw [replay_taking sound, Station.feed_of_arrival harr, Station.memory_handle _ _ sound]
        rfl
  | store s region offset data =>
    refine change s ?_ ?_
    · exact (if_pos rfl).symm
    · exact if_neg s.other_ne.symm
  | poll s most => exact change s rfl rfl
  | hangUp s => exact change s (Station.memory_endOfStream _) rfl

theorem unsuccessful_not_sentWell (c : Completion) (h : Station.Unsuccessful c) : ¬ c.SentWell :=
  fun well => h well.1

/-- The completion of a receive is none of a send. -/
theorem received_not_sentWell (c : Completion)
    (h : c.status = .success → c.operation = .receiveWithImmediate) : ¬ c.SentWell := by
  rintro ⟨hs, ho⟩
  rw [h hs] at ho
  cases ho

/-- Handling a request completes no send well. -/
theorem earned_not_sentWell {table : Registrations} {s : Station} {arrival : Arrival}
    (sound : arrival.Sound) (request : arrival.frame.isRequest = true) (c : Completion)
    (earned : Station.Earned table s arrival c) : ¬ c.SentWell := by
  rintro ⟨hs, ho⟩
  have hanswer := Frame.isAnswer_of_isRequest request
  have notAnswer : ¬ arrival.frame.isAnswer = true := by rw [hanswer]; simp
  rcases earned hs with hop | ⟨send, -, -, -, hack | ⟨region, offset, memory, hd, -⟩⟩
  · rw [hop] at ho
    cases ho
  · exact notAnswer (Frame.isAnswer_iff.mpr (Or.inr hack))
  · exact notAnswer (Frame.isAnswer_iff.mpr (Or.inl (sound.suits _ hd).1))

/-- A successful completion of a send that is new in the queue of a side is recorded. -/
theorem recorded (h : InStep peers deeds ahead) (turn : Turn) (side : Side) {c : Completion}
    (hc : c ∈ (peers.step turn side).station.completions.toList) (well : c.SentWell) :
    c ∈ (peers side).station.completions.toList ∨
      ∃ n, Deed.completed side n c ∈ peers.deeds turn := by
  -- a turn changes the queue of its own side only
  have change (s : Side) {t : Station} {n : Nat} {done : List Deed}
      (own : c ∈ t.completions.toList → c ∈ (peers s).station.completions.toList ∨
        ∃ n, Deed.completed s n c ∈ done)
      (hc : c ∈ ((peers.set s ⟨t, (peers s).table, n⟩) side).station.completions.toList) :
      c ∈ (peers side).station.completions.toList ∨ ∃ n, Deed.completed side n c ∈ done :=
    Peers.set_cases
      (motive := fun x p => c ∈ p.station.completions.toList →
        c ∈ (peers x).station.completions.toList ∨ ∃ n, Deed.completed x n c ∈ done)
      own Or.inl side hc
  have pushed {s t : Station} {P : Completion → Prop} (pushes : s.Pushes P t)
      (none : ∀ c, P c → ¬ c.SentWell) (hc : c ∈ t.completions.toList) :
      c ∈ s.completions.toList :=
    (pushes.mem hc).resolve_right fun hp => none c hp well
  cases turn with
  | postSend s send =>
    exact change s (fun hc => Or.inl (pushed (Station.pushes_postSend _ _ _)
      unsuccessful_not_sentWell hc)) hc
  | postReceive s request =>
    exact change s (fun hc => Or.inl (pushed (Station.pushes_postReceive _ _)
      received_not_sentWell hc)) hc
  | deliver s =>
    simp only [Peers.step] at hc
    simp only [Peers.deeds]
    cases flight : peers.flight s with
    | nil => rw [flight] at hc; exact Or.inl hc
    | cons byte rest =>
      rw [flight] at hc
      simp only at hc ⊢
      cases harr : (peers s).station.arrival? (peers s).table byte with
      | none =>
        refine change s (fun hc => Or.inl ?_) hc
        rw [Station.feed_of_no_arrival harr] at hc
        exact hc
      | some arrival =>
        obtain ⟨sound, -⟩ := h.arrived flight harr
        obtain ⟨kept, hkept, earned⟩ := Station.completions_feed harr
        refine change s (fun hc => ?_) hc
        simp only
        rw [hkept] at hc
        rcases List.mem_append.mp hc with hc | hc
        · exact Or.inl hc
        · by_cases hr : arrival.frame.isRequest = true
          · exact absurd well (earned_not_sentWell sound hr c (earned c hc))
          · refine Or.inr ⟨arrival.header.sequence.toNat, ?_⟩
            rw [taking_answer (Bool.eq_false_iff.mpr hr) hkept]
            exact List.mem_append_right _ (List.mem_map_of_mem hc)
  | store s region offset data =>
    refine change s (fun hc => Or.inl ?_) hc
    exact hc
  | poll s most =>
    refine change s (fun hc => Or.inl ?_) hc
    rw [← CompletionQueue.toList_poll (peers s).station.completions most]
    exact List.mem_append_right _ hc
  | hangUp s =>
    refine change s (fun hc => Or.inl ?_) hc
    unfold Station.endOfStream at hc
    split at hc
    · exact hc
    · exact pushed (Station.pushes_breakOff _) unsuccessful_not_sentWell hc

end InStep

end RdmaLink
