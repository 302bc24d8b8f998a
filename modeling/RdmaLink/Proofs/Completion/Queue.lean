import RdmaLink.Completion.Queue

/-!
# What a completion queue does

A push into a queue with room appends, a push into a full queue counts and leaves a fault; a poll
takes the oldest completions and leaves the others:

    q.size < q.depth → (q.push c).toList = q.toList ++ [c]     (CompletionQueue.toList_push_of_room)
    q.depth ≤ q.size → q.push c = { q with overruns := q.overruns + 1, fault := true }
                                                                      (CompletionQueue.push_of_full)
    (q.poll most).1 = q.toList.take most                               (CompletionQueue.poll_taken)
    (q.poll most).2.toList = q.toList.drop most                         (CompletionQueue.poll_left)

The signal is raised by a push into an empty queue and cleared by the poll that empties it, and
these two places are enough: it is raised exactly while the queue holds something (`Signalled`).
-/

namespace RdmaLink.CompletionQueue

variable {q : CompletionQueue}

theorem size_eq_length (queue : CompletionQueue) : queue.size = queue.toList.length := by
  simp [size, toList]

/-! ## Pushing -/

theorem push_of_room (room : q.size < q.depth) (report : Completion) :
    q.push report =
      { q with
        entries := q.entries.push report
        signal := if q.isEmpty then q.signal + 1 else q.signal } := by
  have : q.isFull = false := by simp [isFull]; omega
  rw [push, this]
  rfl

theorem push_of_full (full : q.depth ≤ q.size) (report : Completion) :
    q.push report = { q with overruns := q.overruns + 1, fault := true } := by
  have : q.isFull = true := by simp [isFull]; omega
  rw [push, this]
  rfl

theorem overruns_push_of_room {queue : CompletionQueue} {completion : Completion}
    (room : queue.size < queue.depth) : (queue.push completion).overruns = queue.overruns := by
  rw [push_of_room room]

theorem overruns_push_of_full {queue : CompletionQueue} {completion : Completion}
    (full : queue.depth ≤ queue.size) :
    (queue.push completion).overruns = queue.overruns + 1 := by
  rw [push_of_full full]

theorem size_push (q : CompletionQueue) (report : Completion) :
    (q.push report).size = if q.size < q.depth then q.size + 1 else q.size := by
  split
  · next room =>
    rw [push_of_room room]
    exact Array.size_push report
  · next full =>
    rw [push_of_full (Nat.not_lt.mp full)]
    rfl

/-! ## Polling -/

/-- A poll takes the oldest completions, as many as are asked for and there are. -/
theorem poll_taken (q : CompletionQueue) (most : Nat) :
    (q.poll most).1 = q.toList.take most := by
  simp only [poll, toList, size, Array.toList_extract, List.extract_eq_take_drop, List.drop_zero,
    Nat.sub_zero]
  rw [← Array.length_toList, ← List.take_eq_take_min]

/-- A poll leaves the completions behind those that it takes. -/
theorem poll_left (q : CompletionQueue) (most : Nat) :
    (q.poll most).2.toList = q.toList.drop most := by
  have whole := q.toList_poll most
  rw [poll_taken] at whole
  exact List.append_cancel_left (whole.trans (List.take_append_drop most _).symm)

theorem size_poll (q : CompletionQueue) (most : Nat) :
    (q.poll most).2.size = q.size - most := by
  rw [size_eq_length, poll_left, List.length_drop, ← size_eq_length]

/-- Only a poll that takes something and leaves nothing touches the signal. -/
theorem signal_poll (q : CompletionQueue) (most : Nat) :
    (q.poll most).2.signal =
      if (q.poll most).2.size = 0 ∧ 0 < min most q.size then 0 else q.signal := by
  simp only [poll, Array.isEmpty, Bool.and_eq_true, decide_eq_true_eq]
  rfl

theorem drain_eq (q : CompletionQueue) :
    q.drain =
      (q.toList, { q with entries := #[], signal := if 0 < q.size then 0 else q.signal }) := by
  have taken : min q.size q.size = q.size := Nat.min_self _
  have held : q.entries.extract 0 q.size = q.entries := Array.extract_size
  have rest : q.entries.extract q.size q.size = #[] := by simp [size]
  simp only [drain, poll, taken, held, rest, toList, Array.isEmpty_empty, Bool.true_and,
    decide_eq_true_eq]

/-! ## The signal -/

/-- The signal is raised exactly while there are completions. -/
def Signalled (queue : CompletionQueue) : Prop := queue.isReadable = true ↔ 0 < queue.size

theorem signalled_ofDepth (depth : Nat) : (ofDepth depth).Signalled := by
  simp [Signalled, ofDepth, isReadable, size]

theorem Signalled.signal_eq_zero (h : q.Signalled) (empty : q.size = 0) : q.signal = 0 := by
  simp only [Signalled, isReadable, bne_iff_ne] at h
  exact Decidable.byContradiction fun raised => absurd (h.mp raised) (by omega)

theorem Signalled.push (h : q.Signalled) (report : Completion) : (q.push report).Signalled := by
  rcases Nat.lt_or_ge q.size q.depth with room | full
  · rw [push_of_room room]
    simp only [Signalled, isReadable, size, isEmpty, Array.size_push, bne_iff_ne] at h ⊢
    by_cases none : q.entries.size = 0
    · simp [Array.isEmpty, none]
    · have raised := h.mpr (Nat.pos_of_ne_zero none)
      simp [Array.isEmpty, none, raised]
  · rw [push_of_full full]
    exact h

/-- A poll that empties the queue clears the signal, and no other poll does. -/
theorem Signalled.poll (h : q.Signalled) (most : Nat) : (q.poll most).2.Signalled := by
  have left := q.size_poll most
  have signal := q.signal_poll most
  simp only [Signalled, isReadable, bne_iff_ne] at h ⊢
  rw [signal]
  split
  · next emptied => exact ⟨fun raised => absurd rfl raised, fun some => by omega⟩
  · next kept =>
    -- then nothing was taken, or something is left
    rw [h]
    omega

theorem Signalled.drained (h : q.Signalled) : q.drain.2.Signalled := h.poll q.size

end RdmaLink.CompletionQueue
