import RdmaLink.Proofs.Completion.Queue
import RdmaLink.Proofs.Since

/-!
# A completion queue is first in, first out

A completion queue is used by four calls: a push, a poll, a drain and the taking of its fault.  What
was called and what it gave is a trace; from it alone one can tell what the queue has taken, what it
has given back and what it has turned down.  The queue holds the difference:

    trace.returned ++ queue.toList = trace.accepted
    queue.overruns = trace.refusals
    queue.fault = true ↔ trace.LostSince
    queue.isReadable = true ↔ 0 < queue.size

One call keeps these (`Tells.answer`), and so does a run (`Tells.run`).
-/

namespace RdmaLink

/-! ## Calls and traces -/

/-- A call on a completion queue. -/
inductive QueueCall where
  | push (completion : Completion)
  | poll (most : Nat)
  | drain
  | takeFault
deriving DecidableEq, Repr, Inhabited

/-- What a call gives. -/
inductive QueueAnswer where
  /-- Whether the completion was taken. -/
  | pushed (accepted : Bool)
  | polled (batch : List Completion)
  /-- Whether completions were lost. -/
  | fault (lost : Bool)
deriving DecidableEq, Repr, Inhabited

/-- Calls with what they gave, in order. -/
abbrev QueueTrace := List (QueueCall × QueueAnswer)

namespace QueueTrace

/-- The completion that a call put into the queue. -/
def taken : QueueCall × QueueAnswer → List Completion
  | (.push completion, .pushed true) => [completion]
  | _ => []

/-- The completions that a call got out of the queue. -/
def given : QueueCall × QueueAnswer → List Completion
  | (_, .polled batch) => batch
  | _ => []

/-- Whether a call is a push that was turned down. -/
def isRefusal : QueueCall × QueueAnswer → Bool
  | (.push _, .pushed false) => true
  | _ => false

def accepted (trace : QueueTrace) : List Completion := trace.flatMap taken

def returned (trace : QueueTrace) : List Completion := trace.flatMap given

def refusals (trace : QueueTrace) : Nat := trace.countP isRefusal

/-- A push was turned down, and the fault was not taken after it. -/
def LostSince (trace : QueueTrace) : Prop :=
  Since (fun entry => isRefusal entry = true) (fun entry => entry.1 = .takeFault) trace

variable {trace : QueueTrace} {entry : QueueCall × QueueAnswer}

theorem accepted_concat : accepted (trace ++ [entry]) = accepted trace ++ taken entry := by
  simp [accepted]

theorem returned_concat : returned (trace ++ [entry]) = returned trace ++ given entry := by
  simp [returned]

theorem refusals_concat :
    refusals (trace ++ [entry]) = refusals trace + if isRefusal entry then 1 else 0 := by
  simp [refusals, List.countP_append, List.countP_singleton]

end QueueTrace

namespace CompletionQueue

open QueueTrace

/-- The answer to a call, and the queue after it. -/
def answer (queue : CompletionQueue) : QueueCall → QueueAnswer × CompletionQueue
  | .push completion => (.pushed (!queue.isFull), queue.push completion)
  | .poll most => (.polled (queue.poll most).1, (queue.poll most).2)
  | .drain => (.polled queue.drain.1, queue.drain.2)
  | .takeFault => (.fault queue.takeFault.1, queue.takeFault.2)

/-- The trace of calls that are made one after the other, and the queue after them. -/
def run (queue : CompletionQueue) : List QueueCall → QueueTrace × CompletionQueue
  | [] => ([], queue)
  | call :: rest =>
    let (given, next) := queue.answer call
    let (later, last) := next.run rest
    ((call, given) :: later, last)

/-! ## What the trace tells of the queue -/

/-- A queue is as its trace tells. -/
structure Tells (trace : QueueTrace) (queue : CompletionQueue) : Prop where
  order : trace.returned ++ queue.toList = trace.accepted
  within : queue.size ≤ queue.depth
  counted : queue.overruns = trace.refusals
  latched : queue.fault = true ↔ trace.LostSince
  signalled : queue.Signalled
  /-- The counter behind the signal does not run up. -/
  low : queue.signal ≤ 1

variable {q r : CompletionQueue} {trace : QueueTrace} {entry : QueueCall × QueueAnswer}

theorem tells_ofDepth (depth : Nat) : Tells [] (ofDepth depth) where
  order := rfl
  within := Nat.zero_le _
  counted := rfl
  latched := ⟨nofun, fun lost => absurd lost not_since_nil⟩
  signalled := signalled_ofDepth depth
  low := Nat.zero_le _

/-- What a call has to do for the trace to go on telling of the queue. -/
theorem Tells.concat (tells : Tells trace q)
    (order : given entry ++ r.toList = q.toList ++ taken entry) (within : r.size ≤ r.depth)
    (counted : r.overruns = q.overruns + if isRefusal entry then 1 else 0)
    (latched : r.fault = true ↔
      isRefusal entry = true ∨ (q.fault = true ∧ entry.1 ≠ .takeFault))
    (signalled : r.Signalled) (low : r.signal ≤ 1) : Tells (trace ++ [entry]) r where
  order := by
    rw [returned_concat, accepted_concat, List.append_assoc, order, ← List.append_assoc,
      tells.order]
  within := within
  counted := by rw [refusals_concat, counted, tells.counted]
  latched := by rw [latched, LostSince, since_concat, ← LostSince, tells.latched]
  signalled := signalled
  low := low

/-- A push is taken if there is room, and leaves its mark if there is none. -/
theorem Tells.push (tells : Tells trace q) (completion : Completion) :
    Tells (trace ++ [(.push completion, .pushed (!q.isFull))]) (q.push completion) := by
  have signalled := tells.signalled.push completion
  rcases Nat.lt_or_ge q.size q.depth with room | full
  · have taking : q.isFull = false := by simp [isFull, room]
    rw [taking]
    refine tells.concat (toList_push_of_room room) ?_ (overruns_push_of_room room) ?_ signalled ?_
    · rw [size_push, if_pos room, depth_push]
      exact room
    · rw [push_of_room room]
      simp [isRefusal]
    · rw [push_of_room room]
      dsimp only
      split
      · next empty =>
        have quiet := tells.signalled.signal_eq_zero (by simpa [isEmpty, size] using empty)
        exact Nat.le_of_eq (congrArg (· + 1) quiet)
      · exact tells.low
  · have refusing : q.isFull = true := by simp [isFull, full]
    rw [push_of_full full] at signalled ⊢
    rw [refusing]
    exact tells.concat (List.append_nil _).symm tells.within rfl (by simp [isRefusal]) signalled
      tells.low

/-- A batch is the oldest completions that are held. -/
theorem Tells.polled (tells : Tells trace q) (call : QueueCall) (other : call ≠ .takeFault)
    (most : Nat) :
    Tells (trace ++ [(call, .polled (q.poll most).1)]) (q.poll most).2 := by
  have refuses : isRefusal (call, .polled (q.poll most).1) = false := by cases call <;> rfl
  have takes : taken (call, .polled (q.poll most).1) = [] := by cases call <;> rfl
  refine tells.concat ?_ ?_ ?_ ?_ (tells.signalled.poll most) ?_
  · rw [takes, List.append_nil]
    exact q.toList_poll most
  · rw [size_poll]
    exact Nat.le_trans (Nat.sub_le _ _) tells.within
  · rw [refuses]
    rfl
  · rw [refuses]
    exact ⟨fun fault => Or.inr ⟨fault, other⟩, fun either => either.elim nofun And.left⟩
  · rw [signal_poll]
    split
    · exact Nat.zero_le _
    · exact tells.low

theorem Tells.fault (tells : Tells trace q) :
    Tells (trace ++ [(.takeFault, .fault q.fault)]) q.takeFault.2 :=
  tells.concat (List.append_nil _).symm tells.within rfl (by simp [takeFault, isRefusal])
    tells.signalled tells.low

theorem Tells.answer (tells : Tells trace q) (call : QueueCall) :
    Tells (trace ++ [(call, (q.answer call).1)]) (q.answer call).2 := by
  cases call with
  | push completion => exact tells.push completion
  | poll most => exact tells.polled (.poll most) nofun most
  | drain => exact tells.polled .drain nofun q.size
  | takeFault => exact tells.fault

theorem Tells.run (tells : Tells trace q) (calls : List QueueCall) :
    Tells (trace ++ (q.run calls).1) (q.run calls).2 := by
  induction calls generalizing trace q with
  | nil => rwa [CompletionQueue.run, List.append_nil]
  | cons call rest ih =>
    have later := ih (tells.answer call)
    rwa [List.append_assoc, List.singleton_append] at later

theorem depth_answer (q : CompletionQueue) (call : QueueCall) :
    (q.answer call).2.depth = q.depth := by
  cases call with
  | push completion => exact depth_push q completion
  | _ => rfl

theorem depth_run (q : CompletionQueue) (calls : List QueueCall) :
    (q.run calls).2.depth = q.depth := by
  induction calls generalizing q with
  | nil => rfl
  | cons call rest ih => exact (ih _).trans (depth_answer q call)

/-- A completion queue is a bounded queue, first in and first out, with a signal for what it holds.
After any calls on a queue that was empty it holds what it has taken and not yet given back, in
order, and no more than its depth.  A push is turned down exactly when that is reached; it is
counted and leaves the fault, and nothing else is changed.  A poll gives the oldest completions, as
many as it asks for and there are, and a drain gives all.  Taking the fault tells whether a push was
turned down since it was taken last.  The signal is raised exactly while the queue holds
something. -/
theorem refines_bounded_fifo (depth : Nat) (calls : List QueueCall) :
    let trace := ((ofDepth depth).run calls).1
    let queue := ((ofDepth depth).run calls).2
    trace.returned ++ queue.toList = trace.accepted ∧
    queue.size = queue.toList.length ∧ queue.size ≤ depth ∧
    (∀ completion, (queue.answer (.push completion)).1 = .pushed false ↔ queue.size = depth) ∧
    (∀ completion, queue.size = depth → (queue.answer (.push completion)).2 =
      { queue with overruns := queue.overruns + 1, fault := true }) ∧
    queue.overruns = trace.refusals ∧
    ((queue.answer .takeFault).1 = .fault true ↔ trace.LostSince) ∧
    (∀ most, ∃ batch, (queue.answer (.poll most)).1 = .polled batch ∧
      batch = queue.toList.take most ∧ batch.length = min most queue.size) ∧
    (queue.answer .drain).1 = .polled queue.toList ∧
    (queue.isReadable = true ↔ 0 < queue.size) ∧ queue.signal ≤ 1 := by
  intro trace queue
  have tells : Tells trace queue := (tells_ofDepth depth).run calls
  have deep : queue.depth = depth := depth_run (ofDepth depth) calls
  have within : queue.size ≤ depth := deep ▸ tells.within
  refine ⟨tells.order, queue.size_eq_length, within, fun completion => ?_,
    fun completion full => ?_, tells.counted, ?_, fun most => ?_, ?_, tells.signalled, tells.low⟩
  · simp only [answer, isFull, deep, QueueAnswer.pushed.injEq, Bool.not_eq_false',
      decide_eq_true_eq]
    omega
  · exact push_of_full (by omega) completion
  · rw [← tells.latched]
    simp [answer, takeFault]
  · refine ⟨_, rfl, queue.poll_taken most, ?_⟩
    rw [poll_taken, List.length_take, size_eq_length]
  · simp only [answer, drain_eq]

end CompletionQueue

end RdmaLink
