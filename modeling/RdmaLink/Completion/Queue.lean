import RdmaLink.Completion.Basic

/-!
# Completion queues

A completion queue is a bounded queue with a signal that a waiter can watch.  The signal is
raised when a completion lands in an empty queue and cleared when a poll empties it.  A
completion that finds the queue full is dropped; it is counted and leaves a fault behind until
the fault is taken.
-/

namespace RdmaLink

/-- A bounded queue of completions. -/
structure CompletionQueue where
  depth : Nat
  entries : Array Completion
  /-- Completions dropped so far.  A program counts them in 64 bits, which would wrap only after
  2^64 drops. -/
  overruns : Nat
  /-- Whether a completion was dropped since the fault was last taken. -/
  fault : Bool
  /-- The counter behind the signal; the queue reads as ready while it is not zero. -/
  signal : Nat
deriving DecidableEq, Repr, Inhabited

namespace CompletionQueue

/-- An empty queue for up to `depth` completions. -/
def ofDepth (depth : Nat) : CompletionQueue := ⟨depth, #[], 0, false, 0⟩

def size (queue : CompletionQueue) : Nat := queue.entries.size

def isEmpty (queue : CompletionQueue) : Bool := queue.entries.isEmpty

/-- The completions held, oldest first. -/
def toList (queue : CompletionQueue) : List Completion := queue.entries.toList

def isFull (queue : CompletionQueue) : Bool := decide (queue.depth ≤ queue.size)

/-- Appends a completion; a full queue drops it. -/
def push (queue : CompletionQueue) (completion : Completion) : CompletionQueue :=
  if queue.isFull then { queue with overruns := queue.overruns + 1, fault := true }
  else
    { queue with
      entries := queue.entries.push completion
      signal := if queue.isEmpty then queue.signal + 1 else queue.signal }

/-- Takes up to `most` completions, oldest first. -/
def poll (queue : CompletionQueue) (most : Nat) : List Completion × CompletionQueue :=
  let taken := min most queue.size
  let rest := queue.entries.extract taken queue.size
  ((queue.entries.extract 0 taken).toList,
    { queue with
      entries := rest
      signal := if rest.isEmpty && 0 < taken then 0 else queue.signal })

/-- Takes every completion. -/
def drain (queue : CompletionQueue) : List Completion × CompletionQueue := queue.poll queue.size

/-- Whether completions were dropped since the last call. -/
def takeFault (queue : CompletionQueue) : Bool × CompletionQueue :=
  (queue.fault, { queue with fault := false })

/-- Whether a waiter finds the queue's signal raised. -/
def isReadable (queue : CompletionQueue) : Bool := queue.signal != 0

/-- The state of a queue in one line. -/
def described (queue : CompletionQueue) : String :=
  "CompletionQueue \x7b kind: \"software\", depth: " ++ toString queue.depth ++ ", pending: " ++
    toString queue.size ++ ", overruns: " ++ toString queue.overruns ++ " \x7d"

/-! ## Lemmas -/

@[simp] theorem depth_push (queue : CompletionQueue) (completion : Completion) :
    (queue.push completion).depth = queue.depth := by
  unfold push; split <;> rfl

/-- A queue with room takes a completion at its end. -/
theorem toList_push_of_room {queue : CompletionQueue} {completion : Completion}
    (room : queue.size < queue.depth) :
    (queue.push completion).toList = queue.toList ++ [completion] := by
  have : queue.isFull = false := by simp [isFull]; omega
  simp [push, this, toList]

/-- A full queue keeps what it holds. -/
theorem toList_push_of_full {queue : CompletionQueue} {completion : Completion}
    (full : queue.depth ≤ queue.size) : (queue.push completion).toList = queue.toList := by
  have : queue.isFull = true := by simp [isFull]; omega
  simp [push, this, toList]

/-- What a poll gives and what it leaves are what was held. -/
theorem toList_poll (queue : CompletionQueue) (most : Nat) :
    (queue.poll most).1 ++ (queue.poll most).2.toList = queue.toList := by
  simp only [poll, toList, ← Array.toList_append]
  congr 1
  have held : max (min most queue.size) queue.size = queue.size :=
    Nat.max_eq_right (Nat.min_le_right _ _)
  rw [Array.extract_append_extract, Nat.zero_min, held]
  exact Array.extract_size

end CompletionQueue

end RdmaLink
