import RdmaLink.Proofs.QueuePair.Matching
import RdmaLink.Proofs.Threads.Basic

/-!
# The books of two threads

A ledger is a queue pair with its two threads and a record of what they have done: the posts that
were granted, the requests that were entered, the completions that were reported, and which of them
were dropped.  A request is entered when it comes to those that wait, or takes a held write; the
call that posts it returns later.  A completion that a thread has in hand is neither waiting nor
reported.

    accepted = granted, or one more that is entered while its call goes on      (Ledger.Booked)
    dropped  = the reports that found the queue full                  (CompletionQueue.refused)
-/

namespace RdmaLink

/-! ## Reports that are dropped -/

namespace CompletionQueue

/-- The completions that find no room when they are pushed one after the other. -/
def refused (queue : CompletionQueue) : List Completion → List Completion
  | [] => []
  | completion :: later =>
    (if queue.isFull then [completion] else []) ++ (queue.push completion).refused later

/-- The completions that find room. -/
def admitted (queue : CompletionQueue) : List Completion → List Completion
  | [] => []
  | completion :: later =>
    (if queue.isFull then [] else [completion]) ++ (queue.push completion).admitted later

@[simp] theorem depth_pushed (completions : List Completion) (queue : CompletionQueue) :
    (completions.foldl push queue).depth = queue.depth := by
  induction completions generalizing queue with
  | nil => rfl
  | cons c rest ih => rw [List.foldl_cons, ih, depth_push]

theorem toList_pushed (completions : List Completion) (queue : CompletionQueue) :
    (completions.foldl push queue).toList = queue.toList ++ queue.admitted completions := by
  induction completions generalizing queue with
  | nil => simp [admitted]
  | cons c rest ih =>
    rw [List.foldl_cons, ih, admitted]
    rcases Nat.lt_or_ge queue.size queue.depth with room | full
    · have open' : queue.isFull = false := by simp [isFull]; omega
      simp [toList_push_of_room room, open']
    · have closed : queue.isFull = true := by simp [isFull]; omega
      simp [toList_push_of_full full, closed]

theorem overruns_pushed (completions : List Completion) (queue : CompletionQueue) :
    (completions.foldl push queue).overruns =
      queue.overruns + (queue.refused completions).length := by
  induction completions generalizing queue with
  | nil => rfl
  | cons c rest ih =>
    rw [List.foldl_cons, ih, refused]
    rcases Nat.lt_or_ge queue.size queue.depth with room | full
    · have open' : queue.isFull = false := by simp [isFull]; omega
      simp [overruns_push_of_room room, open']
    · have closed : queue.isFull = true := by simp [isFull]; omega
      simp [overruns_push_of_full full, closed]
      omega

/-- A completion that is pushed is kept or dropped. -/
theorem perm_admitted_refused (queue : CompletionQueue) (completions : List Completion) :
    (queue.admitted completions ++ queue.refused completions).Perm completions := by
  induction completions generalizing queue with
  | nil => exact List.Perm.refl _
  | cons c rest ih =>
    have later := ih (queue.push c)
    unfold admitted refused
    by_cases full : queue.isFull = true
    · rw [if_pos full, if_pos full]
      exact List.perm_middle.trans (later.cons c)
    · rw [if_neg full, if_neg full]
      exact later.cons c

theorem admitted_sublist (completions : List Completion) (queue : CompletionQueue) :
    (queue.admitted completions).Sublist completions := by
  induction completions generalizing queue with
  | nil => exact List.Sublist.refl _
  | cons c rest ih =>
    rw [admitted]
    split
    · exact (ih (queue.push c)).cons c
    · exact (ih (queue.push c)).cons_cons c

/-- As many are dropped as there are too many. -/
theorem length_refused (completions : List Completion) {queue : CompletionQueue}
    (fits : queue.size ≤ queue.depth) :
    (queue.refused completions).length = queue.size + completions.length - queue.depth ∧
      (completions.foldl push queue).size ≤ queue.depth := by
  induction completions generalizing queue with
  | nil => exact ⟨by simp [refused]; omega, fits⟩
  | cons c rest ih =>
    have size := queue.size_push c
    have fits' : (queue.push c).size ≤ (queue.push c).depth := by
      rw [size, depth_push]
      split <;> omega
    obtain ⟨count, within⟩ := ih fits'
    rw [depth_push] at count within
    refine ⟨?_, within⟩
    rw [refused, List.length_append, count, size, List.length_cons]
    by_cases room : queue.size < queue.depth
    · have open' : queue.isFull = false := by simp [isFull]; omega
      rw [if_pos room, open']
      simp only [Bool.false_eq_true, if_false, List.length_nil]
      omega
    · have closed : queue.isFull = true := by simp [isFull]; omega
      rw [if_neg room, closed]
      simp only [if_true, List.length_singleton]
      omega

/-- What is pushed is in the queue afterwards, or dropped. -/
theorem size_pushed (completions : List Completion) (queue : CompletionQueue) :
    (completions.foldl push queue).size + (queue.refused completions).length =
      queue.size + completions.length := by
  have kept := (queue.perm_admitted_refused completions).length_eq
  rw [List.length_append] at kept
  rw [size_eq_length, toList_pushed, List.length_append, ← size_eq_length]
  omega

end CompletionQueue

/-! ## What a thread has in hand -/

namespace Action

/-- The request that is taken out of those that wait and not reported yet. -/
def carried : Action → List Request
  | .reporting send => [.send send.request send.operation]
  | .met request _ => [.receive request]
  | _ => []

/-- The places in the completion queue that a post has found free and has not entered a request
for, and those of a completion in hand. -/
def reserves : Action → Nat
  | .preparing _ | .entering _ | .meeting _ | .reporting _ | .met _ _ => 1
  | _ => 0

/-- How many requests may still be entered. -/
def entries : Action → Nat
  | .admitting _ | .preparing _ | .entering _ | .awaiting _ | .meeting _ => 1
  | _ => 0

/-- How many flushes are due. -/
def flushes : Action → Nat
  | .flushing _ => 1
  | _ => 0

/-- The request that a post is to enter. -/
def asks : Action → Option Request
  | .admitting send | .preparing send => some (.send send.request send.operation.operation)
  | .entering draft => some (.send draft.pending.request draft.pending.operation)
  | .awaiting request | .meeting request => some (.receive request)
  | _ => none

/-- Whether the request of a post is entered. -/
def entered : Action → Bool
  | .launching _ | .withdrawing _ | .reporting _ | .met _ _ | .confirming _ | .failing _
  | .flushing _ | .shutting => true
  | _ => false

/-- Whether a call has nothing of its own to keep true while the receive thread runs. -/
def plain : Action → Bool
  | .entering _ | .reporting _ | .joining | .starting => false
  | _ => true

theorem reserves_le (action : Action) : action.reserves ≤ 1 := by
  cases action <;> simp [reserves]

theorem entries_le (action : Action) : action.entries ≤ 1 := by
  cases action <;> simp [entries]

end Action

namespace Reception

/-- How many flushes are due. -/
def flushes : Reception → Nat
  | .flushing => 1
  | _ => 0

/-- Whether the receive thread can no longer report anything. -/
def past : Reception → Bool
  | .shutting | .finished => true
  | _ => false

end Reception

namespace Threads

/-- The requests that wait. -/
def waiting (t : Threads) : Nat :=
  t.station.queuePair.work.outstanding.length + t.station.queuePair.work.receives.length

/-- The sends that wait or are in hand. -/
def owed (t : Threads) : List (UInt64 × Operation) :=
  t.station.queuePair.work.sends ++ t.action.carried.filterMap Request.asSend?

/-- The receives that wait or are in hand. -/
def awaited (t : Threads) : List UInt64 :=
  t.station.queuePair.work.receives ++ t.action.carried.filterMap Request.asReceive?

/-- The places in the completion queue that are spoken for. -/
def due (t : Threads) : Nat := t.waiting + t.action.reserves

/-- The flushes that are to come. -/
def flushesDue (t : Threads) : Nat := t.action.flushes + t.reception.flushes

/-- The number below which every send that waits has its own. -/
def limit (t : Threads) : Nat :=
  match t.action with
  | .entering draft => draft.sequence
  | _ => t.station.queuePair.nextSequence

/-- Whether the queue pair has failed. -/
def Failed (t : Threads) : Prop := t.station.queuePair.state = .error

instance (t : Threads) : Decidable t.Failed := inferInstanceAs (Decidable (_ = _))

/-- Whether the queue pair has not been made ready to send yet. -/
def Young (t : Threads) : Prop :=
  t.station.queuePair.state = .reset ∨ t.station.queuePair.state = .init ∨
    t.station.queuePair.state = .readyToReceive ∨ t.action = .starting

instance (t : Threads) : Decidable t.Young := inferInstanceAs (Decidable (_ ∨ _))

/-- A step that keeps the state leaves a queue pair young only if it was, or if the step begins to
start the receive thread. -/
theorem Young.of_state {t t' : Threads} (young : t'.Young)
    (state : t'.station.queuePair.state = t.station.queuePair.state)
    (other : t'.action ≠ .starting) : t.Young := by
  rcases young with young | young | young | starting
  · exact Or.inl (state.symm.trans young)
  · exact Or.inr (Or.inl (state.symm.trans young))
  · exact Or.inr (Or.inr (Or.inl (state.symm.trans young)))
  · exact absurd starting other

/-- A queue pair with a link that has failed, is not destroyed, and has flushed. -/
structure Settled (t : Threads) : Prop where
  failed : t.Failed
  linked : t.station.queuePair.link.isSome = true
  present : t.station.queuePair.destroyed = false
  flushed : t.flushesDue = 0

/-- The requests that a step enters. -/
def enters (t : Threads) : ThreadEvent → List Request
  | .proceed _ =>
    match t.action with
    | .entering draft => [.send draft.pending.request draft.pending.operation]
    | .meeting request => [.receive request]
    | _ => []
  | _ => []

/-- The completions that a step reports. -/
def reports (t : Threads) : ThreadEvent → List Completion
  | .proceed _ =>
    match t.action with
    | .reporting send => [t.station.report send.request send.operation .linkLost 0 none]
    | .met request held =>
      [t.station.report request .receiveWithImmediate .success held.length (some held.immediate)]
    | .flushing _ => t.station.lastReports
    | _ => []
  | .advance _ =>
    match t.reception with
    | .taking arrival => (t.station.concluded? arrival).toList
    | .claiming header =>
      (t.station.queuePair.work.receives.take 1).map fun request =>
        t.station.report request .receiveWithImmediate .success header.length
          (some header.immediate)
    | .flushing => t.station.lastReports
    | _ => []
  | _ => []

/-- The completions that a step takes out of the queue. -/
def takes (t : Threads) : ThreadEvent → List Completion
  | .poll most => (t.station.completions.poll most).1
  | _ => []

/-- The queue after a step has taken completions out of it. -/
def drained (t : Threads) : ThreadEvent → CompletionQueue
  | .poll most => (t.station.completions.poll most).2
  | _ => t.station.completions

/-- One if a step lets sends be posted on a queue pair that has failed. -/
def revives (t : Threads) : ThreadEvent → Nat
  | .proceed _ => if t.action = .starting ∧ t.Failed then 1 else 0
  | _ => 0

/-- One if the receive thread reports the loss of the link on a place that a post has found
free. -/
def overtakes (t : Threads) : ThreadEvent → Nat
  | .advance _ => if t.reception = .flushing ∧ t.waiting = 0 then t.action.reserves else 0
  | _ => 0

theorem revives_of_ne {t : Threads} (other : t.action ≠ .starting) (event : ThreadEvent) :
    t.revives event = 0 := by
  cases event with
  | proceed registrations => exact if_neg fun h => other h.1
  | _ => rfl

theorem overtakes_of_ne {t : Threads} (other : t.reception ≠ .flushing) (event : ThreadEvent) :
    t.overtakes event = 0 := by
  cases event with
  | advance registrations => exact if_neg fun h => other h.1
  | _ => rfl

end Threads

/-- The request that a call asks for. -/
def ThreadEvent.asks : ThreadEvent → Option Request
  | .call (.postSend send) => some (.send send.request send.operation.operation)
  | .call (.postReceive request) => some (.receive request)
  | _ => none

/-- Whether an event is a step of the owner. -/
def ThreadEvent.ofOwner : ThreadEvent → Bool
  | .call _ | .proceed _ => true
  | _ => false

/-- A queue pair with its threads, and what they have done. -/
structure Ledger where
  threads : Threads
  /-- What the call in progress asks for. -/
  asked : Option Request
  /-- The requests whose posts have returned with success. -/
  granted : List Request
  /-- The requests that were entered. -/
  accepted : List Request
  /-- The completions that were reported. -/
  told : List Completion
  /-- Those of them that found no room. -/
  dropped : List Completion
  /-- The completions that were taken out of the queue. -/
  taken : List Completion
  /-- How often sends were let be posted after a failure. -/
  revivals : Nat
  /-- How often the loss of the link was reported on a place that a post had found free. -/
  overtaken : Nat

namespace Ledger

/-- A fresh queue pair of which nothing is known yet. -/
def fresh (address : QueuePairAddress) (linkTimeout : Milliseconds) (depth : Nat)
    (memory : Memory) : Ledger :=
  ⟨Threads.fresh address linkTimeout depth memory, none, [], [], [], [], [], 0, 0⟩

/-- The request that is granted when a call returns. -/
def grants (l : Ledger) (event : ThreadEvent) : List Request :=
  let after := l.threads.step event
  if l.threads.action ≠ .idle ∧ after.action = .idle ∧ after.answer = some (.ok ()) then
    l.asked.toList
  else []

def step (l : Ledger) (event : ThreadEvent) : Ledger :=
  let t := l.threads
  { threads := t.step event
    asked := if t.action = .idle then event.asks else l.asked
    granted := l.granted ++ l.grants event
    accepted := l.accepted ++ t.enters event
    told := l.told ++ t.reports event
    dropped := l.dropped ++ t.station.completions.refused (t.reports event)
    taken := l.taken ++ t.takes event
    revivals := l.revivals + t.revives event
    overtaken := l.overtaken + t.overtakes event }

def run (l : Ledger) (events : List ThreadEvent) : Ledger := events.foldl step l

theorem run_append (l : Ledger) (a b : List ThreadEvent) : l.run (a ++ b) = (l.run a).run b :=
  List.foldl_append

/-- What holds at the start and is kept by every step holds of every run. -/
theorem run_induction {P : Ledger → Prop} {l : Ledger} (base : P l)
    (keep : ∀ l event, P l → P (l.step event)) (events : List ThreadEvent) : P (l.run events) := by
  induction events generalizing l with
  | nil => exact base
  | cons event rest ih => exact ih (keep l event base)

/-- The books do not disturb the threads. -/
theorem threads_run (l : Ledger) (events : List ThreadEvent) :
    (l.run events).threads = l.threads.run events := by
  induction events generalizing l with
  | nil => rfl
  | cons event rest ih => exact ih (l.step event)

end Ledger

end RdmaLink
