import Mathlib.Data.Multiset.AddSub
import RdmaLink.Proofs.Completion.Queue
import RdmaLink.Proofs.QueuePair.History

/-!
# One completion for each request, where nothing interrupts

In a history one event comes after the other, and each request that a queue pair took on is either
still waiting or has exactly one completion.  The only other completion stands for a link that was
lost when nothing was waiting, and it comes at most once.  Once a queue pair that was ready to send
has failed, nothing waits any more.  (Two threads that get in each other's way can do less well.)

    accepted sends    = outstanding sends + completions of sends             (Balanced.sent)
    accepted receives = waiting receives + completions of receives        (Balanced.awaited)

The invariant is `Balanced`.  It also counts what is in flight: there is always room in the
completion queue for all that waits, so no completion of a request is ever dropped.
-/

namespace RdmaLink

namespace Request

/-- The number and the operation of a send. -/
def asSend? : Request → Option (UInt64 × Operation)
  | .send request operation => some (request, operation)
  | .receive _ => none

/-- The number of a receive. -/
def asReceive? : Request → Option UInt64
  | .send _ _ => none
  | .receive request => some request

end Request

namespace Completion

/-- The send that a completion completes. -/
def asSend? (completion : Completion) : Option (UInt64 × Operation) :=
  if completion.operation.isSend then some (completion.request, completion.operation) else none

/-- The receive that a completion completes: one that a write consumed, or one that was
flushed. -/
def asReceive? (completion : Completion) : Option UInt64 :=
  if completion.operation = .receiveWithImmediate ∨
      (completion.operation = .receive ∧ completion.status = .flushed) then
    some completion.request
  else none

/-- Whether a completion stands for a lost link and for no request. -/
def isLoss (completion : Completion) : Bool :=
  completion.request == 0 && completion.operation == .receive && completion.status == .linkLost

end Completion

/-- The sends that wait, by number and operation. -/
def Work.sends (work : Work) : List (UInt64 × Operation) :=
  work.outstanding.map fun entry => (entry.2.request, entry.2.operation)

/-! ## Queues with room -/

namespace CompletionQueue

/-- A push into a queue that is not overfull keeps the completion or counts it as dropped. -/
theorem push_keeps (queue : CompletionQueue) (completion : Completion)
    (fits : queue.size ≤ queue.depth) :
    ∃ kept, (queue.push completion).toList = queue.toList ++ kept ∧
      (∀ c ∈ kept, c = completion) ∧
      kept.length + (queue.push completion).overruns = queue.overruns + 1 ∧
      (queue.push completion).size ≤ queue.depth := by
  rcases Nat.lt_or_ge queue.size queue.depth with room | full
  · have hlist : (queue.push completion).toList = queue.toList ++ [completion] :=
      toList_push_of_room room
    refine ⟨[completion], hlist, by simp, ?_, ?_⟩
    · rw [overruns_push_of_room room, List.length_singleton, Nat.add_comm]
    · rw [size_eq_length, hlist, List.length_append, List.length_singleton, ← size_eq_length]
      exact room
  · have hlist : (queue.push completion).toList = queue.toList := toList_push_of_full full
    refine ⟨[], by rw [hlist, List.append_nil], by simp, ?_, ?_⟩
    · rw [overruns_push_of_full full, List.length_nil, Nat.zero_add]
    · rw [size_eq_length, hlist, ← size_eq_length]
      exact fits

/-- A queue with room for several completions takes them all. -/
theorem foldl_push_of_room (completions : List Completion) {queue : CompletionQueue}
    (room : queue.size + completions.length ≤ queue.depth) :
    (completions.foldl push queue).toList = queue.toList ++ completions ∧
      (completions.foldl push queue).overruns = queue.overruns ∧
      (completions.foldl push queue).depth = queue.depth := by
  induction completions generalizing queue with
  | nil => simp
  | cons completion rest ih =>
    simp only [List.length_cons] at room
    have hroom : queue.size < queue.depth := by omega
    have hlist : (queue.push completion).toList = queue.toList ++ [completion] :=
      toList_push_of_room hroom
    have hsize : (queue.push completion).size = queue.size + 1 := by
      rw [size_eq_length, hlist, size_eq_length]; simp
    have hrest : (queue.push completion).size + rest.length ≤ (queue.push completion).depth := by
      rw [hsize, depth_push]; omega
    obtain ⟨h1, h2, h3⟩ := ih hrest
    refine ⟨?_, ?_, ?_⟩
    · rw [List.foldl_cons, h1, hlist, List.append_assoc]; rfl
    · rw [List.foldl_cons, h2, overruns_push_of_room hroom]
    · rw [List.foldl_cons, h3, depth_push]

end CompletionQueue

/-! ## The invariant -/

/-- The posted sends stand in the order of their sequence numbers, all of them below the next, and
only reads have sinks. -/
structure Work.Numbered (next : Nat) (work : Work) : Prop where
  ordered : work.outstanding.Pairwise fun a b => a.1 < b.1
  below : ∀ entry ∈ work.outstanding, entry.1 < next
  sends : ∀ entry ∈ work.outstanding, entry.2.operation.isSend = true
  sinks : ∀ entry ∈ work.outstanding, entry.2.sink.isSome = true → entry.2.operation = .read

theorem Work.Numbered.sublist {next : Nat} {work fewer : Work} (h : work.Numbered next)
    (sub : fewer.outstanding.Sublist work.outstanding) : fewer.Numbered next :=
  ⟨h.ordered.sublist sub, fun entry he => h.below entry (sub.subset he),
    fun entry he => h.sends entry (sub.subset he), fun entry he => h.sinks entry (sub.subset he)⟩

/-- Numbers below one number are below every greater one. -/
theorem Work.Numbered.mono {next more : Nat} {work : Work} (numbered : work.Numbered next)
    (le : next ≤ more) : work.Numbered more :=
  { numbered with below := fun entry listed => Nat.lt_of_lt_of_le (numbered.below entry listed) le }

theorem Work.numbered_none (next : Nat) : Work.none.Numbered next :=
  ⟨List.Pairwise.nil, by simp [Work.none], by simp [Work.none], by simp [Work.none]⟩

/-- A send posted under the next sequence number comes last. -/
theorem Work.Numbered.posted {next : Nat} {work : Work} {pending : PendingSend}
    (h : work.Numbered next) (isSend : pending.operation.isSend = true)
    (sink : pending.sink.isSome = true → pending.operation = .read) :
    Work.Numbered (next + 1)
      { work with outstanding := work.outstanding ++ [(next, pending)] } := by
  refine ⟨?_, ?_, ?_, ?_⟩
  · refine List.pairwise_append.mpr ⟨h.ordered, List.pairwise_singleton _ _, ?_⟩
    intro entry he last hl
    rw [List.mem_singleton.mp hl]
    exact h.below entry he
  · intro entry he
    rcases List.mem_append.mp he with he | he
    · exact Nat.lt_succ_of_lt (h.below entry he)
    · rw [List.mem_singleton.mp he]; exact Nat.lt_succ_self next
  · intro entry he
    rcases List.mem_append.mp he with he | he
    · exact h.sends entry he
    · rw [List.mem_singleton.mp he]; exact isSend
  · intro entry he
    rcases List.mem_append.mp he with he | he
    · exact h.sinks entry he
    · rw [List.mem_singleton.mp he]; exact sink

/-- A sequence number finds the one send that was posted under it. -/
theorem Work.Numbered.split {next sequence : Nat} {work : Work} {send : PendingSend}
    (h : work.Numbered next) (hs : work.send? sequence = some send) :
    ∃ a b, work.outstanding = a ++ (sequence, send) :: b ∧
      (work.withoutSend sequence).outstanding = a ++ b := by
  obtain ⟨a, b, hab, -⟩ := List.lookup_eq_some_iff.mp hs
  have hord := h.ordered
  rw [hab, List.pairwise_append, List.pairwise_cons] at hord
  obtain ⟨-, ⟨hb, -⟩, ha⟩ := hord
  refine ⟨a, b, hab, ?_⟩
  have keepa : a.filter (fun entry => entry.1 != sequence) = a := by
    refine List.filter_eq_self.mpr fun entry he => ?_
    have := ha entry he (sequence, send) (by simp)
    simp only [bne_iff_ne]
    omega
  have keepb : b.filter (fun entry => entry.1 != sequence) = b := by
    refine List.filter_eq_self.mpr fun entry he => ?_
    have := hb entry he
    simp only at this
    simp only [bne_iff_ne]
    omega
  simp only [Work.withoutSend, hab, List.filter_append, List.filter_cons, keepa, keepb]
  simp

namespace Station

/-- What was taken on is what waits and what is completed, after `taken` was taken out of the
completion queue. -/
structure Balanced (accepted : List Request) (taken : List Completion) (s : Station) : Prop where
  numbered : s.queuePair.work.Numbered s.queuePair.nextSequence
  room : s.load ≤ s.completions.depth
  sent : (accepted.filterMap Request.asSend?).Perm
    (s.queuePair.work.sends ++ (taken ++ s.completions.toList).filterMap Completion.asSend?)
  awaited : (accepted.filterMap Request.asReceive?).Perm
    (s.queuePair.work.receives ++
      (taken ++ s.completions.toList).filterMap Completion.asReceive?)
  known : ∀ c ∈ taken ++ s.completions.toList,
    c.asSend?.isSome ∨ c.asReceive?.isSome ∨ c.isLoss = true
  losses : (taken ++ s.completions.toList).countP Completion.isLoss + s.completions.overruns ≤
    if s.queuePair.state = .error then 1 else 0
  flushed : s.queuePair.state = .error → s.queuePair.link.isSome = true →
    s.queuePair.work.outstanding = [] ∧ s.queuePair.work.receives = []

variable {accepted : List Request} {taken : List Completion} {s t : Station}

/-- New entries come in and some of all are settled: the sum stays. -/
theorem perm_settle {α : Type} {old waiting waiting' done more settled : List α}
    (h : old.Perm (waiting ++ done)) (k : (more ++ waiting).Perm (waiting' ++ settled)) :
    (old ++ more).Perm (waiting' ++ (done ++ settled)) := by
  calc (old ++ more).Perm (more ++ (waiting ++ done)) :=
        (h.append_right more).trans List.perm_append_comm
    _ = (more ++ waiting) ++ done := (List.append_assoc _ _ _).symm
    List.Perm _ ((waiting' ++ settled) ++ done) := k.append_right done
    _ = waiting' ++ (settled ++ done) := List.append_assoc _ _ _
    List.Perm _ (waiting' ++ (done ++ settled)) := List.perm_append_comm.append_left _

/-- On the way from one station to another requests are taken on and requests are completed, as
many of each as leave the waiting ones, and there is room for everything that is completed. -/
structure Delivery (s : Station) (more : List Request) (completed : List Completion)
    (t : Station) : Prop where
  pushed : t.completions = completed.foldl CompletionQueue.push s.completions
  numbered : t.queuePair.work.Numbered t.queuePair.nextSequence
  room : s.load + more.length ≤ s.completions.depth
  count : t.queuePair.work.outstanding.length + t.queuePair.work.receives.length +
      completed.length =
    s.queuePair.work.outstanding.length + s.queuePair.work.receives.length + more.length
  sent : (more.filterMap Request.asSend? ++ s.queuePair.work.sends).Perm
    (t.queuePair.work.sends ++ completed.filterMap Completion.asSend?)
  awaited : (more.filterMap Request.asReceive? ++ s.queuePair.work.receives).Perm
    (t.queuePair.work.receives ++ completed.filterMap Completion.asReceive?)
  known : ∀ c ∈ completed, (c.asSend?.isSome ∨ c.asReceive?.isSome) ∧ c.isLoss = false
  failed : s.queuePair.state = .error → t.queuePair.state = .error
  flushed : t.queuePair.state = .error → t.queuePair.link.isSome = true →
    t.queuePair.work.outstanding = [] ∧ t.queuePair.work.receives = []

variable {more : List Request} {completed : List Completion}

/-- The queue holds all that is completed, in order, and drops nothing. -/
theorem Delivery.kept (d : Delivery s more completed t) :
    t.completions.toList = s.completions.toList ++ completed ∧
      t.completions.overruns = s.completions.overruns ∧
      t.completions.depth = s.completions.depth := by
  have fits : s.completions.size + completed.length ≤ s.completions.depth := by
    have room := d.room
    have count := d.count
    unfold load at room
    omega
  rw [d.pushed]
  exact CompletionQueue.foldl_push_of_room completed fits

/-- Only what is taken on adds to the load. -/
theorem Delivery.load (d : Delivery s more completed t) :
    t.load = s.load + more.length := by
  have count := d.count
  have size : t.completions.size = s.completions.size + completed.length := by
    rw [CompletionQueue.size_eq_length, d.kept.1, CompletionQueue.size_eq_length,
      List.length_append]
  unfold Station.load
  omega

theorem Balanced.deliver (h : Balanced accepted taken s) (d : Delivery s more completed t) :
    Balanced (accepted ++ more) taken t := by
  obtain ⟨hlist, hover, hdepth⟩ := d.kept
  refine ⟨d.numbered, ?_, ?_, ?_, ?_, ?_, d.flushed⟩
  · rw [d.load, hdepth]
    exact d.room
  · rw [hlist, ← List.append_assoc, List.filterMap_append, List.filterMap_append]
    exact perm_settle h.sent d.sent
  · rw [hlist, ← List.append_assoc, List.filterMap_append, List.filterMap_append]
    exact perm_settle h.awaited d.awaited
  · intro c hc
    rw [hlist, ← List.append_assoc] at hc
    rcases List.mem_append.mp hc with hc | hc
    · exact h.known c hc
    · rcases (d.known c hc).1 with hk | hk
      · exact Or.inl hk
      · exact Or.inr (Or.inl hk)
  · have none : completed.countP Completion.isLoss = 0 :=
      List.countP_eq_zero.mpr fun c hc => by rw [(d.known c hc).2]; exact Bool.false_ne_true
    have old := h.losses
    rw [hlist, hover, ← List.append_assoc, List.countP_append, none]
    by_cases he : s.queuePair.state = .error
    · rw [if_pos he] at old
      rw [if_pos (d.failed he)]
      exact old
    · rw [if_neg he] at old
      exact Nat.le_trans old (Nat.zero_le _)

/-! ## Completions -/

/-- What a completion of a send counts as. -/
theorem report_of_send {operation : Operation} (isSend : operation.isSend = true) (s : Station)
    (request : UInt64) (status : Status) (length : UInt32) (immediate : Option UInt32) :
    (s.report request operation status length immediate).asSend? = some (request, operation) ∧
      (s.report request operation status length immediate).asReceive? = none ∧
      (s.report request operation status length immediate).isLoss = false := by
  cases operation with
  | write => simp [Completion.asSend?, Completion.asReceive?, Completion.isLoss, report, isSend]
  | writeWithImmediate =>
    simp [Completion.asSend?, Completion.asReceive?, Completion.isLoss, report, isSend]
  | read => simp [Completion.asSend?, Completion.asReceive?, Completion.isLoss, report, isSend]
  | receive => cases isSend
  | receiveWithImmediate => cases isSend

/-- What a completion of a receive by a write counts as. -/
theorem report_of_consumed (s : Station) (request : UInt64) (length : UInt32)
    (immediate : Option UInt32) :
    (s.report request .receiveWithImmediate .success length immediate).asSend? = none ∧
      (s.report request .receiveWithImmediate .success length immediate).asReceive? =
        some request ∧
      (s.report request .receiveWithImmediate .success length immediate).isLoss = false := by
  simp [Completion.asSend?, Completion.asReceive?, Completion.isLoss, report, Operation.isSend]

/-- What a flushed receive counts as. -/
theorem report_of_flushed (s : Station) (request : UInt64) :
    (s.report request .receive .flushed 0 none).asSend? = none ∧
      (s.report request .receive .flushed 0 none).asReceive? = some request ∧
      (s.report request .receive .flushed 0 none).isLoss = false := by
  simp [Completion.asSend?, Completion.asReceive?, Completion.isLoss, report, Operation.isSend]

/-- What the completion for a lost link counts as. -/
theorem lossReport_counts (s : Station) :
    s.lossReport.asSend? = none ∧ s.lossReport.asReceive? = none ∧
      s.lossReport.isLoss = true := by
  simp [Completion.asSend?, Completion.asReceive?, Completion.isLoss, lossReport, report,
    Operation.isSend]

theorem flushReports_length (s : Station) :
    s.flushReports.length =
      s.queuePair.work.outstanding.length + s.queuePair.work.receives.length := by
  simp [flushReports]

/-- A flush completes every send that waits. -/
theorem flushReports_sends (s : Station)
    (sends : ∀ entry ∈ s.queuePair.work.outstanding, entry.2.operation.isSend = true) :
    s.flushReports.filterMap Completion.asSend? = s.queuePair.work.sends := by
  have receives : (s.queuePair.work.receives.map fun request =>
      s.report request .receive .flushed 0 none).filterMap Completion.asSend? = [] := by
    refine List.filterMap_eq_nil_iff.mpr fun c hc => ?_
    obtain ⟨request, -, rfl⟩ := List.mem_map.mp hc
    exact (s.report_of_flushed request).1
  rw [flushReports, List.filterMap_append, receives, List.append_nil, List.filterMap_map,
    Work.sends, ← List.filterMap_eq_map]
  exact List.filterMap_congr fun entry he => (report_of_send (sends entry he) s _ _ _ _).1

/-- A flush completes every receive that waits. -/
theorem flushReports_receives (s : Station)
    (sends : ∀ entry ∈ s.queuePair.work.outstanding, entry.2.operation.isSend = true) :
    s.flushReports.filterMap Completion.asReceive? = s.queuePair.work.receives := by
  have outstanding : (s.queuePair.work.outstanding.map fun entry =>
      s.report entry.2.request entry.2.operation .flushed 0 none).filterMap
        Completion.asReceive? = [] := by
    refine List.filterMap_eq_nil_iff.mpr fun c hc => ?_
    obtain ⟨entry, he, rfl⟩ := List.mem_map.mp hc
    exact (report_of_send (sends entry he) s _ _ _ _).2.1
  have same : s.queuePair.work.receives.filterMap
      (Completion.asReceive? ∘ fun request => s.report request .receive .flushed 0 none) =
        s.queuePair.work.receives.filterMap some :=
    List.filterMap_congr fun request _ => (s.report_of_flushed request).2.1
  rw [flushReports, List.filterMap_append, outstanding, List.nil_append, List.filterMap_map,
    same, List.filterMap_some]

/-! ## Moves -/

/-- Where nothing is completed and nothing taken on, nothing is delivered. -/
theorem Balanced.alike (h : Balanced accepted taken s) (same : Alike s t) :
    Delivery s [] [] t := by
  obtain ⟨hw, hs, hc, hn, hl⟩ := same
  refine ⟨hc, ?_, by simpa using h.room, ?_, ?_, ?_, by simp, ?_, ?_⟩
  · rw [hw]
    exact ⟨h.numbered.ordered,
      fun entry he => Nat.lt_of_lt_of_le (h.numbered.below entry he) hn, h.numbered.sends,
      h.numbered.sinks⟩
  · rw [hw]; rfl
  · rw [hw]; simp
  · rw [hw]; simp
  · rw [hs]; exact id
  · rw [hw, hs, hl]; exact h.flushed

theorem Balanced.finish (h : Balanced accepted taken s) {sequence : Nat} {send : PendingSend}
    (status : Status) (length : UInt32)
    (posted : s.queuePair.work.send? sequence = some send) :
    Delivery s [] [s.report send.request send.operation status length none]
      ((s.withWork (s.queuePair.work.withoutSend sequence)).complete
        send.request send.operation status length none) := by
  obtain ⟨a, b, hold, hnew⟩ := h.numbered.split posted
  have isSend : send.operation.isSend = true :=
    h.numbered.sends (sequence, send) (by rw [hold]; simp)
  obtain ⟨hsend, hreceive, hloss⟩ := report_of_send isSend s send.request status length none
  have alive : ¬ (s.queuePair.state = .error ∧ s.queuePair.link.isSome = true) := by
    rintro ⟨he, hl⟩
    have := (h.flushed he hl).1
    rw [hold] at this
    simp at this
  refine ⟨rfl, ?_, ?_, ?_, ?_, ?_, ?_, id, fun he hl => absurd ⟨he, hl⟩ alive⟩
  · refine h.numbered.sublist ?_
    show (s.queuePair.work.withoutSend sequence).outstanding.Sublist _
    exact List.filter_sublist
  · simpa using h.room
  · show (s.queuePair.work.withoutSend sequence).outstanding.length +
        s.queuePair.work.receives.length + 1 = _
    rw [hnew, hold]
    simp only [List.length_append, List.length_cons, List.length_nil]
    omega
  · show (s.queuePair.work.sends).Perm ((s.queuePair.work.withoutSend sequence).sends ++ _)
    rw [List.filterMap_cons, hsend, List.filterMap_nil, Work.sends, Work.sends, hold, hnew,
      List.map_append, List.map_append, List.map_cons]
    exact List.perm_middle.trans (List.perm_append_singleton _ _).symm
  · show (s.queuePair.work.receives).Perm (s.queuePair.work.receives ++ _)
    rw [List.filterMap_cons, hreceive, List.filterMap_nil, List.append_nil]
  · intro c hc
    rw [List.mem_singleton.mp hc]
    exact ⟨Or.inl (by rw [hsend]; rfl), hloss⟩

theorem Balanced.consume (h : Balanced accepted taken s) {request : UInt64} {later : List UInt64}
    (length : UInt32) (immediate : Option UInt32)
    (waiting : s.queuePair.work.receives = request :: later) :
    Delivery s [] [s.report request .receiveWithImmediate .success length immediate]
      ((s.withWork { s.queuePair.work with receives := later }).complete
        request .receiveWithImmediate .success length immediate) := by
  obtain ⟨hsend, hreceive, hloss⟩ := s.report_of_consumed request length immediate
  have alive : ¬ (s.queuePair.state = .error ∧ s.queuePair.link.isSome = true) := by
    rintro ⟨he, hl⟩
    have := (h.flushed he hl).2
    rw [waiting] at this
    cases this
  refine ⟨rfl, h.numbered.sublist (List.Sublist.refl _), ?_, ?_, ?_, ?_, ?_, id,
    fun he hl => absurd ⟨he, hl⟩ alive⟩
  · simpa using h.room
  · show s.queuePair.work.outstanding.length + later.length + 1 = _
    rw [waiting]
    simp only [List.length_cons, List.length_nil]
    omega
  · show (s.queuePair.work.sends).Perm (s.queuePair.work.sends ++ _)
    rw [List.filterMap_cons, hsend, List.filterMap_nil, List.append_nil]
  · show (s.queuePair.work.receives).Perm (later ++ _)
    rw [List.filterMap_cons, hreceive, waiting]
    exact (List.perm_append_singleton _ _).symm
  · intro c hc
    rw [List.mem_singleton.mp hc]
    exact ⟨Or.inr (by rw [hreceive]; rfl), hloss⟩

theorem Balanced.hold (h : Balanced accepted taken s) (held : HeldImmediate) :
    Delivery s [] [] (s.withWork
      { s.queuePair.work with held := s.queuePair.work.held ++ [held] }) :=
  ⟨rfl, h.numbered.sublist (List.Sublist.refl _), h.room, rfl, by simp [withWork, Work.sends],
    by simp [withWork], by simp, id, h.flushed⟩

/-- Nothing waits and the loss of the link is reported, or counted as dropped. -/
theorem Balanced.lose (h : Balanced accepted taken s) (alive : s.queuePair.state ≠ .error)
    (idle : s.flushReports = []) :
    Balanced accepted taken
      { s with
        queuePair := { s.queuePair with state := .error, work := Work.none }
        completions := s.completions.push s.lossReport } := by
  obtain ⟨hsend, hreceive, hloss⟩ := s.lossReport_counts
  obtain ⟨kept, hlist, hkept, hcount, hsize⟩ :=
    s.completions.push_keeps s.lossReport (by have := h.room; unfold load at this; omega)
  have hlen := s.flushReports_length
  rw [idle, List.length_nil] at hlen
  have hout : s.queuePair.work.outstanding = [] := List.length_eq_zero_iff.mp (by omega)
  have hrec : s.queuePair.work.receives = [] := List.length_eq_zero_iff.mp (by omega)
  refine ⟨Work.numbered_none _, ?_, ?_, ?_, ?_, ?_, fun _ _ => ⟨rfl, rfl⟩⟩
  · simpa only [load, Work.none, List.length_nil, Nat.zero_add, CompletionQueue.depth_push]
      using hsize
  · have none : kept.filterMap Completion.asSend? = [] :=
      List.filterMap_eq_nil_iff.mpr fun c hc => by rw [hkept c hc]; exact hsend
    have hold := h.sent
    rw [Work.sends, hout] at hold
    simp only [hlist, ← List.append_assoc, List.filterMap_append, none, List.append_nil] at hold ⊢
    exact hold
  · have none : kept.filterMap Completion.asReceive? = [] :=
      List.filterMap_eq_nil_iff.mpr fun c hc => by rw [hkept c hc]; exact hreceive
    have hold := h.awaited
    rw [hrec] at hold
    simp only [hlist, ← List.append_assoc, List.filterMap_append, none, List.append_nil] at hold ⊢
    exact hold
  · intro c hc
    simp only [hlist, ← List.append_assoc] at hc
    rcases List.mem_append.mp hc with hc | hc
    · exact h.known c hc
    · rw [hkept c hc]; exact Or.inr (Or.inr hloss)
  · have hold := h.losses
    rw [if_neg alive] at hold
    have := List.countP_le_length (p := Completion.isLoss) (l := kept)
    simp only [hlist, ← List.append_assoc, List.countP_append, if_true] at hold ⊢
    omega

/-- Everything that waits is flushed. -/
theorem Balanced.flush (h : Balanced accepted taken s) (alive : s.queuePair.state ≠ .error) :
    Delivery s [] s.flushReports
      { s with
        queuePair := { s.queuePair with state := .error, work := Work.none }
        completions := s.flushReports.foldl CompletionQueue.push s.completions } := by
  refine ⟨rfl, Work.numbered_none _, ?_, ?_, ?_, ?_, ?_, fun he => absurd he alive,
    fun _ _ => ⟨rfl, rfl⟩⟩
  · simpa using h.room
  · show 0 + 0 + s.flushReports.length = _
    rw [s.flushReports_length, List.length_nil]
    omega
  · rw [s.flushReports_sends h.numbered.sends]
    exact List.Perm.refl _
  · rw [s.flushReports_receives h.numbered.sends]
    exact List.Perm.refl _
  · intro c hc
    rcases List.mem_append.mp hc with hc | hc
    · obtain ⟨entry, he, rfl⟩ := List.mem_map.mp hc
      obtain ⟨hsend, -, hloss⟩ := report_of_send (h.numbered.sends entry he) s entry.2.request
        .flushed 0 none
      exact ⟨Or.inl (by rw [hsend]; rfl), hloss⟩
    · obtain ⟨request, -, rfl⟩ := List.mem_map.mp hc
      obtain ⟨-, hreceive, hloss⟩ := s.report_of_flushed request
      exact ⟨Or.inr (by rw [hreceive]; rfl), hloss⟩

theorem Balanced.post (h : Balanced accepted taken s) (pending : PendingSend)
    (ready : s.queuePair.state = .readyToSend) (room : s.load < s.completions.depth)
    (isSend : pending.operation.isSend = true)
    (sink : pending.sink.isSome = true → pending.operation = .read) :
    Delivery s [.send pending.request pending.operation] [] (s.withPosted pending) := by
  have alive : s.queuePair.state ≠ .error := by rw [ready]; decide
  refine ⟨rfl, h.numbered.posted isSend sink, room, ?_, ?_, ?_, by simp, id,
    fun he => absurd he alive⟩
  · show (s.queuePair.work.outstanding ++ [(s.queuePair.nextSequence, pending)]).length +
        s.queuePair.work.receives.length + 0 = _
    simp only [List.length_append, List.length_singleton]
    omega
  · show ((pending.request, pending.operation) :: s.queuePair.work.sends).Perm
      ((s.queuePair.work.outstanding ++ [(s.queuePair.nextSequence, pending)]).map _ ++ [])
    rw [List.append_nil, List.map_append]
    exact (List.perm_append_singleton _ _).symm
  · show (s.queuePair.work.receives).Perm (s.queuePair.work.receives ++ [])
    rw [List.append_nil]

theorem Balanced.await (h : Balanced accepted taken s) (request : UInt64)
    (alive : s.queuePair.state ≠ .error) (room : s.load < s.completions.depth) :
    Delivery s [.receive request] [] (s.withWork
      { s.queuePair.work with receives := s.queuePair.work.receives ++ [request] }) := by
  refine ⟨rfl, h.numbered.sublist (List.Sublist.refl _), room, ?_, ?_, ?_, by simp, id,
    fun he => absurd he alive⟩
  · show s.queuePair.work.outstanding.length + (s.queuePair.work.receives ++ [request]).length +
        0 = _
    simp only [List.length_append, List.length_singleton]
    omega
  · show (s.queuePair.work.sends).Perm (s.queuePair.work.sends ++ [])
    rw [List.append_nil]
  · show (request :: s.queuePair.work.receives).Perm (s.queuePair.work.receives ++ [request] ++ [])
    rw [List.append_nil]
    exact (List.perm_append_singleton _ _).symm

theorem Balanced.meet (h : Balanced accepted taken s) (request : UInt64)
    (alive : s.queuePair.state ≠ .error) (room : s.load < s.completions.depth)
    (held : HeldImmediate) (later : List HeldImmediate) :
    Delivery s [.receive request]
      [s.report request .receiveWithImmediate .success held.length (some held.immediate)]
      ((s.withWork { s.queuePair.work with held := later }).complete request
        .receiveWithImmediate .success held.length (some held.immediate)) := by
  obtain ⟨hsend, hreceive, hloss⟩ :=
    s.report_of_consumed request held.length (some held.immediate)
  refine ⟨rfl, h.numbered.sublist (List.Sublist.refl _), room, rfl, ?_, ?_, ?_, id,
    fun he => absurd he alive⟩
  · show (s.queuePair.work.sends).Perm (s.queuePair.work.sends ++ _)
    rw [List.filterMap_cons, hsend, List.filterMap_nil, List.append_nil]
  · show (request :: s.queuePair.work.receives).Perm (s.queuePair.work.receives ++ _)
    rw [List.filterMap_cons, hreceive]
    exact (List.perm_append_singleton _ _).symm
  · intro c hc
    rw [List.mem_singleton.mp hc]
    exact ⟨Or.inr (by rw [hreceive]; rfl), hloss⟩

/-- A move delivers completions of requests, or it ends the queue pair while nothing waits, and
then it reports the loss of the link. -/
theorem Balanced.outcome (h : Balanced accepted taken s) (m : Move s more t) :
    (∃ completed, Delivery s more completed t) ∨
      (more = [] ∧ s.queuePair.state ≠ .error ∧ s.flushReports = [] ∧ t = { s with
        queuePair := { s.queuePair with state := .error, work := Work.none }
        completions := s.completions.push s.lossReport }) := by
  cases m with
  | quiet same => exact Or.inl ⟨_, h.alike same⟩
  | finish status length posted => exact Or.inl ⟨_, h.finish status length posted⟩
  | consume length immediate waiting => exact Or.inl ⟨_, h.consume length immediate waiting⟩
  | hold held _ => exact Or.inl ⟨_, h.hold held⟩
  | fail =>
    by_cases failed : s.queuePair.state = .error
    · rw [Station.fail, if_pos failed]
      exact Or.inl ⟨_, h.alike (Alike.refl _)⟩
    · by_cases idle : s.flushReports = []
      · exact Or.inr ⟨rfl, failed, idle, fail_of_idle failed idle⟩
      · rw [fail_of_posted failed idle]
        exact Or.inl ⟨_, h.flush failed⟩
  | post pending ready room isSend sink => exact Or.inl ⟨_, h.post pending ready room isSend sink⟩
  | await request alive room _ => exact Or.inl ⟨_, h.await request alive room⟩
  | meet request alive room _ => exact Or.inl ⟨_, h.meet request alive room _ _⟩

/-- Every move keeps the sum. -/
theorem Balanced.move (h : Balanced accepted taken s) (m : Move s more t) :
    Balanced (accepted ++ more) taken t := by
  rcases h.outcome m with ⟨completed, d⟩ | ⟨rfl, alive, idle, rfl⟩
  · exact h.deliver d
  · rw [List.append_nil]
    exact h.lose alive idle

theorem Balanced.moves (h : Balanced accepted taken s) (m : Moves s more t) :
    Balanced (accepted ++ more) taken t := by
  induction m with
  | refl => rw [List.append_nil]; exact h
  | step _ last ih => rw [← List.append_assoc]; exact ih.move last

/-! ## Events -/

/-- A poll moves completions from the queue to its caller. -/
theorem Balanced.poll (h : Balanced accepted taken s) (most : Nat) :
    Balanced accepted (taken ++ (s.completions.poll most).1)
      { s with completions := (s.completions.poll most).2 } := by
  have same : taken ++ (s.completions.poll most).1 ++ (s.completions.poll most).2.toList =
      taken ++ s.completions.toList := by
    rw [List.append_assoc, CompletionQueue.toList_poll]
  have less : (s.completions.poll most).2.size ≤ s.completions.size := by
    have := congrArg List.length (CompletionQueue.toList_poll s.completions most)
    rw [List.length_append] at this
    rw [CompletionQueue.size_eq_length, CompletionQueue.size_eq_length]
    omega
  refine ⟨h.numbered, ?_, ?_, ?_, ?_, ?_, h.flushed⟩
  · exact Nat.le_trans (Nat.add_le_add_left less _) h.room
  · rw [same]; exact h.sent
  · rw [same]; exact h.awaited
  · rw [same]; exact h.known
  · rw [same]; exact h.losses

/-- A call that sets the queue pair up keeps the sum: it fails only while there is no link. -/
theorem Balanced.setUp (h : Balanced accepted taken s) (linked : s.Linked) {queuePair : QueuePair}
    (set : s.queuePair.SetUp queuePair) :
    Balanced accepted taken { s with queuePair := queuePair } := by
  have hloss := h.losses
  rw [if_neg set.alive] at hloss
  refine ⟨?_, ?_, ?_, ?_, h.known, Nat.le_trans hloss (Nat.zero_le _), ?_⟩
  · simp only [set.work, set.numbering]; exact h.numbered
  · simpa only [load, set.work] using h.room
  · simp only [set.work]; exact h.sent
  · simp only [set.work]; exact h.awaited
  · intro he hl
    rcases set.link with ⟨hs, hsame, -, -⟩ | ⟨-, hs | hs⟩
    · simp only [hsame, linked.early hs] at hl
      cases hl
    · rw [hs] at he; cases he
    · rw [hs] at he; cases he

end Station

namespace History

/-- What holds of every history. -/
structure Kept (h : History) : Prop where
  balanced : h.station.Balanced h.accepted h.taken
  linked : h.station.Linked

theorem kept_fresh (address : QueuePairAddress) (linkTimeout : Milliseconds) (depth : Nat)
    (memory : Memory) : Kept (fresh address linkTimeout depth memory) := by
  refine ⟨⟨Work.numbered_none _, Nat.zero_le _, List.Perm.refl _, List.Perm.refl _, ?_, ?_, ?_⟩,
    ⟨fun _ => rfl, ?_⟩⟩
  · intro c hc; cases hc
  · exact Nat.le_refl 0
  · intro he; cases he
  · rintro (he | he) <;> cases he

/-- One event keeps it. -/
theorem Kept.step {h : History} (kept : Kept h) (event : QueuePairEvent) :
    Kept (h.step event) := by
  obtain ⟨balanced, linked⟩ := kept
  rcases after_cases h.station event with ⟨queuePair, set, heq, hacc, htake⟩ | ⟨most, rfl⟩ |
    ⟨m, htake⟩
  · refine ⟨?_, ?_⟩
    · simp only [History.step, heq, hacc, htake, List.append_nil]
      exact balanced.setUp linked set
    · simp only [History.step, heq]
      exact linked.of_setUp set
  · refine ⟨?_, ⟨linked.early, linked.late⟩⟩
    simp only [History.step, accepts, List.append_nil]
    exact balanced.poll most
  · refine ⟨?_, linked.of_moves m⟩
    simp only [History.step, htake, List.append_nil]
    exact balanced.moves m

/-- Every history of a fresh queue pair keeps it. -/
theorem kept_run (address : QueuePairAddress) (linkTimeout : Milliseconds) (depth : Nat)
    (memory : Memory) (events : List QueuePairEvent) :
    Kept ((fresh address linkTimeout depth memory).run events) :=
  run_induction (kept_fresh address linkTimeout depth memory) (fun _ event kept => kept.step event)
    events

end History

end RdmaLink
