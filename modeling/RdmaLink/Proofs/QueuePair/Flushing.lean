import RdmaLink.Proofs.QueuePair.Failure
import RdmaLink.Proofs.QueuePair.Matching

/-!
# What a failure flushes

When an event that nothing interrupts fails a linked queue pair, everything that was posted is
completed: the sends in the order of their numbers, then the receives in the order in which they
were posted.  Before that there may be one completion that belongs to the event itself: the send
whose frame the link refused, or the receive whose write could not be acknowledged.

    s.Leaves event early waiting                            before the flush, and left to it
    t.completions = (early ++ s.failReports waiting) pushed one after the other
                                                                   (Station.flushes_after)
-/

namespace RdmaLink

/-- Without the send posted last, the work is what it was. -/
theorem Work.Numbered.withoutSend_posted {next : Nat} {work : Work} (numbered : work.Numbered next)
    (pending : PendingSend) :
    Work.withoutSend { work with outstanding := work.outstanding ++ [(next, pending)] } next =
      work := by
  have others : work.outstanding.filter (fun entry => entry.1 != next) = work.outstanding := by
    refine List.filter_eq_self.mpr fun entry listed => ?_
    have below := numbered.below entry listed
    simp only [bne_iff_ne]
    omega
  simp [Work.withoutSend, List.filter_append, others]

/-- The send posted last is found under its number. -/
theorem Work.Numbered.send?_posted {next : Nat} {work : Work} (numbered : work.Numbered next)
    (pending : PendingSend) :
    Work.send? { work with outstanding := work.outstanding ++ [(next, pending)] } next =
      some pending := by
  have absent : work.outstanding.lookup next = Option.none := by
    refine List.lookup_eq_none_iff.mpr fun entry listed => ?_
    have below := numbered.below entry listed
    simp only [bne_iff_ne]
    omega
  simp [Work.send?, List.lookup_append, absent]

namespace Station

/-! ## The flush -/

/-- The completions that flush some work: the sends in the order of their numbers, then the receives
in posting order. -/
def flushOf (s : Station) (waiting : Work) : List Completion :=
  waiting.outstanding.map (fun entry =>
    s.report entry.2.request entry.2.operation .flushed 0 none) ++
  waiting.receives.map fun request => s.report request .receive .flushed 0 none

/-- What a queue pair reports that fails with some work left: each request as flushed, or the loss
of the link if there is none. -/
def failReports (s : Station) (waiting : Work) : List Completion :=
  if (s.flushOf waiting).isEmpty then [s.lossReport] else s.flushOf waiting

/-- A queue pair fails: some completions come first, and then the work that is left is flushed. -/
structure Flushes (s : Station) (early : List Completion) (waiting : Work) (t : Station) :
    Prop where
  work : t.queuePair.work = Work.none
  completions : t.completions =
    (early ++ s.failReports waiting).foldl CompletionQueue.push s.completions

variable {s t u : Station} {early : List Completion} {waiting : Work}

theorem flushes_fail (alive : s.queuePair.state ≠ .error) :
    Flushes s [] s.queuePair.work s.fail := by
  rw [fail, if_neg alive]
  exact ⟨rfl, rfl⟩

theorem flushes_breakOff (alive : s.queuePair.state ≠ .error) :
    Flushes s [] s.queuePair.work s.breakOff :=
  ⟨(flushes_fail alive).work, (flushes_fail alive).completions⟩

/-- What was completed on the way to a failure comes first. -/
theorem Flushes.after (first : List Completion) (flushes : Flushes u early waiting t)
    (address : u.queuePair.address = s.queuePair.address)
    (completions : u.completions = first.foldl CompletionQueue.push s.completions) :
    Flushes s (first ++ early) waiting t := by
  have loss : u.lossReport = s.lossReport := by
    simp only [lossReport, report, address]
  have flushed : u.flushOf waiting = s.flushOf waiting := by
    simp only [flushOf, report, address]
  have reports : u.failReports waiting = s.failReports waiting := by
    simp only [failReports, loss, flushed]
  refine ⟨flushes.work, ?_⟩
  rw [flushes.completions, reports, completions, List.append_assoc, ← List.foldl_append]

/-- A frame that the link refuses fails the queue pair with the work that it has. -/
theorem Flushes.of_transmit {header : Header} {payload : Bytes} {e : IoError}
    (tried : s.transmit header payload = (.error e, u))
    (flushes : Flushes u [] u.queuePair.work t) : Flushes s [] s.queuePair.work t := by
  obtain ⟨alike, address⟩ := alike_of_transmit tried
  rw [alike.work] at flushes
  exact flushes.after [] address alike.completions

theorem flushes_respond {header : Header} {payload : Bytes} (alive : s.queuePair.state ≠ .error)
    (failed : (s.respond header payload).queuePair.state = .error) :
    Flushes s [] s.queuePair.work (s.respond header payload) := by
  unfold respond at failed ⊢
  split at failed
  · next sent tried =>
    exact absurd ((alike_of_transmit tried).1.state.symm.trans failed) alive
  · next e refused tried =>
    have still : refused.queuePair.state ≠ .error := (alike_of_transmit tried).1.state ▸ alive
    exact (flushes_breakOff still).of_transmit tried

theorem flushes_confirm {sequence : UInt64} (alive : s.queuePair.state ≠ .error)
    (failed : (s.confirm sequence).queuePair.state = .error) :
    Flushes s [] s.queuePair.work (s.confirm sequence) := by
  unfold confirm at failed ⊢
  split at failed
  · next sent tried =>
    exact absurd ((alike_of_transmit tried).1.state.symm.trans failed) alive
  · next e refused tried =>
    have still : refused.queuePair.state ≠ .error := (alike_of_transmit tried).1.state ▸ alive
    exact (flushes_fail still).of_transmit tried

theorem flushes_sendLost {sequence : Nat} {pending : PendingSend}
    (alive : s.queuePair.state ≠ .error)
    (posted : s.queuePair.work.send? sequence = some pending) :
    Flushes s [s.report pending.request pending.operation .linkLost 0 none]
      (s.queuePair.work.withoutSend sequence) (s.sendLost sequence) := by
  rw [sendLost_eq, posted]
  have flushed := flushes_fail (s := (s.withWork (s.queuePair.work.withoutSend sequence)).complete
    pending.request pending.operation .linkLost 0 none) alive
  exact Flushes.after [_] ⟨flushed.work, flushed.completions⟩ rfl rfl

/-! ## Frames -/

/-- A frame completes the receive that has waited longest, or none. -/
inductive Consumes (s : Station) : List Completion → Work → Prop
  | nothing : Consumes s [] s.queuePair.work
  | oldest {request : UInt64} {later : List UInt64} (length : UInt32) (immediate : Option UInt32)
      (waiting : s.queuePair.work.receives = request :: later) :
      Consumes s [s.report request .receiveWithImmediate .success length immediate]
        { s.queuePair.work with receives := later }

/-- A frame fails a queue pair that was alive. -/
def FailsByFrame (s t : Station) : Prop :=
  s.queuePair.state ≠ .error → t.queuePair.state = .error →
    ∃ early waiting, Consumes s early waiting ∧ Flushes s early waiting t

theorem failsByFrame_of_state (same : t.queuePair.state = s.queuePair.state) : FailsByFrame s t :=
  fun alive failed => absurd (same.symm.trans failed) alive

theorem failsByFrame_respond (s : Station) (header : Header) (payload : Bytes) :
    FailsByFrame s (s.respond header payload) :=
  fun alive failed => ⟨_, _, .nothing, flushes_respond alive failed⟩

/-- Memory and intake do not matter. -/
theorem FailsByFrame.of_same (fails : FailsByFrame u t)
    (state : u.queuePair.state = s.queuePair.state) (work : u.queuePair.work = s.queuePair.work)
    (address : u.queuePair.address = s.queuePair.address)
    (completions : u.completions = s.completions) : FailsByFrame s t := by
  intro alive failed
  obtain ⟨early, waiting, consumes, flushes⟩ := fails (state ▸ alive) failed
  refine ⟨early, waiting, ?_, flushes.after [] address completions⟩
  cases consumes with
  | nothing => rw [work]; exact .nothing
  | oldest length immediate waiting =>
    rw [work] at waiting ⊢
    simp only [report, address]
    exact .oldest length immediate waiting

theorem failsByFrame_written (s : Station) (header : Header) :
    FailsByFrame s (s.written header) := by
  unfold written
  split
  · exact failsByFrame_respond s _ _
  · dsimp only
    split
    · next request later waiting =>
      intro alive failed
      exact ⟨_, _, .oldest header.length (some header.immediate) waiting,
        Flushes.after [_] (flushes_respond (by exact alive) failed) rfl rfl⟩
    · exact failsByFrame_of_state rfl

theorem state_readAnswered (s : Station) (header : Header) (payload : Option Bytes) :
    (s.readAnswered header payload).queuePair.state = s.queuePair.state := by
  unfold readAnswered
  dsimp only
  repeat' split
  all_goals rfl

theorem state_acknowledged (s : Station) (header : Header) :
    (s.acknowledged header).queuePair.state = s.queuePair.state := by
  unfold acknowledged
  dsimp only
  split <;> rfl

theorem failsByFrame_takePayload (s : Station) (header : Header) (disposal : Disposal)
    (payload : Bytes) : FailsByFrame s (s.takePayload header disposal payload) := by
  cases disposal with
  | store region offset =>
    simp only [takePayload]
    split
    · next memory _ =>
      exact (failsByFrame_written { s with memory := memory } header).of_same rfl rfl rfl rfl
    · exact failsByFrame_respond s _ _
  | refuse => exact failsByFrame_respond s _ _
  | answer => exact failsByFrame_of_state (state_readAnswered _ _ _)
  | unwanted => exact failsByFrame_of_state (state_readAnswered _ _ _)

theorem failsByFrame_takeBare (registrations : Registrations) (s : Station) (header : Header) :
    FailsByFrame s (s.takeBare registrations header) := by
  unfold takeBare
  split
  · unfold answerRead
    dsimp only
    split <;> exact failsByFrame_respond s _ _
  · split
    · exact failsByFrame_of_state (state_readAnswered _ _ _)
    · split
      · exact failsByFrame_of_state (state_acknowledged _ _)
      · exact fun alive _ => ⟨_, _, .nothing, flushes_breakOff alive⟩

theorem failsByFrame_handle (registrations : Registrations) (s : Station) (arrival : Arrival) :
    FailsByFrame s (s.handle registrations arrival) := by
  unfold handle
  split
  · exact failsByFrame_takePayload s _ _ _
  · exact failsByFrame_takeBare registrations s _

theorem failsByFrame_feed (registrations : Registrations) (s : Station) (byte : UInt8) :
    FailsByFrame s (s.feed registrations byte) := by
  cases arrived : s.arrival? registrations byte with
  | none =>
    rw [feed_of_no_arrival arrived]
    exact failsByFrame_of_state rfl
  | some arrival =>
    rw [feed_of_arrival arrived]
    exact (failsByFrame_handle registrations (s.withIntake (some (.header []))) arrival).of_same
      rfl rfl rfl rfl

/-! ## Events -/

/-- What an event that fails the queue pair completes before the flush, and the work that it leaves
to the flush. -/
inductive Leaves (s : Station) : QueuePairEvent → List Completion → Work → Prop
  /-- The send whose frame the link refused is lost. -/
  | send (registrations : Registrations) (send : SendRequest)
      (room : s.load < s.completions.depth) :
      Leaves s (.postSend registrations send)
        [s.report send.request send.operation.operation .linkLost 0 none] s.queuePair.work
  /-- The receive has met a held write, whose acknowledgement the link refused. -/
  | meet (request : UInt64) {held : HeldImmediate} {later : List HeldImmediate}
      (room : s.load < s.completions.depth) (oldest : s.queuePair.work.held = held :: later) :
      Leaves s (.postReceive request)
        [s.report request .receiveWithImmediate .success held.length (some held.immediate)]
        { s.queuePair.work with held := later }
  | frame (registrations : Registrations) (byte : UInt8) {early : List Completion}
      {waiting : Work} (consumes : Consumes s early waiting) :
      Leaves s (.receive registrations byte) early waiting
  | ending : Leaves s .endOfStream [] s.queuePair.work

theorem flushes_postSend {registrations : Registrations} {send : SendRequest}
    (numbered : s.queuePair.work.Numbered s.queuePair.nextSequence)
    (alive : s.queuePair.state ≠ .error)
    (failed : (s.postSend registrations send).2.queuePair.state = .error) :
    ∃ early waiting, s.Leaves (.postSend registrations send) early waiting ∧
      Flushes s early waiting (s.postSend registrations send).2 := by
  rcases s.postSend_cases registrations send with ⟨e, h⟩ | ⟨e, h⟩ |
    ⟨registration, offset, frame, pending, -, room, -, -, framed, h⟩
  · rw [h] at failed
    exact absurd failed alive
  · rw [h] at failed
    exact absurd failed alive
  · refine ⟨_, _, .send registrations send room, ?_⟩
    rw [h] at failed ⊢
    obtain ⟨request, operation, -⟩ := sendFrame_pending framed
    unfold launch at failed ⊢
    split at failed
    · next sent tried =>
      exact absurd ((alike_of_transmit tried).1.state.symm.trans failed) alive
    · next e lost tried =>
      obtain ⟨alike, address⟩ := alike_of_transmit tried
      have still : lost.queuePair.state ≠ .error := by
        rw [alike.state]
        exact alive
      have found : lost.queuePair.work.send? s.queuePair.nextSequence = some pending := by
        rw [alike.work]
        exact numbered.send?_posted pending
      have left : lost.queuePair.work.withoutSend s.queuePair.nextSequence =
          s.queuePair.work := by
        rw [alike.work]
        exact numbered.withoutSend_posted pending
      have flushed := flushes_sendLost still found
      rw [left, request, operation, report, address] at flushed
      exact Flushes.after [] flushed address alike.completions

theorem flushes_postReceive {request : UInt64} (alive : s.queuePair.state ≠ .error)
    (failed : (s.postReceive request).2.queuePair.state = .error) :
    ∃ early waiting, s.Leaves (.postReceive request) early waiting ∧
      Flushes s early waiting (s.postReceive request).2 := by
  rcases s.postReceive_cases request with ⟨e, h⟩ | ⟨-, -, -, h⟩ |
    ⟨held, later, -, room, oldest, h⟩
  · rw [h] at failed
    exact absurd failed alive
  · rw [h] at failed
    exact absurd failed alive
  · refine ⟨_, _, .meet request room oldest, ?_⟩
    rw [h] at failed ⊢
    exact Flushes.after [_] (flushes_confirm (by exact alive) failed) rfl rfl

/-- Whatever fails a queue pair, except for an attempt to link it, flushes what is left. -/
theorem flushes_after (numbered : s.queuePair.work.Numbered s.queuePair.nextSequence)
    {event : QueuePairEvent} (linked : ∀ peer ip conditions, event ≠ .link peer ip conditions)
    (alive : s.queuePair.state ≠ .error) (failed : (s.after event).queuePair.state = .error) :
    ∃ early waiting, s.Leaves event early waiting ∧ Flushes s early waiting (s.after event) := by
  cases event with
  | toInit access =>
    simp only [after] at failed
    cases initialized : s.queuePair.toInit access with
    | error e => rw [initialized] at failed; exact absurd failed alive
    | ok q =>
      obtain ⟨-, rfl⟩ := QueuePair.toInit_eq_ok initialized
      rw [initialized] at failed
      cases failed
  | attach stream =>
    simp only [after] at failed
    cases attached : s.queuePair.attach stream with
    | error e => rw [attached] at failed; exact absurd failed alive
    | ok q =>
      obtain ⟨-, rfl⟩ := QueuePair.attach_eq_ok attached
      rw [attached] at failed
      exact absurd failed alive
  | link peer ip conditions => exact absurd rfl (linked peer ip conditions)
  | start =>
    simp only [after] at failed
    cases started : s.queuePair.toReadyToSend with
    | error e => rw [started] at failed; exact absurd failed alive
    | ok q =>
      obtain ⟨-, -, rfl⟩ := QueuePair.toReadyToSend_eq_ok started
      rw [started] at failed
      cases failed
  | postSend registrations send => exact flushes_postSend numbered alive failed
  | postReceive request => exact flushes_postReceive alive failed
  | receive registrations byte =>
    obtain ⟨early, waiting, consumes, flushes⟩ :=
      failsByFrame_feed registrations s byte alive failed
    exact ⟨early, waiting, .frame registrations byte consumes, flushes⟩
  | endOfStream =>
    simp only [after, endOfStream] at failed ⊢
    split at failed
    · exact absurd failed alive
    · exact ⟨_, _, .ending, flushes_breakOff alive⟩
  | poll most => exact absurd failed alive
  | remember memory => exact absurd failed alive

/-! ## Room for the flush -/

theorem length_flushOf (s : Station) (waiting : Work) :
    (s.flushOf waiting).length = waiting.outstanding.length + waiting.receives.length := by
  simp [flushOf]

/-- There is room for all that an event completes before the flush and for all that is flushed. -/
theorem Leaves.room {event : QueuePairEvent} (leaves : s.Leaves event early waiting)
    (fits : s.load ≤ s.completions.depth) :
    s.completions.size + (early ++ s.flushOf waiting).length ≤ s.completions.depth := by
  rw [List.length_append, length_flushOf]
  unfold load at fits
  cases leaves with
  | send registrations send room =>
    unfold load at room
    rw [List.length_singleton]
    omega
  | meet request room oldest =>
    unfold load at room
    rw [List.length_singleton]
    dsimp only
    omega
  | frame registrations byte consumes =>
    cases consumes with
    | nothing =>
      rw [List.length_nil]
      omega
    | oldest length immediate waiting =>
      rw [waiting, List.length_cons] at fits
      rw [List.length_singleton]
      dsimp only
      omega
  | ending =>
    rw [List.length_nil]
    omega

/-- The completion queue holds, behind what it held, the completions that came first and those of
the flush.  Only where nothing was left to flush there comes the loss of the link instead, and that
may have been dropped. -/
structure Flushed (s : Station) (early : List Completion) (waiting : Work) (t : Station) :
    Prop where
  work : t.queuePair.work = Work.none
  reported : s.flushOf waiting ≠ [] →
    t.completions.toList = s.completions.toList ++ early ++ s.flushOf waiting ∧
      t.completions.overruns = s.completions.overruns
  lost : s.flushOf waiting = [] →
    ∃ loss, t.completions.toList = s.completions.toList ++ early ++ loss ∧
      ∀ c ∈ loss, c = s.lossReport

theorem Flushes.flushed (flushes : Flushes s early waiting t)
    (room : s.completions.size + (early ++ s.flushOf waiting).length ≤ s.completions.depth) :
    Flushed s early waiting t := by
  have pushed := flushes.completions
  unfold failReports at pushed
  refine ⟨flushes.work, fun posted => ?_, fun idle => ?_⟩
  · rw [if_neg (by simpa using posted)] at pushed
    obtain ⟨held, undropped, -⟩ := CompletionQueue.foldl_push_of_room _ room
    rw [pushed, held, List.append_assoc]
    exact ⟨rfl, undropped⟩
  · rw [idle, List.append_nil] at room
    rw [if_pos (by simp [idle]), List.foldl_append, List.foldl_cons, List.foldl_nil] at pushed
    obtain ⟨held, -, deep⟩ := CompletionQueue.foldl_push_of_room _ room
    have fits : (early.foldl CompletionQueue.push s.completions).size ≤
        (early.foldl CompletionQueue.push s.completions).depth := by
      rw [CompletionQueue.size_eq_length, held, List.length_append, deep,
        ← CompletionQueue.size_eq_length]
      exact room
    obtain ⟨loss, kept, only, -⟩ := CompletionQueue.push_keeps _ s.lossReport fits
    exact ⟨loss, by rw [pushed, kept, held], only⟩

/-! ## The order of what waits -/

/-- An event leaves the sends to the flush, and of the receives all but those waiting longest. -/
theorem Leaves.order {event : QueuePairEvent} (leaves : s.Leaves event early waiting) :
    waiting.outstanding = s.queuePair.work.outstanding ∧
      waiting.receives <:+ s.queuePair.work.receives := by
  cases leaves with
  | frame registrations byte consumes =>
    cases consumes with
    | nothing => exact ⟨rfl, List.suffix_refl _⟩
    | oldest length immediate waiting =>
      rw [waiting]
      exact ⟨rfl, List.suffix_cons _ _⟩
  | _ => exact ⟨rfl, List.suffix_refl _⟩

end Station

end RdmaLink
