import RdmaLink.Proofs.QueuePair.Flushing
import RdmaLink.Proofs.Threads.Inertia

/-!
# What a failure flushes, between two threads

A thread that fails the queue pair sets the state first and flushes the work in its next step.  What
is entered in between is flushed as well; what is entered after it stays
(`Ledger.late_request_is_stranded`).  An attempt to link that fails sets the state only.

    a step that sets the state, and what it leaves alone                       (Threads.Fails)
    told after a flush = told before it, then s.failReports work         (Ledger.flush_step)

Where nothing interrupts an event that fails the queue pair, what belongs to the event itself comes
first: the send whose frame the link refused is reported before those that are flushed.
-/

namespace RdmaLink

/-- Whether a call can be in progress before there is a link. -/
def Action.early : Action → Bool
  | .idle | .awaiting _ | .meeting _ | .joining => true
  | _ => false

namespace Threads

variable {t : Threads}

/-! ## Before the link -/

/-- Whether the queue pair has not been linked yet. -/
def Early (t : Threads) : Prop :=
  t.station.queuePair.state = .reset ∨ t.station.queuePair.state = .init

/-- No send is posted and no write is held. -/
structure Bare (t : Threads) : Prop where
  sends : t.station.queuePair.work.outstanding = []
  held : t.station.queuePair.work.held = []
  action : t.action.early = true

theorem Turns.early {event : ThreadEvent} {t' : Threads} (turns : Turns t event t')
    (early : t'.Early) : t.Early := by
  cases turns with
  | stays state => rwa [Early, state] at early
  | init before now => exact Or.inl before
  | link before now => exact Or.inr before
  | unlinked before => exact Or.inr before
  | _ => rcases early with early | early <;> cases early

theorem Bare.of_same (bare : t.Bare) {t' : Threads}
    (work : t'.station.queuePair.work = t.station.queuePair.work)
    (action : t'.action.early = true) : t'.Bare :=
  ⟨by rw [work]; exact bare.sends, by rw [work]; exact bare.held, action⟩

theorem work_advance {result : Except DeviceError QueuePair}
    (kept : ∀ q, result = .ok q → t.station.queuePair.SetUp q) :
    (t.station.advance result).queuePair.work = t.station.queuePair.work := by
  cases result with
  | ok q => exact (kept q rfl).work
  | error e => rfl

theorem Bare.begin (bare : t.Bare) (early : t.Early) (call : Call) : (t.begin call).Bare := by
  cases call with
  | toInit access =>
    refine bare.of_same ?_ rfl
    exact work_advance fun q => QueuePair.setUp_toInit
  | attach stream =>
    refine bare.of_same ?_ rfl
    exact work_advance fun q => QueuePair.setUp_attach
  | link peer ip conditions =>
    refine bare.of_same ?_ rfl
    rcases t.station.queuePair.toReadyToReceive_cases peer ip conditions with
      ⟨e, -, h⟩ | ⟨early, ⟨e, tried, h⟩ | ⟨link, h⟩⟩ <;> simp only [Threads.begin, h, returns]
  | start =>
    simp only [Threads.begin]
    split
    · exact bare.of_same rfl rfl
    · next queuePair started =>
      obtain ⟨ready, -⟩ := QueuePair.startReceiving_eq_ok started
      rcases early with early | early <;> rw [ready] at early <;> cases early
  | postSend send =>
    have refused : ∃ e, t.station.queuePair.expect [.readyToSend] "RTS" = .error e := by
      refine ⟨_, if_neg ?_⟩
      rcases early with early | early <;> rw [early] <;> decide
    obtain ⟨e, refused⟩ := refused
    simp only [Threads.begin, refused]
    exact bare.of_same rfl rfl
  | postReceive request =>
    simp only [Threads.begin]
    split <;> exact bare.of_same rfl rfl
  | destroy =>
    simp only [Threads.begin]
    split <;> exact bare.of_same rfl rfl

theorem Bare.proceed (bare : t.Bare) (registrations : Registrations) :
    (t.proceed registrations).Bare := by
  have early := bare.action
  unfold Threads.proceed
  cases action : t.action with
  | idle => exact bare
  | awaiting request =>
    dsimp only
    split <;> exact bare.of_same rfl rfl
  | meeting request =>
    dsimp only
    rw [Station.meet_of_none bare.held]
    exact ⟨bare.sends, bare.held, rfl⟩
  | joining =>
    dsimp only
    split
    · exact bare.of_same rfl rfl
    · exact bare
  | _ =>
    rw [action] at early
    cases early

/-- Before there is a link no send is posted, no write is held, and no call is about to post a
send. -/
theorem bare_step (sound : t.Sound) (bare : t.Early → t.Bare) (event : ThreadEvent)
    (early : (t.step event).Early) : (t.step event).Bare := by
  have before : t.Early := (turns_step t event).early early
  have bare := bare before
  have absent : t.reception = .absent := by
    refine sound.absent ?_ fun starting => ?_
    · exact before.imp_right Or.inl
    · have known := bare.action
      rw [starting] at known
      cases known
  cases event with
  | call call =>
    simp only [step]
    split
    · exact bare.begin before call
    · exact bare
  | proceed registrations => exact bare.proceed registrations
  | advance registrations => simpa only [step, advance, absent] using bare
  | byte byte => simpa only [step, hears, absent] using bare
  | hangUp => simpa [step, absent] using bare
  | poll most => exact bare.of_same rfl bare.action
  | remember memory => exact bare.of_same rfl bare.action

/-! ## The ways to fail -/

/-- A step that fails the queue pair, and what becomes of it. -/
inductive Fails (t : Threads) : ThreadEvent → Threads → Prop
  /-- An attempt to link fails.  Only receives can be posted by then, and they stay. -/
  | link {peer : QueuePairAddress} {ip : IpAddress} {conditions : LinkConditions}
      {answer : Except DeviceError Unit} (early : t.station.queuePair.state = .init)
      (sends : t.station.queuePair.work.outstanding = [])
      (held : t.station.queuePair.work.held = []) :
      Fails t (.call (.link peer ip conditions)) (t.returns answer { t.station with queuePair :=
        { t.station.queuePair with attached := none, state := .error } })
  /-- A post cannot send its frame, and is to flush what is posted. -/
  | call {registrations : Registrations} {shuts : Bool} (failing : t.action = .failing shuts) :
      Fails t (.proceed registrations) (t.goesOn t.station.marked (.flushing shuts))
  /-- The receive thread cannot go on, and is to flush what is posted. -/
  | loss {registrations : Registrations} (failing : t.reception = .failing) :
      Fails t (.advance registrations) (t.receives t.station.marked .flushing)
  | destroy {registrations : Registrations} (joining : t.action = .joining) :
      Fails t (.proceed registrations)
        (t.returns (.ok ()) { t.station with queuePair := t.station.queuePair.retire })

theorem fails_step (bare : t.Early → t.Bare) {event : ThreadEvent} (alive : ¬ t.Failed)
    (failed : (t.step event).Failed) : Fails t event (t.step event) := by
  have turns := turns_step t event
  generalize t.step event = t' at turns failed
  cases turns with
  | stays state => exact absurd (state.symm.trans failed) alive
  | init early now => rw [Failed, now] at failed; cases failed
  | link early now => rw [Failed, now] at failed; cases failed
  | unlinked early =>
    have bare := bare (Or.inr early)
    exact .link early bare.sends bare.held
  | start starting => cases failed
  | fail failing => exact .call failing
  | lose failing => exact .loss failing
  | retire joining => exact .destroy joining

/-- Whether a step flushes what is posted. -/
def Flushing (t : Threads) : ThreadEvent → Prop
  | .proceed _ => ∃ shuts, t.action = .flushing shuts
  | .advance _ => t.reception = .flushing
  | _ => False

/-- A flush leaves nothing waiting, and reports nothing else. -/
theorem flush_step {event : ThreadEvent} (flushing : t.Flushing event) :
    (t.step event).station.queuePair.work = Work.none ∧
      t.reports event = t.station.failReports t.station.queuePair.work ∧ t.enters event = [] := by
  cases event with
  | proceed registrations =>
    obtain ⟨shuts, flushing⟩ := flushing
    refine ⟨?_, ?_, ?_⟩
    · simp only [step, Threads.proceed, flushing]
      cases shuts <;> rfl
    · simp only [reports, flushing]
      rfl
    · simp only [enters, flushing]
  | advance registrations =>
    have flushing : t.reception = .flushing := flushing
    refine ⟨?_, ?_, rfl⟩
    · simp only [step, advance, flushing]
      rfl
    · simp only [reports, flushing]
      rfl
  | _ => exact absurd flushing id

end Threads

namespace Ledger

variable {l : Ledger}

/-- Each request that was entered and is not in the hands of a call has its one completion. -/
structure Accounted (l : Ledger) : Prop where
  sends : (l.accepted.filterMap Request.asSend?).Perm
    (l.threads.action.carried.filterMap Request.asSend? ++ l.told.filterMap Completion.asSend?)
  receives : (l.accepted.filterMap Request.asReceive?).Perm
    (l.threads.action.carried.filterMap Request.asReceive? ++
      l.told.filterMap Completion.asReceive?)

theorem Kept.accounted (kept : l.Kept) (work : l.threads.station.queuePair.work = Work.none) :
    l.Accounted := by
  have sent := kept.sent
  have awaited := kept.awaited
  rw [Threads.owed, work] at sent
  rw [Threads.awaited, work] at awaited
  exact ⟨sent, awaited⟩

theorem bare_run (address : QueuePairAddress) (linkTimeout : Milliseconds) (depth : Nat)
    (memory : Memory) (events : List ThreadEvent) :
    let l := (fresh address linkTimeout depth memory).run events
    l.threads.Early → l.threads.Bare := by
  have start : (fresh address linkTimeout depth memory).threads.Bare := ⟨rfl, rfl, rfl⟩
  have whole := run_induction (P := fun l => l.threads.Sound ∧ (l.threads.Early → l.threads.Bare))
    ⟨Threads.sound_fresh address linkTimeout depth memory, fun _ => start⟩
    (fun l event h => ⟨(Threads.passes_step h.1 event).sound, Threads.bare_step h.1 h.2 event⟩)
    events
  exact whole.2

/-- Where nothing interrupts it, an event that fails the queue pair, other than an attempt to link
it, completes what belongs to it and flushes what is left. -/
theorem Kept.flushes (kept : l.Kept) (rests : l.threads.Rests) {event : QueuePairEvent}
    (other : ∀ peer ip conditions, event ≠ .link peer ip conditions) (alive : ¬ l.threads.Failed)
    (failed : (l.threads.run (Threads.whole event)).Failed) :
    ∃ early waiting, l.threads.station.Leaves event early waiting ∧
      l.threads.station.Flushes early waiting
        (l.threads.run (Threads.whole event)).station ∧
      waiting.outstanding.Pairwise (fun a b => a.1 < b.1) ∧
      waiting.receives <:+ l.accepted.filterMap Request.asReceive? := by
  have sound := kept.sound
  have same := (Threads.whole_uninterrupted rests event).station
  have numbered := sound.numbered
  have limit : l.threads.limit = l.threads.station.queuePair.nextSequence := by
    rw [Threads.limit, rests.idle]
  rw [limit] at numbered
  rw [Threads.Failed, same] at failed
  obtain ⟨early, waiting, leaves, flushes⟩ :=
    Station.flushes_after numbered other alive failed
  obtain ⟨sends, order⟩ := leaves.order
  refine ⟨early, waiting, leaves, ?_, ?_, order.trans kept.order⟩
  · rw [same]
    exact flushes
  · rw [sends]
    exact numbered.ordered

/-- The state is set to the failure by an attempt to link, which leaves the posted receives where
they are, by a call or the receive thread, which then flush what is posted, or by the end of the
queue pair.  A flush completes all that waits, the sends in the order of their numbers and then the
receives in the order in which they were posted, or reports the loss of the link if nothing waits;
nothing is left, and each request that was entered has its one completion, or is in the hands of a
call.  Once a linked queue pair has flushed, at most one request comes to wait.  Where nothing
interrupts the event that fails the queue pair, what belongs to the event comes before the flush,
then each request has its one completion, and they are all in the queue if the load was within its
depth. -/
theorem failures_flush_what_waits (address : QueuePairAddress) (linkTimeout : Milliseconds)
    (depth : Nat) (memory : Memory) (events : List ThreadEvent) :
    let l := (fresh address linkTimeout depth memory).run events
    let t := l.threads
    let s := t.station
    let work := s.queuePair.work
    (∀ event, ¬ t.Failed → (t.step event).Failed → t.Fails event (t.step event)) ∧
      (∀ event, t.Flushing event →
        (t.step event).station.queuePair.work = Work.none ∧
          (l.step event).told = l.told ++ s.failReports work ∧
          work.outstanding.Pairwise (fun a b => a.1 < b.1) ∧
          work.receives <:+ l.accepted.filterMap Request.asReceive? ∧ (l.step event).Accounted) ∧
      (t.Settled → t.waiting + t.action.entries ≤ 1) ∧
      (t.Rests → ∀ event, (∀ peer ip conditions, event ≠ .link peer ip conditions) →
        ¬ t.Failed → (t.run (Threads.whole event)).Failed →
          ∃ early waiting, s.Leaves event early waiting ∧
            s.Flushes early waiting (t.run (Threads.whole event)).station ∧
            (s.load ≤ s.completions.depth →
              s.Flushed early waiting (t.run (Threads.whole event)).station) ∧
            waiting.outstanding.Pairwise (fun a b => a.1 < b.1) ∧
            waiting.receives <:+ l.accepted.filterMap Request.asReceive? ∧
            (l.run (Threads.whole event)).threads.action = .idle ∧
            (l.run (Threads.whole event)).Accounted) := by
  intro l t s work
  have kept : l.Kept := kept_run address linkTimeout depth memory events
  refine ⟨fun event => Threads.fails_step (bare_run address linkTimeout depth memory events),
    fun event flushing => ?_, kept.late, fun rests event other alive failed => ?_⟩
  · obtain ⟨none, reports, -⟩ := Threads.flush_step flushing
    refine ⟨none, ?_, kept.sound.numbered.ordered, kept.order, (kept.step event).accounted none⟩
    exact congrArg (l.told ++ ·) reports
  · obtain ⟨early, waiting, leaves, flushes, sends, order⟩ :=
      kept.flushes rests other alive failed
    have later : (l.run (Threads.whole event)).Kept :=
      run_induction kept (fun _ event kept => kept.step event) _
    refine ⟨early, waiting, leaves, flushes, fun fits => flushes.flushed (leaves.room fits), sends,
      order, ?_, later.accounted ?_⟩
    · rw [threads_run]
      exact (Threads.whole_uninterrupted rests event).rests.idle
    · rw [threads_run]
      exact flushes.work

/-- A receive is posted before the link is there, and no peer comes to dial: the queue pair has
failed, the receive waits for ever, and is never completed. -/
theorem posted_receive_is_stranded :
    let peer : QueuePairAddress := ⟨1, 0, 0, ⟨0⟩⟩
    let l := (fresh ⟨2, 0, 1, ⟨0⟩⟩ ⟨15⟩ 8 Memory.empty).run
      [.call (.toInit Access.all), .call (.postReceive 7), .proceed .empty, .proceed .empty,
        .call (.link peer (.v6 peer.gid.toIpv6) ⟨fun _ => .error .timedOut, none, 0⟩)]
    l.granted = [.receive 7] ∧ l.threads.Failed ∧
      ∀ later, (l.run later).threads.station.queuePair.work.receives = [7] ∧
        (l.run later).told = [] := by
  intro peer l
  refine ⟨rfl, rfl, fun later => ?_⟩
  have remains := inert_run (l := l) ⟨rfl, Or.inl rfl, Or.inl rfl⟩ later
  exact ⟨congrArg Work.receives remains.work, remains.told⟩

end Ledger

end RdmaLink
