import Mathlib.Data.Multiset.AddSub
import RdmaLink.Proofs.Threads.Steps

/-!
# One completion for each request, between two threads

However the owner's calls and the receive thread get in each other's way, each request that was
entered is waiting, or in the hands of its call, or has exactly one completion.  The only other
completion stands for the loss of the link.

    entered sends    = waiting sends + sends in hand + completions of sends
    entered receives = waiting receives + receives in hand + completions of receives
                                                            (Ledger.entered_requests_completed_once)

Two things that hold of calls and frames that come one after the other do not hold here.  A failure
that comes while the queue pair is being made ready to send is overwritten, and then the loss of the
link is reported once more (`Threads.revives`).  And a post that has found room before the queue
pair fails is entered after everything was flushed, so one request may be left waiting for ever.
-/

namespace RdmaLink

namespace Threads

variable {t : Threads}

/-- A step takes completions out of the queue, in the order in which they stand there. -/
theorem takes_append_drained (t : Threads) (event : ThreadEvent) :
    t.takes event ++ (t.drained event).toList = t.station.completions.toList := by
  cases event with
  | poll most => exact t.station.completions.toList_poll most
  | _ => rfl

theorem overruns_drained (t : Threads) (event : ThreadEvent) :
    (t.drained event).overruns = t.station.completions.overruns := by
  cases event <;> rfl

/-- Whoever takes completions out of the queue reports none. -/
theorem refused_drained (t : Threads) (event : ThreadEvent) :
    (t.drained event).refused (t.reports event) =
      t.station.completions.refused (t.reports event) := by
  cases event <;> rfl

/-! ## What a call has asked for -/

/-- A call that has begun has entered nothing, and if it asks for a request, it is this one. -/
structure Opens (t : Threads) (asked : Option Request) : Prop where
  entered : t.action.entered = false
  asks : ∀ request, t.action.asks = some request → asked = some request
  nothing : t.action = .starting ∨ t.action = .joining → asked = none

theorem opens_of_idle (idle : t.action = .idle) (asked : Option Request) : t.Opens asked := by
  constructor
  · rw [idle]; rfl
  · rw [idle]; nofun
  · rw [idle]; nofun

theorem opens_begin (t : Threads) (call : Call) :
    (t.begin call).Opens (ThreadEvent.call call).asks := by
  cases call with
  | toInit access => exact opens_of_idle rfl _
  | attach stream => exact opens_of_idle rfl _
  | link peer ip conditions => exact opens_of_idle rfl _
  | start =>
    simp only [begin]
    split
    · exact opens_of_idle rfl _
    · exact ⟨rfl, by rintro _ ⟨⟩, fun _ => rfl⟩
  | postSend send =>
    simp only [begin]
    split
    · exact opens_of_idle rfl _
    · exact ⟨rfl, fun _ => id, by rintro (other | other) <;> cases other⟩
  | postReceive request =>
    simp only [begin]
    split
    · exact opens_of_idle rfl _
    · exact ⟨rfl, fun _ => id, by rintro (other | other) <;> cases other⟩
  | destroy =>
    simp only [begin]
    split
    · exact opens_of_idle rfl _
    · exact ⟨rfl, by rintro _ ⟨⟩, fun _ => rfl⟩

/-- A request that is entered is no longer to be entered. -/
theorem opens_of_entered (entered : t.action.entered = true) :
    t.action.asks = none ∧ t.action ≠ .starting ∧ t.action ≠ .joining ∧ t.action ≠ .idle := by
  cases action : t.action with
  | idle | admitting | preparing | entering | awaiting | meeting | starting | joining =>
    rw [action] at entered
    cases entered
  | _ => exact ⟨rfl, nofun, nofun, nofun⟩

/-- The request of a call is entered and granted in the end. -/
def Succeeds (t : Threads) : Prop :=
  t.action.entered = true ∨ t.action = .idle ∧ t.answer = some (.ok ())

/-- What a step of the call in progress makes of its request: it is entered already, or it is
entered now, or it is not entered yet. -/
inductive Enters (t t' : Threads) : List Request → Prop
  | before (done : t.action.entered = true) (next : t'.Succeeds) : Enters t t' []
  | now {request : Request} (asked : t.action.asks = some request) (next : t'.Succeeds) :
      Enters t t' [request]
  | later (open' : t.action.entered = false) (next : t'.action.entered = false)
      (asked : ∀ request, t'.action.asks = some request → t.action.asks = some request)
      (ready : t'.action ≠ .starting) (joining : t'.action = .joining → t.action = .joining)
      (refused : t.action ≠ .idle → t'.action = .idle → t'.answer = some (.ok ()) →
        t.action = .starting ∨ t.action = .joining) : Enters t t' []

theorem enters_proceed (t : Threads) (registrations : Registrations) :
    Enters t (t.proceed registrations) (t.enters (.proceed registrations)) := by
  have refuses {s : Station} {e : DeviceError} (none : t.action.entered = false) :
      Enters t (t.returns (.error e) s) [] :=
    .later none rfl nofun nofun nofun fun _ _ => nofun
  have goes {s : Station} {action : Action} (none : t.action.entered = false)
      (none' : action.entered = false) (same : action.asks = t.action.asks)
      (others : action ≠ .starting ∧ action ≠ .joining ∧ action ≠ .idle) :
      Enters t (t.goesOn s action) [] :=
    .later none none' (fun _ asked => same.symm.trans asked) others.1
      (fun joining => absurd joining others.2.1) fun _ idle => absurd idle others.2.2
  unfold enters proceed
  cases action : t.action with
  | idle =>
    have none : t.action.entered = false := by rw [action]; rfl
    exact .later none none (fun _ => id) (by rw [action]; nofun) id fun other => absurd action other
  | admitting send =>
    dsimp only
    split
    · exact refuses (by rw [action]; rfl)
    · exact goes (by rw [action]; rfl) rfl (by rw [action]; rfl) ⟨nofun, nofun, nofun⟩
  | preparing send =>
    dsimp only
    rcases t.station.prepare_cases registrations send with ⟨e, h⟩ | ⟨e, h⟩ |
      ⟨registration, offset, frame, pending, -, -, framed, h⟩
    · rw [h]
      exact refuses (by rw [action]; rfl)
    · rw [h]
      exact refuses (by rw [action]; rfl)
    · rw [h]
      obtain ⟨request, operation, -⟩ := Station.sendFrame_pending framed
      refine goes (by rw [action]; rfl) rfl ?_ ⟨nofun, nofun, nofun⟩
      rw [action]
      simp only [Action.asks, request, operation]
  | entering draft => exact .now (by rw [action]; rfl) (Or.inl rfl)
  | launching draft =>
    dsimp only
    split
    · exact .before (by rw [action]; rfl) (Or.inr ⟨rfl, rfl⟩)
    · exact .before (by rw [action]; rfl) (Or.inl rfl)
  | withdrawing sequence =>
    dsimp only
    split <;> exact .before (by rw [action]; rfl) (Or.inl rfl)
  | reporting send => exact .before (by rw [action]; rfl) (Or.inl rfl)
  | awaiting request =>
    dsimp only
    split
    · exact refuses (by rw [action]; rfl)
    · exact goes (by rw [action]; rfl) rfl (by rw [action]; rfl) ⟨nofun, nofun, nofun⟩
  | meeting request =>
    dsimp only
    split
    · exact .now (by rw [action]; rfl) (Or.inr ⟨rfl, rfl⟩)
    · exact .now (by rw [action]; rfl) (Or.inl rfl)
  | met request held => exact .before (by rw [action]; rfl) (Or.inl rfl)
  | confirming sequence =>
    dsimp only
    split
    · exact .before (by rw [action]; rfl) (Or.inr ⟨rfl, rfl⟩)
    · exact .before (by rw [action]; rfl) (Or.inl rfl)
  | failing shuts =>
    dsimp only
    split
    · cases shuts
      · exact .before (by rw [action]; rfl) (Or.inr ⟨rfl, rfl⟩)
      · exact .before (by rw [action]; rfl) (Or.inl rfl)
    · exact .before (by rw [action]; rfl) (Or.inl rfl)
  | flushing shuts =>
    cases shuts
    · exact .before (by rw [action]; rfl) (Or.inr ⟨rfl, rfl⟩)
    · exact .before (by rw [action]; rfl) (Or.inl rfl)
  | shutting => exact .before (by rw [action]; rfl) (Or.inr ⟨rfl, rfl⟩)
  | starting =>
    exact .later (by rw [action]; rfl) rfl nofun nofun nofun fun _ _ _ => Or.inl action
  | joining =>
    dsimp only
    split
    · exact .later (by rw [action]; rfl) rfl nofun nofun nofun fun _ _ _ => Or.inr action
    · have none : t.action.entered = false := by rw [action]; rfl
      exact .later none none (fun _ => id) (by rw [action]; nofun) id fun _ _ _ => Or.inr action

/-- What is not a step of the owner leaves the call in progress alone. -/
theorem action_step (t : Threads) (event : ThreadEvent) (other : event.ofOwner = false) :
    (t.step event).action = t.action ∧ t.enters event = [] := by
  have follows (s : Station) (rest : Rest) : (t.follows s rest).action = t.action := by
    cases rest <;> rfl
  cases event with
  | call call => cases other
  | proceed registrations => cases other
  | byte byte =>
    refine ⟨?_, rfl⟩
    simp only [step, hears]
    split
    · split <;> rfl
    · split <;> rfl
    · rfl
  | hangUp =>
    refine ⟨?_, rfl⟩
    simp only [step]
    split <;> rfl
  | advance registrations =>
    refine ⟨?_, rfl⟩
    simp only [step, advance]
    split
    · rfl
    · rfl
    · split
      · rfl
      · split <;> rfl
    · exact follows _ _
    · exact follows _ _
    · split <;> rfl
    · rfl
    · split <;> rfl
    · rfl
    · rfl
    · rfl
  | poll most => exact ⟨rfl, rfl⟩
  | remember memory => exact ⟨rfl, rfl⟩

end Threads

namespace Ledger

variable {l : Ledger}

/-- What was granted is what was entered, but for the request of a call that has not returned. -/
structure Booked (l : Ledger) : Prop where
  accepted : l.accepted =
    l.granted ++ if l.threads.action.entered then l.asked.toList else []
  asked : ∀ request, l.threads.action.asks = some request → l.asked = some request
  nothing : l.threads.action = .starting ∨ l.threads.action = .joining → l.asked = none

theorem booked_fresh (address : QueuePairAddress) (linkTimeout : Milliseconds) (depth : Nat)
    (memory : Memory) : (fresh address linkTimeout depth memory).Booked :=
  ⟨rfl, nofun, nofun⟩

/-- While the call in progress stays where it is, nothing is entered and nothing granted. -/
theorem Booked.of_same (booked : l.Booked) {event : ThreadEvent}
    (same : (l.threads.step event).action = l.threads.action)
    (none : l.threads.enters event = []) : (l.step event).Booked := by
  have granted : l.grants event = [] := if_neg fun h => h.1 (same.symm.trans h.2.1)
  have accepted := booked.accepted
  by_cases idle : l.threads.action = .idle
  · have idle' : (l.step event).threads.action = .idle := same.trans idle
    rw [idle] at accepted
    refine ⟨?_, ?_, ?_⟩
    · rw [idle']
      simp only [Ledger.step, none, granted, List.append_nil]
      exact accepted
    · rw [idle']; nofun
    · rw [idle']; nofun
  · have same' : (l.step event).threads.action = l.threads.action := same
    have asked : (l.step event).asked = l.asked := if_neg idle
    refine ⟨?_, ?_, ?_⟩
    · rw [same', asked]
      simp only [Ledger.step, none, granted, List.append_nil]
      exact accepted
    · rw [same', asked]
      exact booked.asked
    · rw [same', asked]
      exact booked.nothing

theorem Booked.begin (booked : l.Booked) (idle : l.threads.action = .idle) (call : Call) :
    (l.step (.call call)).Booked := by
  obtain ⟨entered, asks, nothing⟩ := l.threads.opens_begin call
  have begun : (l.step (.call call)).threads = l.threads.begin call := if_pos idle
  have asked : (l.step (.call call)).asked = (ThreadEvent.call call).asks := if_pos idle
  have granted : l.grants (.call call) = [] := if_neg fun h => h.1 idle
  have accepted := booked.accepted
  rw [idle] at accepted
  refine ⟨?_, ?_, ?_⟩
  · rw [begun, entered]
    simp only [Ledger.step, Threads.enters, granted, List.append_nil]
    exact accepted
  · rw [begun, asked]
    exact asks
  · rw [begun, asked]
    exact nothing

/-- When the request of a call is entered, it is granted, or will be once the call returns. -/
theorem granted_of_succeeds {event : ThreadEvent} (busy : l.threads.action ≠ .idle)
    (next : (l.threads.step event).Succeeds) :
    l.grants event ++ (if (l.step event).threads.action.entered then l.asked.toList else []) =
      l.asked.toList ∧
    (l.step event).threads.action.asks = none ∧
    (l.step event).threads.action ≠ .starting ∧ (l.step event).threads.action ≠ .joining := by
  have same : (l.step event).threads = l.threads.step event := rfl
  rw [same]
  rcases next with entered | ⟨idle, answer⟩
  · obtain ⟨asks, ready, present, unfinished⟩ := Threads.opens_of_entered entered
    refine ⟨?_, asks, ready, present⟩
    rw [grants, if_neg fun h => unfinished h.2.1, entered]
    rfl
  · rw [grants, if_pos ⟨busy, idle, answer⟩, idle]
    exact ⟨List.append_nil _, rfl, nofun, nofun⟩

theorem Booked.proceed (booked : l.Booked) (registrations : Registrations)
    (busy : l.threads.action ≠ .idle) : (l.step (.proceed registrations)).Booked := by
  have enters := l.threads.enters_proceed registrations
  have accepted := booked.accepted
  have asked : (l.step (.proceed registrations)).asked = l.asked := if_neg busy
  generalize entered : l.threads.enters (.proceed registrations) = now at enters
  have listed : (l.step (.proceed registrations)).accepted = l.accepted ++ now :=
    congrArg (l.accepted ++ ·) entered
  have granted : (l.step (.proceed registrations)).granted =
    l.granted ++ l.grants (.proceed registrations) := rfl
  cases enters with
  | before done next =>
    have next : (l.threads.step (.proceed registrations)).Succeeds := next
    obtain ⟨sum, asks, ready, present⟩ := granted_of_succeeds busy next
    refine ⟨?_, ?_, ?_⟩
    · rw [listed, granted, asked, List.append_assoc, sum, List.append_nil, accepted, done]
      rfl
    · rw [asks]; nofun
    · exact fun other => absurd other (not_or.mpr ⟨ready, present⟩)
  | now request next =>
    have next : (l.threads.step (.proceed registrations)).Succeeds := next
    obtain ⟨sum, asks, ready, present⟩ := granted_of_succeeds busy next
    have open' : l.threads.action.entered = false := by
      by_contra done
      rw [(Threads.opens_of_entered (by simpa using done)).1] at request
      cases request
    refine ⟨?_, ?_, ?_⟩
    · rw [listed, granted, asked, List.append_assoc, sum, accepted, open', booked.asked _ request]
      simp
    · rw [asks]; nofun
    · exact fun other => absurd other (not_or.mpr ⟨ready, present⟩)
  | later open' next keeps ready joining refused =>
    have same : (l.step (.proceed registrations)).threads =
      l.threads.proceed registrations := rfl
    have none : l.grants (.proceed registrations) = [] := by
      by_cases h : l.threads.action ≠ .idle ∧
        (l.threads.step (.proceed registrations)).action = .idle ∧
          (l.threads.step (.proceed registrations)).answer = some (.ok ())
      · rw [grants, if_pos h, booked.nothing (refused h.1 h.2.1 h.2.2)]
        rfl
      · exact if_neg h
    refine ⟨?_, ?_, ?_⟩
    · rw [listed, granted, none, same, next, accepted, open']
      simp
    · rw [same, asked]
      exact fun request asks => booked.asked request (keeps request asks)
    · rw [same, asked]
      rintro (starting | joins)
      · exact absurd starting ready
      · exact booked.nothing (Or.inr (joining joins))

theorem Booked.step (booked : l.Booked) (event : ThreadEvent) : (l.step event).Booked := by
  by_cases other : event.ofOwner = false
  · obtain ⟨same, none⟩ := l.threads.action_step event other
    exact booked.of_same same none
  cases event with
  | call call =>
    by_cases idle : l.threads.action = .idle
    · exact booked.begin idle call
    · exact booked.of_same (congrArg Threads.action (if_neg idle)) rfl
  | proceed registrations =>
    by_cases idle : l.threads.action = .idle
    · refine booked.of_same ?_ ?_ <;>
        simp only [Threads.step, Threads.proceed, Threads.enters, idle]
    · exact booked.proceed registrations idle
  | _ => exact absurd rfl other

/-- What holds of every run. -/
structure Kept (l : Ledger) : Prop where
  sound : l.threads.Sound
  sent : (l.accepted.filterMap Request.asSend?).Perm
    (l.threads.owed ++ l.told.filterMap Completion.asSend?)
  awaited : (l.accepted.filterMap Request.asReceive?).Perm
    (l.threads.awaited ++ l.told.filterMap Completion.asReceive?)
  known : ∀ c ∈ l.told, c.Owed ∨ (c.isLoss = true ∧ c.asSend? = none ∧ c.asReceive? = none)
  losses : l.told.countP Completion.isLoss + l.threads.flushesDue ≤
    l.revivals + l.threads.failures
  young : l.revivals + l.threads.youth ≤ 1
  late : l.threads.Settled → l.threads.waiting + l.threads.action.entries ≤ 1
  order : l.threads.station.queuePair.work.receives <:+ l.accepted.filterMap Request.asReceive?
  seen : (l.taken ++ l.threads.station.completions.toList).Sublist l.told
  missed : l.told.Perm (l.taken ++ l.threads.station.completions.toList ++ l.dropped)
  overruns : l.threads.station.completions.overruns = l.dropped.length

theorem kept_fresh (address : QueuePairAddress) (linkTimeout : Milliseconds) (depth : Nat)
    (memory : Memory) : (fresh address linkTimeout depth memory).Kept := by
  refine ⟨Threads.sound_fresh address linkTimeout depth memory, List.Perm.refl _, List.Perm.refl _,
    nofun, Nat.le_refl _, Nat.le_refl _, nofun, List.nil_suffix, List.Sublist.refl _,
    List.Perm.refl _, rfl⟩

theorem Kept.step (kept : l.Kept) (event : ThreadEvent) : (l.step event).Kept := by
  have passes := Threads.passes_step kept.sound event
  have pushed := passes.pushed
  have known : ∀ c ∈ l.threads.reports event,
      c.Owed ∨ (c.isLoss = true ∧ c.asSend? = none ∧ c.asReceive? = none) := by
    intro c listed
    rcases passes.kinds with owed | ⟨loss, told, isLoss, asSend, asReceive, -⟩
    · exact Or.inl (owed c listed)
    · rw [told, List.mem_singleton] at listed
      rw [listed]
      exact Or.inr ⟨isLoss, asSend, asReceive⟩
  have queue : (l.step event).taken ++ (l.step event).threads.station.completions.toList =
      l.taken ++ l.threads.station.completions.toList ++
        (l.threads.drained event).admitted (l.threads.reports event) := by
    show l.taken ++ l.threads.takes event ++ (l.threads.step event).station.completions.toList = _
    rw [pushed, CompletionQueue.toList_pushed, ← l.threads.takes_append_drained event]
    simp only [List.append_assoc]
  refine ⟨passes.sound, ?_, ?_, ?_, ?_, ?_, ?_, passes.order _ kept.order, ?_, ?_, ?_⟩
  · show ((l.accepted ++ _).filterMap _).Perm (_ ++ (l.told ++ _).filterMap _)
    rw [List.filterMap_append, List.filterMap_append]
    exact Station.perm_settle kept.sent passes.owed
  · show ((l.accepted ++ _).filterMap _).Perm (_ ++ (l.told ++ _).filterMap _)
    rw [List.filterMap_append, List.filterMap_append]
    exact Station.perm_settle kept.awaited passes.awaited
  · intro c listed
    rcases List.mem_append.mp listed with before | now
    · exact kept.known c before
    · exact known c now
  · have before := kept.losses
    have now := passes.losses
    show (l.told ++ l.threads.reports event).countP Completion.isLoss + _ ≤
      l.revivals + l.threads.revives event + _
    rw [List.countP_append]
    show _ + (l.threads.step event).flushesDue ≤ _ + (l.threads.step event).failures
    omega
  · have before := kept.young
    have now := passes.youth
    show l.revivals + l.threads.revives event + (l.threads.step event).youth ≤ 1
    omega
  · intro settled
    rcases passes.settled settled with none | ⟨before, fewer⟩
    · show (l.threads.step event).waiting + _ ≤ 1
      rw [none, Nat.zero_add]
      exact Action.entries_le _
    · exact Nat.le_trans fewer (kept.late before)
  · rw [queue]
    exact kept.seen.append (CompletionQueue.admitted_sublist _ _)
  · rw [queue]
    have now :=
      ((l.threads.drained event).perm_admitted_refused (l.threads.reports event)).symm
    rw [l.threads.refused_drained] at now
    refine (kept.missed.append now).trans ?_
    simp only [List.append_assoc]
    exact ((List.perm_append_comm_assoc _ _ _).append_left _).append_left _
  · show (l.threads.step event).station.completions.overruns =
      (l.dropped ++ l.threads.station.completions.refused _).length
    rw [pushed, CompletionQueue.overruns_pushed, l.threads.overruns_drained,
      l.threads.refused_drained, kept.overruns, List.length_append]

theorem kept_run (address : QueuePairAddress) (linkTimeout : Milliseconds) (depth : Nat)
    (memory : Memory) (events : List ThreadEvent) :
    ((fresh address linkTimeout depth memory).run events).Kept :=
  run_induction (kept_fresh address linkTimeout depth memory) (fun _ event kept => kept.step event)
    events

theorem booked_run (address : QueuePairAddress) (linkTimeout : Milliseconds) (depth : Nat)
    (memory : Memory) (events : List ThreadEvent) :
    ((fresh address linkTimeout depth memory).run events).Booked :=
  run_induction (booked_fresh address linkTimeout depth memory)
    (fun _ event booked => booked.step event) events

theorem failures_le (t : Threads) : t.failures ≤ 1 := by
  unfold Threads.failures
  split <;> decide

/-- Each request that was entered is waiting, or in hand, or has exactly one completion; the only
other completion stands for a lost link, and it comes once, and once more if the queue pair was made
ready to send over a failure.  What was granted is what was entered, but for the request of a call
that has not returned.  Completions are taken in the order in which they were reported, and those
that are neither taken nor in the queue were dropped, one for each overrun.  On a linked queue pair
that has failed and flushed at most one request waits, or is still to be entered. -/
theorem entered_requests_completed_once (address : QueuePairAddress) (linkTimeout : Milliseconds)
    (depth : Nat) (memory : Memory) (events : List ThreadEvent) :
    let l := (fresh address linkTimeout depth memory).run events
    let work := l.threads.station.queuePair.work
    let queue := l.threads.station.completions
    let inHand := l.threads.action.carried
    l.accepted = l.granted ++ (if l.threads.action.entered then l.asked.toList else []) ∧
      (l.accepted.filterMap Request.asSend? : Multiset (UInt64 × Operation)) =
        (work.outstanding.map fun entry => (entry.2.request, entry.2.operation)) +
          inHand.filterMap Request.asSend? + l.told.filterMap Completion.asSend? ∧
      (l.accepted.filterMap Request.asReceive? : Multiset UInt64) =
        work.receives + inHand.filterMap Request.asReceive? +
          l.told.filterMap Completion.asReceive? ∧
      (∀ c ∈ l.told, c.Owed ∨ (c.isLoss = true ∧ c.asSend? = none ∧ c.asReceive? = none)) ∧
      l.told.countP Completion.isLoss ≤ 1 + l.revivals ∧ l.revivals ≤ 1 ∧
      (l.taken ++ queue.toList).Sublist l.told ∧
      l.told.Perm (l.taken ++ queue.toList ++ l.dropped) ∧ queue.overruns = l.dropped.length ∧
      (l.threads.Settled → l.threads.waiting + l.threads.action.entries ≤ 1) := by
  intro l work queue inHand
  have kept : l.Kept := kept_run address linkTimeout depth memory events
  have losses := kept.losses
  have young := kept.young
  have failures := failures_le l.threads
  refine ⟨(booked_run address linkTimeout depth memory events).accepted, ?_, ?_, kept.known,
    by omega, by omega, kept.seen, kept.missed, kept.overruns, kept.late⟩
  · rw [Multiset.coe_add, Multiset.coe_add, Multiset.coe_eq_coe]
    exact kept.sent
  · rw [Multiset.coe_add, Multiset.coe_add, Multiset.coe_eq_coe]
    exact kept.awaited

/-! ## Where the threads get in each other's way -/

theorem linked_fits : (4096 : UInt64).toNat + 4 < UInt64.size := by decide

/-- A queue pair with a region of four bytes that is linked and not ready to send yet. -/
def linked (depth : Nat) : Ledger :=
  let region : Region := ⟨"region", 4096, 4, fun _ => 0, linked_fits⟩
  let peer : QueuePairAddress := ⟨2, 0, 0, ⟨0⟩⟩
  (fresh ⟨1, 0, 0, ⟨0⟩⟩ ⟨1000⟩ depth ⟨[region]⟩).run
    [.call (.toInit Access.all), .call (.attach (.ofBytes (Header.hello 2 1).toBytes false)),
      .call (.link peer (.v6 peer.gid.toIpv6) ⟨fun _ => .error .timedOut, none, 0⟩)]

/-- The registration of its region. -/
def regionTable : Registrations := ⟨[⟨1, 5, 4096, 4, Access.all, ⟨0⟩⟩], 1⟩

/-- A write of its region. -/
def regionWrite : SendRequest := ⟨9, .write, 4096, 1, 4, 4096, 5⟩

/-- The peer goes away: the receive thread fails the queue pair, flushes it, shuts the link down
and is over. -/
def peerLeaves : List ThreadEvent := .hangUp :: List.replicate 4 (.advance regionTable)

/-- The peer goes away while the queue pair is being made ready to send: it is ready over the
failure, and the first write fails it once more.  The peer goes away while a receive is being posted
that has found room: the receive waits on a queue pair that has flushed. -/
theorem late_request_is_stranded :
    let again := (linked 4).run (.call .start :: peerLeaves ++ .proceed regionTable ::
      .call (.postSend regionWrite) :: List.replicate 9 (.proceed regionTable))
    let late := (linked 4).run ([.call .start, .proceed regionTable, .call (.postReceive 7),
      .proceed regionTable] ++ peerLeaves ++ [.proceed regionTable])
    again.threads.action = .idle ∧ again.granted = [.send 9 .write] ∧
      again.told.countP Completion.isLoss = 2 ∧
      late.threads.action = .idle ∧ late.granted = [.receive 7] ∧ late.threads.Failed ∧
      late.threads.station.queuePair.work.receives = [7] ∧
      late.told.filterMap Completion.asReceive? = [] := by
  decide +kernel

end Ledger

end RdmaLink
