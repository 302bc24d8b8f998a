import RdmaLink.Proofs.Threads.Completions
import RdmaLink.Proofs.Threads.Whole

/-!
# Room for completions, between two threads

A post looks for room before it enters its request, and what it has found free is spoken for
meanwhile (`Action.reserves`).  The receive thread does not know of that: if it fails the queue pair
with nothing waiting, the loss of the link takes a place of its own, and this may be the one that
the post has found.

    waiting + completions in the queue + places spoken for + dropped ≤ depth + places taken so
    load + requests in hand + completions taken + overruns = requests entered + losses reported
                                                                   (Ledger.load_stays_within_depth)

It happens at most once, and so at most one completion of a request is ever dropped.
-/

namespace RdmaLink

namespace Station

/-- The refusal of a post for lack of room. -/
def noRoom : Except DeviceError Unit := .error (.exhausted "completion queue")

variable {s : Station}

theorem checkRoom_eq_noRoom : s.checkRoom = noRoom ↔ s.completions.depth ≤ s.load := by
  unfold checkRoom
  split
  · next full => exact ⟨fun _ => full, fun _ => rfl⟩
  · next room =>
    constructor
    · intro h; cases h
    · intro full; exact absurd full room

/-- What a send asks for is never refused for lack of room. -/
theorem prepare_ne_noRoom {registrations : Registrations} {send : SendRequest} {e : DeviceError}
    {t : Station} (refused : s.prepare registrations send = (.error e, t)) :
    (.error e : Except DeviceError Unit) ≠ noRoom := by
  rintro ⟨⟩
  unfold prepare Registrations.localRange at refused
  cases known : registrations.byLocalKey? send.localKey with
  | none => simp [known] at refused
  | some registration =>
    cases place : registration.offsetOf? send.localAddress send.length.toNat with
    | none => simp [known, place] at refused
    | some offset =>
      cases framed : s.sendFrame send registration.region offset with
      | error e => simp [known, place, framed] at refused
      | ok made => simp [known, place, framed] at refused

end Station

/-! ## Posts -/

/-- Whether an event of a history is a post. -/
def QueuePairEvent.posts : QueuePairEvent → Bool
  | .postSend _ _ | .postReceive _ => true
  | _ => false

namespace Station

variable {s : Station} {event : QueuePairEvent}

/-- In a state that accepts it a post is refused for lack of room exactly if there is none. -/
theorem returned_eq_noRoom (post : event.posts = true) {accepted : List QueuePairState}
    {expected : String} (call : event.accepted? = some (accepted, expected))
    (accepting : s.queuePair.state ∈ accepted) :
    s.returned event = noRoom ↔ s.completions.depth ≤ s.load := by
  rw [← checkRoom_eq_noRoom]
  cases event with
  | postSend registrations send =>
    cases call
    simp only [returned, postSend, QueuePair.expect, if_pos accepting]
    cases room : s.checkRoom with
    | error e => rfl
    | ok _ =>
      refine iff_of_false ?_ (by rintro ⟨⟩)
      dsimp only
      split
      · next unprepared => exact prepare_ne_noRoom unprepared
      · split <;> rintro ⟨⟩
  | postReceive request =>
    cases call
    simp only [returned, postReceive, QueuePair.expect, if_pos accepting]
    cases room : s.checkRoom with
    | error e => rfl
    | ok _ =>
      refine iff_of_false ?_ (by rintro ⟨⟩)
      dsimp only
      split
      · rintro ⟨⟩
      · split <;> rintro ⟨⟩
  | _ => cases post

/-- A post that is taken on, or refused for lack of room, has found an accepting state. -/
theorem accepting_of_returned (post : event.posts = true)
    (answered : s.returned event = .ok () ∨ s.returned event = noRoom) :
    ∃ accepted expected, event.accepted? = some (accepted, expected) ∧
      s.queuePair.state ∈ accepted := by
  have known : ∃ accepted expected, event.accepted? = some (accepted, expected) := by
    cases event with
    | postSend registrations send => exact ⟨_, _, rfl⟩
    | postReceive request => exact ⟨_, _, rfl⟩
    | _ => cases post
  obtain ⟨accepted, expected, call⟩ := known
  refine ⟨accepted, expected, call, ?_⟩
  by_contra outside
  rw [(refused_of_unaccepted call outside).1] at answered
  rcases answered with h | h <;> cases h

/-- One request more is in flight, on a completion queue of the same depth. -/
def OneMore (s t : Station) : Prop :=
  t.load = s.load + 1 ∧ t.completions.depth = s.completions.depth

theorem oneMore_launch {pending : PendingSend} {frame : Frame}
    (alive : ((s.withPosted pending).launch frame s.queuePair.nextSequence).queuePair.state ≠
      .error) : OneMore s ((s.withPosted pending).launch frame s.queuePair.nextSequence) := by
  unfold launch at alive ⊢
  split at alive
  · next sent tried =>
    have alike := (alike_of_transmit tried).1
    refine ⟨?_, congrArg CompletionQueue.depth alike.completions⟩
    simp only [load, alike.work, alike.completions, withPosted, List.length_append,
      List.length_singleton]
    omega
  · exact absurd (state_fail _) alive

theorem OneMore.confirm {t : Station} {sequence : UInt64} (more : OneMore s t)
    (alive : (t.confirm sequence).queuePair.state ≠ .error) : OneMore s (t.confirm sequence) := by
  unfold Station.confirm at alive ⊢
  split at alive
  · next sent tried =>
    have alike := (alike_of_transmit tried).1
    unfold OneMore load
    rw [alike.work, alike.completions]
    exact more
  · exact absurd (state_fail _) alive

/-- A request that is taken on makes the load one more, unless it fails the queue pair. -/
theorem oneMore_after (post : event.posts = true) (posted : s.returned event = .ok ())
    (alive : (s.after event).queuePair.state ≠ .error) : OneMore s (s.after event) := by
  cases event with
  | postSend registrations send =>
    simp only [returned, after] at posted alive ⊢
    rcases s.postSend_cases registrations send with ⟨e, h⟩ | ⟨e, h⟩ |
      ⟨_, _, frame, pending, -, -, -, -, -, h⟩
    · rw [h] at posted; cases posted
    · rw [h] at posted; cases posted
    · rw [h] at alive ⊢
      exact oneMore_launch alive
  | postReceive request =>
    simp only [returned, after] at posted alive ⊢
    rcases s.postReceive_cases request with ⟨e, h⟩ | ⟨-, -, -, h⟩ | ⟨held, later, -, room, -, h⟩
    · rw [h] at posted; cases posted
    · rw [h]
      refine ⟨?_, rfl⟩
      simp only [load, withWork, List.length_append, List.length_singleton]
      omega
    · rw [h] at alive ⊢
      refine OneMore.confirm ⟨?_, CompletionQueue.depth_push _ _⟩ alive
      unfold load at room ⊢
      simp only [complete, withWork, CompletionQueue.size_push]
      rw [if_pos (by omega)]
      omega
  | _ => cases post

/-- A post that is refused for lack of room changes nothing. -/
theorem after_of_noRoom (post : event.posts = true) (refused : s.returned event = noRoom) :
    s.after event = s := by
  cases event with
  | postSend registrations send =>
    simp only [returned, after] at refused ⊢
    rw [postSend_eq] at refused ⊢
    split
    · rfl
    · next accepted =>
      rw [accepted] at refused
      split
      · rfl
      · next room =>
        rw [room] at refused
        dsimp only at refused
        split
        · next unprepared =>
          rw [unprepared] at refused
          exact absurd refused (prepare_ne_noRoom unprepared)
        · next prepared =>
          rw [prepared] at refused
          cases refused
  | postReceive request =>
    simp only [returned, after] at refused ⊢
    rcases s.postReceive_cases request with ⟨e, h⟩ | ⟨-, -, -, h⟩ | ⟨_, _, -, -, -, h⟩
    · rw [h]
    · rw [h] at refused; cases refused
    · rw [h] at refused; cases refused
  | _ => cases post

end Station

/-- Whether a post is about to look for room. -/
def Action.looks : Action → Bool
  | .admitting _ | .awaiting _ => true
  | _ => false

namespace Threads

variable {t : Threads}

/-- A post that looks for room is refused exactly if there is none. -/
theorem proceed_of_looks (registrations : Registrations) (looks : t.action.looks = true) :
    (t.proceed registrations).action = .idle ∧
        (t.proceed registrations).answer = some Station.noRoom ↔
      t.station.completions.depth ≤ t.station.load := by
  rw [← Station.checkRoom_eq_noRoom]
  cases room : t.station.checkRoom with
  | error e =>
    have refused : t.proceed registrations = t.returns (.error e) t.station := by
      unfold proceed
      cases action : t.action with
      | admitting send => simp only [room]
      | awaiting request => simp only [room]
      | _ =>
        rw [action] at looks
        cases looks
    rw [refused]
    exact ⟨fun h => Option.some_inj.mp h.2, fun h => ⟨rfl, congrArg some h⟩⟩
  | ok _ =>
    have further : (t.proceed registrations).action ≠ .idle := by
      unfold proceed
      cases action : t.action with
      | admitting send => simp [room, goesOn]
      | awaiting request => simp [room, goesOn]
      | _ =>
        rw [action] at looks
        cases looks
    exact iff_of_false (fun h => further h.1) (by rintro ⟨⟩)

/-- A post that nothing interrupts returns at once. -/
theorem post_uninterrupted (idle : t.action = .idle) {event : QueuePairEvent}
    (post : event.posts = true) :
    t.run (whole event) = t.returns (t.station.returned event) (t.station.after event) := by
  cases event with
  | postSend registrations send => exact postSend_uninterrupted idle registrations send
  | postReceive request => exact postReceive_uninterrupted idle .empty request
  | _ => cases post

/-- Posts one after the other, with nothing in between. -/
def posting (t : Threads) (posts : List QueuePairEvent) : Threads := t.run (posts.flatMap whole)

theorem posting_cons (t : Threads) (post : QueuePairEvent) (posts : List QueuePairEvent) :
    t.posting (post :: posts) = (t.run (whole post)).posting posts := by
  rw [posting, List.flatMap_cons, run_append]
  rfl

/-- Whether the last of some posts is let through or refused for lack of room, and nothing else. -/
def Answered (t : Threads) : Prop :=
  t.answer = some (.ok ()) ∨ t.answer = some Station.noRoom

/-- A post that nothing else refuses is let through exactly if there is room. -/
theorem let_through_iff {event : QueuePairEvent} (idle : t.action = .idle)
    (post : event.posts = true) (answered : (t.run (whole event)).Answered) :
    (t.run (whole event)).answer = some (.ok ()) ↔
      t.station.load < t.station.completions.depth := by
  rw [Answered, post_uninterrupted idle post] at answered
  rw [post_uninterrupted idle post]
  have answered : t.station.returned event = .ok () ∨ t.station.returned event = Station.noRoom :=
    answered.imp Option.some_inj.mp Option.some_inj.mp
  obtain ⟨accepted, expected, call, accepting⟩ := Station.accepting_of_returned post answered
  have full := Station.returned_eq_noRoom post call accepting
  constructor
  · intro through
    by_contra room
    have refused := full.mpr (Nat.le_of_not_lt room)
    rw [Option.some_inj.mp through] at refused
    cases refused
  · intro room
    rcases answered with through | refused
    · exact congrArg some through
    · exact absurd (full.mp refused) (Nat.not_le_of_lt room)

/-- What a post leaves free for the next one. -/
theorem free_after_post {free : Nat} {event next : QueuePairEvent} (idle : t.action = .idle)
    (places : t.station.load + free = t.station.completions.depth) (post : event.posts = true)
    (answered : (t.run (whole event)).Answered) (post' : next.posts = true)
    (answered' : ((t.run (whole event)).run (whole next)).Answered) :
    (t.run (whole event)).station.load + (free - 1) =
      (t.run (whole event)).station.completions.depth := by
  have through := let_through_iff idle post answered
  rw [Answered, post_uninterrupted idle post] at answered
  rw [post_uninterrupted idle post] at answered' through ⊢
  rcases answered with posted | refused
  · have room := through.mp posted
    rw [Answered, post_uninterrupted rfl post'] at answered'
    obtain ⟨_, _, call, accepting⟩ := Station.accepting_of_returned post'
      (answered'.imp Option.some_inj.mp Option.some_inj.mp)
    have alive : (t.station.after event).queuePair.state ≠ .error := fun failed =>
      Station.error_not_accepted call (by rw [← failed]; exact accepting)
    obtain ⟨more, depth⟩ := Station.oneMore_after post (Option.some_inj.mp posted) alive
    show (t.station.after event).load + _ = (t.station.after event).completions.depth
    omega
  · have full : ¬ t.station.load < t.station.completions.depth := fun room => by
      rw [through.mpr room] at refused
      cases refused
    show (t.station.after event).load + _ = (t.station.after event).completions.depth
    rw [Station.after_of_noRoom post (Option.some_inj.mp refused)]
    omega

/-- With so many places free, so many posts are let through that nothing else refuses. -/
theorem posts_let_through {free : Nat} (idle : t.action = .idle)
    (places : t.station.load + free = t.station.completions.depth) {posts : List QueuePairEvent}
    (post : ∀ event ∈ posts, event.posts = true)
    (answered : ∀ before event after, posts = before ++ event :: after →
      (t.posting (before ++ [event])).Answered)
    {before after : List QueuePairEvent} {event : QueuePairEvent}
    (split : posts = before ++ event :: after) :
    (t.posting (before ++ [event])).answer = some (.ok ()) ↔ before.length < free := by
  induction before generalizing t posts free with
  | nil =>
    have now := answered [] event after split
    have mine := post event (by rw [split]; simp)
    have single : t.posting ([] ++ [event]) = t.run (whole event) := by simp [posting]
    rw [single] at now ⊢
    rw [let_through_iff idle mine now, List.length_nil]
    omega
  | cons first before ih =>
    have mine := post first (by rw [split]; simp)
    have now := answered [] first (before ++ event :: after) split
    have single : t.posting ([] ++ [first]) = t.run (whole first) := by simp [posting]
    have idle' : (t.run (whole first)).action = .idle := by
      rw [post_uninterrupted idle mine]
      rfl
    rw [single] at now
    have later (a : List QueuePairEvent) (e : QueuePairEvent) (b : List QueuePairEvent)
        (rest : before ++ event :: after = a ++ e :: b) :
        ((t.run (whole first)).posting (a ++ [e])).Answered := by
      have := answered (first :: a) e b (by rw [split, List.cons_append, rest]; rfl)
      rwa [List.cons_append, posting_cons] at this
    have through := let_through_iff idle mine now
    have next : ∃ e rest, before ++ event :: after = e :: rest := by
      cases before with
      | nil => exact ⟨_, _, rfl⟩
      | cons e rest => exact ⟨_, _, rfl⟩
    obtain ⟨e, rest, same⟩ := next
    have second := later [] e rest same
    have free' := free_after_post idle places mine now
      (post e (by rw [split, List.cons_append, same]; simp)) (by simpa [posting] using second)
    have left : ∀ post' ∈ before ++ event :: after, post'.posts = true := fun e listed =>
      post e (by rw [split]; exact List.mem_cons_of_mem _ listed)
    rw [List.cons_append, posting_cons, ih idle' free' left later rfl, List.length_cons]
    omega

/-! ## Places -/

theorem depth_step (sound : t.Sound) (event : ThreadEvent) :
    (t.step event).station.completions.depth = t.station.completions.depth := by
  rw [(passes_step sound event).pushed, CompletionQueue.depth_pushed]
  cases event <;> rfl

theorem size_drained (t : Threads) (event : ThreadEvent) :
    (t.drained event).size ≤ t.station.completions.size ∧
      (t.drained event).depth = t.station.completions.depth := by
  cases event with
  | poll most => exact ⟨by rw [drained, CompletionQueue.size_poll]; omega, rfl⟩
  | _ => exact ⟨Nat.le_refl _, rfl⟩

/-- Whoever takes a place that a post has found reports the loss of the link. -/
theorem overtakes_le (t : Threads) (event : ThreadEvent) :
    t.overtakes event ≤ (t.reports event).countP Completion.isLoss := by
  cases event with
  | advance registrations =>
    unfold overtakes
    by_cases idle : t.reception = .flushing ∧ t.waiting = 0
    · have empty : t.station.flushReports = [] :=
        List.length_eq_zero_iff.mp (t.station.flushReports_length.trans idle.2)
      have last : t.reports (.advance registrations) = [t.station.lossReport] := by
        simp only [reports, idle.1]
        exact if_pos (by rw [empty]; rfl)
      rw [if_pos idle, last, List.countP_singleton, t.station.lossReport_counts.2.2]
      exact t.action.reserves_le
    · rw [if_neg idle]
      exact Nat.zero_le _
  | _ => exact Nat.zero_le _

/-- The completions of requests that find no room. -/
def missed (queue : CompletionQueue) (told : List Completion) : Nat :=
  (queue.refused told).countP fun c => !c.isLoss

/-- A completion of a request finds the place that was kept for it, except for one whose place was
taken. -/
theorem Passes.places {t' : Threads} {queue : CompletionQueue} {entered : List Request}
    {told : List Completion} {revived overtaken : Nat}
    (passes : Passes t queue entered told revived overtaken t')
    (depth : queue.depth = t.station.completions.depth)
    (fits : queue.size ≤ queue.depth) (smaller : queue.size ≤ t.station.completions.size)
    {before taken : Nat}
    (room : t.due + t.station.completions.size + before ≤ t.station.completions.depth + taken)
    (bound : before ≤ taken) :
    t'.station.completions.size ≤ queue.depth ∧
      t'.due + t'.station.completions.size + (before + missed queue told) ≤
        queue.depth + (taken + overtaken) ∧
      before + missed queue told ≤ taken + overtaken := by
  obtain ⟨excess, within⟩ := CompletionQueue.length_refused told fits
  have sum := queue.size_pushed told
  rw [← passes.pushed] at within sum
  have some' : missed queue told ≤ (queue.refused told).length := List.countP_le_length
  refine ⟨within, ?_⟩
  rcases passes.kinds with owed | ⟨loss, rfl, isLoss, -, -, none, due⟩
  · obtain ⟨-, all⟩ := countP_isLoss_of_owed owed
    have due := passes.due
    rw [all] at due
    rcases due with due | ⟨free, rfl, due⟩
    · omega
    · -- the post has just found this place
      unfold Station.load at free
      rw [List.length_nil] at excess sum
      unfold Threads.waiting at due
      omega
  · have real : missed queue [loss] = 0 := by
      simp only [missed, CompletionQueue.refused, List.append_nil]
      split <;> simp [isLoss]
    omega

end Threads

namespace Ledger

/-- How many completions of requests were dropped. -/
def missed (l : Ledger) : Nat := l.dropped.countP fun c => !c.isLoss

/-- What holds of the places of the completion queue. -/
structure Placed (l : Ledger) : Prop where
  fits : l.threads.station.completions.size ≤ l.threads.station.completions.depth
  room : l.threads.due + l.threads.station.completions.size + l.missed ≤
    l.threads.station.completions.depth + l.overtaken
  missed : l.missed ≤ l.overtaken
  once : l.overtaken + l.threads.onward ≤ 1
  late : l.overtaken ≤ l.told.countP Completion.isLoss
  count : l.threads.waiting + l.threads.action.carried.length +
    l.told.countP (fun c => !c.isLoss) = l.accepted.length

variable {l : Ledger}

theorem placed_fresh (address : QueuePairAddress) (linkTimeout : Milliseconds) (depth : Nat)
    (memory : Memory) : (fresh address linkTimeout depth memory).Placed :=
  ⟨Nat.zero_le _, Nat.zero_le _, Nat.le_refl _, Nat.le_refl _, Nat.le_refl _, rfl⟩

theorem Placed.step (placed : l.Placed) (sound : l.threads.Sound) (event : ThreadEvent) :
    (l.step event).Placed := by
  have passes := Threads.passes_step sound event
  obtain ⟨smaller, depth⟩ := l.threads.size_drained event
  have depth' := Threads.depth_step sound event
  have fits := placed.fits
  obtain ⟨within, room, missed⟩ := passes.places depth (by omega) smaller placed.room placed.missed
  have total : (l.step event).missed =
      l.missed + Threads.missed (l.threads.drained event) (l.threads.reports event) := by
    rw [Ledger.missed, Threads.missed, l.threads.refused_drained, Ledger.missed,
      ← List.countP_append]
    rfl
  rw [depth] at within room
  refine ⟨?_, ?_, ?_, ?_, ?_, ?_⟩
  · show (l.threads.step event).station.completions.size ≤ _
    rw [show (l.step event).threads = l.threads.step event from rfl, depth']
    exact within
  · rw [show (l.step event).threads = l.threads.step event from rfl, depth', total]
    exact room
  · rw [total]
    exact missed
  · have once := placed.once
    have now := passes.onward
    show l.overtaken + l.threads.overtakes event + (l.threads.step event).onward ≤ 1
    omega
  · have late := placed.late
    have now := l.threads.overtakes_le event
    show l.overtaken + l.threads.overtakes event ≤ (l.told ++ l.threads.reports event).countP _
    rw [List.countP_append]
    omega
  · have count := placed.count
    have now := passes.count
    show (l.threads.step event).waiting + (l.threads.step event).action.carried.length +
      (l.told ++ l.threads.reports event).countP _ = (l.accepted ++ l.threads.enters event).length
    rw [List.countP_append, List.length_append]
    omega

theorem placed_run (address : QueuePairAddress) (linkTimeout : Milliseconds) (depth : Nat)
    (memory : Memory) (events : List ThreadEvent) :
    let l := (fresh address linkTimeout depth memory).run events
    l.Placed ∧ l.threads.station.completions.depth = depth := by
  have whole := run_induction
    (P := fun l => l.Kept ∧ l.Placed ∧ l.threads.station.completions.depth = depth)
    ⟨kept_fresh address linkTimeout depth memory, placed_fresh address linkTimeout depth memory,
      rfl⟩
    (fun l event h => ⟨h.1.step event, h.2.1.step h.1.sound event,
      (Threads.depth_step h.1.sound event).trans h.2.2⟩) events
  exact whole.2

/-- What waits, is completed or spoken for never exceeds the depth of the queue, except for one
place that the loss of the link may have taken from a post; only then a completion of a request is
dropped, and only one.  Every request that was entered waits, is in hand, or has its completion in
the queue or taken out of it or dropped.  A post that looks for room is refused exactly if the depth
is reached; so a poll of so many completions lets so many further posts through, if nothing comes in
between. -/
theorem load_stays_within_depth (address : QueuePairAddress) (linkTimeout : Milliseconds)
    (depth : Nat) (memory : Memory) (events : List ThreadEvent) :
    let l := (fresh address linkTimeout depth memory).run events
    let t := l.threads
    let s := t.station
    s.load + t.action.reserves + l.missed ≤ depth + l.overtaken ∧
      l.missed ≤ l.overtaken ∧ l.overtaken ≤ 1 ∧
      l.overtaken ≤ l.told.countP Completion.isLoss ∧
      s.completions.overruns = l.dropped.length ∧
      s.load + t.action.carried.length + l.taken.length + s.completions.overruns =
        l.accepted.length + l.told.countP Completion.isLoss ∧
      (∀ registrations, t.action.looks = true →
        ((t.step (.proceed registrations)).action = .idle ∧
          (t.step (.proceed registrations)).answer = some Station.noRoom ↔ depth ≤ s.load)) ∧
      (t.action = .idle → s.load = depth → ∀ most posts,
        (∀ event ∈ posts, event.posts = true) →
        (∀ before event after, posts = before ++ event :: after →
          ((t.step (.poll most)).posting (before ++ [event])).Answered) →
        ∀ before event after, posts = before ++ event :: after →
          (((t.step (.poll most)).posting (before ++ [event])).answer = some (.ok ()) ↔
            before.length < (s.completions.poll most).1.length)) := by
  intro l t s
  obtain ⟨placed, deep⟩ : l.Placed ∧ s.completions.depth = depth :=
    placed_run address linkTimeout depth memory events
  have kept : l.Kept := kept_run address linkTimeout depth memory events
  have load : s.load = t.waiting + s.completions.size := rfl
  have due : t.due = t.waiting + t.action.reserves := rfl
  refine ⟨?_, placed.missed, ?_, placed.late, kept.overruns, ?_, ?_, ?_⟩
  · have room := placed.room
    change t.due + s.completions.size + l.missed ≤ s.completions.depth + l.overtaken at room
    omega
  · have once := placed.once
    omega
  · have count := placed.count
    have all := kept.missed.length_eq
    have kinds : l.told.length =
        l.told.countP Completion.isLoss + l.told.countP fun c => !c.isLoss := by
      rw [l.told.length_eq_countP_add_countP Completion.isLoss]
      simp
    change t.waiting + t.action.carried.length + _ = _ at count
    change _ = (l.taken ++ s.completions.toList ++ l.dropped).length at all
    have overruns : s.completions.overruns = l.dropped.length := kept.overruns
    rw [List.length_append, List.length_append, ← CompletionQueue.size_eq_length] at all
    omega
  · intro registrations looks
    rw [← deep]
    exact Threads.proceed_of_looks registrations looks
  · intro idle full most posts post answered before event after split
    have whole := congrArg List.length (s.completions.toList_poll most)
    rw [List.length_append, ← CompletionQueue.size_eq_length,
      ← CompletionQueue.size_eq_length] at whole
    have polled : (t.step (.poll most)).action = .idle := idle
    refine Threads.posts_let_through polled ?_ post answered split
    show t.waiting + (s.completions.poll most).2.size + _ = s.completions.depth
    omega

/-- A write finds the only place free.  Then the peer goes away, and its loss takes the place: the
write is entered all the same, the link refuses it, and its completion is dropped. -/
theorem completion_is_dropped :
    let found := (linked 1).run [.call .start, .proceed regionTable,
      .call (.postSend regionWrite), .proceed regionTable]
    let entered := found.run (peerLeaves ++ List.replicate 2 (.proceed regionTable))
    let finished := entered.run (List.replicate 6 (.proceed regionTable))
    found.threads.station.load = 0 ∧ entered.threads.station.load = 2 ∧
      finished.threads.action = .idle ∧ finished.granted = [.send 9 .write] ∧
      finished.dropped.map (fun c => (c.request, c.operation, c.status)) =
        [(9, .write, .linkLost)] ∧
      finished.threads.station.completions.toList.filterMap Completion.asSend? = [] := by
  decide +kernel

end Ledger

end RdmaLink
