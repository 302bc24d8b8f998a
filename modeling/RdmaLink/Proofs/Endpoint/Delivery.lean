import RdmaLink.Proofs.Endpoint.Readiness

/-!
# Events are delivered once and in order

What the queue of a connection has accepted is, in this order, what the drains have taken, what a
drain that is under way has taken, and what is still queued; and the events of the polls are what
the drains gave.  A drain finds the fault of a queue, and reports a loss, exactly if the queue has
dropped completions since the drain before (`Drain.Latches`).

    a.accepted id = (a.drains id).flatMap Drain.taken ++ a.phase.taken id ++ queued id
                                                                       (Account.Sound.balance)
    a.Sound → (a.step occurrence).Sound                                 (Account.Sound.step)

That a failure ends its connection, and that a poll which comes back empty has found nothing
ready, rests on a look that gathers its events from the sources it has found (`Gathering.Sound`):
they are registered, none of them is there twice, and a connection among them still has the
completions that made it ready.
-/

namespace RdmaLink

/-! ## Events -/

namespace Event

/-- The completion that an event brings of a connection. -/
def completion? (id : Nat) : Event → Option Completion
  | .incoming _ => none
  | .completed connection completion => if connection = id then some completion else none
  | .failed connection completion => if connection = id then some completion else none

/-- An event tells a success from a failure. -/
def Honest : Event → Prop
  | .incoming _ => True
  | .completed _ completion => completion.status = .success
  | .failed _ completion => completion.status ≠ .success

theorem honest_ofCompletion (id : Nat) (completion : Completion) :
    (ofCompletion id completion).Honest := by
  unfold ofCompletion Completion.succeeded
  split
  · next h => exact beq_iff_eq.mp h
  · next h => exact fun good => h (beq_iff_eq.mpr good)

theorem completion?_ofCompletion (id other : Nat) (completion : Completion) :
    (ofCompletion id completion).completion? other =
      if id = other then some completion else none := by
  unfold ofCompletion
  split <;> rfl

/-- The events of a drain bring its reports, and nothing of other connections. -/
theorem completions_of_reports (id other : Nat) (reports : List Completion) :
    (reports.map (ofCompletion id)).filterMap (completion? other) =
      if other = id then reports else [] := by
  rw [List.filterMap_map]
  by_cases its : other = id
  · rw [if_pos its]
    refine (List.filterMap_congr fun report _ => ?_).trans List.filterMap_some
    rw [Function.comp_apply, completion?_ofCompletion, if_pos its.symm]
  · rw [if_neg its]
    refine List.filterMap_eq_nil_iff.mpr fun report _ => ?_
    rw [Function.comp_apply, completion?_ofCompletion, if_neg (Ne.symm its)]

/-- A failure is told of a report that is one. -/
theorem failure_of_failed {id other : Nat} {completion : Completion} {reports : List Completion}
    (told : .failed other completion ∈ reports.map (ofCompletion id)) :
    other = id ∧ completion ∈ reports ∧ completion.succeeded = false := by
  obtain ⟨report, member, same⟩ := List.mem_map.mp told
  unfold ofCompletion at same
  split at same
  · cases same
  · next failed =>
    cases same
    exact ⟨rfl, member, by simpa using failed⟩

end Event

/-! ## Faults -/

namespace CompletionQueue

/-- A queue that had dropped `counted` completions when its fault was last taken: the fault is there
if it has dropped some since. -/
structure Latched (q : CompletionQueue) (counted : Nat) : Prop where
  grown : counted ≤ q.overruns
  fault : q.fault = true ↔ counted < q.overruns

variable {q r : CompletionQueue} {counted : Nat}

theorem Latched.push (h : q.Latched counted) (report : Completion) :
    (q.push report).Latched counted := by
  have grown := h.grown
  unfold CompletionQueue.push
  split
  · exact ⟨Nat.le_succ_of_le grown, iff_of_true rfl (Nat.lt_succ_of_le grown)⟩
  · exact ⟨grown, h.fault⟩

theorem Latched.grows (h : q.Latched counted) (grown : q.Grows r) : r.Latched counted := by
  obtain ⟨reports, rfl⟩ := grown
  induction reports generalizing q with
  | nil => exact h
  | cons report rest ih => exact ih (h.push report)

theorem latched_ofDepth (depth : Nat) : (ofDepth depth).Latched 0 :=
  ⟨Nat.le_refl 0, iff_of_false nofun (Nat.lt_irrefl 0)⟩

end CompletionQueue

namespace Drain

/-- Every drain has found a fault exactly if its queue had dropped completions since the drain
before, and the next one will. -/
structure Latches (drains : Nat → List Drain) (e : Endpoint) : Prop where
  unknown : ∀ id, e.queue? id = none → drains id = []
  queues : ∀ id q, e.queue? id = some q → q.Latched (counted (drains id))
  found : ∀ id earlier drain later, drains id = earlier ++ drain :: later →
    (drain.latched = true ↔ counted earlier < drain.dropped)

variable {drains : Nat → List Drain} {e t : Endpoint} {id : Nat} {connection after : Connection}

theorem Latches.extends (h : Latches drains e) (extended : e.Extends t) : Latches drains t := by
  refine ⟨fun id absent => ?_, fun id q present => ?_, h.found⟩
  · have becomes := extended id
    rw [absent] at becomes
    generalize hq : e.queue? id = q at becomes
    cases becomes
    exact h.unknown id hq
  · have becomes := extended id
    rw [present] at becomes
    generalize hq : e.queue? id = before at becomes
    cases becomes with
    | made grown =>
      rw [h.unknown id hq]
      exact (CompletionQueue.latched_ofDepth _).grows grown
    | grown grown => exact (h.queues id _ hq).grows grown

/-- Taking completions out of a queue leaves its fault as it is. -/
theorem Latches.emptied (h : Latches drains e) (found : e.connection? id = some connection)
    (replaced : e.Replaced id connection.emptied t) : Latches drains t := by
  have drained := CompletionQueue.drain_eq connection.completions
  refine ⟨fun other absent => ?_, fun other q present => ?_, h.found⟩
  · rw [replaced.queue?] at absent
    split at absent
    · cases absent
    · exact h.unknown other absent
  · rw [replaced.queue?] at present
    split at present
    · next its =>
      subst its
      cases present
      have before := h.queues other _ (Endpoint.queue?_of_found found)
      show connection.completions.drain.2.Latched _
      rw [drained]
      exact ⟨before.grown, before.fault⟩
    · exact h.queues other q present

/-- A drain that ends takes the fault. -/
theorem Latches.settled (h : Latches drains e) (found : e.connection? id = some connection)
    {taken : List Completion} (replaced : e.Replaced id (connection.settled taken) t) :
    Latches (adding drains id (connection.drained taken)) t := by
  have queue := Connection.completions_settled connection taken
  have before := h.queues id _ (Endpoint.queue?_of_found found)
  refine ⟨fun other absent => ?_, fun other q present => ?_,
    fun other earlier drain later split => ?_⟩
  · rw [replaced.queue?] at absent
    split at absent
    · cases absent
    · next apart => rw [adding, if_neg apart]; exact h.unknown other absent
  · rw [replaced.queue?] at present
    split at present
    · next its =>
      cases present
      rw [queue, adding, if_pos its, counted, List.getLast?_concat]
      exact ⟨Nat.le_refl _, iff_of_false nofun (Nat.lt_irrefl _)⟩
    · next apart => rw [adding, if_neg apart]; exact h.queues other q present
  · unfold adding at split
    by_cases its : other = id
    · rw [if_pos its] at split
      rcases List.eq_nil_or_concat later with rfl | ⟨former, last, rfl⟩
      · obtain ⟨same, last⟩ := List.append_inj' split rfl
        cases last
        rw [← same]
        exact before.fault
      · rw [List.concat_eq_append, ← List.cons_append, ← List.append_assoc] at split
        obtain ⟨same, -⟩ := List.append_inj' split rfl
        exact h.found id earlier drain former same
    · rw [if_neg its] at split
      exact h.found other earlier drain later split

end Drain

/-! ## Looks -/

/-- What holds of a look that has come this far, if all tokens fit. -/
structure Gathering.Sound (g : Gathering) (e : Endpoint) : Prop where
  distinct : g.left.Nodup
  registered : ∀ source ∈ g.left, source ∈ e.mux.registered
  full : ∀ id, .connection id ∈ g.left → e.queued id ≠ []
  failed : ∀ id completion, .failed id completion ∈ g.events → e.HasFailed id

theorem Gathering.Sound.bears {g : Gathering} {e t : Endpoint} (h : g.Sound e) (bears : e.Bears t) :
    g.Sound t := by
  have mux : t.mux = e.mux := congrArg Roster.mux bears.roster
  refine ⟨h.distinct, by rw [mux]; exact h.registered, fun id left => ?_,
    fun id completion told => bears.failed id (h.failed id completion told)⟩
  obtain ⟨kept, queued⟩ := bears.extended.queued id
  rw [queued]
  exact List.append_ne_nil_of_left_ne_nil (h.full id left) kept

theorem Gathering.Sound.replaced {g : Gathering} {e t : Endpoint} {id : Nat} {after : Connection}
    (h : g.Sound e) (replaced : e.Replaced id after t)
    (full : .connection id ∈ g.left → after.completions.toList ≠ []) : g.Sound t := by
  have mux : t.mux = e.mux := congrArg Roster.mux replaced.roster
  refine ⟨h.distinct, by rw [mux]; exact h.registered, fun other left => ?_,
    fun other completion told => replaced.failed other (h.failed other completion told)⟩
  rw [replaced.queued]
  split
  · next its => exact full (its ▸ left)
  · exact h.full other left

/-- The sources behind the first one are what they were. -/
theorem Gathering.Sound.rest {g : Gathering} {e : Endpoint} (h : g.Sound e) {source : Source}
    {rest : List Source} (left : g.left = source :: rest) :
    source ∉ rest ∧ Gathering.Sound { g with left := rest } e := by
  obtain ⟨distinct, registered, full, failed⟩ := h
  rw [left] at distinct registered full
  obtain ⟨apart, distinct⟩ := List.nodup_cons.mp distinct
  exact ⟨apart, distinct, fun other member => registered other (List.mem_cons_of_mem _ member),
    fun id member => full id (List.mem_cons_of_mem _ member), failed⟩

/-- What holds of a poll that is under way. -/
def Phase.Sound (phase : Phase) (e : Endpoint) : Prop :=
  match phase with
  | .collecting g =>
    g.found.roster = e.roster ∧
      (e.roster.Fits → g.Sound e ∧ (g.events = [] → g.left = g.fired))
  | .draining g id taken =>
    g.found.roster = e.roster ∧ (∃ connection, e.connection? id = some connection) ∧
      (e.roster.Fits → g.Sound e ∧ taken ≠ [] ∧ .connection id ∈ e.mux.registered)
  | _ => True

theorem Phase.Sound.bears {phase : Phase} {e t : Endpoint} (h : phase.Sound e)
    (bears : e.Bears t) : phase.Sound t := by
  cases phase with
  | idle => trivial
  | waiting limited => trivial
  | collecting g =>
    obtain ⟨roster, gathered⟩ := h
    refine ⟨roster.trans bears.roster.symm, fun fits => ?_⟩
    obtain ⟨sound, untouched⟩ := gathered (by rw [← bears.roster]; exact fits)
    exact ⟨sound.bears bears, untouched⟩
  | draining g id taken =>
    obtain ⟨roster, ⟨connection, found⟩, gathered⟩ := h
    refine ⟨roster.trans bears.roster.symm, bears.extended.found found, fun fits => ?_⟩
    obtain ⟨sound, some, registered⟩ := gathered (by rw [← bears.roster]; exact fits)
    have mux : t.mux = e.mux := congrArg Roster.mux bears.roster
    exact ⟨sound.bears bears, some, by rw [mux]; exact registered⟩

/-- A listener that was found ready has a peer. -/
theorem Phase.Sound.peer {g : Gathering} {e : Endpoint} {id : Nat} {rest : List Source}
    (h : (Phase.collecting g).Sound e) (tidy : e.roster.Tidy)
    (left : g.left = .listener id :: rest) :
    (Phase.collecting
      { g with left := rest, events := g.events ++ (e.eventsOf (.listener id)).1 }).Sound e := by
  obtain ⟨roster, gathered⟩ := h
  refine ⟨roster, fun fits => ?_⟩
  obtain ⟨sound, -⟩ := gathered fits
  obtain ⟨-, fresh⟩ := sound.rest left
  have given : (e.eventsOf (.listener id)).1 = [.incoming id] := by
    have listed := (Endpoint.listener_registered_iff tidy).mp
      (sound.registered _ (by rw [left]; exact List.mem_cons_self))
    simp only [Endpoint.eventsOf, listed, if_true]
  rw [given]
  refine ⟨⟨fresh.distinct, fresh.registered, fresh.full, fun other completion told => ?_⟩,
    fun none => ?_⟩
  · rcases List.mem_append.mp told with old | new
    · exact sound.failed other completion old
    · cases List.mem_singleton.mp new
  · exact absurd none (List.append_ne_nil_of_right_ne_nil _ (List.cons_ne_nil _ _))

/-- A connection that was found ready is there. -/
theorem Phase.Sound.missing {g : Gathering} {e : Endpoint} {id : Nat} {rest : List Source}
    (h : (Phase.collecting g).Sound e) (tidy : e.roster.Tidy)
    (left : g.left = .connection id :: rest) (missing : e.connection? id = none) :
    (Phase.collecting { g with left := rest }).Sound e := by
  obtain ⟨roster, gathered⟩ := h
  refine ⟨roster, fun fits => ?_⟩
  obtain ⟨connection, present, -⟩ := Endpoint.open_of_registered tidy
    ((gathered fits).1.registered _ (by rw [left]; exact List.mem_cons_self))
  rw [missing] at present
  cases present

/-- The completions that made a connection ready are taken. -/
theorem Phase.Sound.emptied {g : Gathering} {e t : Endpoint} {id : Nat} {rest : List Source}
    {after : Connection} (h : (Phase.collecting g).Sound e)
    (left : g.left = .connection id :: rest) (replaced : e.Replaced id after t) :
    (Phase.draining { g with left := rest } id (e.queued id)).Sound t := by
  obtain ⟨roster, gathered⟩ := h
  refine ⟨roster.trans replaced.roster.symm, ⟨after, replaced.found⟩, fun fits => ?_⟩
  obtain ⟨sound, -⟩ := gathered (by rw [← replaced.roster]; exact fits)
  obtain ⟨apart, fresh⟩ := sound.rest left
  have first : .connection id ∈ g.left := by rw [left]; exact List.mem_cons_self
  have mux : t.mux = e.mux := congrArg Roster.mux replaced.roster
  exact ⟨fresh.replaced replaced fun member => absurd member apart, sound.full id first,
    by rw [mux]; exact sound.registered _ first⟩

/-- The drain of a connection is told; a failure in it has ended the connection, which was open
because it is registered. -/
theorem Phase.Sound.settled {g : Gathering} {e t : Endpoint} {id : Nat}
    {taken : List Completion} {connection : Connection}
    (h : (Phase.draining g id taken).Sound e) (tidy : e.roster.Tidy)
    (found : e.connection? id = some connection)
    (replaced : e.Replaced id (connection.settled taken) t)
    (kept : (connection.settled taken).completions.toList = e.queued id) :
    (Phase.collecting
      { g with
        events := g.events ++
          (connection.drained taken).reports.map (Event.ofCompletion id) }).Sound t := by
  obtain ⟨roster, -, gathered⟩ := h
  refine ⟨roster.trans replaced.roster.symm, fun fits => ?_⟩
  obtain ⟨sound, some, registered⟩ := gathered (by rw [← replaced.roster]; exact fits)
  have here := sound.replaced replaced fun left => by rw [kept]; exact sound.full id left
  refine ⟨⟨here.distinct, here.registered, here.full, fun other completion told => ?_⟩,
    fun none => ?_⟩
  · rcases List.mem_append.mp told with old | new
    · exact here.failed other completion old
    · obtain ⟨rfl, member, unsuccessful⟩ := Event.failure_of_failed new
      obtain ⟨_, present, alive⟩ := Endpoint.open_of_registered tidy registered
      rw [found] at present
      cases present
      exact ⟨_, replaced.found,
        Session.state_observed_of_failure ⟨completion, member, unsuccessful⟩ alive⟩
  · have nothing := List.map_eq_nil_iff.mp (List.append_eq_nil_iff.mp none).2
    exact absurd (List.append_eq_nil_iff.mp nothing).1 some

/-- What holds of a poll that has come back. -/
structure Reply.Sound (reply : Reply) : Prop where
  failed : reply.after.roster.Fits → ∀ id completion,
    .failed id completion ∈ reply.last.events → reply.after.HasFailed id
  unlimited : reply.last.limited = false → reply.last.events ≠ []
  quiet : reply.last.found.roster.Fits → reply.last.events = [] →
    ∀ source ∈ reply.last.found.mux.registered,
      reply.last.found.isReady reply.last.glance.waitingOn source.descriptor = false

/-! ## Accounts -/

namespace Account

/-- What holds of an account in every run. -/
structure Sound (a : Account) : Prop where
  tidy : a.stand.endpoint.roster.Tidy
  signalled : a.stand.endpoint.Signalled
  balance : ∀ id, a.accepted id =
    (a.drains id).flatMap Drain.taken ++ a.phase.taken id ++ a.stand.endpoint.queued id
  told : ∀ id, a.events.filterMap (Event.completion? id) = (a.drains id).flatMap Drain.reports
  losses : ∀ id, ∀ drain ∈ a.drains id, drain.loss.isSome = drain.latched ∧
    ∀ loss, drain.loss = some loss →
      loss.request = 0 ∧ loss.operation = .receive ∧ loss.status = .linkLost
  latches : Drain.Latches a.drains a.stand.endpoint
  honest : ∀ event ∈ a.events, event.Honest
  replies : ∀ reply ∈ a.replies, reply.Sound
  phase : a.phase.Sound a.stand.endpoint

variable {a : Account} {g : Gathering} {id : Nat} {connection : Connection}

theorem events_append {b : Account} (replies : b.replies = a.replies) {more : List Event}
    (gathered : b.phase.events = a.phase.events ++ more) : b.events = a.events ++ more := by
  unfold events
  rw [replies, gathered, List.append_assoc]

/-- The poll goes on with peers that wait, and no completion was taken or told. -/
theorem Sound.withPeers (h : a.Sound) {phase : Phase} (more : List Event)
    (gathered : phase.events = a.phase.events ++ more)
    (peers : ∀ event ∈ more, ∃ id, event = .incoming id)
    (taken : ∀ id, phase.taken id = a.phase.taken id) (sound : phase.Sound a.stand.endpoint) :
    Sound { a with phase := phase } := by
  have told : events { a with phase := phase } = a.events ++ more :=
    events_append (a := a) (b := { a with phase := phase }) rfl gathered
  refine ⟨h.tidy, h.signalled, fun id => ?_, fun id => ?_, h.losses, h.latches, ?_, h.replies,
    sound⟩
  · rw [taken]
    exact h.balance id
  · have none : more.filterMap (Event.completion? id) = [] := by
      refine List.filterMap_eq_nil_iff.mpr fun event member => ?_
      obtain ⟨listener, rfl⟩ := peers event member
      rfl
    rw [told, List.filterMap_append, none, List.append_nil]
    exact h.told id
  · rw [told]
    intro event member
    rcases List.mem_append.mp member with old | new
    · exact h.honest event old
    · obtain ⟨listener, rfl⟩ := peers event new
      trivial

/-- The poll goes on, and nothing was taken or told. -/
theorem Sound.withPhase (h : a.Sound) {phase : Phase} (gathered : phase.events = a.phase.events)
    (taken : ∀ id, phase.taken id = a.phase.taken id) (sound : phase.Sound a.stand.endpoint) :
    Sound { a with phase := phase } :=
  h.withPeers [] (gathered.trans (List.append_nil _).symm) nofun taken sound

/-- The endpoint moves on, and nothing is taken out of its queues. -/
theorem Sound.become (h : a.Sound) {stand : Stand}
    (extended : a.stand.endpoint.Extends stand.endpoint) (tidy : stand.endpoint.roster.Tidy)
    (sound : a.phase.Sound stand.endpoint) : (a.become stand).Sound := by
  refine ⟨tidy, fun id _ present => extended.signalled h.signalled id present, fun id => ?_,
    h.told, h.losses, h.latches.extends extended, h.honest, h.replies, sound⟩
  obtain ⟨kept, queued⟩ := extended.queued id
  show a.accepted id ++ (stand.endpoint.queued id).drop (a.stand.endpoint.queued id).length =
    (a.drains id).flatMap Drain.taken ++ a.phase.taken id ++ stand.endpoint.queued id
  rw [queued, List.drop_left, h.balance, List.append_assoc]

/-- Something happens to a connection. -/
theorem Sound.bears (h : a.Sound) {e : Endpoint} (bears : a.stand.endpoint.Bears e) :
    (a.put e).Sound :=
  h.become bears.extended (show e.roster.Tidy by rw [bears.roster]; exact h.tidy)
    (h.phase.bears bears)

/-- What a device reports is accepted while the queue has room. -/
theorem accepted_report (h : a.Sound) (found : a.stand.endpoint.connection? id = some connection)
    (completion : Completion) :
    (a.step (.report id completion)).accepted id = a.accepted id ++
      if connection.completions.size < connection.completions.depth then [completion] else [] := by
  have number := Endpoint.number_of_found h.tidy found
  have pushed : (a.stand.endpoint.report id completion).queued id =
      (connection.completions.push completion).toList := by
    unfold Endpoint.report
    rw [found]
    refine Endpoint.queued_of_found (Endpoint.found_withConnection found ?_)
    exact number
  show a.accepted id ++ ((a.stand.endpoint.report id completion).queued id).drop
    (a.stand.endpoint.queued id).length = _
  rw [pushed, Endpoint.queued_of_found found]
  split
  · next room => rw [CompletionQueue.toList_push_of_room room, List.drop_left]
  · next full =>
    rw [CompletionQueue.toList_push_of_full (Nat.not_lt.mp full), List.drop_length]

/-! ### The steps of a poll -/

theorem Sound.turn_listener (h : a.Sound) (phase : a.phase = .collecting g) {rest : List Source}
    (left : g.left = .listener id :: rest) :
    (a.turn { g with left := rest } (.listener id)).Sound := by
  have sound := h.phase
  rw [phase] at sound
  refine h.withPeers (a.stand.endpoint.eventsOf (.listener id)).1 (by rw [phase]; rfl)
    (fun event member => ⟨id, ?_⟩) (fun other => by rw [phase]; rfl) (sound.peer h.tidy left)
  rw [Endpoint.eventsOf] at member
  split at member
  · exact List.mem_singleton.mp member
  · cases member

/-- Nothing is accepted by a queue that gets shorter. -/
theorem accepted_put {after : Connection} {e : Endpoint}
    (replaced : a.stand.endpoint.Replaced id after e)
    (shorter : after.completions.toList.length ≤ (a.stand.endpoint.queued id).length)
    (other : Nat) : (a.put e).accepted other = a.accepted other := by
  show a.accepted other ++ (e.queued other).drop (a.stand.endpoint.queued other).length = _
  rw [replaced.queued]
  split
  · next its => rw [its, List.drop_eq_nil_of_le shorter, List.append_nil]
  · rw [List.drop_length, List.append_nil]

/-- The turn of a connection begins: what its queue held is taken. -/
theorem Sound.turn_connection (h : a.Sound) (phase : a.phase = .collecting g) {rest : List Source}
    (left : g.left = .connection id :: rest) :
    (a.turn { g with left := rest } (.connection id)).Sound := by
  have sound := h.phase
  rw [phase] at sound
  cases found : a.stand.endpoint.connection? id with
  | none =>
    rw [turn_missing found]
    exact h.withPhase (by rw [phase]; rfl) (fun other => by rw [phase]; rfl)
      (sound.missing h.tidy left found)
  | some connection =>
    have replaced : a.stand.endpoint.Replaced id connection.emptied
        (a.stand.endpoint.withConnection connection.emptied) :=
      Endpoint.replaced_withConnection h.tidy found ⟨rfl, rfl⟩ (fun right => right.drained)
        fun failed => failed
    have drained := CompletionQueue.drain_eq connection.completions
    have empty : connection.emptied.completions.toList = [] := by
      show connection.completions.drain.2.toList = []
      rw [drained]
      rfl
    have taken : connection.completions.drain.1 = a.stand.endpoint.queued id := by
      rw [Endpoint.queued_of_found found, drained]
    rw [turn_found found, taken]
    have latches := h.latches.emptied found replaced
    generalize a.stand.endpoint.withConnection connection.emptied = e at replaced latches ⊢
    have accepted := accepted_put replaced (by rw [empty]; exact Nat.zero_le _)
    generalize hb : ({ a.put e with phase := _ } : Account) = b
    have told : b.events = a.events ++ [] :=
      events_append (by rw [← hb]; rfl) (by rw [← hb, phase, List.append_nil]; rfl)
    rw [List.append_nil] at told
    subst hb
    constructor
    · show e.roster.Tidy
      rw [replaced.roster]
      exact h.tidy
    · exact replaced.signalled h.signalled
    · intro other
      have balance := h.balance other
      rw [phase] at balance
      show (a.put e).accepted other = (a.drains other).flatMap Drain.taken ++
        (if other = id then a.stand.endpoint.queued id else []) ++ e.queued other
      rw [accepted, balance, replaced.queued]
      split
      · next its =>
        rw [its, empty, List.append_nil]
        exact congrArg (· ++ _) (List.append_nil _)
      · rfl
    · intro other
      rw [told]
      exact h.told other
    · exact h.losses
    · exact latches
    · rw [told]
      exact h.honest
    · exact h.replies
    · exact sound.emptied left replaced

/-- The turn of a connection ends: its drain is told, with the loss that it has found. -/
theorem Sound.settle (h : a.Sound) {taken : List Completion}
    (phase : a.phase = .draining g id taken) : (a.settle g id taken).Sound := by
  have sound := h.phase
  rw [phase] at sound
  obtain ⟨-, ⟨connection, found⟩, -⟩ := show Phase.Sound _ _ from sound
  have queue := Connection.completions_settled connection taken
  have kept : (connection.settled taken).completions.toList = a.stand.endpoint.queued id := by
    rw [queue, Endpoint.queued_of_found found]
    rfl
  have replaced : a.stand.endpoint.Replaced id (connection.settled taken)
      (a.stand.endpoint.withConnection (connection.settled taken)) :=
    Endpoint.replaced_withConnection h.tidy found (Connection.fixed_settled connection taken)
      (fun right => by rw [queue]; exact right)
      fun failed => Connection.failed_settled failed taken
  have latches := h.latches.settled found replaced
  rw [settle_found found]
  generalize a.stand.endpoint.withConnection (connection.settled taken) = e at replaced latches ⊢
  have accepted := accepted_put replaced (Nat.le_of_eq (congrArg List.length kept))
  have queued (other : Nat) : e.queued other = a.stand.endpoint.queued other := by
    rw [replaced.queued]
    split
    · next its => rw [its, kept]
    · rfl
  generalize hb : ({ a.put e with phase := _, drains := _ } : Account) = b
  have told : b.events = a.events ++
      (connection.drained taken).reports.map (Event.ofCompletion id) :=
    events_append (by rw [← hb]; rfl) (by rw [← hb, phase]; rfl)
  subst hb
  constructor
  · show e.roster.Tidy
    rw [replaced.roster]
    exact h.tidy
  · exact replaced.signalled h.signalled
  · intro other
    have balance := h.balance other
    rw [phase] at balance
    show (a.put e).accepted other = (Drain.adding a.drains id (connection.drained taken)
      other).flatMap Drain.taken ++ [] ++ e.queued other
    rw [accepted, balance, queued, Drain.flatMap_adding, List.append_nil]
    rfl
  · intro other
    rw [told, List.filterMap_append, h.told, Event.completions_of_reports]
    exact (Drain.flatMap_adding Drain.reports).symm
  · intro other drain member
    rcases Drain.mem_adding member with old | rfl
    · exact h.losses other drain old
    · exact connection.loss_drained taken
  · exact latches
  · rw [told]
    intro event member
    rcases List.mem_append.mp member with old | new
    · exact h.honest event old
    · obtain ⟨report, -, rfl⟩ := List.mem_map.mp new
      exact Event.honest_ofCompletion id report
  · exact h.replies
  · exact sound.settled h.tidy found replaced kept

/-- A poll comes back with events, or when its time is up and nothing was ready; otherwise it
waits again. -/
theorem Sound.conclude (h : a.Sound) (phase : a.phase = .collecting g) (left : g.left = []) :
    (a.conclude g).Sound := by
  have sound := h.phase
  rw [phase] at sound
  obtain ⟨roster, gathered⟩ := sound
  unfold Account.conclude
  split
  · next concludes =>
    have told : events { a with
        phase := .idle, replies := a.replies ++ [⟨g, a.stand.endpoint⟩] } = a.events := by
      unfold events
      rw [phase, List.flatMap_append, List.flatMap_singleton]
      exact List.append_nil _
    refine ⟨h.tidy, h.signalled, fun id => ?_, by rw [told]; exact h.told, h.losses, h.latches,
      by rw [told]; exact h.honest, fun reply member => ?_, trivial⟩
    · have balance := h.balance id
      rw [phase] at balance
      exact balance
    rcases List.mem_append.mp member with old | new
    · exact h.replies reply old
    rw [List.mem_singleton.mp new]
    refine ⟨fun fits => (gathered fits).1.failed, fun unlimited none => ?_, fun fits none => ?_⟩
    · have unlimited : g.limited = false := unlimited
      have none : g.events = [] := none
      rw [Gathering.concludes, unlimited, none] at concludes
      cases concludes
    · have tidy : g.found.roster.Tidy := by rw [roster]; exact h.tidy
      have nothing := (gathered (by rw [← roster]; exact fits)).2 none
      rw [left] at nothing
      exact fun source registered =>
        Endpoint.quiet_of_fired tidy fits _ nothing.symm registered
  · next onward =>
    have none : g.events = [] := by
      cases hevents : g.events with
      | nil => rfl
      | cons event rest =>
        rw [Gathering.concludes, hevents] at onward
        exact absurd rfl onward
    exact h.withPhase (by rw [phase]; exact none.symm) (fun id => by rw [phase]; rfl) trivial

/-! ### Runs -/

theorem Sound.advance (h : a.Sound) : a.advance.Sound := by
  cases phase : a.phase with
  | idle => simp only [Account.advance, phase]; exact h
  | waiting limited => simp only [Account.advance, phase]; exact h
  | collecting g =>
    cases left : g.left with
    | nil =>
      rw [advance_concluding phase left]
      exact h.conclude phase left
    | cons source rest =>
      rw [advance_turning phase left]
      cases source with
      | listener id => exact h.turn_listener phase left
      | connection id => exact h.turn_connection phase left
  | draining g id taken =>
    rw [advance_draining phase]
    exact h.settle phase

theorem Sound.step (h : a.Sound) (occurrence : Occurrence) : (a.step occurrence).Sound := by
  cases occurrence with
  | call event =>
    unfold Account.step
    dsimp only
    split
    · next phase =>
      split
      · exact h
      · next other =>
        refine h.become (Stand.extends_step h.tidy (by simpa using other))
          (h.tidy.shifts (Stand.hands_step h.tidy event).shifts) ?_
        rw [phase]
        trivial
    · exact h
  | deliver id bytes ended => exact h.bears (Endpoint.bears_deliver h.tidy id bytes ended)
  | report id completion => exact h.bears (Endpoint.bears_report h.tidy id completion)
  | begin limited =>
    unfold Account.step
    dsimp only
    split
    · next phase => exact h.withPhase (by rw [phase]; rfl) (fun id => by rw [phase]; rfl) trivial
    · exact h
  | wake glance expired =>
    unfold Account.step
    dsimp only
    split
    · next limited phase =>
      refine h.withPhase (by rw [phase]; rfl) (fun id => by rw [phase]; rfl) ⟨rfl, fun fits => ?_⟩
      have given {source : Source} (fired : source ∈ a.stand.endpoint.fired glance) :=
        List.mem_filter.mp (Endpoint.mem_fired h.tidy fits glance fired)
      exact ⟨⟨Endpoint.nodup_fired h.tidy fits glance, fun source fired => (given fired).1,
        fun id fired => Endpoint.queued_of_ready h.signalled (given fired).2, nofun⟩,
        fun _ => rfl⟩
    · exact h
  | advance => exact h.advance

theorem sound_start {stand : Stand} (tidy : stand.endpoint.roster.Tidy)
    (fresh : stand.endpoint.connections = []) : (start stand).Sound := by
  have absent (id : Nat) : stand.endpoint.queue? id = none := by
    unfold Endpoint.queue? Endpoint.connection?
    rw [fresh]
    rfl
  refine ⟨tidy, fun id q present => ?_, fun id => ?_, fun _ => rfl, nofun,
    ⟨fun _ _ => rfl, fun id q present => ?_, fun id earlier drain later impossible => ?_⟩, nofun,
    fun _ member => absurd member List.not_mem_nil, trivial⟩
  · have present : stand.endpoint.queue? id = some q := present
    rw [absent] at present
    cases present
  · show [] = [] ++ [] ++ stand.endpoint.queued id
    unfold Endpoint.queued
    rw [absent]
    rfl
  · have present : stand.endpoint.queue? id = some q := present
    rw [absent] at present
    cases present
  · cases earlier <;> cases impossible

/-- Events are delivered once and in order.  Whatever is done with an endpoint, whatever arrives
and is reported at whatever time, and however it polls: what a queue has accepted is, in order,
what its drains have taken, what a drain that is under way has taken, and what is queued; and the
events of its connection are what the drains gave, each with one more failure at its end exactly if
it found the fault of the queue, that is if the queue had dropped completions since the drain
before.  An event tells a success from a failure.  When a poll has come back with a failure, its
connection has failed; a poll without a time limit never comes back empty, and one with a limit only
if no registered source was ready at its last wait.

What an account takes for accepted is what devices have reported while there was room, and its polls
are those of the endpoint: where nothing comes between, the steps of a poll end with the events and
the endpoint of `Endpoint.poll`, or are still waiting as it is. -/
theorem events_delivered_once (config : EndpointConfig) (device : Device)
    (publication : Publication) (region : Region) (board : Board)
    (occurrences : List Occurrence) :
    let a := (start ⟨Endpoint.opened config device publication region, board⟩).run occurrences
    (∀ id,
      a.accepted id =
        (a.drains id).flatMap Drain.taken ++ a.phase.taken id ++ a.stand.endpoint.queued id ∧
      a.events.filterMap (Event.completion? id) = (a.drains id).flatMap Drain.reports ∧
      ∀ earlier drain later, a.drains id = earlier ++ drain :: later →
        (drain.latched = true ↔ Drain.counted earlier < drain.dropped) ∧
        drain.loss.isSome = drain.latched ∧ ∀ loss, drain.loss = some loss →
          loss.request = 0 ∧ loss.operation = .receive ∧ loss.status = .linkLost) ∧
    (∀ event ∈ a.events, event.Honest) ∧
    (∀ reply ∈ a.replies,
      (reply.after.roster.Fits → ∀ id completion,
        .failed id completion ∈ reply.last.events → reply.after.HasFailed id) ∧
      (reply.last.limited = false → reply.last.events ≠ []) ∧
      (reply.last.found.roster.Fits → reply.last.events = [] →
        ∀ source ∈ reply.last.found.mux.registered,
          reply.last.found.isReady reply.last.glance.waitingOn source.descriptor = false)) ∧
    (∀ id connection, a.stand.endpoint.connection? id = some connection → ∀ completion,
      (a.step (.report id completion)).accepted id = a.accepted id ++
        if connection.completions.size < connection.completions.depth then [completion]
        else []) ∧
    (a.phase = .idle → ∀ limited moments, moments ≠ [] →
      ∃ own, Moment.Uninterrupted moments own ∧
        (a.run (.begin limited :: own)).Polled (a.stand.endpoint.poll limited moments)
          a.stand.board limited a.replies) := by
  intro a
  have sound : a.Sound := run_induction
    (sound_start (Stand.tidy_opened config device publication region) rfl)
    (fun _ occurrence h => h.step occurrence) occurrences
  refine ⟨fun id => ⟨sound.balance id, sound.told id, fun earlier drain later split => ?_⟩,
    sound.honest, fun reply member => ?_, fun id connection found completion =>
      accepted_report sound found completion,
    fun idle limited moments waits => run_poll idle sound.tidy limited waits⟩
  · have member : drain ∈ a.drains id := by
      rw [split]
      exact List.mem_append_right _ List.mem_cons_self
    exact ⟨sound.latches.found id earlier drain later split, sound.losses id drain member⟩
  · have right := sound.replies reply member
    exact ⟨right.failed, right.unlimited, right.quiet⟩

end Account

end RdmaLink
