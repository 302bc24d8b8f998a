import RdmaLink.Proofs.Endpoint.Queues

/-!
# A poll, step by step

`Endpoint.poll` takes every look at once.  But while an endpoint waits and gathers its events,
bytes arrive and devices report completions, also between the two halves of one drain: the queue
is emptied, and then its fault is taken.  Here a poll is a sequence of steps, and between any two
of them something may happen to any connection.  Beside the endpoint an account is kept of what
its queues have accepted, what the drains have given, and what the polls have answered.

    account.run (a ++ b) = (account.run a).run b                       (Account.run_append)

Where nothing comes between, the steps of a poll are `Endpoint.poll`: they end with its answer and
its endpoint (`Account.run_poll`).
-/

namespace RdmaLink

/-! ## Drains -/

/-- What a drain took out of a queue, and the report of what the queue had dropped. -/
structure Drain where
  taken : List Completion
  loss : Option Completion
  /-- Whether it found the fault of the queue. -/
  latched : Bool
  /-- How many completions the queue had dropped in all. -/
  dropped : Nat

/-- The completions that a drain gives. -/
def Drain.reports (drain : Drain) : List Completion := drain.taken ++ drain.loss.toList

/-- How many completions a queue had dropped at the last of its drains. -/
def Drain.counted (drains : List Drain) : Nat := (drains.getLast?.map Drain.dropped).getD 0

/-- The drains of every connection, with one more of one of them. -/
def Drain.adding (drains : Nat → List Drain) (id : Nat) (drain : Drain) : Nat → List Drain :=
  fun other => if other = id then drains id ++ [drain] else drains other

namespace Connection

/-- The first half of a drain: the completions are taken. -/
def emptied (connection : Connection) : Connection :=
  { connection with completions := connection.completions.drain.2 }

/-- The drain that has taken completions and ends now. -/
def drained (connection : Connection) (taken : List Completion) : Drain :=
  ⟨taken, if connection.completions.fault then some (Session.lossReport connection) else none,
    connection.completions.fault, connection.completions.overruns⟩

/-- The second half of a drain: the fault is taken, and the state moves on. -/
def settled (connection : Connection) (taken : List Completion) : Connection :=
  (connection.drained taken).reports.foldl Session.observe
    { connection with completions := connection.completions.takeFault.2 }

theorem reports_drained (connection : Connection) (taken : List Completion) :
    (connection.drained taken).reports =
      if connection.completions.fault then taken ++ [Session.lossReport connection]
      else taken := by
  unfold drained Drain.reports
  split
  · rfl
  · exact List.append_nil taken

/-- What a connection holds and how it is carried do not change with its state. -/
theorem fixed_observed (reports : List Completion) (connection : Connection) :
    (reports.foldl Session.observe connection).holding = connection.holding ∧
      (reports.foldl Session.observe connection).transport = connection.transport := by
  induction reports generalizing connection with
  | nil => exact ⟨rfl, rfl⟩
  | cons report rest ih =>
    have carried : (Session.observe connection report).transport = connection.transport := by
      unfold Session.observe
      split
      · split <;> rfl
      · split <;> rfl
    exact ⟨(ih _).1.trans (holding_observe connection report), (ih _).2.trans carried⟩

/-- The report of a loss belongs to no request, and it is there if the fault was found. -/
theorem loss_drained (connection : Connection) (taken : List Completion) :
    let drain := connection.drained taken
    drain.loss.isSome = drain.latched ∧ ∀ loss, drain.loss = some loss →
      loss.request = 0 ∧ loss.operation = .receive ∧ loss.status = .linkLost := by
  unfold drained
  dsimp only
  split
  · next latched =>
    refine ⟨latched.symm, fun loss same => ?_⟩
    cases same
    exact ⟨rfl, rfl, rfl⟩
  · next quiet => exact ⟨(Bool.eq_false_iff.mpr quiet).symm, nofun⟩

theorem fixed_settled (connection : Connection) (taken : List Completion) :
    (connection.settled taken).holding = connection.holding ∧
      (connection.settled taken).transport = connection.transport := fixed_observed _ _

theorem id_settled (connection : Connection) (taken : List Completion) :
    (connection.settled taken).id = connection.id :=
  congrArg Holding.connection (fixed_settled connection taken).1

theorem completions_settled (connection : Connection) (taken : List Completion) :
    (connection.settled taken).completions = connection.completions.takeFault.2 :=
  (Session.kept_of_observed _ _).2.1

/-- What has failed stays so. -/
theorem failed_settled {connection : Connection} (failed : connection.state = .error)
    (taken : List Completion) : (connection.settled taken).state = .error := by
  rcases Session.observed_cases (connection.drained taken).reports
    { connection with completions := connection.completions.takeFault.2 } with
    same | ⟨ready, -⟩ | ⟨-, failed⟩
  · exact same.trans failed
  · exact absurd (failed.symm.trans ready) (by decide)
  · exact failed

end Connection

namespace Drain

variable {drains : Nat → List Drain} {id other : Nat} {drain : Drain}

theorem flatMap_adding (f : Drain → List Completion) :
    (adding drains id drain other).flatMap f =
      (drains other).flatMap f ++ if other = id then f drain else [] := by
  unfold adding
  split
  · next its => rw [its, List.flatMap_append, List.flatMap_singleton]
  · rw [List.append_nil]

theorem mem_adding {member : Drain} (h : member ∈ adding drains id drain other) :
    member ∈ drains other ∨ member = drain := by
  unfold adding at h
  split at h
  · next its =>
    rw [its]
    exact (List.mem_append.mp h).imp_right List.mem_singleton.mp
  · exact Or.inl h

end Drain

/-- A drain is its two halves with nothing between them. -/
theorem Session.drain_eq_halves (s : Session) :
    let taken := s.connection.completions.drain.1
    s.drain = ((s.connection.emptied.drained taken).reports,
      s.withConnection (s.connection.emptied.settled taken)) := by
  intro taken
  rw [Connection.settled, Connection.reports_drained]
  rfl

namespace Endpoint

/-- The endpoint after a device has reported a completion to a connection. -/
def report (e : Endpoint) (id : Nat) (completion : Completion) : Endpoint :=
  match e.connection? id with
  | none => e
  | some connection =>
    e.withConnection { connection with completions := connection.completions.push completion }

section Replacing

variable {e : Endpoint} {id : Nat} {connection : Connection}

/-- A session that moves only its connection on. -/
theorem withSession_of_connection {after : Connection}
    (transport : after.transport = connection.transport) :
    e.withSession ((e.sessionOf connection).withConnection after) = e.withConnection after := by
  unfold withSession afterSession sessionOf Session.withConnection
  rw [transport, withCarrier_carrier]

/-- Of two connections with one number the second is left. -/
theorem withConnection_withConnection {first second : Connection} (same : first.id = second.id) :
    (e.withConnection first).withConnection second = e.withConnection second := by
  unfold withConnection
  rw [List.map_map]
  congr 1
  refine List.map_congr_left fun entry _ => ?_
  rw [Function.comp_apply, same]
  by_cases its : (entry.1 == second.id) = true
  · simp only [its, if_true]
  · simp only [its, if_false, Bool.false_eq_true]

/-- A connection that has not moved leaves the endpoint as it is. -/
theorem withConnection_self (tidy : e.roster.Tidy) (found : e.connection? id = some connection) :
    e.withConnection connection = e := by
  obtain ⟨former, later, before, after⟩ :=
    withConnection_split (numbered_of_tidy tidy) found (number_of_found tidy found)
  have same : (e.withConnection connection).connections = e.connections := after.trans before.symm
  unfold withConnection at same ⊢
  dsimp only at same
  rw [same]

theorem eventsOf_connection (found : e.connection? id = some connection) :
    let taken := connection.completions.drain.1
    e.eventsOf (.connection id) =
      ((connection.emptied.drained taken).reports.map (Event.ofCompletion id),
        (e.withConnection connection.emptied).withConnection
          (connection.emptied.settled taken)) := by
  intro taken
  simp only [eventsOf, found]
  rw [Session.drain_eq_halves,
    withConnection_withConnection (Connection.id_settled _ _).symm]
  exact congrArg (Prod.mk _) (withSession_of_connection (Connection.fixed_settled _ _).2)

/-! ## Looks that find nothing -/

/-- A queue from which nothing came, not even a fault, is as it was. -/
theorem settled_of_nothing (nothing : (connection.emptied.drained
    connection.completions.drain.1).reports = []) :
    connection.emptied.settled connection.completions.drain.1 = connection := by
  unfold Connection.settled
  rw [nothing]
  rw [Connection.reports_drained] at nothing
  unfold Connection.emptied at nothing ⊢
  rw [CompletionQueue.drain_eq] at nothing ⊢
  dsimp only at nothing ⊢
  split at nothing
  · exact absurd nothing (List.append_ne_nil_of_right_ne_nil _ (List.cons_ne_nil _ _))
  · next quiet =>
    have none : connection.completions.entries = #[] := Array.toList_eq_nil_iff.mp nothing
    have size : ¬ 0 < connection.completions.size := by simp [CompletionQueue.size, none]
    have quiet : connection.completions.fault = false := by simpa using quiet
    rw [if_neg size, ← none]
    simp only [CompletionQueue.takeFault, List.foldl_nil, ← quiet]

theorem eventsOf_of_nothing (tidy : e.roster.Tidy) {source : Source}
    (nothing : (e.eventsOf source).1 = []) : (e.eventsOf source).2 = e := by
  cases source with
  | listener id => simp only [eventsOf]; split <;> rfl
  | connection id =>
    cases found : e.connection? id with
    | none => simp only [eventsOf, found]
    | some connection =>
      rw [eventsOf_connection found] at nothing ⊢
      have same := settled_of_nothing (List.map_eq_nil_iff.mp nothing)
      have number := Connection.id_settled connection.emptied connection.completions.drain.1
      dsimp only
      rw [withConnection_withConnection number.symm, same, withConnection_self tidy found]

theorem roster_eventsOf (tidy : e.roster.Tidy) (source : Source) :
    (e.eventsOf source).2.roster = e.roster := eventsOf_keeps (roster_keeps tidy) rfl source

theorem roster_arrive (tidy : e.roster.Tidy) (moment : Moment) :
    (e.arrive moment).roster = e.roster := arrive_keeps (roster_keeps tidy) rfl moment

/-- Sources that give no events are left as they were. -/
theorem collect_of_nothing (tidy : e.roster.Tidy) {sources : List Source}
    (nothing : (e.collect sources).1 = []) : (e.collect sources).2 = e := by
  induction sources with
  | nil => rfl
  | cons source rest ih =>
    simp only [collect, List.append_eq_nil_iff] at nothing ⊢
    have same := eventsOf_of_nothing tidy nothing.1
    rw [same] at nothing ⊢
    exact ih nothing.2

/-- A look that finds events ends a poll. -/
theorem poll_of_events {moment : Moment} (some : (e.look moment).1 ≠ []) (limited : Bool)
    (later : List Moment) :
    e.poll limited (moment :: later) = (.some (e.look moment).1, (e.look moment).2) := by
  unfold poll
  generalize e.look moment = looked at some ⊢
  obtain ⟨events, after⟩ := looked
  cases events with
  | nil => exact absurd rfl some
  | cons event rest => rfl

/-- After a look that finds nothing a poll goes on with what has arrived. -/
theorem poll_of_nothing (tidy : e.roster.Tidy) {moment : Moment}
    (nothing : (e.look moment).1 = []) (limited : Bool) (later : List Moment) :
    e.poll limited (moment :: later) = (e.arrive moment).poll limited later := by
  have same : (e.look moment).2 = e.arrive moment :=
    collect_of_nothing (by rw [roster_arrive tidy]; exact tidy) nothing
  rw [← same, poll]
  generalize e.look moment = looked at nothing ⊢
  obtain ⟨events, after⟩ := looked
  cases nothing
  rfl

end Replacing

end Endpoint

/-! ## Gathering events -/

/-- A look that an endpoint takes, as far as it has come. -/
structure Gathering where
  limited : Bool
  /-- Whether the time was up when the wait began. -/
  expired : Bool
  /-- The endpoint as the wait found it. -/
  found : Endpoint
  /-- What the wait was told. -/
  glance : Glance
  /-- The ready sources that have not given their events yet. -/
  left : List Source
  /-- The events so far. -/
  events : List Event

namespace Gathering

/-- The sources that the wait found ready. -/
def fired (g : Gathering) : List Source := g.found.fired g.glance

/-- Whether the poll ends with this look. -/
def concludes (g : Gathering) : Bool :=
  !g.events.isEmpty || (g.limited && (g.expired || g.fired.isEmpty))

end Gathering

/-- Where a program stands with its polls. -/
inductive Phase where
  | idle
  | waiting (limited : Bool)
  | collecting (g : Gathering)
  /-- The completions of a connection were taken, and the drain is not over. -/
  | draining (g : Gathering) (id : Nat) (taken : List Completion)

namespace Phase

/-- The events that were gathered and not given back yet. -/
def events : Phase → List Event
  | .collecting g => g.events
  | .draining g _ _ => g.events
  | _ => []

/-- The completions of a connection that are in no queue and in no event yet. -/
def taken (phase : Phase) (id : Nat) : List Completion :=
  match phase with
  | .draining _ other taken => if id = other then taken else []
  | _ => []

end Phase

/-- A poll that has come back: its last look, and the endpoint that it has left. -/
structure Reply where
  last : Gathering
  after : Endpoint

/-- What happens next. -/
inductive Occurrence where
  /-- The program makes a call that is no poll. -/
  | call (event : EndpointEvent)
  /-- Bytes arrive on the link of a connection, which ends after them if `ended`. -/
  | deliver (connection : Nat) (bytes : Bytes) (ended : Bool)
  /-- A device reports a completion to a connection. -/
  | report (connection : Nat) (completion : Completion)
  /-- The program polls. -/
  | begin (limited : Bool)
  /-- The wait of a poll ends. -/
  | wake (glance : Glance) (expired : Bool)
  /-- The poll takes its next step. -/
  | advance

/-- What arrives by a moment. -/
def Moment.deliveries (moment : Moment) : List Occurrence :=
  moment.arrivals.map fun (id, bytes, ended) => .deliver id bytes ended

/-- The steps of a poll through moments, from its beginning on, if nothing comes between them: what
arrives by some of the moments, and at one of them the end of the wait and what follows from it. -/
inductive Moment.Uninterrupted : List Moment → List Occurrence → Prop
  /-- The poll is still waiting. -/
  | waiting : Uninterrupted [] []
  | later {moment : Moment} {moments : List Moment} {own : List Occurrence}
      (rest : Uninterrupted moments own) :
      Uninterrupted (moment :: moments) (moment.deliveries ++ own)
  | woken (moment : Moment) (unseen : List Moment) (expired : Bool) (steps : Nat) :
      Uninterrupted (moment :: unseen)
        (moment.deliveries ++ .wake moment.glance expired :: List.replicate steps .advance)

/-- An endpoint with the account of its completions. -/
structure Account where
  stand : Stand
  phase : Phase
  replies : List Reply
  /-- What each queue has accepted so far, in the order in which it was pushed. -/
  accepted : Nat → List Completion
  /-- The drains of each connection, the first one first. -/
  drains : Nat → List Drain

namespace Account

def start (stand : Stand) : Account := ⟨stand, .idle, [], fun _ => [], fun _ => []⟩

/-- The events of all the polls, with those that are on their way. -/
def events (a : Account) : List Event :=
  a.replies.flatMap (fun reply => reply.last.events) ++ a.phase.events

/-- The stand moves on; what stands in a queue beyond what it held was accepted. -/
def become (a : Account) (stand : Stand) : Account :=
  { a with
    stand := stand
    accepted := fun id => a.accepted id ++
      (stand.endpoint.queued id).drop (a.stand.endpoint.queued id).length }

/-- The endpoint moves on. -/
def put (a : Account) (e : Endpoint) : Account := a.become { a.stand with endpoint := e }

/-- All sources have given their events: the poll comes back, or it waits again. -/
def conclude (a : Account) (g : Gathering) : Account :=
  if g.concludes then
    { a with phase := .idle, replies := a.replies ++ [⟨g, a.stand.endpoint⟩] }
  else { a with phase := .waiting g.limited }

/-- It is the turn of a source. -/
def turn (a : Account) (g : Gathering) : Source → Account
  | .listener id =>
    let events := (a.stand.endpoint.eventsOf (.listener id)).1
    { a with phase := .collecting { g with events := g.events ++ events } }
  | .connection id =>
    match a.stand.endpoint.connection? id with
    | none => { a with phase := .collecting g }
    | some connection =>
      { a.put (a.stand.endpoint.withConnection connection.emptied) with
        phase := .draining g id connection.completions.drain.1 }

/-- A drain ends. -/
def settle (a : Account) (g : Gathering) (id : Nat) (taken : List Completion) : Account :=
  match a.stand.endpoint.connection? id with
  | none => { a with phase := .collecting g }
  | some connection =>
    let drain := connection.drained taken
    { a.put (a.stand.endpoint.withConnection (connection.settled taken)) with
      phase := .collecting
        { g with events := g.events ++ drain.reports.map (Event.ofCompletion id) }
      drains := Drain.adding a.drains id drain }

/-- The next step of a poll. -/
def advance (a : Account) : Account :=
  match a.phase with
  | .idle | .waiting _ => a
  | .collecting g =>
    match g.left with
    | [] => a.conclude g
    | source :: rest => a.turn { g with left := rest } source
  | .draining g id taken => a.settle g id taken

/-- What an occurrence makes of the account; a call waits until no poll is under way. -/
def step (a : Account) : Occurrence → Account
  | .call event =>
    match a.phase with
    | .idle => if event.isPoll then a else a.become (a.stand.step event)
    | _ => a
  | .deliver id bytes ended => a.put (a.stand.endpoint.deliver id bytes ended)
  | .report id completion => a.put (a.stand.endpoint.report id completion)
  | .begin limited =>
    match a.phase with
    | .idle => { a with phase := .waiting limited }
    | _ => a
  | .wake glance expired =>
    match a.phase with
    | .waiting limited =>
      let e := a.stand.endpoint
      { a with
        phase := .collecting ⟨limited, expired, e, glance, e.fired glance, []⟩ }
    | _ => a
  | .advance => a.advance

def run (a : Account) (occurrences : List Occurrence) : Account := occurrences.foldl step a

theorem run_append (a : Account) (first second : List Occurrence) :
    a.run (first ++ second) = (a.run first).run second := List.foldl_append

/-- What holds at the start and is kept by every occurrence holds after every run. -/
theorem run_induction {P : Account → Prop} {a : Account} (base : P a)
    (keep : ∀ a occurrence, P a → P (a.step occurrence)) (occurrences : List Occurrence) :
    P (a.run occurrences) := by
  induction occurrences generalizing a with
  | nil => exact base
  | cons occurrence rest ih => exact ih (keep a occurrence base)

/-! ### Steps of a poll -/

section Steps

variable {a : Account} {g : Gathering} {id : Nat} {connection : Connection}

theorem advance_concluding (h : a.phase = .collecting g) (left : g.left = []) :
    a.advance = a.conclude g := by
  simp only [advance, h, left]

theorem advance_turning (h : a.phase = .collecting g) {source : Source} {rest : List Source}
    (left : g.left = source :: rest) : a.advance = a.turn { g with left := rest } source := by
  simp only [advance, h, left]

theorem advance_draining {taken : List Completion} (h : a.phase = .draining g id taken) :
    a.advance = a.settle g id taken := by
  simp only [advance, h]

theorem turn_missing (missing : a.stand.endpoint.connection? id = none) :
    a.turn g (.connection id) = { a with phase := .collecting g } := by
  simp only [turn, missing]

theorem turn_found (found : a.stand.endpoint.connection? id = some connection) :
    a.turn g (.connection id) =
      { a.put (a.stand.endpoint.withConnection connection.emptied) with
        phase := .draining g id connection.completions.drain.1 } := by
  simp only [turn, found]

theorem settle_found (found : a.stand.endpoint.connection? id = some connection)
    (taken : List Completion) :
    a.settle g id taken =
      { a.put (a.stand.endpoint.withConnection (connection.settled taken)) with
        phase := .collecting
          { g with
            events := g.events ++
              (connection.drained taken).reports.map (Event.ofCompletion id) }
        drains := Drain.adding a.drains id (connection.drained taken) } := by
  simp only [settle, found]

end Steps

/-! ## Where nothing comes between -/

/-- What an account says of its endpoint and its polls. -/
structure Shows (a : Account) (e : Endpoint) (board : Board) (phase : Phase)
    (replies : List Reply) : Prop where
  stand : a.stand = ⟨e, board⟩
  phase : a.phase = phase
  replies : a.replies = replies

section Alone

variable {a : Account} {e : Endpoint} {board : Board} {phase : Phase} {replies : List Reply}

theorem Shows.arrive (h : a.Shows e board phase replies) (moment : Moment) :
    (a.run moment.deliveries).Shows (e.arrive moment) board phase replies := by
  unfold Endpoint.arrive Moment.deliveries
  induction moment.arrivals generalizing a e with
  | nil => exact h
  | cons arrival rest ih =>
    obtain ⟨id, bytes, ended⟩ := arrival
    have first : (a.step (.deliver id bytes ended)).Shows (e.deliver id bytes ended) board phase
        replies := by
      refine ⟨?_, h.phase, h.replies⟩
      show ({ a.stand with endpoint := a.stand.endpoint.deliver id bytes ended } : Stand) = _
      rw [h.stand]
    exact ih first

/-- The turn of one source gives what the source gives at once. -/
theorem Shows.turn {g : Gathering} (h : a.Shows e board (.collecting g) replies)
    (tidy : e.roster.Tidy) {source : Source} {rest : List Source} (left : g.left = source :: rest) :
    ∃ steps, (a.run (List.replicate steps .advance)).Shows (e.eventsOf source).2 board
      (.collecting { g with left := rest, events := g.events ++ (e.eventsOf source).1 })
      replies := by
  have turned : a.step .advance = a.turn { g with left := rest } source :=
    advance_turning h.phase left
  have here : a.stand.endpoint = e := by rw [h.stand]
  cases source with
  | listener id =>
    refine ⟨1, ?_⟩
    show (a.step .advance).Shows _ _ _ _
    rw [turned]
    have same : (e.eventsOf (.listener id)).2 = e := by
      simp only [Endpoint.eventsOf]
      split <;> rfl
    refine ⟨by rw [same]; exact h.stand, ?_, h.replies⟩
    simp only [Account.turn, here]
  | connection id =>
    cases found : e.connection? id with
    | none =>
      refine ⟨1, ?_⟩
      show (a.step .advance).Shows _ _ _ _
      rw [turned]
      simp only [Account.turn, here, found, Endpoint.eventsOf, List.append_nil]
      exact ⟨h.stand, rfl, h.replies⟩
    | some connection =>
      refine ⟨2, ?_⟩
      show ((a.step .advance).step .advance).Shows _ _ _ _
      have number := Endpoint.number_of_found tidy found
      rw [turned, turn_found (by rw [here]; exact found), Endpoint.eventsOf_connection found, here]
      generalize hb :
        ({ a.put (e.withConnection connection.emptied) with phase := _ } : Account) = b
      have present : b.stand.endpoint.connection? id = some connection.emptied := by
        rw [← hb]
        exact Endpoint.found_withConnection found number
      have settled : b.step .advance = b.settle { g with left := rest } id
          connection.completions.drain.1 := advance_draining (by rw [← hb])
      rw [settled, settle_found present, ← hb]
      refine ⟨?_, rfl, h.replies⟩
      show ({ a.stand with endpoint := _ } : Stand) = _
      rw [h.stand]
      rfl

/-- Sources one after the other give what they give at once. -/
theorem Shows.collect {g : Gathering} (h : a.Shows e board (.collecting g) replies)
    (tidy : e.roster.Tidy) :
    ∃ steps, (a.run (List.replicate steps .advance)).Shows (e.collect g.left).2 board
      (.collecting { g with left := [], events := g.events ++ (e.collect g.left).1 }) replies := by
  generalize hleft : g.left = left
  induction left generalizing a e g with
  | nil =>
    refine ⟨0, ?_⟩
    simp only [Endpoint.collect, List.append_nil, ← hleft]
    exact h
  | cons source rest ih =>
    obtain ⟨steps, first⟩ := h.turn tidy hleft
    have tidy' : (e.eventsOf source).2.roster.Tidy := by
      rw [Endpoint.roster_eventsOf tidy]; exact tidy
    obtain ⟨more, later⟩ := ih first tidy' rfl
    refine ⟨steps + more, ?_⟩
    rw [List.replicate_add, run_append]
    simp only [Endpoint.collect, ← List.append_assoc]
    exact later

/-- A wait that ends comes to a decision over what its look has found. -/
theorem Shows.look {limited : Bool} (h : a.Shows e board (.waiting limited) replies)
    (tidy : e.roster.Tidy) (glance : Glance) (expired : Bool) :
    let looked := e.collect (e.fired glance)
    let g : Gathering := ⟨limited, expired, e, glance, [], looked.1⟩
    g.concludes = true → ∃ steps,
      (a.run (.wake glance expired :: List.replicate steps .advance)).Shows looked.2 board .idle
        (replies ++ [⟨g, looked.2⟩]) := by
  intro looked g concludes
  have woken : (a.step (.wake glance expired)).Shows e board
      (.collecting ⟨limited, expired, e, glance, e.fired glance, []⟩)
      replies := by
    simp only [step, h.phase]
    exact ⟨h.stand, by rw [h.stand], h.replies⟩
  obtain ⟨steps, gathered⟩ := woken.collect tidy
  refine ⟨steps + 1, ?_⟩
  rw [List.replicate_add, ← List.cons_append, run_append]
  generalize hb : a.run (.wake glance expired :: List.replicate steps .advance) = b
  rw [show (a.step (.wake glance expired)).run (List.replicate steps .advance) = b from hb]
    at gathered
  show (b.step .advance).Shows _ _ _ _
  have advanced : b.step .advance = b.conclude g := advance_concluding gathered.phase rfl
  rw [advanced, conclude, if_pos concludes]
  refine ⟨gathered.stand, rfl, ?_⟩
  show b.replies ++ _ = _
  rw [gathered.replies, gathered.stand]

/-- What the steps of a poll come to: to what the poll comes to at once. -/
def Polled (a : Account) (outcome : Option (List Event) × Endpoint) (board : Board)
    (limited : Bool) (replies : List Reply) : Prop :=
  match outcome with
  | (none, after) => a.Shows after board (.waiting limited) replies
  | (some events, after) =>
    ∃ last : Gathering, last.limited = limited ∧ last.events = events ∧
      a.Shows after board .idle (replies ++ [⟨last, after⟩])

theorem Shows.poll {limited : Bool} (h : a.Shows e board (.waiting limited) replies)
    (tidy : e.roster.Tidy) {moments : List Moment} (waits : moments ≠ []) :
    ∃ own, Moment.Uninterrupted moments own ∧
      (a.run own).Polled (e.poll limited moments) board limited replies := by
  induction moments generalizing a e with
  | nil => exact absurd rfl waits
  | cons moment later ih =>
    have arrived := h.arrive moment
    have tidy' : (e.arrive moment).roster.Tidy := by
      rw [Endpoint.roster_arrive tidy]; exact tidy
    have looks := arrived.look tidy' moment.glance
    by_cases nothing : (e.look moment).1 = []
    · rw [Endpoint.poll_of_nothing tidy nothing]
      cases later with
      | cons next rest =>
        obtain ⟨own, alone, ended⟩ := ih arrived tidy' (List.cons_ne_nil _ _)
        exact ⟨moment.deliveries ++ own, .later alone, by rw [run_append]; exact ended⟩
      | nil =>
        cases limited with
        | false =>
          refine ⟨moment.deliveries ++ [], .later .waiting, ?_⟩
          rw [List.append_nil]
          exact arrived
        | true =>
          -- The time is up when the last wait begins.
          obtain ⟨steps, ended⟩ := looks true (Bool.or_true _)
          have same := Endpoint.collect_of_nothing tidy' nothing
          rw [same] at ended
          refine ⟨_, .woken moment [] true steps,
            ⟨⟨true, true, e.arrive moment, moment.glance, [], (e.look moment).1⟩, rfl, nothing,
              ?_⟩⟩
          rw [run_append]
          exact ended
    · rw [Endpoint.poll_of_events nothing]
      obtain ⟨steps, ended⟩ := looks false (by
        show (!(e.look moment).1.isEmpty || _) = true
        cases hevents : (e.look moment).1 with
        | nil => exact absurd hevents nothing
        | cons event rest => rfl)
      exact ⟨_, .woken moment later false steps, ⟨_, rfl, rfl, by rw [run_append]; exact ended⟩⟩

end Alone

/-- Every poll that waits at least once is what its steps come to if nothing comes between. -/
theorem run_poll {a : Account} (idle : a.phase = .idle) (tidy : a.stand.endpoint.roster.Tidy)
    (limited : Bool) {moments : List Moment} (waits : moments ≠ []) :
    ∃ own, Moment.Uninterrupted moments own ∧
      (a.run (.begin limited :: own)).Polled (a.stand.endpoint.poll limited moments)
        a.stand.board limited a.replies := by
  have begun : (a.step (.begin limited)).Shows a.stand.endpoint a.stand.board (.waiting limited)
      a.replies := by
    simp only [step, idle]
    exact ⟨rfl, rfl, rfl⟩
  exact begun.poll tidy waits

end Account

end RdmaLink
