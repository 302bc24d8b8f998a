import RdmaLink.Command.Listening

/-!
# The command `listen`, event by event

A watch of the command is the command with the events that it was handed.  It looks only when the
last batch is handled, but bytes arrive whenever they do, also between two events of a batch and
between two of the receives that an event asks for.  What the command does in ticks is one watch of
it (`Watch.run_ticks`).

    (w.run (.handle admission :: posts)).progress = service.handle admission event
                                                                             (Watch.run_handle)
    w.progress.service.log = log ++ w.handled.filterMap lineOf?              (Watch.Logged.lines)
-/

namespace RdmaLink.Command

/-- The command wherever it stands. -/
def Progress.service : Progress → Service
  | .running service | .ended service _ => service

theorem not_running_of_ended {service after : Service} {result : Except EndpointError Unit}
    (same : Progress.ended service result = .running after) : False := by
  cases same

/-! ## Lines -/

/-- The line of an event, if it has one. -/
def lineOf? : Event → Option LogLine
  | .incoming _ => none
  | .completed connection completion =>
    if completion.operation = .receiveWithImmediate then
      some (Service.writeLine connection completion)
    else none
  | .failed connection completion => some (Service.failureLine connection completion)

namespace Service

@[simp] theorem log_postReceive (service : Service) (connection : Nat) :
    (service.postReceive connection).service.log = service.log := by
  unfold postReceive
  split <;> rfl

/-- Whatever comes of an event, its line is written first. -/
theorem log_answer (service : Service) (admission : Endpoint.AcceptConditions) (event : Event) :
    (service.answer admission event).1.service.log = service.log ++ (lineOf? event).toList := by
  cases event with
  | incoming listener =>
    unfold answer
    dsimp only
    rw [lineOf?, Option.toList_none, List.append_nil]
    split <;> rfl
  | completed connection completion =>
    unfold answer lineOf?
    dsimp only
    by_cases write : completion.operation = .receiveWithImmediate
    · rw [if_pos write, if_pos write]
      rfl
    · rw [if_neg write, if_neg write, Option.toList_none, List.append_nil]
      rfl
  | failed connection completion =>
    unfold answer
    dsimp only
    split <;> rfl

end Service

/-! ## Watches -/

/-- The command with what it was handed, between two of its calls on the endpoint. -/
structure Watch where
  progress : Progress
  /-- The events that were handled, in order.  The last one may still have receives due. -/
  handled : List Event
  /-- The events of the last look that were not handled yet. -/
  batch : List Event
  /-- The connections of the receives that the last event asks for and that were not posted yet. -/
  due : List Nat
  interrupted : Bool

/-- What happens to a watch. -/
inductive WatchEvent where
  /-- Bytes arrive on the link of a connection; they may be the last ones. -/
  | arrive (connection : Nat) (bytes : Bytes) (ended : Bool)
  /-- The endpoint is looked at. -/
  | look (glance : Glance)
  /-- The next event of the batch is handled, up to the receives that it asks for. -/
  | handle (admission : Endpoint.AcceptConditions)
  /-- The next of these receives is posted. -/
  | post
  /-- The command is asked to stop. -/
  | interrupt

namespace Watch

/-- A watch that begins. -/
def of (service : Service) : Watch := ⟨.running service, [], [], [], false⟩

/-- What an event makes of a watch.  The command looks, or stops, only between two batches, and it
handles an event only when all receives of the one before are posted. -/
def step (w : Watch) (event : WatchEvent) : Watch :=
  match w.progress with
  | .ended _ _ => w
  | .running service =>
    match event, w.due, w.batch with
    | .arrive connection bytes ended, _, _ =>
      { w with
        progress := .running
          { service with endpoint := service.endpoint.deliver connection bytes ended } }
    | .look glance, [], [] =>
      let e := service.endpoint
      let (events, endpoint) := e.collect (e.fired glance)
      { w with progress := .running { service with endpoint := endpoint }, batch := events }
    | .handle admission, [], event :: rest =>
      let (progress, due) := service.answer admission event
      { w with progress := progress, handled := w.handled ++ [event], batch := rest, due := due }
    | .post, connection :: due, _ =>
      { w with progress := service.postReceive connection, due := due }
    | .interrupt, [], [] =>
      { w with progress := .ended (service.logged interruptLine) (.ok ()), interrupted := true }
    | _, _, _ => w

def run (w : Watch) (events : List WatchEvent) : Watch := events.foldl step w

theorem run_cons (w : Watch) (event : WatchEvent) (events : List WatchEvent) :
    w.run (event :: events) = (w.step event).run events := rfl

theorem run_append (w : Watch) (a b : List WatchEvent) : w.run (a ++ b) = (w.run a).run b :=
  List.foldl_append

/-- What holds at the start and is kept by every event holds after every run. -/
theorem run_induction {P : Watch → Prop} {w : Watch} (base : P w)
    (keep : ∀ w event, P w → P (w.step event)) (events : List WatchEvent) : P (w.run events) := by
  induction events generalizing w with
  | nil => exact base
  | cons event rest ih => exact ih (keep w event base)

section Steps

variable {service : Service} {handled batch : List Event} {due : List Nat} {interrupted : Bool}

theorem step_arrive (connection : Nat) (bytes : Bytes) (ended : Bool) :
    (⟨.running service, handled, batch, due, interrupted⟩ : Watch).step
        (.arrive connection bytes ended) =
      ⟨.running { service with endpoint := service.endpoint.deliver connection bytes ended },
        handled, batch, due, interrupted⟩ := rfl

theorem step_look (glance : Glance) :
    (⟨.running service, handled, [], [], interrupted⟩ : Watch).step (.look glance) =
      let e := service.endpoint
      let (events, endpoint) := e.collect (e.fired glance)
      ⟨.running { service with endpoint := endpoint }, handled, events, [], interrupted⟩ := rfl

theorem step_handle (admission : Endpoint.AcceptConditions) (event : Event) :
    (⟨.running service, handled, event :: batch, [], interrupted⟩ : Watch).step
        (.handle admission) =
      let (progress, due) := service.answer admission event
      ⟨progress, handled ++ [event], batch, due, interrupted⟩ := rfl

theorem step_post (connection : Nat) :
    (⟨.running service, handled, batch, connection :: due, interrupted⟩ : Watch).step .post =
      ⟨service.postReceive connection, handled, batch, due, interrupted⟩ := rfl

theorem step_interrupt :
    (⟨.running service, handled, [], [], interrupted⟩ : Watch).step .interrupt =
      ⟨.ended (service.logged interruptLine) (.ok ()), handled, [], [], true⟩ := rfl

/-- While receives are due, the command does nothing else. -/
theorem step_due (connection : Nat) {event : WatchEvent}
    (other : (∃ glance, event = .look glance) ∨ (∃ admission, event = .handle admission) ∨
      event = .interrupt) :
    (⟨.running service, handled, batch, connection :: due, interrupted⟩ : Watch).step event =
      ⟨.running service, handled, batch, connection :: due, interrupted⟩ := by
  rcases other with ⟨glance, rfl⟩ | ⟨admission, rfl⟩ | rfl <;> rfl

/-- Nothing happens to a command that has ended. -/
theorem run_ended {result : Except EndpointError Unit} (events : List WatchEvent) :
    (⟨.ended service result, handled, batch, due, interrupted⟩ : Watch).run events =
      ⟨.ended service result, handled, batch, due, interrupted⟩ :=
  run_induction (P := fun w => w = ⟨.ended service result, handled, batch, due, interrupted⟩) rfl
    (fun w event same => by rw [same]; rfl) events

/-! ### Ticks -/

theorem run_arrivals (arrivals : List (Nat × Bytes × Bool)) (interrupted : Bool) :
    (⟨.running service, handled, batch, due, interrupted⟩ : Watch).run
        (arrivals.map fun arrival => .arrive arrival.1 arrival.2.1 arrival.2.2) =
      ⟨.running { service with
          endpoint := arrivals.foldl (fun e arrival => e.deliver arrival.1 arrival.2.1 arrival.2.2)
            service.endpoint }, handled, batch, due, interrupted⟩ := by
  induction arrivals generalizing service with
  | nil => rfl
  | cons arrival rest ih => exact ih

/-- The receives that are due are posted up to the one that ends the command. -/
theorem run_posts (service : Service) (due : List Nat) :
    ∃ left, (⟨.running service, handled, batch, due, interrupted⟩ : Watch).run
        (List.replicate due.length .post) =
          ⟨service.postReceives due, handled, batch, left, interrupted⟩ ∧
      ∀ after, service.postReceives due = .running after → left = [] := by
  induction due generalizing service with
  | nil => exact ⟨[], rfl, fun _ _ => rfl⟩
  | cons connection due ih =>
    unfold Service.postReceives
    rw [List.length_cons, List.replicate_succ, run_cons, step_post]
    cases service.postReceive connection with
    | running after => exact ih after
    | ended after result =>
      exact ⟨due, run_ended _, fun _ going => (not_running_of_ended going).elim⟩

/-- An event is handled: it is answered, and then its receives are posted with nothing between. -/
theorem run_handle (service : Service) (handled batch : List Event)
    (admission : Endpoint.AcceptConditions) (event : Event) :
    ∃ count left, (⟨.running service, handled, event :: batch, [], false⟩ : Watch).run
        (.handle admission :: List.replicate count .post) =
          ⟨service.handle admission event, handled ++ [event], batch, left, false⟩ ∧
      ∀ after, service.handle admission event = .running after → left = [] := by
  unfold Service.handle
  rcases answered : service.answer admission event with ⟨progress, due⟩
  refine ⟨due.length, ?_⟩
  rw [run_cons, step_handle, answered]
  cases progress with
  | running after => exact run_posts after due
  | ended after result =>
    exact ⟨due, run_ended _, fun _ going => (not_running_of_ended going).elim⟩

/-- A batch is handled up to the event that ends the command. -/
theorem run_handles (service : Service) (handled : List Event)
    (admission : Endpoint.AcceptConditions) (batch : List Event) :
    ∃ events past rest left,
      (⟨.running service, handled, batch, [], false⟩ : Watch).run events =
        ⟨service.handleAll admission batch, handled ++ past, rest, left, false⟩ ∧
      ∀ after, service.handleAll admission batch = .running after → rest = [] ∧ left = [] := by
  induction batch generalizing service handled with
  | nil => exact ⟨[], [], [], [], by rw [List.append_nil]; rfl, fun _ _ => ⟨rfl, rfl⟩⟩
  | cons event rest ih =>
    unfold Service.handleAll
    obtain ⟨count, left, ran, all⟩ := run_handle service handled rest admission event
    cases handled' : service.handle admission event with
    | running after =>
      obtain rfl := all after handled'
      obtain ⟨events, past, rest', left, ran', all⟩ := ih after (handled ++ [event])
      refine ⟨.handle admission :: List.replicate count .post ++ events, event :: past, rest', left,
        ?_, all⟩
      rw [run_append, ran, handled', ran', List.append_assoc]
      rfl
    | ended after result =>
      refine ⟨.handle admission :: List.replicate count .post, [event], rest, left, ?_,
        fun _ going => (not_running_of_ended going).elim⟩
      rw [ran, handled']

/-- A tick is the arrivals of its moment, a look, and the events of the look one by one. -/
theorem run_tick (service : Service) (handled : List Event) (tick : Tick) :
    ∃ events past rest left interrupted,
      (⟨.running service, handled, [], [], false⟩ : Watch).run events =
        ⟨service.step tick, handled ++ past, rest, left, interrupted⟩ ∧
      ∀ after, service.step tick = .running after →
        rest = [] ∧ left = [] ∧ interrupted = false := by
  unfold Service.step
  by_cases asked : tick.interrupted = true
  · rw [if_pos asked]
    refine ⟨[.interrupt], [], [], [], true, ?_, fun _ going => (not_running_of_ended going).elim⟩
    rw [run_cons, step_interrupt, List.append_nil]
    exact run_ended []
  · rw [if_neg asked]
    let looked := service.endpoint.look tick.moment
    obtain ⟨events, past, rest, left, ran, all⟩ := run_handles
      { service with endpoint := looked.2 } handled tick.admission looked.1
    refine ⟨tick.moment.arrivals.map (fun arrival => .arrive arrival.1 arrival.2.1 arrival.2.2) ++
      .look tick.moment.glance :: events, past, rest, left, false, ?_, fun after running => ?_⟩
    · rw [run_append, run_arrivals, run_cons, step_look]
      exact ran
    · obtain ⟨none, posted⟩ := all after running
      exact ⟨none, posted, rfl⟩

/-- What the command does in ticks is a watch of it. -/
theorem run_ticks (service : Service) (handled : List Event) (ticks : List Tick) :
    ∃ events, ((⟨.running service, handled, [], [], false⟩ : Watch).run events).progress =
      service.run ticks := by
  induction ticks generalizing service handled with
  | nil => exact ⟨[], rfl⟩
  | cons tick later ih =>
    obtain ⟨events, past, rest, left, interrupted, ran, goes⟩ := run_tick service handled tick
    unfold Service.run
    cases stepped : service.step tick with
    | running after =>
      obtain ⟨rfl, rfl, rfl⟩ := goes after stepped
      obtain ⟨more, done⟩ := ih after (handled ++ past)
      refine ⟨events ++ more, ?_⟩
      rw [run_append, ran, stepped]
      exact done
    | ended after result =>
      refine ⟨events, ?_⟩
      rw [ran, stepped]

/-! ### The log -/

/-- Every event that was handled has its line, in order, and so has the interrupt. -/
structure Logged (log : List LogLine) (w : Watch) : Prop where
  lines : w.progress.service.log =
    log ++ w.handled.filterMap lineOf? ++ if w.interrupted then [interruptLine] else []
  going : ∀ service, w.progress = .running service → w.interrupted = false

theorem logged_step {log : List LogLine} {w : Watch} (logged : w.Logged log) (event : WatchEvent) :
    (w.step event).Logged log := by
  obtain ⟨progress, handled, batch, due, interrupted⟩ := w
  cases progress with
  | ended service result => exact logged
  | running service =>
    obtain rfl : interrupted = false := logged.going service rfl
    have lines : service.log = log ++ handled.filterMap lineOf? ++ [] := logged.lines
    cases event with
    | arrive connection bytes ended =>
      rw [step_arrive]
      exact ⟨logged.lines, fun _ _ => rfl⟩
    | post =>
      cases due with
      | nil => exact logged
      | cons connection due =>
        rw [step_post]
        exact ⟨(service.log_postReceive connection).trans lines, fun _ _ => rfl⟩
    | look glance =>
      cases due with
      | cons connection due => rwa [step_due connection (Or.inl ⟨glance, rfl⟩)]
      | nil =>
        cases batch with
        | nil =>
          rw [step_look]
          exact ⟨logged.lines, fun _ _ => rfl⟩
        | cons event rest => exact logged
    | handle admission =>
      cases due with
      | cons connection due => rwa [step_due connection (Or.inr (Or.inl ⟨admission, rfl⟩))]
      | nil =>
        cases batch with
        | nil => exact logged
        | cons event rest =>
          rw [step_handle]
          refine ⟨?_, fun _ _ => rfl⟩
          show (service.answer admission event).1.service.log =
            log ++ (handled ++ [event]).filterMap lineOf? ++ []
          rw [service.log_answer, lines, List.append_nil, List.append_nil, List.filterMap_append,
            List.append_assoc, List.filterMap_cons]
          cases lineOf? event <;> rfl
    | interrupt =>
      cases due with
      | cons connection due => rwa [step_due connection (Or.inr (Or.inr rfl))]
      | nil =>
        cases batch with
        | nil =>
          rw [step_interrupt]
          refine ⟨?_, fun _ going => (not_running_of_ended going).elim⟩
          show service.log ++ [interruptLine] =
            log ++ handled.filterMap lineOf? ++ [interruptLine]
          rw [lines, List.append_nil]
        | cons event rest => exact logged

end Steps

end Watch

end RdmaLink.Command
