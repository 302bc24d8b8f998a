import RdmaLink.Command.Sending
import RdmaLink.Proofs.Connection.Launches
import RdmaLink.Proofs.Endpoint.Solitary

/-!
# The command `connect`, event by event

A course of a transfer is the transfer with a log of what it has sent and of what it was answered.
The command fills its region, takes the write of a block on, lets its frame go to the link, and
handles the events of its looks one by one; bytes arrive whenever they do, also between two of
these steps.  What the command does in ticks is one course of it, in which happens what happens in
the ticks that pass:

    happenings ticks = outer events ++ happenings later
    (⟨e, k, .between, log⟩.run shipment events).ending = ending           (Course.run_ticks)

where `(ending, ⟨_, later⟩)` is what comes of writing the blocks from `k` on.
-/

namespace RdmaLink

namespace Endpoint

/-- Takes a send of a connection on. -/
def ask (endpoint : Endpoint) (id : Nat) (operation : SendOperation) (request : UInt64)
    (offset length peerOffset : Nat) : Except EndpointError Post × Endpoint :=
  endpoint.onSession id fun session => session.ask operation request offset length peerOffset

/-- The frame of a send that was taken on goes to the link of its connection. -/
def launch (endpoint : Endpoint) (id : Nat) (post : Post) : Mark × Endpoint :=
  match endpoint.connection? id with
  | none => (.refused post.sequence, endpoint)
  | some connection =>
    let (mark, session) := (endpoint.sessionOf connection).launch post
    (mark, endpoint.withSession session)

/-- The frames that are taken when bytes arrive on the link of a connection. -/
def heard (endpoint : Endpoint) (id : Nat) (bytes : Bytes) (ended : Bool) : List Frame :=
  match endpoint.connection? id with
  | none => []
  | some connection => (endpoint.sessionOf connection).heard bytes ended

variable {e : Endpoint} {s : Session}

/-- A session that is put in the place of another leaves nothing of it. -/
theorem withSession_withSession (e : Endpoint) {first second : Session}
    (number : second.connection.id = first.connection.id)
    (transport : second.connection.transport = first.connection.transport) :
    (e.withSession first).withSession second = e.withSession second := by
  obtain ⟨_, _, fallback, _, _, _, _, _, connections, _, _⟩ := e
  unfold withSession withConnection afterSession withCarrier
  rw [transport, number]
  cases fallback <;> cases first.connection.transport <;>
    · simp only [List.map_map, Endpoint.mk.injEq, true_and, and_true]
      refine List.map_congr_left fun entry _ => ?_
      dsimp only [Function.comp]
      split <;> simp_all

/-- A region that the owner fills is that of its session. -/
theorem Holds.withMemory (holds : e.Holds s) (memory : Memory) :
    ({ e with memory := memory } : Endpoint).Holds { s with memory := memory } where
  only := holds.only
  session := by
    have same := holds.session
    rw [← same]
    rfl
  unbound := holds.unbound

theorem Holds.heard (holds : e.Holds s) (id : Nat) (bytes : Bytes) (ended : Bool) :
    e.heard id bytes ended = if id = s.connection.id then s.heard bytes ended else [] := by
  unfold Endpoint.heard
  rw [holds.found]
  by_cases its : id = s.connection.id
  · rw [if_pos its, if_pos its]
    dsimp only
    rw [holds.session]
  · rw [if_neg its, if_neg its]

theorem Holds.ask (holds : e.Holds s) (operation : SendOperation) (request : UInt64)
    (offset length peerOffset : Nat) :
    let asked := s.ask operation request offset length peerOffset
    e.ask s.connection.id operation request offset length peerOffset =
        (asked.1, e.withSession asked.2) ∧ (e.withSession asked.2).Holds asked.2 := by
  have found := holds.found s.connection.id
  rw [if_pos rfl] at found
  unfold Endpoint.ask Endpoint.onSession
  rw [found]
  dsimp only
  rw [holds.session]
  exact ⟨rfl, holds.withSession (s.along_ask operation request offset length peerOffset).id⟩

theorem Holds.launch (holds : e.Holds s) (post : Post) :
    e.launch s.connection.id post = ((s.launch post).1, e.withSession (s.launch post).2) ∧
      (e.withSession (s.launch post).2).Holds (s.launch post).2 := by
  have found := holds.found s.connection.id
  rw [if_pos rfl] at found
  unfold Endpoint.launch
  rw [found]
  dsimp only
  rw [holds.session]
  exact ⟨rfl, holds.withSession (s.same_launch post).1⟩

/-- A post is a send that is taken on and whose frame goes to the link. -/
theorem Holds.post_eq_ask (holds : e.Holds s) (operation : SendOperation) (request : UInt64)
    (offset length peerOffset : Nat) :
    e.post s.connection.id operation request offset length peerOffset =
      match e.ask s.connection.id operation request offset length peerOffset with
      | (.error fault, t) => (.error fault, t)
      | (.ok post, t) => (.ok (), (t.launch s.connection.id post).2) := by
  have found := holds.found s.connection.id
  rw [if_pos rfl] at found
  have along := s.along_ask operation request offset length peerOffset
  obtain ⟨taken, kept⟩ := holds.ask operation request offset length peerOffset
  rw [taken]
  unfold Endpoint.post Endpoint.onSession
  rw [found]
  dsimp only
  rw [holds.session, s.post_eq_ask]
  generalize s.ask operation request offset length peerOffset = asked at along kept ⊢
  obtain ⟨fault | post, t⟩ := asked
  · rfl
  · obtain ⟨launched, -⟩ := kept.launch post
    have ⟨number, transport⟩ := t.same_launch post
    rw [along.id] at launched
    dsimp only
    rw [launched, e.withSession_withSession number transport]

end Endpoint

namespace Command

/-- What a transfer is asked for: so many blocks of a size over a connection. -/
structure Shipment where
  connection : Nat
  size : Nat
  count : Nat

/-- Where a transfer stands with a block. -/
inductive Phase where
  /-- The block is not begun. -/
  | between
  /-- The region is filled. -/
  | filled
  /-- The write is taken on; its frame has not gone to the link. -/
  | writing (post : Post)
  /-- The completion is awaited; the batch is what is left of the last look. -/
  | awaiting (batch : List Event)
  | ended (ending : TransferEnd)

/-- A transfer with a log. -/
structure Course where
  endpoint : Endpoint
  block : Nat
  phase : Phase
  log : List Mark

/-- What happens to a course. -/
inductive CourseEvent where
  /-- Bytes arrive on the link of a connection; they may be the last ones. -/
  | arrive (connection : Nat) (bytes : Bytes) (ended : Bool)
  /-- The command takes its next step. -/
  | go
  /-- The endpoint is looked at. -/
  | look (glance : Glance)
  /-- The command is asked to stop. -/
  | interrupt

/-- Whether something happens to the command that it does not do itself. -/
def CourseEvent.outside : CourseEvent → Bool
  | .arrive .. | .interrupt => true
  | .go | .look _ => false

namespace Course

/-- A course that begins. -/
def of (endpoint : Endpoint) : Course := ⟨endpoint, 0, .between, []⟩

/-- How a course has ended, if it has. -/
def ending (c : Course) : TransferEnd :=
  match c.phase with
  | .ended ending => ending
  | _ => .waiting

/-- The number of the block. -/
def number (c : Course) : UInt32 := UInt32.ofNat c.block

/-- The course after a wait for the completion of its block. -/
def waited (c : Course) : Wait → Course
  | .completed => { c with block := c.block + 1, phase := .between }
  | .interrupted => { c with phase := .ended (.finished true) }
  | .failed fault => { c with phase := .ended (.failed fault) }
  | .waiting => { c with phase := .awaiting [] }

/-- The next step of the command. -/
def advance (shipment : Shipment) (c : Course) : Course :=
  match c.phase with
  | .between =>
    if c.block = shipment.count then { c with phase := .ended (.finished false) }
    else
      match Transfer.filled c.endpoint shipment.size (UInt8.ofNat c.number.toNat) with
      | .error e => { c with phase := .ended (.failed (.endpoint e)) }
      | .ok endpoint => { c with endpoint := endpoint, phase := .filled }
  | .filled =>
    match c.endpoint.ask shipment.connection (.writeWithImmediate c.number) c.number.toUInt64 0
        shipment.size 0 with
    | (.error e, endpoint) =>
      { c with endpoint := endpoint, phase := .ended (.failed (.endpoint e)) }
    | (.ok post, endpoint) =>
      { c with
        endpoint := endpoint, phase := .writing post, log := c.log ++ [.asked post.sequence] }
  | .writing post =>
    let (mark, endpoint) := c.endpoint.launch shipment.connection post
    { c with endpoint := endpoint, phase := .awaiting [], log := c.log ++ [mark] }
  | .awaiting (event :: rest) =>
    match Transfer.verdict shipment.connection c.number.toUInt64 [event] with
    | some wait => c.waited wait
    | none => { c with phase := .awaiting rest }
  | _ => c

/-- What an event makes of a course.  The command looks only when the last batch is handled, and
stops only then or between two blocks. -/
def step (shipment : Shipment) (c : Course) (event : CourseEvent) : Course :=
  match c.phase, event with
  | .ended _, _ => c
  | _, .arrive connection bytes ended =>
    { c with
      endpoint := c.endpoint.deliver connection bytes ended
      log := c.log ++ (c.endpoint.heard connection bytes ended).map .took }
  | _, .go => c.advance shipment
  | .awaiting [], .look glance =>
    let e := c.endpoint
    let (events, endpoint) := e.collect (e.fired glance)
    { c with endpoint := endpoint, phase := .awaiting events }
  | .awaiting [], .interrupt => c.waited .interrupted
  | .between, .interrupt =>
    if c.block = shipment.count then c else { c with phase := .ended (.finished true) }
  | _, _ => c

def run (shipment : Shipment) (c : Course) (events : List CourseEvent) : Course :=
  events.foldl (step shipment) c

variable {shipment : Shipment} {c : Course}

theorem run_append (a b : List CourseEvent) :
    c.run shipment (a ++ b) = (c.run shipment a).run shipment b := List.foldl_append

theorem run_concat (events : List CourseEvent) (event : CourseEvent) :
    c.run shipment (events ++ [event]) = (c.run shipment events).step shipment event :=
  run_append events [event]

/-- What holds at the start and is kept by every event holds after every run. -/
theorem run_induction {P : Course → Prop} (base : P c)
    (keep : ∀ c event, P c → P (c.step shipment event)) (events : List CourseEvent) :
    P (c.run shipment events) := by
  induction events generalizing c with
  | nil => exact base
  | cons event rest ih => exact ih (keep c event base)

/-- A log only grows. -/
theorem log_step (shipment : Shipment) (c : Course) (event : CourseEvent) :
    ∃ more, (c.step shipment event).log = c.log ++ more := by
  have same : ∃ more, c.log = c.log ++ more := ⟨[], (List.append_nil _).symm⟩
  unfold step
  split
  · exact same
  · exact ⟨_, rfl⟩
  · unfold advance
    split
    · split
      · exact same
      · split <;> exact same
    · split
      · exact same
      · exact ⟨_, rfl⟩
    · exact ⟨_, rfl⟩
    · split
      · next wait _ => cases wait <;> exact same
      · exact same
    · exact same
  · exact same
  · exact same
  · split <;> exact same
  · exact same

/-! ## The connection -/

/-- The endpoint has one connection, over which the blocks go. -/
def Held (shipment : Shipment) (c : Course) : Prop :=
  ∃ s, c.endpoint.Holds s ∧ s.connection.id = shipment.connection

theorem held_arrive (held : c.Held shipment) (id : Nat) (bytes : Bytes) (ended : Bool) :
    ∃ s, (c.endpoint.deliver id bytes ended).Holds s ∧ s.connection.id = shipment.connection := by
  obtain ⟨s, holds, number⟩ := held
  refine ⟨_, holds.deliver id bytes ended, ?_⟩
  split
  · exact (s.id_step (.deliver bytes ended)).trans number
  · exact number

theorem held_collect (held : c.Held shipment) (sources : List Source) :
    ∃ s, (c.endpoint.collect sources).2.Holds s ∧ s.connection.id = shipment.connection := by
  obtain ⟨s, holds, number⟩ := held
  rcases holds.collect sources with ⟨-, kept⟩ | ⟨-, drained⟩
  · exact ⟨s, kept, number⟩
  · exact ⟨_, drained, (s.id_step .drain).trans number⟩

/-- The region is the one thing that filling changes. -/
theorem filled_eq_ok {e after : Endpoint} {size : Nat} {value : UInt8}
    (filled : Transfer.filled e size value = .ok after) :
    ∃ region, e.memory.region? e.region = some region ∧ region.contains 0 size = true ∧
      after = { e with memory := e.memory.put e.region (region.filled 0 size value) } := by
  unfold Transfer.filled at filled
  split at filled
  · cases filled
  · next region known =>
    unfold Region.fill at filled
    split at filled
    · cases filled
    · next whole made =>
      split at made
      · next inside =>
        cases made
        cases filled
        exact ⟨region, known, inside, rfl⟩
      · cases made

theorem held_advance (held : c.Held shipment) : (c.advance shipment).Held shipment := by
  obtain ⟨s, holds, number⟩ := held
  unfold advance
  split
  · split
    · exact ⟨s, holds, number⟩
    · split
      · exact ⟨s, holds, number⟩
      · next after filled =>
        obtain ⟨region, -, -, rfl⟩ := filled_eq_ok filled
        exact ⟨_, holds.withMemory _, number⟩
  · rw [← number]
    obtain ⟨asked, kept⟩ := holds.ask (.writeWithImmediate c.number) c.number.toUInt64 0
      shipment.size 0
    have same := (s.along_ask (.writeWithImmediate c.number) c.number.toUInt64 0
      shipment.size 0).id
    rw [asked]
    generalize s.ask (.writeWithImmediate c.number) c.number.toUInt64 0 shipment.size 0 = outcome
      at kept same ⊢
    obtain ⟨fault | post, after⟩ := outcome <;> exact ⟨after, kept, same.trans number⟩
  · next post _ =>
    obtain ⟨launched, kept⟩ := holds.launch post
    rw [← number, launched]
    exact ⟨_, kept, (s.same_launch post).1.trans number⟩
  · split
    · next wait _ => cases wait <;> exact ⟨s, holds, number⟩
    · exact ⟨s, holds, number⟩
  · exact ⟨s, holds, number⟩

theorem held_step (held : c.Held shipment) (event : CourseEvent) :
    (c.step shipment event).Held shipment := by
  unfold step
  split
  · exact held
  · exact held_arrive held _ _ _
  · exact held_advance held
  · exact held_collect held _
  · exact held
  · split <;> exact held
  · exact held

theorem held_run (held : c.Held shipment) (events : List CourseEvent) :
    (c.run shipment events).Held shipment :=
  run_induction held (fun _ event kept => held_step kept event) events

/-! ## Steps -/

section Phases

variable {e : Endpoint} {block : Nat} {phase : Phase} {log : List Mark}

theorem step_arrive (going : ∀ ending, phase ≠ .ended ending) (id : Nat) (bytes : Bytes)
    (ended : Bool) :
    (⟨e, block, phase, log⟩ : Course).step shipment (.arrive id bytes ended) =
      ⟨e.deliver id bytes ended, block, phase, log ++ (e.heard id bytes ended).map .took⟩ := by
  cases phase with
  | ended ending => exact absurd rfl (going ending)
  | _ => rfl

theorem step_last (last : block = shipment.count) :
    (⟨e, block, .between, log⟩ : Course).step shipment .go =
      ⟨e, block, .ended (.finished false), log⟩ := if_pos last

theorem step_between (more : block ≠ shipment.count) :
    (⟨e, block, .between, log⟩ : Course).step shipment .go =
      match Transfer.filled e shipment.size (UInt8.ofNat (UInt32.ofNat block).toNat) with
      | .error fault => ⟨e, block, .ended (.failed (.endpoint fault)), log⟩
      | .ok filled => ⟨filled, block, .filled, log⟩ := if_neg more

theorem step_filled (shipment : Shipment) (e : Endpoint) (block : Nat) (log : List Mark) :
    (⟨e, block, .filled, log⟩ : Course).step shipment .go =
      match e.ask shipment.connection (.writeWithImmediate (UInt32.ofNat block))
        (UInt32.ofNat block).toUInt64 0 shipment.size 0 with
      | (.error fault, t) => ⟨t, block, .ended (.failed (.endpoint fault)), log⟩
      | (.ok post, t) => ⟨t, block, .writing post, log ++ [.asked post.sequence]⟩ := rfl

theorem step_writing (e : Endpoint) (block : Nat) (post : Post) (log : List Mark) :
    (⟨e, block, .writing post, log⟩ : Course).step shipment .go =
      ⟨(e.launch shipment.connection post).2, block, .awaiting [],
        log ++ [(e.launch shipment.connection post).1]⟩ := rfl

theorem step_awaiting (e : Endpoint) (block : Nat) (event : Event) (rest : List Event)
    (log : List Mark) :
    (⟨e, block, .awaiting (event :: rest), log⟩ : Course).step shipment .go =
      match Transfer.verdict shipment.connection (UInt32.ofNat block).toUInt64 [event] with
      | some wait => (⟨e, block, .awaiting (event :: rest), log⟩ : Course).waited wait
      | none => ⟨e, block, .awaiting rest, log⟩ := rfl

theorem step_look (e : Endpoint) (block : Nat) (log : List Mark) (glance : Glance) :
    (⟨e, block, .awaiting [], log⟩ : Course).step shipment (.look glance) =
      ⟨(e.collect (e.fired glance)).2, block,
        .awaiting (e.collect (e.fired glance)).1, log⟩ := rfl

/-! ## Ticks -/

/-- The arrivals of a moment. -/
def arrivals (moment : Moment) : List CourseEvent :=
  moment.arrivals.map fun arrival => .arrive arrival.1 arrival.2.1 arrival.2.2

/-- What happens in ticks to a command: it is asked to stop, or bytes arrive. -/
def happenings (ticks : List Tick) : List CourseEvent :=
  ticks.flatMap fun tick => if tick.interrupted then [.interrupt] else arrivals tick.moment

/-- What happens to the command among the events of its course, its own steps left out. -/
def outer (events : List CourseEvent) : List CourseEvent := events.filter CourseEvent.outside

theorem happenings_interrupted {tick : Tick} (asked : tick.interrupted = true) (later : List Tick) :
    happenings (tick :: later) = .interrupt :: happenings later := by
  simp [happenings, asked]

theorem happenings_cons {tick : Tick} (asked : ¬ tick.interrupted = true) (later : List Tick) :
    happenings (tick :: later) = arrivals tick.moment ++ happenings later := by
  simp [happenings, asked]

@[simp] theorem outer_append (a b : List CourseEvent) : outer (a ++ b) = outer a ++ outer b :=
  List.filter_append a b

@[simp] theorem outer_arrivals (moment : Moment) : outer (arrivals moment) = arrivals moment := by
  refine List.filter_eq_self.mpr fun event listed => ?_
  obtain ⟨arrival, -, rfl⟩ := List.mem_map.mp listed
  rfl

@[simp] theorem outer_nil : outer [] = [] := rfl

@[simp] theorem outer_go (rest : List CourseEvent) : outer (.go :: rest) = outer rest := rfl

@[simp] theorem outer_look (glance : Glance) (rest : List CourseEvent) :
    outer (.look glance :: rest) = outer rest := rfl

theorem run_arrivals (shipment : Shipment) (e : Endpoint) (block : Nat) (log : List Mark)
    {phase : Phase} (going : ∀ ending, phase ≠ .ended ending) (moment : Moment) :
    ∃ later, (⟨e, block, phase, log⟩ : Course).run shipment (arrivals moment) =
      ⟨e.arrive moment, block, phase, later⟩ := by
  obtain ⟨arrived, glance⟩ := moment
  unfold arrivals Endpoint.arrive
  dsimp only
  induction arrived generalizing e log with
  | nil => exact ⟨log, rfl⟩
  | cons arrival rest ih =>
    obtain ⟨later, ran⟩ := ih (e.deliver arrival.1 arrival.2.1 arrival.2.2)
      (log ++ (e.heard arrival.1 arrival.2.1 arrival.2.2).map .took)
    refine ⟨later, ?_⟩
    show Course.run shipment (Course.step shipment _ _) _ = _
    rw [step_arrive going]
    exact ran

theorem verdict_cons (connection : Nat) (request : UInt64) (event : Event) (rest : List Event) :
    Transfer.verdict connection request (event :: rest) =
      (Transfer.verdict connection request [event]).orElse fun _ =>
        Transfer.verdict connection request rest := by
  cases event with
  | completed _ completion =>
    by_cases its : completion.request = request
    · simp only [Transfer.verdict, if_pos its, Option.orElse]
    · simp only [Transfer.verdict, if_neg its, Option.orElse]
  | incoming | failed => rfl

/-- The events of a look are handled up to the one that ends the wait. -/
theorem run_batch (shipment : Shipment) (e : Endpoint) (block : Nat) (log : List Mark)
    (batch : List Event) :
    ∃ events, outer events = [] ∧
      (⟨e, block, .awaiting batch, log⟩ : Course).run shipment events =
        (⟨e, block, .awaiting [], log⟩ : Course).waited
          ((Transfer.verdict shipment.connection (UInt32.ofNat block).toUInt64 batch).getD
            .waiting) := by
  induction batch with
  | nil => exact ⟨[], rfl, rfl⟩
  | cons event rest ih =>
    have first : (⟨e, block, .awaiting (event :: rest), log⟩ : Course).run shipment [.go] = _ :=
      step_awaiting e block event rest log
    rw [verdict_cons]
    cases told : Transfer.verdict shipment.connection (UInt32.ofNat block).toUInt64 [event] with
    | some wait =>
      refine ⟨[.go], rfl, ?_⟩
      rw [first, told]
      cases wait <;> rfl
    | none =>
      obtain ⟨events, own, ran⟩ := ih
      refine ⟨[.go] ++ events, own, ?_⟩
      rw [run_append, first, told]
      exact ran

/-- What has arrived by a moment is handled, and the endpoint is looked at. -/
theorem run_look (shipment : Shipment) (e : Endpoint) (block : Nat) (log : List Mark)
    (moment : Moment) :
    ∃ events later, outer events = arrivals moment ∧
      (⟨e, block, .awaiting [], log⟩ : Course).run shipment events =
        ⟨(e.look moment).2, block, .awaiting (e.look moment).1, later⟩ := by
  have going (ending : TransferEnd) : Phase.awaiting [] ≠ .ended ending := nofun
  obtain ⟨later, arrived⟩ := run_arrivals shipment e block log going moment
  refine ⟨arrivals moment ++ [.look moment.glance], later, by simp, ?_⟩
  rw [run_append, arrived]
  rfl

/-- The wait for a completion. -/
theorem run_await (shipment : Shipment) (e : Endpoint) (block : Nat) (log : List Mark)
    (ticks : List Tick) :
    let outcome := Transfer.await shipment.connection (UInt32.ofNat block).toUInt64 e ticks
    ∃ events later, happenings ticks = outer events ++ happenings outcome.2.ticks ∧
      (⟨e, block, .awaiting [], log⟩ : Course).run shipment events =
        (⟨outcome.2.endpoint, block, .awaiting [], later⟩ : Course).waited outcome.1 := by
  induction ticks generalizing e log with
  | nil => exact ⟨[], log, rfl, rfl⟩
  | cons tick rest ih =>
    unfold Transfer.await
    by_cases asked : tick.interrupted = true
    · rw [if_pos asked]
      exact ⟨[.interrupt], log, happenings_interrupted asked rest, rfl⟩
    · rw [if_neg asked, happenings_cons asked]
      obtain ⟨before, later, arrived, looked⟩ := run_look shipment e block log tick.moment
      generalize e.look tick.moment = found at looked ⊢
      obtain ⟨events, own, ran⟩ := run_batch shipment found.2 block later found.1
      dsimp only
      cases told : Transfer.verdict shipment.connection (UInt32.ofNat block).toUInt64 found.1 with
      | some wait =>
        rw [told] at ran
        refine ⟨before ++ events, later, by simp [arrived, own], ?_⟩
        rw [run_append, looked]
        exact ran
      | none =>
        rw [told] at ran
        obtain ⟨more, last, rested, done⟩ := ih found.2 later
        refine ⟨before ++ events ++ more, last, by simp [arrived, own, rested], ?_⟩
        rw [run_append, run_append, looked, ran]
        exact done

/-- The numbers of the blocks from one on. -/
def blocksFrom (block count : Nat) : List UInt32 := (List.range' block count).map UInt32.ofNat

theorem blocks_eq (count : UInt32) : Transfer.blocks count = blocksFrom 0 count.toNat :=
  congrArg (List.map UInt32.ofNat) List.range_eq_range'

/-- What has arrived is handled, and a block is posted. -/
theorem run_post (held : (⟨e, block, .between, log⟩ : Course).Held shipment)
    (more : block ≠ shipment.count) (moment : Moment) :
    ∃ events later, outer events = arrivals moment ∧
      (⟨e, block, .between, log⟩ : Course).run shipment events =
        match Transfer.postBlock (e.arrive moment) shipment.connection shipment.size
          (UInt32.ofNat block) with
        | (.error fault, t) => ⟨t, block, .ended (.failed (.endpoint fault)), later⟩
        | (.ok (), t) => ⟨t, block, .awaiting [], later⟩ := by
  have going (ending : TransferEnd) : Phase.between ≠ .ended ending := nofun
  obtain ⟨heard, arrived⟩ := run_arrivals shipment e block log going moment
  have first : (⟨e.arrive moment, block, .between, heard⟩ : Course).step shipment .go = _ :=
    step_between more
  have kept := held_run held (arrivals moment ++ [.go])
  unfold Transfer.postBlock
  cases filling : Transfer.filled (e.arrive moment) shipment.size
    (UInt8.ofNat (UInt32.ofNat block).toNat) with
  | error fault =>
    rw [filling] at first
    refine ⟨arrivals moment ++ [.go], heard, by simp, ?_⟩
    rw [run_concat, arrived]
    exact first
  | ok filled =>
    rw [filling] at first
    change (Course.step shipment _ .go) = (⟨filled, block, .filled, heard⟩ : Course) at first
    rw [run_concat, arrived, first] at kept
    obtain ⟨s, holds, number⟩ := kept
    have second := step_filled shipment filled block heard
    have posted := holds.post_eq_ask (.writeWithImmediate (UInt32.ofNat block))
      (UInt32.ofNat block).toUInt64 0 shipment.size 0
    rw [number] at posted
    dsimp only at posted ⊢
    rw [posted]
    generalize filled.ask shipment.connection _ _ _ _ _ = asked at second ⊢
    obtain ⟨fault | post, t⟩ := asked
    · refine ⟨arrivals moment ++ [.go] ++ [.go], heard, by simp, ?_⟩
      rw [run_concat, run_concat, arrived, first, second]
    · refine ⟨arrivals moment ++ [.go] ++ [.go] ++ [.go],
        heard ++ [.asked post.sequence] ++ [(t.launch shipment.connection post).1], by simp, ?_⟩
      rw [run_concat, run_concat, run_concat, arrived, first, second]
      rfl

/-- What the command does in ticks is a course of it. -/
theorem run_ticks {left : Nat} (all : block + left = shipment.count)
    (held : (⟨e, block, .between, log⟩ : Course).Held shipment) (ticks : List Tick) :
    let outcome := Transfer.writeBlocks shipment.connection shipment.size
      (blocksFrom block left) ⟨e, ticks⟩
    ∃ events, happenings ticks = outer events ++ happenings outcome.2.ticks ∧
      ((⟨e, block, .between, log⟩ : Course).run shipment events).ending = outcome.1 ∧
      ((⟨e, block, .between, log⟩ : Course).run shipment events).endpoint =
        outcome.2.endpoint := by
  induction left generalizing e block log ticks with
  | zero =>
    have ended : (⟨e, block, .between, log⟩ : Course).run shipment [.go] = _ := step_last all
    refine ⟨[.go], rfl, ?_⟩
    rw [ended]
    exact ⟨rfl, rfl⟩
  | succ left ih =>
    have more : block ≠ shipment.count := by omega
    have listed : blocksFrom block (left + 1) =
        UInt32.ofNat block :: blocksFrom (block + 1) left := rfl
    rw [listed]
    unfold Transfer.writeBlocks
    cases ticks with
    | nil => exact ⟨[], rfl, rfl, rfl⟩
    | cons tick rest =>
      dsimp only
      by_cases asked : tick.interrupted = true
      · have stopped : (⟨e, block, .between, log⟩ : Course).run shipment [.interrupt] =
            ⟨e, block, .ended (.finished true), log⟩ := if_neg more
        rw [if_pos asked]
        refine ⟨[.interrupt], happenings_interrupted asked rest, ?_⟩
        rw [stopped]
        exact ⟨rfl, rfl⟩
      rw [if_neg asked, happenings_cons asked]
      obtain ⟨events, noted, arrived, posted⟩ := run_post held more tick.moment
      generalize Transfer.postBlock (e.arrive tick.moment) _ _ _ = outcome at posted ⊢
      obtain ⟨fault | _, t⟩ := outcome
      · refine ⟨events, by rw [arrived], ?_⟩
        rw [posted]
        exact ⟨rfl, rfl⟩
      obtain ⟨await, later, passed, awaited⟩ := run_await shipment t block noted rest
      have begun := held_run held (events ++ await)
      dsimp only at posted awaited begun ⊢
      rw [run_append, posted, awaited] at begun
      generalize Transfer.await _ _ t rest = outcome at passed awaited begun ⊢
      obtain ⟨wait, after, ticks⟩ := outcome
      rw [passed]
      cases wait with
      | completed =>
        have next : block + 1 + left = shipment.count := by omega
        obtain ⟨more, rested, done⟩ := ih next begun ticks
        refine ⟨events ++ await ++ more, by simp [arrived, rested], ?_⟩
        rw [run_append, run_append, posted, awaited]
        exact done
      | interrupted | failed | waiting =>
        refine ⟨events ++ await, by simp [arrived], ?_⟩
        rw [run_append, posted, awaited]
        exact ⟨rfl, rfl⟩

end Phases

end Course

end Command

end RdmaLink
