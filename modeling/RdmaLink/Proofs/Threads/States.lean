import RdmaLink.Proofs.Threads.Ledger
import RdmaLink.Proofs.Threads.Whole

/-!
# What a step does to the queue pair

Each thread has a step for every place that it may have come to, but only few of them do more than
to move work about: they set the state, write to the link or shut it down, change the memory, or
start or end the receive thread (`Threads.does_step`).  What concerns only one of these is read from
there.

The state is changed by a call that sets the queue pair up, the first step of a failure in either
thread, an attempt to link that fails, the end of a queue pair that is destroyed, and the last step
of the call that makes it ready to send.  That last step does not look at what the state has become
meanwhile.

    t.state leads to (t.step event).state, or a failure is overwritten       (Threads.Turns.leads)
-/

namespace RdmaLink

/-- Link and memory are as before. -/
structure Station.Still (s s' : Station) : Prop where
  link : s'.queuePair.link = s.queuePair.link
  destroyed : s'.queuePair.destroyed = s.queuePair.destroyed
  memory : s'.memory = s.memory

namespace Threads

variable {t : Threads}

/-! ## What a step does -/

/-- The receive thread stays where it is, or it is there and does not come to its end. -/
def Goes (t t' : Threads) : Prop :=
  t'.reception = t.reception ∨ (¬ t.reception.Gone ∧ t'.reception ≠ .finished)

/-- What a step does to the queue pair, but for its work. -/
inductive Does (t : Threads) : ThreadEvent → Threads → Prop
  | stays {event : ThreadEvent} {t' : Threads}
      (state : t'.station.queuePair.state = t.station.queuePair.state)
      (still : t.station.Still t'.station) (goes : Goes t t') : Does t event t'
  /-- A message is written to the link, or the link refuses it. -/
  | writes {event : ThreadEvent} {t' : Threads} (header : Header) (payload : Bytes)
      (state : t'.station.queuePair.state = t.station.queuePair.state)
      (still : (t.station.transmit header payload).2.Still t'.station) (goes : Goes t t') :
      Does t event t'
  /-- A frame that has arrived in full takes its effect, also on the memory. -/
  | takes {registrations : Registrations} {arrival : Arrival} {t' : Threads}
      (taking : t.reception = .taking arrival)
      (state : t'.station.queuePair.state = t.station.queuePair.state)
      (link : t'.station.queuePair.link = t.station.queuePair.link)
      (destroyed : t'.station.queuePair.destroyed = t.station.queuePair.destroyed)
      (goes : Goes t t') : Does t (.advance registrations) t'
  /-- The link is shut down, and if it is the receive thread that does it, that thread ends. -/
  | shuts {event : ThreadEvent} {t' : Threads} (station : t'.station = t.station.shutLink)
      (reception : t'.reception = t.reception ∨
        (t.reception = .shutting ∧ t'.reception = .finished)) : Does t event t'
  /-- The receive thread of a queue pair that is destroyed ends. -/
  | leaves {registrations : Registrations} (broken : t.reception = .broken)
      (destroyed : t.station.queuePair.destroyed = true) :
      Does t (.advance registrations) (t.receives t.station .finished)
  | remembers (memory : Memory) : Does t (.remember memory)
      { t with station := { t.station with memory := memory } }
  | init {access : Access} {queuePair : QueuePair} (early : t.station.queuePair.state = .reset)
      (now : queuePair.state = .init) (link : queuePair.link = t.station.queuePair.link)
      (destroyed : queuePair.destroyed = t.station.queuePair.destroyed) :
      Does t (.call (.toInit access)) (t.returns (.ok ()) { t.station with queuePair := queuePair })
  | links {peer : QueuePairAddress} {ip : IpAddress} {conditions : LinkConditions}
      {queuePair : QueuePair} (idle : t.action = .idle)
      (early : t.station.queuePair.state = .init) (now : queuePair.state = .readyToReceive)
      (destroyed : queuePair.destroyed = t.station.queuePair.destroyed) :
      Does t (.call (.link peer ip conditions))
        (t.returns (.ok ()) { t.station with queuePair := queuePair })
  /-- The attempt to link fails: what was posted stays. -/
  | unlinked {peer : QueuePairAddress} {ip : IpAddress} {conditions : LinkConditions}
      {answer : Except DeviceError Unit} (early : t.station.queuePair.state = .init) :
      Does t (.call (.link peer ip conditions)) (t.returns answer { t.station with queuePair :=
        { t.station.queuePair with attached := none, state := .error } })
  /-- The receive thread starts on the link. -/
  | listens {intake : Option Intake} (late : t.station.queuePair.state = .readyToReceive)
      (linked : t.station.queuePair.link.isSome = true) :
      Does t (.call .start)
        { t.goesOn { t.station with queuePair := { t.station.queuePair with intake := intake } }
            .starting with
          reception := .reading }
  | start {registrations : Registrations} (starting : t.action = .starting) :
      Does t (.proceed registrations)
        (t.returns (.ok ()) { t.station with queuePair := t.station.queuePair.setReady })
  /-- A call fails the queue pair, and flushes it next. -/
  | fail {registrations : Registrations} {shuts : Bool} (failing : t.action = .failing shuts) :
      Does t (.proceed registrations) (t.goesOn t.station.marked (.flushing shuts))
  /-- The receive thread fails the queue pair, and flushes it next. -/
  | lose {registrations : Registrations} (failing : t.reception = .failing) :
      Does t (.advance registrations) (t.receives t.station.marked .flushing)
  | closes : Does t (.call .destroy)
      (t.goesOn { t.station with queuePair := t.station.queuePair.close } .joining)
  | retire {registrations : Registrations} (joining : t.action = .joining) :
      Does t (.proceed registrations)
        (t.returns (.ok ()) { t.station with queuePair := t.station.queuePair.retire })

section Steps

variable {event : ThreadEvent} {t' : Threads}

/-- A step of the owner that only moves work about. -/
theorem does_nothing (state : t'.station.queuePair.state = t.station.queuePair.state)
    (link : t'.station.queuePair.link = t.station.queuePair.link)
    (destroyed : t'.station.queuePair.destroyed = t.station.queuePair.destroyed)
    (memory : t'.station.memory = t.station.memory) (reception : t'.reception = t.reception) :
    Does t event t' :=
  .stays state ⟨link, destroyed, memory⟩ (Or.inl reception)

/-- A step of the receive thread that only moves work about. -/
theorem does_receive {s : Station} {before reception : Reception} (now : t.reception = before)
    (there : ¬ before.Gone) (further : reception ≠ .finished)
    (state : s.queuePair.state = t.station.queuePair.state)
    (link : s.queuePair.link = t.station.queuePair.link)
    (destroyed : s.queuePair.destroyed = t.station.queuePair.destroyed)
    (memory : s.memory = t.station.memory) : Does t event (t.receives s reception) :=
  .stays state ⟨link, destroyed, memory⟩ (Or.inr ⟨now ▸ there, further⟩)

/-- A message is written to the link, or the link refuses it. -/
theorem does_write {header : Header} {payload : Bytes} {outcome : Except IoError Unit}
    {tried : Station} (h : t.station.transmit header payload = (outcome, tried))
    (state : t'.station.queuePair.state = tried.queuePair.state)
    (still : tried.Still t'.station) (goes : Goes t t') : Does t event t' := by
  refine .writes header payload (state.trans (Station.alike_of_transmit h).1.state) ?_ goes
  rw [h]
  exact still

theorem does_begin (idle : t.action = .idle) (call : Call) :
    Does t (.call call) (t.begin call) := by
  cases call with
  | toInit access =>
    simp only [begin, settles]
    cases made : t.station.queuePair.toInit access with
    | error e => exact does_nothing rfl rfl rfl rfl rfl
    | ok queuePair =>
      obtain ⟨early, rfl⟩ := QueuePair.toInit_eq_ok made
      exact .init early rfl rfl rfl
  | attach stream =>
    simp only [begin, settles]
    cases made : t.station.queuePair.attach stream with
    | error e => exact does_nothing rfl rfl rfl rfl rfl
    | ok queuePair =>
      obtain ⟨-, rfl⟩ := QueuePair.attach_eq_ok made
      exact does_nothing rfl rfl rfl rfl rfl
  | link peer ip conditions =>
    simp only [begin]
    rcases t.station.queuePair.toReadyToReceive_cases peer ip conditions with
      ⟨e, -, h⟩ | ⟨early, ⟨e, tried, h⟩ | ⟨link, h⟩⟩
    · rw [h]; exact does_nothing rfl rfl rfl rfl rfl
    · rw [h]; exact .unlinked early
    · rw [h]; exact .links idle early rfl rfl
  | start =>
    simp only [begin]
    split
    · exact does_nothing rfl rfl rfl rfl rfl
    · next queuePair started =>
      obtain ⟨late, linked, rfl⟩ := QueuePair.startReceiving_eq_ok started
      exact .listens late linked
  | postSend send =>
    simp only [begin]
    split <;> exact does_nothing rfl rfl rfl rfl rfl
  | postReceive request =>
    simp only [begin]
    split <;> exact does_nothing rfl rfl rfl rfl rfl
  | destroy =>
    simp only [begin]
    split
    · exact does_nothing rfl rfl rfl rfl rfl
    · exact .closes

theorem does_proceed (t : Threads) (registrations : Registrations) :
    Does t (.proceed registrations) (t.proceed registrations) := by
  unfold proceed
  cases action : t.action with
  | failing shuts =>
    dsimp only
    split
    · cases shuts <;> exact does_nothing rfl rfl rfl rfl rfl
    · exact .fail action
  | starting => exact .start action
  | joining =>
    dsimp only
    split
    · exact .retire action
    · exact does_nothing rfl rfl rfl rfl rfl
  | shutting => exact .shuts rfl (Or.inl rfl)
  | launching draft =>
    dsimp only
    split <;> next h => exact does_write h rfl ⟨rfl, rfl, rfl⟩ (Or.inl rfl)
  | confirming sequence =>
    dsimp only
    split <;> next h => exact does_write h rfl ⟨rfl, rfl, rfl⟩ (Or.inl rfl)
  | admitting send =>
    dsimp only
    split <;> exact does_nothing rfl rfl rfl rfl rfl
  | preparing send =>
    dsimp only
    rcases t.station.prepare_cases registrations send with ⟨e, h⟩ | ⟨e, h⟩ |
      ⟨_, _, _, _, -, -, -, h⟩ <;> rw [h] <;> exact does_nothing rfl rfl rfl rfl rfl
  | withdrawing sequence =>
    dsimp only
    cases posted : t.station.queuePair.work.send? sequence with
    | none => rw [Station.withdraw_of_gone posted]; exact does_nothing rfl rfl rfl rfl rfl
    | some send => rw [Station.withdraw_of_waiting posted]; exact does_nothing rfl rfl rfl rfl rfl
  | awaiting request =>
    dsimp only
    split <;> exact does_nothing rfl rfl rfl rfl rfl
  | meeting request =>
    dsimp only
    cases oldest : t.station.queuePair.work.held with
    | nil => rw [Station.meet_of_none oldest]; exact does_nothing rfl rfl rfl rfl rfl
    | cons held later =>
      rw [Station.meet_of_held oldest]; exact does_nothing rfl rfl rfl rfl rfl
  | flushing shuts => cases shuts <;> exact does_nothing rfl rfl rfl rfl rfl
  | _ => exact does_nothing rfl rfl rfl rfl rfl

theorem does_advance (t : Threads) (registrations : Registrations) :
    Does t (.advance registrations) (t.advance registrations) := by
  have follows (s : Station) (rest : Rest) : (t.follows s rest).reception ≠ .finished := by
    cases rest <;> nofun
  unfold advance
  cases reception : t.reception with
  | absent => exact does_nothing rfl rfl rfl rfl rfl
  | reading => exact does_nothing rfl rfl rfl rfl rfl
  | finished => exact does_nothing rfl rfl rfl rfl rfl
  | settling header =>
    dsimp only
    split
    · exact does_receive reception nofun nofun rfl rfl rfl rfl
    · split <;> exact does_receive reception nofun nofun rfl rfl rfl rfl
  | taking arrival =>
    obtain ⟨work, same⟩ := t.station.queuePair_react registrations arrival
    have still (s : Station) (rest : Rest) :
        (t.follows s rest).station.queuePair.state = s.queuePair.state ∧
          (t.follows s rest).station.queuePair.link = s.queuePair.link ∧
          (t.follows s rest).station.queuePair.destroyed = s.queuePair.destroyed := by
      cases rest <;> exact ⟨rfl, rfl, rfl⟩
    obtain ⟨state, link, destroyed⟩ := still (t.station.react registrations arrival).1
      (t.station.react registrations arrival).2
    rw [same] at state link destroyed
    exact .takes reception state link destroyed
      (Or.inr ⟨by rw [reception]; nofun, follows _ _⟩)
  | claiming header =>
    dsimp only
    rcases t.station.claim_cases header with ⟨_, _, -, h⟩ | ⟨-, h⟩ <;> rw [h] <;>
      exact does_receive reception nofun nofun rfl rfl rfl rfl
  | answering header payload =>
    dsimp only
    split <;> next h =>
      exact does_write h rfl ⟨rfl, rfl, rfl⟩ (Or.inr ⟨by rw [reception]; nofun, nofun⟩)
  | broken =>
    dsimp only
    split
    · next destroyed => exact .leaves reception destroyed
    · exact does_receive reception nofun nofun rfl rfl rfl rfl
  | failing =>
    dsimp only
    split
    · exact does_receive reception nofun nofun rfl rfl rfl rfl
    · exact .lose reception
  | flushing => exact does_receive reception nofun nofun rfl rfl rfl rfl
  | shutting => exact .shuts rfl (Or.inr ⟨reception, rfl⟩)

theorem does_step (t : Threads) (event : ThreadEvent) : Does t event (t.step event) := by
  have there : ¬ Reception.reading.Gone := by rintro (gone | gone) <;> cases gone
  cases event with
  | call call =>
    simp only [step]
    split
    · next idle => exact does_begin idle call
    · exact does_nothing rfl rfl rfl rfl rfl
  | proceed registrations => exact does_proceed t registrations
  | advance registrations => exact does_advance t registrations
  | byte byte =>
    simp only [step, hears]
    split
    · next reading _ =>
        split <;> exact does_receive reading there (by rintro ⟨⟩) rfl rfl rfl rfl
    · next reading _ =>
        split <;> exact does_receive reading there (by rintro ⟨⟩) rfl rfl rfl rfl
    · exact does_nothing rfl rfl rfl rfl rfl
  | hangUp =>
    simp only [step]
    split
    · next reading => exact does_receive reading there (by rintro ⟨⟩) rfl rfl rfl rfl
    · exact does_nothing rfl rfl rfl rfl rfl
  | poll most => exact does_nothing rfl rfl rfl rfl rfl
  | remember memory => exact .remembers memory

end Steps

/-! ## The state -/

/-- What a step makes of the state. -/
inductive Turns (t : Threads) : ThreadEvent → Threads → Prop
  | stays {event : ThreadEvent} {t' : Threads}
      (state : t'.station.queuePair.state = t.station.queuePair.state) : Turns t event t'
  | init {access : Access} {t' : Threads} (early : t.station.queuePair.state = .reset)
      (now : t'.station.queuePair.state = .init) : Turns t (.call (.toInit access)) t'
  | link {peer : QueuePairAddress} {ip : IpAddress} {conditions : LinkConditions} {t' : Threads}
      (early : t.station.queuePair.state = .init)
      (now : t'.station.queuePair.state = .readyToReceive) :
      Turns t (.call (.link peer ip conditions)) t'
  /-- The attempt to link fails: what was posted stays. -/
  | unlinked {peer : QueuePairAddress} {ip : IpAddress} {conditions : LinkConditions}
      {answer : Except DeviceError Unit} (early : t.station.queuePair.state = .init) :
      Turns t (.call (.link peer ip conditions)) (t.returns answer { t.station with queuePair :=
        { t.station.queuePair with attached := none, state := .error } })
  | start {registrations : Registrations} (starting : t.action = .starting) :
      Turns t (.proceed registrations)
        (t.returns (.ok ()) { t.station with queuePair := t.station.queuePair.setReady })
  /-- A call fails the queue pair, and flushes it next. -/
  | fail {registrations : Registrations} {shuts : Bool} (failing : t.action = .failing shuts) :
      Turns t (.proceed registrations) (t.goesOn t.station.marked (.flushing shuts))
  /-- The receive thread fails the queue pair, and flushes it next. -/
  | lose {registrations : Registrations} (failing : t.reception = .failing) :
      Turns t (.advance registrations) (t.receives t.station.marked .flushing)
  | retire {registrations : Registrations} (joining : t.action = .joining) :
      Turns t (.proceed registrations)
        (t.returns (.ok ()) { t.station with queuePair := t.station.queuePair.retire })

theorem Does.turns {event : ThreadEvent} {t' : Threads} (does : Does t event t') :
    Turns t event t' := by
  cases does with
  | stays state still goes => exact .stays state
  | writes header payload state still goes => exact .stays state
  | takes taking state link destroyed goes => exact .stays state
  | shuts station reception => exact .stays (by rw [station]; rfl)
  | init early now link destroyed => exact .init early now
  | links idle early now destroyed => exact .link early now
  | unlinked early => exact .unlinked early
  | start starting => exact .start starting
  | fail failing => exact .fail failing
  | lose failing => exact .lose failing
  | retire joining => exact .retire joining
  | leaves | remembers | listens | closes => exact .stays rfl

theorem turns_step (t : Threads) (event : ThreadEvent) : Turns t event (t.step event) :=
  (t.does_step event).turns

/-- The states follow each other in order, or a failure is overwritten as the queue pair is made
ready to send. -/
theorem Turns.leads {event : ThreadEvent} {t' : Threads} (turns : Turns t event t')
    (early : t.action = .starting → t.station.queuePair.state = .readyToReceive ∨ t.Failed) :
    t.station.queuePair.state.Leads t'.station.queuePair.state ∨
      (t.Failed ∧ t.action = .starting ∧ t'.station.queuePair.state = .readyToSend) := by
  cases turns with
  | stays state => rw [state]; exact Or.inl (.stay _)
  | init early now => rw [early, now]; exact Or.inl .init
  | link early now => rw [early, now]; exact Or.inl .link
  | start starting =>
    rcases early starting with late | failed
    · rw [late]; exact Or.inl .start
    · exact Or.inr ⟨failed, starting, rfl⟩
  | _ => exact Or.inl (.fail _)

end Threads

end RdmaLink
