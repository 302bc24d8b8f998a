import RdmaLink.Proofs.Threads.Completions
import RdmaLink.Proofs.Threads.States

/-!
# What a failure stops

A failure sets the state and flushes, and no call is accepted afterwards.  What the peer still sends
is another matter: the receive thread goes on until it finds the link shut down, and only a refused
send, the receive thread itself and the end of the queue pair shut it down.  A receive whose held
write cannot be acknowledged does not.

    nothing waits, nothing is flushed            no completion is added           (Threads.Spent)
    the link is shut down                        no message is written            (Threads.Down)
    the receive thread is gone as well           nothing changes at all           (Threads.Inert)

Each of the three is kept by every step of both threads.
-/

namespace RdmaLink

/-- The memory that something else in the process leaves. -/
def ThreadEvent.remembered? : ThreadEvent → Option Memory
  | .remember memory => some memory
  | _ => none

/-- Whether a call does not return before it has shut the link down. -/
def Action.closes : Action → Bool
  | .withdrawing _ | .reporting _ | .failing true | .flushing true | .shutting => true
  | _ => false

/-! ## Calls out of place -/

/-- The states in which a call is accepted, and how a refusal puts them. -/
def Call.accepted? : Call → Option (List QueuePairState × String)
  | .toInit _ => some ([.reset], "RESET")
  | .attach _ => some ([.reset, .init], "RESET or INIT")
  | .link _ _ _ => some ([.init], "INIT")
  | .start => some ([.readyToReceive], "RTR")
  | .postSend _ => some ([.readyToSend], "RTS")
  | .postReceive _ => some ([.init, .readyToReceive, .readyToSend], "INIT, RTR or RTS")
  | .destroy => none

namespace Threads

variable {t : Threads}

/-- A call that the state does not accept is refused, and changes nothing. -/
theorem begin_of_unaccepted {call : Call} {accepted : List QueuePairState} {expected : String}
    (known : call.accepted? = some (accepted, expected))
    (outside : t.station.queuePair.state ∉ accepted) :
    t.begin call = t.returns (.error (.invalidState t.station.queuePair.address.number
      t.station.queuePair.state expected)) t.station := by
  have refused : t.station.queuePair.expect accepted expected =
      .error (.invalidState t.station.queuePair.address.number t.station.queuePair.state
        expected) := if_neg outside
  cases call with
  | toInit access =>
    cases known
    simp only [begin, settles, QueuePair.toInit, refused]
    rfl
  | attach stream =>
    cases known
    simp only [begin, settles, QueuePair.attach, refused]
    rfl
  | link peer ip conditions =>
    cases known
    simp only [begin, QueuePair.toReadyToReceive, refused]
  | start =>
    cases known
    simp only [begin, QueuePair.startReceiving, refused]
  | postSend send =>
    cases known
    simp only [begin, refused]
  | postReceive request =>
    cases known
    simp only [begin, refused]
  | destroy => cases known

/-- No call is accepted after a failure; only the end of the queue pair begins. -/
theorem begin_of_failed (failed : t.Failed) (call : Call) :
    (∃ answer, t.begin call = t.returns answer t.station) ∨
      (t.begin call =
        t.goesOn { t.station with queuePair := t.station.queuePair.close } .joining) := by
  have state : t.station.queuePair.state = .error := failed
  have refused {accepted : List QueuePairState} {expected : String}
      (known : call.accepted? = some (accepted, expected)) (late : .error ∉ accepted) :
      ∃ answer, t.begin call = t.returns answer t.station :=
    ⟨_, begin_of_unaccepted known (state ▸ late)⟩
  cases call with
  | destroy =>
    simp only [begin]
    split
    · exact Or.inl ⟨_, rfl⟩
    · exact Or.inr rfl
  | _ => exact Or.inl (refused rfl (by decide))

/-! ## Memory and link -/

/-- What a step may make of the link: a frame is written to it, or tried to be, or it is shut
down. -/
inductive Wire (s : Station) : Option Stream → Prop
  | same : Wire s s.queuePair.link
  | tried (header : Header) (payload : Bytes) :
      Wire s (s.transmit header payload).2.queuePair.link
  | down : Wire s (s.queuePair.link.map Stream.shutdown)

/-- What a step may do to the memory and the link.  Only a frame that has arrived in full changes
the memory, or something else in the process; and a link is only made by an attempt to link. -/
structure Touches (t : Threads) (event : ThreadEvent) (t' : Threads) : Prop where
  memory : t'.station.memory = t.station.memory ∨
    (∃ registrations arrival, event = .advance registrations ∧ t.reception = .taking arrival) ∨
    event = .remember t'.station.memory
  link : Wire t.station t'.station.queuePair.link ∨
    (t.action = .idle ∧ t.station.queuePair.state = .init)
  destroyed : t'.station.queuePair.destroyed = t.station.queuePair.destroyed ∨
    (t'.action = .joining ∧ t'.station.Shut)

variable {event : ThreadEvent} {t' : Threads}

theorem Does.touches (does : Does t event t') : Touches t event t' := by
  cases does with
  | stays state still goes =>
    exact ⟨Or.inl still.memory, Or.inl (still.link ▸ .same), Or.inl still.destroyed⟩
  | writes header payload state still goes =>
    exact ⟨Or.inl (still.memory.trans (t.station.memory_transmit header payload)),
      Or.inl (still.link ▸ .tried header payload),
      Or.inl (still.destroyed.trans (t.station.alike_transmit header payload).destroyed)⟩
  | takes taking state link destroyed goes =>
    exact ⟨Or.inr (Or.inl ⟨_, _, rfl, taking⟩), Or.inl (link ▸ .same), Or.inl destroyed⟩
  | shuts station reception =>
    exact ⟨Or.inl (by rw [station]; rfl), Or.inl (by rw [station]; exact .down),
      Or.inl (by rw [station]; rfl)⟩
  | remembers memory => exact ⟨Or.inr (Or.inr rfl), Or.inl .same, Or.inl rfl⟩
  | init early now link destroyed => exact ⟨Or.inl rfl, Or.inl (link ▸ .same), Or.inl destroyed⟩
  | links idle early now destroyed => exact ⟨Or.inl rfl, Or.inr ⟨idle, early⟩, Or.inl destroyed⟩
  | closes => exact ⟨Or.inl rfl, Or.inl .down, Or.inr ⟨rfl, t.station.shut_shutLink⟩⟩
  | _ => exact ⟨Or.inl rfl, Or.inl .same, Or.inl rfl⟩

theorem touches_step (t : Threads) (event : ThreadEvent) : Touches t event (t.step event) :=
  (t.does_step event).touches

/-! ## A link that is shut down -/

theorem shut_transmit {s : Station} (shut : s.Shut) (header : Header) (payload : Bytes) :
    (s.transmit header payload).2.Shut ∧ (s.transmit header payload).2.sent = s.sent := by
  obtain ⟨e, tried, h, sent⟩ := shut.transmit header payload
  rw [h]
  refine ⟨?_, sent⟩
  rcases s.transmit_cases header payload with ⟨stream, -, h'⟩ | ⟨e', stream, part, linked, h'⟩ |
    ⟨e', none, h'⟩
  · rw [h'] at h
    cases h
  · rw [h'] at h
    cases h
    rintro _ ⟨⟩
    exact shut stream linked
  · rw [h'] at h
    cases h
    exact shut

/-- A link that is shut down stays so, and no message is written to it. -/
theorem Wire.shut {s s' : Station} (wire : Wire s s'.queuePair.link) (shut : s.Shut) :
    s'.Shut ∧ s'.sent = s.sent := by
  unfold Station.Shut Station.sent
  generalize after : s'.queuePair.link = link at wire
  cases wire with
  | same => exact ⟨shut, rfl⟩
  | tried header payload => exact shut_transmit shut header payload
  | down => exact ⟨s.shut_shutLink, s.sent_shutLink⟩

theorem Wire.isSome {s s' : Station} (wire : Wire s s'.queuePair.link) :
    s'.queuePair.link.isSome = s.queuePair.link.isSome := by
  generalize after : s'.queuePair.link = link at wire
  cases wire with
  | same => rfl
  | tried header payload => exact (s.alike_transmit header payload).linked
  | down => rw [Option.isSome_map]

/-- No link is open, and none is to be made. -/
structure Down (t : Threads) : Prop where
  shut : t.station.Shut
  late : t.station.queuePair.state ≠ .reset ∧ t.station.queuePair.state ≠ .init

/-- A link that is shut down stays so, and no message is written to it any more. -/
theorem Down.step (down : t.Down) (event : ThreadEvent) :
    (t.step event).Down ∧ (t.step event).station.sent = t.station.sent := by
  obtain ⟨shut, reset, init⟩ := down
  rcases (touches_step t event).link with wire | ⟨-, early⟩
  · obtain ⟨shut', sent⟩ := wire.shut shut
    refine ⟨⟨shut', ?_⟩, sent⟩
    generalize after : t.step event = t'
    have turns := turns_step t event
    rw [after] at turns
    cases turns with
    | stays state => rw [state]; exact ⟨reset, init⟩
    | init early now => exact absurd early reset
    | link early now => exact absurd early init
    | _ => exact ⟨nofun, nofun⟩
  · exact absurd early init

/-! ## The end of the receive thread -/

/-- What a step makes of the receive thread: it starts on a link, it comes to its end with the link
shut down, or it goes on. -/
structure Hears (t t' : Threads) : Prop where
  starts : t.reception = .absent → t'.reception ≠ .absent → t.station.queuePair.link.isSome = true
  ends : t'.reception = .finished →
    t.reception = .finished ∨ t.station.queuePair.destroyed = true ∨ t'.station.Shut
  gone : t.Failed → t.reception.Gone → t'.reception.Gone

theorem hears_of_same (same : t'.reception = t.reception) : Hears t t' :=
  ⟨fun absent present => absurd (same.trans absent) present,
    fun finished => Or.inl (same ▸ finished), fun _ gone => same ▸ gone⟩

theorem Goes.hears (goes : Goes t t') : Hears t t' := by
  rcases goes with same | ⟨going, further⟩
  · exact hears_of_same same
  · exact ⟨fun absent => absurd (Or.inl absent) going, fun finished => absurd finished further,
      fun _ gone => absurd gone going⟩

theorem Does.hears (does : Does t event t') : Hears t t' := by
  have going {before : Reception} (now : t.reception = before) (there : ¬ before.Gone) :
      ¬ t.reception.Gone := now ▸ there
  cases does with
  | stays state still goes => exact goes.hears
  | writes header payload state still goes => exact goes.hears
  | takes taking state link destroyed goes => exact goes.hears
  | shuts station reception =>
    rcases reception with same | ⟨shutting, finished⟩
    · exact hears_of_same same
    · have there := going shutting (by rintro (gone | gone) <;> cases gone)
      refine ⟨fun absent => absurd (Or.inl absent) there, fun _ => Or.inr (Or.inr ?_),
        fun _ gone => absurd gone there⟩
      rw [station]
      exact t.station.shut_shutLink
  | leaves broken destroyed =>
    have there := going broken (by rintro (gone | gone) <;> cases gone)
    exact ⟨fun absent => absurd (Or.inl absent) there, fun _ => Or.inr (Or.inl destroyed),
      fun _ gone => absurd gone there⟩
  | listens late linked =>
    refine ⟨fun _ _ => linked, by rintro ⟨⟩, fun failed => ?_⟩
    rw [Failed, late] at failed
    cases failed
  | lose failing =>
    exact Goes.hears (Or.inr ⟨going failing (by rintro (gone | gone) <;> cases gone), by rintro ⟨⟩⟩)
  | _ => exact hears_of_same rfl

theorem hears_step (t : Threads) (event : ThreadEvent) : Hears t (t.step event) :=
  (t.does_step event).hears

/-- What holds of the link and the end of the receive thread. -/
structure Ending (t : Threads) : Prop where
  linked : t.reception ≠ .absent → t.station.queuePair.link.isSome = true
  finished : t.reception = .finished → t.station.Shut
  destroyed : t.station.queuePair.destroyed = true → t.station.Shut ∧
    (t.action = .joining ∨ (t.action = .idle ∧ t.Failed ∧ t.reception.Gone))

theorem ending_fresh (address : QueuePairAddress) (linkTimeout : Milliseconds) (depth : Nat)
    (memory : Memory) : (Threads.fresh address linkTimeout depth memory).Ending :=
  ⟨fun there => absurd rfl there, nofun, nofun⟩

/-- A failure is only left by the last step of making the queue pair ready to send. -/
theorem Failed.step (failed : t.Failed) (ready : t.action ≠ .starting) (event : ThreadEvent) :
    (t.step event).Failed := by
  rcases (turns_step t event).leads fun starting => absurd starting ready with
    leads | ⟨-, starting, -⟩
  · exact leads.final failed
  · exact absurd starting ready

/-- The queue pair has failed or ends, no call is in progress and nothing is received. -/
structure Inert (t : Threads) : Prop where
  failed : t.Failed
  resting : t.action = .idle ∨ t.action = .joining
  gone : t.reception.Gone

/-- A step of an inert queue pair: what was posted stays, and so do the messages and the memory,
but for what others do. -/
structure Stays (t : Threads) (event : ThreadEvent) (t' : Threads) : Prop where
  inert : t'.Inert
  work : t'.station.queuePair.work = t.station.queuePair.work
  completions : t'.station.completions = t.drained event
  sent : t'.station.sent = t.station.sent
  memory : t'.station.memory = event.remembered?.getD t.station.memory

/-- Nothing comes of an inert queue pair. -/
theorem Inert.step (inert : t.Inert) (event : ThreadEvent) : Stays t event (t.step event) := by
  obtain ⟨failed, resting, gone⟩ := inert
  have reads : t.reception ≠ .reading := fun reading => by
    rw [reading] at gone
    rcases gone with gone | gone <;> cases gone
  cases event with
  | call call =>
    simp only [Threads.step]
    split
    · rcases begin_of_failed failed call with ⟨answer, returned⟩ | closes
      · rw [returned]
        exact ⟨⟨failed, Or.inl rfl, gone⟩, rfl, rfl, rfl, rfl⟩
      · rw [closes]
        exact ⟨⟨failed, Or.inr rfl, gone⟩, rfl, rfl, t.station.sent_shutLink, rfl⟩
    · exact ⟨⟨failed, resting, gone⟩, rfl, rfl, rfl, rfl⟩
  | proceed registrations =>
    rcases resting with idle | joining
    · simp only [Threads.step, proceed, idle]
      exact ⟨⟨failed, Or.inl idle, gone⟩, rfl, rfl, rfl, rfl⟩
    · simp only [Threads.step, proceed, joining, if_pos gone]
      exact ⟨⟨rfl, Or.inl rfl, gone⟩, rfl, rfl, rfl, rfl⟩
  | byte byte =>
    simp only [Threads.step, hears]
    split
    · next reading _ => exact absurd reading reads
    · next reading _ => exact absurd reading reads
    · exact ⟨⟨failed, resting, gone⟩, rfl, rfl, rfl, rfl⟩
  | hangUp =>
    simp only [Threads.step, if_neg reads]
    exact ⟨⟨failed, resting, gone⟩, rfl, rfl, rfl, rfl⟩
  | advance registrations =>
    have still : t.advance registrations = t := by
      rcases gone with absent | finished
      · simp only [advance, absent]
      · simp only [advance, finished]
    simp only [Threads.step, still]
    exact ⟨⟨failed, resting, gone⟩, rfl, rfl, rfl, rfl⟩
  | poll most => exact ⟨⟨failed, resting, gone⟩, rfl, rfl, rfl, rfl⟩
  | remember memory => exact ⟨⟨failed, resting, gone⟩, rfl, rfl, rfl, rfl⟩

/-- An inert queue pair takes nothing on and completes nothing. -/
theorem Inert.silent (inert : t.Inert) (event : ThreadEvent) :
    t.reports event = [] ∧ t.enters event = [] := by
  obtain ⟨-, resting, gone⟩ := inert
  cases event with
  | proceed registrations =>
    rcases resting with idle | joining
    · simp only [reports, enters, idle, and_self]
    · simp only [reports, enters, joining, and_self]
  | advance registrations =>
    rcases gone with absent | finished
    · simp only [reports, enters, absent, and_self]
    · simp only [reports, enters, finished, and_self]
  | _ => exact ⟨rfl, rfl⟩

/-- A queue pair that is destroyed waits for its receive thread, or is at its end. -/
theorem Ending.kept (ending : t.Ending) (event : ThreadEvent)
    (destroyed : t.station.queuePair.destroyed = true) :
    (t.step event).action = .joining ∨
      ((t.step event).action = .idle ∧ (t.step event).Failed ∧ (t.step event).reception.Gone) := by
  obtain ⟨-, joining | ⟨idle, failed, gone⟩⟩ := ending.destroyed destroyed
  · by_cases owner : event.ofOwner = false
    · exact Or.inl ((t.action_step event owner).1.trans joining)
    · cases event with
      | call call =>
        refine Or.inl ?_
        rw [step, if_neg (by rw [joining]; simp)]
        exact joining
      | proceed registrations =>
        simp only [step, proceed, joining]
        split
        · next gone => exact Or.inr ⟨rfl, rfl, gone⟩
        · exact Or.inl joining
      | _ => exact absurd rfl owner
  · obtain ⟨failed', resting, gone'⟩ := (Inert.step ⟨failed, Or.inl idle, gone⟩ event).inert
    exact resting.symm.imp_right fun idle' => ⟨idle', failed', gone'⟩

theorem Ending.step (ending : t.Ending) (sound : t.Sound) (event : ThreadEvent) :
    (t.step event).Ending := by
  have touches := touches_step t event
  have hears := hears_step t event
  rcases touches.link with wire | ⟨idle, early⟩
  · refine ⟨fun there => ?_, fun finished => ?_, fun destroyed => ?_⟩
    · rw [wire.isSome]
      by_cases absent : t.reception = .absent
      · exact hears.starts absent there
      · exact ending.linked absent
    · rcases hears.ends finished with before | destroyed | shut
      · exact (wire.shut (ending.finished before)).1
      · exact (wire.shut (ending.destroyed destroyed).1).1
      · exact shut
    · rcases touches.destroyed with same | ⟨joining, shut⟩
      · have before := same.symm.trans destroyed
        exact ⟨(wire.shut (ending.destroyed before).1).1, ending.kept event before⟩
      · exact ⟨shut, Or.inl joining⟩
  · -- a link is made: nothing was received before, and the queue pair is not destroyed
    have absent : t.reception = .absent :=
      sound.absent (Or.inr (Or.inl early)) (by rw [idle]; nofun)
    have absent' : (t.step event).reception = .absent := by
      by_contra there
      have linked := hears.starts absent there
      rw [sound.unlinked (Or.inr early)] at linked
      cases linked
    refine ⟨fun there => absurd absent' there, by rw [absent']; nofun, fun destroyed => ?_⟩
    rcases touches.destroyed with same | ⟨joining, shut⟩
    · obtain ⟨-, joining | ⟨-, failed, -⟩⟩ := ending.destroyed (same.symm.trans destroyed)
      · rw [idle] at joining
        cases joining
      · rw [Failed, early] at failed
        cases failed
    · exact ⟨shut, Or.inl joining⟩

/-- A send that the link has refused does not return before the link is shut down. -/
theorem closes_step (closes : t.action.closes = true) (event : ThreadEvent) :
    (t.step event).action.closes = true ∨
      ((t.step event).action = .idle ∧ (t.step event).station.Shut) := by
  by_cases owner : event.ofOwner = false
  · rw [(t.action_step event owner).1]
    exact Or.inl closes
  cases event with
  | call call =>
    have busy : t.action ≠ .idle := fun idle => by rw [idle] at closes; cases closes
    rw [step, if_neg busy]
    exact Or.inl closes
  | proceed registrations =>
    simp only [step, proceed]
    cases action : t.action with
    | withdrawing sequence =>
      dsimp only
      split <;> exact Or.inl rfl
    | reporting send => exact Or.inl rfl
    | failing shuts =>
      cases shuts with
      | true =>
        dsimp only
        split <;> exact Or.inl rfl
      | false => rw [action] at closes; cases closes
    | flushing shuts =>
      cases shuts with
      | true => exact Or.inl rfl
      | false => rw [action] at closes; cases closes
    | shutting => exact Or.inr ⟨rfl, t.station.shut_shutLink⟩
    | _ => rw [action] at closes; cases closes
  | _ => exact absurd rfl owner

theorem Ending.down (ending : t.Ending) (sound : t.Sound) (finished : t.reception = .finished) :
    t.Down := by
  refine ⟨ending.finished finished, ?_⟩
  by_cases starting : t.action = .starting
  · rcases sound.starting starting with late | failed
    · rw [late]; exact ⟨nofun, nofun⟩
    · rw [show t.station.queuePair.state = .error from failed]; exact ⟨nofun, nofun⟩
  · have grown : ¬ t.Young := fun young => by
      have absent := sound.absent young starting
      rw [finished] at absent
      cases absent
    exact ⟨fun reset => grown (Or.inl reset), fun init => grown (Or.inr (Or.inl init))⟩

/-! ## Where nothing interrupts -/

/-- What fails a queue pair that is at rest leaves it inert, unless it is a post. -/
theorem Rests.inert (rests : t.Rests) (sound : t.Sound) (alive : ¬ t.Failed)
    {event : QueuePairEvent} (failed : (t.run (whole event)).Failed)
    (noSend : ∀ registrations send, event ≠ .postSend registrations send)
    (noReceive : ∀ request, event ≠ .postReceive request) : (t.run (whole event)).Inert := by
  obtain ⟨rests', same, -⟩ := whole_uninterrupted rests event
  have ended := failed
  rw [Failed, same] at failed
  -- before it is ready to send, a queue pair at rest receives nothing
  have young (unready : t.station.queuePair.state ≠ .readyToSend) :
      t.station.queuePair.intake = none := by
    by_contra receiving
    have early : t.Young := by
      unfold Young
      unfold Failed at alive
      cases state : t.station.queuePair.state <;> simp_all
    have absent := sound.absent early (by rw [rests.idle]; simp)
    rw [rests.reading receiving] at absent
    cases absent
  have stopped : (t.station.after event).queuePair.intake = none := by
    have reacts (reacts : Station.Reacts t.station (t.station.after event)) :
        (t.station.after event).queuePair.intake = none :=
      reacts.stopped.resolve_left fun kept => alive (kept.symm.trans failed)
    have setUp {accepted : List QueuePairState} {expected : String}
        (known : event.accepted? = some (accepted, expected)) (early : .readyToSend ∉ accepted)
        (other : ∀ registrations byte, event ≠ .receive registrations byte) :
        (t.station.after event).queuePair.intake = none := by
      have unready : t.station.queuePair.state ≠ .readyToSend := fun ready => alive <| by
        rw [(Station.refused_of_unaccepted known (ready ▸ early)).2] at failed
        exact failed
      rcases History.intake_after t.station event other with (kept | ended) | ⟨-, ready, -⟩
      · exact kept.trans (young unready)
      · exact ended
      · rw [failed] at ready
        cases ready
    cases event with
    | postSend registrations send => exact absurd rfl (noSend registrations send)
    | postReceive request => exact absurd rfl (noReceive request)
    | receive registrations byte => exact reacts (Station.reacts_feed registrations t.station byte)
    | endOfStream => exact reacts (Station.reacts_endOfStream t.station)
    | poll most => exact absurd failed alive
    | remember memory => exact absurd failed alive
    | _ => exact setUp rfl (by decide) (by rintro _ _ ⟨⟩)
  have gone := rests'.reception
  rw [same, if_pos stopped] at gone
  exact ⟨ended, Or.inl rests'.idle, gone⟩

/-- A posted send that fails a queue pair at rest leaves its link shut down. -/
theorem Rests.down (rests : t.Rests) (alive : ¬ t.Failed) {registrations : Registrations}
    {send : SendRequest} (failed : (t.run (whole (.postSend registrations send))).Failed) :
    (t.run (whole (.postSend registrations send))).Down := by
  have same := (whole_uninterrupted rests (.postSend registrations send)).station
  rw [Failed, same] at failed
  have shut := Station.shut_of_failed_postSend alive failed
  constructor
  · rw [same]; exact shut
  · rw [same, failed]; simp

/-! ## Nothing more is completed -/

/-- A queue pair has failed and flushed, nothing waits on it, and nothing is being posted. -/
structure Spent (t : Threads) : Prop where
  failed : t.Failed
  empty : t.waiting = 0
  free : t.action.carried = []
  asks : t.action.asks = none
  ready : t.action ≠ .starting
  flushed : t.flushesDue = 0

/-- After a failure no call begins to ask for anything. -/
theorem asks_step (failed : t.Failed) (asks : t.action.asks = none) (ready : t.action ≠ .starting)
    (event : ThreadEvent) :
    (t.step event).action.asks = none ∧ (t.step event).action ≠ .starting ∧
      t.enters event = [] := by
  by_cases owner : event.ofOwner = false
  · obtain ⟨same, none⟩ := t.action_step event owner
    rw [same]
    exact ⟨asks, ready, none⟩
  cases event with
  | call call =>
    simp only [step]
    split
    · rcases begin_of_failed failed call with ⟨answer, returned⟩ | closes
      · rw [returned]; exact ⟨rfl, by simp [returns], rfl⟩
      · rw [closes]; exact ⟨rfl, by simp [goesOn], rfl⟩
    · exact ⟨asks, ready, rfl⟩
  | proceed registrations =>
    have succeeds {t' : Threads} (next : t'.Succeeds) :
        t'.action.asks = none ∧ t'.action ≠ .starting := by
      rcases next with entered | ⟨idle, -⟩
      · obtain ⟨none, ready, -⟩ := opens_of_entered entered
        exact ⟨none, ready⟩
      · rw [idle]; exact ⟨rfl, by simp⟩
    have enters := t.enters_proceed registrations
    generalize entered : t.enters (.proceed registrations) = now at enters
    cases enters with
    | before done next => exact ⟨(succeeds next).1, (succeeds next).2, rfl⟩
    | now asked next =>
      rw [asks] at asked
      cases asked
    | later open' next keeps ready' joining refused =>
      refine ⟨?_, ready', rfl⟩
      by_contra asked
      obtain ⟨request, same⟩ := Option.ne_none_iff_exists'.mp asked
      have old := keeps request same
      rw [asks] at old
      cases old
  | _ => exact absurd rfl owner

/-- Whatever arrives, nothing is completed and nothing comes to wait. -/
theorem Spent.step (spent : t.Spent) (sound : t.Sound) (event : ThreadEvent) :
    (t.step event).Spent ∧ t.reports event = [] ∧ t.enters event = [] := by
  have passes := passes_step sound event
  have failed := spent.failed
  obtain ⟨asks, ready, none⟩ := asks_step failed spent.asks spent.ready event
  have failed' := Failed.step failed spent.ready event
  have count := passes.count
  have losses := passes.losses
  have before : t.failures = 1 := if_pos failed
  have after : (t.step event).failures = 1 := if_pos failed'
  have revives : t.revives event = 0 := revives_of_ne spent.ready event
  rw [none, spent.empty, spent.free, List.length_nil] at count
  rw [spent.flushed, before, after, revives] at losses
  have all : (t.reports event).length = (t.reports event).countP Completion.isLoss +
      (t.reports event).countP fun c => !c.isLoss := by
    rw [(t.reports event).length_eq_countP_add_countP Completion.isLoss]
    simp
  exact ⟨⟨failed', by omega, List.length_eq_zero_iff.mp (by omega), asks, ready, by omega⟩,
    List.length_eq_zero_iff.mp (by omega), none⟩

end Threads

namespace Ledger

variable {l : Ledger}

theorem spent_run (sound : l.threads.Sound) (spent : l.threads.Spent) (later : List ThreadEvent) :
    (l.run later).told = l.told ∧ (l.run later).accepted = l.accepted := by
  induction later generalizing l with
  | nil => exact ⟨rfl, rfl⟩
  | cons event rest ih =>
    obtain ⟨spent', told, accepted⟩ := spent.step sound event
    obtain ⟨told', accepted'⟩ :=
      ih (l := l.step event) (Threads.passes_step sound event).sound spent'
    refine ⟨told'.trans ?_, accepted'.trans ?_⟩
    · simp only [Ledger.step, told, List.append_nil]
    · simp only [Ledger.step, accepted, List.append_nil]

theorem down_run (down : l.threads.Down) (later : List ThreadEvent) :
    (l.run later).threads.station.sent = l.threads.station.sent := by
  induction later generalizing l with
  | nil => rfl
  | cons event rest ih =>
    obtain ⟨down', sent⟩ := down.step event
    exact (ih (l := l.step event) down').trans sent

/-- What an inert queue pair has posted, completed and sent stays, and its memory too, but for what
others do to it. -/
structure Remains (l : Ledger) (later : List ThreadEvent) (l' : Ledger) : Prop where
  inert : l'.threads.Inert
  told : l'.told = l.told
  accepted : l'.accepted = l.accepted
  work : l'.threads.station.queuePair.work = l.threads.station.queuePair.work
  sent : l'.threads.station.sent = l.threads.station.sent
  memory : l'.threads.station.memory =
    (later.filterMap ThreadEvent.remembered?).foldl (fun _ memory => memory)
      l.threads.station.memory

theorem inert_run (inert : l.threads.Inert) (later : List ThreadEvent) :
    Remains l later (l.run later) := by
  induction later generalizing l with
  | nil => exact ⟨inert, rfl, rfl, rfl, rfl, rfl⟩
  | cons event rest ih =>
    have stays := inert.step event
    obtain ⟨told, accepted⟩ := inert.silent event
    have remains := ih (l := l.step event) stays.inert
    refine ⟨remains.inert, remains.told.trans ?_, remains.accepted.trans ?_,
      remains.work.trans stays.work, remains.sent.trans stays.sent, remains.memory.trans ?_⟩
    · simp only [Ledger.step, told, List.append_nil]
    · simp only [Ledger.step, accepted, List.append_nil]
    · rw [show (l.step event).threads.station.memory = _ from stays.memory]
      cases event <;> rfl

theorem ending_run (address : QueuePairAddress) (linkTimeout : Milliseconds) (depth : Nat)
    (memory : Memory) (events : List ThreadEvent) :
    let l := (fresh address linkTimeout depth memory).run events
    l.threads.Sound ∧ l.threads.Ending :=
  run_induction (P := fun l => l.threads.Sound ∧ l.threads.Ending)
    ⟨Threads.sound_fresh address linkTimeout depth memory,
      Threads.ending_fresh address linkTimeout depth memory⟩
    (fun _ event h => ⟨(Threads.passes_step h.1 event).sound, h.2.step h.1 event⟩) events

/-- The states follow each other in order, but for a failure that is overwritten once as the queue
pair is made ready to send.  Calls out of place are refused and change nothing.  Only a frame that
has arrived in full changes the memory.  When a queue pair has failed and flushed and nothing waits
or is being posted, nothing is completed any more; when its link is shut down, nothing is sent.  The
receive thread comes to its end, and a refused send returns, only with the link shut down.  With the
receive thread gone and no call in progress nothing changes at all, and so it is when the queue pair
is destroyed.  Where nothing interrupts what fails the queue pair, nothing changes afterwards either
unless it was a post, and nothing is sent if it was a send. -/
theorem failed_pair_comes_to_rest (address : QueuePairAddress) (linkTimeout : Milliseconds)
    (depth : Nat) (memory : Memory) (events : List ThreadEvent) :
    let l := (fresh address linkTimeout depth memory).run events
    let t := l.threads
    let s := t.station
    (∀ event, s.queuePair.state.Leads (t.step event).station.queuePair.state ∨
      (t.Failed ∧ t.action = .starting ∧
        (t.step event).station.queuePair.state = .readyToSend)) ∧
      l.revivals ≤ 1 ∧
      (∀ call accepted expected, call.accepted? = some (accepted, expected) →
        s.queuePair.state ∉ accepted → t.action = .idle →
          t.step (.call call) = t.returns (.error (.invalidState s.queuePair.address.number
            s.queuePair.state expected)) s) ∧
      (∀ event, (t.step event).station.memory = s.memory ∨
        (∃ registrations arrival, event = .advance registrations ∧ t.reception = .taking arrival) ∨
          event = .remember (t.step event).station.memory) ∧
      (t.Spent → ∀ later, (l.run later).told = l.told ∧ (l.run later).accepted = l.accepted) ∧
      (t.Down → ∀ later, (l.run later).threads.station.sent = s.sent) ∧
      (t.reception = .finished → t.Down) ∧
      (t.action.closes = true → ∀ event, (t.step event).action.closes = true ∨
        ((t.step event).action = .idle ∧ (t.step event).station.Shut)) ∧
      (t.Inert → ∀ later, Remains l later (l.run later)) ∧
      (s.queuePair.destroyed = true → t.action = .idle → t.Inert) ∧
      (t.Rests → ¬ t.Failed → ∀ event, (t.run (Threads.whole event)).Failed →
        ((∀ registrations send, event ≠ .postSend registrations send) →
          (∀ request, event ≠ .postReceive request) → (t.run (Threads.whole event)).Inert) ∧
        ((∃ registrations send, event = .postSend registrations send) →
          (t.run (Threads.whole event)).Down)) := by
  intro l t s
  obtain ⟨sound, ending⟩ : t.Sound ∧ t.Ending :=
    ending_run address linkTimeout depth memory events
  have kept : l.Kept := kept_run address linkTimeout depth memory events
  have young := kept.young
  refine ⟨fun event => (t.turns_step event).leads sound.starting, by omega, ?_,
    fun event => (t.touches_step event).memory, spent_run sound, down_run, ending.down sound,
    Threads.closes_step, inert_run, ?_,
    fun rests alive event failed => ⟨rests.inert sound alive failed, ?_⟩⟩
  · intro call accepted expected known outside idle
    rw [Threads.step, if_pos idle]
    exact Threads.begin_of_unaccepted known outside
  · intro destroyed idle
    obtain ⟨-, joining | ⟨-, failed, gone⟩⟩ := ending.destroyed destroyed
    · rw [idle] at joining
      cases joining
    · exact ⟨failed, Or.inl idle, gone⟩
  · rintro ⟨registrations, send, rfl⟩
    exact rests.down alive failed

/-- A queue pair whose link refuses the second write, and with it the acknowledgement of a held
write. -/
def acknowledgementRefused : List QueuePairEvent :=
  let region : Registration := ⟨1, 5, 4096, 4, Access.all, ⟨0⟩⟩
  let peer : QueuePairAddress := ⟨2, 0, 0, ⟨0⟩⟩
  let stream : Stream :=
    ⟨(Header.hello 2 1).toBytes, false, [], [], false, 0,
      fun number => if number = 1 then some .timedOut else none, fun _ => 0, fun _ => none⟩
  [.toInit Access.all, .attach stream,
    .link peer (.v6 peer.gid.toIpv6) ⟨fun _ => .error .timedOut, none, 0⟩, .start] ++
  (Header.write 1 4096 5 0 (some 9)).toBytes.map (.receive ⟨[region], 1⟩) ++ [.postReceive 7]

/-- After its acknowledgement was refused a queue pair has failed, and still it stores the next
write and acknowledges it, with nothing interrupting either. -/
theorem failed_pair_stores_write :
    let region : Region := ⟨"region", 4096, 4, fun _ => 0, by decide⟩
    let write := (Header.write 2 4096 5 4 none).toBytes ++ [1, 2, 3, 4]
    let t := (Threads.fresh ⟨1, 0, 0, ⟨0⟩⟩ ⟨1000⟩ 4 ⟨[region]⟩).run
      (acknowledgementRefused.flatMap Threads.whole)
    let u := t.run ((write.map (.receive regionTable)).flatMap Threads.whole)
    t.Failed ∧ t.station.memory.read ⟨0⟩ 0 4 = .ok [0, 0, 0, 0] ∧
      t.station.sent = some [(Header.hello 1 2).toBytes] ∧
      u.station.memory.read ⟨0⟩ 0 4 = .ok [1, 2, 3, 4] ∧
      u.station.sent = some [(Header.hello 1 2).toBytes, (Header.acknowledgement 2 0).toBytes] := by
  intro region write t u
  obtain ⟨rests, failing⟩ := Threads.run_whole
    (Threads.rests_fresh ⟨1, 0, 0, ⟨0⟩⟩ ⟨1000⟩ 4 ⟨[region]⟩) acknowledgementRefused
  obtain ⟨-, storing⟩ := Threads.run_whole rests (write.map (.receive regionTable))
  rw [failing] at storing
  rw [Threads.Failed, failing, storing]
  decide +kernel

end Ledger

end RdmaLink
