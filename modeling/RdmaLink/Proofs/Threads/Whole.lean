import RdmaLink.Proofs.QueuePair.Failure
import RdmaLink.Proofs.Threads.Basic

/-!
# Calls and frames without interruption

A thread that takes its steps one after the other, with nothing in between, does what the calls and
the frames of a `History` do at once.

    .call (.postSend send), .proceed r, ..   is s.postSend r send   (postSend_uninterrupted)
    .call (.postReceive n), .proceed r, ..   is s.postReceive n     (postReceive_uninterrupted)
    .call .start, .proceed r                 is toReadyToSend       (start_uninterrupted)
    .byte b, .advance r, ..                  is s.feed r b          (feed_uninterrupted)
    .hangUp, .advance r, ..                  is s.endOfStream       (endOfStream_uninterrupted)

Whatever is shown of a history is so shown of the threads that take its events one after the other
(`Threads.run_whole`).
-/

namespace RdmaLink

namespace Threads

variable {t : Threads} {registrations : Registrations}

/-! ## The owner -/

/-- So many steps of the call in progress. -/
def carriesOn (t : Threads) (registrations : Registrations) (count : Nat) : Threads :=
  t.run (List.replicate count (.proceed registrations))

theorem carriesOn_succ (t : Threads) (registrations : Registrations) (count : Nat) :
    t.carriesOn registrations (count + 1) =
      (t.proceed registrations).carriesOn registrations count := rfl

/-- Where no call is in progress, nothing goes on. -/
theorem carriesOn_idle (idle : t.action = .idle) (count : Nat) :
    t.carriesOn registrations count = t := by
  induction count with
  | zero => rfl
  | succ count ih =>
    have still : t.proceed registrations = t := by simp only [proceed, idle]
    rw [carriesOn_succ, still, ih]

/-- A call that has returned goes on no more. -/
@[simp] theorem carriesOn_returns (answer : Except DeviceError Unit) (station : Station)
    (count : Nat) :
    (t.returns answer station).carriesOn registrations count = t.returns answer station :=
  carriesOn_idle rfl count

theorem carriesOn_failed (station : Station) (shuts : Bool) (count : Nat) :
    (t.failed station shuts).carriesOn registrations (count + 1) =
      t.returns (.ok ()) (if shuts then station.shutLink else station) := by
  cases shuts with
  | false => exact carriesOn_returns _ _ _
  | true => exact carriesOn_returns _ _ _

theorem carriesOn_failing (s : Station) (shuts : Bool) (count : Nat) :
    (t.goesOn s (.failing shuts)).carriesOn registrations (count + 3) =
      t.returns (.ok ()) (if shuts then s.fail.shutLink else s.fail) := by
  rw [carriesOn_succ]
  by_cases dead : s.queuePair.state = .error
  · have step : (t.goesOn s (.failing shuts)).proceed registrations = t.failed s shuts :=
      if_pos dead
    rw [step, carriesOn_failed, Station.fail, if_pos dead]
  · have step : (t.goesOn s (.failing shuts)).proceed registrations =
        t.goesOn s.marked (.flushing shuts) := if_neg dead
    rw [step, carriesOn_succ, Station.fail, if_neg dead]
    exact carriesOn_failed s.marked.flush shuts count

theorem carriesOn_withdrawing (s : Station) (sequence count : Nat) :
    (t.goesOn s (.withdrawing sequence)).carriesOn registrations (count + 5) =
      t.returns (.ok ()) (s.sendLost sequence) := by
  rw [carriesOn_succ]
  cases waiting : s.queuePair.work.send? sequence with
  | none =>
    have step : (t.goesOn s (.withdrawing sequence)).proceed registrations =
        t.goesOn s (.failing true) := by
      simp only [goesOn, proceed, Station.withdraw_of_gone waiting]
    rw [step, Station.sendLost_eq, waiting]
    exact carriesOn_failing s true (count + 1)
  | some send =>
    have step : (t.goesOn s (.withdrawing sequence)).proceed registrations =
        t.goesOn (s.withWork (s.queuePair.work.withoutSend sequence)) (.reporting send) := by
      simp only [goesOn, proceed, Station.withdraw_of_waiting waiting]
    rw [step, carriesOn_succ, Station.sendLost_eq, waiting]
    exact carriesOn_failing _ true count

/-- An entered send goes to the link. -/
theorem carriesOn_launching (s : Station) (draft : Draft) (count : Nat) :
    (t.goesOn s (.launching draft)).carriesOn registrations (count + 6) =
      t.returns (.ok ()) (s.launch draft.frame draft.sequence) := by
  rw [carriesOn_succ]
  unfold Station.launch
  rcases sending : s.transmit draft.frame.header draft.frame.payload with ⟨e | _, after⟩
  · have step : (t.goesOn s (.launching draft)).proceed registrations =
        t.goesOn after (.withdrawing draft.sequence) := by
      simp only [goesOn, proceed, sending]
    rw [step]
    exact carriesOn_withdrawing after draft.sequence count
  · have step : (t.goesOn s (.launching draft)).proceed registrations =
        t.returns (.ok ()) after := by
      simp only [goesOn, returns, proceed, sending]
    rw [step]
    exact carriesOn_returns _ _ _

/-- A send that nothing interrupts is posted at once. -/
theorem postSend_uninterrupted (idle : t.action = .idle) (registrations : Registrations)
    (send : SendRequest) :
    t.run (.call (.postSend send) :: List.replicate 9 (.proceed registrations)) =
      t.returns (t.station.postSend registrations send).1
        (t.station.postSend registrations send).2 := by
  have begun : t.run (.call (.postSend send) :: List.replicate 9 (.proceed registrations)) =
      (t.begin (.postSend send)).carriesOn registrations 9 := by
    simp only [run, List.foldl_cons, step, idle, if_true, carriesOn]
  rw [begun, Station.postSend_eq, begin]
  rcases t.station.queuePair.expect [.readyToSend] "RTS" with e | _
  · exact carriesOn_returns _ _ _
  rw [carriesOn_succ]
  dsimp only
  rcases room : t.station.checkRoom with e | _
  · have refused : (t.goesOn t.station (.admitting send)).proceed registrations =
        t.returns (.error e) t.station := by
      simp only [goesOn, returns, proceed, room]
    rw [refused]
    exact carriesOn_returns _ _ _
  have admitted : (t.goesOn t.station (.admitting send)).proceed registrations =
      t.goesOn t.station (.preparing send) := by
    simp only [goesOn, proceed, room]
  rw [admitted, carriesOn_succ]
  rcases prepared : t.station.prepare registrations send with ⟨e | draft, numbered⟩
  · have refused : (t.goesOn t.station (.preparing send)).proceed registrations =
        t.returns (.error e) numbered := by
      simp only [goesOn, returns, proceed, prepared]
    rw [refused]
    exact carriesOn_returns _ _ _
  · have drafted : (t.goesOn t.station (.preparing send)).proceed registrations =
        t.goesOn numbered (.entering draft) := by
      simp only [goesOn, proceed, prepared]
    rw [drafted, carriesOn_succ]
    exact carriesOn_launching (numbered.enter draft) draft 0

theorem carriesOn_confirming (s : Station) (sequence : UInt64) (count : Nat) :
    (t.goesOn s (.confirming sequence)).carriesOn registrations (count + 4) =
      t.returns (.ok ()) (s.confirm sequence) := by
  rw [carriesOn_succ]
  unfold Station.confirm
  rcases sending : s.transmit (Header.acknowledgement sequence Status.success.code) [] with
    ⟨e | _, after⟩
  · have step : (t.goesOn s (.confirming sequence)).proceed registrations =
        t.goesOn after (.failing false) := by
      simp only [goesOn, proceed, sending]
    rw [step]
    exact carriesOn_failing after false count
  · have step : (t.goesOn s (.confirming sequence)).proceed registrations =
        t.returns (.ok ()) after := by
      simp only [goesOn, returns, proceed, sending]
    rw [step]
    exact carriesOn_returns _ _ _

/-- A receive that nothing interrupts is posted at once. -/
theorem postReceive_uninterrupted (idle : t.action = .idle) (registrations : Registrations)
    (request : UInt64) :
    t.run (.call (.postReceive request) :: List.replicate 7 (.proceed registrations)) =
      t.returns (t.station.postReceive request).1 (t.station.postReceive request).2 := by
  have begun : t.run (.call (.postReceive request) :: List.replicate 7 (.proceed registrations)) =
      (t.begin (.postReceive request)).carriesOn registrations 7 := by
    simp only [run, List.foldl_cons, step, idle, if_true, carriesOn]
  rw [begun, Station.postReceive_eq, begin]
  rcases t.station.queuePair.expect [.init, .readyToReceive, .readyToSend]
    "INIT, RTR or RTS" with e | _
  · exact carriesOn_returns _ _ _
  rw [carriesOn_succ]
  dsimp only
  rcases room : t.station.checkRoom with e | _
  · have refused : (t.goesOn t.station (.awaiting request)).proceed registrations =
        t.returns (.error e) t.station := by
      simp only [goesOn, returns, proceed, room]
    rw [refused]
    exact carriesOn_returns _ _ _
  have admitted : (t.goesOn t.station (.awaiting request)).proceed registrations =
      t.goesOn t.station (.meeting request) := by
    simp only [goesOn, proceed, room]
  rw [admitted, carriesOn_succ]
  rcases meeting : t.station.meet request with ⟨_ | held, met⟩
  · have waits : (t.goesOn t.station (.meeting request)).proceed registrations =
        t.returns (.ok ()) met := by
      simp only [goesOn, returns, proceed, meeting]
    rw [waits]
    exact carriesOn_returns _ _ _
  · have matched : (t.goesOn t.station (.meeting request)).proceed registrations =
        t.goesOn met (.met request held) := by
      simp only [goesOn, proceed, meeting]
    rw [matched, carriesOn_succ]
    exact carriesOn_confirming (met.reportMet request held) held.sequence 0

/-- A queue pair that is made ready to send without interruption has started to receive. -/
theorem start_uninterrupted (idle : t.action = .idle) (registrations : Registrations) :
    t.run [.call .start, .proceed registrations] =
      match t.station.queuePair.toReadyToSend with
      | .error e => t.returns (.error e) t.station
      | .ok queuePair =>
        { t.returns (.ok ()) { t.station with queuePair := queuePair } with
          reception := .reading } := by
  simp only [run, List.foldl_cons, List.foldl_nil, step, idle, if_true, begin,
    QueuePair.toReadyToSend]
  rcases t.station.queuePair.startReceiving with e | receiving <;> rfl

/-! ## The receive thread -/

/-- So many steps of the receive thread. -/
def worksOn (t : Threads) (registrations : Registrations) (count : Nat) : Threads :=
  t.run (List.replicate count (.advance registrations))

theorem worksOn_succ (t : Threads) (registrations : Registrations) (count : Nat) :
    t.worksOn registrations (count + 1) =
      (t.advance registrations).worksOn registrations count := rfl

/-- A receive thread that waits, or is not there, stays where it is. -/
theorem worksOn_resting (rests : t.reception = .reading ∨ t.reception.Gone) (count : Nat) :
    t.worksOn registrations count = t := by
  induction count with
  | zero => rfl
  | succ count ih =>
    have still : t.advance registrations = t := by
      rcases rests with waits | absent | finished
      · simp only [advance, waits]
      · simp only [advance, absent]
      · simp only [advance, finished]
    rw [worksOn_succ, still, ih]

/-- The receive thread after it has handled what it was given: it waits for more, or it is over. -/
def handled (t : Threads) (station : Station) : Threads :=
  t.receives station (if station.queuePair.intake = none then .finished else .reading)

theorem worksOn_waiting {s : Station} (receiving : s.queuePair.intake ≠ none) (count : Nat) :
    (t.receives s .reading).worksOn registrations count = t.handled s := by
  rw [worksOn_resting (Or.inl rfl), handled, if_neg receiving]

/-- A receive thread that cannot go on fails the queue pair and shuts the link down. -/
theorem worksOn_breaks (s : Station) (alive : s.queuePair.destroyed = false) (count : Nat) :
    (t.breaks s).worksOn registrations (count + 4) = t.handled s.breakOff := by
  have finished (u : Threads) (s : Station) :
      (u.receives s .shutting).worksOn registrations (count + 1) =
        u.receives s.shutLink .finished := by
    rw [worksOn_succ]
    exact worksOn_resting (Or.inr (Or.inr rfl)) count
  have fails : (t.breaks s).advance registrations = t.receives (s.withIntake none) .failing := by
    simp only [breaks, receives, advance, Station.withIntake, alive]
    rfl
  have broken : t.handled s.breakOff = t.receives s.breakOff .finished := by
    rw [handled, if_pos (show s.breakOff.queuePair.intake = none from rfl)]
  rw [worksOn_succ, fails, worksOn_succ, broken]
  by_cases dead : s.queuePair.state = .error
  · have step : (t.receives (s.withIntake none) .failing).advance registrations =
        t.receives (s.withIntake none) .shutting := if_pos dead
    rw [step, worksOn_succ]
    refine (worksOn_resting (Or.inr (Or.inr rfl)) (count + 1)).trans ?_
    unfold Station.breakOff
    rw [Station.fail, if_pos dead]
    rfl
  · have step : (t.receives (s.withIntake none) .failing).advance registrations =
        t.receives (s.withIntake none).marked .flushing := if_neg dead
    rw [step, worksOn_succ]
    refine (finished t (s.withIntake none).marked.flush).trans ?_
    unfold Station.breakOff
    rw [Station.fail, if_neg dead]
    rfl

/-- An answer is written, or the receive thread cannot go on. -/
theorem worksOn_answering {s : Station} (receiving : s.queuePair.intake ≠ none)
    (alive : s.queuePair.destroyed = false) (header : Header) (payload : Bytes) (count : Nat) :
    (t.receives s (.answering header payload)).worksOn registrations (count + 5) =
      t.handled (s.respond header payload) := by
  have intake := s.intake_transmit header payload
  have destroyed := (s.alike_transmit header payload).destroyed
  rw [worksOn_succ]
  unfold Station.respond
  rcases tried : s.transmit header payload with ⟨e | _, after⟩
  · have step : (t.receives s (.answering header payload)).advance registrations =
        t.breaks after := by
      simp only [receives, breaks, advance, tried]
    rw [tried] at destroyed
    rw [step]
    exact worksOn_breaks after (destroyed.trans alive) count
  · have step : (t.receives s (.answering header payload)).advance registrations =
        t.receives after .reading := by
      simp only [receives, advance, tried]
    rw [tried] at intake
    rw [step]
    exact worksOn_waiting (intake.symm ▸ receiving) (count + 4)

/-- What is left to do for a frame is done. -/
theorem worksOn_follows {s : Station} (receiving : s.queuePair.intake ≠ none)
    (alive : s.queuePair.destroyed = false) (rest : Rest) (count : Nat) :
    (t.follows s rest).worksOn registrations (count + 6) = t.handled (s.conclude rest) := by
  cases rest with
  | nothing => exact worksOn_waiting receiving (count + 6)
  | answer header payload => exact worksOn_answering receiving alive header payload (count + 1)
  | quit => exact worksOn_breaks s alive (count + 2)
  | claim header =>
    have step : (t.follows s (.claim header)).advance registrations =
        t.follows (s.claim header).1 (s.claim header).2 := rfl
    rw [worksOn_succ, step]
    rcases s.claim_cases header with ⟨request, later, -, h⟩ | ⟨-, h⟩
    · simp only [Station.conclude, h, follows, Rest.acknowledge]
      exact worksOn_answering
        (s := (s.withWork { s.queuePair.work with receives := later }).complete request
          .receiveWithImmediate .success header.length (some header.immediate))
        receiving alive _ _ count
    · simp only [Station.conclude, h, follows]
      exact worksOn_waiting (s := s.withWork { s.queuePair.work with held :=
        s.queuePair.work.held ++ [⟨header.sequence, header.immediate, header.length⟩] }) receiving
        (count + 5)

/-- A frame that has arrived in full is handled. -/
theorem worksOn_taking {s : Station} (receiving : s.queuePair.intake ≠ none)
    (alive : s.queuePair.destroyed = false) (arrival : Arrival) (count : Nat) :
    (t.receives s (.taking arrival)).worksOn registrations (count + 7) =
      t.handled (s.handle registrations arrival) := by
  obtain ⟨work, same⟩ := s.queuePair_react registrations arrival
  have step : (t.receives s (.taking arrival)).advance registrations =
      t.follows (s.react registrations arrival).1 (s.react registrations arrival).2 := rfl
  rw [worksOn_succ, step, Station.handle_eq_conclude]
  exact worksOn_follows (by rw [same]; exact receiving) (by rw [same]; exact alive) _ count

/-- A header that is complete is settled, and handled if no payload follows. -/
theorem worksOn_settling {s : Station} (receiving : s.queuePair.intake ≠ none)
    (alive : s.queuePair.destroyed = false) (header : Header) (count : Nat) :
    (t.receives s (.settling header)).worksOn registrations (count + 8) =
      t.handled (s.takeHeader registrations header) := by
  rw [worksOn_succ, Station.takeHeader_eq]
  cases settled : s.disposal? registrations header with
  | none =>
    have step : (t.receives s (.settling header)).advance registrations =
        t.receives s (.taking ⟨header, none, []⟩) := by
      simp only [receives, advance, settled]
    rw [step]
    exact worksOn_taking receiving alive _ count
  | some disposal =>
    by_cases empty : header.length = 0
    · have step : (t.receives s (.settling header)).advance registrations =
          t.receives s (.taking ⟨header, some disposal, []⟩) := by
        simp only [receives, advance, settled, if_pos empty]
      have taken : s.expectPayload header disposal =
          s.handle registrations ⟨header, some disposal, []⟩ := if_pos empty
      rw [step]
      dsimp only
      rw [taken]
      exact worksOn_taking receiving alive _ count
    · have step : (t.receives s (.settling header)).advance registrations =
          t.receives (s.withIntake (some (.payload header disposal [] header.length.toNat)))
            .reading := by
        simp only [receives, advance, settled, if_neg empty]
      have waits : s.expectPayload header disposal =
          s.withIntake (some (.payload header disposal [] header.length.toNat)) := if_neg empty
      rw [step]
      dsimp only
      rw [waits]
      exact worksOn_waiting (Option.some_ne_none _) (count + 7)

/-- A byte that nothing interrupts is taken off the stream at once. -/
theorem feed_uninterrupted (reading : t.reception = .reading)
    (receiving : t.station.queuePair.intake ≠ none)
    (alive : t.station.queuePair.destroyed = false) (registrations : Registrations)
    (byte : UInt8) :
    t.run (.byte byte :: List.replicate 8 (.advance registrations)) =
      t.handled (t.station.feed registrations byte) := by
  have begun : t.run (.byte byte :: List.replicate 8 (.advance registrations)) =
      (t.hears byte).worksOn registrations 8 := rfl
  have waits (intake : Intake) :
      (t.receives (t.station.withIntake (some intake)) .reading).worksOn registrations 8 =
        t.handled (t.station.withIntake (some intake)) :=
    worksOn_waiting (Option.some_ne_none _) 8
  obtain ⟨intake, present⟩ := Option.ne_none_iff_exists'.mp receiving
  rw [begun]
  unfold hears Station.feed
  cases intake with
  | header received =>
    simp only [reading, present]
    cases Header.ofBytes? (received ++ [byte]) with
    | none => exact waits _
    | some header =>
      exact worksOn_settling (s := t.station.withIntake (some (.header [])))
        (Option.some_ne_none _) alive header 0
  | payload header disposal reversed missing =>
    simp only [reading, present]
    by_cases last : missing ≤ 1
    · rw [if_pos last, if_pos last]
      exact worksOn_taking (s := t.station.withIntake (some (.header [])))
        (Option.some_ne_none _) alive ⟨header, some disposal, (byte :: reversed).reverse⟩ 1
    · rw [if_neg last, if_neg last]
      exact waits _

/-- The end of the stream, where nothing interrupts the receive thread. -/
theorem endOfStream_uninterrupted (reading : t.reception = .reading)
    (receiving : t.station.queuePair.intake ≠ none)
    (alive : t.station.queuePair.destroyed = false) (registrations : Registrations) :
    t.run (.hangUp :: List.replicate 4 (.advance registrations)) =
      t.handled t.station.endOfStream := by
  obtain ⟨intake, present⟩ := Option.ne_none_iff_exists'.mp receiving
  have begun : t.run (.hangUp :: List.replicate 4 (.advance registrations)) =
      (t.breaks t.station).worksOn registrations 4 := by
    simp only [run, List.foldl_cons, step, reading, if_true, worksOn]
  have ended : t.station.endOfStream = t.station.breakOff := by
    simp only [Station.endOfStream, present]
  rw [begun, ended]
  exact worksOn_breaks t.station alive 0

/-! ## Histories -/

/-- No call is in progress, and the receive thread waits as long as frames are received. -/
structure Rests (t : Threads) : Prop where
  idle : t.action = .idle
  present : t.station.queuePair.destroyed = false
  reception : if t.station.queuePair.intake = none then t.reception.Gone else t.reception = .reading

theorem rests_fresh (address : QueuePairAddress) (linkTimeout : Milliseconds) (depth : Nat)
    (memory : Memory) : (Threads.fresh address linkTimeout depth memory).Rests :=
  ⟨rfl, rfl, Or.inl rfl⟩

theorem Rests.reading (rests : t.Rests) (receiving : t.station.queuePair.intake ≠ none) :
    t.reception = .reading := by
  have reception := rests.reception
  rwa [if_neg receiving] at reception

/-- A call that returns leaves the threads at rest, if what is being received stays. -/
theorem Rests.returned (rests : t.Rests) (answer : Except DeviceError Unit) {s : Station}
    (intake : s.queuePair.intake = t.station.queuePair.intake)
    (destroyed : s.queuePair.destroyed = t.station.queuePair.destroyed) :
    (t.returns answer s).Rests := by
  refine ⟨rfl, destroyed.trans rests.present, ?_⟩
  have reception := rests.reception
  rw [← intake] at reception
  exact reception

theorem Rests.handled (rests : t.Rests) {s : Station}
    (destroyed : s.queuePair.destroyed = t.station.queuePair.destroyed) :
    (t.handled s).Rests := by
  refine ⟨rests.idle, destroyed.trans rests.present, ?_⟩
  by_cases finished : s.queuePair.intake = none
  · have gone : (t.handled s).reception = .finished := if_pos finished
    rw [if_pos (show (t.handled s).station.queuePair.intake = none from finished), gone]
    exact Or.inr rfl
  · rw [if_neg (show (t.handled s).station.queuePair.intake ≠ none from finished)]
    exact if_neg finished

/-- Where nothing is received, the steps of the receive thread do nothing. -/
theorem Rests.still (rests : t.Rests) (stopped : t.station.queuePair.intake = none)
    {first : ThreadEvent} (ignored : t.reception ≠ .reading → t.step first = t) (count : Nat) :
    t.run (first :: List.replicate count (.advance registrations)) = t := by
  have gone := rests.reception
  rw [if_pos stopped] at gone
  have begun : t.run (first :: List.replicate count (.advance registrations)) =
      (t.step first).worksOn registrations count := rfl
  rw [begun, ignored (by rcases gone with gone | gone <;> (rw [gone]; nofun))]
  exact worksOn_resting (Or.inr gone) count

/-- The steps of an event of a history that nothing interrupts. -/
def whole : QueuePairEvent → List ThreadEvent
  | .toInit access => [.call (.toInit access)]
  | .attach stream => [.call (.attach stream)]
  | .link peer ip conditions => [.call (.link peer ip conditions)]
  | .start => [.call .start, .proceed .empty]
  | .postSend registrations send =>
    .call (.postSend send) :: List.replicate 9 (.proceed registrations)
  | .postReceive request => .call (.postReceive request) :: List.replicate 7 (.proceed .empty)
  | .receive registrations byte => .byte byte :: List.replicate 8 (.advance registrations)
  | .endOfStream => .hangUp :: List.replicate 4 (.advance .empty)
  | .poll most => [.poll most]
  | .remember memory => [.remember memory]

/-- Where nothing interrupts it, an event of a history is one thing. -/
structure Completes (t : Threads) (event : QueuePairEvent) (t' : Threads) : Prop where
  rests : t'.Rests
  station : t'.station = t.station.after event
  answer : event.accepted?.isSome → t'.answer = some (t.station.returned event)

theorem Rests.settles (rests : t.Rests) {event : QueuePairEvent}
    {result : Except DeviceError QueuePair}
    (after : t.station.after event = t.station.advance result)
    (returned : t.station.returned event = result.map fun _ => ())
    (intake : ∀ q, result = .ok q → q.intake = t.station.queuePair.intake)
    (destroyed : ∀ q, result = .ok q → q.destroyed = t.station.queuePair.destroyed) :
    t.Completes event (t.settles result) := by
  refine ⟨?_, after.symm, fun _ => by rw [returned]; rfl⟩
  cases result with
  | ok q => exact rests.returned _ (intake q rfl) (destroyed q rfl)
  | error e => exact rests.returned _ rfl rfl

theorem whole_uninterrupted (rests : t.Rests) (event : QueuePairEvent) :
    t.Completes event (t.run (whole event)) := by
  have idle := rests.idle
  have called (call : Call) : t.run [.call call] = t.begin call := if_pos idle
  cases event with
  | toInit access =>
    rw [whole, called]
    refine rests.settles rfl rfl (fun q made => ?_) fun q => QueuePair.destroyed_toInit
    rw [(QueuePair.toInit_eq_ok made).2]
  | attach stream =>
    rw [whole, called]
    refine rests.settles rfl rfl (fun q made => ?_) fun q => QueuePair.destroyed_attach
    rw [(QueuePair.attach_eq_ok made).2]
  | link peer ip conditions =>
    rw [whole, called]
    refine ⟨rests.returned _ ?_ ?_, rfl, fun _ => rfl⟩
    · rcases t.station.queuePair.toReadyToReceive_cases peer ip conditions with
        ⟨e, -, h⟩ | ⟨early, ⟨e, tried, h⟩ | ⟨link, h⟩⟩ <;> rw [h]
    · exact QueuePair.destroyed_toReadyToReceive _ peer ip conditions
  | start =>
    rw [whole, start_uninterrupted idle]
    cases started : t.station.queuePair.toReadyToSend with
    | error e =>
      refine ⟨rests.returned _ rfl rfl, ?_, fun _ => ?_⟩
      · simp only [Station.after, started]; rfl
      · simp only [Station.returned, started]; rfl
    | ok q =>
      have receiving := (QueuePair.toReadyToSend_eq_ok started).2.2
      refine ⟨⟨rfl, ?_, ?_⟩, ?_, fun _ => ?_⟩
      · exact (QueuePair.destroyed_toReadyToSend started).trans rests.present
      · rw [if_neg (by rw [receiving]; exact Option.some_ne_none _)]
      · simp only [Station.after, started]; rfl
      · simp only [Station.returned, started]; rfl
  | postSend registrations send =>
    rw [whole, postSend_uninterrupted idle]
    have kept := (Station.moves_postSend registrations t.station send).destroyed
    exact ⟨rests.returned _ (by simp) kept, rfl, fun _ => rfl⟩
  | postReceive request =>
    rw [whole, postReceive_uninterrupted idle]
    exact ⟨rests.returned _ (by simp) (Station.moves_postReceive t.station request).destroyed,
      rfl, fun _ => rfl⟩
  | receive registrations byte =>
    rw [whole]
    have ignored (waits : t.reception ≠ .reading) : t.step (.byte byte) = t := by
      simp only [step, hears]
      split
      · next reading _ => exact absurd reading waits
      · next reading _ => exact absurd reading waits
      · rfl
    by_cases stopped : t.station.queuePair.intake = none
    · rw [rests.still stopped ignored]
      exact ⟨rests, by simp only [Station.after, Station.feed, stopped], by rintro ⟨⟩⟩
    · rw [feed_uninterrupted (rests.reading stopped) stopped rests.present]
      have kept := (Station.moves_feed registrations t.station byte).destroyed
      exact ⟨rests.handled kept, rfl, by rintro ⟨⟩⟩
  | endOfStream =>
    rw [whole]
    have ignored (waits : t.reception ≠ .reading) : t.step .hangUp = t := if_neg waits
    by_cases stopped : t.station.queuePair.intake = none
    · rw [rests.still stopped ignored]
      exact ⟨rests, by simp only [Station.after, Station.endOfStream, stopped], by rintro ⟨⟩⟩
    · rw [endOfStream_uninterrupted (rests.reading stopped) stopped rests.present]
      exact ⟨rests.handled (Station.moves_endOfStream t.station).destroyed, rfl, by rintro ⟨⟩⟩
  | poll most => exact ⟨⟨idle, rests.present, rests.reception⟩, rfl, by rintro ⟨⟩⟩
  | remember memory => exact ⟨⟨idle, rests.present, rests.reception⟩, rfl, by rintro ⟨⟩⟩

/-- Where nothing interrupts anything, two threads go through a history. -/
theorem run_whole (rests : t.Rests) (events : List QueuePairEvent) :
    (t.run (events.flatMap whole)).Rests ∧
      (t.run (events.flatMap whole)).station = events.foldl Station.after t.station := by
  induction events generalizing t with
  | nil => exact ⟨rests, rfl⟩
  | cons event rest ih =>
    have first := whole_uninterrupted rests event
    rw [List.flatMap_cons, run_append, List.foldl_cons, ← first.station]
    exact ih first.rests

end Threads

end RdmaLink
