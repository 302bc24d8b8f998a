import RdmaLink.Proofs.Threads.Changes

/-!
# Every step keeps the books

Each thread has a step for every place that it may have come to.  A step keeps the books as
`Threads.Passes` says, whatever the other thread has done in between (`Threads.passes_step`).
-/

namespace RdmaLink

namespace Threads

/-! ## The calls -/

section Calls

variable {t : Threads}

/-- A call that sets the queue pair up returns at once. -/
theorem passes_setUp (sound : t.Sound) (idle : t.action = .idle)
    (answer : Except DeviceError Unit) {queuePair : QueuePair}
    (set : t.station.queuePair.SetUp queuePair) :
    Passes t t.station.completions [] [] 0 0
      (t.returns answer { t.station with queuePair := queuePair }) := by
  have young : t.Young := by
    have alive := set.alive
    have early := set.young
    unfold Young
    cases state : t.station.queuePair.state with
    | readyToSend => exact absurd state early
    | error => exact absurd state alive
    | _ => simp
  have absent := sound.absent young (by rw [idle]; nofun)
  have unlinked (early : t.station.queuePair.state = .reset ∨ t.station.queuePair.state = .init) :=
    sound.unlinked early
  refine passes_state ?_ set.work rfl (by rw [idle]; exact ⟨rfl, rfl⟩) rfl ?_ rfl ?_ ?_ ?_
  · refine sound_of_plain rfl ?_ ?_ ?_ fun _ => absent
    · show queuePair.work.Numbered queuePair.nextSequence
      rw [set.work, set.numbering]
      exact sound.numbered.mono sound.limit_le
    · show queuePair.work.receives = [] ∨ queuePair.work.held = []
      rw [set.work]
      exact sound.apart
    · intro early
      rcases set.link with ⟨before, same, -, -⟩ | ⟨-, late⟩
      · exact same.trans (unlinked before)
      · simp only [Threads.returns] at early
        rcases late with late | late <;> rw [late] at early <;> simp at early
  · simp only [flushesDue, idle, Threads.returns]
  · rw [Threads.failures, if_neg set.alive]
    exact Nat.zero_le _
  · have old : t.youth = 1 := if_pos young
    rw [old, Threads.youth]
    split <;> decide
  · rintro ⟨failed, linked, -, -⟩
    simp only [Failed, Threads.returns] at failed linked
    rcases set.link with ⟨before, same, -, -⟩ | ⟨-, late⟩
    · rw [same, unlinked before] at linked
      cases linked
    · rcases late with late | late <;> rw [late] at failed <;> cases failed

/-- A call that is refused, or has nothing more to do, returns. -/
theorem passes_returned (sound : t.Sound) {s : Station} (alike : t.station.Alike s)
    {before : Action} (now : t.action = before) (ready : before ≠ .starting)
    (carried : before.carried = []) (flushes : before.flushes = 0)
    (answer : Except DeviceError Unit) :
    Passes t t.station.completions [] [] 0 0 (t.returns answer s) := by
  subst now
  exact passes_calling sound alike rfl ready rfl carried.symm flushes.symm (Or.inl (Nat.zero_le _))
    (Or.inl (Nat.zero_le _))

/-- A call goes on with a queue pair that stays as it is. -/
theorem passes_goesOn (sound : t.Sound) {s : Station} (alike : t.station.Alike s)
    {before action : Action} (now : t.action = before) (ready : before ≠ .starting)
    (plain : action.plain = true) (carried : action.carried = before.carried)
    (flushes : action.flushes = before.flushes) (reserves : action.reserves ≤ before.reserves)
    (entries : action.entries ≤ before.entries) :
    Passes t t.station.completions [] [] 0 0 (t.goesOn s action) := by
  subst now
  exact passes_calling sound alike rfl ready plain carried flushes (Or.inl reserves)
    (Or.inl entries)

/-- A post that finds room takes a place. -/
theorem passes_admit (sound : t.Sound) (room : t.station.checkRoom = .ok ())
    {before action : Action} (now : t.action = before) (ready : before ≠ .starting)
    (plain : action.plain = true) (carried : action.carried = before.carried)
    (flushes : action.flushes = before.flushes) (entries : action.entries ≤ before.entries) :
    Passes t t.station.completions [] [] 0 0 (t.goesOn t.station action) := by
  subst now
  exact passes_calling sound (.refl _) rfl ready plain carried flushes
    (Or.inr (Station.checkRoom_eq_ok room)) (Or.inl entries)

/-- Frames are received from now on. -/
theorem passes_start (sound : t.Sound) (idle : t.action = .idle) {queuePair : QueuePair}
    (started : t.station.queuePair.startReceiving = .ok queuePair) :
    Passes t t.station.completions [] [] 0 0
      { t.goesOn { t.station with queuePair := queuePair } .starting with
        reception := .reading } := by
  obtain ⟨late, -, rfl⟩ := QueuePair.startReceiving_eq_ok started
  have young : t.Young := Or.inr (Or.inr (Or.inl late))
  have absent := sound.absent young (by rw [idle]; nofun)
  generalize after : ({ t.goesOn { t.station with queuePair :=
    { t.station.queuePair with intake := some (.header []) } } .starting with
      reception := .reading } : Threads) = t'
  have kept : t'.Sound := by
    rw [← after]
    refine ⟨sound.numbered.mono sound.limit_le, nofun, nofun, sound.apart, nofun,
      fun _ => Or.inl late, sound.unlinked, fun _ other => absurd rfl other⟩
  have steady : Steady t t' := by
    rw [← after]
    refine ⟨rfl, rfl, id, ?_, ?_, fun _ => young⟩
    · rw [absent]
      exact nofun
    · simp only [flushesDue, idle, absent, Threads.goesOn, Action.flushes, Reception.flushes]
  exact steady.passes_quiet kept (by rw [← after]; rfl) (by rw [← after]; rfl)
    (by rw [← after, idle]; rfl) (Or.inl (by rw [← after, idle]; exact Nat.le_refl _))
    (Or.inl (by rw [← after, idle]; exact Nat.le_refl _))

/-- The link is shut down, and the end of the receive thread is waited for. -/
theorem passes_close (sound : t.Sound) (idle : t.action = .idle) :
    Passes t t.station.completions [] [] 0 0
      (t.goesOn { t.station with queuePair := t.station.queuePair.close } .joining) := by
  generalize after :
    t.goesOn { t.station with queuePair := t.station.queuePair.close } .joining = t'
  have kept : t'.Sound := by
    rw [← after]
    refine ⟨sound.numbered.mono sound.limit_le, nofun, nofun, sound.apart, fun _ => rfl, nofun,
      ?_, ?_⟩
    · intro early
      show t.station.queuePair.link.map Stream.shutdown = none
      rw [sound.unlinked early]
      rfl
    · intro young other
      exact sound.absent (young.of_state rfl other) (by rw [idle]; nofun)
  have steady : Steady t t' := by
    rw [← after]
    refine ⟨rfl, ?_, nofun, id, ?_, nofun⟩
    · show (t.station.queuePair.link.map Stream.shutdown).isSome = _
      rw [Option.isSome_map]
    · simp only [flushesDue, idle, Threads.goesOn, Action.flushes]
  exact steady.passes_quiet kept (by rw [← after]; rfl) (by rw [← after]; rfl)
    (by rw [← after, idle]; rfl) (Or.inl (by rw [← after, idle]; exact Nat.le_refl _))
    (Or.inl (by rw [← after, idle]; exact Nat.le_refl _))

/-- A send is given the next number. -/
theorem passes_prepare (sound : t.Sound) {send : SendRequest}
    (preparing : t.action = .preparing send) {frame : Frame} {pending : PendingSend}
    (isSend : pending.operation.isSend = true)
    (sink : pending.sink.isSome = true → pending.operation = .read) :
    Passes t t.station.completions [] [] 0 0
      (t.goesOn { t.station with queuePair := { t.station.queuePair with
        nextSequence := t.station.queuePair.nextSequence + 1 } }
          (.entering ⟨t.station.queuePair.nextSequence, frame, pending⟩)) := by
  generalize after : t.goesOn { t.station with queuePair := { t.station.queuePair with
    nextSequence := t.station.queuePair.nextSequence + 1 } }
      (.entering ⟨t.station.queuePair.nextSequence, frame, pending⟩) = t'
  have kept : t'.Sound := by
    rw [← after]
    refine ⟨sound.numbered.mono sound.limit_le, ?_, nofun, sound.apart, nofun, nofun,
      sound.unlinked, ?_⟩
    · intro draft entering
      cases entering
      exact ⟨Nat.lt_succ_self _, isSend, sink⟩
    · intro young other
      exact sound.absent (young.of_state rfl other) (by rw [preparing]; nofun)
  have steady : Steady t t' := by
    rw [← after]
    exact ⟨rfl, rfl, id, id, by simp only [flushesDue, preparing, Threads.goesOn, Action.flushes],
      nofun⟩
  exact steady.passes_quiet kept (by rw [← after]; rfl) (by rw [← after]; rfl)
    (by rw [← after, preparing]; rfl) (Or.inl (by rw [← after, preparing]; exact Nat.le_refl _))
    (Or.inl (by rw [← after, preparing]; exact Nat.le_refl _))

/-- Completions are taken out of the queue. -/
theorem passes_poll (sound : t.Sound) (completions : CompletionQueue) :
    Passes t completions [] [] 0 0
      { t with station := { t.station with completions := completions } } := by
  have kept :
      ({ t with station := { t.station with completions := completions } } : Threads).Sound :=
    sound.of_same_action rfl rfl rfl (Nat.le_refl _) rfl (List.Sublist.refl _) sound.apart id
  have steady : Steady t { t with station := { t.station with completions := completions } } :=
    ⟨rfl, rfl, id, id, rfl, fun starting => Or.inr (Or.inr (Or.inr starting))⟩
  refine steady.passes kept rfl ?_ ?_ nofun rfl (Or.inl (Nat.le_refl _)) (Or.inl (Nat.le_refl _)) ?_
  · exact List.Perm.of_eq (List.append_nil _).symm
  · exact List.Perm.of_eq (List.append_nil _).symm
  · intro accepted order
    rw [List.append_nil]
    exact order

/-! ## The call in progress -/

/-- A step that does nothing. -/
theorem passes_nothing (sound : t.Sound) : Passes t t.station.completions [] [] 0 0 t :=
  passes_receiving sound (.refl _) rfl rfl id id

theorem passes_begin (sound : t.Sound) (idle : t.action = .idle) (call : Call) :
    Passes t t.station.completions [] [] 0 0 (t.begin call) := by
  have ready : t.action ≠ .starting := by rw [idle]; simp
  have returned {s : Station} (alike : t.station.Alike s) (answer : Except DeviceError Unit) :
      Passes t t.station.completions [] [] 0 0 (t.returns answer s) :=
    passes_returned sound alike idle (by simp) rfl rfl answer
  have settles (result : Except DeviceError QueuePair)
      (set : ∀ queuePair, result = .ok queuePair → t.station.queuePair.SetUp queuePair) :
      Passes t t.station.completions [] [] 0 0 (t.settles result) := by
    cases result with
    | ok queuePair => exact passes_setUp sound idle _ (set queuePair rfl)
    | error e => exact returned (.refl _) _
  have posts {action : Action} (alive : ¬ t.Failed) (plain : action.plain = true)
      (fresh : action.carried = [] ∧ action.flushes = 0 ∧ action.reserves = 0) :
      Passes t t.station.completions [] [] 0 0 (t.goesOn t.station action) := by
    refine passes_calling sound (.refl _) rfl ready plain ?_ ?_ (Or.inl ?_) (Or.inr alive)
    · rw [idle]; exact fresh.1
    · rw [idle]; exact fresh.2.1
    · rw [idle]; exact Nat.le_of_eq fresh.2.2
  cases call with
  | toInit access => exact settles _ fun _ made => QueuePair.setUp_toInit made
  | attach stream => exact settles _ fun _ made => QueuePair.setUp_attach made
  | link peer ip conditions =>
    rcases t.station.queuePair.setUp_toReadyToReceive peer ip conditions with same | set
    · simp only [begin, same]
      exact returned (.refl _) _
    · exact passes_setUp sound idle _ set
  | start =>
    simp only [begin]
    split
    · exact returned (.refl _) _
    · next queuePair started => exact passes_start sound idle started
  | postSend send =>
    simp only [begin]
    split
    · exact returned (.refl _) _
    · next accepted =>
      have state : t.station.queuePair.state = .readyToSend := by
        simpa using QueuePair.state_of_expect accepted
      exact posts (by rw [Failed, state]; simp) rfl ⟨rfl, rfl, rfl⟩
  | postReceive request =>
    simp only [begin]
    split
    · exact returned (.refl _) _
    · next accepted =>
      have state := QueuePair.state_of_expect accepted
      refine posts (fun failed => ?_) rfl ⟨rfl, rfl, rfl⟩
      rw [Failed] at failed
      rw [failed] at state
      revert state
      decide
  | destroy =>
    simp only [begin]
    split
    · exact returned (.refl _) _
    · exact passes_close sound idle

/-- The owner's call has failed the queue pair, and returns or shuts the link down before. -/
theorem passes_failed (sound : t.Sound) {shuts : Bool} (failing : t.action = .failing shuts) :
    Passes t t.station.completions [] [] 0 0 (t.failed t.station shuts) := by
  cases shuts with
  | false => exact passes_returned sound (.refl _) failing nofun rfl rfl _
  | true =>
    exact passes_goesOn sound (.refl _) failing nofun rfl rfl rfl (Nat.le_refl _) (Nat.le_refl _)

/-- The owner's call sets the state. -/
theorem passes_failing (sound : t.Sound) {shuts : Bool} (failing : t.action = .failing shuts)
    (alive : t.station.queuePair.state ≠ .error) :
    Passes t t.station.completions [] [] 0 0 (t.goesOn t.station.marked (.flushing shuts)) := by
  refine passes_mark ?_ rfl alive (by rw [failing]; rfl) (by rw [failing]; rfl) ?_ nofun id
  · refine sound_of_plain rfl (sound.numbered.mono sound.limit_le) sound.apart ?_ ?_
    · rintro (h | h) <;> cases h
    · rintro (h | h | h | h) <;> cases h
  · simp only [flushesDue, failing, Threads.goesOn, Action.flushes]
    omega

/-- The owner's call flushes what waits. -/
theorem passes_flushing (sound : t.Sound) {shuts : Bool} (flushing : t.action = .flushing shuts) :
    Passes t t.station.completions [] t.station.lastReports 0 0
      (t.failed t.station.flush shuts) := by
  generalize after : t.failed t.station.flush shuts = t'
  have station : t'.station = t.station.flush := by rw [← after]; cases shuts <;> rfl
  have reception : t'.reception = t.reception := by rw [← after]; cases shuts <;> rfl
  have next : t'.action = .idle ∨ t'.action = .shutting := by
    rw [← after]
    cases shuts
    · exact Or.inl rfl
    · exact Or.inr rfl
  have young (young : t'.Young) : t.Young :=
    young.of_state (by rw [station]; rfl) (by rcases next with next | next <;> rw [next] <;> nofun)
  have ready : t.action ≠ .starting := by rw [flushing]; nofun
  refine passes_flush sound ?_ station ?_ ?_ ?_ young ?_ ?_
  · refine sound_of_plain ?_ ?_ ?_ ?_ fun now => reception ▸ sound.absent (young now) ready
    · rcases next with next | next <;> rw [next] <;> rfl
    · rw [station]; exact Work.numbered_none _
    · rw [station]; exact Or.inl rfl
    · rw [station]; exact sound.unlinked
  · rw [flushing]
    rcases next with next | next <;> rw [next] <;> rfl
  · rw [flushing]
    rcases next with next | next <;> rw [next] <;> rfl
  · rw [flushesDue, flushesDue, reception, flushing]
    rcases next with next | next <;> rw [next] <;> simp only [Action.flushes] <;> omega
  · rw [flushing]
    exact fun _ => Nat.le_refl _
  · rw [Nat.zero_add]
    exact onward_le (by rw [reception]; exact id)

theorem passes_proceed (sound : t.Sound) (registrations : Registrations) :
    Passes t t.station.completions (t.enters (.proceed registrations))
      (t.reports (.proceed registrations)) (t.revives (.proceed registrations)) 0
      (t.proceed registrations) := by
  have numbered : t.station.Alike { t.station with queuePair := { t.station.queuePair with
      nextSequence := t.station.queuePair.nextSequence + 1 } } :=
    ⟨rfl, rfl, rfl, Nat.le_succ _, rfl, rfl⟩
  by_cases starting : t.action = .starting
  · have ready := passes_ready sound starting
    unfold enters reports revives proceed
    simp only [starting, true_and] at ready ⊢
    exact ready
  rw [revives_of_ne starting]
  unfold enters reports proceed
  cases action : t.action with
  | starting => exact absurd action starting
  | idle => exact passes_nothing sound
  | admitting send =>
    dsimp only
    split
    · exact passes_returned sound (.refl _) action nofun rfl rfl _
    · next room =>
      exact passes_admit sound room action nofun rfl rfl rfl (Nat.le_refl _)
  | preparing send =>
    dsimp only
    rcases t.station.prepare_cases registrations send with ⟨e, h⟩ | ⟨e, h⟩ |
      ⟨registration, offset, frame, pending, -, -, framed, h⟩
    · rw [h]
      exact passes_returned sound (.refl _) action nofun rfl rfl _
    · rw [h]
      exact passes_returned sound numbered action nofun rfl rfl _
    · rw [h]
      obtain ⟨-, operation, sink⟩ := Station.sendFrame_pending framed
      exact passes_prepare sound action (by rw [operation]; cases send.operation <;> rfl) sink
  | entering draft =>
    exact passes_enter sound action
  | launching draft =>
    dsimp only
    split
    · next h => exact passes_returned sound (Station.alike_of_transmit h).1 action nofun rfl rfl _
    · next h =>
      exact passes_goesOn sound (Station.alike_of_transmit h).1 action nofun rfl rfl rfl
        (Nat.le_refl _) (Nat.le_refl _)
  | withdrawing sequence =>
    dsimp only
    cases posted : t.station.queuePair.work.send? sequence with
    | none =>
      rw [Station.withdraw_of_gone posted]
      exact passes_goesOn sound (.refl _) action nofun rfl rfl rfl (Nat.le_refl _) (Nat.le_refl _)
    | some send =>
      rw [Station.withdraw_of_waiting posted]
      exact passes_withdraw sound action posted
  | reporting send =>
    obtain ⟨asSend, asReceive, real⟩ := Station.report_of_send (sound.lost send action) t.station
      send.request .linkLost 0 none
    have carried : t.action.carried = [.send send.request send.operation] := by rw [action]; rfl
    exact passes_report sound carried (by rw [action]; rfl) (by rw [action]; rfl)
      (by rw [action]; nofun) ⟨rfl, rfl, rfl⟩ rfl ⟨Or.inl (by rw [asSend]; rfl), real⟩
      asSend.symm asReceive.symm
  | awaiting request =>
    dsimp only
    split
    · exact passes_returned sound (.refl _) action nofun rfl rfl _
    · next room =>
      exact passes_admit sound room action nofun rfl rfl rfl (Nat.le_refl _)
  | meeting request =>
    dsimp only
    cases oldest : t.station.queuePair.work.held with
    | nil =>
      rw [Station.meet_of_none oldest]
      exact passes_await sound action oldest
    | cons held later =>
      rw [Station.meet_of_held oldest]
      exact passes_meet sound action oldest
  | met request held =>
    obtain ⟨asSend, asReceive, real⟩ :=
      t.station.report_of_consumed request held.length (some held.immediate)
    have carried : t.action.carried = [.receive request] := by rw [action]; rfl
    exact passes_report sound carried (by rw [action]; rfl) (by rw [action]; rfl)
      (by rw [action]; nofun) ⟨rfl, rfl, rfl⟩ rfl ⟨Or.inr (by rw [asReceive]; rfl), real⟩
      asSend.symm asReceive.symm
  | confirming sequence =>
    dsimp only
    split
    · next h => exact passes_returned sound (Station.alike_of_transmit h).1 action nofun rfl rfl _
    · next h =>
      exact passes_goesOn sound (Station.alike_of_transmit h).1 action nofun rfl rfl rfl
        (Nat.le_refl _) (Nat.le_refl _)
  | failing shuts =>
    dsimp only
    split
    · exact passes_failed sound action
    · next alive => exact passes_failing sound action alive
  | flushing shuts =>
    exact passes_flushing sound action
  | shutting =>
    exact passes_returned sound (t.station.alike_shutLink) action nofun rfl rfl _
  | joining =>
    dsimp only
    split
    · exact passes_retire sound action
    · exact passes_nothing sound

end Calls

/-! ## The receive thread -/

section Reception

variable {t : Threads}

/-- The receive thread goes on with a queue pair that stays as it is. -/
theorem passes_receives (sound : t.Sound) {s : Station} (alike : t.station.Alike s)
    {before reception : Reception} (now : t.reception = before) (present : before ≠ .absent)
    (flushes : reception.flushes = before.flushes)
    (past : before.past = true → reception.past = true) :
    Passes t t.station.completions [] [] 0 0 (t.receives s reception) := by
  subst now
  exact passes_receiving sound alike rfl flushes past fun absent => absurd absent present

/-- A frame of no known kind has no effect. -/
theorem react_of_quit {registrations : Registrations} {s : Station} {arrival : Arrival}
    (quit : (s.react registrations arrival).2 = .quit) :
    (s.react registrations arrival).1 = s ∧ s.concluded? arrival = none := by
  unfold Station.react Station.concluded? at *
  dsimp only at quit ⊢
  split at quit
  · split at quit
    · split at quit <;> cases quit
    · cases quit
  · cases quit
  · cases quit
  · cases quit
  · next bare =>
    rw [bare]
    split at quit
    · split at quit <;> cases quit
    · split at quit
      · cases quit
      · split at quit
        · cases quit
        · next unread unanswered unacknowledged =>
          simp [unread, unanswered, unacknowledged]

/-- A frame takes its effect. -/
theorem passes_take (sound : t.Sound) (registrations : Registrations) {arrival : Arrival}
    (taking : t.reception = .taking arrival) :
    Passes t t.station.completions [] (t.station.concluded? arrival).toList 0 0
      (t.follows (t.station.react registrations arrival).1
        (t.station.react registrations arrival).2) := by
  have ends := t.station.ends_react registrations arrival
  have here : t.reception.past = false := by rw [taking]; rfl
  have present : t.reception ≠ .absent := by rw [taking]; nofun
  have flushes : t.reception.flushes = 0 := by rw [taking]; rfl
  cases rest : (t.station.react registrations arrival).2 with
  | nothing => exact passes_conclude sound ends flushes.symm here present
  | claim header => exact passes_conclude sound ends flushes.symm here present
  | answer header payload => exact passes_conclude sound ends flushes.symm here present
  | quit =>
    obtain ⟨same, none⟩ := react_of_quit rest
    rw [same, none]
    exact passes_receives sound (t.station.alike_withIntake _) taking nofun rfl nofun

/-- A write with an immediate looks for a receive. -/
theorem passes_claim (sound : t.Sound) {header : Header}
    (claiming : t.reception = .claiming header) :
    Passes t t.station.completions []
      ((t.station.queuePair.work.receives.take 1).map fun request =>
        t.station.report request .receiveWithImmediate .success header.length
          (some header.immediate)) 0 0
      (t.follows (t.station.claim header).1 (t.station.claim header).2) := by
  rcases t.station.claim_cases header with ⟨request, later, waits, claimed⟩ | ⟨nobody, claimed⟩
  · rw [claimed, waits]
    exact passes_consume sound claiming waits rfl
  · rw [claimed, nobody]
    exact passes_hold sound claiming nobody _ rfl

/-- The receive thread sets the state. -/
theorem passes_losing (sound : t.Sound) (failing : t.reception = .failing)
    (alive : t.station.queuePair.state ≠ .error) :
    Passes t t.station.completions [] [] 0 0 (t.receives t.station.marked .flushing) := by
  have kept : (t.receives t.station.marked .flushing).Sound := by
    refine ⟨sound.numbered, sound.drafted, sound.lost, sound.apart, sound.closing,
      fun _ => Or.inr rfl, ?_, ?_⟩
    · rintro (early | early) <;> cases early
    · rintro (early | early | early | starting) other
      · cases early
      · cases early
      · cases early
      · exact absurd starting other
  refine passes_mark kept rfl alive rfl rfl ?_
    (fun starting => Or.inr (Or.inr (Or.inr starting))) ?_
  · simp only [flushesDue, failing, receives, Reception.flushes]
  · rw [failing]
    rintro ⟨⟩

/-- The receive thread flushes what waits. -/
theorem passes_spilling (sound : t.Sound) (flushing : t.reception = .flushing) :
    Passes t t.station.completions [] t.station.lastReports 0
      (if t.reception = .flushing ∧ t.waiting = 0 then t.action.reserves else 0)
      (t.receives t.station.flush .shutting) := by
  have kept : (t.receives t.station.flush .shutting).Sound :=
    sound.of_same_action rfl rfl rfl (Nat.le_refl _) rfl (List.nil_sublist _) (Or.inl rfl)
      fun absent => by rw [flushing] at absent; cases absent
  have before : t.onward = 1 := by
    rw [onward, flushing]
    rfl
  have after : (t.receives t.station.flush .shutting).onward = 0 := rfl
  refine passes_flush sound kept rfl rfl rfl ?_ id (fun idle => ?_) ?_
  · simp only [flushesDue, flushing, receives, Reception.flushes]
  · exact Nat.le_of_eq (if_pos ⟨flushing, idle⟩).symm
  · rw [before, after]
    split
    · exact t.action.reserves_le
    · exact Nat.zero_le _

theorem passes_advance (sound : t.Sound) (registrations : Registrations) :
    Passes t t.station.completions [] (t.reports (.advance registrations)) 0
      (t.overtakes (.advance registrations)) (t.advance registrations) := by
  by_cases flushing : t.reception = .flushing
  · have spilled := passes_spilling sound flushing
    unfold reports overtakes advance
    simp only [flushing] at spilled ⊢
    exact spilled
  rw [overtakes_of_ne flushing]
  unfold reports advance
  cases reception : t.reception with
  | flushing => exact absurd reception flushing
  | absent => exact passes_nothing sound
  | reading => exact passes_nothing sound
  | settling header =>
    dsimp only
    split
    · exact passes_receives sound (.refl _) reception nofun rfl nofun
    · split
      · exact passes_receives sound (.refl _) reception nofun rfl nofun
      · exact passes_receives sound (t.station.alike_withIntake _) reception nofun rfl nofun
  | taking arrival =>
    exact passes_take sound registrations reception
  | claiming header =>
    exact passes_claim sound reception
  | answering header payload =>
    dsimp only
    split
    · next h =>
      exact passes_receives sound (Station.alike_of_transmit h).1 reception nofun rfl nofun
    · next h =>
      have alike := (Station.alike_of_transmit h).1.trans (Station.alike_withIntake _ none)
      exact passes_receives sound alike reception nofun rfl
        nofun
  | broken =>
    dsimp only
    refine passes_receives sound (.refl _) reception nofun ?_ nofun
    split <;> rfl
  | failing =>
    dsimp only
    split
    · exact passes_receives sound (.refl _) reception nofun rfl nofun
    · next alive => exact passes_losing sound reception alive
  | shutting =>
    exact passes_receives sound t.station.alike_shutLink reception nofun rfl fun _ => rfl
  | finished => exact passes_nothing sound

/-- The receive thread gets a byte. -/
theorem passes_hears (sound : t.Sound) (byte : UInt8) :
    Passes t t.station.completions [] [] 0 0 (t.hears byte) := by
  unfold hears
  split
  · next received reading _ =>
    split <;> exact passes_receives sound (t.station.alike_withIntake _) reading nofun rfl nofun
  · next header disposal reversed missing reading _ =>
    split <;> exact passes_receives sound (t.station.alike_withIntake _) reading nofun rfl nofun
  · exact passes_nothing sound

end Reception

/-! ## Every step -/

theorem sound_fresh (address : QueuePairAddress) (linkTimeout : Milliseconds) (depth : Nat)
    (memory : Memory) : (Threads.fresh address linkTimeout depth memory).Sound :=
  sound_of_plain rfl (Work.numbered_none _) (Or.inl rfl) (fun _ => rfl) fun _ => rfl

theorem passes_step {t : Threads} (sound : t.Sound) (event : ThreadEvent) :
    Passes t (t.drained event) (t.enters event) (t.reports event) (t.revives event)
      (t.overtakes event) (t.step event) := by
  cases event with
  | call call =>
    simp only [step]
    split
    · next idle => exact passes_begin sound idle call
    · exact passes_nothing sound
  | proceed registrations => exact passes_proceed sound registrations
  | byte byte => exact passes_hears sound byte
  | hangUp =>
    simp only [step]
    split
    · next reading =>
      exact passes_receives sound (t.station.alike_withIntake _) reading nofun rfl nofun
    · exact passes_nothing sound
  | advance registrations => exact passes_advance sound registrations
  | poll most => exact passes_poll sound _
  | remember memory =>
    exact passes_receiving sound ⟨rfl, rfl, rfl, Nat.le_refl _, rfl, rfl⟩ rfl rfl id id

end Threads

end RdmaLink
