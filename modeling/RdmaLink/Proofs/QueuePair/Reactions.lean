import RdmaLink.Proofs.QueuePair.Arrival

/-!
# A frame is handled in steps

What a frame does to the station and what goes to the link because of it are two things, and
between them other threads run.  Handling a frame is therefore cut in three: the frame takes its
effect (`react`), a write with an immediate looks for a receive (`claim`), and the answer goes to
the link.

    s.handle r a = (s.react r a).1.conclude (s.react r a).2            (Station.handle_eq_conclude)

Only the answer, and the end of the receiving, touch the link (`link_react`, `link_claim`).
-/

namespace RdmaLink

/-- What is left to do for a frame. -/
inductive Rest where
  | nothing
  /-- A write with an immediate is stored and looks for a receive. -/
  | claim (header : Header)
  | answer (header : Header) (payload : Bytes)
  /-- The frame is of no known kind. -/
  | quit
deriving DecidableEq, Repr, Inhabited

namespace Rest

/-- A write is acknowledged. -/
def acknowledge (header : Header) (status : Status) : Rest :=
  .answer (Header.acknowledgement header.sequence status.code) []

end Rest

namespace Station

/-- The data that a read request asks for, if it may have it. -/
def requested? (registrations : Registrations) (station : Station) (header : Header) :
    Option Bytes :=
  (registrations.target? header.key header.address header.length ⟨false, false, true⟩).bind
    fun (region, offset) => (station.memory.read region offset header.length.toNat).toOption

/-- What a frame does at once, and what is left to do. -/
def react (registrations : Registrations) (station : Station) (arrival : Arrival) :
    Station × Rest :=
  let header := arrival.header
  match arrival.disposal with
  | some (.store region offset) =>
    match station.memory.write region offset arrival.payload with
    | .ok memory =>
      ({ station with memory := memory },
        if header.opcode = Opcode.write then .acknowledge header .success else .claim header)
    | .error _ => (station, .acknowledge header .remoteAccess)
  | some .refuse => (station, .acknowledge header .remoteAccess)
  | some .answer => (station.readAnswered header (some arrival.payload), .nothing)
  | some .unwanted => (station.readAnswered header none, .nothing)
  | none =>
    if header.opcode = Opcode.readRequest then
      match station.requested? registrations header with
      | some bytes =>
        (station,
          .answer (Header.readResponse header.sequence Status.success.code header.length) bytes)
      | none =>
        (station, .answer (Header.readResponse header.sequence Status.remoteAccess.code 0) [])
    else if header.opcode = Opcode.readResponse then (station.readAnswered header none, .nothing)
    else if header.opcode = Opcode.acknowledgement then (station.acknowledged header, .nothing)
    else (station, .quit)

/-- A write with an immediate consumes the oldest receive, or its immediate is held. -/
def claim (station : Station) (header : Header) : Station × Rest :=
  let work := station.queuePair.work
  match work.receives with
  | request :: later =>
    ((station.withWork { work with receives := later }).complete request .receiveWithImmediate
      .success header.length (some header.immediate), .acknowledge header .success)
  | [] =>
    let held := ⟨header.sequence, header.immediate, header.length⟩
    (station.withWork { work with held := work.held ++ [held] }, .nothing)

/-- Does what is left to do for a frame. -/
def conclude (station : Station) : Rest → Station
  | .nothing => station
  | .claim header =>
    match station.claim header with
    | (claimed, .answer answer payload) => claimed.respond answer payload
    | (claimed, _) => claimed
  | .answer header payload => station.respond header payload
  | .quit => station.breakOff

variable {registrations : Registrations} {s : Station} {arrival : Arrival}

/-- A write that was stored looks for a receive exactly if it carries an immediate. -/
theorem written_eq_conclude (s : Station) (header : Header) :
    s.written header = s.conclude
      (if header.opcode = Opcode.write then .acknowledge header .success else .claim header) := by
  unfold written
  split
  · rfl
  · unfold conclude claim
    cases waiting : s.queuePair.work.receives with
    | nil => simp only [waiting]
    | cons request rest =>
      simp only [waiting]
      rfl

/-- Handling a frame is its effect and what is left to do after it. -/
theorem handle_eq_conclude (registrations : Registrations) (s : Station) (arrival : Arrival) :
    s.handle registrations arrival =
      (s.react registrations arrival).1.conclude (s.react registrations arrival).2 := by
  unfold handle react
  cases arrival.disposal with
  | some disposal =>
    cases disposal with
    | store region offset =>
      simp only [takePayload]
      cases s.memory.write region offset arrival.payload with
      | ok memory => exact written_eq_conclude _ _
      | error e => rfl
    | refuse => rfl
    | answer => rfl
    | unwanted => rfl
  | none =>
    simp only [takeBare]
    by_cases read : arrival.header.opcode = Opcode.readRequest
    · rw [if_pos read, if_pos read]
      unfold answerRead requested?
      dsimp only
      split <;> simp only [conclude, *]
    · rw [if_neg read, if_neg read]
      split
      · rfl
      · split <;> rfl

/-! ## What the effect leaves alone -/

theorem queuePair_readAnswered (s : Station) (header : Header) (payload : Option Bytes) :
    ∃ work, (s.readAnswered header payload).queuePair = { s.queuePair with work := work } := by
  unfold readAnswered
  dsimp only
  split
  · exact ⟨s.queuePair.work, rfl⟩
  · split
    · split
      · split <;> exact ⟨_, rfl⟩
      · exact ⟨_, rfl⟩
    · exact ⟨_, rfl⟩

theorem queuePair_acknowledged (s : Station) (header : Header) :
    ∃ work, (s.acknowledged header).queuePair = { s.queuePair with work := work } := by
  unfold acknowledged
  dsimp only
  split
  · exact ⟨s.queuePair.work, rfl⟩
  · exact ⟨_, rfl⟩

/-- Of the queue pair, the effect of a frame changes what is posted and nothing else. -/
theorem queuePair_react (registrations : Registrations) (s : Station) (arrival : Arrival) :
    ∃ work, (s.react registrations arrival).1.queuePair = { s.queuePair with work := work } := by
  have same : ∃ work, s.queuePair = { s.queuePair with work := work } := ⟨s.queuePair.work, rfl⟩
  unfold react
  dsimp only
  split
  · split <;> exact same
  · exact same
  · exact queuePair_readAnswered _ _ _
  · exact queuePair_readAnswered _ _ _
  · split
    · split <;> exact same
    · split
      · exact queuePair_readAnswered _ _ _
      · split
        · exact queuePair_acknowledged _ _
        · exact same

theorem link_react (registrations : Registrations) (s : Station) (arrival : Arrival) :
    (s.react registrations arrival).1.queuePair.link = s.queuePair.link := by
  obtain ⟨work, same⟩ := s.queuePair_react registrations arrival
  rw [same]

/-- A write that looks for a receive finds the oldest, or it is held. -/
theorem claim_cases (s : Station) (header : Header) :
    (∃ request later, s.queuePair.work.receives = request :: later ∧
      s.claim header =
        ((s.withWork { s.queuePair.work with receives := later }).complete request
          .receiveWithImmediate .success header.length (some header.immediate),
          .acknowledge header .success)) ∨
    (s.queuePair.work.receives = [] ∧
      s.claim header = (s.withWork { s.queuePair.work with
        held := s.queuePair.work.held ++ [⟨header.sequence, header.immediate, header.length⟩] },
        .nothing)) := by
  cases posted : s.queuePair.work.receives with
  | nil => exact Or.inr ⟨rfl, by simp only [claim, posted]⟩
  | cons request later => exact Or.inl ⟨request, later, rfl, by simp only [claim, posted]⟩

/-! ## What the effect completes -/

/-- The status that a read ends with. -/
def readStatus (station : Station) (send : PendingSend) (header : Header)
    (payload : Option Bytes) : Status :=
  match Status.ofCode header.status with
  | .success =>
    match send.sink, payload with
    | some (region, offset), some bytes =>
      match station.memory.write region offset bytes with
      | .ok _ => .success
      | .error _ => .localProtection
    | _, _ => .localProtection
  | status => status

/-- The completion of a send; only a success tells a length. -/
def outcomeOf (station : Station) (send : PendingSend) (status : Status) : Completion :=
  station.report send.request send.operation status
    (if status = .success then send.length else 0) none

/-- The completion of the read that a frame answers. -/
def answered? (station : Station) (header : Header) (payload : Option Bytes) : Option Completion :=
  (station.queuePair.work.send? header.sequence.toNat).map fun send =>
    station.outcomeOf send (station.readStatus send header payload)

/-- The completion of the send that a frame ends, if it ends one. -/
def concluded? (station : Station) (arrival : Arrival) : Option Completion :=
  let header := arrival.header
  match arrival.disposal with
  | some .answer => station.answered? header (some arrival.payload)
  | some .unwanted => station.answered? header none
  | some _ => none
  | none =>
    if header.opcode = Opcode.readResponse then station.answered? header none
    else if header.opcode = Opcode.acknowledgement then
      (station.queuePair.work.send? header.sequence.toNat).map fun send =>
        station.outcomeOf send (Status.ofCode header.status)
    else none

/-- A frame ends the send with its number and reports it, or it ends none and reports nothing. -/
structure Ends (s : Station) (sequence : Nat) (completed : Option Completion) (t : Station) :
    Prop where
  idle : completed = none → t.queuePair = s.queuePair ∧ t.completions = s.completions
  done : ∀ completion, completed = some completion → ∃ send status,
    s.queuePair.work.send? sequence = some send ∧ completion = s.outcomeOf send status ∧
      t.queuePair =
        { s.queuePair with work := s.queuePair.work.withoutSend sequence } ∧
      t.completions = s.completions.push completion

theorem ends_nothing {t : Station} (sequence : Nat) (queuePair : t.queuePair = s.queuePair)
    (completions : t.completions = s.completions) : Ends s sequence none t :=
  ⟨fun _ => ⟨queuePair, completions⟩, nofun⟩

theorem ends_readAnswered (s : Station) (header : Header) (payload : Option Bytes) :
    Ends s header.sequence.toNat (s.answered? header payload) (s.readAnswered header payload) := by
  unfold answered?
  cases posted : s.queuePair.work.send? header.sequence.toNat with
  | none =>
    refine ends_nothing _ ?_ ?_ <;> simp only [readAnswered, posted]
  | some send =>
    refine ⟨nofun, fun completion same => ?_⟩
    cases same
    refine ⟨send, _, posted, rfl, ?_⟩
    unfold readAnswered readStatus
    simp only [posted]
    cases ended : Status.ofCode header.status with
    | success =>
      cases sink : send.sink with
      | none => exact ⟨rfl, rfl⟩
      | some place =>
        cases payload with
        | none => exact ⟨rfl, rfl⟩
        | some bytes =>
          obtain ⟨region, offset⟩ := place
          simp only [withWork]
          cases s.memory.write region offset bytes <;> exact ⟨rfl, rfl⟩
    | _ => exact ⟨rfl, rfl⟩

theorem ends_acknowledged (s : Station) (header : Header) :
    Ends s header.sequence.toNat ((s.queuePair.work.send? header.sequence.toNat).map fun send =>
      s.outcomeOf send (Status.ofCode header.status)) (s.acknowledged header) := by
  cases posted : s.queuePair.work.send? header.sequence.toNat with
  | none =>
    refine ends_nothing _ ?_ ?_ <;> simp only [acknowledged, posted]
  | some send =>
    refine ⟨nofun, fun completion same => ?_⟩
    cases same
    refine ⟨send, _, posted, rfl, ?_⟩
    simp only [acknowledged, posted]
    exact ⟨rfl, rfl⟩

/-- What a frame completes at once. -/
theorem ends_react (registrations : Registrations) (s : Station) (arrival : Arrival) :
    Ends s arrival.header.sequence.toNat (s.concluded? arrival)
      (s.react registrations arrival).1 := by
  have nothing := ends_nothing (s := s) (t := s) arrival.header.sequence.toNat rfl rfl
  unfold react concluded?
  cases arrival.disposal with
  | some disposal =>
    cases disposal with
    | store region offset =>
      dsimp only
      split
      · exact ends_nothing _ rfl rfl
      · exact nothing
    | refuse => exact nothing
    | answer => exact ends_readAnswered s arrival.header _
    | unwanted => exact ends_readAnswered s arrival.header _
  | none =>
    dsimp only
    by_cases read : arrival.header.opcode = Opcode.readRequest
    · rw [if_pos read, if_neg (by rw [read]; decide), if_neg (by rw [read]; decide)]
      split <;> exact nothing
    · rw [if_neg read]
      split
      · exact ends_readAnswered s arrival.header _
      · split
        · exact ends_acknowledged s arrival.header
        · exact nothing

theorem link_claim (s : Station) (header : Header) :
    (s.claim header).1.queuePair.link = s.queuePair.link := by
  rcases s.claim_cases header with ⟨_, _, -, h⟩ | ⟨-, h⟩ <;> rw [h] <;> rfl

end Station

end RdmaLink
