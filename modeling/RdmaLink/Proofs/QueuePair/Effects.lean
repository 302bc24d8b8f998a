import RdmaLink.Proofs.Memory.Regions
import RdmaLink.Proofs.QueuePair.Moves

/-!
# What a frame changes

A frame in full changes three things of a station: the memory, if a payload is stored; the
completion queue; and the intake, if handling it ends the receiving.

    (s.handle r a).memory = s.memory.stored (s.place? a) a.payload        (memory_handle)
    (s.handle r a).intake = s.intake, or none                             (intake_handle)
    a success that (s.handle r a) reports is Earned                       (pushes_handle)

Answering, acknowledging, failing and posting leave the memory as it is.
-/

namespace RdmaLink

namespace Station

/-- Where the payload of a frame goes: where a write was allowed to go, or into the sink of the
read that it answers. -/
def place? (station : Station) (arrival : Arrival) : Option (RegionId × Nat) :=
  match arrival.disposal with
  | some (.store region offset) => some (region, offset)
  | some .answer =>
    (station.queuePair.work.send? arrival.header.sequence.toNat).bind PendingSend.sink
  | _ => none

/-! ## Memory -/

@[simp] theorem memory_withWork (s : Station) (work : Work) :
    (s.withWork work).memory = s.memory := rfl

@[simp] theorem memory_withPosted (s : Station) (pending : PendingSend) :
    (s.withPosted pending).memory = s.memory := rfl

@[simp] theorem memory_complete (s : Station) (request : UInt64) (operation : Operation)
    (status : Status) (length : UInt32) (immediate : Option UInt32) :
    (s.complete request operation status length immediate).memory = s.memory := rfl

@[simp] theorem memory_fail (s : Station) : s.fail.memory = s.memory := by
  unfold fail
  split <;> rfl

@[simp] theorem memory_shutLink (s : Station) : s.shutLink.memory = s.memory := rfl

@[simp] theorem memory_breakOff (s : Station) : s.breakOff.memory = s.memory := memory_fail s

@[simp] theorem memory_transmit (s : Station) (header : Header) (payload : Bytes) :
    (s.transmit header payload).2.memory = s.memory := by
  unfold transmit
  split <;> rfl

@[simp] theorem memory_respond (s : Station) (header : Header) (payload : Bytes) :
    (s.respond header payload).memory = s.memory := by
  have tried := s.memory_transmit header payload
  unfold respond
  split
  · next h => rw [h] at tried; exact tried
  · next h => rw [h] at tried; rw [memory_breakOff]; exact tried

@[simp] theorem memory_acknowledge (s : Station) (sequence : UInt64) (status : Status) :
    (s.acknowledge sequence status).memory = s.memory := memory_respond _ _ _

@[simp] theorem memory_written (s : Station) (header : Header) :
    (s.written header).memory = s.memory := by
  unfold written
  split
  · exact memory_acknowledge _ _ _
  · simp only
    split
    · exact memory_acknowledge _ _ _
    · rfl

@[simp] theorem memory_answerRead (registrations : Registrations) (s : Station)
    (header : Header) : (s.answerRead registrations header).memory = s.memory := by
  unfold answerRead
  simp only
  split <;> exact memory_respond _ _ _

@[simp] theorem memory_acknowledged (s : Station) (header : Header) :
    (s.acknowledged header).memory = s.memory := by
  unfold acknowledged
  simp only
  split <;> rfl

/-- Without data a read is over and nothing is stored. -/
@[simp] theorem memory_readAnswered_none (s : Station) (header : Header) :
    (s.readAnswered header none).memory = s.memory := by
  unfold readAnswered
  simp only
  split
  · rfl
  · split
    · split <;> simp_all
    · rfl

/-- The data of a read goes into its sink. -/
theorem memory_readAnswered_some (s : Station) {header : Header} (payload : Bytes)
    (success : Status.ofCode header.status = .success) :
    (s.readAnswered header (some payload)).memory = s.memory.stored
      ((s.queuePair.work.send? header.sequence.toNat).bind PendingSend.sink) payload := by
  unfold readAnswered
  simp only [success]
  split
  · next hs => rw [hs]; rfl
  · next send hs =>
    rw [hs, Option.bind_some]
    cases hsink : send.sink with
    | none => rfl
    | some sink =>
      obtain ⟨region, offset⟩ := sink
      simp only [Memory.stored, memory_withWork]
      split <;> simp_all

@[simp] theorem memory_takeBare (registrations : Registrations) (s : Station)
    (header : Header) : (s.takeBare registrations header).memory = s.memory := by
  unfold takeBare
  split
  · exact memory_answerRead _ _ _
  · split
    · exact memory_readAnswered_none _ _
    · split
      · exact memory_acknowledged _ _
      · exact memory_breakOff _

/-- A frame stores its payload in its place and changes no other memory. -/
theorem memory_handle (registrations : Registrations) (s : Station) {arrival : Arrival}
    (sound : arrival.Sound) :
    (s.handle registrations arrival).memory =
      s.memory.stored (s.place? arrival) arrival.payload := by
  unfold handle place?
  cases hd : arrival.disposal with
  | none => exact memory_takeBare _ _ _
  | some disposal =>
    have hsuits := sound.suits disposal hd
    cases disposal with
    | store region offset =>
      simp only [takePayload, Memory.stored]
      cases hw : s.memory.write region offset arrival.payload with
      | ok memory => exact memory_written _ _
      | error e => exact memory_acknowledge _ _ _
    | refuse => exact memory_acknowledge _ _ _
    | answer => exact memory_readAnswered_some s _ hsuits.2
    | unwanted => exact memory_readAnswered_none _ _

@[simp] theorem memory_endOfStream (s : Station) : s.endOfStream.memory = s.memory := by
  unfold endOfStream
  split
  · rfl
  · exact memory_breakOff _

@[simp] theorem memory_sendLost (s : Station) (sequence : Nat) :
    (s.sendLost sequence).memory = s.memory := by
  rw [sendLost_eq]
  simp only [memory_shutLink, memory_fail]
  split <;> rfl

@[simp] theorem memory_launch (s : Station) (frame : Frame) (sequence : Nat) :
    (s.launch frame sequence).memory = s.memory := by
  have tried := s.memory_transmit frame.header frame.payload
  unfold launch
  split
  · next h => rw [h] at tried; exact tried
  · next h => rw [h] at tried; rw [memory_sendLost]; exact tried

@[simp] theorem memory_confirm (s : Station) (sequence : UInt64) :
    (s.confirm sequence).memory = s.memory := by
  have tried := s.memory_transmit (Header.acknowledgement sequence Status.success.code) []
  unfold confirm
  split
  · next h => rw [h] at tried; exact tried
  · next h => rw [h] at tried; rw [memory_fail]; exact tried

@[simp] theorem memory_postSend (registrations : Registrations) (s : Station)
    (send : SendRequest) : (s.postSend registrations send).2.memory = s.memory := by
  rcases s.postSend_cases registrations send with ⟨e, h⟩ | ⟨e, h⟩ | ⟨_, _, _, _, -, -, -, -, -, h⟩
  · rw [h]
  · rw [h]
  · rw [h, memory_launch, memory_withPosted]

@[simp] theorem memory_postReceive (s : Station) (request : UInt64) :
    (s.postReceive request).2.memory = s.memory := by
  rcases s.postReceive_cases request with ⟨e, h⟩ | ⟨-, -, -, h⟩ | ⟨_, _, -, -, -, h⟩
  · rw [h]
  · rw [h]; rfl
  · rw [h, memory_confirm]; rfl

/-! ## Intake -/

/-- The intake of one station is kept in another, or receiving has ended there. -/
def IntakeKept (s t : Station) : Prop :=
  t.queuePair.intake = s.queuePair.intake ∨ t.queuePair.intake = none

theorem intakeKept_breakOff (s : Station) : IntakeKept s s.breakOff := Or.inr rfl

@[simp] theorem intake_transmit (s : Station) (header : Header) (payload : Bytes) :
    (s.transmit header payload).2.queuePair.intake = s.queuePair.intake := by
  unfold transmit
  split <;> rfl

theorem intakeKept_respond (s : Station) (header : Header) (payload : Bytes) :
    IntakeKept s (s.respond header payload) := by
  have tried := s.intake_transmit header payload
  unfold respond
  split
  · next h => rw [h] at tried; exact Or.inl tried
  · exact Or.inr rfl

theorem intakeKept_written (s : Station) (header : Header) :
    IntakeKept s (s.written header) := by
  unfold written
  split
  · exact intakeKept_respond _ _ _
  · simp only
    split
    · next request later _ =>
      exact intakeKept_respond ((s.withWork _).complete request _ _ _ _) _ _
    · exact Or.inl rfl

theorem intakeKept_readAnswered (s : Station) (header : Header) (payload : Option Bytes) :
    IntakeKept s (s.readAnswered header payload) := by
  unfold readAnswered
  simp only
  split
  · exact Or.inl rfl
  · split
    · split
      · split <;> exact Or.inl rfl
      · exact Or.inl rfl
    · exact Or.inl rfl

theorem intakeKept_takeBare (registrations : Registrations) (s : Station) (header : Header) :
    IntakeKept s (s.takeBare registrations header) := by
  unfold takeBare
  split
  · unfold answerRead
    simp only
    split <;> exact intakeKept_respond _ _ _
  · split
    · exact intakeKept_readAnswered _ _ _
    · split
      · unfold acknowledged
        simp only
        split <;> exact Or.inl rfl
      · exact intakeKept_breakOff _

/-- Handling a frame leaves the intake as it is or ends the receiving. -/
theorem intakeKept_handle (registrations : Registrations) (s : Station) (arrival : Arrival) :
    IntakeKept s (s.handle registrations arrival) := by
  unfold handle
  split
  · next disposal _ =>
    cases disposal with
    | store region offset =>
      simp only [takePayload]
      split
      · next memory _ => exact intakeKept_written { s with memory := memory } _
      · exact intakeKept_respond _ _ _
    | refuse => exact intakeKept_respond _ _ _
    | answer => exact intakeKept_readAnswered _ _ _
    | unwanted => exact intakeKept_readAnswered _ _ _
  · exact intakeKept_takeBare _ _ _

@[simp] theorem intake_fail (s : Station) : s.fail.queuePair.intake = s.queuePair.intake := by
  unfold fail
  split <;> rfl

@[simp] theorem intake_launch (s : Station) (frame : Frame) (sequence : Nat) :
    (s.launch frame sequence).queuePair.intake = s.queuePair.intake := by
  have tried := s.intake_transmit frame.header frame.payload
  unfold launch
  split
  · next h => rw [h] at tried; exact tried
  · next h =>
    rw [h] at tried
    rw [← tried, sendLost_eq]
    simp only [shutLink, intake_fail]
    split <;> rfl

@[simp] theorem intake_postSend (registrations : Registrations) (s : Station)
    (send : SendRequest) :
    (s.postSend registrations send).2.queuePair.intake = s.queuePair.intake := by
  rcases s.postSend_cases registrations send with ⟨e, h⟩ | ⟨e, h⟩ | ⟨_, _, _, _, -, -, -, -, -, h⟩
  · rw [h]
  · rw [h]
  · rw [h, intake_launch]; rfl

@[simp] theorem intake_postReceive (s : Station) (request : UInt64) :
    (s.postReceive request).2.queuePair.intake = s.queuePair.intake := by
  rcases s.postReceive_cases request with ⟨e, h⟩ | ⟨-, -, -, h⟩ | ⟨held, later, -, -, -, h⟩
  · rw [h]
  · rw [h]; rfl
  · rw [h]
    generalize hs : ((s.withWork _).complete request _ _ _ _) = m
    have same : m.queuePair.intake = s.queuePair.intake := by rw [← hs]; rfl
    have tried := m.intake_transmit (Header.acknowledgement held.sequence Status.success.code) []
    unfold confirm
    split
    · next h => rw [h] at tried; exact tried.trans same
    · next h => rw [h] at tried; rw [intake_fail]; exact tried.trans same

/-! ## Completions -/

/-- One station comes from the other by pushing completions with a property. -/
def Pushes (P : Completion → Prop) (s t : Station) : Prop :=
  ∃ completed : List Completion,
    t.completions = completed.foldl CompletionQueue.push s.completions ∧ ∀ c ∈ completed, P c

/-- A completion that does not report a success. -/
def Unsuccessful (completion : Completion) : Prop := completion.status ≠ .success

variable {P Q : Completion → Prop} {s t u : Station}

theorem Pushes.of_eq (h : t.completions = s.completions) : Pushes P s t := ⟨[], h, by simp⟩

theorem Pushes.refl (s : Station) : Pushes P s s := Pushes.of_eq rfl

theorem Pushes.push {completion : Completion}
    (h : t.completions = s.completions.push completion) (hp : P completion) : Pushes P s t := by
  refine ⟨[completion], h, ?_⟩
  intro c hc
  rw [List.mem_singleton.mp hc]
  exact hp

theorem Pushes.trans (h : Pushes P s t) (h' : Pushes P t u) : Pushes P s u := by
  obtain ⟨a, ha, hpa⟩ := h
  obtain ⟨b, hb, hpb⟩ := h'
  refine ⟨a ++ b, by rw [hb, ha, List.foldl_append], ?_⟩
  intro c hc
  rcases List.mem_append.mp hc with hc | hc
  · exact hpa c hc
  · exact hpb c hc

theorem Pushes.imp (h : Pushes P s t) (weaker : ∀ c, P c → Q c) : Pushes Q s t := by
  obtain ⟨a, ha, hpa⟩ := h
  exact ⟨a, ha, fun c hc => weaker c (hpa c hc)⟩

/-- What is pushed comes last in the queue, as far as there is room for it. -/
theorem Pushes.toList (h : Pushes P s t) :
    ∃ kept, t.completions.toList = s.completions.toList ++ kept ∧ ∀ c ∈ kept, P c := by
  obtain ⟨completed, heq, hp⟩ := h
  rw [heq]
  clear heq
  generalize s.completions = queue
  induction completed generalizing queue with
  | nil => exact ⟨[], (List.append_nil _).symm, by simp⟩
  | cons c rest ih =>
    obtain ⟨kept, hkept, hk⟩ := ih (fun d hd => hp d (List.mem_cons_of_mem _ hd)) (queue.push c)
    rw [List.foldl_cons, hkept]
    rcases Nat.lt_or_ge queue.size queue.depth with hroom | hfull
    · refine ⟨c :: kept, ?_, ?_⟩
      · rw [CompletionQueue.toList_push_of_room hroom, List.append_assoc]
        rfl
      · intro d hd
        rcases List.mem_cons.mp hd with rfl | hd
        · exact hp d List.mem_cons_self
        · exact hk d hd
    · exact ⟨kept, by rw [CompletionQueue.toList_push_of_full hfull], hk⟩

theorem Pushes.mem (h : Pushes P s t) {c : Completion} (hc : c ∈ t.completions.toList) :
    c ∈ s.completions.toList ∨ P c := by
  obtain ⟨kept, heq, hp⟩ := h.toList
  rw [heq] at hc
  rcases List.mem_append.mp hc with hc | hc
  · exact Or.inl hc
  · exact Or.inr (hp c hc)

/-- A failure reports no success. -/
theorem pushes_fail (s : Station) : Pushes Unsuccessful s s.fail := by
  unfold fail
  split
  · exact Pushes.refl s
  · refine ⟨_, rfl, ?_⟩
    intro c hc
    unfold lastReports at hc
    split at hc
    · rw [List.mem_singleton.mp hc]
      simp [Unsuccessful, lossReport, report]
    · rcases List.mem_append.mp hc with hc | hc
      · obtain ⟨entry, -, rfl⟩ := List.mem_map.mp hc
        simp [Unsuccessful, report]
      · obtain ⟨request, -, rfl⟩ := List.mem_map.mp hc
        simp [Unsuccessful, report]

theorem pushes_breakOff (s : Station) : Pushes Unsuccessful s s.breakOff := pushes_fail s

theorem pushes_respond (s : Station) (header : Header) (payload : Bytes) :
    Pushes Unsuccessful s (s.respond header payload) := by
  have same := (s.alike_transmit header payload).completions
  unfold respond
  split
  · next h => rw [h] at same; exact Pushes.of_eq same
  · next h => rw [h] at same; exact (Pushes.of_eq same).trans (pushes_breakOff _)

/-- A completion that reports a success, if a frame gave rise to it: a receive was consumed, or a
send was acknowledged, or a read was answered with the data that is now in its sink. -/
def Earned (registrations : Registrations) (s : Station) (arrival : Arrival)
    (completion : Completion) : Prop :=
  completion.status = .success →
    completion.operation = .receiveWithImmediate ∨
    ∃ send, s.queuePair.work.send? arrival.header.sequence.toNat = some send ∧
      completion = s.report send.request send.operation .success send.length none ∧
      Status.ofCode arrival.header.status = .success ∧
      (arrival.header.opcode = Opcode.acknowledgement ∨
        ∃ region offset memory, arrival.disposal = some .answer ∧
          send.sink = some (region, offset) ∧
          s.memory.write region offset arrival.payload = .ok memory ∧
          (s.handle registrations arrival).memory = memory)

theorem Unsuccessful.earned {registrations : Registrations} {arrival : Arrival}
    (c : Completion) (h : Unsuccessful c) : Earned registrations s arrival c :=
  fun hs => absurd hs h

theorem pushes_written (s : Station) (header : Header) :
    Pushes (fun c => c.status = .success → c.operation = .receiveWithImmediate) s
      (s.written header) := by
  unfold written
  split
  · exact (pushes_respond _ _ _).imp fun c h hs => absurd hs h
  · simp only
    split
    · refine Pushes.trans (t := (s.withWork _).complete _ _ _ _ _) ?_
        ((pushes_respond _ _ _).imp fun c h hs => absurd hs h)
      exact Pushes.push rfl fun _ => rfl
    · exact Pushes.of_eq rfl

/-- A read that is over without data has not succeeded. -/
theorem pushes_readAnswered_none (s : Station) (header : Header) :
    Pushes Unsuccessful s (s.readAnswered header none) := by
  unfold readAnswered
  simp only
  split
  · exact Pushes.refl s
  · split
    · split
      · next hnone => cases hnone
      · exact Pushes.push rfl (by simp [Unsuccessful, report])
    · next hstatus => exact Pushes.push rfl hstatus

/-- A read that is over with data has succeeded exactly if the data was stored. -/
theorem pushes_readAnswered_some (registrations : Registrations) (s : Station)
    {arrival : Arrival} (answer : arrival.disposal = some .answer) :
    Pushes (Earned registrations s arrival) s
      (s.readAnswered arrival.header (some arrival.payload)) := by
  have handled : s.handle registrations arrival =
      s.readAnswered arrival.header (some arrival.payload) := by
    simp only [handle, answer, takePayload]
  unfold readAnswered at handled ⊢
  simp only at handled ⊢
  split
  · exact Pushes.refl s
  · next send hs =>
    simp only [hs] at handled
    split
    · next hstatus =>
      simp only [hstatus] at handled
      cases hsink : send.sink with
      | none =>
        exact (Pushes.push rfl (by simp [Unsuccessful, report])).imp Unsuccessful.earned
      | some sink =>
        obtain ⟨region, offset⟩ := sink
        simp only [hsink, memory_withWork] at handled ⊢
        cases hw : s.memory.write region offset arrival.payload with
        | error e =>
          exact (Pushes.push rfl (by simp [Unsuccessful, report])).imp Unsuccessful.earned
        | ok memory =>
          simp only [hw] at handled
          refine Pushes.push rfl fun _ => Or.inr ⟨send, hs, rfl, hstatus,
            Or.inr ⟨region, offset, memory, answer, hsink, hw, ?_⟩⟩
          rw [handled]; rfl
    · next hstatus => exact Pushes.push rfl fun hsuc => absurd hsuc hstatus

theorem pushes_acknowledged (registrations : Registrations) (s : Station) {arrival : Arrival}
    (ack : arrival.header.opcode = Opcode.acknowledgement) :
    Pushes (Earned registrations s arrival) s (s.acknowledged arrival.header) := by
  unfold acknowledged
  simp only
  split
  · exact Pushes.refl s
  · next send hs =>
    refine Pushes.push rfl ?_
    intro hsuc
    have hstatus : Status.ofCode arrival.header.status = .success := hsuc
    refine Or.inr ⟨send, hs, ?_, hstatus, Or.inl ack⟩
    rw [hstatus, if_pos rfl]
    rfl

/-- What a frame reports as a success is earned. -/
theorem pushes_handle (registrations : Registrations) (s : Station) {arrival : Arrival} :
    Pushes (Earned registrations s arrival) s (s.handle registrations arrival) := by
  cases hd : arrival.disposal with
  | some disposal =>
    simp only [handle, hd]
    cases disposal with
    | store region offset =>
      simp only [takePayload]
      split
      · next memory _ =>
        exact (pushes_written { s with memory := memory } arrival.header).imp
          fun c h hs => Or.inl (h hs)
      · exact (pushes_respond _ _ _).imp Unsuccessful.earned
    | refuse => exact (pushes_respond _ _ _).imp Unsuccessful.earned
    | answer => exact pushes_readAnswered_some registrations s hd
    | unwanted => exact (pushes_readAnswered_none _ _).imp Unsuccessful.earned
  | none =>
    simp only [handle, hd, takeBare]
    split
    · unfold answerRead
      simp only
      split <;> exact (pushes_respond _ _ _).imp Unsuccessful.earned
    · split
      · exact (pushes_readAnswered_none _ _).imp Unsuccessful.earned
      · split
        · next hack => exact pushes_acknowledged registrations s hack
        · exact (pushes_breakOff s).imp Unsuccessful.earned

/-- A byte that completes a frame adds to the queue what the frame gives rise to. -/
theorem completions_feed {registrations : Registrations} {s : Station} {byte : UInt8}
    {arrival : Arrival} (h : s.arrival? registrations byte = some arrival) :
    ∃ kept, (s.feed registrations byte).completions.toList = s.completions.toList ++ kept ∧
      ∀ c ∈ kept, Earned registrations (s.withIntake (some (.header []))) arrival c := by
  rw [feed_of_arrival h]
  exact (pushes_handle registrations (s.withIntake (some (.header [])))).toList

/-- A frame that the link does not take is no success. -/
theorem pushes_launch (s : Station) (frame : Frame) (sequence : Nat) :
    Pushes Unsuccessful s (s.launch frame sequence) := by
  have same := (s.alike_transmit frame.header frame.payload).completions
  unfold launch
  split
  · next h => rw [h] at same; exact Pushes.of_eq same
  · next tried h =>
    rw [h] at same
    refine (Pushes.of_eq same).trans ?_
    rw [sendLost_eq]
    simp only
    split
    · next send _ =>
      refine Pushes.trans (t := (tried.withWork _).complete _ _ _ _ _) ?_ (pushes_fail _)
      exact Pushes.push rfl (by simp [Unsuccessful, report])
    · exact pushes_fail _

theorem pushes_confirm (s : Station) (sequence : UInt64) :
    Pushes Unsuccessful s (s.confirm sequence) := by
  have same :=
    (s.alike_transmit (Header.acknowledgement sequence Status.success.code) []).completions
  unfold confirm
  split
  · next h => rw [h] at same; exact Pushes.of_eq same
  · next h => rw [h] at same; exact (Pushes.of_eq same).trans (pushes_fail _)

theorem pushes_postSend (registrations : Registrations) (s : Station) (send : SendRequest) :
    Pushes Unsuccessful s (s.postSend registrations send).2 := by
  rcases s.postSend_cases registrations send with ⟨e, h⟩ | ⟨e, h⟩ | ⟨_, _, _, _, -, -, -, -, -, h⟩
  · rw [h]; exact Pushes.refl s
  · rw [h]; exact Pushes.of_eq rfl
  · rw [h]; exact (Pushes.of_eq rfl).trans (pushes_launch _ _ _)

/-- Posting a receive reports a success only of that receive. -/
theorem pushes_postReceive (s : Station) (request : UInt64) :
    Pushes (fun c => c.status = .success → c.operation = .receiveWithImmediate) s
      (s.postReceive request).2 := by
  rcases s.postReceive_cases request with ⟨e, h⟩ | ⟨-, -, -, h⟩ | ⟨held, later, -, -, -, h⟩
  · rw [h]; exact Pushes.refl s
  · rw [h]; exact Pushes.of_eq rfl
  · rw [h]
    refine Pushes.trans (t := (s.withWork { s.queuePair.work with held := later }).complete request
      .receiveWithImmediate .success held.length (some held.immediate)) ?_
      ((pushes_confirm _ _).imp fun c hc hs => absurd hs hc)
    exact Pushes.push rfl fun _ => rfl

end Station

end RdmaLink
