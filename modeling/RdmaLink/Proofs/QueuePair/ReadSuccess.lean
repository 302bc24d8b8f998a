import RdmaLink.Proofs.QueuePair.Framing

/-!
# When a read succeeds

A read succeeds when its data has arrived: a successful answer under its number and of its length,
with a payload of that many bytes that has just been stored in its sink.  There is one other way.
An acknowledgement completes whatever send has its number, so one with the status of a success
completes a read although no data has come.

    c is pushed by an event and reports a read as a success ↔
      the event is the last byte of such an answer, or of such an acknowledgement
                                                      (History.read_succeeds_iff)
-/

namespace RdmaLink

namespace History

/-- The completions that an event pushes into the queue. -/
def completes (history : History) (event : QueuePairEvent) : List Completion :=
  (history.step event).log.drop history.log.length

/-- The data of an answered read has just been stored in its sink. -/
structure DataStored (s t : Station) (arrival : Arrival) (send : PendingSend) : Prop where
  /-- The read waited under this number when the header was complete. -/
  awaited : arrival.disposal = some .answer
  opcode : arrival.header.opcode = Opcode.readResponse
  status : arrival.header.status = 0
  length : arrival.header.length = send.length
  payload : arrival.payload.length = send.length.toNat
  stored : ∃ region offset, send.sink = some (region, offset) ∧
    s.memory.write region offset arrival.payload = .ok t.memory

/-! ## Pushed completions -/

/-- What an event pushes into the queue has the property of all that it pushes. -/
theorem completes_of_pushes {P : Completion → Prop} (h : History) (event : QueuePairEvent)
    (pushes : Station.Pushes P h.station (h.station.after event))
    (untaken : takes h.station event = []) : ∀ c ∈ h.completes event, P c := by
  obtain ⟨kept, hlist, hp⟩ := pushes.toList
  have hlog : (h.step event).log = h.log ++ kept := by
    simp only [log, step, untaken, List.append_nil, hlist, List.append_assoc]
  intro c hc
  rw [completes, hlog, List.drop_left] at hc
  exact hp c hc

/-- A queue with room takes the completion that an event pushes. -/
theorem completes_of_push (h : History) (event : QueuePairEvent) {completion : Completion}
    (pushed : (h.station.after event).completions = h.station.completions.push completion)
    (room : h.station.completions.size < h.station.completions.depth)
    (untaken : takes h.station event = []) : h.completes event = [completion] := by
  have hlog : (h.step event).log = h.log ++ [completion] := by
    simp only [log, step, untaken, List.append_nil, pushed,
      CompletionQueue.toList_push_of_room room, List.append_assoc]
  rw [completes, hlog, List.drop_left]

theorem completes_poll (h : History) (most : Nat) : h.completes (.poll most) = [] := by
  have hlog : (h.step (.poll most)).log = h.log := by
    simp only [log, step, takes, Station.after, List.append_assoc, CompletionQueue.toList_poll]
  rw [completes, hlog, List.drop_length]

/-- An event that takes no byte reports a success only of a consumed receive. -/
theorem completes_of_other (h : History) (event : QueuePairEvent)
    (other : ∀ registrations byte, event ≠ .receive registrations byte) :
    ∀ c ∈ h.completes event, c.status = .success → c.operation = .receiveWithImmediate := by
  have advanced (result : Except DeviceError QueuePair) :
      (h.station.advance result).completions = h.station.completions := by
    cases result <;> rfl
  cases event with
  | toInit access => exact completes_of_pushes h _ (Station.Pushes.of_eq (advanced _)) rfl
  | attach stream => exact completes_of_pushes h _ (Station.Pushes.of_eq (advanced _)) rfl
  | link peer ip conditions => exact completes_of_pushes h _ (Station.Pushes.of_eq rfl) rfl
  | start => exact completes_of_pushes h _ (Station.Pushes.of_eq (advanced _)) rfl
  | postSend registrations send =>
    exact completes_of_pushes h _ ((Station.pushes_postSend registrations h.station send).imp
      fun c hc hs => absurd hs hc) rfl
  | postReceive request =>
    exact completes_of_pushes h _ (Station.pushes_postReceive h.station request) rfl
  | receive registrations byte => exact absurd rfl (other registrations byte)
  | endOfStream =>
    refine completes_of_pushes h _ ?_ rfl
    simp only [Station.after, Station.endOfStream]
    split
    · exact Station.Pushes.refl _
    · exact (Station.pushes_breakOff _).imp fun c hc hs => absurd hs hc
  | poll most =>
    rw [completes_poll]
    intro c hc
    cases hc
  | remember memory => exact completes_of_pushes h _ (Station.Pushes.of_eq rfl) rfl

/-- Where a byte completes no frame, nothing is pushed. -/
theorem completes_of_no_arrival (h : History) {registrations : Registrations} {byte : UInt8}
    (none : h.station.arrival? registrations byte = none) :
    h.completes (.receive registrations byte) = [] := by
  have pushes := completes_of_pushes (P := fun _ => False) h (.receive registrations byte)
    (Station.Pushes.of_eq (by simp only [Station.after, Station.feed_of_no_arrival none]; rfl)) rfl
  exact List.eq_nil_iff_forall_not_mem.mpr fun c hc => pushes c hc

/-! ## Reads -/

/-- While a send waits there is room for its completion. -/
theorem Kept.room {h : History} (kept : Kept h) {sequence : Nat} {send : PendingSend}
    (hs : h.station.queuePair.work.send? sequence = some send) :
    h.station.completions.size < h.station.completions.depth := by
  obtain ⟨a, b, hab, -⟩ := kept.balanced.numbered.split hs
  have hroom := kept.balanced.room
  unfold Station.load at hroom
  rw [hab, List.length_append, List.length_cons] at hroom
  omega

/-- A frame that completes a read as a success is an answer with data that was stored, or an
acknowledgement. -/
theorem read_success_of_arrival {h : History} (tracked : Tracked h)
    {registrations : Registrations} {byte : UInt8} {arrival : Arrival} {c : Completion}
    (harr : h.station.arrival? registrations byte = some arrival)
    (hc : c ∈ h.completes (.receive registrations byte)) (read : c.operation = .read)
    (success : c.status = .success) :
    ∃ send, h.station.queuePair.work.send? arrival.header.sequence.toNat = some send ∧
      send.operation = .read ∧ c = h.station.report send.request .read .success send.length none ∧
      arrival.header.status = 0 ∧
      (arrival.header.opcode = Opcode.acknowledgement ∨
        DataStored h.station (h.step (.receive registrations byte)).station arrival send) := by
  have pushes : Station.Pushes (Station.Earned registrations
      (h.station.withIntake (some (.header []))) arrival) h.station
      (h.station.after (.receive registrations byte)) := by
    simp only [Station.after, Station.feed_of_arrival harr]
    exact (Station.Pushes.of_eq rfl).trans (Station.pushes_handle registrations _)
  obtain ⟨-, sound⟩ := tracked.arrival harr
  rcases completes_of_pushes h _ pushes rfl c hc success with hop |
    ⟨send, hs, rfl, hstatus, hway⟩
  · rw [read] at hop; cases hop
  · have hread : send.operation = .read := read
    refine ⟨send, hs, hread, by rw [← hread]; rfl, Status.ofCode_eq_success.mp hstatus, ?_⟩
    rcases hway with hack | ⟨region, offset, memory, answer, hsink, hwrite, hmem⟩
    · exact Or.inl hack
    · have hsuits := sound.suits .answer answer
      have hlen := tracked.answer_length harr answer hs
      refine Or.inr ⟨answer, hsuits.1, Status.ofCode_eq_success.mp hstatus, hlen, ?_,
        region, offset, hsink, ?_⟩
      · rw [sound.length, hsuits.payloadLength, hlen]
      · simp only [step, Station.after, Station.feed_of_arrival harr, hmem]
        exact hwrite

/-- An acknowledgement of success completes the send under its number. -/
theorem handle_acknowledgement (registrations : Registrations) (s : Station) {arrival : Arrival}
    {send : PendingSend} (sound : arrival.Sound)
    (hs : s.queuePair.work.send? arrival.header.sequence.toNat = some send)
    (status : arrival.header.status = 0)
    (ack : arrival.header.opcode = Opcode.acknowledgement) :
    (s.handle registrations arrival).completions = s.completions.push
      (s.report send.request send.operation .success send.length none) := by
  have bare : arrival.disposal = none := by
    cases hd : arrival.disposal with
    | none => rfl
    | some disposal =>
      have hp := (sound.suits disposal hd).hasPayload
      unfold Header.HasPayload at hp
      rw [ack] at hp
      rcases hp with hp | hp | ⟨hp, -⟩ <;> cases hp
  have hstatus := Status.ofCode_eq_success.mpr status
  have h1 : ¬ Opcode.acknowledgement = Opcode.readRequest := by decide
  have h2 : ¬ Opcode.acknowledgement = Opcode.readResponse := by decide
  simp only [Station.handle, bare, Station.takeBare, ack, if_neg h1, if_neg h2, if_true,
    Station.acknowledged, hs, hstatus]
  rfl

/-- An answer with data that can be stored completes its read. -/
theorem handle_answer (registrations : Registrations) (s : Station) {arrival : Arrival}
    {send : PendingSend} {region : RegionId} {offset : Nat} {memory : Memory}
    (hs : s.queuePair.work.send? arrival.header.sequence.toNat = some send)
    (status : arrival.header.status = 0) (answer : arrival.disposal = some .answer)
    (hsink : send.sink = some (region, offset))
    (hwrite : s.memory.write region offset arrival.payload = .ok memory) :
    (s.handle registrations arrival).completions = s.completions.push
      (s.report send.request send.operation .success send.length none) := by
  have hstatus := Status.ofCode_eq_success.mpr status
  have hfreed : (s.withWork (s.queuePair.work.withoutSend
      arrival.header.sequence.toNat)).memory.write region offset arrival.payload =
        .ok memory := hwrite
  simp only [Station.handle, answer, Station.takePayload, Station.readAnswered, hs, hstatus, hsink,
    hfreed]
  rfl

/-- A read is reported as a success exactly by the last byte of an answer whose data has just been
stored in its sink, or of an acknowledgement of success with its number. -/
theorem read_succeeds_iff (address : QueuePairAddress) (linkTimeout : Milliseconds) (depth : Nat)
    (memory : Memory) (events : List QueuePairEvent) (event : QueuePairEvent) (c : Completion) :
    let h := (fresh address linkTimeout depth memory).run events
    (c ∈ h.completes event ∧ c.operation = .read ∧ c.status = .success) ↔
      ∃ registrations byte arrival send, event = .receive registrations byte ∧
        h.station.arrival? registrations byte = some arrival ∧
        (∃ frames : List Frame, (∀ f ∈ frames, f.Whole) ∧
          h.received ++ [byte] = frames.flatMap Frame.toBytes ++ arrival.frame.toBytes) ∧
        h.station.queuePair.work.send? arrival.header.sequence.toNat = some send ∧
        send.operation = .read ∧
        c = h.station.report send.request .read .success send.length none ∧
        arrival.header.status = 0 ∧
        (arrival.header.opcode = Opcode.acknowledgement ∨
          DataStored h.station (h.step event).station arrival send) := by
  intro h
  obtain ⟨kept, tracked⟩ := tracked_run address linkTimeout depth memory events
  constructor
  · rintro ⟨hc, read, success⟩
    by_cases other : ∀ registrations byte, event ≠ .receive registrations byte
    · rw [completes_of_other h event other c hc success] at read
      cases read
    · simp only [not_forall, ne_eq, not_not] at other
      obtain ⟨registrations, byte, rfl⟩ := other
      cases harr : h.station.arrival? registrations byte with
      | none => rw [completes_of_no_arrival h harr] at hc; cases hc
      | some arrival =>
        obtain ⟨send, hs, hread, heq, hstatus, hway⟩ :=
          read_success_of_arrival tracked harr hc read success
        exact ⟨registrations, byte, arrival, send, rfl, harr, (tracked.arrival harr).1, hs, hread,
          heq, hstatus, hway⟩
  · rintro ⟨registrations, byte, arrival, send, rfl, harr, -, hs, hread, rfl, hstatus, hway⟩
    have pushed : (h.station.after (.receive registrations byte)).completions =
        h.station.completions.push
          (h.station.report send.request .read .success send.length none) := by
      simp only [Station.after, Station.feed_of_arrival harr, ← hread]
      rcases hway with hack | hdata
      · exact handle_acknowledgement registrations
          (h.station.withIntake (some (.header []))) (tracked.arrival harr).2 hs hstatus hack
      · obtain ⟨region, offset, hsink, hwrite⟩ := hdata.stored
        exact handle_answer registrations (h.station.withIntake (some (.header []))) hs hstatus
          hdata.awaited hsink hwrite
    refine ⟨?_, rfl, rfl⟩
    rw [completes_of_push h _ pushed (kept.room hs) rfl]
    exact List.mem_singleton.mpr rfl

/-- A queue pair whose peer says nothing but that a write was done. -/
def acknowledgedRead : List QueuePairEvent :=
  let region : Registration := ⟨1, 3, 4096, 4, Access.all, ⟨0⟩⟩
  let peer : QueuePairAddress := ⟨2, 0, 0, ⟨0⟩⟩
  let conditions : LinkConditions := ⟨fun _ => .error .timedOut, none, 0⟩
  [.toInit Access.all, .attach (Stream.ofBytes (Header.hello 2 1).toBytes false),
    .link peer (.v6 peer.gid.toIpv6) conditions, .start,
    .postSend ⟨[region], 1⟩ ⟨7, .read, 4096, 1, 4, 8192, 5⟩] ++
  (Header.acknowledgement 1 0).toBytes.map (.receive ⟨[region], 1⟩)

theorem acknowledged_read_succeeds :
    let sink : Region := ⟨"sink", 4096, 4, fun _ => 0, by decide⟩
    let h := (fresh ⟨1, 0, 0, ⟨0⟩⟩ ⟨1000⟩ 4 ⟨[sink]⟩).run acknowledgedRead
    h.log = [⟨7, .read, .success, 4, none, 1⟩] ∧
      h.received = (Header.acknowledgement 1 0).toBytes ∧
      h.station.memory.read ⟨0⟩ 0 4 = .ok [0, 0, 0, 0] := by
  decide +kernel

end History

end RdmaLink
