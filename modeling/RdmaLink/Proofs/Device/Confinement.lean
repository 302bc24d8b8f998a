import Mathlib.Data.List.Induction
import RdmaLink.Proofs.Device.Site

/-!
# Remote writes are confined

Whatever a peer sends, it changes a byte of a region in two ways only.  The byte lies in the range
of a write that has arrived in full, and when the header of the write was complete, a live
registration of that region had its key, granted peers to write and contained the whole range; or
the byte lies in the sink of a posted read that the peer has just answered under its number and in
its length.

    a byte changes while the process stores nothing →
      RemoteWrite or ReadData, for the last byte of some frame      (Site.remote_writes_confined)

So a write that no registration admits changes nothing, and neither does a frame that the end of
the stream cuts short.  All ranges are ranges of natural numbers: none wraps around.
-/

namespace RdmaLink

namespace Site

/-! ## Frames on the stream -/

/-- The next byte is taken off the stream as the last of a frame in full, behind frames in
full. -/
structure Completes (site : Site) (byte : UInt8) (frame : Frame) : Prop where
  whole : frame.Whole
  taken : (site.step (.receive byte)).received = site.received ++ [byte]
  behind : ∃ frames : List Frame, (∀ f ∈ frames, f.Whole) ∧
    site.received ++ [byte] = frames.flatMap Frame.toBytes ++ frame.toBytes

/-- The header of a frame was complete when `seen` had happened and one byte more had come; what
has been received since is the payload. -/
def HeaderRead (start : Site) (events : List SiteEvent) (payload : Bytes)
    (seen : List SiteEvent) : Prop :=
  ∃ first rest, events = seen ++ .receive first :: rest ∧
    (start.run events).received = (start.run seen).received ++ [first] ++ payload

/-- The next byte completes a write to a range that contains a byte of a region, and when the
header of the write was complete, a registration of the region admitted it. -/
structure RemoteWrite (start : Site) (events : List SiteEvent) (byte : UInt8) (id : RegionId)
    (i : Nat) (frame : Frame) (seen : List SiteEvent) (registration : Registration)
    (region : Region) : Prop where
  completes : (start.run events).Completes byte frame
  opcode : frame.header.opcode = Opcode.write ∨ frame.header.opcode = Opcode.writeWithImmediate
  header : HeaderRead start (events ++ [.receive byte]) frame.payload seen
  admits : (start.run seen).table.Admits frame.header registration
  registered : registration.region = id
  known : (start.run seen).memory.region? id = some region
  base : registration.address = region.base
  size : registration.length = region.size
  above : frame.header.address.toNat ≤ region.base.toNat + i
  below : region.base.toNat + i < frame.header.address.toNat + frame.header.length.toNat

/-- The next byte completes the answer to a posted read whose sink contains a byte of a region. -/
structure ReadData (site : Site) (byte : UInt8) (id : RegionId) (i : Nat) (frame : Frame)
    (send : PendingSend) (offset : Nat) : Prop where
  completes : site.Completes byte frame
  opcode : frame.header.opcode = Opcode.readResponse
  status : frame.header.status = Status.success.code
  posted : site.history.station.queuePair.work.send? frame.header.sequence.toNat = some send
  read : send.operation = .read
  length : frame.header.length = send.length
  sink : send.sink = some (id, offset)
  above : offset ≤ i
  below : i < offset + send.length.toNat

/-! ## What is known of a payload in arrival -/

/-- What becomes of a payload in arrival is what the registrations said when its header was
complete. -/
def Settled (start : Site) (events : List SiteEvent) : Prop :=
  ∀ header disposal reversed missing,
    (start.run events).history.station.queuePair.intake =
      some (.payload header disposal reversed missing) →
    ∃ seen, HeaderRead start events reversed.reverse seen ∧
      disposal.Settled (start.run seen).table header

/-- A payload that is to be stored is behind a header that was allowed its place when it was
complete. -/
def Announced (start : Site) (events : List SiteEvent) : Prop :=
  ∀ header region offset reversed missing,
    (start.run events).history.station.queuePair.intake =
      some (.payload header (.store region offset) reversed missing) →
    ∃ seen, HeaderRead start events reversed.reverse seen ∧
      (start.run seen).table.target? header.key header.address header.length
        ⟨false, true, false⟩ = some (region, offset)

theorem HeaderRead.concat {start : Site} {events : List SiteEvent} {payload : Bytes}
    {seen : List SiteEvent} (h : HeaderRead start events payload seen) (event : SiteEvent)
    (more : Bytes) (hr : (start.run (events ++ [event])).received =
      (start.run events).received ++ more) :
    HeaderRead start (events ++ [event]) (payload ++ more) seen := by
  obtain ⟨first, rest, he, hp⟩ := h
  refine ⟨first, rest ++ [event], by rw [he]; simp, ?_⟩
  rw [hr, hp, List.append_assoc]

theorem receive_meaning {site : Site} {event : SiteEvent} {registrations : Registrations}
    {byte : UInt8} (h : site.meaning event = .receive registrations byte) :
    event = .receive byte ∧ registrations = site.table := by
  cases event with
  | receive b => cases h; exact ⟨rfl, rfl⟩
  | _ => cases h

/-- A byte that completes no frame keeps what is known of the payload, or completes a header. -/
theorem settled_receive {start : Site} {events : List SiteEvent}
    (settled : Settled start events) (byte : UInt8) :
    Settled start (events ++ [.receive byte]) := by
  intro header disposal reversed missing hnow
  rw [run_concat] at hnow
  generalize hsite : start.run events = site at *
  have hnow : (site.history.station.feed site.table byte).queuePair.intake =
      some (.payload header disposal reversed missing) := hnow
  cases harr : site.history.station.arrival? site.table byte with
  | some arrival =>
    rw [Station.feed_of_arrival harr] at hnow
    rcases Station.intakeKept_handle site.table
      (site.history.station.withIntake (some (.header []))) arrival with hk | hk
    · cases hk.symm.trans hnow
    · cases hk.symm.trans hnow
  | none =>
    rw [Station.feed_of_no_arrival harr] at hnow
    have hnow : site.history.station.extended site.table byte =
      some (.payload header disposal reversed missing) := hnow
    unfold Station.extended at hnow
    split at hnow
    · cases hnow
    · next got hi =>
      have hread : (start.run (events ++ [.receive byte])).received =
          site.received ++ [byte] := by
        rw [run_concat, hsite]; exact History.received_of_receiving hi
      split at hnow
      · cases hnow
      · next front hfront =>
        split at hnow
        · next disposal hdis =>
          cases hnow
          exact ⟨events, ⟨byte, [], rfl, by rw [hread, hsite]; simp⟩,
            hsite ▸ Station.settled_of_disposal hdis⟩
        · cases hnow
    · next front disposal' reversed' missing' hi =>
      have hread : (start.run (events ++ [.receive byte])).received =
          (start.run events).received ++ [byte] := by
        rw [run_concat, hsite]; exact History.received_of_receiving hi
      cases hnow
      obtain ⟨seen, hheader, htable⟩ := settled header disposal reversed' missing'
        (by rw [hsite]; exact hi)
      refine ⟨seen, ?_, htable⟩
      rw [List.reverse_cons]
      exact hheader.concat (.receive byte) [byte] hread

theorem settled_step {start : Site} {events : List SiteEvent}
    (settled : Settled start events) (event : SiteEvent) :
    Settled start (events ++ [event]) := by
  by_cases hreceive : ∃ byte, event = .receive byte
  · obtain ⟨byte, rfl⟩ := hreceive
    exact settled_receive settled byte
  · have other : ∀ registrations byte,
        (start.run events).meaning event ≠ .receive registrations byte := by
      intro registrations byte h
      exact hreceive ⟨byte, (receive_meaning h).1⟩
    have hread : (start.run (events ++ [event])).received =
        (start.run events).received ++ [] := by
      rw [run_concat, List.append_nil]
      rcases received_step (start.run events) event with ⟨byte, he, -⟩ | h
      · exact absurd ⟨byte, he⟩ hreceive
      · exact h
    intro header disposal reversed missing hnow
    rw [run_concat] at hnow
    rcases History.intake_after (start.run events).history.station
      ((start.run events).meaning event) other with (hi | hi) | ⟨-, -, hi⟩
    · obtain ⟨seen, hheader, htable⟩ :=
        settled header disposal reversed missing (hi.symm.trans hnow)
      refine ⟨seen, ?_, htable⟩
      have := hheader.concat event [] hread
      rwa [List.append_nil] at this
    · cases hi.symm.trans hnow
    · cases hi.symm.trans hnow

theorem settled_run {start : Site} (idle : start.history.station.queuePair.intake = none)
    (events : List SiteEvent) : Settled start events := by
  induction events using List.reverseRecOn with
  | nil =>
    intro header disposal reversed missing hi
    cases idle.symm.trans hi
  | append_singleton events event ih => exact settled_step ih event

theorem announced_run {start : Site} (idle : start.history.station.queuePair.intake = none)
    (events : List SiteEvent) : Announced start events :=
  fun header region offset => settled_run idle events header (.store region offset)

/-- What becomes of a frame in full is what the registrations said when its header was
complete. -/
theorem Settled.arrival {start : Site} {events : List SiteEvent} (settled : Settled start events)
    {byte : UInt8} {arrival : Arrival} {disposal : Disposal}
    (harr : (start.run events).history.station.arrival? (start.run events).table byte =
      some arrival) (hd : arrival.disposal = some disposal) :
    ∃ seen, HeaderRead start (events ++ [.receive byte]) arrival.payload seen ∧
      disposal.Settled (start.run seen).table arrival.header := by
  have receiving := Station.receiving_of_arrival harr
  have hread : (start.run (events ++ [.receive byte])).received =
      (start.run events).received ++ [byte] := by
    obtain ⟨intake, hi⟩ := Option.ne_none_iff_exists'.mp receiving
    rw [run_concat]
    exact History.received_of_receiving hi
  unfold Station.arrival? at harr
  split at harr
  · cases harr
  · split at harr
    · cases harr
    · simp only at harr
      split at harr
      · cases harr
      · cases harr
        exact ⟨events, ⟨byte, [], rfl, by rw [hread, List.append_nil]⟩,
          Station.settled_of_disposal hd⟩
  · next header disposal' reversed missing hi =>
    split at harr
    · cases harr
      cases hd
      obtain ⟨seen, hheader, htable⟩ := settled header disposal reversed missing hi
      refine ⟨seen, ?_, htable⟩
      rw [List.reverse_cons]
      exact hheader.concat (.receive byte) [byte] hread
    · cases harr

/-! ## What changes a byte -/

theorem byte?_some_of_keeps {old new : Memory} (keeps : Memory.Keeps old new) {id : RegionId}
    {i : Nat} {b : UInt8} (h : old.byte? id i = some b) : ∃ b', new.byte? id i = some b' := by
  obtain ⟨region, hr, -⟩ := Option.map_eq_some_iff.mp h
  obtain ⟨region', hr', -⟩ := keeps id region hr
  exact ⟨region'.bytes i, by rw [Memory.byte?, hr']; rfl⟩

/-- Reserving a region changes no byte of those that are there. -/
theorem byte?_add {memory : Memory} {region : Region} {id : RegionId} {i : Nat} {b : UInt8}
    (h : memory.byte? id i = some b) : (memory.add region).2.byte? id i = some b := by
  obtain ⟨held, hr, hb⟩ := Option.map_eq_some_iff.mp h
  have hlt := (List.getElem?_eq_some_iff.mp hr).1
  unfold Memory.byte? Memory.region? Memory.add
  rw [List.getElem?_append_left hlt]
  exact h

/-- A frame that a byte completes is one in full, behind frames in full. -/
theorem completes_of_arrival {site : Site} (sound : site.Sound) {byte : UInt8} {arrival : Arrival}
    (harr : site.history.station.arrival? site.table byte = some arrival) :
    site.Completes byte arrival.frame := by
  obtain ⟨hframes, harrival⟩ := sound.tracked.arrival harr
  refine ⟨harrival.whole, ?_, hframes⟩
  cases hi : site.history.station.queuePair.intake with
  | none => exact absurd hi (Station.receiving_of_arrival harr)
  | some intake => exact History.received_of_receiving hi

/-- A write that changes a byte was admitted by a registration of its region. -/
theorem remoteWrite_of_store {start : Site} {events : List SiteEvent}
    (sound : ∀ events, (start.run events).Sound) (announced : Announced start events)
    {byte : UInt8} {arrival : Arrival} {id : RegionId} {offset i : Nat}
    (harr : (start.run events).history.station.arrival? (start.run events).table byte =
      some arrival)
    (hdisposal : arrival.disposal = some (.store id offset)) (above : offset ≤ i)
    (below : i < offset + arrival.payload.length) :
    ∃ seen registration region,
      RemoteWrite start events byte id i arrival.frame seen registration region := by
  have hcompletes := completes_of_arrival (sound events) harr
  obtain ⟨-, harrival⟩ := (sound events).tracked.arrival harr
  have nonempty : arrival.payload ≠ [] := by
    intro h
    rw [h, List.length_nil] at below
    omega
  obtain ⟨disposal, reversed, missing, hi, hd, hpayload⟩ :=
    Station.intake_of_arrival harr nonempty
  cases hd.symm.trans hdisposal
  obtain ⟨seen, hheader, htarget⟩ := announced _ _ _ _ _ hi
  obtain ⟨registration, hadmits, hregion, hoffset⟩ := Registrations.target?_eq_some htarget
  obtain ⟨region, hknown, hbase, hsize⟩ := (sound seen).describes registration hadmits.live
  have hsuits := harrival.suits _ hdisposal
  have hlength : arrival.payload.length = arrival.header.length.toNat :=
    harrival.length.trans hsuits.payloadLength
  have hread : (start.run (events ++ [.receive byte])).received =
      (start.run events).received ++ [byte] := by
    rw [run_concat]; exact hcompletes.taken
  have hheader := hheader.concat (.receive byte) [byte] hread
  rw [← List.reverse_cons, ← hpayload] at hheader
  rw [hregion] at hknown
  refine ⟨seen, registration, region, hcompletes, hsuits, hheader, hadmits, hregion, hknown,
    hbase, hsize, ?_, ?_⟩
  · show arrival.header.address.toNat ≤ _
    rw [← hbase, ← hoffset]
    omega
  · show _ < arrival.header.address.toNat + arrival.header.length.toNat
    rw [← hbase, ← hoffset]
    omega

/-- The answer to a read that changes a byte goes into the sink of the read. -/
theorem readData_of_answer {site : Site} (sound : site.Sound) {byte : UInt8} {arrival : Arrival}
    {id : RegionId} {offset i : Nat}
    (harr : site.history.station.arrival? site.table byte = some arrival)
    (answer : arrival.disposal = some .answer)
    (hplace : site.history.station.place? arrival = some (id, offset)) (above : offset ≤ i)
    (below : i < offset + arrival.payload.length) :
    ∃ send, ReadData site byte id i arrival.frame send offset := by
  obtain ⟨-, harrival⟩ := sound.tracked.arrival harr
  have hsuits := harrival.suits _ answer
  simp only [Station.place?, answer] at hplace
  obtain ⟨send, hs, hsink⟩ := Option.bind_eq_some_iff.mp hplace
  have hlen := sound.tracked.answer_length harr answer hs
  obtain ⟨a, b, hab, -⟩ := sound.kept.balanced.numbered.split hs
  have hread := sound.kept.balanced.numbered.sinks (arrival.header.sequence.toNat, send)
    (by rw [hab]; simp) (by rw [hsink]; rfl)
  refine ⟨send, completes_of_arrival sound harr, hsuits.1, Status.ofCode_eq_success.mp hsuits.2, hs,
    hread, hlen, hsink, above, ?_⟩
  rw [harrival.length, hsuits.payloadLength, hlen] at below
  exact below

/-- One event changes a byte only as the peer may. -/
theorem changed_step {start : Site} {events : List SiteEvent}
    (sound : ∀ events, (start.run events).Sound) (announced : Announced start events)
    {event : SiteEvent} (own : event.isStore = false) {id : RegionId} {i : Nat} {old new : UInt8}
    (before : (start.run events).memory.byte? id i = some old)
    (after : ((start.run events).step event).memory.byte? id i = some new) (differ : new ≠ old) :
    ∃ byte, event = .receive byte ∧
      ((∃ frame seen registration region,
        RemoteWrite start events byte id i frame seen registration region) ∨
      ∃ frame send offset, ReadData (start.run events) byte id i frame send offset) := by
  rcases memory_step (sound events).tracked event with ⟨region, -, h⟩ | ⟨_, _, _, rfl, -⟩ |
    ⟨byte, arrival, rfl, harr, h⟩ | h
  · rw [h, byte?_add before] at after
    exact absurd (Option.some.inj after).symm differ
  · cases own
  · refine ⟨byte, rfl, ?_⟩
    have changed : ((start.run events).memory.stored
        ((start.run events).history.station.place? arrival) arrival.payload).byte? id i ≠
          (start.run events).memory.byte? id i := by
      rw [← h, after, before]
      exact fun heq => differ (Option.some.inj heq)
    obtain ⟨offset, hplace, above, below, -⟩ := Memory.byte?_stored changed
    cases hd : arrival.disposal with
    | none => simp only [Station.place?, hd] at hplace; cases hplace
    | some disposal =>
      cases disposal with
      | store region offset' =>
        have hp := hplace
        simp only [Station.place?, hd] at hp
        cases hp
        obtain ⟨seen, registration, region, hw⟩ :=
          remoteWrite_of_store sound announced harr hd above below
        exact Or.inl ⟨_, seen, registration, region, hw⟩
      | answer =>
        obtain ⟨send, hr⟩ := readData_of_answer (sound events) harr hd hplace above below
        exact Or.inr ⟨_, send, offset, hr⟩
      | refuse => simp only [Station.place?, hd] at hplace; cases hplace
      | unwanted => simp only [Station.place?, hd] at hplace; cases hplace
  · rw [h, before] at after
    exact absurd (Option.some.inj after).symm differ

theorem byte?_run {start : Site} (sound : ∀ events, (start.run events).Sound)
    (events later : List SiteEvent) {id : RegionId} {i : Nat} {old : UInt8}
    (before : (start.run events).memory.byte? id i = some old) :
    ∃ new, (start.run (events ++ later)).memory.byte? id i = some new :=
  byte?_some_of_keeps (keeps_run sound events later) before

/-- A run changes a byte only as the peer may: one of its events does. -/
theorem changed_run {start : Site} (sound : ∀ events, (start.run events).Sound)
    (announced : ∀ events, Announced start events) (events later : List SiteEvent)
    (own : ∀ event ∈ later, event.isStore = false) {id : RegionId} {i : Nat} {old new : UInt8}
    (before : (start.run events).memory.byte? id i = some old)
    (after : (start.run (events ++ later)).memory.byte? id i = some new) (differ : new ≠ old) :
    ∃ mid byte rest, later = mid ++ .receive byte :: rest ∧
      ((∃ frame seen registration region,
        RemoteWrite start (events ++ mid) byte id i frame seen registration region) ∨
      ∃ frame send offset,
        ReadData (start.run (events ++ mid)) byte id i frame send offset) := by
  induction later using List.reverseRecOn generalizing new with
  | nil =>
    rw [List.append_nil, before] at after
    exact absurd (Option.some.inj after).symm differ
  | append_singleton later event ih =>
    have own' : ∀ event ∈ later, event.isStore = false :=
      fun e he => own e (List.mem_append_left _ he)
    obtain ⟨middle, hmiddle⟩ := byte?_run sound events later before
    by_cases hsame : middle = old
    · -- the last event changed it
      rw [← List.append_assoc, run_concat] at after
      obtain ⟨byte, rfl, hcause⟩ := changed_step sound (announced (events ++ later))
        (own event (by simp)) hmiddle after (by rw [hsame]; exact differ)
      exact ⟨later, byte, [], by simp, hcause⟩
    · obtain ⟨mid, byte, rest, hlater, hcause⟩ := ih own' hmiddle hsame
      exact ⟨mid, byte, rest ++ [event], by rw [hlater]; simp, hcause⟩

/-! ## Frames that change nothing -/

/-- Between two frames in full the next frame that a run completes is the one that it receives. -/
theorem Completes.of_boundary {site site' : Site} {byte : UInt8} {frame frame' : Frame}
    (completes : site'.Completes byte frame') (sound : site.Sound)
    (boundary : site.history.station.queuePair.intake = some (.header []))
    (whole : frame.Whole) {part : Bytes} (hpart : part <+: frame.toBytes)
    (hr : site'.received ++ [byte] = site.received ++ part) (nonempty : part ≠ []) :
    part = frame.toBytes ∧ frame' = frame := by
  obtain ⟨whole', -, frames', hframes', hr'⟩ := completes
  obtain ⟨frames, hframes, hbytes⟩ := sound.tracked.received _ boundary
  have hbytes : site.received = frames.flatMap Frame.toBytes := by
    rw [received, hbytes]; simp [Intake.bytes]
  have hcut : (frames' ++ [frame']).flatMap Frame.toBytes =
      frames.flatMap Frame.toBytes ++ part := by
    rw [← hbytes, ← hr, hr']
    simp
  have hall : ∀ f ∈ frames' ++ [frame'], f.Whole := by
    intro f hf
    rcases List.mem_append.mp hf with hf | hf
    · exact hframes' f hf
    · rw [List.mem_singleton.mp hf]; exact whole'
  rcases Frame.eq_of_flatMap whole hpart hall hframes hcut with ⟨h, -⟩ | ⟨h, heq⟩
  · exact absurd h nonempty
  · exact ⟨h, (List.cons.inj (List.append_inj_right' heq rfl)).1⟩

/-- Between two frames in full a run that completes a frame with one of its bytes has received all
of that frame by then. -/
theorem received_of_completes {start : Site} (sound : ∀ events, (start.run events).Sound)
    {events mid rest : List SiteEvent} {byte : UInt8} {frame frame' : Frame}
    (completes : (start.run (events ++ mid)).Completes byte frame')
    (boundary : (start.run events).history.station.queuePair.intake = some (.header []))
    (whole : frame.Whole) {part : Bytes} (hpart : part <+: frame.toBytes)
    (hr : (start.run (events ++ (mid ++ .receive byte :: rest))).received =
      (start.run events).received ++ part) :
    part = frame.toBytes ∧ frame' = frame ∧
      (start.run (events ++ mid ++ [.receive byte])).received =
        (start.run events).received ++ frame.toBytes := by
  have split : events ++ (mid ++ .receive byte :: rest) =
      (events ++ mid ++ [.receive byte]) ++ rest := by simp
  obtain ⟨m, hm⟩ := received_run (start.run events) mid
  obtain ⟨more, hmore⟩ := received_run (start.run (events ++ mid ++ [.receive byte])) rest
  rw [← run_append] at hm hmore
  have htaken : (start.run (events ++ mid ++ [.receive byte])).received =
      (start.run events).received ++ (m ++ [byte]) := by
    rw [run_concat, completes.taken, hm, List.append_assoc]
  rw [split, hmore, htaken, List.append_assoc] at hr
  have hbegins : m ++ [byte] <+: part := ⟨more, List.append_cancel_left hr⟩
  have hat : (start.run (events ++ mid)).received ++ [byte] =
      (start.run events).received ++ (m ++ [byte]) := by
    rw [hm, List.append_assoc]
  obtain ⟨hall, hframe⟩ := completes.of_boundary (sound events) boundary whole
    (hbegins.trans hpart) hat (by simp)
  refine ⟨hpart.eq_of_length_le ?_, hframe, by rw [htaken, hall]⟩
  rw [← hall]
  exact hbegins.length_le

/-- A header that was complete after a boundary was received after it. -/
theorem HeaderRead.after {start : Site} {events later seen : List SiteEvent} {frame : Frame}
    (h : HeaderRead start (events ++ later) frame.payload seen)
    (hr : (start.run (events ++ later)).received =
      (start.run events).received ++ frame.toBytes) :
    ∃ mid first rest, seen = events ++ mid ∧ later = mid ++ .receive first :: rest ∧
      (start.run seen).received ++ [first] =
        (start.run events).received ++ frame.header.toBytes := by
  obtain ⟨first, rest, he, hp⟩ := h
  have hseen : (start.run seen).received ++ [first] =
      (start.run events).received ++ frame.header.toBytes := by
    rw [hr, Frame.toBytes, ← List.append_assoc] at hp
    exact (List.append_cancel_right hp).symm
  rcases List.append_eq_append_iff.mp he with ⟨mid, hmid, hlater⟩ | ⟨mid, hmid, hlater⟩
  · exact ⟨mid, first, rest, hmid, hlater, hseen⟩
  · -- otherwise the boundary has received more than there was when the header was complete
    obtain ⟨more, hmore⟩ := received_run (start.run seen) mid
    rw [← run_append, ← hmid] at hmore
    have := congrArg List.length hseen
    rw [hmore] at this
    simp only [List.length_append, List.length_singleton, Header.length_toBytes,
      Header.size] at this
    omega

/-- While the process stores nothing, a byte of a region changes only as a peer may change it.  A
write that no registration admits when its header is complete changes nothing, and neither does a
frame that the end of the stream cuts short. -/
theorem remote_writes_confined (profile : DeviceProfile) (address : QueuePairAddress)
    (linkTimeout : Milliseconds) (depth : Nat) (events later : List SiteEvent)
    (own : ∀ event ∈ later, event.isStore = false) (id : RegionId) (i : Nat) (old : UInt8)
    (before : ((fresh profile address linkTimeout depth).run events).memory.byte? id i =
      some old) :
    let start := fresh profile address linkTimeout depth
    (∀ new, (start.run (events ++ later)).memory.byte? id i = some new → new ≠ old →
      ∃ mid byte rest, later = mid ++ .receive byte :: rest ∧
        ((∃ frame seen registration region,
          RemoteWrite start (events ++ mid) byte id i frame seen registration region) ∨
        ∃ frame send offset,
          ReadData (start.run (events ++ mid)) byte id i frame send offset)) ∧
    ((start.run events).history.station.queuePair.intake = some (.header []) →
      ∀ (frame : Frame) (part : Bytes), frame.Whole → part <+: frame.toBytes →
        (start.run (events ++ later)).received = (start.run events).received ++ part →
        ((frame.header.opcode = Opcode.write ∨
            frame.header.opcode = Opcode.writeWithImmediate) →
          (∀ mid byte rest, later = mid ++ .receive byte :: rest →
            (start.run (events ++ mid)).received ++ [byte] =
              (start.run events).received ++ frame.header.toBytes →
            ∀ registration,
              ¬ (start.run (events ++ mid)).table.Admits frame.header registration) →
          (start.run (events ++ later)).memory.byte? id i = some old) ∧
        (part ≠ frame.toBytes →
          (start.run (events ++ later ++ [.endOfStream])).memory.byte? id i = some old)) := by
  intro start
  have sound : ∀ events, (start.run events).Sound :=
    (sound_fresh profile address linkTimeout depth).run
  have announced : ∀ events, Announced start events := announced_run rfl
  have changed : ∀ new, (start.run (events ++ later)).memory.byte? id i = some new → new ≠ old →
      ∃ mid byte rest, later = mid ++ .receive byte :: rest ∧
        ((∃ frame seen registration region,
          RemoteWrite start (events ++ mid) byte id i frame seen registration region) ∨
        ∃ frame send offset,
          ReadData (start.run (events ++ mid)) byte id i frame send offset) :=
    fun new after differ => changed_run sound announced events later own before after differ
  obtain ⟨new, after⟩ := byte?_run sound events later before
  refine ⟨changed, fun boundary frame part whole hpart hr => ⟨fun hopcode hrefused => ?_,
    fun cut => ?_⟩⟩
  · by_cases differ : new = old
    · rw [after, differ]
    · obtain ⟨mid, byte, rest, rfl, ⟨frame', seen, registration, region, hw⟩ |
        ⟨frame', send, offset, hd⟩⟩ := changed new after differ
      · obtain ⟨-, rfl, htotal⟩ :=
          received_of_completes sound hw.completes boundary whole hpart hr
        have hheader := hw.header
        rw [List.append_assoc] at hheader htotal
        obtain ⟨mid', first, rest', rfl, hlater, hseen⟩ := hheader.after htotal
        refine absurd hw.admits (hrefused mid' first (rest' ++ rest) ?_ hseen registration)
        rw [← List.cons_append, ← List.append_assoc, ← hlater]
        simp
      · obtain ⟨-, rfl, -⟩ := received_of_completes sound hd.completes boundary whole hpart hr
        rw [hd.opcode] at hopcode
        rcases hopcode with h | h <;> cases h
  · have ended : (start.run (events ++ later ++ [.endOfStream])).memory =
        (start.run (events ++ later)).memory := by
      rw [run_concat]
      exact Station.memory_endOfStream _
    rw [ended]
    by_cases differ : new = old
    · rw [after, differ]
    · obtain ⟨mid, byte, rest, rfl, ⟨frame', seen, registration, region, hw⟩ |
        ⟨frame', send, offset, hd⟩⟩ := changed new after differ
      · exact absurd (received_of_completes sound hw.completes boundary whole hpart hr).1 cut
      · exact absurd (received_of_completes sound hd.completes boundary whole hpart hr).1 cut

/-- A region of four bytes is registered, and the queue pair is ready to send. -/
def registeredRegion : List SiteEvent :=
  let peer : QueuePairAddress := ⟨2, 0, 0, ⟨0⟩⟩
  [.reserve ⟨"region", 4096, 4, fun _ => 0, by decide⟩, .register ⟨0⟩ Access.all [2],
    .toInit Access.all, .attach (Stream.ofBytes (Header.hello 2 1).toBytes false),
    .link peer (.v6 peer.gid.toIpv6) ⟨fun _ => .error .timedOut, none, 0⟩, .start]

/-- The peer writes two bytes behind the first two. -/
def twoBytesWritten : List SiteEvent :=
  ((Header.write 1 4098 3 2 none).toBytes ++ [7, 8]).map .receive

theorem two_bytes_confined :
    let start := fresh Device.softProfile ⟨1, 0, 0, ⟨0⟩⟩ ⟨1000⟩ 4
    (start.run registeredRegion).memory.byte? ⟨0⟩ 2 = some 0 ∧
      (start.run (registeredRegion ++ twoBytesWritten)).memory.byte? ⟨0⟩ 2 = some 7 ∧
      ∃ mid byte rest, twoBytesWritten = mid ++ .receive byte :: rest ∧
        ((∃ frame seen registration region, RemoteWrite start (registeredRegion ++ mid) byte ⟨0⟩ 2
          frame seen registration region) ∨
        ∃ frame send offset,
          ReadData (start.run (registeredRegion ++ mid)) byte ⟨0⟩ 2 frame send offset) := by
  refine ⟨by decide +kernel, by decide +kernel, ?_⟩
  exact (remote_writes_confined Device.softProfile ⟨1, 0, 0, ⟨0⟩⟩ ⟨1000⟩ 4 registeredRegion
    twoBytesWritten (by decide) ⟨0⟩ 2 0 (by decide +kernel)).1 7 (by decide +kernel) (by decide)

end Site

end RdmaLink
