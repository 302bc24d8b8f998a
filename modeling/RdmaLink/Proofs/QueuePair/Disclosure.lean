import RdmaLink.Proofs.QueuePair.Cutting

/-!
# What a peer learns of the memory

A queue pair tells its peer of the memory only what the peer may read.  Two stations that differ
in the bytes of their regions and in nothing else are `Twins` with respect to the bytes that they
have in common; handling a frame keeps them so, if the bytes that it may read are among these.

    Twins common s t, table.Discloses a.header ⊆ common
      → Twins common (s.handle table a) (t.handle table a)               (Station.Twins.handle)
    Twins common s t, the frames of the stream disclose no other bytes
      → Twins common (s.receive table bytes) (t.receive table bytes)     (Station.Twins.receive)
-/

namespace RdmaLink

/-- Everything of a region but its bytes. -/
def Region.shape (region : Region) : String × UInt64 × Nat :=
  (region.name, region.base, region.size)

namespace Memory

/-- Two memories have the same regions, whatever bytes are in them. -/
def Mirrors (a b : Memory) : Prop :=
  ∀ id, (b.region? id).map Region.shape = (a.region? id).map Region.shape

/-- Two memories have the same regions, and certain bytes in common. -/
structure Agree (common : RegionId → Nat → Prop) (a b : Memory) : Prop where
  mirrors : Mirrors a b
  bytes : ∀ id i, common id i → b.byte? id i = a.byte? id i

variable {common : RegionId → Nat → Prop} {a b : Memory}

theorem Mirrors.cases (mirrors : Mirrors a b) (id : RegionId) :
    (a.region? id = none ∧ b.region? id = none) ∨
      ∃ r r', a.region? id = some r ∧ b.region? id = some r' ∧ r'.shape = r.shape := by
  have same := mirrors id
  cases ha : a.region? id with
  | none =>
    rw [ha, Option.map_none, Option.map_eq_none_iff] at same
    exact Or.inl ⟨rfl, same⟩
  | some r =>
    rw [ha, Option.map_some, Option.map_eq_some_iff] at same
    obtain ⟨r', hb, shape⟩ := same
    exact Or.inr ⟨r, r', rfl, hb, shape⟩

theorem byte?_put (memory : Memory) (id other : RegionId) (region : Region) (i : Nat) :
    (memory.put id region).byte? other i =
      if other = id then (memory.region? id).map fun _ => region.bytes i
      else memory.byte? other i := by
  rw [byte?, region?_put]
  split
  · rw [Option.map_map]; rfl
  · rfl

/-- The same bytes stored in the same place of both are one more thing in common. -/
theorem Agree.put (agree : Agree common a b) {id : RegionId} {r r' : Region}
    (ha : a.region? id = some r) (hb : b.region? id = some r') (shape : r'.shape = r.shape)
    (offset : Nat) (data : Bytes) :
    Agree common (a.put id (r.stored offset data.toArray))
      (b.put id (r'.stored offset data.toArray)) := by
  refine ⟨fun other => ?_, fun other i shared => ?_⟩
  · rw [region?_put, region?_put]
    by_cases here : other = id
    · rw [if_pos here, if_pos here, ha, hb]
      exact congrArg some shape
    · rw [if_neg here, if_neg here]
      exact agree.mirrors other
  · rw [byte?_put, byte?_put]
    by_cases here : other = id
    · have same : r'.bytes i = r.bytes i := by
        have same := agree.bytes other i shared
        rw [here, byte?, byte?, ha, hb] at same
        exact Option.some.inj same
      rw [if_pos here, if_pos here, ha, hb, Option.map_some, Option.map_some,
        Region.bytes_stored, Region.bytes_stored, same]
    · rw [if_neg here, if_neg here]
      exact agree.bytes other i shared

theorem Agree.write (agree : Agree common a b) (id : RegionId) (offset : Nat) (data : Bytes) :
    (∃ a' b', a.write id offset data = .ok a' ∧ b.write id offset data = .ok b' ∧
      Agree common a' b') ∨
    (∃ e, a.write id offset data = .error e ∧ b.write id offset data = .error e) := by
  rcases agree.mirrors.cases id with ⟨ha, hb⟩ | ⟨r, r', ha, hb, shape⟩
  · exact Or.inr ⟨⟨offset, data.length, 0⟩, by rw [Memory.write, ha], by rw [Memory.write, hb]⟩
  · have size : r'.size = r.size := congrArg (fun s => s.2.2) shape
    by_cases room : offset + data.length ≤ r.size
    · exact Or.inl ⟨_, _, write_of_room ha room, write_of_room hb (size ▸ room),
        agree.put ha hb shape offset data⟩
    · have refused {memory : Memory} {region : Region} (there : memory.region? id = some region)
          (alike : region.size = r.size) :
          memory.write id offset data = .error ⟨offset, data.length, r.size⟩ := by
        rw [Memory.write, there]
        simp only [Region.write, Region.contains, Region.outside, alike, decide_eq_true_eq,
          if_neg room]
        rfl
      exact Or.inr ⟨_, refused ha rfl, refused hb size⟩

/-- A range of common bytes reads the same. -/
theorem Agree.read (agree : Agree common a b) (id : RegionId) (offset length : Nat)
    (shared : ∀ i, offset ≤ i → i < offset + length → common id i) :
    b.read id offset length = a.read id offset length := by
  rcases agree.mirrors.cases id with ⟨ha, hb⟩ | ⟨r, r', ha, hb, shape⟩
  · rw [Memory.read, Memory.read, ha, hb]
  · have size : r'.size = r.size := congrArg (fun s => s.2.2) shape
    have same : r'.slice offset length = r.slice offset length := by
      refine List.map_congr_left fun k hk => ?_
      have within := List.mem_range.mp hk
      have byte := agree.bytes id (offset + k) (shared _ (by omega) (by omega))
      rw [byte?, byte?, ha, hb] at byte
      exact Option.some.inj byte
    unfold Memory.read
    rw [ha, hb]
    show r'.read offset length = r.read offset length
    rw [Region.read, Region.read, Region.contains, Region.contains, Region.outside, Region.outside,
      size, same]

end Memory

/-- A read request may see a byte of a region: its key is that of a live registration of the
region, which grants peers to read and contains the range of the request, and the range contains
the byte. -/
structure Registrations.Shows (table : Registrations) (header : Header)
    (registration : Registration) (id : RegionId) (i : Nat) : Prop where
  live : table.byRemoteKey? header.key = some registration
  region : registration.region = id
  grants : registration.access.remoteRead = true
  above : registration.address.toNat ≤ header.address.toNat
  inside : header.address.toNat + header.length.toNat ≤
    registration.address.toNat + registration.length
  first : header.address.toNat ≤ registration.address.toNat + i
  last : registration.address.toNat + i < header.address.toNat + header.length.toNat

/-- A frame discloses a byte of a region: it is a read request that may see the byte. -/
def Registrations.Discloses (table : Registrations) (header : Header) (id : RegionId) (i : Nat) :
    Prop :=
  header.opcode = Opcode.readRequest ∧ ∃ registration, table.Shows header registration id i

/-- A frame is one of those that a stream of bytes consists of. -/
def Frame.StandsIn (frame : Frame) (stream : Bytes) : Prop :=
  ∃ before : List Frame, (∀ f ∈ before, f.Whole) ∧ frame.Whole ∧
    before.flatMap Frame.toBytes ++ frame.toBytes <+: stream

theorem discloses_of_target? {table : Registrations} {header : Header} {id : RegionId}
    {offset : Nat} (request : header.opcode = Opcode.readRequest)
    (h : table.target? header.key header.address header.length ⟨false, false, true⟩ =
      some (id, offset)) (i : Nat) (first : offset ≤ i)
    (last : i < offset + header.length.toNat) : table.Discloses header id i := by
  obtain ⟨registration, found, grants, place, start, inside⟩ := Registrations.found_of_target? h
  exact ⟨request, registration, found, place, by simpa [Access.includes] using grants, by omega,
    by omega, by omega, by omega⟩

namespace Station

/-- The station with another memory. -/
def withMemory (s : Station) (memory : Memory) : Station := { s with memory := memory }

/-- Two stations differ in the bytes of their regions alone, and have certain ones in common. -/
structure Twins (common : RegionId → Nat → Prop) (s t : Station) : Prop where
  same : t = s.withMemory t.memory
  memory : Memory.Agree common s.memory t.memory

variable {common : RegionId → Nat → Prop} {s t : Station} {table : Registrations}

theorem Twins.withMemory {a b : Memory} (twins : Twins common s t)
    (agree : Memory.Agree common a b) : Twins common (s.withMemory a) (t.withMemory b) := by
  rw [twins.same]
  exact ⟨rfl, agree⟩

/-! ## What does not look at the memory -/

@[simp] theorem queuePair_withMemory (s : Station) (m : Memory) :
    (s.withMemory m).queuePair = s.queuePair := rfl

theorem fail_withMemory (s : Station) (m : Memory) :
    (s.withMemory m).fail = s.fail.withMemory m := by
  unfold fail
  rw [queuePair_withMemory]
  split <;> rfl

theorem breakOff_withMemory (s : Station) (m : Memory) :
    (s.withMemory m).breakOff = s.breakOff.withMemory m := by
  unfold breakOff
  rw [fail_withMemory]
  rfl

theorem transmit_withMemory (s : Station) (m : Memory) (header : Header) (payload : Bytes) :
    (s.withMemory m).transmit header payload =
      ((s.transmit header payload).1, (s.transmit header payload).2.withMemory m) := by
  unfold transmit
  rw [queuePair_withMemory]
  split <;> rfl

theorem respond_withMemory (s : Station) (m : Memory) (header : Header) (payload : Bytes) :
    (s.withMemory m).respond header payload = (s.respond header payload).withMemory m := by
  unfold respond
  rw [transmit_withMemory]
  rcases s.transmit header payload with ⟨_ | _, tried⟩
  · exact breakOff_withMemory tried m
  · rfl

theorem written_withMemory (s : Station) (m : Memory) (header : Header) :
    (s.withMemory m).written header = (s.written header).withMemory m := by
  unfold written
  rw [queuePair_withMemory]
  split
  · exact respond_withMemory s m _ _
  · dsimp only
    split
    · next request later _ =>
      let taken := s.withWork { s.queuePair.work with receives := later }
      exact respond_withMemory (taken.complete request .receiveWithImmediate .success
        header.length (some header.immediate)) m _ _
    · rfl

theorem acknowledged_withMemory (s : Station) (m : Memory) (header : Header) :
    (s.withMemory m).acknowledged header = (s.acknowledged header).withMemory m := by
  unfold acknowledged
  rw [queuePair_withMemory]
  dsimp only
  split <;> rfl

/-! ## Frames -/

/-- Twins stay twins when the same is done to them and the memory is not looked at. -/
theorem Twins.blind {f : Station → Station}
    (blind : ∀ s memory, f (s.withMemory memory) = (f s).withMemory memory)
    (twins : Twins common s t) : Twins common (f s) (f t) := by
  have own : f s = (f s).withMemory s.memory := blind s s.memory
  have kept : (f s).memory = s.memory := by rw [own]; rfl
  rw [twins.same, blind]
  exact ⟨rfl, by rw [kept]; exact twins.memory⟩

theorem Twins.respond (twins : Twins common s t) (header : Header) (payload : Bytes) :
    Twins common (s.respond header payload) (t.respond header payload) :=
  Twins.blind (f := (·.respond header payload))
    (fun s m => respond_withMemory s m header payload) twins

theorem Twins.written (twins : Twins common s t) (header : Header) :
    Twins common (s.written header) (t.written header) :=
  Twins.blind (f := (·.written header)) (fun s m => written_withMemory s m header) twins

theorem Twins.breakOff (twins : Twins common s t) : Twins common s.breakOff t.breakOff :=
  Twins.blind breakOff_withMemory twins

theorem Twins.acknowledged (twins : Twins common s t) (header : Header) :
    Twins common (s.acknowledged header) (t.acknowledged header) :=
  Twins.blind (f := (·.acknowledged header)) (fun s m => acknowledged_withMemory s m header) twins

theorem Twins.queuePair (twins : Twins common s t) : t.queuePair = s.queuePair := by
  rw [twins.same]
  rfl

theorem Twins.withQueuePair (twins : Twins common s t) (queuePair : QueuePair) :
    Twins common { s with queuePair := queuePair } { t with queuePair := queuePair } := by
  rw [twins.same]
  exact ⟨rfl, twins.memory⟩

theorem Twins.complete (twins : Twins common s t) (request : UInt64) (operation : Operation)
    (status : Status) (length : UInt32) (immediate : Option UInt32) :
    Twins common (s.complete request operation status length immediate)
      (t.complete request operation status length immediate) :=
  Twins.blind (f := (·.complete request operation status length immediate)) (fun _ _ => rfl) twins

/-- The data of a read is stored by both or by none. -/
theorem Twins.readAnswered (twins : Twins common s t) (header : Header)
    (payload : Option Bytes) :
    Twins common (s.readAnswered header payload) (t.readAnswered header payload) := by
  unfold Station.readAnswered
  rw [twins.queuePair]
  dsimp only
  cases s.queuePair.work.send? header.sequence.toNat with
  | none => exact twins
  | some send =>
    have freed : Twins common (s.withWork (s.queuePair.work.withoutSend header.sequence.toNat))
        (t.withWork (s.queuePair.work.withoutSend header.sequence.toNat)) := by
      unfold withWork
      rw [twins.queuePair]
      exact twins.withQueuePair _
    dsimp only
    cases Status.ofCode header.status with
    | success =>
      cases send.sink with
      | none => exact freed.complete _ _ _ _ _
      | some sink =>
        cases payload with
        | none => exact freed.complete _ _ _ _ _
        | some bytes =>
          dsimp only
          rcases freed.memory.write sink.1 sink.2 bytes with ⟨a, b, ha, hb, agree⟩ | ⟨e, ha, hb⟩
          · rw [ha, hb]
            have stored := freed.withMemory agree
            exact stored.complete _ _ _ _ _
          · rw [ha, hb]
            exact freed.complete _ _ _ _ _
    | _ => exact freed.complete _ _ _ _ _

/-- A read request is answered alike, if it may see common bytes only. -/
theorem Twins.answerRead (twins : Twins common s t) {header : Header}
    (request : header.opcode = Opcode.readRequest)
    (allowed : ∀ id i, table.Discloses header id i → common id i) :
    Twins common (s.answerRead table header) (t.answerRead table header) := by
  unfold Station.answerRead
  dsimp only
  cases target : table.target? header.key header.address header.length ⟨false, false, true⟩ with
  | none => exact twins.respond _ _
  | some place =>
    obtain ⟨id, offset⟩ := place
    have same : t.memory.read id offset header.length.toNat =
        s.memory.read id offset header.length.toNat :=
      twins.memory.read id offset _ fun i first last =>
        allowed id i (discloses_of_target? request target i first last)
    dsimp only [Option.bind_some]
    rw [same]
    split <;> exact twins.respond _ _

theorem Twins.handle (twins : Twins common s t) (arrival : Arrival)
    (allowed : ∀ id i, table.Discloses arrival.header id i → common id i) :
    Twins common (s.handle table arrival) (t.handle table arrival) := by
  unfold Station.handle
  cases arrival.disposal with
  | some disposal =>
    cases disposal with
    | store region offset =>
      dsimp only [takePayload]
      rcases twins.memory.write region offset arrival.payload with
        ⟨a, b, ha, hb, agree⟩ | ⟨e, ha, hb⟩
      · rw [ha, hb]
        exact (twins.withMemory agree).written _
      · rw [ha, hb]
        exact twins.respond _ _
    | refuse => exact twins.respond _ _
    | answer => exact twins.readAnswered _ _
    | unwanted => exact twins.readAnswered _ _
  | none =>
    dsimp only
    unfold takeBare
    split
    · next request => exact twins.answerRead request allowed
    · split
      · exact twins.readAnswered _ _
      · split
        · exact twins.acknowledged _
        · exact twins.breakOff

/-! ## Streams -/

/-- What is to come of a frame does not depend on the memory, and neither does when it is
complete. -/
theorem Twins.feed (twins : Twins common s t) (byte : UInt8)
    (allowed : ∀ arrival id i, s.arrival? table byte = some arrival →
      table.Discloses arrival.header id i → common id i) :
    Twins common (s.feed table byte) (t.feed table byte) := by
  have arrives : t.arrival? table byte = s.arrival? table byte := by
    rw [twins.same]
    rfl
  have longer : t.extended table byte = s.extended table byte := by
    rw [twins.same]
    rfl
  have turned (intake : Option Intake) :
      Twins common (s.withIntake intake) (t.withIntake intake) := by
    unfold withIntake
    rw [twins.queuePair]
    exact twins.withQueuePair _
  cases harr : s.arrival? table byte with
  | none =>
    rw [feed_of_no_arrival harr, feed_of_no_arrival (arrives.trans harr), longer]
    exact turned _
  | some arrival =>
    rw [feed_of_arrival harr, feed_of_arrival (arrives.trans harr)]
    exact (turned _).handle arrival fun id i => allowed arrival id i harr

/-- Bytes that come while nothing is received have no effect on either. -/
theorem Twins.receive {past bytes : Bytes} {taken : List Frame} (twins : Twins common s t)
    (parsed : Takes.Parsed past taken s)
    (allowed : ∀ (frame : Frame) id i, frame.StandsIn (past ++ bytes) →
      table.Discloses frame.header id i → common id i) :
    Twins common (s.receive table bytes) (t.receive table bytes) := by
  induction bytes generalizing s t past taken with
  | nil => exact twins
  | cons byte rest ih =>
    cases receiving : s.queuePair.intake with
    | none =>
      rw [receive_stopped receiving, receive_stopped (twins.queuePair ▸ receiving)]
      exact twins
    | some intake =>
      have next := parsed.feed table byte (by rw [receiving]; rfl)
      have here : past ++ [byte] ++ rest = past ++ byte :: rest := by simp
      refine ih (twins.feed byte fun arrival id i harr => ?_) next fun frame id i stands =>
        allowed frame id i (here ▸ stands)
      refine allowed arrival.frame id i ⟨taken, parsed.whole, next.whole _ (by simp [harr]), ?_⟩
      have front := next.front
      rw [harr] at front
      rw [← here]
      refine List.IsPrefix.trans ?_ (front.trans (List.prefix_append _ _))
      simp

theorem Twins.endOfStream (twins : Twins common s t) :
    Twins common s.endOfStream t.endOfStream := by
  unfold Station.endOfStream
  rw [twins.queuePair]
  split
  · exact twins
  · exact twins.breakOff

/-- What has arrived of the next frame. -/
def begun (s : Station) : Bytes :=
  match s.queuePair.intake with
  | some intake => intake.bytes
  | none => []

/-- The station after bytes of its stream, and the end of the stream if it comes after them. -/
def hears (table : Registrations) (s : Station) (bytes : Bytes) (ended : Bool) : Station :=
  if ended then (s.receive table bytes).endOfStream else s.receive table bytes

/-- A peer learns of the memory only what it may read.  Two queue pairs that have come to the same
state, with memories that differ in the bytes of the regions alone, take the same stream.  Whatever
it is: if the memories agree on the bytes that its read requests may see, then the queue pairs end
in the same state, with the same messages written to their links, and with the same completions;
and where the memories agreed before they agree afterwards. -/
theorem reads_disclose_granted_bytes (address : QueuePairAddress) (linkTimeout : Milliseconds)
    (depth : Nat) (memory other : Memory) (events : List QueuePairEvent) (table : Registrations)
    (bytes : Bytes) (ended : Bool) :
    let s := ((History.fresh address linkTimeout depth memory).run events).station
    s.memory.Mirrors other →
      (∀ (frame : Frame) id i, frame.StandsIn (s.begun ++ bytes) →
        table.Discloses frame.header id i → other.byte? id i = s.memory.byte? id i) →
      let s' := s.hears table bytes ended
      let t' := (s.withMemory other).hears table bytes ended
      t'.queuePair = s'.queuePair ∧ t'.completions = s'.completions ∧
        s'.memory.Mirrors t'.memory ∧
        ∀ id i, other.byte? id i = s.memory.byte? id i →
          t'.memory.byte? id i = s'.memory.byte? id i := by
  intro s mirrors allowed s' t'
  obtain ⟨-, tracked⟩ := History.tracked_run address linkTimeout depth memory events
  have parsed : Takes.Parsed s.begun [] s := by
    refine ⟨by simp, List.nil_prefix, tracked.sound, fun intake hi => ?_⟩
    rw [begun, hi]
    rfl
  have twins : Twins (fun id i => other.byte? id i = s.memory.byte? id i) s (s.withMemory other) :=
    ⟨rfl, mirrors, fun _ _ same => same⟩
  have after : Twins (fun id i => other.byte? id i = s.memory.byte? id i) s' t' := by
    have received := twins.receive parsed allowed
    simp only [s', t', hears]
    split
    · exact received.endOfStream
    · exact received
  refine ⟨after.queuePair, ?_, after.memory.mirrors, after.memory.bytes⟩
  rw [after.same]
  rfl

/-- Of two regions the peer may read one; whatever is in the other, it gets the same answers. -/
theorem vault_stays_closed :
    let shared : Region := ⟨"shared", 4096, 4, fun _ => 5, by decide⟩
    let vault (secret : UInt8) : Region := ⟨"vault", 8192, 4, fun _ => secret, by decide⟩
    let table : Registrations :=
      ⟨[⟨1, 5, 4096, 4, Access.all, ⟨0⟩⟩, ⟨2, 7, 8192, 4, ⟨true, true, false⟩, ⟨1⟩⟩], 2⟩
    let s := ((History.fresh ⟨1, 0, 0, ⟨0⟩⟩ ⟨1000⟩ 4 ⟨[shared, vault 1]⟩).run
      History.greeted).station
    let bytes := (Header.readRequest 1 4096 5 2).toBytes ++ (Header.readRequest 2 8192 7 4).toBytes
    (s.hears table bytes false).queuePair.link.map Stream.sent = some
        [(Header.hello 1 2).toBytes, (Header.readResponse 1 0 2).toBytes ++ [5, 5],
          (Header.readResponse 2 Status.remoteAccess.code 0).toBytes] ∧
      ((s.withMemory ⟨[shared, vault 2]⟩).hears table bytes false).queuePair =
        (s.hears table bytes false).queuePair := by
  intro shared vault table s bytes
  refine ⟨by decide +kernel, ?_⟩
  have before : s.memory = ⟨[shared, vault 1]⟩ := rfl
  have mirrors : s.memory.Mirrors ⟨[shared, vault 2]⟩ := by
    rw [before]
    rintro ⟨_ | _ | n⟩ <;> rfl
  have allowed : ∀ (frame : Frame) id i, frame.StandsIn (s.begun ++ bytes) →
      table.Discloses frame.header id i →
        Memory.byte? ⟨[shared, vault 2]⟩ id i = s.memory.byte? id i := by
    rintro frame id i - ⟨-, registration, shows⟩
    have live : registration ∈ table.entries := List.mem_of_find?_eq_some shows.live
    rw [before]
    rcases List.mem_pair.mp live with rfl | rfl
    · rw [← shows.region]
      rfl
    · exact absurd shows.grants (by decide)
  exact (reads_disclose_granted_bytes ⟨1, 0, 0, ⟨0⟩⟩ ⟨1000⟩ 4 ⟨[shared, vault 1]⟩
    ⟨[shared, vault 2]⟩ History.greeted table bytes false mirrors allowed).1

end Station

end RdmaLink
