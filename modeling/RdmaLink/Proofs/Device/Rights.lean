import RdmaLink.Proofs.Device.Confinement
import RdmaLink.Proofs.QueuePair.Exchange

/-!
# Which rights are looked at

A device looks at two of the three rights of a registration, each where a peer asks for it: a write
needs the right that peers may write, and a read request the right that peers may read.  It looks
neither at the right that the data of own reads may be stored nor at the rights that a queue pair
was initialized with.  Without those a site runs as it does with them.

    (site.run events).remote = site.remote.run (events.map SiteEvent.remote)
                                                                       (Site.remote_run)
-/

namespace RdmaLink

/-! ## What is left of rights -/

/-- The rights that are looked at. -/
def Access.remote (access : Access) : Access := { access with localWrite := false }

def Registration.remote (registration : Registration) : Registration :=
  { registration with access := registration.access.remote }

/-- Whether peers may do something is not a matter of the other right. -/
theorem Access.includes_remote (access needed : Access) (peers : needed.localWrite = false) :
    access.remote.includes needed = access.includes needed := by
  simp [includes, remote, peers]

namespace Registrations

/-- The table with what is left of its rights. -/
def remote (table : Registrations) : Registrations :=
  { table with entries := table.entries.map Registration.remote }

variable (table : Registrations)

theorem find?_remote (p : Registration → Bool) (blind : ∀ r, p r.remote = p r) :
    table.remote.entries.find? p = (table.entries.find? p).map Registration.remote := by
  show (table.entries.map Registration.remote).find? p = _
  rw [List.find?_map]
  congr 2
  exact funext blind

theorem byLocalKey?_remote (key : UInt32) :
    table.remote.byLocalKey? key = (table.byLocalKey? key).map Registration.remote :=
  table.find?_remote _ fun _ => rfl

theorem byRemoteKey?_remote (key : UInt32) :
    table.remote.byRemoteKey? key = (table.byRemoteKey? key).map Registration.remote :=
  table.find?_remote _ fun _ => rfl

/-- Where a peer may write or read is not a matter of the other right. -/
theorem target?_remote (key : UInt32) (address : UInt64) (length : UInt32) {needed : Access}
    (peers : needed.localWrite = false) :
    table.remote.target? key address length needed = table.target? key address length needed := by
  unfold target?
  rw [byRemoteKey?_remote]
  cases table.byRemoteKey? key with
  | none => rfl
  | some registration =>
    show (if registration.access.remote.includes needed then _ else _) = _
    rw [Access.includes_remote _ _ peers]
    rfl

theorem filter_remote (p : Registration → Bool) (blind : ∀ r, p r.remote = p r) :
    table.remote.entries.filter p = (table.entries.filter p).map Registration.remote := by
  show (table.entries.map Registration.remote).filter p = _
  rw [List.filter_map]
  congr 2
  exact funext blind

theorem freeRemoteKey_remote (draws : List UInt32) :
    table.remote.freeRemoteKey draws = table.freeRemoteKey draws := by
  have taken (key : UInt32) : table.remote.remoteKeyTaken key = table.remoteKeyTaken key := by
    unfold remoteKeyTaken
    show (table.entries.map Registration.remote).any _ = _
    rw [List.any_map]
    rfl
  have count : table.remote.count = table.count := List.length_map _
  unfold freeRemoteKey
  simp only [taken, count]

theorem insert_remote (id : RegionId) (region : Region) (access : Access) (draws : List UInt32) :
    table.remote.insert id region access.remote draws =
      ((table.insert id region access draws).1.remote,
        (table.insert id region access draws).2.remote) := by
  have next : table.remote.nextKey = table.nextKey := rfl
  unfold insert
  simp only [freeRemoteKey_remote, next]
  rw [table.filter_remote (fun r => r.localKey != table.nextKey) fun _ => rfl]
  simp only [remote, List.map_append]
  rfl

theorem remove?_remote (key : UInt32) :
    table.remote.remove? key = (table.remove? key).map remote := by
  unfold remove?
  rw [byLocalKey?_remote, Option.isSome_map,
    table.filter_remote (fun r => r.localKey != key) fun _ => rfl]
  split <;> rfl

end Registrations

/-- The device with what is left of its rights. -/
def Device.remote (device : Device) : Device :=
  { device with registrations := device.registrations.remote }

theorem Device.register_remote (device : Device) (id : RegionId) (region : Region)
    (access : Access) (draws : List UInt32) :
    (device.remote.register id region access.remote draws).2 =
      (device.register id region access draws).2.remote := by
  have same (call : DeviceCall) : device.remote.refusal call = device.refusal call := rfl
  have profile : device.remote.profile = device.profile := rfl
  unfold register
  rw [same, profile]
  split
  · rfl
  · split
    · rfl
    · simp only [Device.remote, Registrations.insert_remote]

theorem Device.deregister_remote (device : Device) (key : UInt32) :
    (device.remote.deregister key).2 = (device.deregister key).2.remote := by
  have same (call : DeviceCall) : device.remote.refusal call = device.refusal call := rfl
  have table : device.remote.registrations = device.registrations.remote := rfl
  unfold deregister
  rw [same, table, Registrations.remove?_remote]
  split
  · rfl
  · cases device.registrations.remove? key <;> rfl

/-! ## Rights of peers -/

/-- A registration has the key of a read request, grants peers to read, and contains the range. -/
structure Registrations.Readable (table : Registrations) (header : Header)
    (registration : Registration) : Prop where
  live : table.byRemoteKey? header.key = some registration
  grants : registration.access.remoteRead = true
  above : registration.address.toNat ≤ header.address.toNat
  inside : header.address.toNat + header.length.toNat ≤
    registration.address.toNat + registration.length

/-- What a read request may see starts where its address is in the region. -/
theorem Registrations.Readable.target? {table : Registrations} {header : Header}
    {registration : Registration} (readable : table.Readable header registration) :
    table.target? header.key header.address header.length ⟨false, false, true⟩ =
      some (registration.region, header.address.toNat - registration.address.toNat) := by
  obtain ⟨live, grants, above, inside⟩ := readable
  have begins : registration.address ≤ header.address := UInt64.le_iff_toNat_le.mpr above
  have fits : header.address.toNat - registration.address.toNat + header.length.toNat ≤
      registration.length := by
    omega
  have right : registration.access.includes ⟨false, false, true⟩ = true := by
    simp [Access.includes, grants]
  unfold Registrations.target?
  rw [live]
  simp only [right, if_true, Registration.offsetOf?, begins, fits, Option.map_some]

theorem Registrations.readable_of_target? {table : Registrations} {header : Header}
    {id : RegionId} {offset : Nat}
    (h : table.target? header.key header.address header.length ⟨false, false, true⟩ =
      some (id, offset)) :
    ∃ registration, table.Readable header registration := by
  obtain ⟨registration, live, grants, -, start, inside⟩ := found_of_target? h
  exact ⟨registration, live, by simpa [Access.includes] using grants, by omega, by omega⟩

/-- A read request is answered with the data if a registration lets peers read it, and refused if
none does. -/
theorem Station.answerRead_cases {s : Station} {table : Registrations}
    (describes : table.Describes s.memory) (header : Header) :
    (∃ registration region, table.Readable header registration ∧
      s.memory.region? registration.region = some region ∧
      s.answerRead table header = s.respond
        (Header.readResponse header.sequence Status.success.code header.length)
        (region.slice (header.address.toNat - registration.address.toNat)
          header.length.toNat)) ∨
    ((∀ registration, ¬ table.Readable header registration) ∧
      s.answerRead table header =
        s.respond (Header.readResponse header.sequence Status.remoteAccess.code 0) []) := by
  by_cases readable : ∃ registration, table.Readable header registration
  · obtain ⟨registration, readable⟩ := readable
    obtain ⟨region, known, room⟩ := describes.room readable.target?
    refine Or.inl ⟨registration, region, readable, known, ?_⟩
    simp only [answerRead, readable.target?, Option.bind_some, Memory.read_of_room known room]
    rfl
  · have nowhere : table.target? header.key header.address header.length ⟨false, false, true⟩ =
        none := by
      rw [Option.eq_none_iff_forall_ne_some]
      rintro ⟨id, offset⟩ h
      exact readable (Registrations.readable_of_target? h)
    refine Or.inr ⟨fun registration h => readable ⟨registration, h⟩, ?_⟩
    simp only [answerRead, nowhere, Option.bind_none]

/-! ## What a queue pair does without its rights -/

namespace QueuePair

/-- The queue pair with other rights. -/
def withAccess (q : QueuePair) (access : Access) : QueuePair := { q with access := access }

variable (q : QueuePair) (access : Access)

theorem toInit_withAccess (given : Access) :
    (q.withAccess access).toInit access = (q.toInit given).map (withAccess · access) := by
  have early : (q.withAccess access).expect [.reset] "RESET" = q.expect [.reset] "RESET" := rfl
  unfold toInit
  rw [early]
  cases q.expect [.reset] "RESET" <;> rfl

theorem attach_withAccess (stream : Stream) :
    (q.withAccess access).attach stream = (q.attach stream).map (withAccess · access) := by
  have early : (q.withAccess access).expect [.reset, .init] "RESET or INIT" =
      q.expect [.reset, .init] "RESET or INIT" := rfl
  unfold attach
  rw [early]
  cases q.expect [.reset, .init] "RESET or INIT" <;> rfl

theorem toReadyToReceive_withAccess (peer : QueuePairAddress) (ip : IpAddress)
    (conditions : LinkConditions) :
    ((q.withAccess access).toReadyToReceive peer ip conditions).queuePair =
      (q.toReadyToReceive peer ip conditions).queuePair.withAccess access := by
  have early : (q.withAccess access).expect [.init] "INIT" = q.expect [.init] "INIT" := rfl
  unfold toReadyToReceive
  rw [early]
  cases q.expect [.init] "INIT" with
  | error e => rfl
  | ok _ =>
    have dialed : (q.withAccess access).establish peer ip conditions =
        q.establish peer ip conditions := rfl
    have greeted (stream : Stream) : (q.withAccess access).greet peer stream =
        q.greet peer stream := rfl
    dsimp only
    rw [dialed]
    cases q.establish peer ip conditions with
    | error e => cases e <;> rfl
    | ok stream =>
      dsimp only
      rw [greeted]
      rcases q.greet peer stream with ⟨_ | _, _⟩ <;> rfl

theorem toReadyToSend_withAccess :
    (q.withAccess access).toReadyToSend = q.toReadyToSend.map (withAccess · access) := by
  have late : (q.withAccess access).expect [.readyToReceive] "RTR" =
      q.expect [.readyToReceive] "RTR" := rfl
  have link : (q.withAccess access).link = q.link := rfl
  unfold toReadyToSend startReceiving
  rw [late, link]
  cases q.expect [.readyToReceive] "RTR" with
  | error e => rfl
  | ok _ => cases q.link <;> rfl

end QueuePair

namespace Station

/-- The station with other rights of its queue pair. -/
def withAccess (s : Station) (access : Access) : Station :=
  { s with queuePair := s.queuePair.withAccess access }

variable (s : Station) (access : Access)

@[simp] theorem state_withAccess :
    (s.withAccess access).queuePair.state = s.queuePair.state := rfl

@[simp] theorem work_withAccess : (s.withAccess access).queuePair.work = s.queuePair.work := rfl

@[simp] theorem link_withAccess : (s.withAccess access).queuePair.link = s.queuePair.link := rfl

@[simp] theorem intake_withAccess :
    (s.withAccess access).queuePair.intake = s.queuePair.intake := rfl

@[simp] theorem nextSequence_withAccess :
    (s.withAccess access).queuePair.nextSequence = s.queuePair.nextSequence := rfl

theorem fail_withAccess : (s.withAccess access).fail = s.fail.withAccess access := by
  unfold fail
  rw [state_withAccess]
  split <;> rfl

theorem breakOff_withAccess : (s.withAccess access).breakOff = s.breakOff.withAccess access := by
  unfold breakOff
  rw [fail_withAccess]
  rfl

theorem transmit_withAccess (header : Header) (payload : Bytes) :
    (s.withAccess access).transmit header payload =
      ((s.transmit header payload).1, (s.transmit header payload).2.withAccess access) := by
  unfold transmit
  rw [link_withAccess]
  split <;> rfl

theorem respond_withAccess (header : Header) (payload : Bytes) :
    (s.withAccess access).respond header payload =
      (s.respond header payload).withAccess access := by
  unfold respond
  rw [transmit_withAccess]
  rcases s.transmit header payload with ⟨_ | _, tried⟩
  · exact tried.breakOff_withAccess access
  · rfl

theorem written_withAccess (header : Header) :
    (s.withAccess access).written header = (s.written header).withAccess access := by
  unfold written
  rw [work_withAccess]
  split
  · exact s.respond_withAccess access _ _
  · dsimp only
    split
    · next request later _ =>
      let taken := s.withWork { s.queuePair.work with receives := later }
      exact respond_withAccess (taken.complete request .receiveWithImmediate .success
        header.length (some header.immediate)) access _ _
    · rfl

/-! ### Answers -/

theorem readAnswered_withAccess (header : Header) (payload : Option Bytes) :
    (s.withAccess access).readAnswered header payload =
      (s.readAnswered header payload).withAccess access := by
  unfold readAnswered
  rw [work_withAccess]
  dsimp only
  cases s.queuePair.work.send? header.sequence.toNat with
  | none => rfl
  | some send =>
    dsimp only
    cases Status.ofCode header.status with
    | success =>
      cases send.sink with
      | none => rfl
      | some sink =>
        cases payload with
        | none => rfl
        | some bytes =>
          have same (t : Station) (work : Work) : (t.withWork work).memory = t.memory := rfl
          have memory : (s.withAccess access).memory = s.memory := rfl
          dsimp only
          rw [same, same, memory]
          split <;> rfl
    | _ => rfl

theorem acknowledged_withAccess (header : Header) :
    (s.withAccess access).acknowledged header = (s.acknowledged header).withAccess access := by
  unfold acknowledged
  rw [work_withAccess]
  dsimp only
  split <;> rfl

theorem answerRead_withAccess (table : Registrations) (header : Header) :
    (s.withAccess access).answerRead table.remote header =
      (s.answerRead table header).withAccess access := by
  have memory : (s.withAccess access).memory = s.memory := rfl
  unfold answerRead
  rw [table.target?_remote _ _ _ rfl]
  dsimp only
  rw [memory]
  split <;> exact s.respond_withAccess access _ _

/-! ### Frames -/

theorem takePayload_withAccess (header : Header) (disposal : Disposal) (payload : Bytes) :
    (s.withAccess access).takePayload header disposal payload =
      (s.takePayload header disposal payload).withAccess access := by
  cases disposal with
  | store region offset =>
    have memory : (s.withAccess access).memory = s.memory := rfl
    simp only [takePayload]
    rw [memory]
    split
    · next written _ => exact written_withAccess { s with memory := written } access header
    · exact s.respond_withAccess access _ _
  | refuse => exact s.respond_withAccess access _ _
  | answer => exact s.readAnswered_withAccess access _ _
  | unwanted => exact s.readAnswered_withAccess access _ _

theorem handle_withAccess (table : Registrations) (arrival : Arrival) :
    (s.withAccess access).handle table.remote arrival =
      (s.handle table arrival).withAccess access := by
  unfold handle
  split
  · exact s.takePayload_withAccess access _ _ _
  · unfold takeBare
    split
    · exact s.answerRead_withAccess access table _
    · split
      · exact s.readAnswered_withAccess access _ _
      · split
        · exact s.acknowledged_withAccess access _
        · exact s.breakOff_withAccess access

theorem disposal?_withAccess (table : Registrations) (header : Header) :
    (s.withAccess access).disposal? table.remote header = s.disposal? table header := by
  unfold disposal?
  rw [table.target?_remote _ _ _ rfl, work_withAccess]

/-- A byte of the peer. -/
theorem feed_withAccess (table : Registrations) (byte : UInt8) :
    (s.withAccess access).feed table.remote byte = (s.feed table byte).withAccess access := by
  have arrives : (s.withAccess access).arrival? table.remote byte = s.arrival? table byte := by
    unfold arrival?
    simp only [disposal?_withAccess, intake_withAccess]
  have longer : (s.withAccess access).extended table.remote byte = s.extended table byte := by
    unfold extended
    simp only [disposal?_withAccess, intake_withAccess]
  cases harr : s.arrival? table byte with
  | none =>
    rw [feed_of_no_arrival harr, feed_of_no_arrival (arrives.trans harr), longer]
    rfl
  | some arrival =>
    rw [feed_of_arrival harr, feed_of_arrival (arrives.trans harr)]
    exact handle_withAccess (s.withIntake (some (.header []))) access table arrival

theorem endOfStream_withAccess :
    (s.withAccess access).endOfStream = s.endOfStream.withAccess access := by
  unfold endOfStream
  rw [intake_withAccess]
  split
  · rfl
  · exact s.breakOff_withAccess access

/-! ### Posts -/

theorem sendLost_withAccess (sequence : Nat) :
    (s.withAccess access).sendLost sequence = (s.sendLost sequence).withAccess access := by
  rw [sendLost_eq, sendLost_eq, work_withAccess]
  split
  · next send _ =>
    let freed := s.withWork (s.queuePair.work.withoutSend sequence)
    exact congrArg shutLink ((freed.complete send.request send.operation .linkLost 0
      none).fail_withAccess access)
  · exact congrArg shutLink (s.fail_withAccess access)

theorem launch_withAccess (frame : Frame) (sequence : Nat) :
    (s.withAccess access).launch frame sequence = (s.launch frame sequence).withAccess access := by
  unfold launch
  rw [transmit_withAccess]
  rcases s.transmit frame.header frame.payload with ⟨_ | _, tried⟩
  · exact tried.sendLost_withAccess access sequence
  · rfl

theorem confirm_withAccess (sequence : UInt64) :
    (s.withAccess access).confirm sequence = (s.confirm sequence).withAccess access := by
  unfold confirm
  rw [transmit_withAccess]
  rcases s.transmit _ _ with ⟨_ | _, tried⟩
  · exact tried.fail_withAccess access
  · rfl

theorem localRange_remote (table : Registrations) (send : SendRequest) :
    table.remote.localRange send = table.localRange send := by
  unfold Registrations.localRange
  rw [Registrations.byLocalKey?_remote]
  cases table.byLocalKey? send.localKey <;> rfl

/-- A send is numbered as with the rights. -/
theorem prepare_withAccess (table : Registrations) (send : SendRequest) :
    (s.withAccess access).prepare table.remote send =
      ((s.prepare table send).1, (s.prepare table send).2.withAccess access) := by
  unfold prepare
  rw [localRange_remote]
  cases table.localRange send with
  | error e => rfl
  | ok range =>
    have framed : (s.withAccess access).sendFrame send range.1 range.2 =
        s.sendFrame send range.1 range.2 := rfl
    simp only [framed]
    cases s.sendFrame send range.1 range.2 <;> rfl

/-- A post is taken on or refused as with the rights. -/
theorem postSend_withAccess (table : Registrations) (send : SendRequest) :
    (s.withAccess access).postSend table.remote send =
      ((s.postSend table send).1, (s.postSend table send).2.withAccess access) := by
  have early : (s.withAccess access).queuePair.expect [.readyToSend] "RTS" =
      s.queuePair.expect [.readyToSend] "RTS" := rfl
  have room : (s.withAccess access).checkRoom = s.checkRoom := rfl
  rw [postSend_eq, postSend_eq, early, room, prepare_withAccess]
  cases s.queuePair.expect [.readyToSend] "RTS" with
  | error e => rfl
  | ok _ =>
    cases s.checkRoom with
    | error e => rfl
    | ok _ =>
      rcases s.prepare table send with ⟨e | draft, t⟩
      · rfl
      · exact Prod.ext rfl ((t.enter draft).launch_withAccess access draft.frame draft.sequence)

theorem postReceive_withAccess (request : UInt64) :
    (s.withAccess access).postReceive request =
      ((s.postReceive request).1, (s.postReceive request).2.withAccess access) := by
  have early (states : List QueuePairState) (names : String) :
      (s.withAccess access).queuePair.expect states names = s.queuePair.expect states names := rfl
  have room : (s.withAccess access).checkRoom = s.checkRoom := rfl
  rw [postReceive_eq, postReceive_eq, early, room]
  cases s.queuePair.expect [.init, .readyToReceive, .readyToSend] "INIT, RTR or RTS" with
  | error e => rfl
  | ok _ =>
    cases s.checkRoom with
    | error e => rfl
    | ok _ =>
      cases waiting : s.queuePair.work.held with
      | nil =>
        rw [meet_of_none waiting, meet_of_none (by rw [work_withAccess]; exact waiting)]
        rfl
      | cons held later =>
        rw [meet_of_held waiting, meet_of_held (by rw [work_withAccess]; exact waiting)]
        exact Prod.ext rfl (((s.withWork { s.queuePair.work with held := later }).reportMet
          request held).confirm_withAccess access held.sequence)

end Station

/-! ## Runs without the rights that are not looked at -/

/-- The event with what is left of rights. -/
def QueuePairEvent.remote : QueuePairEvent → QueuePairEvent
  | .toInit _ => .toInit Access.none
  | .postSend registrations send => .postSend registrations.remote send
  | .receive registrations byte => .receive registrations.remote byte
  | event => event

/-- The event with what is left of rights. -/
def SiteEvent.remote : SiteEvent → SiteEvent
  | .register id access draws => .register id access.remote draws
  | .toInit _ => .toInit Access.none
  | event => event

namespace Station

variable (s : Station)

/-- A call that makes the same of the queue pair with other rights makes the same of the
station. -/
theorem advance_withAccess {result bare : Except DeviceError QueuePair} (access : Access)
    (same : bare = result.map (QueuePair.withAccess · access)) :
    (s.withAccess access).advance bare = (s.advance result).withAccess access := by
  rw [same]
  cases result <;> rfl

theorem after_remote (event : QueuePairEvent) :
    (s.withAccess Access.none).after event.remote = (s.after event).withAccess Access.none := by
  cases event with
  | toInit access =>
    exact s.advance_withAccess _ (s.queuePair.toInit_withAccess Access.none access)
  | attach stream =>
    exact s.advance_withAccess _ (s.queuePair.attach_withAccess Access.none stream)
  | link peer ip conditions =>
    exact congrArg (fun queuePair => { s with queuePair := queuePair })
      (s.queuePair.toReadyToReceive_withAccess Access.none peer ip conditions)
  | start => exact s.advance_withAccess _ (s.queuePair.toReadyToSend_withAccess Access.none)
  | postSend registrations send =>
    exact congrArg Prod.snd (s.postSend_withAccess Access.none registrations send)
  | postReceive request => exact congrArg Prod.snd (s.postReceive_withAccess Access.none request)
  | receive registrations byte => exact s.feed_withAccess Access.none registrations byte
  | endOfStream => exact s.endOfStream_withAccess Access.none
  | poll most => rfl
  | remember memory => rfl

end Station

/-- The history with what is left of rights. -/
def History.remote (history : History) : History :=
  { history with station := history.station.withAccess Access.none }

/-- What an event takes on, takes out and takes off is not a matter of the other rights. -/
theorem History.step_remote (history : History) (event : QueuePairEvent) :
    (history.step event).remote = history.remote.step event.remote := by
  have station := history.station.after_remote event
  have accepts : accepts (history.station.withAccess Access.none) event.remote =
      accepts history.station event := by
    cases event with
    | postSend registrations send =>
      exact congrArg (fun r => Request.ofSend r.1 send)
        (history.station.postSend_withAccess Access.none registrations send)
    | postReceive request =>
      exact congrArg (fun r => Request.ofReceive r.1 request)
        (history.station.postReceive_withAccess Access.none request)
    | _ => rfl
  have takes : takes (history.station.withAccess Access.none) event.remote =
      takes history.station event := by
    cases event <;> rfl
  have reads : reads (history.station.withAccess Access.none) event.remote =
      reads history.station event := by
    cases event <;> rfl
  simp only [step, remote, station, accepts, takes, reads]

namespace Site

/-- The site with what is left of rights. -/
def remote (site : Site) : Site := ⟨site.device.remote, site.history.remote⟩

theorem meaning_remote (site : Site) (event : SiteEvent) :
    site.remote.meaning event.remote = (site.meaning event).remote := by
  cases event <;> rfl

theorem deviceAfter_remote (site : Site) (event : SiteEvent) :
    site.remote.deviceAfter event.remote = (site.deviceAfter event).remote := by
  cases event with
  | register id access draws =>
    have known : site.remote.memory.region? id = site.memory.region? id := rfl
    unfold deviceAfter SiteEvent.remote
    dsimp only
    rw [known]
    cases site.memory.region? id with
    | some region => exact site.device.register_remote id region access draws
    | none => rfl
  | deregister key => exact site.device.deregister_remote key
  | _ => rfl

/-- An event does without the rights that are not looked at what it does with them. -/
theorem remote_step (site : Site) (event : SiteEvent) :
    (site.step event).remote = site.remote.step event.remote := by
  show (⟨(site.deviceAfter event).remote, (site.history.step (site.meaning event)).remote⟩ : Site) =
    ⟨site.remote.deviceAfter event.remote,
      site.history.remote.step (site.remote.meaning event.remote)⟩
  rw [deviceAfter_remote, meaning_remote, History.step_remote]

theorem remote_run (site : Site) (events : List SiteEvent) :
    (site.run events).remote = site.remote.run (events.map SiteEvent.remote) := by
  induction events generalizing site with
  | nil => rfl
  | cons event rest ih => exact (ih (site.step event)).trans (by rw [remote_step]; rfl)

/-- A byte that completes a read request answers it as the registrations say. -/
theorem answered_read {site : Site} (sound : site.Sound) {byte : UInt8} {arrival : Arrival}
    (harr : site.history.station.arrival? site.table byte = some arrival)
    (request : arrival.header.opcode = Opcode.readRequest) :
    (site.step (.receive byte)).history.station =
      (site.history.station.withIntake (some (.header []))).answerRead site.table
        arrival.header := by
  obtain ⟨-, whole⟩ := sound.tracked.arrival harr
  have bare : arrival.disposal = none := by
    have asks : arrival.frame.isRequest = true :=
      Frame.isRequest_iff.mpr (Or.inr (Or.inr request))
    rcases Station.disposal_of_isRequest whole asks with ⟨-, bare⟩ | ⟨other, -⟩
    · exact bare
    · exact absurd request other
  refine (Station.feed_of_arrival harr).trans ?_
  simp only [Station.handle, bare, Station.takeBare, request, if_true]

/-- What a device looks at before it stores or discloses.  A byte of a region that the process
does not store changes with a write that a registration lets peers make, or with the data of an own
read; a read request is answered with data exactly if a registration lets peers read it.  Nothing
else is looked at: neither whether a registration lets the data of own reads be stored, nor which
rights the queue pair was initialized with. -/
theorem peers_rights_decide (profile : DeviceProfile) (address : QueuePairAddress)
    (linkTimeout : Milliseconds) (depth : Nat) (events : List SiteEvent) :
    let start := fresh profile address linkTimeout depth
    let site := start.run events
    (∀ event : SiteEvent, event.isStore = false → ∀ id i old new,
      site.memory.byte? id i = some old → (site.step event).memory.byte? id i = some new →
      new ≠ old → ∃ byte, event = .receive byte ∧
        ((∃ frame seen registration region,
          RemoteWrite start events byte id i frame seen registration region) ∨
        ∃ frame send offset, ReadData site byte id i frame send offset)) ∧
    (∀ byte arrival, site.history.station.arrival? site.table byte = some arrival →
      arrival.header.opcode = Opcode.readRequest →
      let waiting := site.history.station.withIntake (some (.header []))
      let sequence := arrival.header.sequence
      let length := arrival.header.length
      (∃ registration region, site.table.Readable arrival.header registration ∧
        site.memory.region? registration.region = some region ∧
        (site.step (.receive byte)).history.station =
          waiting.respond (Header.readResponse sequence Status.success.code length)
            (region.slice (arrival.header.address.toNat - registration.address.toNat)
              length.toNat)) ∨
      ((∀ registration, ¬ site.table.Readable arrival.header registration) ∧
        (site.step (.receive byte)).history.station =
          waiting.respond (Header.readResponse sequence Status.remoteAccess.code 0) [])) ∧
    ∀ events' : List SiteEvent, events'.map SiteEvent.remote = events.map SiteEvent.remote →
      (start.run events').remote = site.remote := by
  intro start site
  have sound : ∀ events, (start.run events).Sound :=
    (sound_fresh profile address linkTimeout depth).run
  refine ⟨?_, ?_, ?_⟩
  · intro event own id i old new before after differ
    exact changed_step sound (announced_run rfl events) own before after differ
  · intro byte arrival harr request waiting sequence length
    have answered := answered_read (sound events) harr request
    have describes : site.table.Describes waiting.memory := (sound events).describes
    rcases Station.answerRead_cases describes arrival.header with
      ⟨registration, region, readable, known, data⟩ | ⟨nobody, refused⟩
    · exact Or.inl ⟨registration, region, readable, known, answered.trans data⟩
    · exact Or.inr ⟨nobody, answered.trans refused⟩
  · intro events' same
    rw [remote_run, same]
    exact (remote_run start events).symm

theorem readyWith_fits : (4096 : UInt64).toNat + 4 < UInt64.size := by decide

/-- A region of four bytes is registered with rights, and a queue pair that was initialized with
rights is ready to send. -/
def readyWith (registered initialized : Access) : List SiteEvent :=
  let peer : QueuePairAddress := ⟨2, 0, 0, ⟨0⟩⟩
  [.reserve ⟨"region", 4096, 4, fun _ => 0, readyWith_fits⟩, .register ⟨0⟩ registered [2],
    .toInit initialized, .attach (Stream.ofBytes (Header.hello 2 1).toBytes false),
    .link peer (.v6 peer.gid.toIpv6) ⟨fun _ => .error .timedOut, none, 0⟩, .start]

/-- A read of two bytes is posted, and the peer answers it. -/
def twoBytesRead : List SiteEvent :=
  .postSend ⟨9, .read, 4096, 1, 2, 8192, 5⟩ ::
    ((Header.readResponse 1 Status.success.code 2).toBytes ++ [7, 8]).map .receive

/-- Without the right that data of own reads may be stored, and without any rights of the queue
pair, a site comes to the same as with all of them. -/
theorem ready_without_rights_alike :
    let start := fresh Device.softProfile ⟨1, 0, 0, ⟨0⟩⟩ ⟨1000⟩ 4
    (start.run (readyWith Access.all.remote Access.none ++ twoBytesRead)).remote =
      (start.run (readyWith Access.all Access.all ++ twoBytesRead)).remote :=
  (peers_rights_decide Device.softProfile ⟨1, 0, 0, ⟨0⟩⟩ ⟨1000⟩ 4
    (readyWith Access.all Access.all ++ twoBytesRead)).2.2
    (readyWith Access.all.remote Access.none ++ twoBytesRead) rfl

/-- The data of a read is stored in a region whose registration does not let it be stored, and what
a peer writes is stored behind a queue pair that was given no rights. -/
theorem stored_without_rights :
    let start := fresh Device.softProfile ⟨1, 0, 0, ⟨0⟩⟩ ⟨1000⟩ 4
    let guarded := start.run (readyWith ⟨false, true, true⟩ Access.all)
    let powerless := start.run (readyWith Access.all Access.none)
    (guarded.table.byLocalKey? 1).map (·.access.localWrite) = some false ∧
      guarded.memory.byte? ⟨0⟩ 0 = some 0 ∧
      (guarded.run twoBytesRead).memory.byte? ⟨0⟩ 0 = some 7 ∧
      powerless.history.station.queuePair.access.remoteWrite = false ∧
      powerless.memory.byte? ⟨0⟩ 2 = some 0 ∧
      (powerless.run twoBytesWritten).memory.byte? ⟨0⟩ 2 = some 7 := by
  decide +kernel

end Site

end RdmaLink
