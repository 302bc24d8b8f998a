import RdmaLink.Proofs.Device.Confinement
import RdmaLink.Proofs.QueuePair.Matching

/-!
# Receives at a device

A write with immediate is allowed or not by what the device's registrations say when its header is
complete, and one that is allowed can be stored when its payload is there, for regions neither
move nor shrink.  So at a device the pairs of receives and writes are known from the posts and the
frames alone, as long as the queue pair has not failed:

    the i-th completed receive is the i-th receive that was posted, and tells the immediate and
    the length of the i-th write with immediate that was allowed
    an allowed write is acknowledged once, when it has its receive
    any other is turned down at once                        (Site.receives_matched_in_order)
-/

namespace RdmaLink

namespace Site

/-! ## Frames and messages of a run -/

/-- What each event of a run gives, one after the other. -/
def gather {α : Type} (f : Site → SiteEvent → List α) : Site → List SiteEvent → List α
  | _, [] => []
  | site, event :: rest => f site event ++ gather f (site.step event) rest

theorem gather_concat {α : Type} (f : Site → SiteEvent → List α) (site : Site)
    (events : List SiteEvent) (event : SiteEvent) :
    gather f site (events ++ [event]) = gather f site events ++ f (site.run events) event := by
  induction events generalizing site with
  | nil => simp [gather, run]
  | cons first rest ih =>
    simp only [List.cons_append, gather, ih, List.append_assoc]
    rfl

/-- The frame that an event completes. -/
def arrives (site : Site) (event : SiteEvent) : List Arrival :=
  History.arrives site.history.station (site.meaning event)

/-- The messages that an event writes to the link. -/
def wrote (site : Site) (event : SiteEvent) : List Bytes :=
  site.history.station.newMessages (site.step event).history.station

/-- The frames that arrive in a run. -/
def arrivals (site : Site) (events : List SiteEvent) : List Arrival := gather arrives site events

/-- The messages that a run writes to the link. -/
def messages (site : Site) (events : List SiteEvent) : List Bytes := gather wrote site events

variable {start : Site}

theorem alive_of_run {before later : List SiteEvent}
    (alive : (start.run (before ++ later)).history.station.queuePair.state ≠ .error) :
    (start.run before).history.station.queuePair.state ≠ .error := by
  intro failed
  rw [run_append] at alive
  refine alive (run_induction (P := fun s => s.history.station.queuePair.state = .error) failed
    (fun s event failed => ?_) later)
  exact History.failed_after (s.meaning event) failed

theorem mem_arrives {site : Site} {event : SiteEvent} {arrival : Arrival}
    (h : arrival ∈ site.arrives event) :
    ∃ byte, event = .receive byte ∧
      site.history.station.arrival? site.table byte = some arrival := by
  cases event with
  | receive byte => exact ⟨byte, rfl, by simpa [arrives, meaning, History.arrives] using h⟩
  | _ => simp [arrives, meaning, History.arrives] at h

/-! ## Allowed writes are stored -/

/-- A write that was allowed when its header was complete can be stored now. -/
theorem stored_of_arrival (idle : start.history.station.queuePair.intake = none)
    (sound : ∀ events, (start.run events).Sound) {events : List SiteEvent} {byte : UInt8}
    {arrival : Arrival} {region : RegionId} {offset : Nat}
    (harr : (start.run events).history.station.arrival? (start.run events).table byte =
      some arrival) (hd : arrival.disposal = some (.store region offset)) :
    ∃ memory, (start.run events).memory.write region offset arrival.payload = .ok memory := by
  obtain ⟨-, harrival⟩ := (sound events).tracked.arrival harr
  have length : arrival.payload.length = arrival.header.length.toNat :=
    harrival.length.trans (harrival.suits _ hd).payloadLength
  obtain ⟨seen, ⟨first, rest, split, -⟩, htarget⟩ := (settled_run idle events).arrival harr hd
  obtain ⟨known, hr, room⟩ := (sound seen).describes.room htarget
  have front : seen <+: events := by
    have whole : seen <+: events ++ [.receive byte] := ⟨_, split.symm⟩
    rcases List.prefix_concat_iff.mp whole with all | part
    · rw [all] at split
      simp at split
    · exact part
  obtain ⟨later, rfl⟩ := front
  obtain ⟨now, hnow, -, size⟩ := keeps_run sound seen later region known hr
  exact ⟨_, Memory.write_of_room hnow (by omega)⟩

/-! ## Pairs -/

/-- The pairs are in order after every run that the queue pair survives. -/
theorem matched_run (profile : DeviceProfile) (address : QueuePairAddress)
    (linkTimeout : Milliseconds) (depth : Nat) (events : List SiteEvent)
    (alive : ((fresh profile address linkTimeout depth).run
      events).history.station.queuePair.state ≠ .error) :
    History.Matched ((fresh profile address linkTimeout depth).run events).history
      ((fresh profile address linkTimeout depth).arrivals events)
      (((fresh profile address linkTimeout depth).messages events).filterMap
        acknowledgement?) := by
  set start := fresh profile address linkTimeout depth with hstart
  have sound : ∀ events, (start.run events).Sound :=
    (sound_fresh profile address linkTimeout depth).run
  induction events using List.reverseRecOn with
  | nil => exact History.matched_fresh address linkTimeout depth Memory.empty
  | append_singleton events event ih =>
    have before := ih (alive_of_run alive)
    rw [arrivals, messages, gather_concat, gather_concat, List.filterMap_append]
    rw [run_concat] at alive ⊢
    refine before.step (sound events).kept (sound events).tracked _ alive ?_
    intro arrival arrives region offset hd
    obtain ⟨byte, rfl, harr⟩ := mem_arrives arrives
    exact stored_of_arrival rfl sound harr hd

/-- The bytes that were received are the frames that arrived and part of the next one. -/
theorem framed_run (profile : DeviceProfile) (address : QueuePairAddress)
    (linkTimeout : Milliseconds) (depth : Nat) (events : List SiteEvent) :
    History.Framed ((fresh profile address linkTimeout depth).run events).history
      ((fresh profile address linkTimeout depth).arrivals events) := by
  have sound := (sound_fresh profile address linkTimeout depth).run
  induction events using List.reverseRecOn with
  | nil => exact History.framed_fresh address linkTimeout depth Memory.empty
  | append_singleton events event ih =>
    rw [arrivals, gather_concat, run_concat]
    exact ih.step (sound events).tracked _

/-- Whether a write with immediate was allowed is what the registrations said when its header was
complete. -/
theorem granted_of_arrival (idle : start.history.station.queuePair.intake = none)
    (sound : ∀ events, (start.run events).Sound) {events : List SiteEvent} {byte : UInt8}
    {arrival : Arrival}
    (harr : (start.run events).history.station.arrival? (start.run events).table byte =
      some arrival) (immediate : arrival.header.opcode = Opcode.writeWithImmediate) :
    ∃ seen, HeaderRead start (events ++ [.receive byte]) arrival.payload seen ∧
      arrival.granted?.isSome = ((start.run seen).table.target? arrival.header.key
        arrival.header.address arrival.header.length ⟨false, true, false⟩).isSome ∧
      (arrival.granted? = none → arrival.disposal = some .refuse) := by
  obtain ⟨-, harrival⟩ := (sound events).tracked.arrival harr
  cases hd : arrival.disposal with
  | none =>
    have payload : arrival.header.HasPayload := Or.inr (Or.inl immediate)
    exact absurd payload (harrival.bare hd)
  | some disposal =>
    have suits := harrival.suits disposal hd
    obtain ⟨seen, header, settled⟩ := (settled_run idle events).arrival harr hd
    refine ⟨seen, header, ?_⟩
    cases disposal with
    | store region offset =>
      have target : (start.run seen).table.target? arrival.header.key arrival.header.address
        arrival.header.length ⟨false, true, false⟩ = some (region, offset) := settled
      simp [Arrival.granted?, hd, immediate, target]
    | refuse =>
      have target : (start.run seen).table.target? arrival.header.key arrival.header.address
        arrival.header.length ⟨false, true, false⟩ = none := settled
      simp [Arrival.granted?, hd, target]
    | answer =>
      rw [suits.1] at immediate
      cases immediate
    | unwanted =>
      rw [suits.1] at immediate
      cases immediate

/-- A write that was not allowed is turned down at once, and nothing else happens. -/
theorem refused_step {site : Site} {byte : UInt8} {arrival : Arrival}
    (harr : site.history.station.arrival? site.table byte = some arrival)
    (refused : arrival.disposal = some .refuse)
    (alive : (site.step (.receive byte)).history.station.queuePair.state ≠ .error) :
    site.wrote (.receive byte) =
        [(Header.acknowledgement arrival.header.sequence Status.remoteAccess.code).toBytes] ∧
      (site.step (.receive byte)).history.station.queuePair.work =
        site.history.station.queuePair.work ∧
      (site.step (.receive byte)).history.station.completions =
        site.history.station.completions := by
  have now : (site.step (.receive byte)).history.station =
      (site.history.station.withIntake (some (.header []))).acknowledge arrival.header.sequence
        .remoteAccess := by
    show site.history.station.feed site.table byte = _
    rw [Station.feed_of_arrival harr, Station.handle, refused]
    rfl
  rw [now] at alive
  have done := Station.acknowledge_wrote alive
  refine ⟨?_, ?_, ?_⟩
  · rw [wrote, now]
    exact done.message
  · rw [now]
    exact done.work
  · rw [now]
    exact done.completions

/-- As long as a queue pair has not failed, receives and allowed writes with immediate are matched
in the order in which they came, whichever waits for the other; an allowed write is acknowledged
once, when the receive that it has got is completed, and one that is not allowed consumes no
receive and is turned down at once. -/
theorem receives_matched_in_order (profile : DeviceProfile) (address : QueuePairAddress)
    (linkTimeout : Milliseconds) (depth : Nat) (events : List SiteEvent)
    (alive : ((fresh profile address linkTimeout depth).run
      events).history.station.queuePair.state ≠ .error) :
    let start := fresh profile address linkTimeout depth
    let site := start.run events
    let work := site.history.station.queuePair.work
    let receives := site.history.accepted.filterMap Request.asReceive?
    let writes := (start.arrivals events).filterMap Arrival.granted?
    (work.receives = [] ∨ work.held = []) ∧
      site.history.log.filterMap Completion.consumption? =
        List.zipWith Consumption.of receives writes ∧
      (site.history.log.filterMap Completion.consumption?).length =
        min receives.length writes.length ∧
      ((start.messages events).filterMap acknowledgement?).Perm
        ((start.arrivals events).filterMap Arrival.prompt? ++
          (writes.take receives.length).map HeldImmediate.success) ∧
      (∀ intake, site.history.station.queuePair.intake = some intake →
        site.received =
          (start.arrivals events).flatMap (fun a => a.frame.toBytes) ++ intake.bytes) ∧
      ∀ before byte later arrival, events = before ++ .receive byte :: later →
        arrival ∈ (start.run before).arrives (.receive byte) →
        arrival.header.opcode = Opcode.writeWithImmediate →
        ∃ seen, HeaderRead start (before ++ [.receive byte]) arrival.payload seen ∧
          arrival.granted?.isSome = ((start.run seen).table.target? arrival.header.key
            arrival.header.address arrival.header.length ⟨false, true, false⟩).isSome ∧
          (arrival.granted? = none →
            (start.run before).wrote (.receive byte) =
              [(Header.acknowledgement arrival.header.sequence
                Status.remoteAccess.code).toBytes] ∧
            (start.run (before ++ [.receive byte])).history.station.queuePair.work =
              (start.run before).history.station.queuePair.work ∧
            (start.run (before ++ [.receive byte])).history.station.completions =
              (start.run before).history.station.completions) := by
  intro start site work receives writes
  have sound : ∀ events, (start.run events).Sound :=
    (sound_fresh profile address linkTimeout depth).run
  have matched := matched_run profile address linkTimeout depth events alive
  have framed := framed_run profile address linkTimeout depth events
  refine ⟨matched.apart, matched.completed, ?_, matched.acknowledged, framed.rest, ?_⟩
  · rw [matched.completed, List.length_zipWith]
  · intro before byte later arrival split arrives immediate
    obtain ⟨byte', same, harr⟩ := mem_arrives arrives
    cases same
    have outlived : (start.run ((before ++ [.receive byte]) ++
        later)).history.station.queuePair.state ≠ .error := by
      rw [List.append_assoc, List.singleton_append, ← split]
      exact alive
    have survived := alive_of_run outlived
    obtain ⟨seen, header, granted, refused⟩ := granted_of_arrival rfl sound harr immediate
    refine ⟨seen, header, granted, fun none => ?_⟩
    rw [run_concat] at survived ⊢
    exact refused_step harr (refused none) survived

/-- The peer writes two bytes with an immediate, and a receive is posted after that. -/
def writeThenReceive : List SiteEvent :=
  registeredRegion ++ ((Header.write 1 4098 3 2 (some 9)).toBytes ++ [7, 8]).map .receive ++
    [.postReceive 5]

theorem held_write_meets_receive :
    ((fresh Device.softProfile ⟨1, 0, 0, ⟨0⟩⟩ ⟨1000⟩ 4).run
        writeThenReceive).history.station.queuePair.state ≠ .error ∧
      ((fresh Device.softProfile ⟨1, 0, 0, ⟨0⟩⟩ ⟨1000⟩ 4).run
        writeThenReceive).history.log.filterMap Completion.consumption? =
          [⟨5, .success, 2, some 9⟩] := by
  have alive : ((fresh Device.softProfile ⟨1, 0, 0, ⟨0⟩⟩ ⟨1000⟩ 4).run
      writeThenReceive).history.station.queuePair.state ≠ .error := by decide +kernel
  have receives : ((fresh Device.softProfile ⟨1, 0, 0, ⟨0⟩⟩ ⟨1000⟩ 4).run
      writeThenReceive).history.accepted.filterMap Request.asReceive? = [5] := by decide +kernel
  have writes : ((fresh Device.softProfile ⟨1, 0, 0, ⟨0⟩⟩ ⟨1000⟩ 4).arrivals
      writeThenReceive).filterMap Arrival.granted? = [⟨1, 9, 2⟩] := by decide +kernel
  have matched := (receives_matched_in_order Device.softProfile ⟨1, 0, 0, ⟨0⟩⟩ ⟨1000⟩ 4
    writeThenReceive alive).2.1
  rw [receives, writes] at matched
  exact ⟨alive, matched⟩

end Site

end RdmaLink
