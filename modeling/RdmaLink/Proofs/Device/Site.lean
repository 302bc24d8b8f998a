import RdmaLink.Device.Basic
import RdmaLink.Proofs.QueuePair.Framing

/-!
# A device at work

A site is a device with the memory of its process and one of its queue pairs.  Regions are
reserved, registered and given up, the process stores bytes of its own, and everything that can
happen to a queue pair happens to this one.  What another queue pair of the device stores is, for
this one, a store of the process.

Whatever happens, the registrations tell the places and the sizes of the regions
(`Site.Sound.describes`), and memory changes in three ways only (`Site.memory_step`).
-/

namespace RdmaLink

/-- A device that gives up a registration tells of the others as before. -/
theorem Device.describes_deregister {device : Device} {memory : Memory}
    (describes : device.registrations.Describes memory) (key : UInt32) :
    (device.deregister key).2.registrations.Describes memory := by
  unfold Device.deregister
  split
  · exact describes
  · split
    · next table removed => exact describes.remove removed
    · exact describes

/-- Something that happens at a site. -/
inductive SiteEvent where
  | reserve (region : Region)
  /-- The process stores bytes in a region. -/
  | store (id : RegionId) (offset : Nat) (data : Bytes)
  | register (id : RegionId) (access : Access) (draws : List UInt32)
  | deregister (key : UInt32)
  | toInit (access : Access)
  | attach (stream : Stream)
  | link (peer : QueuePairAddress) (ip : IpAddress) (conditions : LinkConditions)
  | start
  | postSend (send : SendRequest)
  | postReceive (request : UInt64)
  /-- The receive path takes the next byte off the stream. -/
  | receive (byte : UInt8)
  | endOfStream
  | poll (most : Nat)

/-- Whether an event is a store of the process. -/
def SiteEvent.isStore : SiteEvent → Bool
  | .store _ _ _ => true
  | _ => false

/-- A device with the memory of its process and one of its queue pairs. -/
structure Site where
  device : Device
  history : History

namespace Site

def memory (site : Site) : Memory := site.history.station.memory

def table (site : Site) : Registrations := site.device.registrations

/-- The bytes that the queue pair has taken off its stream. -/
def received (site : Site) : Bytes := site.history.received

/-- A device without registrations, a process without regions and a fresh queue pair. -/
def fresh (profile : DeviceProfile) (address : QueuePairAddress) (linkTimeout : Milliseconds)
    (depth : Nat) : Site :=
  ⟨Device.ofProfile profile, History.fresh address linkTimeout depth Memory.empty⟩

/-- The device after an event. -/
def deviceAfter (site : Site) : SiteEvent → Device
  | .register id access draws =>
    match site.memory.region? id with
    | some region => (site.device.register id region access draws).2
    | none => site.device
  | .deregister key => (site.device.deregister key).2
  | _ => site.device

/-- What an event is for the queue pair. -/
def meaning (site : Site) : SiteEvent → QueuePairEvent
  | .reserve region => .remember (site.memory.add region).2
  | .store id offset data => .remember (site.memory.stored (some (id, offset)) data)
  | .register _ _ _ => .remember site.memory
  | .deregister _ => .remember site.memory
  | .toInit access => .toInit access
  | .attach stream => .attach stream
  | .link peer ip conditions => .link peer ip conditions
  | .start => .start
  | .postSend send => .postSend site.table send
  | .postReceive request => .postReceive request
  | .receive byte => .receive site.table byte
  | .endOfStream => .endOfStream
  | .poll most => .poll most

def step (site : Site) (event : SiteEvent) : Site :=
  ⟨site.deviceAfter event, site.history.step (site.meaning event)⟩

def run (site : Site) (events : List SiteEvent) : Site := events.foldl step site

theorem run_append (site : Site) (a b : List SiteEvent) :
    site.run (a ++ b) = (site.run a).run b := List.foldl_append

theorem run_concat (site : Site) (events : List SiteEvent) (event : SiteEvent) :
    site.run (events ++ [event]) = (site.run events).step event := by
  rw [run_append]; rfl

/-- What holds of a fresh site and is kept by every event holds after every run. -/
theorem run_induction {P : Site → Prop} {site : Site} (base : P site)
    (keep : ∀ s event, P s → P (s.step event)) (events : List SiteEvent) :
    P (site.run events) := by
  induction events generalizing site with
  | nil => exact base
  | cons event rest ih => exact ih (keep site event base)

/-! ## Received bytes -/

/-- An event takes a byte off the stream or none. -/
theorem received_step (site : Site) (event : SiteEvent) :
    (∃ byte, event = .receive byte ∧ (site.step event).received = site.received ++ [byte]) ∨
      (site.step event).received = site.received := by
  have none (other : History.reads site.history.station (site.meaning event) = []) :
      (site.step event).received = site.received := by
    show site.history.received ++ History.reads site.history.station (site.meaning event) = _
    rw [other, List.append_nil]
    rfl
  cases event with
  | receive byte =>
    by_cases hi : site.history.station.queuePair.intake.isSome = true
    · refine Or.inl ⟨byte, rfl, ?_⟩
      simp only [received, step, meaning, History.step, History.reads, hi, if_true]
    · refine Or.inr (none ?_)
      simp only [meaning, History.reads, hi]
      rfl
  | _ => exact Or.inr (none rfl)

/-- What has been received stays in front. -/
theorem received_run (site : Site) (events : List SiteEvent) :
    ∃ more, (site.run events).received = site.received ++ more := by
  refine run_induction (P := fun s => ∃ more, s.received = site.received ++ more)
    ⟨[], by simp⟩ ?_ events
  rintro s event ⟨more, h⟩
  rcases received_step s event with ⟨byte, -, hs⟩ | hs
  · exact ⟨more ++ [byte], by rw [hs, h, List.append_assoc]⟩
  · exact ⟨more, by rw [hs, h]⟩

/-! ## Memory -/

/-- Only what the process does and the last byte of a frame change the memory. -/
theorem memory_step {site : Site} (tracked : site.history.Tracked) (event : SiteEvent) :
    (∃ region, event = .reserve region ∧
      (site.step event).memory = (site.memory.add region).2) ∨
    (∃ id offset data, event = .store id offset data ∧
      (site.step event).memory = site.memory.stored (some (id, offset)) data) ∨
    (∃ byte arrival, event = .receive byte ∧
      site.history.station.arrival? site.table byte = some arrival ∧
      (site.step event).memory =
        site.memory.stored (site.history.station.place? arrival) arrival.payload) ∨
    (site.step event).memory = site.memory := by
  have advanced (result : Except DeviceError QueuePair) :
      (site.history.station.advance result).memory = site.memory := by
    cases result <;> rfl
  cases event with
  | reserve region => exact Or.inl ⟨region, rfl, rfl⟩
  | store id offset data => exact Or.inr (Or.inl ⟨id, offset, data, rfl, rfl⟩)
  | register id access draws => exact Or.inr (Or.inr (Or.inr rfl))
  | deregister key => exact Or.inr (Or.inr (Or.inr rfl))
  | toInit access => exact Or.inr (Or.inr (Or.inr (advanced _)))
  | attach stream => exact Or.inr (Or.inr (Or.inr (advanced _)))
  | link peer ip conditions => exact Or.inr (Or.inr (Or.inr rfl))
  | start => exact Or.inr (Or.inr (Or.inr (advanced _)))
  | postSend send => exact Or.inr (Or.inr (Or.inr (Station.memory_postSend _ _ _)))
  | postReceive request => exact Or.inr (Or.inr (Or.inr (Station.memory_postReceive _ _)))
  | receive byte =>
    refine Or.inr (Or.inr ?_)
    cases harr : site.history.station.arrival? site.table byte with
    | none =>
      refine Or.inr ?_
      show (site.history.station.feed site.table byte).memory = site.memory
      rw [Station.feed_of_no_arrival harr]
      rfl
    | some arrival =>
      refine Or.inl ⟨byte, arrival, rfl, harr, ?_⟩
      show (site.history.station.feed site.table byte).memory = _
      rw [Station.feed_of_arrival harr, Station.memory_handle _ _ (tracked.arrival harr).2]
      rfl
  | endOfStream => exact Or.inr (Or.inr (Or.inr (Station.memory_endOfStream _)))
  | poll most => exact Or.inr (Or.inr (Or.inr rfl))

/-- What holds of a site after every run. -/
structure Sound (site : Site) : Prop where
  kept : site.history.Kept
  tracked : site.history.Tracked
  describes : site.table.Describes site.memory

theorem sound_fresh (profile : DeviceProfile) (address : QueuePairAddress)
    (linkTimeout : Milliseconds) (depth : Nat) :
    Sound (fresh profile address linkTimeout depth) :=
  ⟨History.kept_fresh _ _ _ _, History.tracked_fresh _ _ _ _,
    Registrations.describes_empty Memory.empty⟩

theorem keeps_step {site : Site} (tracked : site.history.Tracked) (event : SiteEvent) :
    Memory.Keeps site.memory (site.step event).memory := by
  rcases memory_step tracked event with ⟨region, -, h⟩ | ⟨id, offset, data, -, h⟩ |
    ⟨byte, arrival, -, -, h⟩ | h
  · rw [h]; exact Memory.keeps_add _ _
  · rw [h]; exact Memory.keeps_stored _ _ _
  · rw [h]; exact Memory.keeps_stored _ _ _
  · rw [h]; exact Memory.Keeps.refl _

/-- What a device registers is there. -/
theorem describes_device {site : Site} (sound : site.Sound) (event : SiteEvent) :
    (site.deviceAfter event).registrations.Describes site.memory := by
  have same : site.device.registrations.Describes site.memory := sound.describes
  cases event with
  | register id access draws =>
    simp only [deviceAfter]
    split
    · next region hr =>
      unfold Device.register
      split
      · exact same
      · split
        · exact same
        · exact same.insert hr access draws
    · exact same
  | deregister key => exact Device.describes_deregister same key
  | _ => exact same

theorem Sound.step {site : Site} (sound : site.Sound) (event : SiteEvent) :
    (site.step event).Sound :=
  ⟨sound.kept.step _, sound.tracked.step sound.kept _,
    (describes_device sound event).keeps (keeps_step sound.tracked event)⟩

theorem Sound.run {site : Site} (sound : site.Sound) (events : List SiteEvent) :
    (site.run events).Sound :=
  run_induction sound (fun _ event h => h.step event) events

/-- Regions stay where they are through a run. -/
theorem keeps_run {start : Site} (sound : ∀ events, (start.run events).Sound)
    (events later : List SiteEvent) :
    Memory.Keeps (start.run events).memory (start.run (events ++ later)).memory := by
  rw [run_append]
  refine (run_induction (P := fun s => s.Sound ∧ Memory.Keeps (start.run events).memory s.memory)
    ⟨sound events, Memory.Keeps.refl _⟩ ?_ later).2
  rintro s e ⟨hs, hk⟩
  exact ⟨hs.step e, hk.trans (keeps_step hs.tracked e)⟩

end Site

end RdmaLink
