import RdmaLink.Proofs.Device.Keys
import RdmaLink.Proofs.Since

/-!
# Lifetimes of registrations

Regions are registered with a device and registrations are given up, and what that gave is a trace.
From the trace alone one can tell which registrations are outstanding: they were given out and not
given up.  A registration is live as long as, besides, its local key was not given out again.  The
table of the device holds the live ones:

    r ∈ device.registrations.entries ↔ trace.Live r
    trace.Apart ↔ device.registrations.count + trace.deregistrations = trace.registrations
    trace.Apart → (trace.Live r ↔ trace.Outstanding r)
    trace.registrations < 2 ^ 32 → trace.Apart

Here `trace.Apart` says that no local key was given out while a registration under it was
outstanding.  Remote keys are compared with those in use before one is given out, local keys are
not: they go round, and a registration that outlives a whole round is displaced
(`Device.displaced_by_round`).
-/

namespace RdmaLink

/-! ## Calls and traces -/

/-- A call about a registration; a region is registered with the words that are drawn for its
remote key. -/
inductive KeyCall where
  | register (id : RegionId) (region : Region) (access : Access) (draws : List UInt32)
  | deregister (key : UInt32)

/-- What such a call gave. -/
inductive KeyEvent where
  | registered (outcome : Except DeviceError Registration)
  | deregistered (key : UInt32) (outcome : Except DeviceError Unit)

/-- What calls gave, in order. -/
abbrev KeyTrace := List KeyEvent

namespace KeyTrace

def isRegistration : KeyEvent → Bool
  | .registered (.ok _) => true
  | _ => false

def isDeregistration : KeyEvent → Bool
  | .deregistered _ (.ok _) => true
  | _ => false

/-- The call came to nothing. -/
def IsRefusal (event : KeyEvent) : Prop :=
  isRegistration event = false ∧ isDeregistration event = false

/-- How many registrations were given out. -/
def registrations (trace : KeyTrace) : Nat := trace.countP isRegistration

/-- How many registrations were given up. -/
def deregistrations (trace : KeyTrace) : Nat := trace.countP isDeregistration

/-- The registration was given out and not given up. -/
def Outstanding (trace : KeyTrace) (r : Registration) : Prop :=
  Since (fun event => event = .registered (.ok r))
    (fun event => event = .deregistered r.localKey (.ok ())) trace

/-- The registration was given out and not given up, and its local key was not given out again. -/
def Live (trace : KeyTrace) (r : Registration) : Prop :=
  Since (fun event => event = .registered (.ok r))
    (fun event => event = .deregistered r.localKey (.ok ()) ∨
      ∃ s, event = .registered (.ok s) ∧ s.localKey = r.localKey) trace

/-- No local key was given out while a registration under it was outstanding. -/
def Apart (trace : KeyTrace) : Prop :=
  ∀ before s after, trace = before ++ .registered (.ok s) :: after →
    ∀ r, Outstanding before r → r.localKey ≠ s.localKey

variable {trace : KeyTrace} {event : KeyEvent} {r s : Registration} {key : UInt32}

theorem registrations_cons :
    registrations (event :: trace) = trace.registrations + if isRegistration event then 1 else 0 :=
  List.countP_cons

theorem deregistrations_cons :
    deregistrations (event :: trace) =
      trace.deregistrations + if isDeregistration event then 1 else 0 :=
  List.countP_cons

theorem apart_nil : Apart [] := by
  intro before s after split
  cases before <;> cases split

theorem apart_concat :
    Apart (trace ++ [event]) ↔ Apart trace ∧
      ∀ s, event = .registered (.ok s) → ∀ r, trace.Outstanding r → r.localKey ≠ s.localKey := by
  constructor
  · intro apart
    refine ⟨fun before s after split => ?_, fun s same => ?_⟩
    · exact apart before s (after ++ [event]) (by rw [split]; simp)
    · exact apart trace s [] (by rw [same])
  · rintro ⟨apart, last⟩ before s after split
    rcases parts_concat split with ⟨rfl, same, -⟩ | ⟨between, -, former⟩
    · exact last s same.symm
    · exact apart before s between former

theorem Live.outstanding (live : trace.Live r) : trace.Outstanding r := by
  obtain ⟨earlier, event, later, split, begun, goesOn⟩ := live
  exact ⟨earlier, event, later, split, begun, fun other listed ends =>
    goesOn other listed (Or.inl ends)⟩

/-! ### After a registration -/

theorem counts_registered (trace : KeyTrace) (s : Registration) :
    registrations (trace ++ [.registered (.ok s)]) = trace.registrations + 1 ∧
      deregistrations (trace ++ [.registered (.ok s)]) = trace.deregistrations := by
  simp [registrations, deregistrations, isRegistration, isDeregistration]

theorem live_registered :
    Live (trace ++ [.registered (.ok s)]) r ↔ r = s ∨ (trace.Live r ∧ r.localKey ≠ s.localKey) := by
  rw [Live, since_concat, ← Live]
  simp [eq_comm]

theorem outstanding_registered :
    Outstanding (trace ++ [.registered (.ok s)]) r ↔ r = s ∨ trace.Outstanding r := by
  rw [Outstanding, since_concat, ← Outstanding]
  simp [eq_comm]

theorem apart_registered :
    Apart (trace ++ [.registered (.ok s)]) ↔
      trace.Apart ∧ ∀ r, trace.Outstanding r → r.localKey ≠ s.localKey := by
  simp [apart_concat]

/-! ### After a registration was given up -/

theorem counts_deregistered (trace : KeyTrace) (key : UInt32) :
    registrations (trace ++ [.deregistered key (.ok ())]) = trace.registrations ∧
      deregistrations (trace ++ [.deregistered key (.ok ())]) = trace.deregistrations + 1 := by
  simp [registrations, deregistrations, isRegistration, isDeregistration]

theorem live_deregistered :
    Live (trace ++ [.deregistered key (.ok ())]) r ↔ trace.Live r ∧ r.localKey ≠ key := by
  rw [Live, since_concat, ← Live]
  simp [eq_comm]

theorem outstanding_deregistered :
    Outstanding (trace ++ [.deregistered key (.ok ())]) r ↔
      trace.Outstanding r ∧ r.localKey ≠ key := by
  rw [Outstanding, since_concat, ← Outstanding]
  simp [eq_comm]

theorem apart_deregistered :
    Apart (trace ++ [.deregistered key (.ok ())]) ↔ trace.Apart := by
  simp [apart_concat]

/-! ### After a refusal -/

theorem IsRefusal.outcome (refused : IsRefusal event) :
    (∀ r, event ≠ .registered (.ok r)) ∧ ∀ key, event ≠ .deregistered key (.ok ()) := by
  constructor
  · rintro r rfl
    cases refused.1
  · rintro key rfl
    cases refused.2

theorem counts_refused (trace : KeyTrace) (refused : IsRefusal event) :
    registrations (trace ++ [event]) = trace.registrations ∧
      deregistrations (trace ++ [event]) = trace.deregistrations := by
  simp [registrations, deregistrations, refused.1, refused.2]

theorem live_refused (refused : IsRefusal event) : Live (trace ++ [event]) r ↔ trace.Live r := by
  rw [Live, since_concat, ← Live]
  simp [refused.outcome]

theorem outstanding_refused (refused : IsRefusal event) :
    Outstanding (trace ++ [event]) r ↔ trace.Outstanding r := by
  rw [Outstanding, since_concat, ← Outstanding]
  simp [refused.outcome]

theorem apart_refused (refused : IsRefusal event) : Apart (trace ++ [event]) ↔ trace.Apart := by
  simp [apart_concat, refused.outcome]

end KeyTrace

/-! ## Running the calls -/

namespace Registrations

variable {table : Registrations} {r : Registration}

/-- Without the local key of a registration the table is without that registration. -/
theorem Keyed.entries_without (keyed : table.Keyed) (listed : r ∈ table.entries) :
    (table.without r.localKey).entries = table.entries.erase r := by
  rw [(List.Nodup.of_map _ keyed.localKeys).erase_eq_filter]
  refine List.filter_congr fun other present => ?_
  have same : other.localKey = r.localKey ↔ other = r :=
    ⟨fun same => List.inj_on_of_nodup_map keyed.localKeys present listed same,
      fun same => same ▸ rfl⟩
  rw [Bool.eq_iff_iff, bne_iff_ne, bne_iff_ne]
  exact not_congr same

theorem mem_without {key : UInt32} :
    r ∈ (table.without key).entries ↔ r ∈ table.entries ∧ r.localKey ≠ key := by
  simp [without]

theorem mem_having {s : Registration} :
    r ∈ (table.having s).entries ↔ r = s ∨ (r ∈ table.entries ∧ r.localKey ≠ s.localKey) := by
  simp [having, without, or_comm]

theorem count_without_le (table : Registrations) (key : UInt32) :
    (table.without key).count ≤ table.count :=
  List.length_filter_le _ _

theorem count_without_eq_iff {key : UInt32} :
    (table.without key).count = table.count ↔ (table.without key).entries = table.entries := by
  simp only [count, without, List.length_filter_eq_length_iff, List.filter_eq_self]

theorem count_having : (table.having r).count = (table.without r.localKey).count + 1 :=
  List.length_append

end Registrations

namespace Device

open KeyTrace

/-- Serves a call. -/
def serve (device : Device) : KeyCall → KeyEvent × Device
  | .register id region access draws =>
    let (outcome, next) := device.register id region access draws
    (.registered outcome, next)
  | .deregister key =>
    let (outcome, next) := device.deregister key
    (.deregistered key outcome, next)

/-- The trace of calls that are made one after the other, and the device after them. -/
def serveAll (device : Device) : List KeyCall → KeyTrace × Device
  | [] => ([], device)
  | call :: rest =>
    let (event, next) := device.serve call
    let (later, last) := next.serveAll rest
    (event :: later, last)

/-- Whenever a remote key was drawn, there was one that was not in use. -/
def Drawn (device : Device) : List KeyCall → Prop
  | [] => True
  | call :: rest =>
    (∀ r, (device.serve call).1 = .registered (.ok r) → device.registrations.HasFreeKey) ∧
      (device.serve call).2.Drawn rest

/-! ## What single calls do -/

variable {device : Device} {trace : KeyTrace} {r : Registration} {key : UInt32}

theorem refusal_soft (profile : device.profile = softProfile) (call : DeviceCall) :
    device.refusal call = none :=
  if_neg (by rw [profile]; exact List.not_mem_nil)

theorem register_soft (profile : device.profile = softProfile) (id : RegionId) (region : Region)
    (access : Access) (draws : List UInt32) (fits : region.size ≤ Region.maxSize) :
    device.register id region access draws =
      (.ok (device.registrations.insert id region access draws).1,
        { device with
          registrations := (device.registrations.insert id region access draws).2 }) := by
  have fits : ¬ device.profile.maxRegion < region.size := by rw [profile]; exact Nat.not_lt.mpr fits
  unfold register
  rw [refusal_soft profile]
  exact if_neg fits

theorem register_soft_large (profile : device.profile = softProfile) (id : RegionId)
    (region : Region) (access : Access) (draws : List UInt32)
    (large : Region.maxSize < region.size) :
    device.register id region access draws =
      (.error (.exhausted "region exceeds max_mr_size"), device) := by
  have large : device.profile.maxRegion < region.size := by rw [profile]; exact large
  unfold register
  rw [refusal_soft profile]
  exact if_pos large

theorem deregister_soft (profile : device.profile = softProfile)
    (listed : r ∈ device.registrations.entries) :
    device.deregister r.localKey =
      (.ok (), { device with registrations := device.registrations.without r.localKey }) := by
  have known : (device.registrations.byLocalKey? r.localKey).isSome = true :=
    List.find?_isSome.mpr ⟨r, listed, beq_self_eq_true _⟩
  unfold deregister Registrations.remove?
  rw [refusal_soft profile, known]
  rfl

theorem deregister_soft_unknown (profile : device.profile = softProfile)
    (unknown : ∀ r ∈ device.registrations.entries, r.localKey ≠ key) :
    device.deregister key = (.error (.invalidKey key), device) := by
  have none : device.registrations.byLocalKey? key = none :=
    List.find?_eq_none.mpr fun r listed => by simpa using unknown r listed
  unfold deregister Registrations.remove?
  rw [refusal_soft profile, none]
  rfl

/-! ## What the trace tells of the device -/

/-- A device is as the trace of its registrations tells. -/
structure Accounts (trace : KeyTrace) (device : Device) : Prop where
  profile : device.profile = softProfile
  keyed : device.registrations.Keyed
  proper : ∀ r ∈ device.registrations.entries, r.localKey ≠ 0 ∧ r.remoteKey.toNat % 2 = 1
  live : ∀ r, r ∈ device.registrations.entries ↔ trace.Live r
  /-- Local keys have gone as far round as there were registrations. -/
  turn : device.registrations.lastKey.toNat % (2 ^ 32 - 1) = trace.registrations % (2 ^ 32 - 1)
  /-- In the first round local keys count up. -/
  below : ∀ r, trace.Outstanding r → trace.registrations < 2 ^ 32 →
    r.localKey.toNat ≤ trace.registrations
  most : device.registrations.count + trace.deregistrations ≤ trace.registrations
  exact : device.registrations.count + trace.deregistrations = trace.registrations ↔ trace.Apart
  found : trace.Apart → ∀ r, trace.Outstanding r → trace.Live r
  few : trace.registrations < 2 ^ 32 → trace.Apart

theorem accounts_soft : Accounts [] soft where
  profile := rfl
  keyed := Registrations.keyed_empty
  proper := fun _ listed => absurd listed List.not_mem_nil
  live := fun _ =>
    ⟨fun listed => absurd listed List.not_mem_nil, fun live => absurd live not_since_nil⟩
  turn := rfl
  below := fun _ outstanding => absurd outstanding not_since_nil
  most := Nat.le_refl 0
  exact := ⟨fun _ => apart_nil, fun _ => rfl⟩
  found := fun _ _ outstanding => absurd outstanding not_since_nil
  few := fun _ => apart_nil

/-- The next local key by the number of registrations. -/
theorem Accounts.nextKey (accounts : Accounts trace device) :
    device.registrations.nextKey.toNat = trace.registrations % (2 ^ 32 - 1) + 1 := by
  rw [Registrations.toNat_nextKey, accounts.turn]

theorem Accounts.refused (accounts : Accounts trace device) {event : KeyEvent}
    (refused : IsRefusal event) : Accounts (trace ++ [event]) device := by
  obtain ⟨granted, yielded⟩ := counts_refused trace refused
  exact
    { profile := accounts.profile
      keyed := accounts.keyed
      proper := accounts.proper
      live := by simpa only [live_refused refused] using accounts.live
      turn := by
        rw [granted]
        exact accounts.turn
      below := by simpa only [outstanding_refused refused, granted] using accounts.below
      most := by
        rw [granted, yielded]
        exact accounts.most
      exact := by
        rw [granted, yielded, apart_refused refused]
        exact accounts.exact
      found := by
        simpa only [apart_refused refused, outstanding_refused refused, live_refused refused]
          using accounts.found
      few := by
        rw [granted, apart_refused refused]
        exact accounts.few }

/-- A registration displaces nothing exactly if nothing is outstanding under its local key. -/
theorem Accounts.apart_iff (accounts : Accounts trace device) (apart : trace.Apart)
    (s : Registration) :
    KeyTrace.Apart (trace ++ [.registered (.ok s)]) ↔
      (device.registrations.without s.localKey).entries = device.registrations.entries := by
  rw [apart_registered, Registrations.without, List.filter_eq_self]
  constructor
  · intro kept r listed
    exact bne_iff_ne.mpr (kept.2 r ((accounts.live r).mp listed).outstanding)
  · intro kept
    exact ⟨apart, fun r outstanding =>
      bne_iff_ne.mp (kept r ((accounts.live r).mpr (accounts.found apart r outstanding)))⟩

/-- After a registration the count is still what it should be if nothing was displaced, neither
before nor now. -/
theorem Accounts.exact_registered (accounts : Accounts trace device) (s : Registration) :
    (device.registrations.having s).count + trace.deregistrations = trace.registrations + 1 ↔
      KeyTrace.Apart (trace ++ [.registered (.ok s)]) := by
  have fewer := device.registrations.count_without_le s.localKey
  have most := accounts.most
  rw [Registrations.count_having]
  constructor
  · intro exact
    have before : trace.Apart := accounts.exact.mp (by omega)
    exact (accounts.apart_iff before s).mpr (Registrations.count_without_eq_iff.mp (by omega))
  · intro apart
    have before := (apart_registered.mp apart).1
    have exact := accounts.exact.mpr before
    have kept := Registrations.count_without_eq_iff.mpr ((accounts.apart_iff before s).mp apart)
    omega

/-- A registration comes under the next local key, and displaces what has that key. -/
theorem Accounts.registered (accounts : Accounts trace device)
    (free : device.registrations.HasFreeKey) (id : RegionId) (region : Region) (access : Access)
    (draws : List UInt32) :
    Accounts (trace ++ [.registered (.ok (device.registrations.insert id region access draws).1)])
      { device with registrations := (device.registrations.insert id region access draws).2 } := by
  have odd : (device.registrations.insert id region access draws).1.remoteKey.toNat % 2 = 1 :=
    device.registrations.freeRemoteKey_odd draws
  have keyed := accounts.keyed.insert free id region access draws
  obtain ⟨s, key, inserted⟩ := device.registrations.insert_eq id region access draws
  have next : s.localKey.toNat = trace.registrations % (2 ^ 32 - 1) + 1 := by
    rw [key]
    exact accounts.nextKey
  rw [inserted] at odd keyed ⊢
  obtain ⟨granted, yielded⟩ := counts_registered trace s
  exact
    { profile := accounts.profile
      keyed := keyed
      proper := fun r listed => by
        rcases Registrations.mem_having.mp listed with rfl | ⟨old, -⟩
        · refine ⟨fun zero => ?_, odd⟩
          rw [zero] at next
          cases next
        · exact accounts.proper r old
      live := fun r => by
        rw [live_registered, ← accounts.live]
        exact Registrations.mem_having
      turn := by
        show s.localKey.toNat % (2 ^ 32 - 1) = _
        rw [granted, next]
        omega
      below := fun r outstanding few => by
        rw [granted] at few ⊢
        rcases outstanding_registered.mp outstanding with rfl | old
        · omega
        · exact Nat.le_succ_of_le (accounts.below r old (by omega))
      most := by
        have fewer := device.registrations.count_without_le s.localKey
        have most := accounts.most
        rw [granted, yielded, Registrations.count_having]
        omega
      exact := by
        rw [granted, yielded]
        exact accounts.exact_registered s
      found := fun apart r outstanding => by
        obtain ⟨before, other⟩ := apart_registered.mp apart
        rcases outstanding_registered.mp outstanding with rfl | old
        · exact live_registered.mpr (Or.inl rfl)
        · exact live_registered.mpr (Or.inr ⟨accounts.found before r old, other r old⟩)
      few := fun few => by
        rw [granted] at few
        refine apart_registered.mpr ⟨accounts.few (by omega), fun r old same => ?_⟩
        have below := accounts.below r old (by omega)
        rw [same, next] at below
        omega }

theorem Accounts.deregistered (accounts : Accounts trace device)
    (listed : r ∈ device.registrations.entries) :
    Accounts (trace ++ [.deregistered r.localKey (.ok ())])
      { device with registrations := device.registrations.without r.localKey } := by
  obtain ⟨granted, yielded⟩ := counts_deregistered trace r.localKey
  have one : (device.registrations.without r.localKey).count + 1 = device.registrations.count := by
    rw [Registrations.count, accounts.keyed.entries_without listed, List.length_erase_of_mem listed]
    exact Nat.sub_add_cancel (List.length_pos_of_mem listed)
  exact
    { profile := accounts.profile
      keyed := accounts.keyed.without _
      proper := fun other listed =>
        accounts.proper other (Registrations.mem_without.mp listed).1
      live := fun other => by
        rw [live_deregistered, ← accounts.live]
        exact Registrations.mem_without
      turn := by
        rw [granted]
        exact accounts.turn
      below := fun other outstanding => by
        rw [granted]
        exact accounts.below other (outstanding_deregistered.mp outstanding).1
      most := by
        have most := accounts.most
        rw [granted, yielded]
        show (device.registrations.without r.localKey).count + _ ≤ _
        omega
      exact := by
        rw [granted, yielded, apart_deregistered, ← accounts.exact]
        show (device.registrations.without r.localKey).count + _ = _ ↔ _
        omega
      found := fun apart other outstanding => by
        obtain ⟨old, kept⟩ := outstanding_deregistered.mp outstanding
        have live := accounts.found (apart_deregistered.mp apart) other old
        exact live_deregistered.mpr ⟨live, kept⟩
      few := by
        rw [granted, apart_deregistered]
        exact accounts.few }

theorem Accounts.serve (accounts : Accounts trace device) (call : KeyCall)
    (free : ∀ r, (device.serve call).1 = .registered (.ok r) → device.registrations.HasFreeKey) :
    Accounts (trace ++ [(device.serve call).1]) (device.serve call).2 := by
  cases call with
  | register id region access draws =>
    rcases Nat.lt_or_ge Region.maxSize region.size with large | fits
    · rw [Device.serve, register_soft_large accounts.profile id region access draws large]
      exact accounts.refused ⟨rfl, rfl⟩
    · rw [Device.serve, register_soft accounts.profile id region access draws fits] at free ⊢
      exact accounts.registered (free _ rfl) id region access draws
  | deregister key =>
    by_cases known : ∃ r ∈ device.registrations.entries, r.localKey = key
    · obtain ⟨r, listed, rfl⟩ := known
      rw [Device.serve, deregister_soft accounts.profile listed]
      exact accounts.deregistered listed
    · have unknown : ∀ r ∈ device.registrations.entries, r.localKey ≠ key := by simpa using known
      rw [Device.serve, deregister_soft_unknown accounts.profile unknown]
      exact accounts.refused ⟨rfl, rfl⟩

theorem Accounts.serveAll (accounts : Accounts trace device) {calls : List KeyCall}
    (drawn : device.Drawn calls) :
    Accounts (trace ++ (device.serveAll calls).1) (device.serveAll calls).2 := by
  induction calls generalizing trace device with
  | nil => rwa [Device.serveAll, List.append_nil]
  | cons call rest ih =>
    have later := ih (accounts.serve call drawn.1) drawn.2
    rwa [List.append_assoc, List.singleton_append] at later

/-! ## The calls on a device and its table -/

/-- What a registration takes and what it displaces. -/
theorem Accounts.register (accounts : Accounts trace device)
    (free : device.registrations.HasFreeKey) (id : RegionId) {region : Region} (access : Access)
    (draws : List UInt32) (fits : region.size ≤ Region.maxSize) :
    ∃ s after, device.register id region access draws = (.ok s, after) ∧
      s.localKey.toNat = trace.registrations % (2 ^ 32 - 1) + 1 ∧ s.remoteKey.toNat % 2 = 1 ∧
      (∀ r ∈ device.registrations.entries, r.remoteKey ≠ s.remoteKey) ∧
      after.registrations.entries =
        (device.registrations.without s.localKey).entries ++ [s] ∧
      (trace.Apart → (KeyTrace.Apart (trace ++ [.registered (.ok s)]) ↔
        after.registrations.entries = device.registrations.entries ++ [s])) :=
  ⟨_, _, register_soft accounts.profile id region access draws fits, accounts.nextKey,
    device.registrations.freeRemoteKey_odd draws, Registrations.freeRemoteKey_free free draws, rfl,
    fun apart => (accounts.apart_iff apart _).trans (List.append_left_inj _).symm⟩

/-- The registrations of a software device.  The table holds the live ones.  Their local keys are
distinct and not zero, their remote keys are distinct and odd, and each is found by both.

A registration comes under the next local key of the circle and under an odd remote key that is not
in use.  It displaces the registration that has its local key, if there is one, and no other.  A
local key is given up exactly if a live registration has it, and that one alone goes; otherwise the
call is refused and nothing changes.

Of the registrations that were given out and not given up none is missing, as their count tells,
exactly if no local key was given out while a registration under it was outstanding.  In fewer than
`2 ^ 32` registrations none is. -/
theorem registrations_reachable (calls : List KeyCall) (drawn : soft.Drawn calls) :
    let trace := (soft.serveAll calls).1
    let device := (soft.serveAll calls).2
    let table := device.registrations
    (table.entries.map Registration.localKey).Nodup ∧
    (table.entries.map Registration.remoteKey).Nodup ∧
    (∀ r ∈ table.entries, r.localKey ≠ 0 ∧ r.remoteKey.toNat % 2 = 1) ∧
    (∀ r, r ∈ table.entries ↔ trace.Live r) ∧
    (∀ r, trace.Live r →
      table.byLocalKey? r.localKey = some r ∧ table.byRemoteKey? r.remoteKey = some r) ∧
    (∀ id (region : Region) access draws, region.size ≤ Region.maxSize → table.HasFreeKey →
      ∃ s after, device.register id region access draws = (.ok s, after) ∧
        s.localKey.toNat = trace.registrations % (2 ^ 32 - 1) + 1 ∧ s.remoteKey.toNat % 2 = 1 ∧
        (∀ r ∈ table.entries, r.remoteKey ≠ s.remoteKey) ∧
        after.registrations.entries =
          (table.entries.filter fun r => r.localKey != s.localKey) ++ [s] ∧
        (trace.Apart → (KeyTrace.Apart (trace ++ [.registered (.ok s)]) ↔
          after.registrations.entries = table.entries ++ [s]))) ∧
    (∀ id (region : Region) access draws, Region.maxSize < region.size →
      device.register id region access draws =
        (.error (.exhausted "region exceeds max_mr_size"), device)) ∧
    (∀ r, trace.Live r → ∃ after, device.deregister r.localKey = (.ok (), after) ∧
      after.registrations.entries = table.entries.erase r) ∧
    (∀ key, (∀ r, trace.Live r → r.localKey ≠ key) →
      device.deregister key = (.error (.invalidKey key), device)) ∧
    table.count + trace.deregistrations ≤ trace.registrations ∧
    (table.count + trace.deregistrations = trace.registrations ↔ trace.Apart) ∧
    (trace.Apart → ∀ r, trace.Live r ↔ trace.Outstanding r) ∧
    (trace.registrations < 2 ^ 32 → trace.Apart) := by
  intro trace device table
  have accounts : Accounts trace device := accounts_soft.serveAll drawn
  refine ⟨accounts.keyed.localKeys, accounts.keyed.remoteKeys, accounts.proper, accounts.live,
    fun r live => ?_, fun id region access draws fits free => ?_,
    fun id region access draws large => ?_, fun r live => ?_, fun key unknown => ?_,
    accounts.most, accounts.exact, fun apart r => ?_, accounts.few⟩
  · have listed := (accounts.live r).mpr live
    exact ⟨accounts.keyed.byLocalKey? listed, accounts.keyed.byRemoteKey? listed⟩
  · exact accounts.register free id access draws fits
  · exact register_soft_large accounts.profile id region access draws large
  · have listed := (accounts.live r).mpr live
    exact ⟨_, deregister_soft accounts.profile listed, accounts.keyed.entries_without listed⟩
  · exact deregister_soft_unknown accounts.profile fun r listed =>
      unknown r ((accounts.live r).mp listed)
  · exact ⟨Live.outstanding, accounts.found apart r⟩

theorem sixteen_fits : (4096 : UInt64).toNat + 16 < 2 ^ 64 := by decide

/-- A region of sixteen bytes. -/
def sixteen : Region := ⟨"sixteen", 4096, 16, fun _ => 0, sixteen_fits⟩

theorem first_given_up_once :
    let calls : List KeyCall :=
      [.register ⟨0⟩ sixteen Access.all [8], .register ⟨0⟩ sixteen Access.all [9, 12],
        .deregister 1, .deregister 1]
    soft.Drawn calls ∧ (soft.serveAll calls).2.registrations.count = 1 ∧
      (∀ r, (soft.serveAll calls).1.Outstanding r →
        (soft.serveAll calls).2.registrations.byLocalKey? r.localKey = some r) := by
  intro calls
  have drawn : soft.Drawn calls :=
    ⟨fun _ _ => Registrations.hasFreeKey_of_few (by decide),
      fun _ _ => Registrations.hasFreeKey_of_few (by decide), nofun, nofun, trivial⟩
  obtain ⟨-, -, -, -, found, -, -, -, -, -, -, live, apart⟩ := registrations_reachable calls drawn
  refine ⟨drawn, by decide, fun r outstanding => (found r ?_).1⟩
  exact (live (apart (by decide)) r).mpr outstanding

/-! ## A whole round -/

/-- Registers a region and gives it up at once, over and over; the last one is not given up. -/
def overAndOver (lastKey : UInt32) : Nat → List KeyCall
  | 0 => [.register ⟨0⟩ sixteen Access.all [5]]
  | n + 1 =>
    .register ⟨0⟩ sixteen Access.all [3] :: .deregister (lastKey + 1) ::
      overAndOver (lastKey + 1) n

/-- A device that has one registration and has given out local keys up to another. -/
def keeping (kept : Registration) (lastKey : UInt32) : Device :=
  { soft with registrations := ⟨[kept], lastKey⟩ }

variable {kept : Registration} {lastKey : UInt32}

/-- In the course of a round a registration comes and goes beside the one that is kept. -/
theorem serve_keeping (first : kept.localKey = 1) (started : lastKey ≠ 0)
    (within : lastKey.toNat + 1 < 2 ^ 32) :
    ∃ s between, (keeping kept lastKey).serve (.register ⟨0⟩ sixteen Access.all [3]) =
        (.registered (.ok s), between) ∧
      between.serve (.deregister (lastKey + 1)) =
        (.deregistered (lastKey + 1) (.ok ()), keeping kept (lastKey + 1)) := by
  have next : (keeping kept lastKey).registrations.nextKey = lastKey + 1 := by
    refine UInt32.toNat_inj.mp ?_
    rw [Registrations.toNat_nextKey, UInt32.toNat_add]
    show lastKey.toNat % (2 ^ 32 - 1) + 1 = (lastKey.toNat + 1) % 2 ^ 32
    omega
  have unused : ∀ r ∈ (keeping kept lastKey).registrations.entries, r.localKey ≠ lastKey + 1 := by
    intro r listed same
    rw [List.mem_singleton.mp listed, first] at same
    exact started (by simpa using same.symm)
  obtain ⟨s, key, inserted⟩ :=
    (keeping kept lastKey).registrations.insert_eq ⟨0⟩ sixteen Access.all [3]
  rw [next] at key
  refine ⟨s, { keeping kept lastKey with
    registrations := (keeping kept lastKey).registrations.having s }, ?_, ?_⟩
  · rw [serve, register_soft rfl _ _ _ _ (by decide), inserted]
  · rw [serve, ← key, deregister_soft rfl (List.mem_append_right _ (List.mem_singleton_self s))]
    dsimp only
    rw [Registrations.without_having, key]
    unfold Registrations.without
    rw [List.filter_eq_self.mpr fun r listed => bne_iff_ne.mpr (unused r listed)]
    rfl

theorem hasFreeKey_keeping : (keeping kept lastKey).registrations.HasFreeKey :=
  Registrations.hasFreeKey_of_few (show 1 < 2 ^ 31 by decide)

/-- At the end of the round the first key is given out again, and what was kept is displaced. -/
theorem serve_last (first : kept.localKey = 1) (last : lastKey.toNat = 2 ^ 32 - 1) :
    ∃ s, (keeping kept lastKey).serve (.register ⟨0⟩ sixteen Access.all [5]) =
        (.registered (.ok s), keeping s 1) ∧
      s.localKey = 1 ∧ s.remoteKey ≠ kept.remoteKey := by
  have next : (keeping kept lastKey).registrations.nextKey = kept.localKey := by
    refine UInt32.toNat_inj.mp ?_
    rw [Registrations.toNat_nextKey, first]
    show lastKey.toNat % (2 ^ 32 - 1) + 1 = 1
    omega
  have other :
      ((keeping kept lastKey).registrations.insert ⟨0⟩ sixteen Access.all [5]).1.remoteKey ≠
        kept.remoteKey :=
    (Registrations.freeRemoteKey_free hasFreeKey_keeping [5] kept (List.mem_singleton_self _)).symm
  obtain ⟨s, key, inserted⟩ :=
    (keeping kept lastKey).registrations.insert_eq ⟨0⟩ sixteen Access.all [5]
  rw [inserted] at other
  rw [next, first] at key
  have displaced : (keeping kept lastKey).registrations.having s = ⟨[s], 1⟩ := by
    simp [Registrations.having, Registrations.without, keeping, key, first]
  refine ⟨s, ?_, key, other⟩
  rw [serve, register_soft rfl _ _ _ _ (by decide), inserted, displaced]
  rfl

theorem serveAll_overAndOver (first : kept.localKey = 1) (n : Nat) (lastKey : UInt32)
    (started : lastKey ≠ 0) (round : lastKey.toNat + n = 2 ^ 32 - 1) :
    ∃ trace s, (keeping kept lastKey).serveAll (overAndOver lastKey n) =
        (trace, keeping s 1) ∧
      (keeping kept lastKey).Drawn (overAndOver lastKey n) ∧
      KeyTrace.registrations trace = n + 1 ∧ KeyTrace.deregistrations trace = n ∧
      (∀ outcome, KeyEvent.deregistered 1 outcome ∉ trace) ∧
      s.localKey = 1 ∧ s.remoteKey ≠ kept.remoteKey := by
  induction n generalizing lastKey with
  | zero =>
    obtain ⟨s, registered, key, other⟩ := serve_last first round
    refine ⟨[.registered (.ok s)], s, ?_, ?_, rfl, rfl, by simp, key, other⟩
    · rw [overAndOver, serveAll, registered]
      rfl
    · exact ⟨fun _ _ => hasFreeKey_keeping, trivial⟩
  | succ n ih =>
    obtain ⟨gone, between, registered, deregistered⟩ := serve_keeping first started (by omega)
    have next : (lastKey + 1).toNat = lastKey.toNat + 1 := by
      rw [UInt32.toNat_add]
      exact Nat.mod_eq_of_lt (show lastKey.toNat + 1 < 2 ^ 32 by omega)
    obtain ⟨trace, s, served, drawn, granted, yielded, apart, key, other⟩ :=
      ih (lastKey + 1) (fun zero => by rw [zero] at next; cases next) (by omega)
    refine ⟨.registered (.ok gone) :: .deregistered (lastKey + 1) (.ok ()) :: trace, s,
      ?_, ?_, ?_, ?_, ?_, key, other⟩
    · simp only [overAndOver, serveAll, registered, deregistered, served]
    · simp only [overAndOver, Drawn, registered, deregistered]
      exact ⟨fun _ _ => hasFreeKey_keeping, nofun, drawn⟩
    · simp [registrations_cons, isRegistration, granted]
    · simp [deregistrations_cons, isDeregistration, yielded]
    · intro outcome listed
      rcases List.mem_cons.mp listed with same | listed
      · cases same
      · rcases List.mem_cons.mp listed with same | listed
        · injection same with same
          exact started (by simpa using same.symm)
        · exact apart outcome listed

/-- A registration that outlives a whole round of local keys is displaced by another, although it
was not given up: neither of its keys finds it, and it is missing in the count. -/
theorem displaced_by_round (n : Nat) (round : n + 2 = 2 ^ 32) :
    let calls := .register ⟨0⟩ sixteen Access.all [1] :: overAndOver 1 n
    let trace := (soft.serveAll calls).1
    let table := (soft.serveAll calls).2.registrations
    soft.Drawn calls ∧ ∃ kept, trace.Outstanding kept ∧
      table.byLocalKey? kept.localKey ≠ some kept ∧ table.byRemoteKey? kept.remoteKey = none ∧
      table.count + trace.deregistrations + 1 = trace.registrations := by
  intro calls trace table
  obtain ⟨kept, registered, first⟩ : ∃ kept,
      soft.serve (.register ⟨0⟩ sixteen Access.all [1]) =
        (.registered (.ok kept), keeping kept 1) ∧ kept.localKey = 1 := ⟨_, rfl, rfl⟩
  obtain ⟨later, s, served, drawn, granted, yielded, apart, key, other⟩ :=
    serveAll_overAndOver first n 1 (by decide) (show 1 + n = 2 ^ 32 - 1 by omega)
  have all : soft.serveAll calls = (.registered (.ok kept) :: later, keeping s 1) := by
    simp only [calls, serveAll, registered, served]
  have traced : trace = .registered (.ok kept) :: later := congrArg Prod.fst all
  have entries : table.entries = [s] := congrArg (fun out => out.2.registrations.entries) all
  refine ⟨⟨fun _ _ => Registrations.hasFreeKey_of_few (by decide), by rw [registered]; exact drawn⟩,
    kept, ⟨[], _, later, traced, rfl, fun event listed ended => ?_⟩, ?_, ?_, ?_⟩
  · rw [ended, first] at listed
    exact apart _ listed
  · rw [Registrations.byLocalKey?, entries]
    rintro found
    have same : s = kept := by simpa [key, first] using found
    exact other (congrArg Registration.remoteKey same)
  · rw [Registrations.byRemoteKey?, entries]
    simpa using other
  · rw [Registrations.count, entries, traced]
    simp only [registrations_cons, deregistrations_cons, isRegistration, isDeregistration, granted,
      yielded, List.length_singleton, if_true, Bool.false_eq_true, if_false]
    omega

theorem whole_round_displaces :
    let calls := .register ⟨0⟩ sixteen Access.all [1] :: overAndOver 1 (2 ^ 32 - 2)
    let trace := (soft.serveAll calls).1
    let table := (soft.serveAll calls).2.registrations
    soft.Drawn calls ∧ ∃ kept, trace.Outstanding kept ∧
      table.byLocalKey? kept.localKey ≠ some kept ∧ table.byRemoteKey? kept.remoteKey = none ∧
      table.count + trace.deregistrations + 1 = trace.registrations :=
  displaced_by_round (2 ^ 32 - 2) (by decide)

end Device

end RdmaLink
