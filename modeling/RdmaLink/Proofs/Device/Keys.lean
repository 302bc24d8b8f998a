import Mathlib.Data.List.Nodup
import Mathlib.Data.List.Perm.Subperm
import RdmaLink.Proofs.Endpoint.Holdings
import RdmaLink.Proofs.Memory.Regions

/-!
# Keys of a device

The remote key of a registration is odd and none that is in use, if there is such a key
(`Registrations.HasFreeKey`), as there is with fewer registrations than odd words.  So each
registration has a local key and a remote key that no other has (`Registrations.Keyed`).  Both of
its keys find it, and of a registered region an address and an offset are the same thing said
twice:

    table.byLocalKey? r.localKey = some r                          (Registrations.Keyed.byLocalKey?)
    r.offsetOf? (r.address + offset) length = some offset           (Registration.offsetOf?_address)
    table.target? r.remoteKey (r.address + offset) length needed = some (r.region, offset)
                                                                       (Registrations.Keyed.target?)
-/

namespace RdmaLink

namespace Registration

/-- What a record tells of a registered region. -/
def told (registration : Registration) : RemoteRegion :=
  ⟨registration.address, UInt64.ofNat registration.length, registration.remoteKey⟩

/-- The region ends inside the address space. -/
def Placed (registration : Registration) : Prop :=
  registration.address.toNat + registration.length < 2 ^ 64

variable {registration : Registration} {offset length : Nat}

theorem Placed.length_told (placed : registration.Placed) :
    registration.told.length.toNat = registration.length := by
  unfold Placed at placed
  exact UInt64.toNat_ofNat_of_lt' (by rw [UInt64.size]; omega)

/-- The address at an offset leads back to the offset. -/
theorem offsetOf?_address (placed : registration.Placed)
    (inside : offset + length ≤ registration.length) :
    registration.offsetOf? (registration.address + UInt64.ofNat offset) length = some offset := by
  unfold Placed at placed
  have place : (registration.address + UInt64.ofNat offset).toNat =
      registration.address.toNat + offset := by
    rw [UInt64.toNat_add, UInt64.toNat_ofNat', Nat.mod_eq_of_lt (a := offset) (by omega),
      Nat.mod_eq_of_lt (by omega)]
  have above : registration.address ≤ registration.address + UInt64.ofNat offset := by
    rw [UInt64.le_iff_toNat_le, place]
    exact Nat.le_add_right _ _
  unfold offsetOf?
  rw [if_pos above, place, Nat.add_sub_cancel_left]
  exact if_pos inside

end Registration

namespace Registrations

/-- No two registrations have a key in common, and their regions are inside the address space. -/
structure Keyed (table : Registrations) : Prop where
  localKeys : (table.entries.map Registration.localKey).Nodup
  remoteKeys : (table.entries.map Registration.remoteKey).Nodup
  placed : ∀ r ∈ table.entries, r.Placed

variable {table : Registrations} {r : Registration}

/-! ## Looking up -/

/-- A key that is all its own finds a registration. -/
theorem find?_of_distinct {Key : Type} [DecidableEq Key] (key : Registration → Key)
    {entries : List Registration} (distinct : (entries.map key).Nodup) (listed : r ∈ entries) :
    (entries.find? fun other => key other == key r) = some r := by
  induction entries with
  | nil => cases listed
  | cons first rest ih =>
    rw [List.map_cons, List.nodup_cons] at distinct
    rcases List.mem_cons.mp listed with rfl | later
    · exact List.find?_cons_of_pos (beq_self_eq_true _)
    · have apart : key first ≠ key r := fun same =>
        distinct.1 (same ▸ List.mem_map_of_mem later)
      rw [List.find?_cons_of_neg (by simpa using apart)]
      exact ih distinct.2 later

theorem Keyed.byLocalKey? (keyed : table.Keyed) (listed : r ∈ table.entries) :
    table.byLocalKey? r.localKey = some r :=
  find?_of_distinct Registration.localKey keyed.localKeys listed

theorem Keyed.byRemoteKey? (keyed : table.Keyed) (listed : r ∈ table.entries) :
    table.byRemoteKey? r.remoteKey = some r :=
  find?_of_distinct Registration.remoteKey keyed.remoteKeys listed

/-- A peer's remote key, address and length stand for the offset from which the address was
made. -/
theorem Keyed.target? (keyed : table.Keyed) (listed : r ∈ table.entries) {needed : Access}
    (grants : r.access.includes needed = true) {offset : Nat} {length : UInt32}
    (inside : offset + length.toNat ≤ r.length) :
    table.target? r.remoteKey (r.address + UInt64.ofNat offset) length needed =
      some (r.region, offset) := by
  unfold Registrations.target?
  rw [keyed.byRemoteKey? listed]
  dsimp only
  rw [if_pos grants, Registration.offsetOf?_address (keyed.placed r listed) inside]
  rfl

/-! ## Tables with distinct keys -/

theorem keyed_empty : empty.Keyed :=
  ⟨List.nodup_nil, List.nodup_nil, fun _ listed => absurd listed List.not_mem_nil⟩

theorem Keyed.of_entries {other : Registrations} (keyed : table.Keyed)
    (same : other.entries = table.entries) : other.Keyed := by
  constructor
  · rw [same]; exact keyed.localKeys
  · rw [same]; exact keyed.remoteKeys
  · rw [same]; exact keyed.placed

theorem Keyed.without (keyed : table.Keyed) (key : UInt32) : (table.without key).Keyed :=
  ⟨keyed.localKeys.sublist (List.filter_sublist.map _),
    keyed.remoteKeys.sublist (List.filter_sublist.map _),
    fun r listed => keyed.placed r (List.mem_filter.mp listed).1⟩

/-! ## Drawing a remote key -/

/-- Some odd word is no remote key in use, so that drawing can come to an end. -/
def HasFreeKey (table : Registrations) : Prop :=
  ∃ key : UInt32, key.toNat % 2 = 1 ∧ table.remoteKeyTaken key = false

/-- The least odd words. -/
def oddWords (n : Nat) : List UInt32 := (List.range n).map fun i => UInt32.ofNat (2 * i + 1)

theorem odd_of_mem_oddWords {n : Nat} {key : UInt32} (listed : key ∈ oddWords n) :
    key.toNat % 2 = 1 := by
  obtain ⟨i, -, rfl⟩ := List.mem_map.mp listed
  rw [UInt32.toNat_ofNat']
  omega

/-- Half of all words are odd. -/
theorem mem_oddWords {n : Nat} {key : UInt32} (odd : key.toNat % 2 = 1) (all : 2 ^ 31 ≤ n) :
    key ∈ oddWords n := by
  have small : key.toNat < 2 ^ 32 := key.toNat_lt
  refine List.mem_map.mpr ⟨key.toNat / 2, List.mem_range.mpr (by omega), ?_⟩
  rw [show 2 * (key.toNat / 2) + 1 = key.toNat by omega, UInt32.ofNat_toNat]

theorem nodup_oddWords {n : Nat} (few : n ≤ 2 ^ 31) : (oddWords n).Nodup := by
  refine List.Nodup.map_on (fun i hi j hj same => ?_) List.nodup_range
  rw [List.mem_range] at hi hj
  have := congrArg UInt32.toNat same
  rw [UInt32.toNat_ofNat', UInt32.toNat_ofNat', Nat.mod_eq_of_lt (by omega),
    Nat.mod_eq_of_lt (by omega)] at this
  omega

/-- Among one more odd words than there are registrations, one is free. -/
theorem exists_free_of_few (few : table.count < 2 ^ 31) :
    ∃ key ∈ oddWords (table.count + 1), table.remoteKeyTaken key = false := by
  by_contra none
  -- otherwise each of them is the key of a registration, and there are too many of them
  have taken : oddWords (table.count + 1) ⊆ table.entries.map Registration.remoteKey := by
    intro key listed
    have used : ¬ table.remoteKeyTaken key = false := fun free => none ⟨key, listed, free⟩
    simpa [remoteKeyTaken] using used
  have most := (List.subperm_of_subset (nodup_oddWords few) taken).length_le
  rw [oddWords, List.length_map, List.length_map, List.length_range] at most
  exact absurd most (Nat.not_succ_le_self _)

theorem hasFreeKey_of_few (few : table.count < 2 ^ 31) : table.HasFreeKey := by
  obtain ⟨key, listed, free⟩ := exists_free_of_few few
  exact ⟨key, odd_of_mem_oddWords listed, free⟩

/-- A free key is found without drawing. -/
theorem HasFreeKey.spare (free : table.HasFreeKey) :
    ∃ key ∈ oddWords (table.count + 1), table.remoteKeyTaken key = false := by
  rcases Nat.lt_or_ge table.count (2 ^ 31) with few | many
  · exact exists_free_of_few few
  · obtain ⟨key, odd, untaken⟩ := free
    exact ⟨key, mem_oddWords odd (Nat.le_succ_of_le many), untaken⟩

/-- The remote key is none that is in use, whatever was drawn. -/
theorem freeRemoteKey_free (free : table.HasFreeKey) (draws : List UInt32) :
    ∀ r ∈ table.entries, r.remoteKey ≠ table.freeRemoteKey draws := by
  have untaken : table.remoteKeyTaken (table.freeRemoteKey draws) = false := by
    show table.remoteKeyTaken (((draws.map (· ||| 1) ++ oddWords (table.count + 1)).find?
      fun key => !table.remoteKeyTaken key).getD 1) = false
    cases found : (draws.map (· ||| 1) ++ oddWords (table.count + 1)).find?
      fun key => !table.remoteKeyTaken key with
    | some key => simpa using List.find?_some found
    | none =>
      obtain ⟨key, spare, untaken⟩ := free.spare
      have used := List.find?_eq_none.mp found key (List.mem_append_right _ spare)
      simp [untaken] at used
  intro r listed same
  have taken : table.remoteKeyTaken (table.freeRemoteKey draws) = true :=
    List.any_eq_true.mpr ⟨r, listed, beq_iff_eq.mpr same⟩
  rw [untaken] at taken
  cases taken

theorem freeRemoteKey_odd (table : Registrations) (draws : List UInt32) :
    (table.freeRemoteKey draws).toNat % 2 = 1 := by
  show (((draws.map (· ||| 1) ++ oddWords (table.count + 1)).find?
    fun key => !table.remoteKeyTaken key).getD 1).toNat % 2 = 1
  cases found : (draws.map (· ||| 1) ++ oddWords (table.count + 1)).find?
    fun key => !table.remoteKeyTaken key with
  | none => rfl
  | some key =>
    rcases List.mem_append.mp (List.mem_of_find?_eq_some found) with drawn | spare
    · obtain ⟨word, -, rfl⟩ := List.mem_map.mp drawn
      simp [UInt32.toNat_or]
    · exact odd_of_mem_oddWords spare

/-! ## Registering and giving up, with distinct keys -/

/-- Keys stay distinct if one is added that none of them is. -/
theorem distinct_concat {Key : Type} (key : Registration → Key) {entries : List Registration}
    (distinct : (entries.map key).Nodup) (fresh : ∀ other ∈ entries, key other ≠ key r) :
    ((entries ++ [r]).map key).Nodup := by
  rw [List.map_append, List.map_singleton, ← List.concat_eq_append]
  refine distinct.concat fun listed => ?_
  obtain ⟨other, present, same⟩ := List.mem_map.mp listed
  exact fresh other present same

theorem Keyed.insert (keyed : table.Keyed) (free : table.HasFreeKey) (id : RegionId)
    (region : Region) (access : Access) (draws : List UInt32) :
    (table.insert id region access draws).2.Keyed := by
  have others := keyed.without table.nextKey
  have unused := freeRemoteKey_free free draws
  constructor
  · refine distinct_concat Registration.localKey others.localKeys fun other listed => ?_
    exact bne_iff_ne.mp (List.mem_filter.mp listed).2
  · refine distinct_concat Registration.remoteKey others.remoteKeys fun other listed => ?_
    exact unused other (List.mem_filter.mp listed).1
  · intro r listed
    rcases List.mem_append.mp listed with listed | listed
    · exact others.placed r listed
    · rw [List.mem_singleton.mp listed]
      exact region.fits

end Registrations

end RdmaLink
