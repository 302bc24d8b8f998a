import RdmaLink.QueuePair.Receiving

/-!
# Regions and what describes them

Storing bytes changes one range of one region and moves no region (`Memory.Keeps`).  The
registrations of a device are made from its regions, so each of them tells the place and the size
of a region that is there (`Registrations.Describes`), and a key, a right and a range that it
admits are a range of that region.

    (memory.stored place payload).byte? id i ≠ memory.byte? id i →
      place = some (id, offset), offset ≤ i < offset + payload.length    (Memory.byte?_stored)
-/

namespace RdmaLink

namespace Memory

/-- The memory after bytes came to a place; bytes without a place, or that do not fit, are
dropped. -/
def stored (memory : Memory) (place : Option (RegionId × Nat)) (payload : Bytes) : Memory :=
  match place with
  | none => memory
  | some (region, offset) =>
    match memory.write region offset payload with
    | .ok written => written
    | .error _ => memory

/-- A byte of a region. -/
def byte? (memory : Memory) (id : RegionId) (i : Nat) : Option UInt8 :=
  (memory.region? id).map fun region => region.bytes i

/-- Every region stays in its place and keeps its size. -/
def Keeps (old new : Memory) : Prop :=
  ∀ id region, old.region? id = some region →
    ∃ region', new.region? id = some region' ∧ region'.base = region.base ∧
      region'.size = region.size

theorem Keeps.refl (memory : Memory) : Keeps memory memory :=
  fun _ region h => ⟨region, h, rfl, rfl⟩

theorem Keeps.trans {a b c : Memory} (h : Keeps a b) (h' : Keeps b c) : Keeps a c := by
  intro id region hr
  obtain ⟨region', hr', hbase, hsize⟩ := h id region hr
  obtain ⟨region'', hr'', hbase', hsize'⟩ := h' id region' hr'
  exact ⟨region'', hr'', hbase'.trans hbase, hsize'.trans hsize⟩

theorem keeps_add (memory : Memory) (region : Region) : Keeps memory (memory.add region).2 := by
  intro id old h
  refine ⟨old, ?_, rfl, rfl⟩
  have hlt := (List.getElem?_eq_some_iff.mp h).1
  simp only [add, region?]
  rw [List.getElem?_append_left hlt]
  exact h

theorem region?_put (memory : Memory) (id other : RegionId) (region : Region) :
    (memory.put id region).region? other =
      if other = id then (memory.region? id).map fun _ => region else memory.region? other := by
  obtain ⟨n⟩ := id
  obtain ⟨m⟩ := other
  simp only [put, region?, List.getElem?_set, RegionId.mk.injEq]
  by_cases h : m = n
  · subst h
    by_cases hlt : m < memory.regions.length
    · simp [hlt]
    · simp [hlt]
  · rw [if_neg (fun he => h he.symm), if_neg h]

/-- What a write does: it stores its bytes in a region that is there and has room for them. -/
theorem write_eq_ok {memory written : Memory} {id : RegionId} {offset : Nat} {data : Bytes}
    (h : memory.write id offset data = .ok written) :
    ∃ region, memory.region? id = some region ∧ offset + data.length ≤ region.size ∧
      written = memory.put id (region.stored offset data.toArray) := by
  unfold write at h
  split at h
  · next region hr =>
    unfold Region.write at h
    split at h
    · next hc =>
      refine ⟨region, hr, by simpa [Region.contains] using hc, ?_⟩
      cases h
      rfl
    · cases h
  · cases h

theorem keeps_write {memory written : Memory} {id : RegionId} {offset : Nat} {data : Bytes}
    (h : memory.write id offset data = .ok written) : Keeps memory written := by
  obtain ⟨region, hr, -, rfl⟩ := write_eq_ok h
  intro other old ho
  rw [region?_put]
  by_cases heq : other = id
  · subst heq
    rw [if_pos rfl, hr]
    cases hr.symm.trans ho
    exact ⟨_, rfl, rfl, rfl⟩
  · rw [if_neg heq]
    exact ⟨old, ho, rfl, rfl⟩

theorem keeps_stored (memory : Memory) (place : Option (RegionId × Nat)) (payload : Bytes) :
    Keeps memory (memory.stored place payload) := by
  unfold stored
  split
  · exact Keeps.refl memory
  · split
    · next h => exact keeps_write h
    · exact Keeps.refl memory

theorem byte?_write {memory written : Memory} {id other : RegionId} {offset i : Nat}
    {data : Bytes} (h : memory.write id offset data = .ok written)
    (outside : ¬ (other = id ∧ offset ≤ i ∧ i < offset + data.length)) :
    written.byte? other i = memory.byte? other i := by
  obtain ⟨region, hr, -, rfl⟩ := write_eq_ok h
  unfold byte?
  rw [region?_put]
  by_cases heq : other = id
  · subst heq
    rw [if_pos rfl, hr]
    simp only [Option.map_some, Option.some.injEq]
    rw [Region.bytes_stored, dif_neg fun hin => outside ⟨rfl, hin⟩]
  · rw [if_neg heq]

/-- Storing bytes changes no byte outside their place. -/
theorem byte?_stored {memory : Memory} {place : Option (RegionId × Nat)} {payload : Bytes}
    {id : RegionId} {i : Nat}
    (changed : (memory.stored place payload).byte? id i ≠ memory.byte? id i) :
    ∃ offset, place = some (id, offset) ∧ offset ≤ i ∧ i < offset + payload.length ∧
      ∃ region, memory.region? id = some region ∧ offset + payload.length ≤ region.size := by
  unfold stored at changed
  split at changed
  · exact absurd rfl changed
  · next region offset =>
    split at changed
    · next written h =>
      by_cases hin : id = region ∧ offset ≤ i ∧ i < offset + payload.length
      · obtain ⟨rfl, hin⟩ := hin
        obtain ⟨held, hr, hroom, -⟩ := write_eq_ok h
        exact ⟨offset, rfl, hin.1, hin.2, held, hr, hroom⟩
      · exact absurd (byte?_write h hin) changed
    · exact absurd rfl changed

/-! ## Reading and storing where there is room -/

theorem read_eq_ok {memory : Memory} {id : RegionId} {offset length : Nat} {data : Bytes}
    (h : memory.read id offset length = .ok data) :
    ∃ region, memory.region? id = some region ∧ offset + length ≤ region.size ∧
      data = region.slice offset length := by
  unfold read at h
  split at h
  · next region hr =>
    unfold Region.read at h
    split at h
    · next hc => cases h; exact ⟨region, hr, by simpa [Region.contains] using hc, rfl⟩
    · cases h
  · cases h

theorem length_of_read {memory : Memory} {id : RegionId} {offset length : Nat} {data : Bytes}
    (h : memory.read id offset length = .ok data) : data.length = length := by
  obtain ⟨region, -, -, rfl⟩ := read_eq_ok h
  exact region.length_slice offset length

theorem read_of_room {memory : Memory} {id : RegionId} {region : Region} {offset length : Nat}
    (hr : memory.region? id = some region) (room : offset + length ≤ region.size) :
    memory.read id offset length = .ok (region.slice offset length) := by
  have hc : region.contains offset length = true := decide_eq_true room
  unfold read
  rw [hr]
  simp only [Region.read, hc, if_true]

theorem write_of_room {memory : Memory} {id : RegionId} {region : Region} {offset : Nat}
    {data : Bytes} (hr : memory.region? id = some region)
    (room : offset + data.length ≤ region.size) :
    memory.write id offset data = .ok (memory.put id (region.stored offset data.toArray)) := by
  have hc : region.contains offset data.length = true := decide_eq_true room
  unfold write
  rw [hr]
  simp only [Region.write, hc, if_true]
  rfl

/-- What was stored is read back. -/
theorem read_of_write {memory written : Memory} {id : RegionId} {offset : Nat} {data : Bytes}
    (h : memory.write id offset data = .ok written) :
    written.read id offset data.length = .ok data := by
  obtain ⟨region, hr, room, rfl⟩ := write_eq_ok h
  have hr' : (memory.put id (region.stored offset data.toArray)).region? id =
      some (region.stored offset data.toArray) := by
    rw [region?_put, if_pos rfl, hr]
    rfl
  rw [read_of_room hr' room]
  congr 1
  refine List.ext_getElem (by simp) fun i h1 h2 => ?_
  have hin : offset ≤ offset + i ∧ offset + i < offset + data.length := by omega
  rw [Region.slice_getElem, Region.bytes_stored, dif_pos hin]
  simp

end Memory

namespace Registrations

/-- Each registration tells the place and the size of a region that is there. -/
def Describes (table : Registrations) (memory : Memory) : Prop :=
  ∀ registration ∈ table.entries, ∃ region, memory.region? registration.region = some region ∧
    registration.address = region.base ∧ registration.length = region.size

theorem describes_empty (memory : Memory) : Describes empty memory := by
  intro registration h
  cases h

theorem Describes.keeps {table : Registrations} {old new : Memory} (h : table.Describes old)
    (keeps : Memory.Keeps old new) : table.Describes new := by
  intro registration hmem
  obtain ⟨region, hr, hbase, hsize⟩ := h registration hmem
  obtain ⟨region', hr', hbase', hsize'⟩ := keeps _ region hr
  exact ⟨region', hr', hbase.trans hbase'.symm, hsize.trans hsize'.symm⟩

theorem Describes.insert {table : Registrations} {memory : Memory} (h : table.Describes memory)
    {id : RegionId} {region : Region} (hr : memory.region? id = some region) (access : Access)
    (draws : List UInt32) : (table.insert id region access draws).2.Describes memory := by
  intro registration hmem
  rcases List.mem_append.mp hmem with hmem | hmem
  · exact h registration (List.mem_filter.mp hmem).1
  · rw [List.mem_singleton.mp hmem]
    exact ⟨region, hr, rfl, rfl⟩

theorem Describes.remove {table table' : Registrations} {memory : Memory}
    (h : table.Describes memory) {key : UInt32} (removed : table.remove? key = some table') :
    table'.Describes memory := by
  unfold remove? at removed
  split at removed
  · cases removed
    exact fun registration hmem => h registration (List.mem_filter.mp hmem).1
  · cases removed

/-- Region and offset that a key, an address and a length stand for are those of the registration
with the key, which grants the right and covers the range. -/
theorem found_of_target? {table : Registrations} {key : UInt32} {address : UInt64}
    {length : UInt32} {needed : Access} {id : RegionId} {offset : Nat}
    (h : table.target? key address length needed = some (id, offset)) :
    ∃ registration, table.byRemoteKey? key = some registration ∧
      registration.access.includes needed = true ∧ registration.region = id ∧
      registration.address.toNat + offset = address.toNat ∧
      offset + length.toNat ≤ registration.length := by
  unfold target? at h
  split at h
  · cases h
  · next registration found =>
    split at h
    · next grants =>
      obtain ⟨distance, hoffset, hpair⟩ := Option.map_eq_some_iff.mp h
      cases hpair
      unfold Registration.offsetOf? at hoffset
      split at hoffset
      · next above =>
        have above : registration.address.toNat ≤ address.toNat := UInt64.le_iff_toNat_le.mp above
        simp only at hoffset
        split at hoffset
        · next inside =>
          cases hoffset
          exact ⟨registration, found, grants, rfl, by omega, inside⟩
        · cases hoffset
      · cases hoffset
    · cases h

/-- A live registration has a key, grants peers to write, and contains a range of addresses. -/
structure Admits (table : Registrations) (header : Header) (registration : Registration) :
    Prop where
  live : registration ∈ table.entries
  key : registration.remoteKey = header.key
  grants : registration.access.remoteWrite = true
  above : registration.address.toNat ≤ header.address.toNat
  inside : header.address.toNat + header.length.toNat ≤
    registration.address.toNat + registration.length

/-- A range that a key, a right and a length stand for is inside a region. -/
theorem Describes.room {table : Registrations} {memory : Memory}
    (describes : table.Describes memory) {key : UInt32} {address : UInt64} {length : UInt32}
    {needed : Access} {id : RegionId} {offset : Nat}
    (h : table.target? key address length needed = some (id, offset)) :
    ∃ region, memory.region? id = some region ∧ offset + length.toNat ≤ region.size := by
  obtain ⟨registration, found, -, rfl, -, inside⟩ := found_of_target? h
  obtain ⟨region, hr, -, hsize⟩ := describes registration (List.mem_of_find?_eq_some found)
  exact ⟨region, hr, by omega⟩

/-- Where a write may go is the range that a registration admits. -/
theorem target?_eq_some {table : Registrations} {header : Header} {id : RegionId} {offset : Nat}
    (h : table.target? header.key header.address header.length ⟨false, true, false⟩ =
      some (id, offset)) :
    ∃ registration, table.Admits header registration ∧ registration.region = id ∧
      registration.address.toNat + offset = header.address.toNat := by
  obtain ⟨registration, found, grants, place, start, inside⟩ := found_of_target? h
  refine ⟨registration, ⟨List.mem_of_find?_eq_some found, ?_, ?_, by omega, by omega⟩, place,
    start⟩
  · simpa using List.find?_some found
  · simpa [Access.includes] using grants

end Registrations

end RdmaLink
