import RdmaLink.Connection.Basic

/-!
# Addresses in a peer's region

Where a peer's region begins and how long it is comes from the peer's record, and a record may say
any two 64-bit words.  An address is a 64-bit word as well, so there are ranges without one.

    region.addressOf offset length =
      if offset + length ≤ region.length
      then if region.address + offset < 2 ^ 64 then .ok (region.address + offset)
           else .error .overflow
      else .error (.range ⟨offset, length, region.length⟩)          (RemoteRegion.addressOf_eq)

A registered region lies inside the address space, and so does the region in the record of a
connection (`Connection.record_addressable`); every range of such a region has its address.
-/

namespace RdmaLink

theorem checkedAdd_eq_some {a b sum : UInt64} (added : checkedAdd a b = some sum) :
    sum.toNat = a.toNat + b.toNat := by
  unfold checkedAdd at added
  split at added
  · next fits =>
    cases added
    rw [UInt64.toNat_add, Nat.mod_eq_of_lt fits]
  · cases added

namespace RemoteRegion

/-- The whole region is inside the address space, its end included. -/
def Addressable (region : RemoteRegion) : Prop :=
  region.address.toNat + region.length.toNat < 2 ^ 64

/-- Every range inside the region has an address, which is base and offset together as numbers
without bound. -/
def Exact (region : RemoteRegion) : Prop :=
  ∀ offset length, offset + length ≤ region.length.toNat →
    ∃ address, region.addressOf offset length = .ok address ∧
      address.toNat = region.address.toNat + offset

variable {region : RemoteRegion} {offset length : Nat} {address : UInt64}

/-- A range is looked at, and then base and offset are added. -/
theorem addressOf_eq (region : RemoteRegion) (offset length : Nat) :
    region.addressOf offset length =
      if offset + length ≤ region.length.toNat then
        if region.address.toNat + offset < 2 ^ 64 then
          .ok (region.address + UInt64.ofNat offset)
        else .error .overflow
      else .error (.range ⟨offset, length, region.length.toNat⟩) := by
  unfold addressOf checkedAdd
  split
  · next inside =>
    have short : (UInt64.ofNat offset).toNat = offset := by
      rw [UInt64.toNat_ofNat', Nat.mod_eq_of_lt]
      have := region.length.toNat_lt
      omega
    rw [short]
    by_cases fits : region.address.toNat + offset < 2 ^ 64
    · rw [if_pos fits, if_pos fits]
    · rw [if_neg fits, if_neg fits]
  · rfl

/-- Every address that is told is base and offset together, as numbers without bound. -/
theorem toNat_addressOf (found : region.addressOf offset length = .ok address) :
    address.toNat = region.address.toNat + offset := by
  have short := region.length.toNat_lt
  unfold addressOf at found
  split at found
  · next inside =>
    split at found
    · next sum added =>
      cases found
      rw [checkedAdd_eq_some added, UInt64.toNat_ofNat', Nat.mod_eq_of_lt (by omega)]
    · cases found
  · cases found

theorem Addressable.exact (addressable : region.Addressable) : region.Exact := by
  intro offset length inside
  unfold Addressable at addressable
  have found : region.addressOf offset length = .ok (region.address + UInt64.ofNat offset) := by
    rw [addressOf_eq, if_pos inside, if_pos (by omega)]
  exact ⟨_, found, toNat_addressOf found⟩

/-- At the end of a region that is not addressable even an empty range has no address. -/
theorem Exact.addressable (exact : region.Exact) : region.Addressable := by
  obtain ⟨address, -, same⟩ := exact region.length.toNat 0 (Nat.le_refl _)
  unfold Addressable
  rw [← same]
  exact address.toNat_lt

theorem exact_iff (region : RemoteRegion) : region.Exact ↔ region.Addressable :=
  ⟨Exact.addressable, Addressable.exact⟩

/-- Addresses in the region of a record, whatever the record says.  A range that is too long is
refused and named.  Any other one has its address, which is base and offset together, wherever that
is a word; where it is not, the addition overflows.  So every range has its address if and only if
the region ends inside the address space. -/
theorem addresses_of_record (record : Record) :
    let region := record.region
    Record.ofBytes record.toBytes = .ok record ∧
    (∀ offset length, region.length.toNat < offset + length →
      region.addressOf offset length = .error (.range ⟨offset, length, region.length.toNat⟩)) ∧
    (∀ offset length, offset + length ≤ region.length.toNat →
      ((∃ address, region.addressOf offset length = .ok address) ↔
        region.address.toNat + offset < 2 ^ 64) ∧
      (region.addressOf offset length = .error .overflow ↔
        2 ^ 64 ≤ region.address.toNat + offset)) ∧
    (∀ offset length address, region.addressOf offset length = .ok address →
      address.toNat = region.address.toNat + offset) ∧
    (region.Exact ↔ region.Addressable) := by
  intro region
  refine ⟨Record.ofBytes_toBytes record, fun offset length outside => ?_,
    fun offset length inside => ?_, fun _ _ _ => toNat_addressOf, exact_iff region⟩
  · rw [addressOf_eq, if_neg (Nat.not_le_of_lt outside)]
  · rw [addressOf_eq, if_pos inside]
    by_cases fits : region.address.toNat + offset < 2 ^ 64
    · rw [if_pos fits]
      exact ⟨⟨fun _ => fits, fun _ => ⟨_, rfl⟩⟩,
        fun none => (by cases none), fun high => absurd fits (Nat.not_lt_of_le high)⟩
    · rw [if_neg fits]
      exact ⟨⟨fun told => (by obtain ⟨_, h⟩ := told; cases h), fun low => absurd low fits⟩,
        fun _ => Nat.le_of_not_lt fits, fun _ => rfl⟩

/-- A region at the very end of the address space, two bytes long as its record says: an empty
range behind its first byte is inside the region and has no address. -/
theorem second_byte_overflows :
    let record : Record :=
      { transport := .rdma
        queuePair := ⟨1, 1, 1, Gid.ofIpv4 Ipv4.loopback⟩
        region := ⟨18446744073709551615, 2, 7⟩
        ip := Ipv4.loopback
        port := 4000 }
    Record.ofBytes record.toBytes = .ok record ∧
      record.region.addressOf 1 0 = .error .overflow ∧ ¬ record.region.Exact := by
  intro record
  refine ⟨Record.ofBytes_toBytes record, rfl, fun exact => ?_⟩
  exact absurd exact.addressable (by unfold Addressable; decide)

end RemoteRegion

/-- A record tells of a region inside the address space if the registration was made from one. -/
theorem Connection.record_addressable {connection : Connection} {registration : Registration}
    {region : Region} {record : Record}
    (registered : connection.registration = some registration)
    (described : registration.address = region.base ∧ registration.length = region.size)
    (told : connection.record = .ok record) : record.region.Addressable := by
  have fits := region.fits
  unfold Connection.record at told
  rw [registered] at told
  split at told
  · next held =>
    cases held
    cases told
    unfold RemoteRegion.Addressable
    rw [described.1, described.2, UInt64.toNat_ofNat', Nat.mod_eq_of_lt (by omega)]
    exact fits
  · cases told

end RdmaLink
