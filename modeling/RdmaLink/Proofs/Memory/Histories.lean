import RdmaLink.Memory.Allocation
import RdmaLink.Memory.Calls
import RdmaLink.Proofs.Publication.Paths

/-!
# A region under a history of calls

The calls on a region answer like those on a checked array.  What a call is told depends on the
size of the region and on the calls before it: the range is refused when its end, added up without
a bound, lies past the region, and a byte is what the latest accepted call put there
(`Region.latest`).  Beside that a read fails when the buffer for its answer cannot be had, wherever
its range lies.

    (region.after spare calls).bytes i = latest size calls i                 (bytes_after)
    (perform spare region' call).1 = (call.buffer spare).map fun _ => told size calls call
-/

namespace RdmaLink

/-! ## Words and ranges -/

theorem toNat_of_checkedAdd {a b c : UInt64} (h : checkedAdd a b = some c) :
    c.toNat = a.toNat + b.toNat := by
  unfold checkedAdd at h
  split at h
  · next room =>
    cases h
    rw [UInt64.toNat_add, Nat.mod_eq_of_lt room]
  · cases h

theorem checkedAdd_eq_none {a b : UInt64} :
    checkedAdd a b = none ↔ UInt64.size ≤ a.toNat + b.toNat := by
  unfold checkedAdd
  split
  · next room =>
    exact ⟨fun h => (Option.some_ne_none _ h).elim, fun h => absurd room (Nat.not_lt.mpr h)⟩
  · next full => exact ⟨fun _ => Nat.not_lt.mp full, fun _ => rfl⟩

namespace Region

/-- The checked sum is exact: a range whose end is no word ends past every region. -/
theorem holds_eq_true (region : Region) (offset length : UInt64) :
    region.holds offset length = true ↔ offset.toNat + length.toNat ≤ region.size := by
  have fits : region.base.toNat + region.size < UInt64.size := region.fits
  unfold holds
  cases hsum : checkedAdd offset length with
  | none =>
    have := checkedAdd_eq_none.mp hsum
    constructor
    · intro h
      cases h
    · intro h
      omega
  | some last =>
    have := toNat_of_checkedAdd hsum
    rw [Option.any_some, decide_eq_true_iff, this]

theorem check_of_room {region : Region} {offset length : UInt64}
    (room : offset.toNat + length.toNat ≤ region.size) : region.check offset length = .ok () := by
  unfold check
  rw [if_pos ((region.holds_eq_true offset length).mpr room)]

theorem check_of_past {region : Region} {offset length : UInt64}
    (past : region.size < offset.toNat + length.toNat) :
    region.check offset length = .error (region.outside offset.toNat length.toNat) := by
  unfold check
  rw [if_neg fun h => by have := (region.holds_eq_true offset length).mp h; omega]

end Region

/-! ## Calls -/

/-- A block of bytes that a program can hold. -/
structure Slice where
  bytes : Bytes
  fits : bytes.length < bufferLimit

def Slice.length (data : Slice) : UInt64 := .ofNat data.bytes.length

@[simp] theorem Slice.toNat_length (data : Slice) : data.length.toNat = data.bytes.length := by
  have := data.fits
  unfold bufferLimit at this
  unfold Slice.length
  rw [UInt64.toNat_ofNat', Nat.mod_eq_of_lt (by omega)]

/-- A call on a region. -/
inductive RegionCall where
  | read (offset length : UInt64)
  | write (offset : UInt64) (data : Slice)
  | fill (offset length : UInt64) (value : UInt8)

namespace RegionCall

def offset : RegionCall → UInt64
  | .read offset _ => offset
  | .write offset _ => offset
  | .fill offset _ _ => offset

def length : RegionCall → UInt64
  | .read _ length => length
  | .write _ data => data.length
  | .fill _ length _ => length

/-- The range of a call lies inside a region of `size` bytes. -/
def Inside (size : Nat) (call : RegionCall) : Prop :=
  call.offset.toNat + call.length.toNat ≤ size

instance (size : Nat) (call : RegionCall) : Decidable (call.Inside size) :=
  inferInstanceAs (Decidable (_ ≤ _))

/-- Byte `i` lies in the range of the call. -/
def Covers (call : RegionCall) (i : Nat) : Prop :=
  call.offset.toNat ≤ i ∧ i < call.offset.toNat + call.length.toNat

instance (call : RegionCall) (i : Nat) : Decidable (call.Covers i) :=
  inferInstanceAs (Decidable (_ ∧ _))

/-- What an accepted call puts at byte `i`; a read puts nothing anywhere. -/
def value? : RegionCall → Nat → Option UInt8
  | .read _ _, _ => none
  | .write offset data, i => if offset.toNat ≤ i then data.bytes[i - offset.toNat]? else none
  | .fill offset length value, i =>
    if offset.toNat ≤ i ∧ i < offset.toNat + length.toNat then some value else none

/-- The buffer that a call takes. -/
def buffer (spare : Nat) : RegionCall → Except BufferFault Unit
  | .read _ length => takeBuffer spare length
  | .write _ _ => .ok ()
  | .fill _ _ _ => .ok ()

/-- Nothing is put outside the range of a call. -/
theorem value?_of_not_covers {call : RegionCall} {i : Nat} (h : ¬ call.Covers i) :
    call.value? i = none := by
  unfold Covers at h
  cases call with
  | read offset length => rfl
  | write offset data =>
    simp only [RegionCall.offset, RegionCall.length, Slice.toNat_length] at h
    show (if offset.toNat ≤ i then data.bytes[i - offset.toNat]? else none) = none
    by_cases hfrom : offset.toNat ≤ i
    · rw [if_pos hfrom]
      exact List.getElem?_eq_none (by omega)
    · exact if_neg hfrom
  | fill offset length value => exact if_neg h

end RegionCall

namespace Region

/-- What a call answers and the region that it leaves; a read answers with bytes. -/
def perform (spare : Nat) (region : Region) :
    RegionCall → Except BufferFault (Except OutOfBounds (Option Bytes)) × Region
  | .read offset length =>
    ((region.readAt spare offset length).map fun outcome => outcome.map some, region)
  | .write offset data => settled (region.writeAt offset data.bytes)
  | .fill offset length value => settled (region.fillAt offset length value)
where
  settled : Except OutOfBounds Region →
      Except BufferFault (Except OutOfBounds (Option Bytes)) × Region
    | .ok written => (.ok (.ok none), written)
    | .error e => (.ok (.error e), region)

/-- The region after a history of calls. -/
def after (spare : Nat) (region : Region) (calls : List RegionCall) : Region :=
  calls.foldl (fun held call => (held.perform spare call).2) region

@[simp] theorem after_concat (spare : Nat) (region : Region) (calls : List RegionCall)
    (call : RegionCall) :
    region.after spare (calls ++ [call]) = ((region.after spare calls).perform spare call).2 := by
  unfold after
  rw [List.foldl_append]
  rfl

/-- The byte `i` of a region of `size` zeros after a history: the value that the latest accepted
call put there. -/
def latest (size : Nat) (calls : List RegionCall) (i : Nat) : UInt8 :=
  ((calls.filter (RegionCall.Inside size)).reverse.findSome? (·.value? i)).getD 0

/-- What a call after a history is told by a checked array of `size` zeros. -/
def told (size : Nat) (calls : List RegionCall) (call : RegionCall) :
    Except OutOfBounds (Option Bytes) :=
  if call.Inside size then
    match call with
    | .read offset length =>
      .ok (some ((List.range length.toNat).map fun i => latest size calls (offset.toNat + i)))
    | .write _ _ => .ok none
    | .fill _ _ _ => .ok none
  else .error ⟨call.offset.toNat, call.length.toNat, size⟩

/-! ## One call -/

/-- What a region has to say to a call that it accepts. -/
def reply (region : Region) : RegionCall → Option Bytes
  | .read offset length => some (region.slice offset.toNat length.toNat)
  | .write _ _ => none
  | .fill _ _ _ => none

/-- The region after a call that it accepts. -/
def put (region : Region) : RegionCall → Region
  | .read _ _ => region
  | .write offset data => region.stored offset.toNat data.bytes.toArray
  | .fill offset length value => region.filled offset.toNat length.toNat value

/-- A range inside the region: the call is answered, unless its buffer fails. -/
theorem perform_of_room {region : Region} {call : RegionCall} (spare : Nat)
    (room : call.Inside region.size) :
    region.perform spare call =
      ((call.buffer spare).map fun _ => .ok (region.reply call), region.put call) := by
  cases call with
  | read offset length =>
    have checked : region.check offset length = .ok () := check_of_room room
    simp only [perform, readAt, readInto, checked, RegionCall.buffer]
    cases takeBuffer spare length with
    | error fault => rfl
    | ok _ => rfl
  | write offset data =>
    have checked : region.check offset (.ofNat data.bytes.length) = .ok () := check_of_room room
    simp only [perform, writeAt, checked]
    rfl
  | fill offset length value =>
    have checked : region.check offset length = .ok () := check_of_room room
    simp only [perform, fillAt, checked]
    rfl

/-- A range past the region: the call is refused, unless its buffer fails before that, and
changes nothing. -/
theorem perform_of_past {region : Region} {call : RegionCall} (spare : Nat)
    (past : ¬ call.Inside region.size) :
    region.perform spare call =
      ((call.buffer spare).map fun _ =>
        .error (region.outside call.offset.toNat call.length.toNat), region) := by
  have refused := check_of_past (Nat.lt_of_not_le past)
  cases call with
  | read offset length =>
    replace refused : region.check offset length = _ := refused
    simp only [perform, readAt, readInto, refused, RegionCall.buffer]
    cases takeBuffer spare length with
    | error fault => rfl
    | ok _ => rfl
  | write offset data =>
    replace refused : region.check offset (.ofNat data.bytes.length) = _ := refused
    simp only [perform, writeAt, refused]
    rfl
  | fill offset length value =>
    replace refused : region.check offset length = _ := refused
    simp only [perform, fillAt, refused]
    rfl

theorem bytes_put (region : Region) (call : RegionCall) (i : Nat) :
    (region.put call).bytes i = (call.value? i).getD (region.bytes i) := by
  cases call with
  | read offset length => rfl
  | write offset data =>
    show (region.stored offset.toNat data.bytes.toArray).bytes i = _
    unfold stored RegionCall.value?
    by_cases hfrom : offset.toNat ≤ i
    · simp only [if_pos hfrom, List.getElem?_toArray]
    · simp only [if_neg hfrom, Option.getD_none]
  | fill offset length value =>
    show (region.filled offset.toNat length.toNat value).bytes i = _
    unfold filled RegionCall.value?
    by_cases hin : offset.toNat ≤ i ∧ i < offset.toNat + length.toNat
    · simp only [if_pos hin, Option.getD_some]
    · simp only [if_neg hin, Option.getD_none]

theorem size_put (region : Region) (call : RegionCall) : (region.put call).size = region.size := by
  cases call with
  | read _ _ => rfl
  | write _ _ => rfl
  | fill _ _ _ => rfl

theorem size_perform (spare : Nat) (region : Region) (call : RegionCall) :
    (region.perform spare call).2.size = region.size := by
  by_cases room : call.Inside region.size
  · rw [perform_of_room spare room, size_put]
  · rw [perform_of_past spare room]

/-- A region whose bytes are those of a history replies like the checked array. -/
theorem reply_eq_told {region : Region} {size : Nat} {calls : List RegionCall} {call : RegionCall}
    (room : call.Inside size) (hbytes : ∀ i, region.bytes i = latest size calls i) :
    .ok (region.reply call) = told size calls call := by
  unfold told
  rw [if_pos room]
  cases call with
  | read offset length =>
    have slice_eq : region.slice offset.toNat length.toNat =
        (List.range length.toNat).map fun i => latest size calls (offset.toNat + i) :=
      List.map_congr_left fun i _ => hbytes (offset.toNat + i)
    show Except.ok (some (region.slice offset.toNat length.toNat)) = _
    rw [slice_eq]
  | write offset data => rfl
  | fill offset length value => rfl

/-! ## Histories -/

theorem latest_concat (size : Nat) (calls : List RegionCall) (call : RegionCall) (i : Nat) :
    latest size (calls ++ [call]) i =
      if call.Inside size then (call.value? i).getD (latest size calls i)
      else latest size calls i := by
  unfold latest
  rw [List.filter_append]
  by_cases room : call.Inside size
  · rw [if_pos room, List.filter_cons_of_pos (by simpa using room), List.filter_nil,
      List.reverse_append, List.reverse_singleton, List.singleton_append, List.findSome?_cons]
    cases call.value? i with
    | none => rfl
    | some value => rfl
  · rw [if_neg room, List.filter_cons_of_neg (by simpa using room), List.filter_nil,
      List.append_nil]

theorem size_after (spare : Nat) (region : Region) (calls : List RegionCall) :
    (region.after spare calls).size = region.size := by
  rw [← calls.reverse_reverse]
  induction calls.reverse with
  | nil => rfl
  | cons call earlier ih => rw [List.reverse_cons, after_concat, size_perform, ih]

/-- A byte of a region of zeros is what the latest accepted call put there. -/
theorem bytes_after {region : Region} (zeros : ∀ i, region.bytes i = 0) (spare : Nat)
    (calls : List RegionCall) (i : Nat) :
    (region.after spare calls).bytes i = latest region.size calls i := by
  rw [← calls.reverse_reverse]
  induction calls.reverse with
  | nil => exact zeros i
  | cons call earlier ih =>
    have hsize := size_after spare region earlier.reverse
    rw [List.reverse_cons, after_concat, latest_concat]
    by_cases room : call.Inside region.size
    · rw [if_pos room, perform_of_room spare (hsize.symm ▸ room), bytes_put, ih]
    · rw [if_neg room, perform_of_past spare (hsize.symm ▸ room), ih]

end Region

/-- A reserved region has its size and holds zeros. -/
theorem RegionSpace.create_eq_ok {space space' : RegionSpace} {lot : RegionLot} {name : String}
    {size : Nat} {region : Region} (h : space.create lot name size = (.ok region, space')) :
    region.size = size ∧ ∀ i, region.bytes i = 0 := by
  unfold RegionSpace.create RegionSpace.map at h
  split at h
  · cases h
  · simp only at h
    split at h
    · cases h
    · next region' _ hmap =>
      cases h
      split at hmap
      · split at hmap
        · cases hmap
        · cases hmap
          exact ⟨rfl, fun _ => rfl⟩
      · split at hmap
        · cases hmap
        · cases hmap

/-! ## A region of sixty-four bytes -/

/-- An empty directory. -/
def emptySpace : RegionSpace := ⟨"/dev/shm", .empty, 2, 23⟩

/-- Sixty-four zeros at the address 4096. -/
def sixtyFour : Region := ⟨"oracle", 4096, 64, fun _ => 0, by decide⟩

theorem create_sixtyFour : emptySpace.create ⟨4096, .ordinary⟩ "oracle" 64 =
    (.ok sixtyFour, ⟨"/dev/shm", ⟨[("rdma_oracle_2_23", 64)]⟩, 2, 24⟩) := by
  have named : Region.fileName "oracle" 2 23 = "rdma_oracle_2_23" := rfl
  have opened : BackingDirectory.empty.openingRefusal "rdma_oracle_2_23" = none := by
    have whole : "rdma_oracle_2_23".splitOn "/" = ["rdma_oracle_2_23"] := by
      rw [FileTree.splitOn_slash]
      rfl
    have plain : "rdma_oracle_2_23".contains '\x00' = false := by simp
    unfold BackingDirectory.openingRefusal
    rw [whole, plain]
    decide
  unfold RegionSpace.create RegionSpace.map BackingDirectory.create
  simp only [emptySpace, named, opened]
  rfl

/-- Eight sevens, and two bytes over them. -/
def overlapping : List RegionCall := [.fill 0 8 7, .write 4 ⟨[1, 2], by decide⟩]

/-! ## Main results -/

/-- **A checked array, as far as there is room for the answers.**  After every history of calls
on a reserved region of `size` bytes, the next call is told what a checked array of that size
tells it, the only other failure is that of the buffer of a read, a call past the region changes
nothing, and an accepted one changes the bytes of its range. -/
theorem region_answers_history {space space' : RegionSpace} {lot : RegionLot} {name : String}
    {size : Nat} {region : Region} (made : space.create lot name size = (.ok region, space'))
    (spare : Nat) (calls : List RegionCall) (call : RegionCall) :
    let held := region.after spare calls
    let left := (held.perform spare call).2
    (held.perform spare call).1 = (call.buffer spare).map (fun _ => Region.told size calls call) ∧
      (¬ call.Inside size → left = held) ∧
      (call.Inside size → ∀ i, left.bytes i =
        if call.Covers i then (call.value? i).getD (held.bytes i) else held.bytes i) := by
  obtain ⟨hsize, zeros⟩ := RegionSpace.create_eq_ok made
  have held_size : (region.after spare calls).size = size :=
    (Region.size_after spare region calls).trans hsize
  have held_bytes : ∀ i, (region.after spare calls).bytes i = Region.latest size calls i := by
    intro i
    rw [Region.bytes_after zeros, hsize]
  intro held left
  refine ⟨?_, ?_, ?_⟩
  · by_cases room : call.Inside size
    · rw [Region.perform_of_room spare (held_size.symm ▸ room),
        Region.reply_eq_told room held_bytes]
    · rw [Region.perform_of_past spare (held_size.symm ▸ room)]
      unfold Region.told Region.outside
      rw [if_neg room, held_size]
  · intro past
    show (held.perform spare call).2 = held
    rw [Region.perform_of_past spare (held_size.symm ▸ past)]
  · intro room i
    show (held.perform spare call).2.bytes i = _
    rw [Region.perform_of_room spare (held_size.symm ▸ room), Region.bytes_put]
    split
    · rfl
    · next outside => rw [RegionCall.value?_of_not_covers outside, Option.getD_none]

/-- What overlapping stores leave is read back. -/
theorem overlapping_read_back :
    ((sixtyFour.after 1024 overlapping).perform 1024 (.read 3 4)).1 =
        .ok (.ok (some [7, 1, 2, 7])) ∧
      ((sixtyFour.after 1024 overlapping).perform 1024 (.fill 60 8 9)).1 =
        .ok (.error ⟨60, 8, 64⟩) :=
  ⟨(region_answers_history create_sixtyFour 1024 overlapping (.read 3 4)).1,
    (region_answers_history create_sixtyFour 1024 overlapping (.fill 60 8 9)).1⟩

/-- A read of more bytes than a buffer has is past the region and is not refused: it ends its
caller.  A fill of the same range is refused. -/
theorem overlong_read_not_refused :
    64 < (0 : UInt64).toNat + (18446744073709551615 : UInt64).toNat ∧
      (sixtyFour.perform bufferLimit (.read 0 18446744073709551615)).1 = .error .capacity ∧
      (sixtyFour.perform bufferLimit (.fill 0 18446744073709551615 1)).1 =
        .ok (.error ⟨0, 18446744073709551615, 64⟩) :=
  ⟨by decide, rfl, rfl⟩

end RdmaLink
