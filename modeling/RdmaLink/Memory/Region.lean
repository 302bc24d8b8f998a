import RdmaLink.Bytes

/-!
# Memory regions

A region is a block of bytes at a base address.  It is read and written by offset; a range that
ends past the region is refused and changes nothing.  The memory of a process is its regions by
number.

    region.read offset length = .ok bytes → bytes[i] = region.bytes (offset + i)
-/

namespace RdmaLink

/-- The greatest size of a region: one gibibyte. -/
def Region.maxSize : Nat := 1073741824

/-- An offset range that is not inside a region. -/
structure OutOfBounds where
  offset : Nat
  length : Nat
  regionSize : Nat
deriving DecidableEq, Repr, Inhabited

def OutOfBounds.message (e : OutOfBounds) : String :=
  "Range " ++ toString e.offset ++ "+" ++ toString e.length ++ " outside region of " ++
    toString e.regionSize ++ " bytes"

/-- A block of `size` bytes at the address `base`, inside the 64-bit address space. -/
structure Region where
  name : String
  base : UInt64
  size : Nat
  bytes : Nat → UInt8
  fits : base.toNat + size < 2 ^ 64

namespace Region

/-- Whether the range of `length` bytes at `offset` lies inside the region. -/
def contains (region : Region) (offset length : Nat) : Bool :=
  decide (offset + length ≤ region.size)

/-- The complaint about a range of this region. -/
def outside (region : Region) (offset length : Nat) : OutOfBounds :=
  ⟨offset, length, region.size⟩

/-- The bytes of a range. -/
def slice (region : Region) (offset length : Nat) : Bytes :=
  (List.range length).map fun i => region.bytes (offset + i)

/-- Reads a range. -/
def read (region : Region) (offset length : Nat) : Except OutOfBounds Bytes :=
  if region.contains offset length then .ok (region.slice offset length)
  else .error (region.outside offset length)

/-- The region with `data` stored from `offset` on. -/
def stored (region : Region) (offset : Nat) (data : Array UInt8) : Region :=
  { region with
    bytes := fun i =>
      if offset ≤ i then (data[i - offset]?).getD (region.bytes i) else region.bytes i }

/-- Stores bytes from an offset on. -/
def write (region : Region) (offset : Nat) (data : Bytes) : Except OutOfBounds Region :=
  if region.contains offset data.length then .ok (region.stored offset data.toArray)
  else .error (region.outside offset data.length)

/-- The region with a range set to one value. -/
def filled (region : Region) (offset length : Nat) (value : UInt8) : Region :=
  { region with
    bytes := fun i => if offset ≤ i ∧ i < offset + length then value else region.bytes i }

/-- Sets every byte of a range to one value. -/
def fill (region : Region) (offset length : Nat) (value : UInt8) : Except OutOfBounds Region :=
  if region.contains offset length then .ok (region.filled offset length value)
  else .error (region.outside offset length)

/-! ## Lemmas -/

@[simp] theorem length_slice (region : Region) (offset length : Nat) :
    (region.slice offset length).length = length := by simp [slice]

theorem slice_getElem (region : Region) (offset length i : Nat)
    (h : i < (region.slice offset length).length) :
    (region.slice offset length)[i] = region.bytes (offset + i) := by simp [slice]

@[simp] theorem size_stored (region : Region) (offset : Nat) (data : Array UInt8) :
    (region.stored offset data).size = region.size := rfl

@[simp] theorem size_filled (region : Region) (offset length : Nat) (value : UInt8) :
    (region.filled offset length value).size = region.size := rfl

/-- A store changes the bytes of its range and no other. -/
theorem bytes_stored (region : Region) (offset : Nat) (data : Bytes) (i : Nat) :
    (region.stored offset data.toArray).bytes i =
      if h : offset ≤ i ∧ i < offset + data.length then data.get ⟨i - offset, by omega⟩
      else region.bytes i := by
  unfold stored
  by_cases h1 : offset ≤ i
  · by_cases h2 : i < offset + data.length
    · have : i - offset < data.length := by omega
      simp [h1, h2, this]
    · have : data.length ≤ i - offset := by omega
      simp [h1, h2, this]
  · simp [h1]

end Region

/-! ## The memory of a process -/

/-- The number of a region in a process. -/
structure RegionId where
  index : Nat
deriving DecidableEq, Repr, Inhabited

/-- The regions of a process by number. -/
structure Memory where
  regions : List Region

namespace Memory

def empty : Memory := ⟨[]⟩

def region? (memory : Memory) (id : RegionId) : Option Region := memory.regions[id.index]?

/-- Adds a region and gives its number. -/
def add (memory : Memory) (region : Region) : RegionId × Memory :=
  (⟨memory.regions.length⟩, ⟨memory.regions ++ [region]⟩)

/-- Puts a region in the place of the one with its number. -/
def put (memory : Memory) (id : RegionId) (region : Region) : Memory :=
  ⟨memory.regions.set id.index region⟩

/-- Reads a range of a region; an unknown region is empty. -/
def read (memory : Memory) (id : RegionId) (offset length : Nat) : Except OutOfBounds Bytes :=
  match memory.region? id with
  | some region => region.read offset length
  | none => .error ⟨offset, length, 0⟩

/-- Stores bytes in a region; an unknown region is empty. -/
def write (memory : Memory) (id : RegionId) (offset : Nat) (data : Bytes) :
    Except OutOfBounds Memory :=
  match memory.region? id with
  | some region => (region.write offset data).map (memory.put id)
  | none => .error ⟨offset, data.length, 0⟩

end Memory

end RdmaLink
