import RdmaLink.Memory.Region

/-!
# The calls on a region

The owner of a region calls on it with words: the end of a range is a sum that is checked for
overflow.  A read returns a buffer of its own, and takes it before it looks at the range; a length
that no buffer can have ends the caller and not the call.

    region.readAt spare offset length =
      (takeBuffer spare length).map fun _ => region.readInto offset length
-/

namespace RdmaLink

/-- The sum of two words, if it is a word. -/
def checkedAdd (a b : UInt64) : Option UInt64 :=
  if a.toNat + b.toNat < 2 ^ 64 then some (a + b) else none

/-! ## Buffers -/

/-- No buffer has that many bytes. -/
def bufferLimit : Nat := 2 ^ 63

/-- Why a buffer cannot be had. -/
inductive BufferFault where
  /-- No buffer has that length. -/
  | capacity
  /-- The process gets no memory of that length. -/
  | memory (length : UInt64)
deriving DecidableEq, Repr, Inhabited

def BufferFault.message : BufferFault → String
  | .capacity => "capacity overflow"
  | .memory length => "memory allocation of " ++ toString length ++ " bytes failed"

/-- Takes a buffer of zeros; `spare` is the length up to which the process gets memory. -/
def takeBuffer (spare : Nat) (length : UInt64) : Except BufferFault Unit :=
  if bufferLimit ≤ length.toNat then .error .capacity
  else if spare < length.toNat then .error (.memory length)
  else .ok ()

namespace Region

/-! ## The calls -/

/-- Whether the range of `length` bytes at `offset` lies inside the region. -/
def holds (region : Region) (offset length : UInt64) : Bool :=
  (checkedAdd offset length).any fun last => decide (last.toNat ≤ region.size)

/-- Looks at a range. -/
def check (region : Region) (offset length : UInt64) : Except OutOfBounds Unit :=
  if region.holds offset length then .ok ()
  else .error (region.outside offset.toNat length.toNat)

/-- Reads a range into a buffer of its length. -/
def readInto (region : Region) (offset length : UInt64) : Except OutOfBounds Bytes :=
  (region.check offset length).map fun _ => region.slice offset.toNat length.toNat

/-- Reads a range into a buffer that the call takes. -/
def readAt (region : Region) (spare : Nat) (offset length : UInt64) :
    Except BufferFault (Except OutOfBounds Bytes) :=
  (takeBuffer spare length).map fun _ => region.readInto offset length

/-- Stores bytes from an offset on. -/
def writeAt (region : Region) (offset : UInt64) (data : Bytes) : Except OutOfBounds Region :=
  (region.check offset (.ofNat data.length)).map fun _ => region.stored offset.toNat data.toArray

/-- Sets every byte of a range to one value. -/
def fillAt (region : Region) (offset length : UInt64) (value : UInt8) :
    Except OutOfBounds Region :=
  (region.check offset length).map fun _ => region.filled offset.toNat length.toNat value

end Region

end RdmaLink
