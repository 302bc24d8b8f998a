import RdmaLink.Memory.Calls

/-!
# A peer's region

What a peer tells of its region: base address, length and the key that opens it.  Both numbers come
from the peer as they are, so base and offset together need not be a word.
-/

namespace RdmaLink

/-- A peer's region as its record describes it. -/
structure RemoteRegion where
  address : UInt64
  length : UInt64
  key : UInt32
deriving DecidableEq, Repr, Inhabited

/-- Why a range of a peer's region has no address. -/
inductive AddressFault where
  /-- The range is not inside the region, whose length is as the peer states it. -/
  | range (range : OutOfBounds)
  /-- Base and offset together are no word.  The addition is checked for overflow, and what fails
  there ends the caller and not the call. -/
  | overflow
deriving DecidableEq, Repr, Inhabited

namespace RemoteRegion

/-- The address of a range of the peer's region.  The range is looked at first, against the stated
length. -/
def addressOf (region : RemoteRegion) (offset length : Nat) : Except AddressFault UInt64 :=
  if offset + length ≤ region.length.toNat then
    match checkedAdd region.address (UInt64.ofNat offset) with
    | some address => .ok address
    | none => .error .overflow
  else .error (.range ⟨offset, length, region.length.toNat⟩)

end RemoteRegion

end RdmaLink
