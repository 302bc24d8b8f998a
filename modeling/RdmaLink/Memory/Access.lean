/-!
# Access rights

The three rights that a registration may grant, and their packing into the low bits of a word.
-/

namespace RdmaLink

/-- The rights that a registration grants. -/
structure Access where
  /-- Data of the owner's own reads may be stored. -/
  localWrite : Bool
  /-- Peers may write. -/
  remoteWrite : Bool
  /-- Peers may read. -/
  remoteRead : Bool
deriving DecidableEq, Repr, Inhabited

namespace Access

def none : Access := ⟨false, false, false⟩

/-- The rights that a connection registers its region with. -/
def all : Access := ⟨true, true, true⟩

/-- The rights as bits: one, two and four. -/
def bits (access : Access) : Nat :=
  access.localWrite.toNat + 2 * access.remoteWrite.toNat + 4 * access.remoteRead.toNat

/-- The rights in the three low bits of a number; higher bits are ignored. -/
def ofBits (n : Nat) : Access := ⟨n.testBit 0, n.testBit 1, n.testBit 2⟩

/-- Whether every right in `needed` is granted. -/
def includes (granted needed : Access) : Bool :=
  (granted.localWrite || !needed.localWrite) &&
  (granted.remoteWrite || !needed.remoteWrite) &&
  (granted.remoteRead || !needed.remoteRead)

theorem ofBits_bits (access : Access) : ofBits access.bits = access := by
  rcases access with ⟨a, b, c⟩
  cases a <;> cases b <;> cases c <;> rfl

end Access

end RdmaLink
