import RdmaLink.Memory.Access
import RdmaLink.Memory.Region

/-!
# Registrations

A region that a device may touch is registered.  The registration has two keys: the local key
goes into the owner's requests, the remote key is handed to peers.  Local keys count up from one;
remote keys are odd and drawn at random until one is free.
-/

namespace RdmaLink

/-- A registered region. -/
structure Registration where
  localKey : UInt32
  remoteKey : UInt32
  address : UInt64
  length : Nat
  access : Access
  region : RegionId
deriving DecidableEq, Repr, Inhabited

/-- The offset of a range of addresses within the registered region, if it lies inside. -/
def Registration.offsetOf? (registration : Registration) (address : UInt64) (length : Nat) :
    Option Nat :=
  if registration.address ≤ address then
    let offset := address.toNat - registration.address.toNat
    if offset + length ≤ registration.length then some offset else none
  else none

/-- The registrations of a device, oldest first. -/
structure Registrations where
  entries : List Registration
  /-- The local key given out last. -/
  lastKey : UInt32
deriving DecidableEq, Repr, Inhabited

namespace Registrations

def empty : Registrations := ⟨[], 0⟩

def count (table : Registrations) : Nat := table.entries.length

/-- The registration with a local key. -/
def byLocalKey? (table : Registrations) (key : UInt32) : Option Registration :=
  table.entries.find? fun r => r.localKey == key

/-- The registration with a remote key. -/
def byRemoteKey? (table : Registrations) (key : UInt32) : Option Registration :=
  table.entries.find? fun r => r.remoteKey == key

def remoteKeyTaken (table : Registrations) (key : UInt32) : Bool :=
  table.entries.any fun r => r.remoteKey == key

/-- The local key after the last one; zero is left out. -/
def nextKey (table : Registrations) : UInt32 :=
  if table.lastKey + 1 = 0 then 1 else table.lastKey + 1

/-- The first drawn word that, made odd, is no remote key in use; with no such draw, the least
odd word that is free. -/
def freeRemoteKey (table : Registrations) (draws : List UInt32) : UInt32 :=
  let spares := (List.range (table.count + 1)).map fun i => UInt32.ofNat (2 * i + 1)
  let odd := draws.map (· ||| 1)
  (((odd ++ spares).find? fun key => !table.remoteKeyTaken key)).getD 1

/-- Registers a region. -/
def insert (table : Registrations) (id : RegionId) (region : Region) (access : Access)
    (draws : List UInt32) : Registration × Registrations :=
  let key := table.nextKey
  let registration : Registration :=
    { localKey := key
      remoteKey := table.freeRemoteKey draws
      address := region.base
      length := region.size
      access := access
      region := id }
  let others := table.entries.filter fun r => r.localKey != key
  (registration, ⟨others ++ [registration], key⟩)

/-- Gives up the registration with a local key. -/
def remove? (table : Registrations) (key : UInt32) : Option Registrations :=
  if (table.byLocalKey? key).isSome then
    some { table with entries := table.entries.filter fun r => r.localKey != key }
  else none

end Registrations

end RdmaLink
