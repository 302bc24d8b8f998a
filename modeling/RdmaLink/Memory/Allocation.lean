import RdmaLink.Device.Basic
import RdmaLink.Endpoint.Error
import RdmaLink.Memory.BackingFile

/-!
# Reserving regions

A process reserves its regions in one directory and counts them, so that every file of a region
has a name of its own.  A region's size is bounded, by a fixed limit and by what the device
registers.
-/

namespace RdmaLink

/-- Where a process keeps the files of its regions. -/
structure RegionSpace where
  /-- The path of the directory. -/
  path : String
  directory : BackingDirectory
  process : UInt32
  /-- The number of the next region; behind the last word the numbers start again. -/
  sequence : UInt64
deriving DecidableEq, Repr, Inhabited

/-- What the system decides when a region is mapped: the base address, and what it turns down. -/
structure RegionLot where
  base : UInt64
  limits : BackingLimits

namespace RegionSpace

/-- The path of a file in the directory. -/
def pathOf (space : RegionSpace) (file : String) : String := space.path ++ "/" ++ file

/-- Makes the file of a region and maps it.  A base that leaves no room below the end of the
address space is refused like a mapping. -/
def map (space : RegionSpace) (lot : RegionLot) (name file : String) (size : Nat) :
    Except IoError Region × RegionSpace :=
  if fits : lot.base.toNat + size < 2 ^ 64 then
    match space.directory.create lot.limits file size with
    | (.error e, directory) => (.error e, { space with directory := directory })
    | (.ok (), directory) =>
      (.ok ⟨name, lot.base, size, fun _ => 0, fits⟩, { space with directory := directory })
  else
    let limits := { lot.limits with mapping := fun _ => some (.os Errno.outOfMemory) }
    match space.directory.create limits file size with
    | (.error e, directory) => (.error e, { space with directory := directory })
    | (.ok (), directory) => (.error (.os Errno.outOfMemory), { space with directory := directory })

/-- Reserves a region of zeros. -/
def create (space : RegionSpace) (lot : RegionLot) (name : String) (size : Nat) :
    Except EndpointError Region × RegionSpace :=
  if size = 0 ∨ Region.maxSize < size then (.error (.allocation size .size), space)
  else
    let file := Region.fileName name space.process space.sequence
    let counted := { space with sequence := space.sequence + 1 }
    match counted.map lot name file size with
    | (.error e, space) => (.error (.allocation size (.file (space.pathOf file) e)), space)
    | (.ok region, space) => (.ok region, space)

/-- Takes the file of a region away. -/
def release (space : RegionSpace) (file : String) : RegionSpace :=
  { space with directory := space.directory.erase file }

/-- Reserves a region that a device can register. -/
def allocate (space : RegionSpace) (device : Device) (lot : RegionLot) (name : String)
    (size : Nat) : Except EndpointError Region × RegionSpace :=
  if device.profile.maxRegion < size then
    (.error (.allocation size (.deviceLimit device.profile.name device.profile.maxRegion)), space)
  else space.create lot name size

end RegionSpace

end RdmaLink
