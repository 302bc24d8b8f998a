import RdmaLink.System.IoError
import RdmaLink.Memory.Region

/-!
# Files behind regions

A region is backed by a fresh file in one flat directory.  Creating it takes three steps: the
file is opened (and must not exist), given its length, and mapped.  A mapping that is refused
takes the file away again.

A file's name is made of the region's name, the process and a sequence number, so that no two
regions share a file.
-/

namespace RdmaLink

/-! ## Names -/

/-- A region's name with everything but ASCII letters, digits and `-` replaced by `_`. -/
def Region.sanitized (name : String) : String :=
  String.ofList (name.toList.map fun c => if c.isAlphanum || c == '-' then c else '_')

/-- The file of a region: its sanitized name, the process and the sequence number. -/
def Region.fileName (name : String) (process : UInt32) (sequence : UInt64) : String :=
  "rdma_" ++ Region.sanitized name ++ "_" ++ toString process ++ "_" ++ toString sequence

/-! ## The directory -/

/-- The files in the directory of backing files: name and length of each. -/
structure BackingDirectory where
  files : List (String × Nat)
deriving DecidableEq, Repr, Inhabited

/-- What the system turns down when a backing file is made, by step; a file may fail to open for
reasons that lie outside the directory. -/
structure BackingLimits where
  resizing : Nat → Option IoError
  mapping : Nat → Option IoError
  opening : String → Option IoError := fun _ => none

/-- The system's own limits: a length is a signed 64-bit number, and a process has 47 bits of
address space. -/
def BackingLimits.ordinary : BackingLimits :=
  { resizing := fun size => if 2 ^ 63 ≤ size then some .invalidInput else none
    mapping := fun size => if 2 ^ 47 ≤ size then some (.os Errno.outOfMemory) else none }

namespace BackingDirectory

def empty : BackingDirectory := ⟨[]⟩

def length? (directory : BackingDirectory) (name : String) : Option Nat :=
  directory.files.lookup name

def erase (directory : BackingDirectory) (name : String) : BackingDirectory :=
  ⟨directory.files.filter fun file => file.1 != name⟩

/-- The directory with a fresh file, which is empty. -/
def opened (directory : BackingDirectory) (name : String) : BackingDirectory :=
  ⟨directory.files ++ [(name, 0)]⟩

/-- The directory with a file at another length. -/
def resized (directory : BackingDirectory) (name : String) (size : Nat) : BackingDirectory :=
  ⟨directory.files.map fun file => if file.1 == name then (name, size) else file⟩

/-- Why a fresh file of this name cannot be opened in the directory as it is. -/
def openingRefusal (directory : BackingDirectory) (name : String) : Option IoError :=
  if name.contains '\x00' then some .invalidInput
  else
    match name.splitOn "/" with
    | [_] =>
      if name == "" || name == "." || name == ".." then some (.os Errno.isDirectory)
      else if 255 < name.utf8ByteSize then some (.os Errno.nameTooLong)
      else if (directory.length? name).isSome then some (.os Errno.alreadyExists)
      else none
    | parent :: _ =>
      if (directory.length? parent).isSome then some (.os Errno.notDirectory)
      else some (.os Errno.noEntry)
    | [] => some (.os Errno.noEntry)

/-- Makes and maps a fresh file of `size` bytes. -/
def create (directory : BackingDirectory) (limits : BackingLimits) (name : String) (size : Nat) :
    Except IoError Unit × BackingDirectory :=
  match (directory.openingRefusal name).or (limits.opening name) with
  | some e => (.error e, directory)
  | none =>
    let opened := directory.opened name
    match limits.resizing size with
    | some e => (.error e, opened)
    | none =>
      let resized := opened.resized name size
      match limits.mapping size with
      | some e => (.error e, resized.erase name)
      | none => (.ok (), resized)

end BackingDirectory

end RdmaLink
