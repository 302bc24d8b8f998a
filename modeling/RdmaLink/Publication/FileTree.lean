import RdmaLink.Bytes
import RdmaLink.System.IoError

/-!
# Files and directories

The part of a file system that a publication needs: files with contents and directories, found by
path, and the three steps that change them.  A list of steps runs in order and stops at the first
one that fails; a step may also be made to fail from outside, a write after only part of its
bytes.
-/

namespace RdmaLink

/-- What stands at a path. -/
inductive FileNode where
  | file (content : Bytes)
  | directory
deriving DecidableEq, Repr, Inhabited

/-- Files and directories by path. -/
structure FileTree where
  entries : List (String × FileNode)
deriving DecidableEq, Repr, Inhabited

namespace FileTree

/-- The parts of a path between its slashes. -/
def components (path : String) : List String := (path.splitOn "/").filter (· != "")

/-- The path with the given parts. -/
def joined (parts : List String) : String := "/".intercalate parts

/-- The spelling under which a path is kept.  Paths are taken to be canonical: parts `.` and `..`, a
leading slash and links are not resolved, so only repeated and trailing slashes are two spellings of
one file. -/
def normal (path : String) : String := joined (components path)

/-- The greatest length of a part of a path in bytes. -/
def nameLimit : Nat := 255

def node? (tree : FileTree) (path : String) : Option FileNode := tree.entries.lookup (normal path)

/-- Why a path cannot be followed up to its last part. -/
def blocked (tree : FileTree) (path : String) : Option Errno :=
  let parts := components path
  let above := (List.range (parts.length - 1)).map fun n => joined (parts.take (n + 1))
  let fault := above.findSome? fun parent =>
    match tree.entries.lookup parent with
    | some .directory => none
    | some (.file _) => some Errno.notDirectory
    | none => some Errno.noEntry
  match fault with
  | some e => some e
  | none =>
    if parts.any fun part => nameLimit < part.utf8ByteSize then some Errno.nameTooLong else none

/-- The names in a directory with what stands under them, in order. -/
def list (tree : FileTree) (path : String) : List (String × FileNode) :=
  let found := tree.entries.filterMap fun (place, node) =>
    let parts := components place
    if parts.dropLast = components path then parts.getLast?.map (·, node) else none
  found.mergeSort fun a b => decide (a.1 ≤ b.1)

def exists? (tree : FileTree) (path : String) : Bool :=
  (tree.blocked path).isNone && (tree.node? path).isSome

/-- The tree with something put at a path. -/
def put (tree : FileTree) (path : String) (node : FileNode) : FileTree :=
  ⟨tree.entries.filter (fun entry => entry.1 != normal path) ++ [(normal path, node)]⟩

/-- The tree without what stands at a path. -/
def erase (tree : FileTree) (path : String) : FileTree :=
  ⟨tree.entries.filter fun entry => entry.1 != normal path⟩

/-! ## Reading -/

/-- The content of a file. -/
def read (tree : FileTree) (path : String) : Except IoError Bytes :=
  match tree.blocked path with
  | some e => .error (.os e)
  | none =>
    match tree.node? path with
    | some (.file content) => .ok content
    | some .directory => .error (.os Errno.isDirectory)
    | none => .error (.os Errno.noEntry)

/-- The text of a file. -/
def readText (tree : FileTree) (path : String) : Except IoError String :=
  match tree.read path with
  | .error e => .error e
  | .ok content =>
    match String.fromUTF8? ⟨content.toArray⟩ with
    | some text => .ok text
    | none => .error .notUtf8

/-! ## Changing -/

/-- Makes a directory. -/
def makeDirectory (tree : FileTree) (path : String) : Except Errno FileTree :=
  match tree.blocked path with
  | some e => .error e
  | none =>
    if (tree.node? path).isSome then .error Errno.alreadyExists else .ok (tree.put path .directory)

/-- Writes a file anew. -/
def write (tree : FileTree) (path : String) (content : Bytes) : Except Errno FileTree :=
  match tree.blocked path with
  | some e => .error e
  | none =>
    match tree.node? path with
    | some .directory => .error Errno.isDirectory
    | _ => .ok (tree.put path (.file content))

/-- Gives a file another path, over a file that may stand there. -/
def rename (tree : FileTree) (source target : String) : Except Errno FileTree :=
  match tree.blocked source with
  | some e => .error e
  | none =>
    match tree.blocked target with
    | some e => .error e
    | none =>
      match tree.node? source, tree.node? target with
      | none, _ => .error Errno.noEntry
      | some (.file _), some .directory => .error Errno.isDirectory
      | some .directory, some (.file _) => .error Errno.notDirectory
      | some node, _ =>
        if normal source = normal target then .ok tree
        else .ok ((tree.erase source).put target node)

/-- Removes a file. -/
def remove (tree : FileTree) (path : String) : Except Errno FileTree :=
  match tree.blocked path with
  | some e => .error e
  | none =>
    match tree.node? path with
    | some (.file _) => .ok (tree.erase path)
    | some .directory => .error Errno.isDirectory
    | none => .error Errno.noEntry

end FileTree

/-! ## Steps -/

/-- One change to a file tree. -/
inductive FileStep where
  | write (path : String) (content : Bytes)
  | rename (source target : String)
  /-- Removes a file; that it is missing is no failure. -/
  | removeIfPresent (path : String)
deriving DecidableEq, Repr, Inhabited

/-- A failure that comes from outside: the error, and how many bytes a write leaves behind. -/
structure FileFault where
  errno : Errno
  written : Option Nat
deriving DecidableEq, Repr, Inhabited

namespace FileTree

/-- Applies one step. -/
def apply (tree : FileTree) : FileStep → Except Errno FileTree
  | .write path content => tree.write path content
  | .rename source target => tree.rename source target
  | .removeIfPresent path =>
    match tree.remove path with
    | .error e => if e = Errno.noEntry then .ok tree else .error e
    | .ok removed => .ok removed

/-- What a step that fails from outside leaves behind. -/
def interrupted (tree : FileTree) (step : FileStep) (fault : FileFault) : FileTree :=
  match step, fault.written with
  | .write path content, some count =>
    match tree.write path (content.take count) with
    | .ok partly => partly
    | .error _ => tree
  | _, _ => tree

/-- Applies steps in order up to the first failure; `faults` tells which step, counted from the
first, fails from outside. -/
def run (faults : Nat → Option FileFault) (tree : FileTree) :
    List FileStep → (number : Nat) → Except IoError Unit × FileTree
  | [], _ => (.ok (), tree)
  | step :: rest, number =>
    match faults number with
    | some fault => (.error (.os fault.errno), tree.interrupted step fault)
    | none =>
      match tree.apply step with
      | .error e => (.error (.os e), tree)
      | .ok changed => run faults changed rest (number + 1)

end FileTree

end RdmaLink
