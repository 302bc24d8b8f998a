import RdmaLink.Publication.Error
import RdmaLink.Publication.FileTree
import RdmaLink.Text.Blank

/-!
# Publications

A listener tells where it is bound, and then that it is ready; a connector may wait for that.
This goes through two files, each optional, or through one slot in memory.

A file is written beside its place and moved into it, the address before the marker; a
publication is withdrawn in the reverse order, so that a marker never stands without an address.
-/

namespace RdmaLink

/-- How a listener's address is published. -/
inductive Publication where
  /-- The paths of the address and of the ready marker, if they are wanted. -/
  | files (info ready : Option String)
  | memory
deriving DecidableEq, Repr, Inhabited

/-- Where publications are seen: files, and a slot in memory. -/
structure Board where
  tree : FileTree
  slot : Option SocketAddress
deriving DecidableEq, Repr, Inhabited

namespace Publication

/-- Never fails a step from outside. -/
def noFaults : Nat → Option FileFault := fun _ => none

/-- The line that publishes an address. -/
def infoLine (address : SocketAddress) : Bytes := (address.text ++ "\n").toUTF8.toList

/-- The content of a ready marker. -/
def readyLine : Bytes := "ready\n".toUTF8.toList

/-- Writes a file beside its place and moves it into it. -/
def replaceSteps (path : String) (content : Bytes) : List FileStep :=
  [.write (path ++ ".tmp") content, .rename (path ++ ".tmp") path]

/-- The steps that publish an address. -/
def publishSteps (info ready : Option String) (address : SocketAddress) : List FileStep :=
  (info.map fun path => replaceSteps path (infoLine address)).getD [] ++
  (ready.map fun path => replaceSteps path readyLine).getD []

/-- The steps that withdraw a publication. -/
def withdrawSteps (info ready : Option String) : List FileStep :=
  (ready.map fun path => [FileStep.removeIfPresent path]).getD [] ++
  (info.map fun path => [FileStep.removeIfPresent path]).getD []

/-- Runs the steps of a file publication. -/
def runSteps (faults : Nat → Option FileFault) (steps : List FileStep) (board : Board) :
    Except PublicationError Unit × Board :=
  let (outcome, tree) := board.tree.run faults steps 0
  (outcome.mapError PublicationError.io, { board with tree := tree })

/-- Publishes an address and marks the listener ready. -/
def publish (publication : Publication) (faults : Nat → Option FileFault) (address : SocketAddress)
    (board : Board) : Except PublicationError Unit × Board :=
  match publication with
  | .files info ready => runSteps faults (publishSteps info ready address) board
  | .memory => (.ok (), { board with slot := some address })

/-- Withdraws what is published, if anything is. -/
def withdraw (publication : Publication) (faults : Nat → Option FileFault) (board : Board) :
    Except PublicationError Unit × Board :=
  match publication with
  | .files info ready => runSteps faults (withdrawSteps info ready) board
  | .memory => (.ok (), { board with slot := none })

/-- Whether a connector that waits sees the listener ready. -/
def isReady (publication : Publication) (board : Board) : Bool :=
  match publication with
  | .files _ ready => (ready.map board.tree.exists?).getD true
  | .memory => board.slot.isSome

/-- The published address, as a connector that sees the listener ready reads it. -/
def current (publication : Publication) (board : Board) :
    Except PublicationError (Option SocketAddress) :=
  match publication with
  | .files _ none => .ok none
  | .files none (some _) => .ok none
  | .files (some path) (some _) =>
    match board.tree.readText path with
    | .error e => .error (.io e)
    | .ok text =>
      match SocketAddress.parseChars? (Text.trimmed text.toList) with
      | some address => .ok (some address)
      | none => .error (.noAddress path)
  | .memory => .ok board.slot

/-- A wait computes the moment of its end before anything else.  One for files does not; it looks
again and again at how long it has taken so far. -/
def needsDeadline : Publication → Bool
  | .files _ _ => false
  | .memory => true

/-- Waits for a listener up to `limit` milliseconds, from when the clock has run for `uptime`
nanoseconds.  `arrival` is what others make of the board meanwhile, and after how many
milliseconds.  A wait in vain tells the limit, whatever it took. -/
def wait (publication : Publication) (limit uptime : Nat) (arrival : Option (Nat × Board))
    (board : Board) : Except PublicationError (Option SocketAddress) :=
  if publication.needsDeadline && Milliseconds.outlasts ⟨limit⟩ uptime then .error .noDeadline
  else if publication.isReady board then publication.current board
  else
    match arrival with
    | some (delay, later) =>
      if delay ≤ limit && publication.isReady later then publication.current later
      else .error (.notReady limit)
    | none => .error (.notReady limit)

end Publication

end RdmaLink
