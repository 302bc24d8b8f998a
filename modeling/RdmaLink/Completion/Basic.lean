/-!
# Completions

A completion reports how one posted request ended.  On the wire a status is one byte; a byte that
is no status reads as a lost link.
-/

namespace RdmaLink

/-- What a completion reports on. -/
inductive Operation where
  | write
  | writeWithImmediate
  | read
  /-- A receive that no write consumed. -/
  | receive
  /-- A receive consumed by a peer's write with immediate. -/
  | receiveWithImmediate
deriving DecidableEq, Repr, Inhabited

def Operation.all : List Operation :=
  [.write, .writeWithImmediate, .read, .receive, .receiveWithImmediate]

def Operation.name : Operation → String
  | .write => "Write"
  | .writeWithImmediate => "WriteWithImm"
  | .read => "Read"
  | .receive => "Recv"
  | .receiveWithImmediate => "RecvWithImm"

/-- How a request ended. -/
inductive Status where
  | success
  /-- The peer turned down the key, the right or the range. -/
  | remoteAccess
  /-- The local key or range does not do. -/
  | localProtection
  /-- The queue pair failed before the request was done. -/
  | flushed
  /-- The link was lost. -/
  | linkLost
deriving DecidableEq, Repr, Inhabited

namespace Status

def all : List Status := [.success, .remoteAccess, .localProtection, .flushed, .linkLost]

/-- The byte that stands for a status. -/
def code : Status → UInt8
  | .success => 0
  | .remoteAccess => 1
  | .localProtection => 2
  | .flushed => 3
  | .linkLost => 4

/-- The status that a byte stands for. -/
def ofCode : UInt8 → Status
  | 0 => .success
  | 1 => .remoteAccess
  | 2 => .localProtection
  | 3 => .flushed
  | _ => .linkLost

def name : Status → String
  | .success => "Success"
  | .remoteAccess => "RemoteAccessError"
  | .localProtection => "LocalProtectionError"
  | .flushed => "FlushError"
  | .linkLost => "LinkError"

@[simp] theorem ofCode_code (status : Status) : ofCode status.code = status := by
  cases status <;> rfl

end Status

/-- A completion. -/
structure Completion where
  /-- The number that the request was posted under. -/
  request : UInt64
  operation : Operation
  status : Status
  /-- Bytes moved. -/
  length : UInt32
  immediate : Option UInt32
  /-- The number of the queue pair. -/
  queuePair : UInt32
deriving DecidableEq, Repr, Inhabited

/-- Whether a completion reports a success. -/
def Completion.succeeded (completion : Completion) : Bool := completion.status == .success

end RdmaLink
