/-!
# Transports

A connection's data path is either a link of its own between the queue pairs or the stream over
which the two sides met.  In a record the transport is one byte.
-/

namespace RdmaLink

/-- What carries the data path. -/
inductive Transport where
  /-- A link of its own. -/
  | rdma
  /-- The rendezvous stream itself. -/
  | socket
deriving DecidableEq, Repr, Inhabited

namespace Transport

/-- The byte that stands for a transport. -/
def code : Transport → UInt8
  | .rdma => 1
  | .socket => 2

/-- The transport that a byte stands for. -/
def ofCode? : UInt8 → Option Transport
  | 1 => some .rdma
  | 2 => some .socket
  | _ => none

/-- The transport that a configuration's switch selects. -/
def ofSwitch (useRdma : Bool) : Transport := if useRdma then .rdma else .socket

def name : Transport → String
  | .rdma => "Rdma"
  | .socket => "Socket"

@[simp] theorem ofCode?_code (transport : Transport) : ofCode? transport.code = some transport := by
  cases transport <;> rfl

theorem code_of_ofCode? {byte : UInt8} {transport : Transport}
    (h : ofCode? byte = some transport) : transport.code = byte := by
  unfold ofCode? at h
  split at h <;> simp_all [code]
  all_goals (subst h; rfl)

end Transport

end RdmaLink
