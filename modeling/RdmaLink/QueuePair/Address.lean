import RdmaLink.Device.Gid

/-!
# Addresses of queue pairs

What a queue pair tells its peer so that the peer can reach it.  The triple of initial sequence
number, queue pair number and local identifier orders two queue pairs: of two different ones
exactly one comes first.
-/

namespace RdmaLink

/-- What one queue pair tells its peer. -/
structure QueuePairAddress where
  /-- The queue pair's number (24 bits). -/
  number : UInt32
  /-- The initial packet sequence number (24 bits). -/
  psn : UInt32
  /-- The local identifier: the port on which a link is accepted. -/
  lid : UInt16
  gid : Gid
deriving DecidableEq, Repr, Inhabited

namespace QueuePairAddress

/-- Whether both addresses agree in the triple that orders them. -/
def sameTriple (a b : QueuePairAddress) : Bool :=
  a.psn == b.psn && a.number == b.number && a.lid == b.lid

/-- Whether the triple of `a` comes before that of `b`. -/
def precedes (a b : QueuePairAddress) : Bool :=
  decide (a.psn < b.psn) ||
  (a.psn == b.psn && (decide (a.number < b.number) ||
    (a.number == b.number && decide (a.lid < b.lid))))

end QueuePairAddress

end RdmaLink
