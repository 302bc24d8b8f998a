import RdmaLink.Address.Socket
import RdmaLink.System.IoError

/-!
# Isolated hosts

A host without any route.  Its sockets can be bound, but nobody can be dialed and nobody comes.
-/

namespace RdmaLink.IsolatedHost

/-- Why dialing an address fails.  The host's own IPv6 addresses are missing, and everything else
has no route. -/
def dialFailure : SocketAddress → IoError
  | .v4 _ _ => .os Errno.networkUnreachable
  | .v6 ip _ _ =>
    if ip.word = 0 ∨ ip.word = 1 then .os Errno.addressNotAvailable
    else .os Errno.networkUnreachable

/-- Whether a socket can be bound to an address: to any IPv4 address, written either way, and to
no IPv6 address in particular. -/
def isBindable : SocketAddress → Bool
  | .v4 _ _ => true
  | .v6 ip _ _ => ip.word = 0 || ip.toIpv4?.isSome

/-- The ports below this one are not given to ordinary processes. -/
def firstOrdinaryPort : UInt16 := 1024

/-- What comes of binding a socket; `spare` is the port that is given out for port zero. -/
def bind (address : SocketAddress) (spare : UInt16) : Except IoError SocketAddress :=
  if !isBindable address then .error (.os Errno.addressNotAvailable)
  else if address.port = 0 then .ok (address.withPort spare)
  else if address.port < firstOrdinaryPort then .error (.os Errno.permissionDenied)
  else .ok address

end RdmaLink.IsolatedHost
