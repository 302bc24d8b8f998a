import RdmaLink.Address.Socket
import RdmaLink.QueuePair.State
import RdmaLink.System.IoError
import RdmaLink.System.Milliseconds

/-!
# Device errors

Why a device turns a call down.  The causes that concern the peer and the link are types of their
own; `DeviceError.message` is the text of each.
-/

namespace RdmaLink

/-- What is wrong with the peer of a queue pair. -/
inductive PeerFault where
  /-- The peer tells the address of the queue pair itself. -/
  | ownQueuePair
  /-- The first frame is no greeting. -/
  | noGreeting (opcode : UInt8)
  /-- The greeting names other queue pairs than the two that are to be linked. -/
  | otherQueuePairs (sender : UInt64) (receiver peer own : UInt32)
  | other (text : String)
deriving DecidableEq, Repr, Inhabited

def PeerFault.message : PeerFault → String
  | .ownQueuePair => "peer advertised our own queue pair"
  | .noGreeting opcode => "expected HELLO, got opcode " ++ toString opcode.toNat
  | .otherQueuePairs sender receiver peer own =>
    "HELLO names " ++ toString sender.toNat ++ "→" ++ toString receiver.toNat ++ ", expected " ++
      toString peer.toNat ++ "→" ++ toString own.toNat
  | .other text => text

/-- Why there is no link to the peer. -/
inductive LinkFault where
  | dial (address : SocketAddress) (cause : IoError)
  | accept (cause : IoError)
  /-- Nobody dialed in time. -/
  | notDialed (within : Milliseconds)
  | greeting (cause : IoError)
  | notEstablished
  /-- The device turns every call of this kind down. -/
  | refused (call : String)
  | other (text : String)
deriving DecidableEq, Repr, Inhabited

def LinkFault.message : LinkFault → String
  | .dial address cause => "connect " ++ address.text ++ ": " ++ cause.message
  | .accept cause => "accept: " ++ cause.message
  | .notDialed within => "peer did not connect within " ++ within.text
  | .greeting cause => "hello: " ++ cause.message
  | .notEstablished => "no link established"
  | .refused call => call ++ " refused"
  | .other text => text

/-- Why a device turns a call down. -/
inductive DeviceError where
  | notFound (name : String)
  | invalidPort (port count : UInt8)
  | invalidGidIndex (index length : UInt8)
  | invalidKey (key : UInt32)
  | localRange (address : UInt64) (length : UInt32)
  | invalidState (number : UInt32) (state : QueuePairState) (expected : String)
  | peer (fault : PeerFault)
  | link (fault : LinkFault)
  | unsupported (what : String)
  | exhausted (what : String)
  /-- A call into an adapter's library failed. -/
  | adapter (call : String) (cause : IoError)
  | io (cause : IoError)
  | system (errno : Errno)
  /-- The clock cannot name the end of a wait.  That is no answer: the call does not return, and
  ends its caller unless the caller catches it. -/
  | noDeadline
deriving DecidableEq, Repr, Inhabited

namespace DeviceError

/-- The kind that an error is of. -/
def kind : DeviceError → String
  | .notFound _ => "NotFound"
  | .invalidPort .. => "InvalidPort"
  | .invalidGidIndex .. => "InvalidGidIndex"
  | .invalidKey _ => "InvalidKey"
  | .localRange .. => "LocalRange"
  | .invalidState .. => "InvalidQpState"
  | .peer _ => "Peer"
  | .link _ => "Link"
  | .unsupported _ => "Unsupported"
  | .exhausted _ => "Exhausted"
  | .adapter .. => "Verbs"
  | .io _ => "Io"
  | .system _ => "System"
  | .noDeadline => "panic"

def message : DeviceError → String
  | .notFound name => "Device not found: " ++ name
  | .invalidPort port count =>
    "Invalid port " ++ toString port.toNat ++ " (device has " ++ toString count.toNat ++ ")"
  | .invalidGidIndex index length =>
    "Invalid GID index " ++ toString index.toNat ++ " (table has " ++ toString length.toNat ++
      " entries)"
  | .invalidKey key => "Invalid memory key " ++ Hexadecimal.marked key.toNat
  | .localRange address length =>
    "Local range " ++ Hexadecimal.marked address.toNat ++ "+" ++ toString length.toNat ++
      " outside registration"
  | .invalidState number state expected =>
    "Queue pair " ++ toString number.toNat ++ " is " ++ state.name ++ ", expected " ++ expected
  | .peer fault => "Peer rejected: " ++ fault.message
  | .link fault => "Link error: " ++ fault.message
  | .unsupported what => "Unsupported: " ++ what
  | .exhausted what => "Resource exhausted: " ++ what
  | .adapter call cause => call ++ " failed: " ++ cause.message
  | .io cause => "IO error: " ++ cause.message
  | .system errno => "System call error: " ++ errno.describe
  | .noDeadline => Milliseconds.outlastsMessage

end DeviceError

end RdmaLink
