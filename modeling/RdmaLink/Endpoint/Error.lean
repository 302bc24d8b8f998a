import RdmaLink.Config.Error
import RdmaLink.Connection.Lifecycle
import RdmaLink.Device.Error
import RdmaLink.Publication.Error
import RdmaLink.Rendezvous.Record

/-!
# Endpoint errors

Everything that can go wrong while a connection is set up or driven.  `EndpointError.message` is
the text of each; a cause that comes from a layer below keeps its own text inside.
-/

namespace RdmaLink

/-- Why a region is not reserved or not registered. -/
inductive AllocationFault where
  /-- The size is zero or too great. -/
  | size
  /-- The device does not register that much. -/
  | deviceLimit (name : String) (most : Nat)
  | file (path : String) (cause : IoError)
  | device (cause : DeviceError)
  | other (text : String)
deriving DecidableEq, Repr, Inhabited

def AllocationFault.message : AllocationFault → String
  | .size => "size must be within 1..=" ++ toString Region.maxSize
  | .deviceLimit name most =>
    "device " ++ name ++ " registers at most " ++ toString most ++ " bytes"
  | .file path cause => path ++ ": " ++ cause.message
  | .device cause => cause.message
  | .other text => text

/-- What is wrong with what a peer or a file says. -/
inductive ProtocolFault where
  | record (fault : RecordFault)
  /-- The file at a path holds no socket address. -/
  | noAddress (path : String)
  /-- Records carry IPv4 addresses only. -/
  | notIpv4 (socket : SocketAddress)
  | other (text : String)
deriving DecidableEq, Repr, Inhabited

def ProtocolFault.message : ProtocolFault → String
  | .record fault => fault.message
  | .noAddress path => path ++ ": " ++ SocketAddress.syntaxComplaint
  | .notIpv4 socket => "rendezvous records carry IPv4 only, socket is " ++ socket.text
  | .other text => text

/-- Why no peer was taken in. -/
inductive AcceptFault where
  | nobody (address : SocketAddress) (within : Milliseconds)
  | io (cause : IoError)
  | other (text : String)
deriving DecidableEq, Repr, Inhabited

def AcceptFault.message : AcceptFault → String
  | .nobody address within =>
    "no connection on " ++ address.text ++ " within " ++ within.text
  | .io cause => cause.message
  | .other text => text

def PublicationError.message : PublicationError → String
  | .io cause => "IO error: " ++ cause.message
  | .noAddress path => "Protocol error: " ++ (ProtocolFault.noAddress path).message
  | .notReady waited => "Listener not ready after " ++ toString waited ++ " ms"
  | .noDeadline => Milliseconds.outlastsMessage

/-- Why a listener was not reached. -/
inductive ConnectFault where
  | io (cause : IoError)
  | notReady (cause : PublicationError)
  | other (text : String)
deriving DecidableEq, Repr, Inhabited

def ConnectFault.message : ConnectFault → String
  | .io cause => cause.message
  | .notReady cause => cause.message
  | .other text => text

/-- Why a queue pair was not brought up. -/
inductive ActivationFault where
  | device (cause : DeviceError)
  | other (text : String)
deriving DecidableEq, Repr, Inhabited

def ActivationFault.message : ActivationFault → String
  | .device cause => cause.message
  | .other text => text

/-- Why an operation of an endpoint failed. -/
inductive EndpointError where
  | allocation (size : Nat) (fault : AllocationFault)
  | bind (address : SocketAddress) (cause : IoError)
  | accept (fault : AcceptFault)
  | connect (address : SocketAddress) (fault : ConnectFault)
  | protocol (fault : ProtocolFault)
  | activation (fault : ActivationFault)
  | multiplexer (errno : Errno)
  | notReady (waited : Nat)
  | invalidState (operation : String) (state : LifecycleState)
  | outOfBounds (range : OutOfBounds)
  /-- The clock cannot name the end of a wait, which ends its caller. -/
  | noDeadline
  /-- The address of a range at the peer is no word.  That is no answer: the call does not return,
  and ends its caller unless the caller catches it. -/
  | overflow
  | alreadyClosed (connection : Nat)
  | connectionFailed (connection : Nat)
  | unknownConnection (connection : Nat)
  | unknownListener (listener : Nat)
  | config (cause : ConfigError)
  | device (cause : DeviceError)
  | io (cause : IoError)
  | system (errno : Errno)
deriving DecidableEq, Repr, Inhabited

namespace EndpointError

/-- The kind that an error is of; a cause from a layer below shows its own kind. -/
def kind : EndpointError → String
  | .allocation .. => "Allocation"
  | .bind .. => "Bind"
  | .accept _ => "Accept"
  | .connect .. => "Connect"
  | .protocol _ => "Protocol"
  | .activation _ => "Activation"
  | .multiplexer _ => "Multiplexer"
  | .notReady _ => "NotReady"
  | .invalidState .. => "InvalidState"
  | .outOfBounds _ => "OutOfBounds"
  | .noDeadline => "panic"
  | .overflow => "panic"
  | .alreadyClosed _ => "AlreadyClosed"
  | .connectionFailed _ => "ConnectionFailed"
  | .unknownConnection _ => "UnknownConnection"
  | .unknownListener _ => "UnknownListener"
  | .config cause => "Config/" ++ cause.kind
  | .device cause => "Device/" ++ cause.kind
  | .io _ => "Io"
  | .system _ => "System"

def message : EndpointError → String
  | .allocation size fault =>
    "Allocation of " ++ toString size ++ " bytes failed: " ++ fault.message
  | .bind address cause => "Cannot bind " ++ address.text ++ ": " ++ cause.message
  | .accept fault => "Accept failed: " ++ fault.message
  | .connect address fault => "Connect to " ++ address.text ++ " failed: " ++ fault.message
  | .protocol fault => "Protocol error: " ++ fault.message
  | .activation fault => "Activation failed: " ++ fault.message
  | .multiplexer errno => "Multiplexer failure: " ++ errno.describe
  | .notReady waited => (PublicationError.notReady waited).message
  | .invalidState operation state => operation ++ " not allowed in state " ++ state.name
  | .outOfBounds range => range.message
  | .noDeadline => (PublicationError.noDeadline).message
  | .overflow => "attempt to add with overflow"
  | .alreadyClosed connection => "Connection " ++ toString connection ++ " already closed"
  | .connectionFailed connection => "Connection " ++ toString connection ++ " failed"
  | .unknownConnection connection => "Unknown connection " ++ toString connection
  | .unknownListener listener => "Unknown listener " ++ toString listener
  | .config cause => "Configuration error: " ++ cause.message
  | .device cause => "Device error: " ++ cause.message
  | .io cause => "IO error: " ++ cause.message
  | .system errno => "System call error: " ++ errno.describe

/-- An address that is not to be had, as the endpoint's own error. -/
def ofAddress : AddressFault → EndpointError
  | .range range => .outOfBounds range
  | .overflow => .overflow

/-- A publication's error as the endpoint's own. -/
def ofPublication : PublicationError → EndpointError
  | .io cause => .io cause
  | .noAddress path => .protocol (.noAddress path)
  | .notReady waited => .notReady waited
  | .noDeadline => .noDeadline

/-- The error of a dial that found no listener ready. -/
def ofWait (address : SocketAddress) : PublicationError → EndpointError
  | .noDeadline => .noDeadline
  | e => .connect address (.notReady e)

end EndpointError

end RdmaLink
