import RdmaLink.Endpoint.Host
import RdmaLink.System.IsolatedHost

/-!
# Endpoints on an isolated host

What an endpoint meets on a host where nobody can be dialed and nobody comes.
-/

namespace RdmaLink.IsolatedHost

/-- The port that a listener on port zero is given after `earlier` others. -/
def sparePort (earlier : Nat) : UInt16 := UInt16.ofNat (40000 + earlier % 20000)

/-- What the system draws for the first connection. -/
def firstLot : ConnectionLot := ⟨[], ⟨1, 0, .ok (sparePort 0)⟩⟩

/-- No link comes up. -/
def noLink : LinkConditions := ⟨fun address => .error (dialFailure address), none, 0⟩

/-- A socket for a listener after `earlier` others. -/
def binding (earlier : Nat) (address : SocketAddress) : Endpoint.BindConditions :=
  ⟨bind address (sparePort earlier), none, Publication.noFaults⟩

/-- An address that is taken. -/
def taken : Endpoint.BindConditions :=
  ⟨.error (.os Errno.addressInUse), none, Publication.noFaults⟩

/-- Nobody waits on a listener. -/
def nobody : Endpoint.AcceptConditions := ⟨.ok none, firstLot, noLink, none, Publication.noFaults⟩

/-- Nobody publishes and nobody is reached. -/
def dialing (address : SocketAddress) : Endpoint.ConnectConditions :=
  ⟨0, none, .error (dialFailure address), firstLot, noLink, none⟩

/-! ## The endpoints of the host -/

/-- Binds a listener of an endpoint. -/
def bindOn (host : Host) (name : String) (address : SocketAddress) :
    Option (Except EndpointError Nat × Host) :=
  host.run name fun endpoint => endpoint.bind address (binding host.listenersMade address)

/-- Waits on a listener of an endpoint. -/
def acceptOn (host : Host) (name : String) (listener : Nat) :
    Option (Except EndpointError Nat × Host) :=
  host.run name fun endpoint board => (endpoint.accept listener nobody board).outcome

/-- Binds a listener of an endpoint and waits on it. -/
def listenOn (host : Host) (name : String) (address : SocketAddress) :
    Option (Except EndpointError Nat × Host) :=
  host.run name fun endpoint board =>
    (endpoint.listen address (binding host.listenersMade address) nobody board).outcome

/-- Dials from an endpoint. -/
def connectFrom (host : Host) (name : String) (address : SocketAddress) :
    Option (Except EndpointError Nat × Host) :=
  host.run name fun endpoint board => (endpoint.connect address (dialing address) board).outcome

end RdmaLink.IsolatedHost
