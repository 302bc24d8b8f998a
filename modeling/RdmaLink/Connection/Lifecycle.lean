/-!
# Lifecycle of a connection

A connection comes up in a fixed order of states, may fail from every live state, and is closed
at most once.

    created → listening | connecting → parametersExchanged → queuePairInit → queuePairReady → active

`Lifecycle.step` either moves on or tells why the event is out of place; a rejected event leaves
the state as it was.
-/

namespace RdmaLink

/-- The side of the rendezvous that a connection is on. -/
inductive Role where
  | listener
  | connector
deriving DecidableEq, Repr, Inhabited

def Role.name : Role → String
  | .listener => "Listener"
  | .connector => "Connector"

/-- Where a connection stands. -/
inductive LifecycleState where
  | created
  /-- Waiting for the connector's record. -/
  | listening
  /-- Dialing the listener. -/
  | connecting
  /-- Both records are known. -/
  | parametersExchanged
  /-- The queue pair is initialized. -/
  | queuePairInit
  /-- The queue pair can send and receive. -/
  | queuePairReady
  /-- A first success was seen. -/
  | active
  | closed
  | error
deriving DecidableEq, Repr, Inhabited

namespace LifecycleState

def all : List LifecycleState :=
  [.created, .listening, .connecting, .parametersExchanged, .queuePairInit, .queuePairReady,
    .active, .closed, .error]

def name : LifecycleState → String
  | .created => "Created"
  | .listening => "Listening"
  | .connecting => "Connecting"
  | .parametersExchanged => "ParamsExchanged"
  | .queuePairInit => "QueuePairInit"
  | .queuePairReady => "QueuePairReady"
  | .active => "Active"
  | .closed => "Closed"
  | .error => "Error"

/-- Closed or failed. -/
def isTerminal : LifecycleState → Bool
  | .closed | .error => true
  | _ => false

/-- Whether requests may be posted. -/
def canPost : LifecycleState → Bool
  | .queuePairReady | .active => true
  | _ => false

end LifecycleState

/-- What moves a connection on. -/
inductive LifecycleEvent where
  | listen
  | connect
  | parametersReceived
  | queuePairInitialized
  | queuePairActivated
  | firstCompletion
  | close
  | fault
deriving DecidableEq, Repr, Inhabited

namespace LifecycleEvent

def all : List LifecycleEvent :=
  [.listen, .connect, .parametersReceived, .queuePairInitialized, .queuePairActivated,
    .firstCompletion, .close, .fault]

def name : LifecycleEvent → String
  | .listen => "Listen"
  | .connect => "Connect"
  | .parametersReceived => "ParamsReceived"
  | .queuePairInitialized => "QueuePairInitialized"
  | .queuePairActivated => "QueuePairActivated"
  | .firstCompletion => "FirstCompletion"
  | .close => "Close"
  | .fault => "Fault"

end LifecycleEvent

/-- A connection's state and the role it was made with. -/
structure Lifecycle where
  state : LifecycleState
  role : Role
deriving DecidableEq, Repr, Inhabited

namespace Lifecycle

/-- The start of every connection. -/
def ofRole (role : Role) : Lifecycle := ⟨.created, role⟩

/-- The state that an event leads to, if it is in place. -/
def next? (role : Role) : LifecycleState → LifecycleEvent → Option LifecycleState
  | .created, .listen => if role = .listener then some .listening else none
  | .created, .connect => if role = .connector then some .connecting else none
  | .listening, .parametersReceived => some .parametersExchanged
  | .connecting, .parametersReceived => some .parametersExchanged
  | .parametersExchanged, .queuePairInitialized => some .queuePairInit
  | .queuePairInit, .queuePairActivated => some .queuePairReady
  | .queuePairReady, .firstCompletion => some .active
  | .error, .close => some .closed
  | state, .close => if state.isTerminal then none else some .closed
  | state, .fault => if state.isTerminal then none else some .error
  | _, _ => none

/-- Why an event is out of place. -/
def rejection (role : Role) : LifecycleState → LifecycleEvent → String
  | .closed, _ => "Closed: no further transitions"
  | .error, _ => "Error: only Close allowed"
  | .created, event =>
    match event, role with
    | .listen, .connector => "Listen requires the listener role"
    | .connect, .listener => "Connect requires the connector role"
    | _, _ => "Created: only Listen or Connect allowed"
  | .listening, _ | .connecting, _ => "handshake in flight: only ParamsReceived allowed"
  | .parametersExchanged, _ => "ParamsExchanged: only QueuePairInitialized allowed"
  | .queuePairInit, _ => "QueuePairInit: only QueuePairActivated allowed"
  | .queuePairReady, _ => "QueuePairReady: only FirstCompletion allowed"
  | .active, _ => "Active: only Close or Fault allowed"

/-- Applies an event, or tells why it is out of place. -/
def step (lifecycle : Lifecycle) (event : LifecycleEvent) : Except String Lifecycle :=
  match next? lifecycle.role lifecycle.state event with
  | some state => .ok { lifecycle with state := state }
  | none => .error (rejection lifecycle.role lifecycle.state event)

/-- The state after an event, the old one if the event is out of place. -/
def after (lifecycle : Lifecycle) (event : LifecycleEvent) : Lifecycle :=
  match lifecycle.step event with
  | .ok moved => moved
  | .error _ => lifecycle

end Lifecycle

end RdmaLink
