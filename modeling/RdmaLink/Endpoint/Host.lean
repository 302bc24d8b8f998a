import RdmaLink.Endpoint.Basic
import RdmaLink.Table

/-!
# Hosts with endpoints

Several endpoints on one host, by name.  They share the files and the directory of the regions,
and those that publish in memory share a slot by its name.
-/

namespace RdmaLink

/-- Endpoints and what they share. -/
structure Host where
  endpoints : Table Endpoint
  /-- The name of the slot that an endpoint publishes in. -/
  slotNames : Table String
  slots : Table (Option SocketAddress)
  tree : FileTree
  space : RegionSpace

namespace Host

/-- A host without endpoints. -/
def fresh (tree : FileTree) (space : RegionSpace) : Host := ⟨[], [], [], tree, space⟩

def endpoint? (host : Host) (name : String) : Option Endpoint := host.endpoints.lookup name

/-- The count of the listeners that the endpoints have tried to make. -/
def listenersMade (host : Host) : Nat :=
  host.endpoints.foldl (fun n entry => n + entry.2.nextListener) 0

/-- The address in a slot. -/
def slot (host : Host) (name : String) : Option SocketAddress := (host.slots.lookup name).join

/-- The name of the slot of an endpoint. -/
def slotName (host : Host) (name : String) : String := (host.slotNames.lookup name).getD name

/-- What an endpoint publishes on. -/
def board (host : Host) (name : String) : Board := ⟨host.tree, host.slot (host.slotName name)⟩

/-- The host with what an endpoint has left on its board. -/
def withBoard (host : Host) (name : String) (board : Board) : Host :=
  { host with tree := board.tree, slots := host.slots.put (host.slotName name) board.slot }

def withEndpoint (host : Host) (name : String) (endpoint : Endpoint) : Host :=
  { host with endpoints := host.endpoints.put name endpoint }

/-- Makes an endpoint that publishes in a slot, if not in files. -/
def create (host : Host) (name slotName : String) (config : EndpointConfig)
    (registry : DeviceRegistry) (publication : Publication) (lot : RegionLot) :
    Except EndpointError Endpoint × Host :=
  match Endpoint.create config registry publication lot none host.space with
  | (.error e, space) => (.error e, { host with space := space })
  | (.ok endpoint, space) =>
    (.ok endpoint, { host.withEndpoint name endpoint with
      space := space, slotNames := host.slotNames.put name slotName })

/-- Runs an operation of an endpoint. -/
def run {α : Type} (host : Host) (name : String)
    (operation : Endpoint → Board → Endpoint.Outcome α) : Option (Except EndpointError α × Host) :=
  (host.endpoint? name).map fun endpoint =>
    let outcome := operation endpoint (host.board name)
    (outcome.result, (host.withEndpoint name outcome.endpoint).withBoard name outcome.board)

/-- Runs an operation that has nothing to do with the board. -/
def act {α : Type} (host : Host) (name : String) (operation : Endpoint → α × Endpoint) :
    Option (α × Host) :=
  (host.endpoint? name).map fun endpoint =>
    let (result, endpoint) := operation endpoint
    (result, host.withEndpoint name endpoint)

/-- The host after an endpoint has gone away. -/
def abandon (host : Host) (name : String) (faults : Nat → Option FileFault) : Option Host :=
  (host.endpoint? name).map fun endpoint =>
    let left := host.withBoard name (endpoint.abandon faults (host.board name))
    { left with endpoints := left.endpoints.erase name }

/-! ## Lemmas -/

end Host

end RdmaLink
