import RdmaLink.Device.Basic
import RdmaLink.Table

/-!
# Workbenches

The objects that a program has made on its devices, by name: regions, registrations, completion
queues and queue pairs.  A device is there as soon as it is named.  An operation on a name that is
not in use has no result; every other operation gives its result and the workbench after it.
-/

namespace RdmaLink

/-- A queue pair with the names of its device and of its completion queue. -/
structure BenchPair where
  device : String
  queue : String
  queuePair : QueuePair

/-- Named objects. -/
structure Workbench where
  devices : Table Device
  memory : Memory
  regions : Table RegionId
  /-- Each registration with the name of its device. -/
  registrations : Table (String × Registration)
  queues : Table CompletionQueue
  pairs : Table BenchPair

namespace Workbench

def empty : Workbench := ⟨[], Memory.empty, [], [], [], []⟩

/-! ## Devices and regions -/

def device (bench : Workbench) (name : String) : Device :=
  (bench.devices.lookup name).getD Device.soft

def withDevice (bench : Workbench) (name : String) (device : Device) : Workbench :=
  { bench with devices := bench.devices.put name device }

def region? (bench : Workbench) (name : String) : Option (RegionId × Region) :=
  (bench.regions.lookup name).bind fun id => (bench.memory.region? id).map (id, ·)

/-- The workbench with one more region. -/
def withRegion (bench : Workbench) (name : String) (region : Region) : Workbench :=
  let (id, memory) := bench.memory.add region
  { bench with memory := memory, regions := bench.regions.put name id }

/-- The workbench with a region in the place of the one with its number. -/
def storeRegion (bench : Workbench) (id : RegionId) (region : Region) : Workbench :=
  { bench with memory := bench.memory.put id region }

/-- Registers a region. -/
def register (bench : Workbench) (name device region : String) (access : Access)
    (draws : List UInt32) : Option (Except DeviceError Registration × Workbench) :=
  (bench.region? region).map fun (id, region) =>
    match (bench.device device).register id region access draws with
    | (.error e, changed) => (.error e, bench.withDevice device changed)
    | (.ok registration, changed) =>
      let added := bench.registrations.put name (device, registration)
      (.ok registration, { bench.withDevice device changed with registrations := added })

/-- Gives up the registration with a key. -/
def deregister (bench : Workbench) (device : String) (key : UInt32) :
    Except DeviceError Unit × Workbench :=
  let (outcome, changed) := (bench.device device).deregister key
  (outcome, bench.withDevice device changed)

/-! ## Queues and queue pairs -/

def createQueue (bench : Workbench) (name device : String) (depth : Nat) :
    Except DeviceError CompletionQueue × Workbench :=
  match (bench.device device).createQueue depth with
  | .error e => (.error e, bench)
  | .ok queue => (.ok queue, { bench with queues := bench.queues.put name queue })

def createPair (bench : Workbench) (name device queue : String) (port index : UInt8)
    (linkTimeout : Milliseconds) (lot : QueuePairLot) :
    Except DeviceError QueuePair × Workbench :=
  match (bench.device device).createQueuePair port index linkTimeout lot with
  | (.error e, changed) => (.error e, bench.withDevice device changed)
  | (.ok pair, changed) =>
    (.ok pair, { bench.withDevice device changed with
      pairs := bench.pairs.put name ⟨device, queue, pair⟩ })

/-- A queue pair by name. -/
def pair? (bench : Workbench) (name : String) : Option QueuePair :=
  (bench.pairs.lookup name).map BenchPair.queuePair

/-- Changes a queue pair. -/
def turn {α : Type} (bench : Workbench) (name : String)
    (change : QueuePair → α × QueuePair) : Option (α × Workbench) :=
  (bench.pairs.lookup name).map fun held =>
    let (result, pair) := change held.queuePair
    (result, { bench with pairs := bench.pairs.put name { held with queuePair := pair } })

/-- Takes a queue pair from one state to the next, or leaves it as it is. -/
def advance (bench : Workbench) (name : String)
    (step : QueuePair → Except DeviceError QueuePair) :
    Option (Except DeviceError Unit × Workbench) :=
  bench.turn name fun pair =>
    match step pair with
    | .ok moved => (.ok (), moved)
    | .error e => (.error e, pair)

/-- Posts a request on a queue pair. -/
def post (bench : Workbench) (name : String)
    (request : Registrations → Station → Except DeviceError Unit × Station) :
    Option (Except DeviceError Unit × Workbench) := do
  let held ← bench.pairs.lookup name
  let queue ← bench.queues.lookup held.queue
  let station : Station := ⟨held.queuePair, queue, bench.memory⟩
  let (outcome, after) := request (bench.device held.device).registrations station
  return (outcome, { bench with
    memory := after.memory
    queues := bench.queues.put held.queue after.completions
    pairs := bench.pairs.put name { held with queuePair := after.queuePair } })

/-- Destroys a queue pair; its name stays in use. -/
def destroy (bench : Workbench) (name : String) : Option (Except DeviceError Unit × Workbench) :=
  (bench.pairs.lookup name).map fun held =>
    let (outcome, pair, changed) := (bench.device held.device).destroyQueuePair held.queuePair
    (outcome, { bench.withDevice held.device changed with
      pairs := bench.pairs.put name { held with queuePair := pair } })

/-- Destroys a queue pair and gives its name free. -/
def dropPair (bench : Workbench) (name : String) : Option Workbench :=
  (bench.destroy name).map fun (_, after) => { after with pairs := after.pairs.erase name }

end Workbench

end RdmaLink
