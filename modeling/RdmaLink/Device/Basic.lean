import RdmaLink.QueuePair.Linking
import RdmaLink.QueuePair.Posting

/-!
# Devices

A device registers regions and makes completion queues and queue pairs.  What it can do is in its
profile; a profile may also name calls that the device turns down.

The software device has one port and two global identifiers: the first leaves the choice of the
interface to the peer's address, the second is the loopback interface.
-/

namespace RdmaLink

/-- A kind of call that a device may turn down. -/
inductive DeviceCall where
  | opening
  | registering
  | deregistering
  | queueCreation
  | pairCreation
  | initializing
  | linking
  | activating
  | sending
  | receiving
  | destroying
  | attaching
deriving DecidableEq, Repr, Inhabited

def DeviceCall.all : List DeviceCall :=
  [.opening, .registering, .deregistering, .queueCreation, .pairCreation, .initializing, .linking,
    .activating, .sending, .receiving, .destroying, .attaching]

/-- The word that names a call. -/
def DeviceCall.word : DeviceCall → String
  | .opening => "open"
  | .registering => "register"
  | .deregistering => "deregister"
  | .queueCreation => "cq"
  | .pairCreation => "qp"
  | .initializing => "init"
  | .linking => "rtr"
  | .activating => "rts"
  | .sending => "send"
  | .receiving => "recv"
  | .destroying => "destroy"
  | .attaching => "attach"

/-- What a device is able to do. -/
structure DeviceProfile where
  name : String
  maxRegion : Nat
  maxQueuePairs : Nat
  maxDepth : Nat
  ports : UInt8
  /-- The global identifiers of each port. -/
  gids : List Gid
  /-- Whether a stream can be made to carry a data path. -/
  attachesStreams : Bool
  /-- The calls that the device turns down. -/
  refused : List DeviceCall
deriving DecidableEq, Repr, Inhabited

/-- A device: its profile, its registrations and the count of its live queue pairs. -/
structure Device where
  profile : DeviceProfile
  registrations : Registrations
  queuePairs : Nat
deriving DecidableEq, Repr, Inhabited

/-- What a new queue pair is given by the system: two drawn numbers and a port of its own. -/
structure QueuePairLot where
  number : UInt32
  psn : UInt32
  port : Except IoError UInt16

namespace Device

/-- The profile of the software device. -/
def softProfile : DeviceProfile :=
  { name := "soft"
    maxRegion := Region.maxSize
    maxQueuePairs := 1024
    maxDepth := 65536
    ports := 1
    gids := [Gid.ofIpv4 Ipv4.unspecified, Gid.ofIpv4 Ipv4.loopback]
    attachesStreams := true
    refused := [] }

def ofProfile (profile : DeviceProfile) : Device := ⟨profile, Registrations.empty, 0⟩

/-- A fresh software device. -/
def soft : Device := ofProfile softProfile

/-- The error of a call that the device turns down. -/
def refusal (device : Device) (call : DeviceCall) : Option DeviceError :=
  if call ∈ device.profile.refused then
    match call with
    | .attaching => some (.unsupported "stream attachment")
    | _ => some (.link (.refused call.word))
  else none

/-- What opening the device gives. -/
def opened (device : Device) : Except DeviceError Device :=
  match device.refusal .opening with
  | some e => .error e
  | none => .ok device

/-- The global identifier at an index of a port. -/
def gid (device : Device) (port index : UInt8) : Except DeviceError Gid :=
  let profile := device.profile
  if port = 0 ∨ profile.ports < port then .error (.invalidPort port profile.ports)
  else
    match profile.gids[index.toNat]? with
    | some gid => .ok gid
    | none => .error (.invalidGidIndex index (UInt8.ofNat profile.gids.length))

/-- Registers a region. -/
def register (device : Device) (id : RegionId) (region : Region) (access : Access)
    (draws : List UInt32) : Except DeviceError Registration × Device :=
  match device.refusal .registering with
  | some e => (.error e, device)
  | none =>
    if device.profile.maxRegion < region.size then
      (.error (.exhausted "region exceeds max_mr_size"), device)
    else
      let (registration, table) := device.registrations.insert id region access draws
      (.ok registration, { device with registrations := table })

/-- Gives up a registration. -/
def deregister (device : Device) (key : UInt32) : Except DeviceError Unit × Device :=
  match device.refusal .deregistering with
  | some e => (.error e, device)
  | none =>
    match device.registrations.remove? key with
    | some table => (.ok (), { device with registrations := table })
    | none => (.error (.invalidKey key), device)

/-- Makes a completion queue. -/
def createQueue (device : Device) (depth : Nat) : Except DeviceError CompletionQueue :=
  match device.refusal .queueCreation with
  | some e => .error e
  | none =>
    if depth = 0 ∨ device.profile.maxDepth < depth then
      .error (.exhausted "completion queue depth")
    else .ok (CompletionQueue.ofDepth depth)

/-- Makes a queue pair. -/
def createQueuePair (device : Device) (port index : UInt8) (linkTimeout : Milliseconds)
    (lot : QueuePairLot) : Except DeviceError QueuePair × Device :=
  match device.refusal .pairCreation with
  | some e => (.error e, device)
  | none =>
    match device.gid port index with
    | .error e => (.error e, device)
    | .ok gid =>
      if device.profile.maxQueuePairs ≤ device.queuePairs then
        (.error (.exhausted "queue pairs"), device)
      else
        match lot.port with
        | .error e => (.error (.io e), device)
        | .ok lid =>
          (.ok (QueuePair.fresh ⟨lot.number, lot.psn, lid, gid⟩ linkTimeout),
            { device with queuePairs := device.queuePairs + 1 })

/-- Destroys a queue pair and gives its place free, once; a device that turns the call down
reports that after the fact. -/
def destroyQueuePair (device : Device) (queuePair : QueuePair) :
    Except DeviceError Unit × QueuePair × Device :=
  let places := if queuePair.destroyed then device.queuePairs else device.queuePairs - 1
  let freed := { device with queuePairs := places }
  let outcome := match device.refusal .destroying with
    | some e => .error e
    | none => .ok ()
  (outcome, queuePair.destroy, freed)

end Device

end RdmaLink
