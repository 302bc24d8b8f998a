import RdmaLink.Device.Basic

/-!
# The registry of devices

Devices are opened by name.  A name is registered once, and the names are listed in the order of
their code points.
-/

namespace RdmaLink

/-- The devices that can be opened: each name with what opening it gives. -/
structure DeviceRegistry where
  factories : List (String × Except DeviceError Device)

namespace DeviceRegistry

def empty : DeviceRegistry := ⟨[]⟩

def contains (registry : DeviceRegistry) (name : String) : Bool :=
  registry.factories.any fun entry => entry.1 == name

/-- Registers a device under a name, unless the name is taken. -/
def register? (registry : DeviceRegistry) (name : String) (device : Except DeviceError Device) :
    Option DeviceRegistry :=
  if registry.contains name then none
  else some ⟨registry.factories ++ [(name, device)]⟩

/-- What is reported of a name that is registered twice. -/
def duplicateMessage (name : String) : String := "Device '" ++ name ++ "' is already registered"

/-- The registry with the devices that are always there. -/
def builtin : DeviceRegistry := ⟨[(Device.softProfile.name, .ok Device.soft)]⟩

/-- Opens a device. -/
def open? (registry : DeviceRegistry) (name : String) : Except DeviceError Device :=
  match registry.factories.lookup name with
  | some device => device
  | none => .error (.notFound name)

/-- The registered names in order. -/
def names (registry : DeviceRegistry) : List String :=
  (registry.factories.map Prod.fst).mergeSort fun a b => decide (a ≤ b)

end DeviceRegistry

end RdmaLink
