import InfraObserver.Domain.Records

/-!
# The device registry

The registry keeps every device under its own id.
-/

namespace InfraObserver

/-- `Registry`: the devices by id. -/
structure Registry where
  devices : StringMap Device
  keyed : ∀ id device, devices.lookup id = some device → device.id = id

namespace Registry

/-- The registry without devices. -/
def empty : Registry where
  devices := ∅
  keyed := by simp

/-- Add a device, over the one that had its id. -/
def insert (registry : Registry) (device : Device) : Registry where
  devices := registry.devices.insert device.id device
  keyed := by
    intro id found lookup
    rw [StringMap.lookup_insert_ite] at lookup
    split_ifs at lookup with same
    · rw [← Option.some.inj lookup, same]
    · exact registry.keyed id found lookup

/-- `Replace`: swap the whole device set, keeping known last-seen instants. -/
def replace (registry : Registry) (devices : List Device) : Registry :=
  devices.foldl
    (fun next device =>
      next.insert (match registry.devices.lookup device.id with
        | some old =>
            if device.lastSeen = 0 then { device with lastSeen := old.lastSeen } else device
        | none => device))
    empty

/-- `NewRegistry`. -/
def new (devices : List Device) : Registry :=
  empty.replace devices

/-- `Get`. -/
def get (registry : Registry) (id : String) : Option Device :=
  registry.devices.lookup id

theorem get_id
    {registry : Registry}
    {id : String}
    {device : Device}
    (found : registry.get id = some device) :
    device.id = id :=
  registry.keyed id device found

end Registry

end InfraObserver
