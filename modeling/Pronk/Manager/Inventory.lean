import Pronk.BackendHost.Inventory
import Pronk.Library.Transition

/-!
# The public inventory of the manager

`AggregateInventory` merges the inventories that the supervisors of all backends report.
A change is computed by comparing the old devices of a backend with the new ones, in
which a device that differs carries the placeholder revision zero; the revisions are
filled in when the change is committed. Every function returns the state it leaves behind
also when it fails. The events of a supervisor carry what the inventory reads.
-/
namespace Pronk.Manager
open BackendHost (DeviceInventorySnapshot)
open Dbus Std Transition

/-- The reports of a supervisor. -/
inductive BackendSupervisorEvent where
  | Connecting (connectionGeneration : UInt64)
  | Connected (connectionGeneration : UInt64) (inventory : DeviceInventorySnapshot)
  | InventoryChanged (connectionGeneration : UInt64) (inventory : DeviceInventorySnapshot)
  | InventoryResynchronized (connectionGeneration : UInt64) (inventory : DeviceInventorySnapshot)
  | ConnectionFailed (connectionGeneration : UInt64)
  | Disconnected (connectionGeneration : UInt64) (unavailableInventory : DeviceInventorySnapshot)
  | ReconnectScheduled (nextConnectionGeneration : UInt64)
  | ReconnectExhausted (lastConnectionGeneration : UInt64)
  | Stopped (lastConnectionGeneration : Option UInt64)

inductive AggregateError where
  | ZeroGeneration
  | InvalidDevice (error : BackendProtocol.ValidationError)
  | WrongBackendId (expected actual : String)
  | DuplicateDevice (backendId deviceId : String)
  | TooManyDevices (count : ℕ)
  | RevisionExhausted
  | UnexpectedConnectionGeneration (backendId : String) (expected actual : UInt64)
  deriving DecidableEq

inductive ResolveDeviceError where
  | InvalidSelection (error : ValidationError)
  | NotFound (backendId deviceId : String)
  | StaleSelection (backendId deviceId : String)
  | Unavailable (backendId deviceId : String) (availability : DeviceAvailability)
  deriving DecidableEq

/-- What clients are told. -/
inductive InventoryEvent where
  | DeviceAdded (inventoryRevision : UInt64) (device : DeviceInfo)
  | DeviceChanged (inventoryRevision : UInt64) (device : DeviceInfo)
  | DeviceRemoved (inventoryRevision : UInt64) (backendId deviceId : String)
  deriving DecidableEq

inductive ApplySupervisorOutcome where
  | Changed (events : List InventoryEvent)
  | IgnoredStale
  deriving DecidableEq

inductive DeviceChange where
  | Added (device : DeviceInfo)
  | Changed (device : DeviceInfo)
  | Removed (deviceId : String)

structure BackendInventory where
  connectionGeneration : UInt64 := 0
  discoveryGeneration : Option UInt64 := none
  devices : ExtTreeMap String DeviceInfo := ∅

/-- The devices of all backends. -/
structure AggregateInventory where
  inventoryRevision : UInt64 := 0
  backends : ExtTreeMap String BackendInventory := ∅

def diffDevices (old new : ExtTreeMap String DeviceInfo) : List DeviceChange :=
  (old.keys.filter (· ∉ new)).map .Removed ++
    new.toList.filterMap fun (deviceId, device) =>
      match old[deviceId]? with
      | none => some (.Added device)
      | some previous => if previous ≠ device then some (.Changed device) else none

def publicAvailability : BackendProtocol.DeviceAvailability → DeviceAvailability
  | .Available => .Available
  | .Busy => .Busy
  | .Unavailable => .Unavailable

/-- A device that has not changed keeps its revision. -/
def publicDevice (device : BackendProtocol.DeviceInfo)
    (connectionGeneration discoveryGeneration : UInt64) (existing : Option DeviceInfo) :
    DeviceInfo :=
  let availability := publicAvailability device.availability
  let metadata := device.metadata.map fun entry => ⟨entry.key, entry.value⟩
  let materiallyUnchanged := existing.any fun existing =>
    existing.backendId = device.backendId ∧ existing.deviceId = device.deviceId ∧
      existing.displayName = device.displayName ∧ existing.availability = availability ∧
      existing.connectionGeneration = connectionGeneration ∧
      existing.discoveryGeneration = discoveryGeneration ∧ existing.metadata = metadata
  { backendId := device.backendId
    deviceId := device.deviceId
    displayName := device.displayName
    availability
    connectionGeneration
    discoveryGeneration
    deviceRevision := if materiallyUnchanged then (existing.map (·.deviceRevision)).getD 0 else 0
    metadata }

/-- The loop of `replace_backend` over the reported devices. -/
def publicDevices (backendId : String) (connectionGeneration discoveryGeneration : UInt64)
    (old : ExtTreeMap String DeviceInfo) : ExtTreeMap String DeviceInfo →
      List BackendProtocol.DeviceInfo → Except AggregateError (ExtTreeMap String DeviceInfo)
  | new, [] => .ok new
  | new, device :: rest => do
    device.validate.mapError .InvalidDevice
    if device.backendId ≠ backendId then .error (.WrongBackendId backendId device.backendId)
    else if device.deviceId ∈ new then .error (.DuplicateDevice backendId device.deviceId)
    else
      publicDevices backendId connectionGeneration discoveryGeneration old
        (new.insert device.deviceId (publicDevice device connectionGeneration discoveryGeneration
          old[device.deviceId]?)) rest

/-- The record of a device whose backend is gone. -/
def unavailableDevice (device : DeviceInfo) : DeviceInfo :=
  if device.availability ≠ .Unavailable then
    { device with availability := .Unavailable, deviceRevision := 0 }
  else device

namespace AggregateInventory

def snapshot (inv : AggregateInventory) : DeviceSnapshot where
  inventoryRevision := inv.inventoryRevision
  devices := inv.backends.toList.flatMap fun (_, backend) => backend.devices.toList.map (·.2)

def lookup (inv : AggregateInventory) (backendId deviceId : String) : Option DeviceInfo :=
  inv.backends[backendId]?.bind (·.devices[deviceId]?)

def resolveDevice (inv : AggregateInventory) (selection : DeviceSelection) :
    Except ResolveDeviceError DeviceInfo := do
  selection.validate.mapError .InvalidSelection
  match inv.lookup selection.backendId selection.deviceId with
  | none => throw (.NotFound selection.backendId selection.deviceId)
  | some device =>
    if device.connectionGeneration ≠ selection.connectionGeneration ∨
        device.discoveryGeneration ≠ selection.discoveryGeneration ∨
        device.deviceRevision ≠ selection.deviceRevision then
      throw (.StaleSelection selection.backendId selection.deviceId)
    else if device.availability ≠ .Available then
      throw (.Unavailable selection.backendId selection.deviceId device.availability)
    else pure device

/-- The device of a display that has been set up. It outlives its record, with a revision that
has seen the removal. -/
def configuredDevice (inv : AggregateInventory) (previous : DeviceInfo) : DeviceInfo :=
  match inv.lookup previous.backendId previous.deviceId with
  | some current => current
  | none => { previous with
      availability := .Unavailable
      deviceRevision := max inv.inventoryRevision previous.deviceRevision }

def connectionGeneration (inv : AggregateInventory) (backendId : String) : UInt64 :=
  (inv.backends[backendId]?.map (·.connectionGeneration)).getD 0

def devices (inv : AggregateInventory) (backendId : String) : ExtTreeMap String DeviceInfo :=
  (inv.backends[backendId]?.map (·.devices)).getD ∅

def deviceCount (inv : AggregateInventory) : ℕ := OrderedMap.sum (·.devices.size) inv.backends

/-- `ensure_revision_capacity`: the revision can be advanced this often. -/
def hasRevisionCapacity (inv : AggregateInventory) (changes : ℕ) : Bool :=
  inv.inventoryRevision.toNat + changes < 2 ^ 64

/-- The entry of a backend, or a new one, changed in place. -/
def update (inv : AggregateInventory) (backendId : String)
    (f : BackendInventory → BackendInventory) : AggregateInventory :=
  { inv with backends := inv.backends.insert backendId (f (inv.backends[backendId]?.getD {})) }

/-- The device at hand gets the revision of its event. -/
def stamp (inv : AggregateInventory) (backendId deviceId : String) (revision : UInt64) :
    AggregateInventory :=
  { inv with backends := inv.backends.modify backendId fun backend =>
      { backend with devices := backend.devices.modify deviceId fun device =>
          { device with deviceRevision := revision } } }

/-- One turn of `revision_events`. -/
def revisionEvent (inv : AggregateInventory) (backendId : String) (change : DeviceChange) :
    AggregateInventory × InventoryEvent :=
  let revision := inv.inventoryRevision + 1
  let advanced := { inv with inventoryRevision := revision }
  match change with
  | .Added device =>
    (advanced.stamp backendId device.deviceId revision,
      .DeviceAdded revision { device with deviceRevision := revision })
  | .Changed device =>
    (advanced.stamp backendId device.deviceId revision,
      .DeviceChanged revision { device with deviceRevision := revision })
  | .Removed deviceId => (advanced, .DeviceRemoved revision backendId deviceId)

def revisionEvents (inv : AggregateInventory) (backendId : String) :
    List DeviceChange → AggregateInventory × List InventoryEvent
  | [] => (inv, [])
  | change :: rest =>
    let (inv, event) := inv.revisionEvent backendId change
    let (inv, events) := revisionEvents inv backendId rest
    (inv, event :: events)

/-- The devices of a lost backend. -/
def markBackendUnavailable (inv : AggregateInventory) (backendId : String) :
    AggregateInventory × Except AggregateError (List InventoryEvent) :=
  match inv.backends[backendId]? with
  | none => (inv, .ok [])
  | some backend =>
    let newDevices := backend.devices.map fun _ device => unavailableDevice device
    let changes := diffDevices backend.devices newDevices
    if inv.hasRevisionCapacity changes.length then
      let replaced := inv.update backendId fun backend => { backend with devices := newDevices }
      let (inv, events) := replaced.revisionEvents backendId changes
      (inv, .ok events)
    else (inv, .error .RevisionExhausted)

/-- The loop of `mark_all_unavailable`. -/
def markBackendsUnavailable (inv : AggregateInventory) :
    List String → AggregateInventory × Except AggregateError (List InventoryEvent)
  | [] => (inv, .ok [])
  | backendId :: rest =>
    match inv.markBackendUnavailable backendId with
    | (inv, .error e) => (inv, .error e)
    | (inv, .ok events) =>
      let (inv, result) := markBackendsUnavailable inv rest
      (inv, result.map (events ++ ·))

def markAllUnavailable (inv : AggregateInventory) :
    AggregateInventory × Except AggregateError (List InventoryEvent) :=
  let required := inv.snapshot.devices.countP (·.availability ≠ .Unavailable)
  if inv.hasRevisionCapacity required then inv.markBackendsUnavailable inv.backends.keys
  else (inv, .error .RevisionExhausted)

def advanceConnection (inv : AggregateInventory) (backendId : String)
    (connectionGeneration : UInt64) :
    AggregateInventory × Except AggregateError ApplySupervisorOutcome :=
  if connectionGeneration ≤ inv.connectionGeneration backendId then (inv, .ok .IgnoredStale)
  else
    match inv.markBackendUnavailable backendId with
    | (inv, .error e) => (inv, .error e)
    | (inv, .ok changes) =>
      (inv.update backendId fun backend =>
        { backend with connectionGeneration, discoveryGeneration := none }, .ok (.Changed changes))

/-- The devices of a backend are listed anew. -/
def replaceBackend (inv : AggregateInventory) (backendId : String) (connectionGeneration : UInt64)
    (snapshot : DeviceInventorySnapshot) :
    AggregateInventory × Except AggregateError ApplySupervisorOutcome :=
  if connectionGeneration < inv.connectionGeneration backendId then (inv, .ok .IgnoredStale)
  else if connectionGeneration = 0 ∨ snapshot.discoveryGeneration = 0 ∨ snapshot.revision = 0 then
    (inv, .error .ZeroGeneration)
  else
    let oldDevices := inv.devices backendId
    match publicDevices backendId connectionGeneration snapshot.discoveryGeneration oldDevices ∅
      snapshot.devices with
    | .error e => (inv, .error e)
    | .ok newDevices =>
      let newTotal := inv.deviceCount - oldDevices.size + newDevices.size
      if newTotal > MAX_PUBLIC_DEVICES then (inv, .error (.TooManyDevices newTotal))
      else
        let changes := diffDevices oldDevices newDevices
        if inv.hasRevisionCapacity changes.length then
          let replaced := inv.update backendId fun _ =>
            { connectionGeneration
              discoveryGeneration := some snapshot.discoveryGeneration
              devices := newDevices }
          let (inv, events) := replaced.revisionEvents backendId changes
          (inv, .ok (.Changed events))
        else (inv, .error .RevisionExhausted)

/-- The events of a connection that is already up. -/
def updateBackend (inv : AggregateInventory) (backendId : String) (connectionGeneration : UInt64)
    (snapshot : DeviceInventorySnapshot) :
    AggregateInventory × Except AggregateError ApplySupervisorOutcome :=
  let current := inv.connectionGeneration backendId
  if connectionGeneration < current then (inv, .ok .IgnoredStale)
  else if connectionGeneration > current then
    (inv, .error (.UnexpectedConnectionGeneration backendId current connectionGeneration))
  else inv.replaceBackend backendId connectionGeneration snapshot

/-- What a report does to the inventory. -/
def applySupervisorEvent (inv : AggregateInventory) (backendId : String) :
    BackendSupervisorEvent → AggregateInventory × Except AggregateError ApplySupervisorOutcome
  | .Connecting generation => inv.advanceConnection backendId generation
  | .ConnectionFailed generation => inv.advanceConnection backendId generation
  | .Connected generation inventory => inv.replaceBackend backendId generation inventory
  | .InventoryChanged generation inventory => inv.updateBackend backendId generation inventory
  | .InventoryResynchronized generation inventory =>
    inv.updateBackend backendId generation inventory
  | .Disconnected generation unavailableInventory =>
    inv.updateBackend backendId generation unavailableInventory
  | .Stopped last =>
    if last.any (· < inv.connectionGeneration backendId) then (inv, .ok .IgnoredStale)
    else
      let (inv, result) := inv.markBackendUnavailable backendId
      (inv, result.map .Changed)
  | .ReconnectScheduled _ => (inv, .ok (.Changed []))
  | .ReconnectExhausted _ => (inv, .ok (.Changed []))

end AggregateInventory

/-- What an event makes of the device of a display. -/
def configuredDeviceUpdate (current : DeviceInfo) : InventoryEvent → Option DeviceInfo
  | .DeviceAdded _ device => if current.identity = device.identity then some device else none
  | .DeviceChanged _ device => if current.identity = device.identity then some device else none
  | .DeviceRemoved inventoryRevision backendId deviceId =>
    if current.identity = (backendId, deviceId) then
      some { current with availability := .Unavailable, deviceRevision := inventoryRevision }
    else none

inductive InventoryInput where
  | supervisor (backendId : String) (event : BackendSupervisorEvent)
  | markBackendUnavailable (backendId : String)
  | markAllUnavailable

/-- The inventory with all events it has emitted. -/
structure InventoryHistory where
  inventory : AggregateInventory := {}
  events : List InventoryEvent := []

def ApplySupervisorOutcome.events : ApplySupervisorOutcome → List InventoryEvent
  | .Changed events => events
  | .IgnoredStale => []

/-- What an input does to the inventory, and the events it emits. -/
def AggregateInventory.input (inv : AggregateInventory) :
    InventoryInput → AggregateInventory × Except AggregateError (List InventoryEvent)
  | .supervisor backendId event =>
    let (inv, result) := inv.applySupervisorEvent backendId event
    (inv, result.map (·.events))
  | .markBackendUnavailable backendId => inv.markBackendUnavailable backendId
  | .markAllUnavailable => inv.markAllUnavailable

def InventoryHistory.next (h : InventoryHistory) (i : InventoryInput) : InventoryHistory :=
  let (inventory, result) := h.inventory.input i
  { inventory, events := h.events ++ result.toOption.getD [] }

/-- Reports in any order. -/
def aggregate : Machine InventoryHistory InventoryInput := ⟨fun h i => some (h.next i)⟩

end Pronk.Manager
