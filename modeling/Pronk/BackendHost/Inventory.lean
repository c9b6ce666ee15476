import Pronk.BackendProtocol.Device
import Pronk.Library.OrderedMap

/-!
# The inventory of one backend

A snapshot of the devices of a backend, kept up to date by the signals that follow it. A
signal that the snapshot covers is ignored, and one that leaves a gap is an error: the
inventory is then fetched anew.
-/
namespace Pronk.BackendHost
open BackendProtocol Std Fallible

/-- The signals of a backend about its devices. -/
inductive DeviceEvent where
  | Added (discoveryGeneration revision : UInt64) (device : DeviceInfo)
  | Changed (discoveryGeneration revision : UInt64) (device : DeviceInfo)
  | Removed (discoveryGeneration revision : UInt64) (device : DeviceIdentity)
  deriving DecidableEq

namespace DeviceEvent

def discoveryGeneration : DeviceEvent → UInt64
  | .Added generation _ _ => generation
  | .Changed generation _ _ => generation
  | .Removed generation _ _ => generation

def revision : DeviceEvent → UInt64
  | .Added _ revision _ => revision
  | .Changed _ revision _ => revision
  | .Removed _ revision _ => revision

end DeviceEvent

structure DeviceInventorySnapshot where
  (discoveryGeneration revision : UInt64)
  devices : List DeviceInfo
  deriving DecidableEq

/-- The devices of a backend by their identity. -/
abbrev Devices := ExtTreeMap (String × String) DeviceInfo Dbus.compareIdentity

/-- The devices of one backend at one revision. -/
structure DeviceInventory where
  expectedBackendId : String
  (discoveryGeneration baselineRevision revision : UInt64)
  devices : Devices
  lastApplied : Option DeviceEvent

/-- What became of a signal. -/
inductive ApplyOutcome where
  | Changed
  | IgnoredCoveredBySnapshot
  | IgnoredDuplicate

/-- What is wrong with a record; an event may also have the revision zero. -/
inductive RecordError where
  | validation (error : ValidationError)
  | zeroRevision
  deriving DecidableEq

/-- Why a snapshot or a signal was refused. -/
inductive InventoryError where
  | InvalidRecord (error : RecordError)
  | WrongBackendId (expected actual : String)
  | GenerationMismatch (expected actual : UInt64)
  | RevisionGap (expected actual : UInt64)
  | RevisionExhausted
  | ConflictingDuplicate (revision : UInt64)
  | AlreadyPresent (backendId deviceId : String)
  | NotPresent (backendId deviceId : String)
  deriving DecidableEq

def requireBackend (expected actual : String) : Except InventoryError Unit :=
  if expected ≠ actual then .error (.WrongBackendId expected actual) else .ok ()

def validateRecord (result : Except ValidationError Unit) : Except InventoryError Unit :=
  result.mapError fun error => .InvalidRecord (.validation error)

def validateEvent (expectedBackendId : String) (event : DeviceEvent) :
    Except InventoryError Unit :=
  if event.revision = 0 then .error (.InvalidRecord .zeroRevision)
  else
    match event with
    | .Added _ _ device => do
      validateRecord device.validate
      requireBackend expectedBackendId device.backendId
    | .Changed _ _ device => do
      validateRecord device.validate
      requireBackend expectedBackendId device.backendId
    | .Removed _ _ device => do
      validateRecord device.validate
      requireBackend expectedBackendId device.backendId

/-- The loop of `from_snapshot`. -/
def insertDevices (expectedBackendId : String) :
    Devices → List DeviceInfo → Except InventoryError Devices
  | devices, [] => .ok devices
  | devices, device :: rest => do
    requireBackend expectedBackendId device.backendId
    insertDevices expectedBackendId (devices.insert device.identity device) rest

namespace DeviceInventory

def fromSnapshot (expectedBackendId : String) (snapshot : DeviceSnapshot) :
    Except InventoryError DeviceInventory := do
  validateRecord snapshot.validate
  let devices ← insertDevices expectedBackendId ∅ snapshot.devices
  pure
    { expectedBackendId
      discoveryGeneration := snapshot.discoveryGeneration
      baselineRevision := snapshot.revision
      revision := snapshot.revision
      devices
      lastApplied := none }

def snapshot (inv : DeviceInventory) : DeviceInventorySnapshot where
  discoveryGeneration := inv.discoveryGeneration
  revision := inv.revision
  devices := inv.devices.toList.map (·.2)

/-- The devices after an event, if it fits them. -/
def applyDevices (devices : Devices) : DeviceEvent → Except InventoryError Devices
  | .Added _ _ device =>
    if device.identity ∈ devices then .error (.AlreadyPresent device.backendId device.deviceId)
    else .ok (devices.insert device.identity device)
  | .Changed _ _ device =>
    if device.identity ∉ devices then .error (.NotPresent device.backendId device.deviceId)
    else .ok (devices.insert device.identity device)
  | .Removed _ _ device =>
    if (device.backendId, device.deviceId) ∉ devices then
      .error (.NotPresent device.backendId device.deviceId)
    else .ok (devices.erase (device.backendId, device.deviceId))

/-- The inventory is written only when all checks have passed. -/
def apply (inv : DeviceInventory) (event : DeviceEvent) :
    DeviceInventory × Except InventoryError ApplyOutcome :=
  match validateEvent inv.expectedBackendId event with
  | .error e => (inv, .error e)
  | .ok () =>
    if event.discoveryGeneration ≠ inv.discoveryGeneration then
      (inv, .error (.GenerationMismatch inv.discoveryGeneration event.discoveryGeneration))
    else if event.revision ≤ inv.baselineRevision ∨ event.revision < inv.revision then
      (inv, .ok .IgnoredCoveredBySnapshot)
    else if event.revision = inv.revision then
      if inv.lastApplied = some event then (inv, .ok .IgnoredDuplicate)
      else (inv, .error (.ConflictingDuplicate event.revision))
    else if inv.revision.toNat + 1 ≥ 2 ^ 64 then (inv, .error .RevisionExhausted)
    else if event.revision ≠ inv.revision + 1 then
      (inv, .error (.RevisionGap (inv.revision + 1) event.revision))
    else
      match applyDevices inv.devices event with
      | .error e => (inv, .error e)
      | .ok devices =>
        ({ inv with devices, revision := event.revision, lastApplied := some event }, .ok .Changed)

/-- What can become of a valid event of the inventory's own generation. -/
inductive Applied (inv : DeviceInventory) (event : DeviceEvent) :
    DeviceInventory × Except InventoryError ApplyOutcome → Prop
  | changed {devices} (hdevices : applyDevices inv.devices event = .ok devices)
      (hnext : event.revision.toNat = inv.revision.toNat + 1) :
      Applied inv event
        ({ inv with devices, revision := event.revision, lastApplied := some event }, .ok .Changed)
  | ignored {outcome} (hignored : outcome ≠ .Changed)
      (hold : event.revision ≤ inv.baselineRevision ∨ event.revision ≤ inv.revision) :
      Applied inv event (inv, .ok outcome)
  | rejected (e) (hnew : inv.revision ≤ event.revision) : Applied inv event (inv, .error e)

lemma applied_apply {inv : DeviceInventory} {event : DeviceEvent}
    (hvalid : validateEvent inv.expectedBackendId event = .ok ())
    (hgeneration : event.discoveryGeneration = inv.discoveryGeneration) :
    Applied inv event (inv.apply event) := by
  unfold apply
  simp only [hvalid, hgeneration, ne_eq, not_true, if_false]
  split_ifs with hcovered hsame hduplicate hexhausted hnext
  · exact .ignored nofun (hcovered.imp id UInt64.le_of_lt)
  · exact .ignored nofun (.inr (hsame ▸ UInt64.le_refl _))
  · exact .rejected _ (hsame ▸ UInt64.le_refl _)
  all_goals
    have hnew : inv.revision ≤ event.revision :=
      UInt64.not_lt.1 fun hlt => hcovered (.inr hlt)
  · exact .rejected _ hnew
  · split
    · exact .rejected _ hnew
    · refine .changed ‹_› ?_
      rw [hnext, UInt64.toNat_add]
      exact Nat.mod_eq_of_lt (Nat.not_le.1 hexhausted)
  · exact .rejected _ hnew

end DeviceInventory

variable {expectedBackendId : String} {devices devices' : Devices}

lemma insertDevices_eq {list : List DeviceInfo}
    (h : insertDevices expectedBackendId devices list = .ok devices') :
    devices' = OrderedMap.insertValues DeviceInfo.identity devices list := by
  induction list generalizing devices with
  | nil => exact (Except.ok.inj h).symm
  | cons device rest ih =>
    obtain ⟨_, -, hrest⟩ := bind_eq_ok.1 h
    exact ih hrest

lemma insertDevices_backend {list : List DeviceInfo}
    (h : insertDevices expectedBackendId devices list = .ok devices') :
    ∀ device ∈ list, device.backendId = expectedBackendId := by
  induction list generalizing devices with
  | nil => simp
  | cons device rest ih =>
    obtain ⟨_, hbackend, hrest⟩ := bind_eq_ok.1 h
    unfold requireBackend at hbackend
    split_ifs at hbackend with hne
    exact List.forall_mem_cons.2 ⟨(not_not.1 hne).symm, ih hrest⟩

lemma insertDevices_ok {list : List DeviceInfo}
    (h : ∀ device ∈ list, device.backendId = expectedBackendId) :
    insertDevices expectedBackendId devices list =
      .ok (OrderedMap.insertValues DeviceInfo.identity devices list) := by
  induction list generalizing devices with
  | nil => rfl
  | cons device rest ih =>
    have hbackend : requireBackend expectedBackendId device.backendId = .ok () :=
      if_neg (not_not.2 (h device (by simp)).symm)
    simp only [insertDevices, hbackend, ok_bind]
    exact ih fun d hd => h d (by simp [hd])

/-- The device that an event reports. -/
def DeviceEvent.device? : DeviceEvent → Option DeviceInfo
  | .Added _ _ device => some device
  | .Changed _ _ device => some device
  | .Removed .. => none

/-- What an event does to the devices of the backend. -/
def DeviceEvent.effect (devices : Devices) : DeviceEvent → Devices
  | .Added _ _ device => devices.insert device.identity device
  | .Changed _ _ device => devices.insert device.identity device
  | .Removed _ _ device => devices.erase (device.backendId, device.deviceId)

lemma applyDevices_effect {event : DeviceEvent}
    (h : DeviceInventory.applyDevices devices event = .ok devices') :
    devices' = event.effect devices := by
  unfold DeviceInventory.applyDevices at h
  split at h <;>
    · split_ifs at h
      exact (Except.ok.inj h).symm

/-- What holds of the devices before an event and of its own device holds of all after it. -/
lemma DeviceEvent.effect_forall {event : DeviceEvent} {P : String × String → DeviceInfo → Prop}
    (hdevices : ∀ key device, devices[key]? = some device → P key device)
    (hown : ∀ device, event.device? = some device → P device.identity device) :
    ∀ key device, (event.effect devices)[key]? = some device → P key device := by
  intro key device hdevice
  have hinsert {new : DeviceInfo} (hnew : P new.identity new)
      (h : (devices.insert new.identity new)[key]? = some device) : P key device := by
    rw [ExtTreeMap.getElem?_insert] at h
    split_ifs at h with hkey
    · cases h
      exact LawfulEqCmp.eq_of_compare hkey ▸ hnew
    · exact hdevices key device h
  cases event with
  | Added generation revision new => exact hinsert (hown _ rfl) hdevice
  | Changed generation revision new => exact hinsert (hown _ rfl) hdevice
  | Removed generation revision old =>
    unfold DeviceEvent.effect at hdevice
    rw [ExtTreeMap.getElem?_erase] at hdevice
    split_ifs at hdevice
    exact hdevices key device hdevice

lemma validateEvent_device {event : DeviceEvent} {device : DeviceInfo}
    (h : validateEvent expectedBackendId event = .ok ()) (hdevice : event.device? = some device) :
    device.validate = .ok () ∧ device.backendId = expectedBackendId := by
  have hchecks : (do
      validateRecord device.validate
      requireBackend expectedBackendId device.backendId) = .ok () := by
    unfold validateEvent at h
    split_ifs at h
    cases event <;> cases hdevice <;> exact h
  obtain ⟨_, hvalid, hbackend⟩ := bind_eq_ok.1 hchecks
  unfold requireBackend at hbackend
  split_ifs at hbackend with hne
  refine ⟨?_, (not_not.1 hne).symm⟩
  cases hdevice : device.validate with
  | ok => rfl
  | error e => rw [hdevice] at hvalid; cases hvalid

end Pronk.BackendHost
