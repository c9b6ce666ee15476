import Pronk.BackendHost.Bounds
import Pronk.Manager.Inventory

/-!
# What the manager accepts from a backend

A supervisor keeps a `DeviceInventory` and reports it to the manager, which checks the
report again before it replaces the public devices of the backend. The two sets of checks
agree except for the revision: an inventory may start at revision zero, a report may not
carry it.
-/
namespace Pronk.BackendHost

/-- The devices of a backend that is gone. -/
def markUnavailable (snapshot : DeviceInventorySnapshot) : DeviceInventorySnapshot :=
  { snapshot with devices := snapshot.devices.map fun device =>
      { device with availability := .Unavailable } }

end Pronk.BackendHost

namespace Pronk.Manager
open BackendHost (DeviceInventory DeviceInventorySnapshot DeviceEvent)
open Dbus (MAX_PUBLIC_DEVICES)
open Std AggregateInventory BackendProtocol List

/-- The events in which a supervisor reports an inventory. -/
def reports (connectionGeneration : UInt64) (inventory : DeviceInventorySnapshot) :
    List BackendSupervisorEvent :=
  [.Connected connectionGeneration inventory,
   .InventoryChanged connectionGeneration inventory,
   .InventoryResynchronized connectionGeneration inventory,
   .Disconnected connectionGeneration (BackendHost.markUnavailable inventory)]

/-- The devices that a report carries. -/
def BackendSupervisorEvent.inventory? : BackendSupervisorEvent → Option DeviceInventorySnapshot
  | .Connected _ inventory => some inventory
  | .InventoryChanged _ inventory => some inventory
  | .InventoryResynchronized _ inventory => some inventory
  | .Disconnected _ inventory => some inventory
  | _ => none

/-- The number of public changes that a report of the devices makes. -/
def AggregateInventory.changes (inv : AggregateInventory) (backendId : String)
    (connectionGeneration : UInt64) (inventory : DeviceInventorySnapshot) : ℕ :=
  match publicDevices backendId connectionGeneration inventory.discoveryGeneration
    (inv.devices backendId) ∅ inventory.devices with
  | .ok new => (diffDevices (inv.devices backendId) new).length
  | .error _ => 0

/-- What `replace_backend` requires of the reported devices. -/
structure Reportable (backendId : String) (devices : List DeviceInfo) : Prop where
  valid : ∀ device ∈ devices, device.validate = .ok ()
  backend : ∀ device ∈ devices, device.backendId = backendId
  distinct : (devices.map (·.deviceId)).Nodup

section Reported

variable {backendId : String} {devices : List DeviceInfo}

lemma Reportable.tail {device : DeviceInfo}
    (h : Reportable backendId (device :: devices)) : Reportable backendId devices where
  valid d hd := h.valid d (mem_cons_of_mem _ hd)
  backend d hd := h.backend d (mem_cons_of_mem _ hd)
  distinct := (nodup_cons.1 h.distinct).2

/-- The loop over the reported devices runs through and publishes each of them. -/
lemma Reportable.publicDevices (h : Reportable backendId devices)
    (connectionGeneration discoveryGeneration : UInt64)
    (old new : ExtTreeMap String Dbus.DeviceInfo)
    (hnew : ∀ device ∈ devices, device.deviceId ∉ new) :
    ∃ new', Manager.publicDevices backendId connectionGeneration discoveryGeneration old new
      devices = .ok new' ∧ new'.size = new.size + devices.length := by
  induction devices generalizing new with
  | nil => exact ⟨new, rfl, rfl⟩
  | cons device rest ih =>
    have hfree : device.deviceId ∉ new := hnew device mem_cons_self
    have hvalid := h.valid device mem_cons_self
    have hbackend := h.backend device mem_cons_self
    have hother := (nodup_cons.1 h.distinct).1
    obtain ⟨new', hloop, hsize⟩ := ih h.tail (new.insert device.deviceId
      (publicDevice device connectionGeneration discoveryGeneration old[device.deviceId]?)) (by
        intro d hd hin
        rw [ExtTreeMap.mem_insert] at hin
        rcases hin with heq | hin
        · exact hother (mem_map.2 ⟨d, hd, (LawfulEqCmp.eq_of_compare heq).symm⟩)
        · exact hnew d (mem_cons_of_mem _ hd) hin)
    refine ⟨new', ?_, ?_⟩
    · rw [Manager.publicDevices, hvalid]
      simp only [Except.mapError, Fallible.ok_bind, hbackend, ne_eq, not_true, if_false,
        if_neg hfree]
      exact hloop
    · have hinsert := ExtTreeMap.size_insert (t := new) (k := device.deviceId)
        (v := publicDevice device connectionGeneration discoveryGeneration old[device.deviceId]?)
      rw [if_neg (by simpa using hfree)] at hinsert
      rw [hsize, hinsert, length_cons]
      omega

lemma Reportable.markUnavailable {inventory : DeviceInventorySnapshot}
    (h : Reportable backendId inventory.devices) :
    Reportable backendId (BackendHost.markUnavailable inventory).devices where
  valid := by
    simpa [BackendHost.markUnavailable, DeviceInfo.validate] using h.valid
  backend := by simpa [BackendHost.markUnavailable] using h.backend
  distinct := by
    simpa [BackendHost.markUnavailable, map_map, Function.comp_def] using h.distinct

lemma reportable_snapshot {inv : DeviceInventory} (h : inv.WellKept backendId) :
    Reportable backendId inv.snapshot.devices := by
  refine ⟨fun _ hin => (h.of_mem_contents hin).1, fun _ hin => (h.of_mem_contents hin).2, ?_⟩
  have hidentities := h.nodup_identities
  have hpairs : inv.contents.devices.map (·.identity) =
      (inv.contents.devices.map (·.deviceId)).map fun id => (backendId, id) := by
    rw [map_map]
    exact map_congr_left fun device hin => by
      simp [DeviceInfo.identity, (h.of_mem_contents hin).2]
  rw [hpairs] at hidentities
  exact hidentities.of_map _

end Reported

/-- A report of reportable devices is refused only for a generation or revision of zero. -/
lemma AggregateInventory.replaceBackend_ok_iff {inv : AggregateInventory} {backendId : String}
    {connectionGeneration : UInt64} {inventory : DeviceInventorySnapshot}
    (hcurrent : inv.connectionGeneration backendId = connectionGeneration)
    (hconnection : connectionGeneration ≠ 0) (hdiscovery : inventory.discoveryGeneration ≠ 0)
    (hdevices : Reportable backendId inventory.devices)
    (hroom : inv.deviceCount - (inv.devices backendId).size + inventory.devices.length ≤
      MAX_PUBLIC_DEVICES)
    (hrevisions : inv.hasRevisionCapacity
      (inv.changes backendId connectionGeneration inventory) = true) :
    (∃ outcome, (inv.replaceBackend backendId connectionGeneration inventory).2 = .ok outcome) ↔
      inventory.revision ≠ 0 := by
  obtain ⟨new, hnew, hsize⟩ := hdevices.publicDevices connectionGeneration
    inventory.discoveryGeneration (inv.devices backendId) ∅ (by simp)
  simp only [changes, hnew] at hrevisions
  simp only [ExtTreeMap.size_empty, Nat.zero_add] at hsize
  have htotal : ¬ inv.deviceCount - (inv.devices backendId).size + new.size >
      MAX_PUBLIC_DEVICES := by omega
  have hstale : ¬ connectionGeneration < inv.connectionGeneration backendId := by
    rw [hcurrent]
    exact UInt64.lt_irrefl _
  unfold replaceBackend
  rw [if_neg hstale]
  by_cases hrevision : inventory.revision = 0
  · simp [hrevision]
  · simp [hrevision, hconnection, hdiscovery, hnew, if_neg htotal, hrevisions]

/-- Of the reports of an inventory, for the current connection and with room for the devices
and the revisions, the manager accepts exactly those that do not carry revision zero. -/
theorem reports_accepted_iff {backendId : String} {snapshot : DeviceSnapshot}
    {kept : DeviceInventory} (hkept : DeviceInventory.fromSnapshot backendId snapshot = .ok kept)
    (events : List DeviceEvent) (inv : AggregateInventory) {connectionGeneration : UInt64}
    (hcurrent : inv.connectionGeneration backendId = connectionGeneration)
    (hconnection : connectionGeneration ≠ 0) {event : BackendSupervisorEvent}
    (hevent : event ∈ reports connectionGeneration (kept.applyAll events).snapshot)
    (hroom : inv.deviceCount - (inv.devices backendId).size +
      (kept.applyAll events).devices.size ≤ MAX_PUBLIC_DEVICES)
    (hrevisions : ∀ inventory, event.inventory? = some inventory →
      inv.hasRevisionCapacity (inv.changes backendId connectionGeneration inventory) = true) :
    (∃ outcome, (inv.applySupervisorEvent backendId event).2 = .ok outcome) ↔
      (kept.applyAll events).revision ≠ 0 := by
  have hwell := (DeviceInventory.fromSnapshot_bounded hkept).1.applyAll events
  have hreportable := reportable_snapshot hwell
  have hlength : (kept.applyAll events).snapshot.devices.length =
      (kept.applyAll events).devices.size := by simp [DeviceInventory.snapshot]
  rw [← hlength] at hroom
  have hup : ∀ inventory, inv.updateBackend backendId connectionGeneration inventory =
      inv.replaceBackend backendId connectionGeneration inventory := by
    intro inventory
    simp [updateBackend, hcurrent]
  simp only [reports, mem_cons, not_mem_nil, or_false] at hevent
  rcases hevent with rfl | rfl | rfl | rfl
  · exact replaceBackend_ok_iff hcurrent hconnection hwell.generation
      hreportable hroom (hrevisions _ rfl)
  · rw [applySupervisorEvent, hup]
    exact replaceBackend_ok_iff hcurrent hconnection hwell.generation
      hreportable hroom (hrevisions _ rfl)
  · rw [applySupervisorEvent, hup]
    exact replaceBackend_ok_iff hcurrent hconnection hwell.generation
      hreportable hroom (hrevisions _ rfl)
  · rw [applySupervisorEvent, hup]
    refine replaceBackend_ok_iff hcurrent hconnection hwell.generation
      hreportable.markUnavailable ?_ (hrevisions _ rfl)
    simpa [BackendHost.markUnavailable] using hroom

/-- The public inventory when the first connection of a backend is being made. -/
def awaiting : AggregateInventory :=
  (applySupervisorEvent {} "cast" (.Connecting 1)).1

/-- A backend that has found nothing yet and counts its revisions from zero. -/
theorem zero_revision_refused :
    ∃ kept, DeviceInventory.fromSnapshot "cast" ⟨1, 0, []⟩ = .ok kept ∧
      awaiting.connectionGeneration "cast" = 1 ∧ awaiting.deviceCount = 0 ∧
      awaiting.inventoryRevision = 0 ∧
      (awaiting.applySupervisorEvent "cast" (.Connected 1 kept.snapshot)).2 =
        .error .ZeroGeneration :=
  ⟨⟨"cast", 1, 0, 0, ∅, none⟩, rfl, by decide +kernel, by decide +kernel, by decide +kernel,
    by decide +kernel⟩

/-- A backend that lists one device at revision one. -/
def listed : DeviceInventory :=
  ⟨"cast", 1, 1, 1, (∅ : BackendHost.Devices).insert (BackendHost.television 0).identity
    (BackendHost.television 0), none⟩

/-- It then finds another one, which is reported. -/
def found : DeviceInventory := listed.applyAll [.Added 1 2 (BackendHost.television 1)]

theorem reports_accepted_iff_found :
    DeviceInventory.fromSnapshot "cast" ⟨1, 1, [BackendHost.television 0]⟩ = .ok listed ∧
      found.devices.size = 2 ∧
      ∃ outcome, (awaiting.applySupervisorEvent "cast"
        (.InventoryChanged 1 found.snapshot)).2 = .ok outcome := by
  have hlisted : DeviceInventory.fromSnapshot "cast" ⟨1, 1, [BackendHost.television 0]⟩ =
      .ok listed := by
    rfl
  have hsize : found.devices.size = 2 := by decide +kernel
  refine ⟨hlisted, hsize, ?_⟩
  refine (reports_accepted_iff hlisted [.Added 1 2 (BackendHost.television 1)] awaiting
    (by decide +kernel) (by decide) (mem_cons_of_mem _ mem_cons_self)
    (by decide +kernel) ?_).2 (by decide +kernel)
  rintro inventory ⟨⟩
  decide +kernel

end Pronk.Manager
