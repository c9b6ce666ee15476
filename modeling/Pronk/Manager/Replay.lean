import Pronk.Manager.Commit

/-!
# Replaying the public inventory

Whatever the supervisors report and however often a backend is lost, the events that the
inventory has emitted rebuild it from nothing. A rejected report leaves it as it was.
-/
namespace Pronk.Manager
open BackendHost (DeviceInventorySnapshot)
open Dbus Fallible Std Transition InventoryHistory Journal InventoryEvent

section Public

lemma validateText_ok {field field' value : String} {limit : ℕ}
    (h : BackendProtocol.validateText field value limit = .ok ()) :
    validateText field' value limit = .ok () := by
  unfold BackendProtocol.validateText at h
  split_ifs at h with hempty hlong hcontrol
  simp [validateText, hempty, hlong, hcontrol]

lemma validateBackendId_ok {value : String}
    (h : BackendProtocol.validateBackendId value = .ok ()) : validateBackendId value = .ok () := by
  obtain ⟨_, htext, hchars⟩ := bind_eq_ok.1 h
  split_ifs at hchars with hall
  have htext' : validateText "backend ID" value MAX_BACKEND_ID_BYTES = .ok () :=
    validateText_ok htext
  simp only [validateBackendId, htext', ok_bind, if_pos hall]
  rfl

lemma validateMetadata_ok {keys : List String}
    {entries : List BackendProtocol.DiscoveryMetadataEntry}
    (h : BackendProtocol.validateMetadata keys entries = .ok ()) :
    validateMetadata keys (entries.map fun entry => ⟨entry.key, entry.value⟩) = .ok () := by
  induction entries generalizing keys with
  | nil => rfl
  | cons entry rest ih =>
    obtain ⟨_, hentry, hrest⟩ := bind_eq_ok.1 h
    obtain ⟨_, htoken, hvalue⟩ := bind_eq_ok.1 hentry
    obtain ⟨_, hkey, -⟩ := bind_eq_ok.1 htoken
    have hkey' : validateText "metadata key" entry.key MAX_METADATA_KEY_BYTES = .ok () :=
      validateText_ok hkey
    have hvalue' : validateText "metadata value" entry.value MAX_METADATA_VALUE_BYTES = .ok () :=
      validateText_ok hvalue
    split_ifs at hrest with hduplicate
    · cases hrest
    · simp only [List.map_cons, validateMetadata, hkey', hvalue', ok_bind, if_neg hduplicate]
      exact ih hrest

lemma wellFormed_publicDevice {device : BackendProtocol.DeviceInfo}
    {connectionGeneration discoveryGeneration : UInt64} {existing : Option DeviceInfo}
    (h : device.validate = .ok ()) (hconnection : connectionGeneration ≠ 0)
    (hdiscovery : discoveryGeneration ≠ 0) :
    WellFormed (publicDevice device connectionGeneration discoveryGeneration existing) := by
  intro revision hrevision
  obtain ⟨_, hbackend, h⟩ := bind_eq_ok.1 h
  obtain ⟨_, hid, h⟩ := bind_eq_ok.1 h
  obtain ⟨_, hname, h⟩ := bind_eq_ok.1 h
  obtain ⟨_, hcount, hmetadata⟩ := bind_eq_ok.1 h
  have hid' : validateText "device ID" device.deviceId MAX_DEVICE_TEXT_BYTES = .ok () :=
    validateText_ok hid
  have hname' : validateText "device display name" device.displayName MAX_DEVICE_TEXT_BYTES =
      .ok () := validateText_ok hname
  have hlength : ¬ device.metadata.length > MAX_METADATA_ENTRIES := by
    unfold BackendProtocol.validateCount at hcount
    split_ifs at hcount with hlong
    exact hlong
  have hnonzero {field : String} {value : UInt64} (hvalue : value ≠ 0) :
      validateNonzero field value = .ok () := if_neg hvalue
  simp only [DeviceInfo.validate, publicDevice, validateBackendId_ok hbackend, hid', hname',
    hnonzero hconnection, hnonzero hdiscovery, hnonzero hrevision, List.length_map,
    if_neg hlength, ok_bind]
  exact validateMetadata_ok hmetadata

@[simp] lemma unavailableDevice_availability (device : DeviceInfo) :
    (unavailableDevice device).availability = .Unavailable := by
  unfold unavailableDevice
  split_ifs with havailable
  · rfl
  · exact not_not.1 havailable

@[simp] lemma unavailableDevice_identity (device : DeviceInfo) :
    (unavailableDevice device).identity = device.identity := by
  unfold unavailableDevice
  split_ifs <;> rfl

lemma wellFormed_unavailableDevice {device : DeviceInfo} (h : WellFormed device) :
    WellFormed (unavailableDevice device) := by
  intro revision hrevision
  have hvalid := h revision hrevision
  unfold unavailableDevice
  split_ifs <;> exact hvalid

lemma publicDevices_spec {backendId : String} {connectionGeneration discoveryGeneration : UInt64}
    {old devices new : ExtTreeMap String DeviceInfo} {reported : List BackendProtocol.DeviceInfo}
    (h : publicDevices backendId connectionGeneration discoveryGeneration old devices reported =
      .ok new)
    (hconnection : connectionGeneration ≠ 0) (hdiscovery : discoveryGeneration ≠ 0)
    (hfiled : Filed backendId devices)
    (hwell : ∀ (d : String) (device : DeviceInfo), devices[d]? = some device → WellFormed device) :
    Filed backendId new ∧
      ∀ (d : String) (device : DeviceInfo), new[d]? = some device → WellFormed device := by
  induction reported generalizing devices with
  | nil =>
    obtain rfl := Except.ok.inj h
    exact ⟨hfiled, hwell⟩
  | cons device rest ih =>
    obtain ⟨_, hvalid, h⟩ := bind_eq_ok.1 h
    have hvalid' : device.validate = .ok () := by
      cases hresult : device.validate with
      | error e => simp [hresult, Except.mapError] at hvalid
      | ok u => rfl
    split_ifs at h with hbackend hduplicate
    · have hinsert (d : String) (found : DeviceInfo) (hfound : (devices.insert device.deviceId
          (publicDevice device connectionGeneration discoveryGeneration
            old[device.deviceId]?))[d]? = some found) :
          found.identity = (backendId, d) ∧ WellFormed found := by
        rw [ExtTreeMap.getElem?_insert] at hfound
        split_ifs at hfound with hid
        · obtain rfl := Option.some.inj hfound
          have hkey := LawfulEqCmp.eq_of_compare hid
          exact ⟨Prod.ext (not_not.1 hbackend) hkey,
            wellFormed_publicDevice hvalid' hconnection hdiscovery⟩
        · exact ⟨hfiled d found hfound, hwell d found hfound⟩
      exact ih h (fun d found hfound => (hinsert d found hfound).1)
        fun d found hfound => (hinsert d found hfound).2

end Public

/-- The devices that are not marked unavailable. -/
def active (devices : ExtTreeMap String DeviceInfo) : ℕ :=
  (devices.toList.map (·.2)).countP (·.availability ≠ .Unavailable)

/-- Marking a backend announces each of its devices that was not marked. -/
lemma length_diffDevices_unavailable (devices : ExtTreeMap String DeviceInfo) :
    (diffDevices devices (devices.map fun _ device => unavailableDevice device)).length =
      active devices := by
  have hkept : devices.keys.filter (· ∉ devices.map fun _ device => unavailableDevice device) =
      [] := by
    simp
  rw [diffDevices_eq, hkept, List.map_nil, List.nil_append, ExtTreeMap.toList_map,
    List.filterMap_map, List.length_filterMap_eq_countP, active, List.countP_map]
  refine List.countP_congr fun ⟨d, device⟩ hentry => ?_
  have hdevice : devices[d]? = some device := ExtTreeMap.mem_toList_iff_getElem?_eq_some.1 hentry
  have hchanged : device ≠ unavailableDevice device ↔ device.availability ≠ .Unavailable := by
    unfold unavailableDevice
    split_ifs with havailable
    · simp only [havailable, not_false_eq_true, ne_eq, iff_true]
      exact fun heq => havailable (congrArg DeviceInfo.availability heq)
    · simp [not_not.1 havailable]
  simp [keptChange, hdevice, hchanged]

namespace AggregateInventory

variable {inv inv' : AggregateInventory} {backendId : String} {events : List InventoryEvent}

/-- A consistent inventory: the events say what is in it, and it is not too large. -/
structure Consistent (inv : AggregateInventory) (events : List InventoryEvent) : Prop where
  recorded : inv.Recorded events
  count : inv.deviceCount ≤ MAX_PUBLIC_DEVICES

lemma length_revisionEvents (changes : List DeviceChange) :
    (inv.revisionEvents backendId changes).2.length = changes.length := by
  induction changes generalizing inv with
  | nil => rfl
  | cons change rest ih => exact congrArg (· + 1) ih

lemma size_devices_le (inv : AggregateInventory) (backendId : String) :
    (inv.devices backendId).size ≤ inv.deviceCount := by
  have hsum := deviceCount_update inv backendId fun backend =>
    { backend with devices := ∅ }
  simp only [ExtTreeMap.size_empty] at hsum
  omega

lemma Consistent.commit {new : ExtTreeMap String DeviceInfo}
    {f : BackendInventory → BackendInventory} (h : inv.Consistent events)
    (hf : (f (inv.backends[backendId]?.getD {})).devices = new) (hfiled : Filed backendId new)
    (hwell : ∀ (d : String) (device : DeviceInfo), new[d]? = some device → WellFormed device)
    (hcapacity : inv.hasRevisionCapacity (diffDevices (inv.devices backendId) new).length)
    (hsize : inv.deviceCount - (inv.devices backendId).size + new.size ≤ MAX_PUBLIC_DEVICES) :
    ((inv.update backendId f).revisionEvents backendId
      (diffDevices (inv.devices backendId) new)).1.Consistent
      (events ++ ((inv.update backendId f).revisionEvents backendId
        (diffDevices (inv.devices backendId) new)).2) := by
  refine ⟨h.recorded.commit hf hfiled hwell hcapacity, ?_⟩
  have hsum := deviceCount_update inv backendId f
  have hle := size_devices_le inv backendId
  rw [hf] at hsum
  rw [revisionEvents_deviceCount]
  omega

/-- What marking one backend does when it is not rejected. -/
structure Marked (inv : AggregateInventory) (backendId : String) (inv' : AggregateInventory)
    (events new : List InventoryEvent) : Prop where
  consistent : inv'.Consistent (events ++ new)
  others : ∀ b ≠ backendId, inv'.backends[b]? = inv.backends[b]?
  unavailable : ∀ d device, inv'.lookup backendId d = some device →
    device.availability = .Unavailable
  count : new.length = active (inv.devices backendId)

/-- Marking a backend either announces its devices or changes nothing, because there are
no revisions left for them. -/
theorem Consistent.markBackendUnavailable (h : inv.Consistent events) (backendId : String) :
    (∃ inv' new, inv.markBackendUnavailable backendId = (inv', .ok new) ∧
      Marked inv backendId inv' events new ∧
      inv.hasRevisionCapacity (active (inv.devices backendId))) ∨
    inv.markBackendUnavailable backendId = (inv, .error .RevisionExhausted) ∧
      ¬ inv.hasRevisionCapacity (active (inv.devices backendId)) := by
  unfold AggregateInventory.markBackendUnavailable
  split
  · next hbackend =>
    have hdevices : inv.devices backendId = ∅ := by simp [devices, hbackend]
    have hactive : active (inv.devices backendId) = 0 := by simp [hdevices, active]
    refine .inl ⟨inv, [], rfl, ⟨by simpa using h, fun _ _ => rfl, fun d device hdevice => ?_,
      hactive.symm⟩, ?_⟩
    · simp [lookup, hbackend] at hdevice
    · simpa [hactive, hasRevisionCapacity] using inv.inventoryRevision.toNat_lt
  · next backend hbackend =>
    have hdevices : backend.devices = inv.devices backendId := by simp [devices, hbackend]
    dsimp only
    rw [hdevices, length_diffDevices_unavailable]
    split_ifs with hcapacity
    · refine .inl ⟨_, _, rfl, ⟨?_, fun b hb => ?_, fun d device hdevice => ?_, ?_⟩, hcapacity⟩
      · refine h.commit rfl (fun d device hdevice => ?_) (fun d device hdevice => ?_) ?_ ?_
        · rw [ExtTreeMap.getElem?_map] at hdevice
          obtain ⟨old, hold, rfl⟩ := Option.map_eq_some_iff.1 hdevice
          rw [unavailableDevice_identity, h.recorded.filed backendId d old hold]
        · rw [ExtTreeMap.getElem?_map] at hdevice
          obtain ⟨old, hold, rfl⟩ := Option.map_eq_some_iff.1 hdevice
          rw [← lookup_eq_devices] at hold
          exact wellFormed_unavailableDevice (h.recorded.wellFormed hold)
        · rwa [length_diffDevices_unavailable]
        · have hle := size_devices_le inv backendId
          have hcount := h.count
          rw [ExtTreeMap.size_map]
          omega
      · rw [revisionEvents_backends _ hb, backends_update, if_neg (Ne.symm hb)]
      · have hsame := revisionEvents_availability (inv.update backendId fun backend =>
          { backend with devices := (inv.devices backendId).map fun _ => unavailableDevice })
          backendId (diffDevices (inv.devices backendId)
            ((inv.devices backendId).map fun _ => unavailableDevice)) backendId d
        rw [hdevice, lookup_update, if_pos rfl, ExtTreeMap.getElem?_map, Option.map_map] at hsame
        obtain ⟨old, -, hold⟩ := Option.map_eq_some_iff.1 hsame.symm
        exact hold.symm.trans (unavailableDevice_availability old)
      · rw [length_revisionEvents, length_diffDevices_unavailable]
    · exact .inr ⟨rfl, hcapacity⟩

/-- An input is accepted and its events say what changed, or it is rejected and changes
nothing. -/
inductive Handled (inv : AggregateInventory) (events : List InventoryEvent) :
    AggregateInventory × Except AggregateError (List InventoryEvent) → Prop
  | accepted {inv' : AggregateInventory} {new : List InventoryEvent}
      (h : inv'.Consistent (events ++ new)) : Handled inv events (inv', .ok new)
  | rejected (e : AggregateError) : Handled inv events (inv, .error e)

namespace Handled

lemma unchanged (h : inv.Consistent events) : Handled inv events (inv, .ok []) :=
  .accepted (by simpa using h)

lemma markBackendUnavailable (h : inv.Consistent events) (backendId : String) :
    Handled inv events (inv.markBackendUnavailable backendId) := by
  rcases h.markBackendUnavailable backendId with ⟨inv', new, hmark, hmarked, -⟩ | ⟨hmark, -⟩
  · exact hmark ▸ .accepted hmarked.consistent
  · exact hmark ▸ .rejected _

lemma update_generation (h : inv.Consistent events) (backendId : String)
    {f : BackendInventory → BackendInventory}
    (hf : ∀ backend, (f backend).devices = backend.devices) :
    (inv.update backendId f).Consistent events := by
  refine ⟨h.recorded.congr rfl fun b d => ?_, ?_⟩
  · rw [lookup_update, hf, getD_devices]
    split_ifs with hb
    · rw [hb, lookup_eq_devices]
    · rfl
  · have hsum := deviceCount_update inv backendId f
    rw [hf, getD_devices] at hsum
    exact Nat.add_right_cancel hsum ▸ h.count

lemma advanceConnection (h : inv.Consistent events) (backendId : String) (generation : UInt64) :
    Handled inv events ((inv.advanceConnection backendId generation).map id
      (·.map (·.events))) := by
  unfold AggregateInventory.advanceConnection
  split_ifs
  · exact unchanged h
  · rcases h.markBackendUnavailable backendId with ⟨inv', new, hmark, hmarked, -⟩ | ⟨hmark, -⟩
    · rw [hmark]
      exact .accepted (update_generation hmarked.consistent backendId fun _ => rfl)
    · rw [hmark]
      exact .rejected _

lemma replaceBackend (h : inv.Consistent events) (backendId : String) (generation : UInt64)
    (snapshot : DeviceInventorySnapshot) :
    Handled inv events ((inv.replaceBackend backendId generation snapshot).map id
      (·.map (·.events))) := by
  unfold AggregateInventory.replaceBackend
  split_ifs with hstale hzero
  · exact unchanged h
  · exact .rejected _
  · obtain ⟨hconnection, hdiscovery, -⟩ := by simpa only [not_or] using hzero
    dsimp only
    split
    · exact .rejected _
    · next newDevices hdevices =>
      obtain ⟨hfiled, hwell⟩ := publicDevices_spec hdevices hconnection hdiscovery
        (fun d device hd => by simp at hd) fun d device hd => by simp at hd
      split_ifs with htotal hcapacity
      · exact .rejected _
      · exact .accepted (h.commit rfl hfiled hwell hcapacity (Nat.not_lt.1 htotal))
      · exact .rejected _

lemma updateBackend (h : inv.Consistent events) (backendId : String) (generation : UInt64)
    (snapshot : DeviceInventorySnapshot) :
    Handled inv events ((inv.updateBackend backendId generation snapshot).map id
      (·.map (·.events))) := by
  unfold AggregateInventory.updateBackend
  dsimp only
  split_ifs
  · exact unchanged h
  · exact .rejected _
  · exact replaceBackend h backendId generation snapshot

lemma applySupervisorEvent (h : inv.Consistent events) (backendId : String)
    (event : BackendSupervisorEvent) :
    Handled inv events ((inv.applySupervisorEvent backendId event).map id (·.map (·.events))) := by
  cases event with
  | Connecting generation => exact advanceConnection h backendId generation
  | ConnectionFailed generation => exact advanceConnection h backendId generation
  | Connected generation inventory => exact replaceBackend h backendId generation inventory
  | InventoryChanged generation inventory => exact updateBackend h backendId generation inventory
  | InventoryResynchronized generation inventory =>
    exact updateBackend h backendId generation inventory
  | Disconnected generation inventory => exact updateBackend h backendId generation inventory
  | ReconnectScheduled generation => exact unchanged h
  | ReconnectExhausted generation => exact unchanged h
  | Stopped last =>
    unfold AggregateInventory.applySupervisorEvent
    dsimp only
    split_ifs
    · exact unchanged h
    · rcases h.markBackendUnavailable backendId with ⟨inv', new, hmark, hmarked, -⟩ | ⟨hmark, -⟩
      · rw [hmark]
        exact .accepted hmarked.consistent
      · rw [hmark]
        exact .rejected _

/-- With enough revisions for all of them, every backend is marked. -/
lemma markBackendsUnavailable {ids : List String} (h : inv.Consistent events) (hids : ids.Nodup)
    (hcapacity : inv.hasRevisionCapacity (ids.map fun b => active (inv.devices b)).sum) :
    ∃ inv' new, inv.markBackendsUnavailable ids = (inv', .ok new) ∧
      inv'.Consistent (events ++ new) := by
  induction ids generalizing inv events with
  | nil => exact ⟨inv, [], rfl, by simpa using h⟩
  | cons backendId rest ih =>
    obtain ⟨hnew, hrest⟩ := List.nodup_cons.1 hids
    simp only [hasRevisionCapacity, List.map_cons, List.sum_cons, decide_eq_true_eq] at hcapacity
    rcases h.markBackendUnavailable backendId with ⟨inv₁, new, hmark, hmarked, -⟩ | ⟨-, hnone⟩
    · have hothers : rest.map (fun b => active (inv₁.devices b)) =
          rest.map fun b => active (inv.devices b) := by
        refine List.map_congr_left fun b hb => ?_
        have hne : b ≠ backendId := fun heq => hnew (heq ▸ hb)
        rw [devices, devices, hmarked.others b hne]
      have hrevision : inv₁.inventoryRevision.toNat =
          inv.inventoryRevision.toNat + active (inv.devices backendId) := by
        rw [hmarked.consistent.recorded.revision, h.recorded.revision, List.length_append,
          hmarked.count]
      obtain ⟨inv₂, more, hmore, hconsistent⟩ := ih hmarked.consistent hrest (by
        simp only [hasRevisionCapacity, hothers, hrevision, decide_eq_true_eq]
        omega)
      refine ⟨inv₂, new ++ more, ?_, by simpa using hconsistent⟩
      simp only [AggregateInventory.markBackendsUnavailable, hmark, hmore]
      rfl
    · simp only [hasRevisionCapacity, decide_eq_true_eq] at hnone
      omega

lemma countP_snapshot : inv.snapshot.devices.countP (·.availability ≠ .Unavailable) =
    (inv.backends.keys.map fun b => active (inv.devices b)).sum := by
  rw [snapshot, List.countP_flatMap, ← ExtTreeMap.map_fst_toList_eq_keys, List.map_map]
  refine congrArg List.sum (List.map_congr_left fun ⟨b, backend⟩ hentry => ?_)
  have hbackend : inv.backends[b]? = some backend :=
    ExtTreeMap.mem_toList_iff_getElem?_eq_some.1 hentry
  simp [active, devices, hbackend]

lemma markAllUnavailable (h : inv.Consistent events) :
    Handled inv events inv.markAllUnavailable := by
  unfold AggregateInventory.markAllUnavailable
  dsimp only
  split_ifs with hcapacity
  · rw [countP_snapshot] at hcapacity
    obtain ⟨inv', new, hmark, hconsistent⟩ := markBackendsUnavailable h inv.backends.nodup_keys
      hcapacity
    exact hmark ▸ .accepted hconsistent
  · exact .rejected _

lemma input (h : inv.Consistent events) (i : InventoryInput) :
    Handled inv events (inv.input i) := by
  cases i with
  | supervisor backendId event => exact applySupervisorEvent h backendId event
  | markBackendUnavailable backendId => exact markBackendUnavailable h backendId
  | markAllUnavailable => exact markAllUnavailable h

end Handled

section Snapshot

/-- The events are numbered from one to the revision of the inventory. -/
lemma Recorded.revision_mem (h : inv.Recorded events) {e : InventoryEvent} (hin : e ∈ events) :
    e.inventoryRevision ≠ 0 ∧ e.inventoryRevision.toNat ≤ events.length := by
  have hnumber : e.inventoryRevision.toNat ∈ List.range' 1 events.length :=
    h.numbered ▸ List.mem_map_of_mem hin
  obtain ⟨hpositive, hbound⟩ := List.mem_range'_1.1 hnumber
  refine ⟨fun hzero => ?_, by omega⟩
  simp [hzero] at hpositive

lemma Recorded.validate (h : inv.Recorded events) {e : InventoryEvent} (hin : e ∈ events)
    {device : DeviceInfo} (he : e.device? = some device) : device.validate = .ok () := by
  obtain ⟨hwell, -, hrevision⟩ := h.stamped e hin device he
  exact hwell device.deviceRevision (hrevision ▸ (h.revision_mem hin).1)

lemma mem_snapshot (h : inv.Recorded events) {device : DeviceInfo} :
    device ∈ inv.snapshot.devices ↔ inv.lookup device.backendId device.deviceId = some device := by
  simp only [snapshot, List.mem_flatMap, List.mem_map, Prod.exists,
    ExtTreeMap.mem_toList_iff_getElem?_eq_some, lookup, Option.bind_eq_some_iff]
  constructor
  · rintro ⟨b, backend, hbackend, d, found, hfound, rfl⟩
    have hlookup : inv.lookup b d = some found := by simp [lookup, hbackend, hfound]
    obtain ⟨e, -, -, hidentity, -⟩ := h.last hlookup
    obtain ⟨rfl, rfl⟩ := Prod.mk.inj hidentity
    exact ⟨backend, hbackend, hfound⟩
  · rintro ⟨backend, hbackend, hdevice⟩
    exact ⟨_, backend, hbackend, _, device, hdevice, rfl⟩

lemma snapshot_sorted (h : inv.Recorded events) : inv.snapshot.devices.Pairwise fun a b =>
    compareIdentity a.identity b.identity = .lt := by
  have hidentity {b d : String} {backend : BackendInventory} {device : DeviceInfo}
      (hbackend : (b, backend) ∈ inv.backends.toList)
      (hdevice : (d, device) ∈ backend.devices.toList) :
      device.identity = (b, d) := by
    rw [ExtTreeMap.mem_toList_iff_getElem?_eq_some] at hbackend hdevice
    have hlookup : inv.lookup b d = some device := by simp [lookup, hbackend, hdevice]
    obtain ⟨e, -, -, hidentity, -⟩ := h.last hlookup
    exact hidentity
  refine List.pairwise_flatMap.2 ⟨?_, ?_⟩
  · rintro ⟨b, backend⟩ hbackend
    refine List.pairwise_map.2 (backend.devices.ordered_keys_toList.imp_of_mem ?_)
    intro x y hx hy hlt
    have hself : compare b b = .eq := ReflCmp.compare_self
    rw [hidentity hbackend hx, hidentity hbackend hy, compareIdentity, hself]
    exact hlt
  · refine inv.backends.ordered_keys_toList.imp_of_mem fun {x y} hx hy hlt => ?_
    simp only [List.mem_map, Prod.exists]
    rintro _ ⟨d, device, hdevice, rfl⟩ _ ⟨d', device', hdevice', rfl⟩
    rw [hidentity hx hdevice, hidentity hy hdevice', compareIdentity, hlt]
    rfl

lemma length_snapshot : inv.snapshot.devices.length = inv.deviceCount := by
  simp [snapshot, deviceCount, OrderedMap.sum, List.length_flatMap]

lemma Consistent.validate (h : inv.Consistent events) : inv.snapshot.validate = .ok () := by
  have hlength : ¬ inv.snapshot.devices.length > MAX_PUBLIC_DEVICES := by
    rw [length_snapshot]
    exact Nat.not_lt.2 h.count
  have hvalid (device : DeviceInfo) (hdevice : device ∈ inv.snapshot.devices) :
      device.validate = .ok () ∧ device.deviceRevision ≤ inv.inventoryRevision := by
    obtain ⟨e, hlast, he, -, hrevision⟩ :=
      h.recorded.last ((mem_snapshot h.recorded).1 hdevice)
    have hin := (last_mem hlast).1
    rw [hrevision, UInt64.le_iff_toNat_le, h.recorded.revision]
    exact ⟨h.recorded.validate hin he, (h.recorded.revision_mem hin).2⟩
  unfold DeviceSnapshot.validate
  rw [if_neg hlength]
  exact validateDevices_ok hvalid (snapshot_sorted h.recorded) (by simp) (by simp)

end Snapshot

lemma resolveDevice_ok {selection : DeviceSelection} {device : DeviceInfo}
    (h : inv.resolveDevice selection = .ok device) :
    inv.lookup selection.backendId selection.deviceId = some device ∧
      device.deviceRevision = selection.deviceRevision := by
  obtain ⟨_, -, h⟩ := bind_eq_ok.1 h
  split at h
  · cases h
  · next found hfound =>
    split_ifs at h with hstale
    · obtain rfl := Except.ok.inj h
      simp only [not_or, not_not] at hstale
      exact ⟨hfound, hstale.2.2⟩

/-- Marking the devices of a newer connection fails only at the end of the revisions. -/
lemma Consistent.advanceConnection (h : inv.Consistent events) {generation : UInt64}
    (hnewer : inv.connectionGeneration backendId < generation) :
    (∃ inv' new, inv.advanceConnection backendId generation = (inv', .ok (.Changed new)) ∧
      ∀ d device, inv'.lookup backendId d = some device → device.availability ≠ .Available) ∨
    inv.advanceConnection backendId generation = (inv, .error .RevisionExhausted) ∧
      2 ^ 64 ≤ inv.inventoryRevision.toNat + MAX_PUBLIC_DEVICES := by
  unfold AggregateInventory.advanceConnection
  rw [if_neg (UInt64.not_le.2 hnewer)]
  rcases h.markBackendUnavailable backendId with ⟨inv', new, hmark, hmarked, -⟩ | ⟨hmark, hfull⟩
  · refine .inl ⟨_, new, by rw [hmark], fun d device hdevice => ?_⟩
    rw [lookup_update, if_pos rfl, getD_devices, ← lookup_eq_devices] at hdevice
    simp [hmarked.unavailable d device hdevice]
  · refine .inr ⟨by rw [hmark], ?_⟩
    have hactive : active (inv.devices backendId) ≤ (inv.devices backendId).size := by
      have hle := List.countP_le_length (p := fun device : DeviceInfo =>
        decide (device.availability ≠ .Unavailable))
        (l := (inv.devices backendId).toList.map (·.2))
      simpa [active] using hle
    have hsize := size_devices_le inv backendId
    have hcount := h.count
    simp only [hasRevisionCapacity, decide_eq_true_eq] at hfull
    omega

end AggregateInventory

open AggregateInventory

/-- The generation of the connection that an event is about. -/
def BackendSupervisorEvent.connectionGeneration? : BackendSupervisorEvent → Option UInt64
  | .Connecting generation => some generation
  | .Connected generation _ => some generation
  | .InventoryChanged generation _ => some generation
  | .InventoryResynchronized generation _ => some generation
  | .ConnectionFailed generation => some generation
  | .Disconnected generation _ => some generation
  | .ReconnectScheduled generation => some generation
  | .ReconnectExhausted generation => some generation
  | .Stopped last => last

lemma AggregateInventory.applySupervisorEvent_older {inv : AggregateInventory} {backendId : String}
    {event : BackendSupervisorEvent} {generation : UInt64}
    (hgeneration : event.connectionGeneration? = some generation)
    (holder : generation < inv.connectionGeneration backendId) :
    inv.input (.supervisor backendId event) = (inv, .ok []) := by
  have hle : generation ≤ inv.connectionGeneration backendId := UInt64.le_of_lt holder
  have hadvance : inv.advanceConnection backendId generation = (inv, .ok .IgnoredStale) :=
    if_pos hle
  have hreplace (inventory : DeviceInventorySnapshot) :
      inv.replaceBackend backendId generation inventory = (inv, .ok .IgnoredStale) := if_pos holder
  have hupdate (inventory : DeviceInventorySnapshot) :
      inv.updateBackend backendId generation inventory = (inv, .ok .IgnoredStale) := if_pos holder
  have hstopped : (some generation).any (· < inv.connectionGeneration backendId) := by
    simpa using holder
  cases event with
  | ReconnectScheduled => rfl
  | ReconnectExhausted => rfl
  | Stopped last =>
    obtain rfl : last = some generation := hgeneration
    simp only [input, applySupervisorEvent, if_pos hstopped]
    rfl
  | _ =>
    obtain rfl := Option.some.inj hgeneration
    simp only [input, applySupervisorEvent, hadvance, hreplace, hupdate]
    rfl

/-- An event as a change of a map of devices. -/
def InventoryEvent.apply (devices : ExtTreeMap (String × String) DeviceInfo compareIdentity)
    (e : InventoryEvent) : ExtTreeMap (String × String) DeviceInfo compareIdentity :=
  match e with
  | .DeviceAdded _ device => devices.insert device.identity device
  | .DeviceChanged _ device => devices.insert device.identity device
  | .DeviceRemoved _ backendId deviceId => devices.erase (backendId, deviceId)

/-- The map of devices after all events, from the empty one. -/
def replayed (events : List InventoryEvent) :
    ExtTreeMap (String × String) DeviceInfo compareIdentity :=
  events.foldl apply ∅

lemma InventoryEvent.getElem?_apply (e : InventoryEvent)
    (devices : ExtTreeMap (String × String) DeviceInfo compareIdentity) (k : String × String) :
    (e.apply devices)[k]? = if k = e.identity then e.device? else devices[k]? := by
  by_cases hk : k = e.identity
  · cases e <;> simp [apply, device?, identity, hk]
  · have hne : e.identity ≠ k := Ne.symm hk
    rw [if_neg hk]
    cases e <;> simp [apply, ExtTreeMap.getElem?_insert, ExtTreeMap.getElem?_erase] <;>
      exact fun heq => absurd heq hne

lemma getElem?_replayed (events : List InventoryEvent) (k : String × String) :
    (replayed events)[k]? = replay identity (·.device?) events k := by
  induction events using List.reverseRecOn with
  | nil => simp [replayed, replay]
  | append_singleton events e ih =>
    rw [replay_concat, Function.update_apply, ← ih, replayed, List.foldl_append]
    exact e.getElem?_apply (replayed events) k

namespace InventoryHistory

variable {h h' : InventoryHistory}

lemma consistent_next (hc : h.inventory.Consistent h.events) (i : InventoryInput) :
    (h.next i).inventory.Consistent (h.next i).events := by
  have hhandled := Handled.input hc i
  unfold next
  generalize h.inventory.input i = r at hhandled
  cases hhandled with
  | accepted hnew => exact hnew
  | rejected e => simpa [Except.toOption] using hc

lemma reach_consistent (hreach : aggregate.Reach h h') (hc : h.inventory.Consistent h.events) :
    h'.inventory.Consistent h'.events :=
  hreach.invariant (I := fun h => h.inventory.Consistent h.events) hc fun _ i _ hc hnext =>
    Option.some.inj hnext ▸ consistent_next hc i

lemma consistent (hreach : aggregate.Reach {} h) : h.inventory.Consistent h.events :=
  reach_consistent hreach ⟨.initial, by decide⟩

lemma reach_events (hreach : aggregate.Reach h h') : ∃ since, h'.events = h.events ++ since := by
  refine hreach.invariant (I := fun x => ∃ since, x.events = h.events ++ since) ⟨[], by simp⟩ ?_
  rintro s i _ ⟨since, hsince⟩ hnext
  obtain rfl := Option.some.inj hnext
  exact ⟨since ++ ((s.inventory.input i).2.toOption.getD []), by simp [next, hsince]⟩

/-- A selection of an earlier snapshot is resolved only if its device was left alone. -/
lemma unmentioned (hreach : aggregate.Reach h h') (hc : h.inventory.Consistent h.events)
    {device found : DeviceInfo} (hdevice : device ∈ h.inventory.snapshot.devices)
    (hfound : h'.inventory.resolveDevice (.fromDevice device) = .ok found) :
    ∃ since, h'.events = h.events ++ since ∧ ∀ e ∈ since, e.identity ≠ device.identity := by
  obtain ⟨since, hsince⟩ := reach_events hreach
  have hc' := reach_consistent hreach hc
  refine ⟨since, hsince, fun mention hin hkey => ?_⟩
  obtain ⟨hlookup', hsame⟩ := resolveDevice_ok hfound
  obtain ⟨e, hlast, -, -, hrevision⟩ :=
    hc.recorded.last ((mem_snapshot hc.recorded).1 hdevice)
  obtain ⟨e', hlast', -, -, hrevision'⟩ := hc'.recorded.last hlookup'
  obtain ⟨e'', hin'', hlast''⟩ := last_append_mem h.events hin hkey
  rw [← hsince] at hlast''
  obtain rfl : e' = e'' := Option.some.inj (hlast'.symm.trans hlast'')
  have hnodup : (h'.events.map (·.inventoryRevision.toNat)).Nodup :=
    hc'.recorded.numbered ▸ List.nodup_range'
  rw [hsince, List.map_append] at hnodup
  refine (List.nodup_append.1 hnodup).2.2 _ (List.mem_map_of_mem (last_mem hlast).1) _
    (List.mem_map_of_mem hin'') ?_
  rw [← hrevision, ← hrevision', hsame]
  rfl

end InventoryHistory

/-- In every history of the inventory the events rebuild its snapshot from nothing, are
numbered without a gap and end at its revision; every device carries the revision of the
last event about it, and an earlier selection is resolved only if there was none since; the
snapshot is valid; older and rejected events change nothing; and a newer connection leaves
no device of its backend available, unless no revisions are left to say so. -/
theorem public_inventory_replay {h : InventoryHistory} (hreach : aggregate.Reach {} h) :
    (replayed h.events).toList.map (·.2) = h.inventory.snapshot.devices ∧
    h.events.map (·.inventoryRevision.toNat) =
      List.range' 1 h.inventory.snapshot.inventoryRevision.toNat ∧
    (∀ device ∈ h.inventory.snapshot.devices,
      (last identity device.identity h.events).map (·.inventoryRevision) =
        some device.deviceRevision) ∧
    (∀ h', aggregate.Reach h h' → ∀ device ∈ h.inventory.snapshot.devices, ∀ found,
      h'.inventory.resolveDevice (.fromDevice device) = .ok found →
      ∃ since, h'.events = h.events ++ since ∧ ∀ e ∈ since, e.identity ≠ device.identity) ∧
    h.inventory.snapshot.validate = .ok () ∧
    (∀ backendId (event : BackendSupervisorEvent) generation,
      event.connectionGeneration? = some generation →
      generation < h.inventory.connectionGeneration backendId →
      h.next (.supervisor backendId event) = h) ∧
    (∀ i e, (h.inventory.input i).2 = .error e → h.next i = h) ∧
    ∀ backendId generation event, event = .Connecting generation ∨
        event = .ConnectionFailed generation →
      h.inventory.connectionGeneration backendId < generation →
      (∀ device ∈ (h.next (.supervisor backendId event)).inventory.snapshot.devices,
        device.backendId = backendId → device.availability ≠ .Available) ∨
      (h.inventory.input (.supervisor backendId event)).2 = .error .RevisionExhausted ∧
        2 ^ 64 ≤ h.inventory.inventoryRevision.toNat + MAX_PUBLIC_DEVICES := by
  have hc := consistent hreach
  have hrecorded := hc.recorded
  refine ⟨?_, ?_, fun device hdevice => ?_, fun h' hreach' device hdevice found hfound => ?_,
    hc.validate, fun backendId event generation hgeneration holder => ?_, fun i e hrejected => ?_,
    fun backendId generation event hevent hnewer => ?_⟩
  · refine OrderedMap.values_eq DeviceInfo.identity (fun k device hdevice => ?_)
      (snapshot_sorted hrecorded) fun device => ?_
    · rw [getElem?_replayed, replay_eq_last] at hdevice
      rw [← hrecorded.contents] at hdevice
      obtain ⟨e, -, -, hidentity, -⟩ := hrecorded.last hdevice
      exact hidentity
    · rw [mem_snapshot hrecorded, hrecorded.contents, getElem?_replayed,
        replay_eq_last]
      rfl
  · exact hrecorded.revision.symm ▸ hrecorded.numbered
  · obtain ⟨e, hlast, -, -, hrevision⟩ :=
      hrecorded.last ((mem_snapshot hrecorded).1 hdevice)
    rw [show device.identity = (device.backendId, device.deviceId) from rfl, hlast, hrevision]
    rfl
  · exact unmentioned hreach' hc hdevice hfound
  · simp [next,
      applySupervisorEvent_older hgeneration holder, Except.toOption]
  · have hhandled := Handled.input hc i
    unfold next
    generalize h.inventory.input i = r at hhandled hrejected
    cases hhandled with
    | accepted hnew => cases hrejected
    | rejected e => simp [Except.toOption]
  · have hinput : h.inventory.input (.supervisor backendId event) =
        (h.inventory.advanceConnection backendId generation).map id (·.map (·.events)) := by
      rcases hevent with rfl | rfl <;> rfl
    have hc' := consistent_next hc (.supervisor backendId event)
    rcases hc.advanceConnection hnewer with ⟨inv', new, hadvance, hnone⟩ | ⟨hadvance, hfull⟩
    · refine .inl fun device hdevice hbackend => ?_
      have hnext : (h.next (.supervisor backendId event)).inventory = inv' := by
        simp [next, hinput, hadvance]
      have hlookup := (mem_snapshot hc'.recorded).1 hdevice
      rw [hnext, hbackend] at hlookup
      exact hnone device.deviceId device hlookup
    · exact .inr ⟨by simp [hinput, hadvance, Except.map], hfull⟩

def chromecast (deviceId displayName : String) : BackendProtocol.DeviceInfo :=
  ⟨"chromecast", deviceId, displayName, .Available, []⟩

/-- Two devices are reported, one of them is renamed and the other one goes, and then the
backend is connected anew. -/
def reconnectInputs : List InventoryInput :=
  [.supervisor "chromecast" (.Connecting 1),
   .supervisor "chromecast" (.Connected 1 ⟨1, 1, [chromecast "b" "Den", chromecast "a" "Hall"]⟩),
   .supervisor "chromecast" (.InventoryChanged 1 ⟨1, 2, [chromecast "a" "Loft"]⟩),
   .supervisor "chromecast" (.Connecting 2)]

theorem public_inventory_replay_reconnect : ∃ h, aggregate.Reach {} h ∧
    h.events.map (fun e => (e.inventoryRevision, e.identity.2)) =
      [(1, "a"), (2, "b"), (3, "b"), (4, "a"), (5, "a")] ∧
    h.inventory.snapshot.devices =
      [⟨"chromecast", "a", "Loft", .Unavailable, 1, 1, 5, []⟩] ∧
    (replayed h.events).toList.map (·.2) = h.inventory.snapshot.devices ∧
    h.inventory.snapshot.validate = .ok () := by
  have hrun : (aggregate.run {} reconnectInputs).map (fun h =>
      (h.events.map (fun e => (e.inventoryRevision, e.identity.2)), h.inventory.snapshot.devices)) =
      some ([(1, "a"), (2, "b"), (3, "b"), (4, "a"), (5, "a")],
        [⟨"chromecast", "a", "Loft", .Unavailable, 1, 1, 5, []⟩]) := by
    decide +kernel
  obtain ⟨h, hh, hstate⟩ := Option.map_eq_some_iff.1 hrun
  obtain ⟨hevents, hdevices⟩ := Prod.mk.inj hstate
  obtain ⟨hreplay, -, -, -, hvalid, -⟩ := public_inventory_replay ⟨reconnectInputs, hh⟩
  exact ⟨h, ⟨reconnectInputs, hh⟩, hevents, hdevices, hreplay, hvalid⟩

/-- The devices that the manager gives to a display: the one that was selected, what
`configured_device` makes of it when the display is set up, and what later events of the
inventory make of it. -/
inductive Configured : DeviceInfo → Prop
  | selected {h : InventoryHistory} {selection : DeviceSelection} {device : DeviceInfo}
      (hreach : aggregate.Reach {} h)
      (hselected : h.inventory.resolveDevice selection = .ok device) : Configured device
  | added {h : InventoryHistory} {previous : DeviceInfo} (hreach : aggregate.Reach {} h)
      (hprevious : Configured previous) : Configured (h.inventory.configuredDevice previous)
  | updated {h : InventoryHistory} {current device : DeviceInfo} {event : InventoryEvent}
      (hreach : aggregate.Reach {} h) (hcurrent : Configured current) (hevent : event ∈ h.events)
      (hupdate : configuredDeviceUpdate current event = some device) : Configured device

lemma Configured.wellFormed {device : DeviceInfo} (h : Configured device) :
    WellFormed device ∧ device.deviceRevision ≠ 0 := by
  have hlisted {h : InventoryHistory} {b d : String} {device : DeviceInfo}
      (hreach : aggregate.Reach {} h) (hlookup : h.inventory.lookup b d = some device) :
      WellFormed device ∧ device.deviceRevision ≠ 0 := by
    have hrecorded := (consistent hreach).recorded
    obtain ⟨e, hlast, -, -, hrevision⟩ := hrecorded.last hlookup
    exact ⟨hrecorded.wellFormed hlookup,
      hrevision ▸ (hrecorded.revision_mem (last_mem hlast).1).1⟩
  induction h with
  | selected hreach hselected =>
    exact hlisted hreach (resolveDevice_ok hselected).1
  | added hreach _ ih =>
    unfold configuredDevice
    split
    · next hcurrent => exact hlisted hreach hcurrent
    · refine ⟨ih.1, fun hzero => ih.2 ?_⟩
      rw [← UInt64.toNat_inj, toNat_max] at hzero
      exact UInt64.toNat_inj.1 (Nat.le_zero.1 ((Nat.le_max_right _ _).trans hzero.le))
  | updated hreach _ hevent hupdate ih =>
    have hrecorded := (consistent hreach).recorded
    have hrevision := (hrecorded.revision_mem hevent).1
    have hstamped := hrecorded.stamped _ hevent
    unfold configuredDeviceUpdate at hupdate
    split at hupdate <;> split_ifs at hupdate <;> obtain rfl := Option.some.inj hupdate
    case _ => exact ⟨(hstamped _ rfl).1, (hstamped _ rfl).2.2 ▸ hrevision⟩
    case _ => exact ⟨(hstamped _ rfl).1, (hstamped _ rfl).2.2 ▸ hrevision⟩
    case _ => exact ⟨ih.1, hrevision⟩

/-- A display is only given valid device records. -/
theorem Configured.validate {device : DeviceInfo} (h : Configured device) :
    device.validate = .ok () :=
  h.wellFormed.1 device.deviceRevision h.wellFormed.2

end Pronk.Manager
