import Pronk.Library.Journal
import Pronk.Manager.Inventory

/-!
# Committing a change to the inventory

The devices of a backend are replaced first, and then each difference is numbered and
announced. While this goes on the devices that are still to be announced are ahead of the
events; when it is done every device is what the last event about it says.
-/
namespace Pronk.Manager
open Dbus Std Journal InventoryEvent List

/-- The record is valid once it has a revision. -/
def WellFormed (device : DeviceInfo) : Prop :=
  ∀ revision ≠ 0, { device with deviceRevision := revision }.validate = .ok ()

namespace InventoryEvent

def inventoryRevision : InventoryEvent → UInt64
  | .DeviceAdded revision _ => revision
  | .DeviceChanged revision _ => revision
  | .DeviceRemoved revision _ _ => revision

/-- The device that an event is about. -/
def identity : InventoryEvent → String × String
  | .DeviceAdded _ device => device.identity
  | .DeviceChanged _ device => device.identity
  | .DeviceRemoved _ backendId deviceId => (backendId, deviceId)

/-- The record that an event leaves. -/
def device? : InventoryEvent → Option DeviceInfo
  | .DeviceAdded _ device => some device
  | .DeviceChanged _ device => some device
  | .DeviceRemoved _ _ _ => none

/-- The record of an event is well-formed, is about its device and carries its revision. -/
def Stamped (e : InventoryEvent) : Prop :=
  ∀ device, e.device? = some device → WellFormed device ∧
    device.identity = e.identity ∧ device.deviceRevision = e.inventoryRevision

end InventoryEvent

namespace DeviceChange

def deviceId : DeviceChange → String
  | .Added device => device.deviceId
  | .Changed device => device.deviceId
  | .Removed deviceId => deviceId

/-- The record that a change leaves, before it has a revision. -/
def device? : DeviceChange → Option DeviceInfo
  | .Added device => some device
  | .Changed device => some device
  | .Removed _ => none

end DeviceChange

/-- Every device is filed under its own identity. -/
def Filed (backendId : String) (devices : ExtTreeMap String DeviceInfo) : Prop :=
  ∀ (d : String) (device : DeviceInfo), devices[d]? = some device →
    device.identity = (backendId, d)

lemma Filed.deviceId {backendId d : String} {device : DeviceInfo}
    {devices : ExtTreeMap String DeviceInfo} (h : Filed backendId devices)
    (hdevice : devices[d]? = some device) : device.deviceId = d :=
  congrArg Prod.snd (h d device hdevice)

section Diff

variable {backendId : String} {old new : ExtTreeMap String DeviceInfo}

/-- The change of one device that is there afterwards. -/
def keptChange (old : ExtTreeMap String DeviceInfo) (entry : String × DeviceInfo) :
    Option DeviceChange :=
  match old[entry.1]? with
  | none => some (.Added entry.2)
  | some previous => if previous ≠ entry.2 then some (.Changed entry.2) else none

lemma diffDevices_eq : diffDevices old new =
    (old.keys.filter (· ∉ new)).map .Removed ++ new.toList.filterMap (keptChange old) := rfl

lemma keptChange_eq_some {entry : String × DeviceInfo} {c : DeviceChange}
    (h : keptChange old entry = some c) :
    c.device? = some entry.2 ∧ c.deviceId = entry.2.deviceId := by
  unfold keptChange at h
  split at h
  · obtain rfl := Option.some.inj h
    exact ⟨rfl, rfl⟩
  · split_ifs at h
    obtain rfl := Option.some.inj h
    exact ⟨rfl, rfl⟩

lemma keptChange_eq_none {entry : String × DeviceInfo} :
    keptChange old entry = none ↔ old[entry.1]? = some entry.2 := by
  unfold keptChange
  split
  · next hold => simp [hold]
  · next previous hold => simp [hold]

lemma diffDevices_change (hfiled : Filed backendId new)
    {c : DeviceChange} (hc : c ∈ diffDevices old new) : new[c.deviceId]? = c.device? := by
  rw [diffDevices_eq] at hc
  rcases mem_append.1 hc with hc | hc
  · obtain ⟨d, hd, rfl⟩ := mem_map.1 hc
    have hgone : d ∉ new := by simpa using (mem_filter.1 hd).2
    exact ExtTreeMap.getElem?_eq_none hgone
  · obtain ⟨⟨d, device⟩, hentry, hkept⟩ := mem_filterMap.1 hc
    have hdevice := ExtTreeMap.mem_toList_iff_getElem?_eq_some.1 hentry
    obtain ⟨hc', hid⟩ := keptChange_eq_some hkept
    rw [hid, hc', hfiled.deviceId hdevice, hdevice]

lemma diffDevices_nodup (hfiled : Filed backendId new) :
    ((diffDevices old new).map (·.deviceId)).Nodup := by
  rw [diffDevices_eq, map_append, map_map]
  refine nodup_append.2 ⟨?_, ?_, ?_⟩
  · exact (map_id _).symm ▸ old.nodup_keys.filter _
  · refine pairwise_map.2 (pairwise_filterMap.2 ?_)
    refine new.distinct_keys_toList.imp_of_mem fun {x y} hx hy hne c hc c' hc' heq => hne ?_
    have hx' := hfiled.deviceId (ExtTreeMap.mem_toList_iff_getElem?_eq_some.1 hx)
    have hy' := hfiled.deviceId (ExtTreeMap.mem_toList_iff_getElem?_eq_some.1 hy)
    rw [(keptChange_eq_some hc).2, (keptChange_eq_some hc').2, hx', hy'] at heq
    rw [heq]
    exact ReflCmp.compare_self
  · rintro d hd d' hd' rfl
    have hgone : d ∉ new := by
      obtain ⟨d', hin, rfl⟩ := mem_map.1 hd
      simpa [DeviceChange.deviceId] using (mem_filter.1 hin).2
    obtain ⟨c, hc, rfl⟩ := mem_map.1 hd'
    have hdevice := diffDevices_change hfiled
      (show c ∈ diffDevices old new from mem_append_right _ hc)
    obtain ⟨entry, -, hkept⟩ := mem_filterMap.1 hc
    rw [(keptChange_eq_some hkept).1] at hdevice
    exact hgone (ExtTreeMap.mem_iff_isSome_getElem?.2 (by simp [hdevice]))

lemma diffDevices_same (hfiled : Filed backendId new)
    {d : String} (hd : d ∉ (diffDevices old new).map (·.deviceId)) : old[d]? = new[d]? := by
  rw [diffDevices_eq, map_append, mem_append, not_or] at hd
  cases hnew : new[d]? with
  | none =>
    by_contra hold
    have hin : d ∈ old := by
      rw [ExtTreeMap.mem_iff_isSome_getElem?]
      exact Option.isSome_iff_ne_none.2 hold
    have hgone : d ∉ new := by simp [ExtTreeMap.mem_iff_isSome_getElem?, hnew]
    refine hd.1 (mem_map.2 ⟨.Removed d, mem_map_of_mem ?_, rfl⟩)
    simp [hin, hgone]
  | some device =>
    have hentry := ExtTreeMap.mem_toList_iff_getElem?_eq_some.2 hnew
    suffices hnone : keptChange old (d, device) = none from keptChange_eq_none.1 hnone
    by_contra hkept
    obtain ⟨c, hc⟩ := Option.ne_none_iff_exists'.1 hkept
    refine hd.2 (mem_map.2 ⟨c, mem_filterMap.2 ⟨_, hentry, hc⟩, ?_⟩)
    exact (keptChange_eq_some hc).2.trans (hfiled.deviceId hnew)

end Diff

namespace AggregateInventory

variable {inv : AggregateInventory} {backendId deviceId : String} {events : List InventoryEvent}

lemma backends_update (f : BackendInventory → BackendInventory) (b : String) :
    (inv.update backendId f).backends[b]? =
      if backendId = b then some (f (inv.backends[backendId]?.getD {})) else inv.backends[b]? := by
  simp [update, ExtTreeMap.getElem?_insert]

lemma lookup_update (f : BackendInventory → BackendInventory) (b d : String) :
    (inv.update backendId f).lookup b d =
      if backendId = b then (f (inv.backends[backendId]?.getD {})).devices[d]?
      else inv.lookup b d := by
  unfold lookup
  rw [backends_update]
  split_ifs <;> rfl

lemma getD_devices : (inv.backends[backendId]?.getD {}).devices = inv.devices backendId := by
  unfold devices
  cases inv.backends[backendId]? <;> rfl

lemma lookup_eq_devices (b d : String) : inv.lookup b d = (inv.devices b)[d]? := by
  unfold lookup devices
  cases inv.backends[b]? <;> simp

lemma deviceCount_update (inv : AggregateInventory) (backendId : String)
    (f : BackendInventory → BackendInventory) :
    (inv.update backendId f).deviceCount + (inv.devices backendId).size =
      inv.deviceCount + (f (inv.backends[backendId]?.getD {})).devices.size := by
  have hsum := OrderedMap.sum_insert (t := inv.backends) (k := backendId)
    (a := f (inv.backends[backendId]?.getD {})) (·.devices.size)
  unfold deviceCount update devices
  cases hbackend : inv.backends[backendId]? <;> simpa [hbackend] using hsum

lemma backends_stamp (revision : UInt64) {b : String} (hb : b ≠ backendId) :
    (inv.stamp backendId deviceId revision).backends[b]? = inv.backends[b]? := by
  simp [stamp, ExtTreeMap.getElem?_modify, Ne.symm hb]

lemma lookup_stamp (revision : UInt64) (b d : String) :
    (inv.stamp backendId deviceId revision).lookup b d =
      if backendId = b ∧ deviceId = d then
        (inv.lookup b d).map fun device => { device with deviceRevision := revision }
      else inv.lookup b d := by
  unfold lookup stamp
  by_cases hb : backendId = b
  · subst hb
    cases hbackend : inv.backends[backendId]? with
    | none => simp [hbackend]
    | some backend => by_cases hd : deviceId = d <;>
        simp [hbackend, ExtTreeMap.getElem?_modify, hd]
  · simp [ExtTreeMap.getElem?_modify, hb]

lemma deviceCount_stamp (revision : UInt64) :
    (inv.stamp backendId deviceId revision).deviceCount = inv.deviceCount :=
  OrderedMap.sum_modify _ fun _ => ExtTreeMap.size_modify

/-- The inventory after the events it has emitted: they are numbered from one, and every
device is what the last event about it says. -/
structure Recorded (inv : AggregateInventory) (events : List InventoryEvent) : Prop where
  revision : inv.inventoryRevision.toNat = events.length
  numbered : events.map (·.inventoryRevision.toNat) = range' 1 events.length
  stamped : ∀ e ∈ events, e.Stamped
  contents : ∀ b d, inv.lookup b d =
    (last identity (b, d) events).bind (·.device?)

/-- The same while changes of one backend are still to be announced. -/
structure Pending (backendId : String) (inv : AggregateInventory) (events : List InventoryEvent)
    (changes : List DeviceChange) : Prop where
  revision : inv.inventoryRevision.toNat = events.length
  capacity : events.length + changes.length < 2 ^ 64
  numbered : events.map (·.inventoryRevision.toNat) = range' 1 events.length
  stamped : ∀ e ∈ events, e.Stamped
  settled : ∀ b d, (b = backendId → d ∉ changes.map (·.deviceId)) → inv.lookup b d =
    (last identity (b, d) events).bind (·.device?)
  pending : ∀ c ∈ changes, inv.lookup backendId c.deviceId = c.device?
  named : ∀ c ∈ changes, ∀ device, c.device? = some device →
    device.backendId = backendId ∧ WellFormed device
  nodup : (changes.map (·.deviceId)).Nodup

section Turn

variable {change : DeviceChange}

lemma revisionEvent_inventoryRevision :
    (inv.revisionEvent backendId change).1.inventoryRevision = inv.inventoryRevision + 1 := by
  cases change <;> rfl

lemma revisionEvent_event_revision :
    (inv.revisionEvent backendId change).2.inventoryRevision = inv.inventoryRevision + 1 := by
  cases change <;> rfl

lemma revisionEvent_identity (inv : AggregateInventory)
    (hnamed : ∀ device, change.device? = some device → device.backendId = backendId) :
    (inv.revisionEvent backendId change).2.identity = (backendId, change.deviceId) := by
  cases change with
  | Added device => exact Prod.ext (hnamed device rfl) rfl
  | Changed device => exact Prod.ext (hnamed device rfl) rfl
  | Removed deviceId => rfl

lemma revisionEvent_stamped
    (hwell : ∀ device, change.device? = some device → WellFormed device) :
    (inv.revisionEvent backendId change).2.Stamped := by
  cases change with
  | Removed deviceId => exact nofun
  | _ new =>
    rintro _ ⟨⟩
    exact ⟨hwell new rfl, rfl, rfl⟩

lemma lookup_revisionEvent (hpending : inv.lookup backendId change.deviceId = change.device?)
    (b d : String) : (inv.revisionEvent backendId change).1.lookup b d =
      if backendId = b ∧ change.deviceId = d then (inv.revisionEvent backendId change).2.device?
      else inv.lookup b d := by
  have hstamp (device : DeviceInfo) (hdevice : inv.lookup backendId device.deviceId = some device)
      (revision : UInt64) :
      (stamp { inv with inventoryRevision := revision } backendId device.deviceId
        revision).lookup b d = if backendId = b ∧ device.deviceId = d then
          some { device with deviceRevision := revision } else inv.lookup b d := by
    rw [lookup_stamp]
    split_ifs with hkey
    · obtain ⟨rfl, rfl⟩ := hkey
      exact congrArg _ hdevice
    · rfl
  cases change with
  | Added device => exact hstamp device hpending _
  | Changed device => exact hstamp device hpending _
  | Removed deviceId =>
    split_ifs with hkey
    · obtain ⟨rfl, rfl⟩ := hkey
      exact hpending
    · rfl

lemma backends_revisionEvent {b : String} (hb : b ≠ backendId) :
    (inv.revisionEvent backendId change).1.backends[b]? = inv.backends[b]? := by
  cases change with
  | Removed deviceId => rfl
  | _ => exact backends_stamp _ hb

lemma deviceCount_revisionEvent :
    (inv.revisionEvent backendId change).1.deviceCount = inv.deviceCount := by
  cases change with
  | Removed deviceId => rfl
  | _ => exact deviceCount_stamp _

end Turn

namespace Pending

variable {change : DeviceChange} {changes : List DeviceChange}

lemma turn (h : Pending backendId inv events (change :: changes)) :
    Pending backendId (inv.revisionEvent backendId change).1
      (events ++ [(inv.revisionEvent backendId change).2]) changes := by
  have hpending := h.pending change (by simp)
  have hnamed := h.named change (by simp)
  have hidentity := revisionEvent_identity inv fun device hdevice => (hnamed device hdevice).1
  have hcapacity := h.capacity
  have hrevision : (inv.inventoryRevision + 1).toNat = events.length + 1 := by
    have hone : (1 : UInt64).toNat = 1 := rfl
    rw [UInt64.toNat_add, h.revision, hone, Nat.mod_eq_of_lt]
    simp only [length_cons] at hcapacity
    omega
  obtain ⟨hnew, hnodup⟩ := nodup_cons.1 h.nodup
  refine ⟨?_, ?_, ?_, ?_, fun b d hd => ?_, fun c hc => ?_, fun c hc => h.named c (by simp [hc]),
    hnodup⟩
  · rw [revisionEvent_inventoryRevision, hrevision, length_append, length_singleton]
  · simp only [length_append, length_cons, length_nil] at hcapacity ⊢
    omega
  · rw [map_append, h.numbered, length_append, length_singleton,
      range'_concat, map_singleton, revisionEvent_event_revision, hrevision,
      Nat.one_mul, Nat.add_comm]
  · intro e he
    rcases mem_append.1 he with he | he
    · exact h.stamped e he
    · exact mem_singleton.1 he ▸ revisionEvent_stamped fun device hdevice =>
        (hnamed device hdevice).2
  · rw [lookup_revisionEvent hpending, last_concat, hidentity]
    by_cases hkey : backendId = b ∧ change.deviceId = d
    · obtain ⟨rfl, rfl⟩ := hkey
      simp
    · rw [if_neg hkey, if_neg fun heq => hkey (Prod.mk.inj heq)]
      refine h.settled b d fun hb hin => ?_
      rcases mem_cons.1 hin with rfl | hin
      · exact hkey ⟨hb.symm, rfl⟩
      · exact hd hb hin
  · have hne : change.deviceId ≠ c.deviceId := fun heq =>
      hnew (mem_map.2 ⟨c, hc, heq.symm⟩)
    rw [lookup_revisionEvent hpending, if_neg fun hkey => hne hkey.2]
    exact h.pending c (by simp [hc])

/-- When every change has been announced the events say it all. -/
theorem revisionEvents (h : Pending backendId inv events changes) :
    (inv.revisionEvents backendId changes).1.Recorded
      (events ++ (inv.revisionEvents backendId changes).2) := by
  induction changes generalizing inv events with
  | nil =>
    rw [AggregateInventory.revisionEvents, append_nil]
    exact ⟨h.revision, h.numbered, h.stamped, fun b d => h.settled b d (by simp)⟩
  | cons change rest ih =>
    have hrest := ih h.turn
    rwa [append_assoc] at hrest

end Pending

lemma revisionEvents_deviceCount (changes : List DeviceChange) :
    (inv.revisionEvents backendId changes).1.deviceCount = inv.deviceCount := by
  induction changes generalizing inv with
  | nil => rfl
  | cons change rest ih => exact ih.trans deviceCount_revisionEvent

lemma revisionEvents_backends (changes : List DeviceChange) {b : String} (hb : b ≠ backendId) :
    (inv.revisionEvents backendId changes).1.backends[b]? = inv.backends[b]? := by
  induction changes generalizing inv with
  | nil => rfl
  | cons change rest ih => exact ih.trans (backends_revisionEvent hb)

/-- Revisions say nothing about whether a device is available. -/
lemma revisionEvents_availability (inv : AggregateInventory) (backendId : String)
    (changes : List DeviceChange) (b d : String) :
    ((inv.revisionEvents backendId changes).1.lookup b d).map (·.availability) =
      (inv.lookup b d).map (·.availability) := by
  have hstamp (inv : AggregateInventory) (deviceId : String) (revision : UInt64) :
      ((inv.stamp backendId deviceId revision).lookup b d).map (·.availability) =
        (inv.lookup b d).map (·.availability) := by
    rw [lookup_stamp]
    split_ifs
    · rw [Option.map_map]
      rfl
    · rfl
  induction changes generalizing inv with
  | nil => rfl
  | cons change rest ih =>
    refine (ih _).trans ?_
    cases change with
    | Removed deviceId => rfl
    | _ => exact hstamp _ _ _

namespace Recorded

lemma initial : Recorded {} [] where
  revision := rfl
  numbered := rfl
  stamped := nofun
  contents b d := by simp [lookup, last]

/-- A device is what its last event says. -/
lemma last (h : inv.Recorded events) {b d : String} {device : DeviceInfo}
    (hdevice : inv.lookup b d = some device) : ∃ e,
      last identity (b, d) events = some e ∧ e.device? = some device ∧
      device.identity = (b, d) ∧ device.deviceRevision = e.inventoryRevision := by
  rw [h.contents] at hdevice
  obtain ⟨e, hlast, he⟩ := Option.bind_eq_some_iff.1 hdevice
  obtain ⟨hin, hkey⟩ := last_mem hlast
  obtain ⟨-, hidentity, hrevision⟩ := h.stamped e hin device he
  exact ⟨e, hlast, he, hidentity.trans hkey, hrevision⟩

lemma wellFormed (h : inv.Recorded events) {b d : String} {device : DeviceInfo}
    (hdevice : inv.lookup b d = some device) : WellFormed device := by
  obtain ⟨e, hlast, he, -⟩ := h.last hdevice
  exact (h.stamped e (last_mem hlast).1 device he).1

lemma filed (h : inv.Recorded events) (b : String) : Filed b (inv.devices b) := by
  intro d device hdevice
  rw [← lookup_eq_devices] at hdevice
  obtain ⟨e, -, -, hidentity, -⟩ := h.last hdevice
  exact hidentity

lemma congr {inv' : AggregateInventory} (h : inv.Recorded events)
    (hrevision : inv'.inventoryRevision = inv.inventoryRevision)
    (hlookup : ∀ b d, inv'.lookup b d = inv.lookup b d) : inv'.Recorded events where
  revision := hrevision ▸ h.revision
  numbered := h.numbered
  stamped := h.stamped
  contents b d := (hlookup b d).trans (h.contents b d)

/-- The devices of a backend are replaced and the differences are announced. -/
theorem commit {new : ExtTreeMap String DeviceInfo} {f : BackendInventory → BackendInventory}
    (h : inv.Recorded events) (hf : (f (inv.backends[backendId]?.getD {})).devices = new)
    (hfiled : Filed backendId new)
    (hwell : ∀ (d : String) (device : DeviceInfo), new[d]? = some device → WellFormed device)
    (hcapacity : inv.hasRevisionCapacity (diffDevices (inv.devices backendId) new).length) :
    ((inv.update backendId f).revisionEvents backendId
      (diffDevices (inv.devices backendId) new)).1.Recorded
      (events ++ ((inv.update backendId f).revisionEvents backendId
        (diffDevices (inv.devices backendId) new)).2) := by
  have hlookup (b d : String) : (inv.update backendId f).lookup b d =
      if backendId = b then new[d]? else inv.lookup b d := by
    rw [lookup_update, hf]
  refine Pending.revisionEvents ⟨h.revision, ?_, h.numbered, h.stamped, fun b d hd => ?_,
    fun c hc => ?_, fun c hc device hdevice => ?_, diffDevices_nodup hfiled⟩
  · rw [← h.revision]
    simpa [hasRevisionCapacity] using hcapacity
  · rw [← h.contents, hlookup]
    split_ifs with hb
    · subst hb
      rw [← diffDevices_same hfiled (hd rfl), lookup_eq_devices]
    · rfl
  · rw [hlookup, if_pos rfl, diffDevices_change hfiled hc]
  · have hin := (diffDevices_change hfiled hc).trans hdevice
    exact ⟨congrArg Prod.fst (hfiled _ _ hin), hwell _ device hin⟩

end Recorded

end AggregateInventory

end Pronk.Manager
