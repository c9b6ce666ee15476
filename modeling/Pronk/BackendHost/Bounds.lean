import Mathlib.Data.List.Induction
import Pronk.BackendHost.Discovery

/-!
# The size of an inventory

A snapshot with too many devices is refused. The events that follow are checked one by one,
and none of these checks is about the number of devices that are already there.
-/
namespace Pronk.BackendHost
open BackendProtocol Std DeviceInventory List

namespace DeviceInventory

variable {inv : DeviceInventory} {event : DeviceEvent}

/-- The inventory as a snapshot of the protocol. -/
def contents (inv : DeviceInventory) : DeviceSnapshot where
  discoveryGeneration := inv.discoveryGeneration
  revision := inv.revision
  devices := inv.devices.toList.map (·.2)

def applyAll (inv : DeviceInventory) (events : List DeviceEvent) : DeviceInventory :=
  events.foldl (fun inv event => (inv.apply event).1) inv

@[simp] lemma applyAll_concat (events : List DeviceEvent) :
    inv.applyAll (events ++ [event]) = ((inv.applyAll events).apply event).1 := by
  simp [applyAll]

/-- A device that is reported as a new one, in the next event of the generation and as the
backend must report it, finds a free place. -/
def Roomy (inv : DeviceInventory) : DeviceEvent → Prop
  | .Added generation revision device =>
    validateEvent inv.expectedBackendId (.Added generation revision device) = .ok () →
      generation = inv.discoveryGeneration → revision.toNat = inv.revision.toNat + 1 →
      device.identity ∉ inv.devices → inv.devices.size < MAX_DEVICES
  | _ => True

/-- Everything that a valid snapshot of the backend needs, except for the number of devices. -/
structure WellKept (backendId : String) (inv : DeviceInventory) : Prop where
  backend : inv.expectedBackendId = backendId
  generation : inv.discoveryGeneration ≠ 0
  baseline : inv.baselineRevision ≤ inv.revision
  devices : ∀ (key : String × String) (device : DeviceInfo), inv.devices[key]? = some device →
    device.identity = key ∧ device.validate = .ok () ∧ device.backendId = backendId

namespace WellKept

variable {backendId : String}

lemma of_mem_contents (h : inv.WellKept backendId) {device : DeviceInfo}
    (hin : device ∈ inv.contents.devices) :
    device.validate = .ok () ∧ device.backendId = backendId := by
  obtain ⟨⟨key, device⟩, hentry, rfl⟩ := mem_map.1 hin
  exact (h.devices key device (ExtTreeMap.mem_toList_iff_getElem?_eq_some.1 hentry)).2

lemma nodup_identities (h : inv.WellKept backendId) :
    (inv.contents.devices.map (·.identity)).Nodup :=
  OrderedMap.nodup_map_key (fun key device hin => (h.devices key device hin).1) (Perm.refl _)

lemma validate_contents (h : inv.WellKept backendId) :
    inv.contents.validate = .ok () ↔ inv.devices.size ≤ MAX_DEVICES := by
  have hlength : inv.contents.devices.length = inv.devices.size := by
    simp [contents]
  rw [DeviceSnapshot.validate_eq_ok, hlength]
  constructor
  · rintro ⟨-, hcount, -⟩
    exact hcount
  · intro hcount
    exact ⟨h.generation, hcount, fun _ hin => (h.of_mem_contents hin).1, h.nodup_identities⟩

end WellKept

/-- An event is either without effect, or it has passed every check. -/
theorem apply_cases (inv : DeviceInventory) (event : DeviceEvent) :
    ((inv.apply event).1 = inv ∧ (inv.apply event).2 ≠ .ok .Changed) ∨
      ∃ devices, validateEvent inv.expectedBackendId event = .ok () ∧
        event.discoveryGeneration = inv.discoveryGeneration ∧
        event.revision.toNat = inv.revision.toNat + 1 ∧
        applyDevices inv.devices event = .ok devices ∧
        inv.apply event = ({ inv with
          devices, revision := event.revision, lastApplied := some event }, .ok .Changed) := by
  by_cases hown : validateEvent inv.expectedBackendId event = .ok () ∧
      event.discoveryGeneration = inv.discoveryGeneration
  · obtain ⟨hvalid, hgeneration⟩ := hown
    generalize hresult : inv.apply event = result
    cases hresult ▸ applied_apply hvalid hgeneration with
    | changed hdevices hnext => exact .inr ⟨_, hvalid, hgeneration, hnext, hdevices, rfl⟩
    | ignored hignored => exact .inl ⟨rfl, fun h => hignored (Except.ok.inj h)⟩
    | rejected e => exact .inl ⟨rfl, nofun⟩
  · unfold apply
    split
    · exact .inl ⟨rfl, nofun⟩
    next hvalid =>
      rw [if_pos fun h => hown ⟨hvalid, h⟩]
      exact .inl ⟨rfl, nofun⟩

/-- The next event is accepted, if it fits the devices. -/
theorem apply_next {devices : Devices}
    (hvalid : validateEvent inv.expectedBackendId event = .ok ())
    (hgeneration : event.discoveryGeneration = inv.discoveryGeneration)
    (hbaseline : inv.baselineRevision ≤ inv.revision)
    (hnext : event.revision.toNat = inv.revision.toNat + 1)
    (hdevices : applyDevices inv.devices event = .ok devices) :
    inv.apply event = ({ inv with
      devices, revision := event.revision, lastApplied := some event }, .ok .Changed) := by
  have hle := UInt64.le_iff_toNat_le.1 hbaseline
  have hrange := event.revision.toNat_lt
  have hnew : ¬ (event.revision ≤ inv.baselineRevision ∨ event.revision < inv.revision) := by
    rw [UInt64.le_iff_toNat_le, UInt64.lt_iff_toNat_lt]
    omega
  have hne : event.revision ≠ inv.revision := fun heq => by
    rw [heq] at hnext
    omega
  have hsucc : event.revision = inv.revision + 1 := by
    apply UInt64.toNat_inj.1
    rw [UInt64.toNat_add, hnext]
    exact (Nat.mod_eq_of_lt (by omega)).symm
  have hroom : ¬ inv.revision.toNat + 1 ≥ 2 ^ 64 := by omega
  unfold apply
  simp only [hvalid, hgeneration, ne_eq, not_true, if_false, if_neg hnew, if_neg hne,
    if_neg hroom, hdevices]
  simp only [← hsucc, not_true, if_false]

namespace WellKept

variable {backendId : String}

lemma apply (h : inv.WellKept backendId) (event : DeviceEvent) :
    (inv.apply event).1.WellKept backendId := by
  rcases apply_cases inv event with ⟨hsame, -⟩ | ⟨devices, hvalid, -, hnext, hdevices, happly⟩
  · rw [hsame]
    exact h
  · rw [happly, applyDevices_effect hdevices]
    have hbaseline : inv.baselineRevision ≤ event.revision := by
      have hle := UInt64.le_iff_toNat_le.1 h.baseline
      exact UInt64.le_iff_toNat_le.2 (by omega)
    refine ⟨h.backend, h.generation, hbaseline, ?_⟩
    exact DeviceEvent.effect_forall h.devices fun device hdevice =>
      ⟨rfl, h.backend ▸ validateEvent_device hvalid hdevice⟩

lemma applyAll (h : inv.WellKept backendId) (events : List DeviceEvent) :
    (inv.applyAll events).WellKept backendId := by
  induction events using reverseRecOn with
  | nil => exact h
  | append_singleton events event ih =>
    rw [applyAll_concat]
    exact ih.apply event

/-- A step keeps the bound exactly if it has room. -/
theorem size_apply_le (h : inv.WellKept backendId) (hsize : inv.devices.size ≤ MAX_DEVICES) :
    (inv.apply event).1.devices.size ≤ MAX_DEVICES ↔ inv.Roomy event := by
  rcases apply_cases inv event with ⟨hsame, hunchanged⟩ |
    ⟨devices, hvalid, hgeneration, hnext, hdevices, happly⟩
  · rw [hsame]
    refine iff_of_true hsize ?_
    cases event with
    | Added generation revision device =>
      intro hvalid hgeneration hnext hnew
      exact absurd (congrArg Prod.snd
        (apply_next hvalid hgeneration h.baseline hnext (if_neg hnew))) hunchanged
    | _ => trivial
  · rw [happly]
    cases event <;> simp only [applyDevices] at hdevices <;> split_ifs at hdevices with hin <;>
      cases hdevices
    · simp_all [Roomy, ExtTreeMap.size_insert, DeviceEvent.discoveryGeneration,
        DeviceEvent.revision, Nat.succ_le_iff]
    · simpa [Roomy, ExtTreeMap.size_insert, hin] using hsize
    · exact iff_of_true (Nat.le_trans ExtTreeMap.size_erase_le hsize) trivial

end WellKept

lemma fromSnapshot_bounded {expectedBackendId : String} {snapshot : DeviceSnapshot}
    (h : fromSnapshot expectedBackendId snapshot = .ok inv) :
    inv.WellKept expectedBackendId ∧ inv.devices.size ≤ MAX_DEVICES := by
  obtain ⟨_, hvalidate, h⟩ := Fallible.bind_eq_ok.1 h
  obtain ⟨devices, hdevices, h⟩ := Fallible.bind_eq_ok.1 h
  cases h
  have hsnapshot : snapshot.validate = .ok () := by
    cases hresult : snapshot.validate with
    | ok => rfl
    | error e => rw [hresult] at hvalidate; cases hvalidate
  obtain ⟨hgeneration, hcount, hvalid, -⟩ := DeviceSnapshot.validate_eq_ok.1 hsnapshot
  have hbackend := insertDevices_backend hdevices
  rw [insertDevices_eq hdevices]
  refine ⟨⟨rfl, hgeneration, UInt64.le_refl _, fun key device hdevice => ?_⟩, ?_⟩
  · exact OrderedMap.of_getElem?_insertValues (P := fun key device => device.identity = key ∧
      device.validate = .ok () ∧ device.backendId = expectedBackendId) (by simp)
      (fun device hin => ⟨rfl, hvalid device hin, hbackend device hin⟩) hdevice
  · have hsize := OrderedMap.size_insertValues_le DeviceInfo.identity
      (∅ : ExtTreeMap _ _ Dbus.compareIdentity) snapshot.devices
    simp only [ExtTreeMap.size_empty, Nat.zero_add] at hsize
    exact Nat.le_trans hsize hcount

/-- The contents of an inventory pass the validation of a snapshot along a run exactly if every
new device of the run finds a free place. -/
theorem inventory_bounded_with_room {expectedBackendId : String} {snapshot : DeviceSnapshot}
    (h : fromSnapshot expectedBackendId snapshot = .ok inv) (events : List DeviceEvent) :
    (∀ seen, seen <+: events → (inv.applyAll seen).contents.validate = .ok () ∧
      (inv.applyAll seen).devices.size ≤ MAX_DEVICES) ↔
    ∀ seen event, seen ++ [event] <+: events → (inv.applyAll seen).Roomy event := by
  obtain ⟨hkept, hsize⟩ := fromSnapshot_bounded h
  constructor
  · intro hvalid seen event hseen
    have hbefore := (hvalid seen ((prefix_append _ _).trans hseen)).2
    have hafter := (hvalid _ hseen).2
    rw [applyAll_concat] at hafter
    exact ((hkept.applyAll seen).size_apply_le hbefore).1 hafter
  · intro hroomy seen hseen
    have hbound : (inv.applyAll seen).devices.size ≤ MAX_DEVICES := by
      induction seen using reverseRecOn with
      | nil => exact hsize
      | append_singleton seen event ih =>
        rw [applyAll_concat]
        exact ((hkept.applyAll seen).size_apply_le
          (ih ((prefix_append _ _).trans hseen))).2 (hroomy seen event hseen)
    exact ⟨(hkept.applyAll seen).validate_contents.2 hbound, hbound⟩

end DeviceInventory

/-- A device for every number that is small enough for a character. -/
def television (n : ℕ) : DeviceInfo :=
  ⟨"cast", String.singleton (Char.ofNat (256 + n)), "TV", .Available, []⟩

def televisions (n : ℕ) : List DeviceEvent :=
  (range n).map fun k => .Added 1 (UInt64.ofNat (k + 1)) (television k)

def noDevices : DeviceInventory := ⟨"cast", 1, 0, 0, ∅, none⟩

lemma fromSnapshot_noDevices :
    fromSnapshot "cast" ⟨1, 0, []⟩ = .ok noDevices := by
  rfl

/-- A backend that reports one device more than a snapshot may hold. -/
theorem inventory_overfull :
    fromSnapshot "cast" ⟨1, 0, []⟩ = .ok noDevices ∧
      (noDevices.applyAll (televisions 129)).devices.size = 129 ∧
      (noDevices.applyAll (televisions 129)).contents.validate ≠ .ok () := by
  have hkept :=
    (fromSnapshot_bounded fromSnapshot_noDevices).1.applyAll (televisions 129)
  have hsize : (noDevices.applyAll (televisions 129)).devices.size = 129 := by decide +kernel
  refine ⟨fromSnapshot_noDevices, hsize, fun hvalid => ?_⟩
  have hle := hkept.validate_contents.1 hvalid
  rw [hsize] at hle
  exact absurd hle (by decide)

/-- A backend that reports eight devices. -/
theorem inventory_bounded_with_room_eight :
    (noDevices.applyAll (televisions 8)).devices.size = 8 ∧
      (noDevices.applyAll (televisions 8)).contents.validate = .ok () := by
  have hsizes : ∀ n ≤ 8, (noDevices.applyAll (televisions n)).devices.size = n := by
    decide +kernel
  refine ⟨hsizes 8 (by decide), ((inventory_bounded_with_room
    fromSnapshot_noDevices (televisions 8)).2 ?_ (televisions 8) (prefix_refl _)).1⟩
  intro seen event hseen
  have hlength : seen.length < 8 := by
    have hle := hseen.length_le
    rwa [televisions, length_map, length_range, length_append, length_singleton] at hle
  have hseen' : seen = televisions seen.length := by
    have htake := prefix_iff_eq_take.1 ((prefix_append seen [event]).trans hseen)
    simpa [televisions, ← map_take, take_range, Nat.min_eq_left hlength.le] using htake
  have hsize := hsizes seen.length hlength.le
  rw [← hseen'] at hsize
  cases event with
  | Added => exact fun _ _ _ _ => by rw [hsize, MAX_DEVICES]; omega
  | _ => trivial

end Pronk.BackendHost
