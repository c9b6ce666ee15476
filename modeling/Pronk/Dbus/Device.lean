import Pronk.Library.Fallible
import Pronk.Machine
import Pronk.Text

/-!
# Device records of the public interface

A selection names a device of an inventory snapshot with the generations and the
revision it was read at. All texts are bounded and free of control characters.
-/
namespace Pronk.Dbus

def MAX_BACKEND_ID_BYTES : ℕ := 64
def MAX_DEVICE_TEXT_BYTES : ℕ := 256
def MAX_PUBLIC_DEVICES : ℕ := 128
def MAX_METADATA_ENTRIES : ℕ := 16
def MAX_METADATA_KEY_BYTES : ℕ := 64
def MAX_METADATA_VALUE_BYTES : ℕ := 256

/-- Why a public record is invalid. -/
inductive ValidationError where
  | Empty (field : String)
  | TooLong (field : String) (actual limit : ℕ)
  | ControlCharacter (field : String)
  | InvalidBackendId
  | Zero (field : String)
  | TooMany (field : String) (actual limit : ℕ)
  | DuplicateMetadataKey (key : String)
  | DuplicateDevice (backendId deviceId : String)
  | FutureDeviceRevision (backendId deviceId : String) (deviceRevision inventoryRevision : UInt64)
  | UnorderedDevices
  | FutureDisplayDeviceRevision (deviceRevision stateRevision : UInt64)
  | InvalidDisplayRoute
  | InvalidDisplayMode
  | InvalidMediaGeneration
  | InvalidMediaError
  deriving DecidableEq

def validateText (field value : String) (limit : ℕ) : Except ValidationError Unit :=
  if value = "" then .error (.Empty field)
  else if value.utf8ByteSize > limit then .error (.TooLong field value.utf8ByteSize limit)
  else if value.toList.any isControl then .error (.ControlCharacter field)
  else .ok ()

/-- Every byte of another character is outside the accepted ranges too. -/
def validateBackendId (value : String) : Except ValidationError Unit := do
  validateText "backend ID" value MAX_BACKEND_ID_BYTES
  if value.toList.all fun c => c.isLower || c.isDigit || c = '-' then pure ()
  else .error .InvalidBackendId

def validateNonzero (field : String) (value : UInt64) : Except ValidationError Unit :=
  if value = 0 then .error (.Zero field) else .ok ()

inductive DeviceAvailability where
  | Available
  | Busy
  | Unavailable
  deriving DecidableEq

structure DiscoveryMetadataEntry where
  (key value : String)
  deriving DecidableEq

/-- A device as clients see it. -/
structure DeviceInfo where
  (backendId deviceId displayName : String)
  availability : DeviceAvailability
  (connectionGeneration discoveryGeneration deviceRevision : UInt64)
  metadata : List DiscoveryMetadataEntry
  deriving DecidableEq

/-- The entries of a device, with the keys of those before. -/
def validateMetadata : List String → List DiscoveryMetadataEntry → Except ValidationError Unit
  | _, [] => pure ()
  | keys, entry :: rest => do
    validateText "metadata key" entry.key MAX_METADATA_KEY_BYTES
    validateText "metadata value" entry.value MAX_METADATA_VALUE_BYTES
    if entry.key ∈ keys then throw (.DuplicateMetadataKey entry.key)
    validateMetadata (entry.key :: keys) rest

def DeviceInfo.validate (device : DeviceInfo) : Except ValidationError Unit := do
  validateBackendId device.backendId
  validateText "device ID" device.deviceId MAX_DEVICE_TEXT_BYTES
  validateText "device display name" device.displayName MAX_DEVICE_TEXT_BYTES
  validateNonzero "connection" device.connectionGeneration
  validateNonzero "discovery" device.discoveryGeneration
  validateNonzero "device revision" device.deviceRevision
  if device.metadata.length > MAX_METADATA_ENTRIES then
    throw (.TooMany "discovery metadata" device.metadata.length MAX_METADATA_ENTRIES)
  validateMetadata [] device.metadata

/-- A device as a client names it. -/
structure DeviceSelection where
  (backendId deviceId : String)
  (connectionGeneration discoveryGeneration deviceRevision : UInt64)
  deriving DecidableEq

def DeviceSelection.validate (selection : DeviceSelection) : Except ValidationError Unit := do
  validateBackendId selection.backendId
  validateText "device ID" selection.deviceId MAX_DEVICE_TEXT_BYTES
  validateNonzero "connection" selection.connectionGeneration
  validateNonzero "discovery" selection.discoveryGeneration
  validateNonzero "device revision" selection.deviceRevision

def DeviceSelection.fromDevice (device : DeviceInfo) : DeviceSelection where
  backendId := device.backendId
  deviceId := device.deviceId
  connectionGeneration := device.connectionGeneration
  discoveryGeneration := device.discoveryGeneration
  deviceRevision := device.deviceRevision

def DeviceInfo.identity (device : DeviceInfo) : String × String :=
  (device.backendId, device.deviceId)

/-- Pairs of texts compare lexicographically. -/
def compareIdentity (a b : String × String) : Ordering :=
  (compare a.1 b.1).then (compare a.2 b.2)

instance : Std.TransCmp compareIdentity :=
  inferInstanceAs (Std.TransCmp (lexOrd : Ord (String × String)).compare)

instance : Std.LawfulEqCmp compareIdentity :=
  inferInstanceAs (Std.LawfulEqCmp (lexOrd : Ord (String × String)).compare)

/-- All devices at one revision. -/
structure DeviceSnapshot where
  inventoryRevision : UInt64
  devices : List DeviceInfo

/-- The devices of a snapshot, with the identities of those before and the last of them. -/
def validateDevices (inventoryRevision : UInt64) :
    List (String × String) → Option (String × String) → List DeviceInfo →
      Except ValidationError Unit
  | _, _, [] => pure ()
  | identities, previousIdentity, device :: rest => do
    device.validate
    if device.identity ∈ identities then
      throw (.DuplicateDevice device.backendId device.deviceId)
    if device.deviceRevision > inventoryRevision then
      throw (.FutureDeviceRevision device.backendId device.deviceId device.deviceRevision
        inventoryRevision)
    if previousIdentity.any fun previous => compareIdentity previous device.identity ≠ .lt then
      throw .UnorderedDevices
    validateDevices inventoryRevision (device.identity :: identities) (some device.identity) rest

def DeviceSnapshot.validate (snapshot : DeviceSnapshot) : Except ValidationError Unit := do
  if snapshot.devices.length > MAX_PUBLIC_DEVICES then
    throw (.TooMany "devices" snapshot.devices.length MAX_PUBLIC_DEVICES)
  validateDevices snapshot.inventoryRevision [] none snapshot.devices

lemma validateDevices_ok {inventoryRevision : UInt64} {devices : List DeviceInfo}
    {identities : List (String × String)} {previousIdentity : Option (String × String)}
    (hvalid : ∀ device ∈ devices, device.validate = .ok () ∧
      device.deviceRevision ≤ inventoryRevision)
    (hsorted : devices.Pairwise fun a b => compareIdentity a.identity b.identity = .lt)
    (hseen : ∀ k ∈ identities, ∀ device ∈ devices, compareIdentity k device.identity = .lt)
    (hprevious : ∀ k ∈ previousIdentity, k ∈ identities) :
    validateDevices inventoryRevision identities previousIdentity devices = .ok () := by
  induction devices generalizing identities previousIdentity with
  | nil => rfl
  | cons device rest ih =>
    obtain ⟨hhead, htail⟩ := List.pairwise_cons.1 hsorted
    obtain ⟨hdevice, hrevision⟩ := hvalid device (by simp)
    have hnew : device.identity ∉ identities := fun hin => by
      simpa [Std.ReflCmp.compare_self] using hseen _ hin device (by simp)
    have hordered : ¬ previousIdentity.any (fun previous =>
        compareIdentity previous device.identity ≠ .lt) := by
      cases previousIdentity with
      | none => simp
      | some previous => simpa using hseen previous (hprevious previous rfl) device (by simp)
    have hrest : validateDevices inventoryRevision (device.identity :: identities)
        (some device.identity) rest = .ok () := by
      refine ih (fun d hd => hvalid d (by simp [hd])) htail (fun k hk d hd => ?_) (by simp)
      rcases List.mem_cons.1 hk with rfl | hk
      · exact hhead d hd
      · exact hseen k hk d (by simp [hd])
    unfold validateDevices
    simp only [hdevice, Fallible.ok_bind, hnew, if_false, if_neg (UInt64.not_lt.2 hrevision),
      if_neg hordered, hrest]

end Pronk.Dbus
