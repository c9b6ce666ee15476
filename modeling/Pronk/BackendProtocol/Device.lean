import Pronk.Dbus.Device

/-!
# Device records of the backend protocol

What a backend reports about its devices. The limits are those of the public interface,
and a metadata key is in addition a token.
-/
namespace Pronk.BackendProtocol

def MAX_BACKEND_ID_BYTES : ℕ := 64
def MAX_DEVICE_TEXT_BYTES : ℕ := 256
def MAX_DISCOVERY_METADATA_ENTRIES : ℕ := 16
def MAX_DISCOVERY_METADATA_KEY_BYTES : ℕ := 64
def MAX_DISCOVERY_METADATA_VALUE_BYTES : ℕ := 256
def MAX_DEVICES : ℕ := 128
def MAX_ERROR_TEXT_BYTES : ℕ := 512

/-- The errors that a record of a device or of its session can meet. -/
inductive ValidationError where
  | Empty (field : String)
  | TooLong (field : String) (actual limit : ℕ)
  | ControlCharacter (field : String)
  | InvalidToken (field : String)
  | ZeroGeneration (field : String)
  | TooMany (field : String) (actual limit : ℕ)
  | InvalidBackendId
  | DuplicateMetadataKey (key : String)
  | DuplicateDevice (backendId deviceId : String)
  | UnknownCapabilities (bits : UInt64)
  | OutOfRange (field : String) (actual minimum maximum : UInt64)
  | UnexpectedIdentityValue (field : String)
  | MissingIdentityValue (field : String)
  | InvalidPnpId
  | DuplicateIdentifier (field value : String)
  | InvalidMediaLayout (reason : String)
  deriving DecidableEq

def validateText (field value : String) (limit : ℕ) : Except ValidationError Unit :=
  if value = "" then .error (.Empty field)
  else if value.utf8ByteSize > limit then .error (.TooLong field value.utf8ByteSize limit)
  else if value.toList.any isControl then .error (.ControlCharacter field)
  else .ok ()

def validateErrorText (errorText : String) : Except ValidationError Unit :=
  validateText "backend error text" errorText MAX_ERROR_TEXT_BYTES

/-- A character that is not ASCII has no byte in the grammar. -/
def validateToken (field value : String) (limit : ℕ) : Except ValidationError Unit := do
  validateText field value limit
  if value.toList.all fun c => c.isAlphanum || c ∈ ['-', '_', '.', ':', '@'] then pure ()
  else .error (.InvalidToken field)

def validateBackendId (value : String) : Except ValidationError Unit := do
  validateText "backend ID" value MAX_BACKEND_ID_BYTES
  if value.toList.all fun c => c.isLower || c.isDigit || c = '-' then pure ()
  else .error .InvalidBackendId

def validateGeneration (field : String) (generation : UInt64) : Except ValidationError Unit :=
  if generation = 0 then .error (.ZeroGeneration field) else .ok ()

def validateCount (field : String) (actual limit : ℕ) : Except ValidationError Unit :=
  if actual > limit then .error (.TooMany field actual limit) else .ok ()

inductive DeviceAvailability where
  | Available
  | Busy
  | Unavailable
  deriving DecidableEq

structure DiscoveryMetadataEntry where
  (key value : String)
  deriving DecidableEq

def DiscoveryMetadataEntry.validate (entry : DiscoveryMetadataEntry) :
    Except ValidationError Unit := do
  validateToken "discovery metadata key" entry.key MAX_DISCOVERY_METADATA_KEY_BYTES
  validateText "discovery metadata value" entry.value MAX_DISCOVERY_METADATA_VALUE_BYTES

/-- A device as its backend reports it. -/
structure DeviceInfo where
  (backendId deviceId displayName : String)
  availability : DeviceAvailability
  metadata : List DiscoveryMetadataEntry
  deriving DecidableEq

/-- The entries of a device, with the keys of those before. -/
def validateMetadata : List String → List DiscoveryMetadataEntry → Except ValidationError Unit
  | _, [] => pure ()
  | keys, entry :: rest => do
    entry.validate
    if entry.key ∈ keys then throw (.DuplicateMetadataKey entry.key)
    validateMetadata (entry.key :: keys) rest

def DeviceInfo.validate (device : DeviceInfo) : Except ValidationError Unit := do
  validateBackendId device.backendId
  validateText "device ID" device.deviceId MAX_DEVICE_TEXT_BYTES
  validateText "device display name" device.displayName MAX_DEVICE_TEXT_BYTES
  validateCount "discovery metadata" device.metadata.length MAX_DISCOVERY_METADATA_ENTRIES
  validateMetadata [] device.metadata

def DeviceInfo.identity (device : DeviceInfo) : String × String :=
  (device.backendId, device.deviceId)

/-- All devices of a backend at one revision. -/
structure DeviceSnapshot where
  (discoveryGeneration revision : UInt64)
  devices : List DeviceInfo

/-- The devices of a snapshot, with the identities of those before. -/
def validateDevices : List (String × String) → List DeviceInfo → Except ValidationError Unit
  | _, [] => pure ()
  | identities, device :: rest => do
    device.validate
    if identities.contains device.identity then
      throw (.DuplicateDevice device.backendId device.deviceId)
    validateDevices (device.identity :: identities) rest

def DeviceSnapshot.validate (snapshot : DeviceSnapshot) : Except ValidationError Unit := do
  validateGeneration "discovery" snapshot.discoveryGeneration
  validateCount "devices" snapshot.devices.length MAX_DEVICES
  validateDevices [] snapshot.devices

structure DeviceIdentity where
  (backendId deviceId : String)
  deriving DecidableEq

def DeviceIdentity.validate (device : DeviceIdentity) : Except ValidationError Unit := do
  validateBackendId device.backendId
  validateText "device ID" device.deviceId MAX_DEVICE_TEXT_BYTES

lemma validateDevices_eq_ok {devices : List DeviceInfo} {identities : List (String × String)} :
    validateDevices identities devices = .ok () ↔
      (∀ device ∈ devices, device.validate = .ok () ∧ device.identity ∉ identities) ∧
        (devices.map (·.identity)).Nodup := by
  induction devices generalizing identities with
  | nil => simp [validateDevices, pure, Except.pure]
  | cons device rest ih =>
    have hhead : validateDevices identities (device :: rest) = .ok () ↔
        (device.validate = .ok () ∧ device.identity ∉ identities) ∧
          validateDevices (device.identity :: identities) rest = .ok () := by
      rw [validateDevices, Fallible.seq_eq_ok]
      by_cases hin : device.identity ∈ identities
      · simp [hin, throw, throwThe, MonadExceptOf.throw, bind, Except.bind]
      · simp [hin]
    rw [hhead, ih, List.forall_mem_cons, List.map_cons, List.nodup_cons]
    simp only [List.mem_cons, not_or, List.mem_map, not_exists, not_and]
    constructor
    · rintro ⟨hdevice, hrest, hnodup⟩
      exact ⟨⟨hdevice, fun d hd => ⟨(hrest d hd).1, (hrest d hd).2.2⟩⟩,
        fun d hd => (hrest d hd).2.1, hnodup⟩
    · rintro ⟨⟨hdevice, hrest⟩, hnew, hnodup⟩
      exact ⟨hdevice, fun d hd => ⟨(hrest d hd).1, hnew d hd, (hrest d hd).2⟩, hnodup⟩

lemma DeviceSnapshot.validate_eq_ok {snapshot : DeviceSnapshot} :
    snapshot.validate = .ok () ↔ snapshot.discoveryGeneration ≠ 0 ∧
      snapshot.devices.length ≤ MAX_DEVICES ∧
      (∀ device ∈ snapshot.devices, device.validate = .ok ()) ∧
      (snapshot.devices.map (·.identity)).Nodup := by
  have hgeneration : validateGeneration "discovery" snapshot.discoveryGeneration = .ok () ↔
      snapshot.discoveryGeneration ≠ 0 := by
    simp [validateGeneration]
  have hcount : validateCount "devices" snapshot.devices.length MAX_DEVICES = .ok () ↔
      snapshot.devices.length ≤ MAX_DEVICES := by
    simp [validateCount]
  simp only [DeviceSnapshot.validate, Fallible.seq_eq_ok, hgeneration, hcount,
    validateDevices_eq_ok, List.not_mem_nil, not_false_eq_true, and_true]

end Pronk.BackendProtocol
