import Pronk.BackendProtocol.Device

/-!
# Preparation of a session

What the host offers when a session is prepared, what a backend answers, and how the media
of the session are then configured. Each record has the checks of the wire format.
-/
namespace Pronk.BackendProtocol

def SESSION_FEATURE_AUDIO : UInt64 := (1 : UInt64) <<< 0
def SESSION_FEATURE_CONTROL : UInt64 := (1 : UInt64) <<< 1
def KNOWN_SESSION_FEATURES : UInt64 := SESSION_FEATURE_AUDIO ||| SESSION_FEATURE_CONTROL

def MAX_MODES : ℕ := 64
def MAX_VIDEO_PROFILES : ℕ := 16
def MAX_AUDIO_PROFILES : ℕ := 16
def MAX_MANUFACTURER_NAME_BYTES : ℕ := 128
def MAX_PRODUCT_NAME_BYTES : ℕ := 106

def validateFeatureBits (features : UInt64) : Except ValidationError Unit :=
  if features &&& ~~~KNOWN_SESSION_FEATURES ≠ 0 then
    .error (.UnknownCapabilities (features &&& ~~~KNOWN_SESSION_FEATURES))
  else .ok ()

def validateProfileId (field value : String) : Except ValidationError Unit :=
  validateToken field value 128

def validateRange (field : String) (actual minimum maximum : UInt64) :
    Except ValidationError Unit :=
  if minimum ≤ actual ∧ actual ≤ maximum then .ok ()
  else .error (.OutOfRange field actual minimum maximum)

/-- Every value in turn. -/
def validateEach {α : Type} (validate : α → Except ValidationError Unit) :
    List α → Except ValidationError Unit
  | [] => .ok ()
  | value :: rest => do
    validate value
    validateEach validate rest

def validateBounded {α : Type} (validate : α → Except ValidationError Unit) (field : String)
    (values : List α) (maximum : ℕ) : Except ValidationError Unit := do
  validateCount field values.length maximum
  validateEach validate values

def validateNonemptyBounded {α : Type} (validate : α → Except ValidationError Unit)
    (field : String) (values : List α) (maximum : ℕ) : Except ValidationError Unit :=
  if values = [] then .error (.Empty field) else validateBounded validate field values maximum

/-- No identifier twice, with those that came before. -/
def validateUnique (field : String) : List String → List String → Except ValidationError Unit
  | _, [] => .ok ()
  | identifiers, identifier :: rest =>
    if identifier ∈ identifiers then .error (.DuplicateIdentifier field identifier)
    else validateUnique field (identifier :: identifiers) rest

def validateUniqueProfiles {α : Type} (field : String) (values : List α)
    (identifier : α → String) : Except ValidationError Unit :=
  validateUnique field [] (values.map identifier)

structure DisplayMode where
  (width height refreshMillihz flags : UInt32)
  deriving DecidableEq

def DisplayMode.validate (mode : DisplayMode) : Except ValidationError Unit := do
  validateRange "mode width" mode.width.toUInt64 320 7680
  validateRange "mode height" mode.height.toUInt64 240 4320
  validateRange "mode refresh millihertz" mode.refreshMillihz.toUInt64 1000 240000
  if mode.flags ≠ 0 then .error (.OutOfRange "mode flags" mode.flags.toUInt64 0 0) else pure ()

structure VideoProfile where
  (profileId codec : String)
  (maxWidth maxHeight maxRefreshMillihz : UInt32)
  deriving DecidableEq

def VideoProfile.validate (profile : VideoProfile) : Except ValidationError Unit := do
  validateProfileId "video profile ID" profile.profileId
  validateToken "video codec" profile.codec 64
  validateRange "video maximum width" profile.maxWidth.toUInt64 320 7680
  validateRange "video maximum height" profile.maxHeight.toUInt64 240 4320
  validateRange "video maximum refresh millihertz" profile.maxRefreshMillihz.toUInt64 1000 240000

structure AudioProfile where
  (profileId codec : String)
  maxChannels : UInt8
  sampleRates : List UInt32
  deriving DecidableEq

/-- The rates of a profile, with those that came before. -/
def validateRates : List UInt32 → List UInt32 → Except ValidationError Unit
  | _, [] => .ok ()
  | rates, rate :: rest => do
    validateRange "audio sample rate" rate.toUInt64 8000 192000
    if rate ∈ rates then .error (.DuplicateIdentifier "audio sample rate" (toString rate))
    else validateRates (rate :: rates) rest

def AudioProfile.validate (profile : AudioProfile) : Except ValidationError Unit := do
  validateProfileId "audio profile ID" profile.profileId
  validateToken "audio codec" profile.codec 64
  validateRange "audio maximum channels" profile.maxChannels.toUInt64 1 8
  validateCount "audio sample rates" profile.sampleRates.length 16
  if profile.sampleRates = [] then .error (.Empty "audio sample rates")
  else validateRates [] profile.sampleRates

/-- What a session is offered. -/
structure PreparationRequest where
  preparationGeneration : UInt64
  candidateModes : List DisplayMode
  videoProfiles : List VideoProfile
  audioProfiles : List AudioProfile
  requestedFeatures : UInt64

def PreparationRequest.validate (request : PreparationRequest) : Except ValidationError Unit := do
  validateGeneration "preparation" request.preparationGeneration
  validateNonemptyBounded DisplayMode.validate "candidate modes" request.candidateModes MAX_MODES
  validateNonemptyBounded VideoProfile.validate "video profiles" request.videoProfiles
    MAX_VIDEO_PROFILES
  validateBounded AudioProfile.validate "audio profiles" request.audioProfiles MAX_AUDIO_PROFILES
  validateUniqueProfiles "video profile" request.videoProfiles (·.profileId)
  validateUniqueProfiles "audio profile" request.audioProfiles (·.profileId)
  validateFeatureBits request.requestedFeatures
  if request.requestedFeatures &&& SESSION_FEATURE_AUDIO ≠ 0 ∧ request.audioProfiles = [] then
    .error (.InvalidMediaLayout "audio was requested without an audio profile")
  else pure ()

inductive IdentitySource where
  | Absent
  | SetupEndpoint
  | AuthenticatedDeviceInfo
  | DiscoveryAdvertisement
  deriving DecidableEq

structure DisplayIdentity where
  manufacturerName : Option String
  manufacturerSource : IdentitySource
  productName : Option String
  productSource : IdentitySource
  pnpId : Option String
  deriving DecidableEq

def validateSourcedIdentity (field : String) (value : Option String) (source : IdentitySource)
    (limit : ℕ) : Except ValidationError Unit :=
  match value, source with
  | none, .Absent => .ok ()
  | some _, .Absent => .error (.UnexpectedIdentityValue field)
  | none, _ => .error (.MissingIdentityValue field)
  | some value, _ => validateText field value limit

def DisplayIdentity.validatePnpId (identity : DisplayIdentity) : Except ValidationError Unit :=
  match identity.pnpId with
  | none => .ok ()
  | some pnpId =>
    if pnpId.utf8ByteSize ≠ 3 ∨ ¬ pnpId.toList.all Char.isUpper then .error .InvalidPnpId
    else if identity.manufacturerSource ∉ [.SetupEndpoint, .AuthenticatedDeviceInfo] then
      .error (.InvalidMediaLayout
        "PNP ID requires setup or authenticated device manufacturer provenance")
    else .ok ()

def DisplayIdentity.validate (identity : DisplayIdentity) : Except ValidationError Unit := do
  validateSourcedIdentity "manufacturer name" identity.manufacturerName
    identity.manufacturerSource MAX_MANUFACTURER_NAME_BYTES
  validateSourcedIdentity "product name" identity.productName identity.productSource
    MAX_PRODUCT_NAME_BYTES
  identity.validatePnpId

/-- What a device can do. -/
structure DeviceCapabilities where
  preparationGeneration : UInt64
  displayIdentity : DisplayIdentity
  modes : List DisplayMode
  videoProfiles : List VideoProfile
  audioProfiles : List AudioProfile
  features : UInt64
  deriving DecidableEq

def DeviceCapabilities.validate (capabilities : DeviceCapabilities) :
    Except ValidationError Unit := do
  validateGeneration "preparation" capabilities.preparationGeneration
  capabilities.displayIdentity.validate
  validateNonemptyBounded DisplayMode.validate "device modes" capabilities.modes MAX_MODES
  validateNonemptyBounded VideoProfile.validate "device video profiles" capabilities.videoProfiles
    MAX_VIDEO_PROFILES
  validateBounded AudioProfile.validate "device audio profiles" capabilities.audioProfiles
    MAX_AUDIO_PROFILES
  validateUniqueProfiles "video profile" capabilities.videoProfiles (·.profileId)
  validateUniqueProfiles "audio profile" capabilities.audioProfiles (·.profileId)
  validateFeatureBits capabilities.features
  if capabilities.features &&& SESSION_FEATURE_AUDIO ≠ 0 ∧ capabilities.audioProfiles = [] then
    .error (.InvalidMediaLayout "audio capability has no audio profile")
  else if capabilities.features &&& SESSION_FEATURE_AUDIO = 0 ∧
      capabilities.audioProfiles ≠ [] then
    .error (.InvalidMediaLayout "audio profiles require the audio capability")
  else pure ()

inductive MediaKind where
  | Video
  | Audio
  deriving DecidableEq

structure PipeWireTarget where
  kind : MediaKind
  nodeName : String
  objectSerial : UInt64
  (sessionId deviceInstance : String)
  (connectorId outputIndex : UInt32)
  mediaGeneration : UInt64
  caps : String

/-- The media that a session is configured for. -/
structure MediaConfiguration where
  videoProfileId : String
  audioProfileId : Option String
  mode : DisplayMode
  videoBitrate : UInt64

lemma validateUnique_nodup {field : String} {identifiers values : List String}
    (h : validateUnique field identifiers values = .ok ()) :
    values.Nodup ∧ ∀ value ∈ values, value ∉ identifiers := by
  induction values generalizing identifiers with
  | nil => simp
  | cons value rest ih =>
    unfold validateUnique at h
    split_ifs at h with hin
    obtain ⟨hnodup, hnew⟩ := ih h
    refine ⟨List.nodup_cons.2 ⟨fun hrest => ?_, hnodup⟩, fun other hother => ?_⟩
    · exact hnew value hrest (by simp)
    · rcases List.mem_cons.1 hother with rfl | hrest
      · exact hin
      · exact fun hold => hnew other hrest (by simp [hold])

/-- The profiles of an offer have distinct identifiers. -/
theorem PreparationRequest.validate_unique {request : PreparationRequest}
    (h : request.validate = .ok ()) :
    (request.videoProfiles.map (·.profileId)).Nodup ∧
      (request.audioProfiles.map (·.profileId)).Nodup := by
  simp only [PreparationRequest.validate, Fallible.seq_eq_ok] at h
  obtain ⟨-, -, -, -, hvideo, haudio, -⟩ := h
  exact ⟨(validateUnique_nodup hvideo).1, (validateUnique_nodup haudio).1⟩

end Pronk.BackendProtocol
