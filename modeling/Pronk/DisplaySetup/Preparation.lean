import Pronk.BackendProtocol.Session
import Pronk.Edid.RoundTrip

/-!
# What a backend prepared, as a monitor

`PreparedCastDevice::from_capabilities` checks the answer of a backend and builds the EDID
of the monitor that will stand for the device. The resolution of a manufacturer and the
texts of errors are taken from elsewhere.
-/
namespace Pronk.BackendProtocol

lemma DeviceCapabilities.videoProfiles_ne_nil {capabilities : DeviceCapabilities}
    (h : capabilities.validate = .ok ()) : capabilities.videoProfiles ≠ [] := by
  intro hnil
  simp only [validate, Fallible.seq_eq_ok] at h
  obtain ⟨-, -, -, hprofiles, -⟩ := h
  simp [validateNonemptyBounded, hnil] at hprofiles

end Pronk.BackendProtocol

namespace Pronk.Edid

def EdidMode.new (width height refreshMillihz : UInt32) : Except CastDisplayEdidError EdidMode :=
  let mode : EdidMode := ⟨width, height, refreshMillihz⟩
  if (timingFor mode).isSome then .ok mode else .error (.UnsupportedMode mode)

/-- The builder never panics. -/
def generate (env : Primitives) (request : CastDisplayEdidRequest) :
    Except CastDisplayEdidError GeneratedCastDisplayEdid :=
  (buildCastDisplayEdid env request).get (build_isSome env request)

end Pronk.Edid

namespace Pronk.DisplaySetup
open BackendProtocol (DeviceCapabilities DisplayMode IdentitySource)
open Dbus Edid

inductive PrepareCastDeviceError where
  | InvalidDevice (error : ValidationError)
  | DeviceUnavailable (availability : DeviceAvailability)
  | InvalidCapabilities (error : BackendProtocol.ValidationError)
  | UnsupportedIdentitySource (field : String) (identitySource : IdentitySource)
  | Pnp (error : String)
  | NoSupportedMode
  | MissingRequired640x480
  | Edid (error : CastDisplayEdidError)

/-- What is taken from elsewhere; `resolve` is `PnpIdResolver::resolve`. -/
structure Preparation where
  primitives : Primitives
  resolve : Option String → Option String → Except String PnpId
  display : PrepareCastDeviceError → String

/-- The resolution of the manufacturer and the sources of the names are not kept. -/
structure PreparedCastDevice where
  device : DeviceInfo
  capabilities : DeviceCapabilities
  generatedEdid : GeneratedCastDisplayEdid
  valid : capabilities.validate = .ok ()

def PreparedCastDevice.controlEnabled (prepared : PreparedCastDevice) : Bool :=
  prepared.capabilities.features &&& BackendProtocol.SESSION_FEATURE_CONTROL ≠ 0

def requireUsableIdentitySource (field : String) (value : Option String)
    (source : IdentitySource) : Except PrepareCastDeviceError Unit :=
  if value.isSome ∧ source ∉ [.SetupEndpoint, .AuthenticatedDeviceInfo] then
    .error (.UnsupportedIdentitySource field source)
  else .ok ()

def edidSafeProductName (value : String) : Option String :=
  let value := trim value.toList
  if value = [] ∨ (utf8 value).length > EDID_PRODUCT_NAME_MAX_BYTES ∨
      ¬ (utf8 value).all fun byte => 0x20 ≤ byte ∧ byte ≤ 0x7e then none
  else some (String.ofList value)

/-! ## Modes -/

/-- The loop over the modes of the device: the supported ones, each one once. -/
def supportedModes : List EdidMode → List DisplayMode → List EdidMode
  | supported, [] => supported
  | supported, mode :: rest =>
    match EdidMode.new mode.width mode.height mode.refreshMillihz with
    | .error _ => supportedModes supported rest
    | .ok mode => supportedModes (if mode ∈ supported then supported else supported ++ [mode]) rest

def requiredMode : EdidMode := ⟨640, 480, 60000⟩

def selectInitialModes (capabilities : DeviceCapabilities) :
    Except PrepareCastDeviceError (List EdidMode) :=
  let supported := supportedModes [] capabilities.modes
  if supported = [] then .error .NoSupportedMode
  else if requiredMode ∉ supported then .error .MissingRequired640x480
  else
    let selected := supported.take MAX_EDID_MODES
    .ok (if requiredMode ∈ selected then selected else selected.dropLast ++ [requiredMode])

/-! ## Preparation -/

def PreparedCastDevice.fromCapabilities (preparation : Preparation) (device : DeviceInfo)
    (capabilities : DeviceCapabilities) (audioEnabled : Bool) :
    Except PrepareCastDeviceError PreparedCastDevice := do
  device.validate.mapError .InvalidDevice
  if device.availability ≠ .Available then .error (.DeviceUnavailable device.availability)
  else
    match hvalid : capabilities.validate with
    | .error e => .error (.InvalidCapabilities e)
    | .ok () =>
      let displayIdentity := capabilities.displayIdentity
      requireUsableIdentitySource "manufacturer" displayIdentity.manufacturerName
        displayIdentity.manufacturerSource
      requireUsableIdentitySource "product" displayIdentity.productName
        displayIdentity.productSource
      let pnpId ← (preparation.resolve displayIdentity.pnpId
        displayIdentity.manufacturerName).mapError .Pnp
      let modes ← selectInitialModes capabilities
      let control := capabilities.features &&& BackendProtocol.SESSION_FEATURE_CONTROL ≠ 0
      let generatedEdid ← (generate preparation.primitives {
        pnpId := pnpId
        manufacturerName := displayIdentity.manufacturerName
        productName := displayIdentity.productName.bind edidSafeProductName
        displayName := edidSafeProductName device.displayName
        backendId := device.backendId
        deviceId := device.deviceId
        modes := modes
        audio := audioEnabled &&
          capabilities.features &&& BackendProtocol.SESSION_FEATURE_AUDIO ≠ 0
        cecPhysicalAddress := if control then some 0x1000 else none }).mapError .Edid
      .ok ⟨device, capabilities, generatedEdid, hvalid⟩

end Pronk.DisplaySetup
