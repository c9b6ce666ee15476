import Pronk.Dbus.Device

/-!
# Public state of a configured display

The two records that a client sees of one display, with the checks it makes on them.
-/
namespace Pronk.Dbus

def MAX_MEDIA_ERROR_BYTES : ℕ := 512

inductive DisplayAttachmentState where
  | Attached
  | Detached
  | Unknown
  deriving DecidableEq

inductive DisplayRouteState where
  | Disabled
  | Active
  deriving DecidableEq

structure RoutedDisplayMode where
  (width height refreshMillihz flags : UInt32)

/-- The state of a display as clients see it. -/
structure CastDisplayState where
  revision : UInt64
  device : DeviceInfo
  attachmentState : DisplayAttachmentState
  routeState : DisplayRouteState
  routedMode : Option RoutedDisplayMode

def RoutedDisplayMode.isValid (mode : RoutedDisplayMode) : Bool :=
  !(mode.width = 0 || mode.height = 0 || mode.width > 8192 || mode.height > 8192 ||
    mode.refreshMillihz = 0 || mode.refreshMillihz > 1000000)

def CastDisplayState.validate (state : CastDisplayState) : Except ValidationError Unit := do
  validateNonzero "cast-display state revision" state.revision
  state.device.validate
  if state.device.deviceRevision > state.revision then
    throw (.FutureDisplayDeviceRevision state.device.deviceRevision state.revision)
  match state.routeState, state.routedMode with
  | .Disabled, none => pure ()
  | .Active, some _ => pure ()
  | _, _ => throw .InvalidDisplayRoute
  if state.attachmentState ≠ .Attached ∧ state.routeState ≠ .Disabled then
    throw .InvalidDisplayRoute
  match state.routedMode with
  | some mode => if mode.isValid then pure () else throw .InvalidDisplayMode
  | none => pure ()

inductive MediaSessionPhase where
  | Inactive
  | Starting
  | Running
  | Suspended
  | Recovering
  | Stopping
  | Failed
  deriving DecidableEq

/-- The state of its media as clients see it. -/
structure MediaSessionState where
  revision : UInt64
  phase : MediaSessionPhase
  mediaGeneration : UInt64
  audioEnabled : Bool
  error : String

def validateOptionalText (field value : String) (limit : ℕ) : Except ValidationError Unit :=
  if value = "" then .ok () else validateText field value limit

def MediaSessionState.validate (state : MediaSessionState) : Except ValidationError Unit := do
  validateNonzero "media-session state revision" state.revision
  validateOptionalText "media-session error" state.error MAX_MEDIA_ERROR_BYTES
  if state.mediaGeneration = 0 ∧ state.phase ∈ [.Starting, .Running, .Suspended] then
    throw .InvalidMediaGeneration
  if state.error = "" then
    if state.phase = .Failed then throw .InvalidMediaError
  else if state.phase ≠ .Failed then throw .InvalidMediaError

end Pronk.Dbus
