import Pronk.Library.Interaction
import Pronk.MediaSession.Types

/-!
# The production media-session driver

`ProductionMediaSessionDriver` with its three ports behind requests. Every call on a
port can succeed or fail, it can be cancelled, and the caller can drop the driver's
future while the call is pending. A cancelled call may have been made or not: one whose
token was cancelled before it is polled never is, and it is recorded all the same. File
descriptors are left out of remotes and endpoints.
-/
namespace Pronk.MediaDriver
open Interaction Method Media MediaSession

inductive DeviceMediaSuspendReason where
  | OutputDisabled
  | ModeChanged
  | DeviceUnavailable
  | SessionInactive
  deriving DecidableEq

inductive DeviceMediaStopReason where
  | OutputDisabled
  | ModeChanged
  | DisplayRemoved
  | BackendShutdown
  | TransportFailure
  deriving DecidableEq

inductive DeviceSessionStopReason where
  | DisplayRemoved
  | DaemonShutdown
  deriving DecidableEq

def mapSuspendReason : MediaSuspendReason → DeviceMediaSuspendReason
  | .GrantUnavailable => .SessionInactive
  | .DeviceUnavailable => .DeviceUnavailable
  | .SessionInactive => .SessionInactive

def mapStopReason : MediaStopReason → DeviceMediaStopReason
  | .OutputDisabled => .OutputDisabled
  | .ModeChanged => .ModeChanged
  | .DisplayRemoved => .DisplayRemoved
  | .BackendShutdown => .BackendShutdown
  | .TransportFailure => .TransportFailure

def finalReason : MediaStopReason → DeviceSessionStopReason
  | .DisplayRemoved => .DisplayRemoved
  | _ => .DaemonShutdown

structure DeviceMediaRemoteSet where
  audio : Bool

structure DeviceMediaSetup where
  mediaGeneration : NonZeroU64
  endpoints : List DeviceMediaTarget
  configuration : DeviceMediaConfiguration
  deriving DecidableEq

/-- The calls on the three ports. -/
inductive PortCall where
  | captureStart (request : MediaStartRequest)
  | captureActivate (generation : NonZeroU64)
  | captureSuspend (generation : NonZeroU64) (reason : MediaSuspendReason)
  | captureStop (generation : NonZeroU64) (reason : MediaStopReason)
  | captureShutdown (reason : MediaStopReason)
  | mint (generation : NonZeroU64) (needsAudio : Bool)
  | configureMedia (setup : DeviceMediaSetup)
  | startMedia (generation : NonZeroU64)
  | suspendMedia (generation : NonZeroU64) (reason : DeviceMediaSuspendReason)
  | stopMedia (generation : NonZeroU64) (reason : DeviceMediaStopReason)
  | stopDevice (reason : DeviceSessionStopReason)
  deriving DecidableEq

/-- How a pending call ends for the driver. -/
inductive PortReply (α : Type) where
  | ok (value : α)
  | failed (error : String)
  | cancelled
  | dropped

/-- The final stop of the device is not cancellable. -/
inductive StopReply where
  | ok
  | failed (error : String)
  | dropped
  deriving DecidableEq

abbrev Reply : PortCall → Type
  | .captureStart _ => PortReply PreparedCaptureMedia
  | .mint _ _ => PortReply DeviceMediaRemoteSet
  | .stopDevice _ => StopReply
  | _ => PortReply Unit

/-- Why a method of the driver did not return Ok. -/
inductive Exit where
  | dropped
  | error (message : String)

def driverError (message : String) : Exit := .error (boundedText message MAX_ERROR_BYTES)

/-- What the driver owns. -/
structure Driver where
  device : Bool := true
  captureGeneration : Option NonZeroU64 := none
  prepared : Option PreparedCaptureMedia := none
  backendGeneration : Option NonZeroU64 := none
  shutdown : Bool := false

abbrev DriverMethod := Method PortCall Reply Driver Exit

def nonzeroGeneration (generation : UInt64) : Except Exit NonZeroU64 :=
  NonZeroU64.newOr generation (driverError "media generation must be nonzero")

def generationMismatch (operation : String) (active : Option NonZeroU64) (requested : NonZeroU64) :
    Exit :=
  driverError (operation ++ " requested generation " ++ toString requested.get ++
    "; active generation is " ++ generationText active)

/-- The result of a pending call. A dropped future returns nothing. -/
def settle {α : Type} (operation : String) : PortReply α → Except Exit α
  | .ok value => .ok value
  | .failed error => .error (driverError (operation ++ " failed: " ++ error))
  | .cancelled => .error (driverError (operation ++ " was cancelled"))
  | .dropped => .error .dropped

def validatePreparedCapture (prepared : PreparedCaptureMedia) (request : MediaStartRequest) :
    Except Exit Unit :=
  match nonzeroGeneration request.mediaGeneration with
  | .error e => .error e
  | .ok generation =>
    if prepared.mediaGeneration ≠ generation ∨ prepared.videoTarget.mediaGeneration ≠ generation ∨
        prepared.audioTarget.any (·.mediaGeneration ≠ generation) then
      .error (driverError "capture pipeline returned a stale media generation")
    else if prepared.videoTarget.kind ≠ .Video ∨ prepared.audioTarget.any (·.kind ≠ .Audio) then
      .error (driverError "capture pipeline returned an invalid target ordering")
    else if prepared.audioTarget.isSome ≠ prepared.configuration.audioProfileId.isSome then
      .error (driverError "capture targets and negotiated audio profile disagree")
    else if prepared.configuration.mode ≠ request.route.mode then
      .error (driverError "capture media mode differs from the active kernel route")
    else .ok ()

namespace Driver

def ensureLive : DriverMethod PUnit := do
  let d ← Method.get
  failIf (d.shutdown ∨ !d.device) (driverError "media driver is shut down")

/-- `self.device()?`. -/
def needDevice : DriverMethod PUnit := do
  let d ← Method.get
  failIf (!d.device) (driverError "Device session is no longer available")

def startCapture (request : MediaStartRequest) : DriverMethod PUnit := do
  ensureLive
  let generation ← lift (nonzeroGeneration request.mediaGeneration)
  let d ← Method.get
  failIf (d.captureGeneration.isSome ∨ d.backendGeneration.isSome)
    (driverError "a previous media generation still requires cleanup")
  Method.modify fun d => { d with captureGeneration := some generation }
  let reply ← Method.request (.captureStart request)
  let prepared ← lift (settle "start capture pipeline" reply)
  let _ ← lift (validatePreparedCapture prepared request)
  Method.modify fun d => { d with prepared := some prepared }

def deviceSetup (generation : NonZeroU64) (prepared : PreparedCaptureMedia) : DeviceMediaSetup where
  mediaGeneration := generation
  endpoints := prepared.videoTarget :: prepared.audioTarget.toList
  configuration := prepared.configuration

/-- The calls of `start_media` once the setup is known. -/
def transferMedia (generation : NonZeroU64) (setup : DeviceMediaSetup) : DriverMethod PUnit := do
  Method.modify fun d => { d with backendGeneration := some generation }
  needDevice
  let configured ← request (.configureMedia setup)
  let _ ← lift (settle "configure backend media" configured)
  let activated ← request (.captureActivate generation)
  let _ ← lift (settle "activate capture pipeline" activated)
  needDevice
  let started ← request (.startMedia generation)
  let _ ← lift (settle "start backend media" started)
  pure ⟨⟩

/-- Hand the prepared capture to the device. -/
def startMedia (request : MediaStartRequest) : DriverMethod PUnit := do
  ensureLive
  let generation ← lift (nonzeroGeneration request.mediaGeneration)
  let d ← Method.get
  failIf (d.captureGeneration ≠ some generation)
    (generationMismatch "start backend media" d.captureGeneration generation)
  let prepared ← okOr d.prepared (driverError "capture did not return media targets")
  let needsAudio := prepared.audioTarget.isSome
  let reply ← Method.request (.mint generation needsAudio)
  let remotes ← lift (settle "mint backend PipeWire remotes" reply)
  failIf (remotes.audio ≠ needsAudio)
    (driverError "PipeWire remote layout differs from prepared media targets")
  Method.modify fun d => { d with prepared := none }
  transferMedia generation (deviceSetup generation prepared)

def suspend (mediaGeneration : UInt64) (reason : MediaSuspendReason) : DriverMethod PUnit := do
  ensureLive
  let generation ← lift (nonzeroGeneration mediaGeneration)
  let d ← Method.get
  failIf (d.backendGeneration ≠ some generation ∨ d.captureGeneration ≠ some generation)
    (generationMismatch "suspend media" (d.backendGeneration <|> d.captureGeneration) generation)
  needDevice
  let device ← request (.suspendMedia generation (mapSuspendReason reason))
  let _ ← lift (settle "suspend backend media" device)
  let capture ← request (.captureSuspend generation reason)
  let _ ← lift (settle "suspend capture pipeline" capture)
  pure ⟨⟩

/-- A failure that `stop` collects; a dropped future collects nothing. -/
def collect (r : Except Exit Unit) (done : Driver → Driver) : DriverMethod (List String) :=
  match r with
  | .ok _ => do
    Method.modify done
    pure []
  | .error (.error message) => pure [message]
  | .error .dropped => Method.throw .dropped

def exitText : Exit → String
  | .error message => message
  | .dropped => ""

def stopBackend (generation : NonZeroU64) (reason : MediaStopReason) :
    DriverMethod (List String) := do
  let d ← Method.get
  match d.backendGeneration with
  | none => pure []
  | some active =>
    if active ≠ generation then
      pure [exitText (generationMismatch "stop backend media" (some active) generation)]
    else if !d.device then pure ["Device session is no longer available"]
    else do
      let reply ← request (.stopMedia generation (mapStopReason reason))
      collect (settle "stop backend media" reply) fun d => { d with backendGeneration := none }

def stopCapture (generation : NonZeroU64) (reason : MediaStopReason) :
    DriverMethod (List String) := do
  let d ← Method.get
  match d.captureGeneration with
  | none => pure []
  | some active =>
    if active ≠ generation then
      pure [exitText (generationMismatch "stop capture pipeline" (some active) generation)]
    else do
      let reply ← request (.captureStop generation reason)
      collect (settle "stop capture pipeline" reply) fun d => { d with captureGeneration := none }

def combineFailures (failures : List String) : Except Exit PUnit :=
  if failures = [] then .ok ⟨⟩ else .error (driverError ("; ".intercalate failures))

/-- Stop device and capture, and collect the failures. -/
def stop (mediaGeneration : UInt64) (reason : MediaStopReason) : DriverMethod PUnit := do
  let generation ← lift (nonzeroGeneration mediaGeneration)
  let backend ← stopBackend generation reason
  Method.modify fun d => { d with prepared := none }
  let capture ← stopCapture generation reason
  lift (combineFailures (backend ++ capture))

/-- The stop of the device that `shutdown` took, if there was one. -/
def stopDevice (device : Bool) (reason : MediaStopReason) : DriverMethod StopReply :=
  if device then request (PortCall.stopDevice (finalReason reason)) else pure .ok

def stopFailures : StopReply → List String
  | .failed error => ["final Device-session stop failed: " ++ error]
  | _ => []

/-- Both owners are shut down at the same time; the future can be dropped while either
is pending. -/
def shutdownOwners (reason : MediaStopReason) : DriverMethod PUnit := do
  let d ← Method.get
  Method.modify fun d => { d with device := false }
  let device ← stopDevice d.device reason
  let reply ← request (.captureShutdown reason)
  failIf (device = .dropped) .dropped
  let capture ← collect (settle "shut down capture pipeline" reply) id
  Method.modify fun d => { d with
    prepared := none, backendGeneration := none, captureGeneration := none, shutdown := true }
  lift (combineFailures (stopFailures device ++ capture))

def shutDown (reason : MediaStopReason) : DriverMethod PUnit := do
  let d ← Method.get
  when (d.shutdown = false) (shutdownOwners reason)

end Driver

/-- The calls of the `MediaSessionDriver` trait. -/
inductive DriverOp where
  | startCapture (request : MediaStartRequest)
  | startMedia (request : MediaStartRequest)
  | suspend (mediaGeneration : UInt64) (reason : MediaSuspendReason)
  | stop (mediaGeneration : UInt64) (reason : MediaStopReason)
  | shutdown (reason : MediaStopReason)

def DriverOp.run : DriverOp → DriverMethod PUnit
  | .startCapture request => Driver.startCapture request
  | .startMedia request => Driver.startMedia request
  | .suspend mediaGeneration reason => Driver.suspend mediaGeneration reason
  | .stop mediaGeneration reason => Driver.stop mediaGeneration reason
  | .shutdown reason => Driver.shutDown reason

def mediaDriver : Service PortCall Reply Driver where
  Op := DriverOp
  Ret := fun _ => Except Exit PUnit
  run := DriverOp.run

end Pronk.MediaDriver
