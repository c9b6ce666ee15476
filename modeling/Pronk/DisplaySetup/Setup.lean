import Pronk.Actor.State
import Pronk.DeviceSession.Replaceable
import Pronk.DisplaySetup.Preparation
import Pronk.GrantHelper.Protocol
import Pronk.Manager.Lifecycle
import Pronk.MediaDriver.Driver
import Pronk.OutputSlot.Pool

/-!
# The setup of one display

`run_display_setup_inner`, which takes a reserved slot to an added display, and
`create_prepared_session`, which makes a replacement for the session of a display. Every
call that leaves the two functions is a request, and so is every look at the cancellation.
A select on the cancellation and a call replies `cancelled` if the cancellation was seen
first. Backend sessions and grant holders are numbered; the client of a grant goes by its
holder, which is closed when the client is dropped. An error keeps the text of its source.
-/
namespace Pronk.BackendProtocol

inductive StopReason where
  | UserRequest
  | DisplayRemoved
  | BackendShutdown
  | TransportFailure

end Pronk.BackendProtocol

namespace Pronk.Manager

/-- The bytes of an identity in hexadecimal. -/
def CastDisplayId.objectSegment (id : CastDisplayId) : String := id.bits.toHex

/-- `to_string`: the same digits in groups. -/
def CastDisplayId.toText (id : CastDisplayId) : String :=
  let digits := id.objectSegment.toList
  "-".intercalate ([(0, 8), (8, 4), (12, 4), (16, 4), (20, 12)].map fun (start, length) =>
    String.ofList ((digits.drop start).take length))

end Pronk.Manager

namespace Pronk.DisplaySetup
open Actor (CastKmsActorConfig)
open BackendProtocol (DeviceCapabilities PreparationRequest StopReason)
open DeviceSession (DeviceSessionFactoryError SharedState boundedText MAX_RECOVERY_ERROR_BYTES)
open Dbus Edid Interaction Method
open GrantHelper (GrantProfile)
open Manager (CastDisplayId DisplaySetupStage)
open MediaDriver (DeviceSessionStopReason)
open OutputSlot (CastKmsOutput)

def INITIAL_SESSION_GENERATION : NonZeroU64 := 1

structure GrantTarget where
  (deviceMajor deviceMinor connectorId : UInt32)
  profile : GrantProfile

inductive GrantAcquisitionError where
  | Cancelled
  | Provider (error : String)

/-- A biased select: the cancellation is looked at before the other future. -/
inductive Race (α : Type) where
  | cancelled
  | finished (value : α)

def Race.map {α β : Type} (f : α → β) : Race α → Race β
  | .cancelled => .cancelled
  | .finished value => .finished (f value)

/-- `joinAttach` and `awaitSession` wait for what an earlier request has started. -/
inductive SetupCall where
  | isCancelled
  | setStatus (stage : DisplaySetupStage)
  | acquire (target : GrantTarget)
  | newClient (holder : ℕ)
  | resolveDevice (selection : DeviceSelection)
  | createSession (device : DeviceInfo) (sessionId : String) (sessionGeneration : NonZeroU64)
      (requestedFeatures : UInt64)
  | awaitSession
  | prepare (session : ℕ) (offer : PreparationRequest)
  | startEventMonitor (session : ℕ)
  | attachMonitor (client : ℕ) (edid : ValidatedEdid) (displayName : String)
  | joinAttach (client : ℕ)
  | detachMonitor (client : ℕ)
  | socketPaths
  | spawnKernel (client : ℕ) (config : CastKmsActorConfig)
  | stop (session : ℕ) (reason : StopReason)

/-- The outer result of `attachMonitor` and `joinAttach` is that of the blocking task. -/
abbrev SetupCall.Reply : SetupCall → Type
  | .isCancelled => Bool
  | .setStatus _ => Unit
  | .acquire _ => Except GrantAcquisitionError ℕ
  | .newClient _ => Except String Unit
  | .resolveDevice _ => Race (Except String DeviceInfo)
  | .createSession .. => Race (Except String ℕ)
  | .awaitSession => Except String ℕ
  | .prepare .. => Race (Except String DeviceCapabilities)
  | .startEventMonitor _ => Race (Except String Unit)
  | .attachMonitor .. => Race (Except String (Except String Unit))
  | .joinAttach _ => Except String (Except String Unit)
  | .detachMonitor _ => Except String Unit
  | .socketPaths => Except String Unit
  | .spawnKernel .. => Except String Unit
  | .stop .. => Except String Unit

abbrev Setup (ε α : Type) := Method SetupCall SetupCall.Reply Unit ε α

section Pieces

variable {ε α : Type}

def call (c : SetupCall) : Setup ε c.Reply := request c

/-- A future that is ready at the first poll. -/
def ready (value : α) : Setup ε (Race α) := do
  let cancelled : Bool ← call .isCancelled
  if cancelled then pure .cancelled else pure (.finished value)

/-- A failure is logged only. -/
def stopPartialBackend (session : ℕ) : Setup ε Unit := do
  let _ ← call (.stop session .UserRequest)

/-- A failure is logged only. -/
def detachClient (client : ℕ) : Setup ε Unit := do
  let _ ← call (.detachMonitor client)

/-- Leave once the session was stopped. -/
def discard (session : ℕ) (error : ε) : Setup ε α := do
  stopPartialBackend session
  Method.throw error

/-- How the two functions name the failures of the steps they share. -/
structure SessionErrors (ε : Type) where
  cancelled : ε
  (create prepare : String → ε)
  validate : PrepareCastDeviceError → ε
  monitor : String → ε

variable (errors : SessionErrors ε)

/-- A creation that was cancelled is awaited all the same. -/
def createSession (device : DeviceInfo) (sessionId : String) (sessionGeneration : NonZeroU64)
    (requestedFeatures : UInt64) : Setup ε ℕ := do
  let reply : Race (Except String ℕ) ← call
    (.createSession device sessionId sessionGeneration requestedFeatures)
  match reply with
  | .cancelled =>
    let created : Except String ℕ ← call .awaitSession
    match created with
    | .ok session => discard session errors.cancelled
    | .error _ => Method.throw errors.cancelled
  | .finished (.error e) => Method.throw (errors.create e)
  | .finished (.ok session) => pure session

/-- The replies of a call that has a session at stake. -/
def orDiscard (session : ℕ) (failed : String → ε) : Race (Except String α) → Setup ε α
  | .cancelled => discard session errors.cancelled
  | .finished (.error e) => discard session (failed e)
  | .finished (.ok value) => pure value

def discardIfCancelled (session : ℕ) : Setup ε Unit := do
  let cancelled : Bool ← call .isCancelled
  if cancelled then discard session errors.cancelled else pure ()

/-- From the offer to the prepared device. -/
def prepareSession (preparation : Preparation) (device : DeviceInfo) (offer : PreparationRequest)
    (audioEnabled : Bool) (session : ℕ) : Setup ε PreparedCastDevice := do
  let reply : Race (Except String DeviceCapabilities) ← call (.prepare session offer)
  let capabilities ← orDiscard errors session errors.prepare reply
  match PreparedCastDevice.fromCapabilities preparation device capabilities audioEnabled with
  | .error e => discard session (errors.validate e)
  | .ok prepared =>
    discardIfCancelled errors session
    pure prepared

def startEventMonitor (session : ℕ) : Setup ε Unit := do
  let reply : Race (Except String Unit) ← call (.startEventMonitor session)
  orDiscard errors session errors.monitor reply

end Pieces

/-! ## The slot -/

/-- The slot while it has its reservation; `manager` says whether it can reach the manager. -/
structure ReservedCastDisplaySlot where
  device : DeviceInfo
  selectionToken : DeviceSelection
  selection : Option DeviceInfo
  output : CastKmsOutput
  manager : Bool

structure DeviceSessionResolver where
  (backendId deviceId : String)

def managerStopped : String := "Pronk manager has stopped"

namespace ReservedCastDisplaySlot

variable {ε : Type} (slot : ReservedCastDisplaySlot)

def revalidateDevice : Setup ε (Race (Except String Unit)) := do
  if slot.manager then
    let reply : Race (Except String DeviceInfo) ← call (.resolveDevice slot.selectionToken)
    pure (reply.map fun result => result.map fun _ => ())
  else ready (.error managerStopped)

def deviceSessionResolver : Except String DeviceSessionResolver :=
  if slot.manager then .ok ⟨slot.device.backendId, slot.device.deviceId⟩
  else .error managerStopped

end ReservedCastDisplaySlot

def DeviceSessionResolver.resolve {ε : Type} (resolver : DeviceSessionResolver)
    (device : DeviceInfo) : Setup ε (Race (Except String DeviceInfo)) :=
  if device.backendId ≠ resolver.backendId ∨ device.deviceId ≠ resolver.deviceId then
    ready (.error ("invalid device selection: " ++
      "recovery Device differs from the reserved display target"))
  else call (.resolveDevice (DeviceSelection.fromDevice device))

/-! ## Replacement sessions -/

structure BackendPreparedDeviceSessionFactory where
  resolver : DeviceSessionResolver
  sessionId : String
  offer : PreparationRequest
  preparation : Preparation
  audioEnabled : Bool

structure PreparedDeviceSession where
  prepared : PreparedCastDevice
  session : ℕ

namespace BackendPreparedDeviceSessionFactory

def failed (text : String) : DeviceSessionFactoryError :=
  .Failed (boundedText text MAX_RECOVERY_ERROR_BYTES)

def errors (preparation : Preparation) : SessionErrors DeviceSessionFactoryError where
  cancelled := .Cancelled
  create e := failed ("create replacement Device session: " ++ e)
  prepare e := failed ("prepare replacement Device session: " ++ e)
  validate e := failed ("validate replacement Device preparation: " ++ preparation.display e)
  monitor e := failed ("monitor replacement Device session: " ++ e)

/-- A replacement for the session of a display. -/
def createPreparedSession (factory : BackendPreparedDeviceSessionFactory) (device : DeviceInfo)
    (sessionGeneration : NonZeroU64) : Setup DeviceSessionFactoryError PreparedDeviceSession := do
  let errors := errors factory.preparation
  match ← factory.resolver.resolve device with
  | .cancelled => Method.throw .Cancelled
  | .finished (.error e) => Method.throw (failed ("resolve current Device: " ++ e))
  | .finished (.ok selection) =>
    let session ← createSession errors selection factory.sessionId sessionGeneration
      factory.offer.requestedFeatures
    let prepared ← prepareSession errors factory.preparation device factory.offer
      factory.audioEnabled session
    startEventMonitor errors session
    pure ⟨prepared, session⟩

end BackendPreparedDeviceSessionFactory

/-! ## The setup -/

/-- The failures of the inner function. -/
inductive DisplaySetupError where
  | Cancelled
  | ReservationConsumed
  | Device (error : String)
  | Grant (error : String)
  | GrantClient (error : String)
  | Backend (error : String)
  | Prepare (error : PrepareCastDeviceError)
  | Attach (error : String)
  | AttachTask (error : String)
  | Monitor (error : String)

/-- What a setup is given. -/
structure DisplaySetupContext where
  displayId : CastDisplayId
  preparation : Preparation
  offer : PreparationRequest
  audioEnabled : Bool

/-- `deviceSession` is shared by the media driver and the recovery, and `kernel` is the
client that the kernel actor owns. -/
structure AddedCastDisplay where
  displayId : CastDisplayId
  stateRevision : UInt64
  device : DeviceInfo
  prepared : PreparedCastDevice
  slot : ReservedCastDisplaySlot
  deviceSession : SharedState
  recoveryFactory : BackendPreparedDeviceSessionFactory
  initialSessionGeneration : NonZeroU64
  kernel : ℕ

def setupErrors : SessionErrors DisplaySetupError where
  cancelled := .Cancelled
  create := .Backend
  prepare := .Backend
  validate := .Prepare
  monitor := .Backend

def failIfCancelled : Setup DisplaySetupError Unit := do
  let cancelled : Bool ← call .isCancelled
  if cancelled then Method.throw .Cancelled else pure ()

def grantTarget (output : CastKmsOutput) (audioEnabled : Bool) : GrantTarget where
  deviceMajor := output.deviceMajor
  deviceMinor := output.deviceMinor
  connectorId := output.connectorId
  profile := if audioEnabled then .DisplayCecAudioV1 else .DisplayCecV1

/-- The part before the device is prepared. -/
def acquireClient (slot : ReservedCastDisplaySlot) (context : DisplaySetupContext) :
    Setup DisplaySetupError ℕ := do
  failIfCancelled
  let lease : Except GrantAcquisitionError ℕ ←
    call (.acquire (grantTarget slot.output context.audioEnabled))
  match lease with
  | .error .Cancelled => Method.throw .Cancelled
  | .error (.Provider e) => Method.throw (.Grant e)
  | .ok holder =>
    failIfCancelled
    match ← slot.revalidateDevice with
    | .cancelled => Method.throw .Cancelled
    | .finished (.error e) => Method.throw (.Device e)
    | .finished (.ok _) =>
      let client : Except String Unit ← call (.newClient holder)
      match client with
      | .error e => Method.throw (.GrantClient e)
      | .ok _ => pure holder

/-- The select on the blocking task that attaches the monitor. -/
def attachMonitor (session client : ℕ) (edid : ValidatedEdid) (displayName : String) :
    Setup DisplaySetupError Unit := do
  let reply : Race (Except String (Except String Unit)) ←
    call (.attachMonitor client edid displayName)
  match reply with
  | .cancelled =>
    let joined : Except String (Except String Unit) ← call (.joinAttach client)
    stopPartialBackend session
    match joined with
    | .ok (.ok _) => detachClient client
    | .ok (.error _) => pure ()
    | .error _ => pure ()
    Method.throw .Cancelled
  -- A task that failed has dropped the client; the session is left as it is.
  | .finished (.error e) => Method.throw (.AttachTask e)
  | .finished (.ok (.error e)) => discard session (.Attach e)
  | .finished (.ok (.ok _)) => pure ()

/-- Leave once the session was stopped and the monitor detached. -/
def withdraw {α : Type} (session client : ℕ) (error : DisplaySetupError) :
    Setup DisplaySetupError α := do
  stopPartialBackend session
  detachClient client
  Method.throw error

def replaceableDeviceSession (sessionGeneration : NonZeroU64) (session : ℕ) : SharedState where
  current := some ⟨sessionGeneration, none, session⟩
  lastSessionGeneration := sessionGeneration
  retiredMediaGenerations := []
  closed := false

def sessionStopReason : DeviceSessionStopReason → StopReason
  | .DisplayRemoved => .DisplayRemoved
  | .DaemonShutdown => .BackendShutdown

/-- `stop` of the replaceable session; a failure is logged only. -/
def stopDeviceSession (shared : SharedState) (reason : DeviceSessionStopReason) :
    Setup DisplaySetupError Unit :=
  match shared.close.1 with
  | some current => do
    let _ ← call (.stop current.session (sessionStopReason reason))
  | none => pure ()

def actorConfig (context : DisplaySetupContext) (slot : ReservedCastDisplaySlot)
    (prepared : PreparedCastDevice) : CastKmsActorConfig where
  sessionId := context.displayId.toText
  deviceInstance := "cast-display-" ++ context.displayId.objectSegment
  nodeDescription := slot.device.displayName
  outputIndex := slot.output.id.outputIndex
  videoProfileId := (prepared.capabilities.videoProfiles.head
    (DeviceCapabilities.videoProfiles_ne_nil prepared.valid)).profileId
  audioProfileId := if context.audioEnabled then
    prepared.capabilities.audioProfiles.head?.map (·.profileId) else none
  videoBitrate := 8000000
  deviceControl := prepared.controlEnabled

/-- The kernel actor owns the client, or has dropped it. -/
def spawnDisplay (context : DisplaySetupContext) (slot : ReservedCastDisplaySlot)
    (prepared : PreparedCastDevice) (resolver : DeviceSessionResolver) (session client : ℕ) :
    Setup DisplaySetupError AddedCastDisplay := do
  let deviceSession := replaceableDeviceSession INITIAL_SESSION_GENERATION session
  let kernel : Except String Unit ← call (.spawnKernel client (actorConfig context slot prepared))
  match kernel with
  | .error e =>
    stopDeviceSession deviceSession .DaemonShutdown
    Method.throw (.Monitor e)
  | .ok _ =>
    pure {
      displayId := context.displayId
      stateRevision := slot.device.deviceRevision
      device := slot.device
      prepared := prepared
      slot := slot
      deviceSession := deviceSession
      recoveryFactory := {
        resolver := resolver
        sessionId := context.displayId.toText
        offer := context.offer
        preparation := context.preparation
        audioEnabled := context.audioEnabled }
      initialSessionGeneration := INITIAL_SESSION_GENERATION
      kernel := client }

/-- The part after the monitor was attached. -/
def finishSetup (context : DisplaySetupContext) (slot : ReservedCastDisplaySlot)
    (prepared : PreparedCastDevice) (resolver : DeviceSessionResolver) (session client : ℕ) :
    Setup DisplaySetupError AddedCastDisplay := do
  let cancelled : Bool ← call .isCancelled
  if cancelled then withdraw session client .Cancelled
  else
    let paths : Except String Unit ← call .socketPaths
    match paths with
    | .error e =>
      withdraw session client (.Monitor ("construct classified PipeWire paths: " ++ e))
    | .ok _ => spawnDisplay context slot prepared resolver session client

/-- From a reserved slot to an added display. -/
def runDisplaySetupInner (slot : ReservedCastDisplaySlot) (context : DisplaySetupContext) :
    Setup DisplaySetupError AddedCastDisplay := do
  let client ← acquireClient slot context
  let _ ← call (.setStatus .PreparingDevice)
  let selection ← okOr slot.selection .ReservationConsumed
  let slot := { slot with selection := none }
  let session ← createSession setupErrors selection context.displayId.toText
    INITIAL_SESSION_GENERATION context.offer.requestedFeatures
  let prepared ← prepareSession setupErrors context.preparation slot.device context.offer
    context.audioEnabled session
  let revalidation ← slot.revalidateDevice
  orDiscard setupErrors session .Device revalidation
  match slot.deviceSessionResolver with
  | .error e => discard session (.Device e)
  | .ok resolver =>
    startEventMonitor setupErrors session
    let _ ← call (.setStatus .Attaching)
    attachMonitor session client prepared.generatedEdid.edid slot.device.displayName
    finishSetup context slot prepared resolver session client

end Pronk.DisplaySetup
