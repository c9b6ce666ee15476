import Pronk.Dbus.Device
import Pronk.MediaSession.Actor

/-!
# State of one configured display

`DisplayRuntimeState` and the snapshot that the owner of a display keeps, with the
changes that its handlers make. A handler that reports whether it changed anything
returns that report first. Of the prepared device the snapshot keeps what is read here.
-/
namespace Pronk.CastDisplay
open Dbus Media
open MediaSession (MediaSessionSnapshot saturatingSucc)

inductive RouteState where
  | Disabled
  | Active (route : ActiveRoute)
  deriving DecidableEq

/-- What a display shows, with its revision. -/
structure DisplayRuntimeState where
  (revision routeGeneration : UInt64)
  attachment : AttachmentState
  route : RouteState
  mediaGeneration : UInt64
  media : MediaState
  lastError : Option String
  deriving DecidableEq

namespace DisplayRuntimeState

def attached (initialRevision : UInt64) : DisplayRuntimeState where
  revision := max initialRevision 1
  routeGeneration := 0
  attachment := .Attached
  route := .Disabled
  mediaGeneration := 0
  media := .Idle
  lastError := none

def advance (state : DisplayRuntimeState) : DisplayRuntimeState :=
  { state with revision := saturatingSucc state.revision }

/-- A connector that is not attached has no route. -/
def routeOf (topology : DisplayTopology) : RouteState :=
  if topology.attachment = .Attached then topology.route.elim .Disabled .Active else .Disabled

def observeTopology (state : DisplayRuntimeState) (topology : DisplayTopology) :
    Bool × DisplayRuntimeState :=
  let route := routeOf topology
  if state.attachment = topology.attachment ∧ state.route = route then (false, state)
  else (true, advance { state with
    attachment := topology.attachment
    routeGeneration :=
      if state.route ≠ route then saturatingSucc state.routeGeneration else state.routeGeneration
    route := route })

def observeMedia (state : DisplayRuntimeState) (generation : UInt64) (media : MediaState)
    (lastError : Option String) : Bool × DisplayRuntimeState :=
  if state.mediaGeneration = generation ∧ state.media = media ∧ state.lastError = lastError then
    (false, state)
  else (true, advance { state with
    mediaGeneration := generation
    media := media
    lastError := lastError })

/-- The failure belongs to the media generation that is shown. -/
def failMedia (state : DisplayRuntimeState) (diagnostic : String) : DisplayRuntimeState :=
  (state.observeMedia state.mediaGeneration .Failed (some diagnostic)).2

end DisplayRuntimeState

inductive KernelDisplayEvent where
  | Changed (observation : KernelDisplayObservation)
  | Revoked
  | MediaFailed (error : String)

structure PreparedCastDevice where
  device : DeviceInfo
  audioEnabled : Bool

/-- The result of a setup. Its revision is not behind that of its device. -/
structure AddedCastDisplay where
  stateRevision : UInt64
  device : DeviceInfo
  prepared : PreparedCastDevice
  initialSessionGeneration : NonZeroU64
  current : device.deviceRevision ≤ stateRevision

namespace AddedCastDisplay

def new (prepared : PreparedCastDevice) (device : DeviceInfo)
    (initialSessionGeneration : NonZeroU64) : AddedCastDisplay :=
  ⟨device.deviceRevision, device, prepared, initialSessionGeneration, UInt64.le_refl _⟩

/-- The device as the inventory has it when the owner is started. -/
def updateDevice (display : AddedCastDisplay) (device : DeviceInfo) : AddedCastDisplay :=
  if display.device = device then display
  else { display with
    stateRevision := max (saturatingSucc display.stateRevision) device.deviceRevision
    device := device
    current := by
      rw [UInt64.le_iff_toNat_le, toNat_max]
      exact Nat.le_max_right _ _ }

end AddedCastDisplay

/-- What a slot publishes. -/
structure AddedCastDisplaySnapshot where
  stateRevision : UInt64
  device : DeviceInfo
  prepared : PreparedCastDevice
  grantState : DisplayGrantState
  runtime : DisplayRuntimeState

namespace AddedCastDisplaySnapshot

/-- The runtime state after a change, with its revision. -/
def withRuntime (snapshot : AddedCastDisplaySnapshot) (runtime : DisplayRuntimeState) :
    AddedCastDisplaySnapshot :=
  { snapshot with runtime := runtime, stateRevision := runtime.revision }

def initial (display : AddedCastDisplay) (observation : KernelDisplayObservation) :
    AddedCastDisplaySnapshot :=
  let runtime :=
    ((DisplayRuntimeState.attached display.stateRevision).observeTopology observation.topology).2
  ⟨runtime.revision, display.device, display.prepared, observation.grantState, runtime⟩

/-- `publish_media_failure`, before it publishes. -/
def failMedia (snapshot : AddedCastDisplaySnapshot) (diagnostic : String) :
    AddedCastDisplaySnapshot :=
  snapshot.withRuntime (snapshot.runtime.failMedia diagnostic)

def updateDevice (snapshot : AddedCastDisplaySnapshot) (device : DeviceInfo) :
    Bool × AddedCastDisplaySnapshot :=
  if snapshot.device = device then (false, snapshot)
  else (true, { snapshot.withRuntime { snapshot.runtime with
    revision := max (saturatingSucc snapshot.runtime.revision) device.deviceRevision } with
    device := device })

/-- A grant that changed alone is a change too. -/
def observeKernel (snapshot : AddedCastDisplaySnapshot) (observation : KernelDisplayObservation) :
    AddedCastDisplaySnapshot :=
  let observed := snapshot.runtime.observeTopology observation.topology
  { snapshot.withRuntime
      (if snapshot.grantState ≠ observation.grantState ∧ observed.1 = false then observed.2.advance
      else observed.2) with
    grantState := observation.grantState }

def applyKernelEvent (snapshot : AddedCastDisplaySnapshot) :
    KernelDisplayEvent → AddedCastDisplaySnapshot
  | .Changed observation => snapshot.observeKernel observation
  | .Revoked =>
    { snapshot.withRuntime ((snapshot.runtime.observeTopology ⟨.Detached, none⟩).2.failMedia
        "CastKMS grant was revoked") with
      grantState := .Revoked }
  | .MediaFailed error => snapshot.failMedia error

/-- The kernel port itself failed. -/
def failKernel (snapshot : AddedCastDisplaySnapshot) (diagnostic : String) :
    AddedCastDisplaySnapshot :=
  snapshot.withRuntime ((snapshot.runtime.observeTopology ⟨.Unknown, none⟩).2.failMedia diagnostic)

def observeMedia (snapshot : AddedCastDisplaySnapshot) (media : MediaSessionSnapshot) :
    Bool × AddedCastDisplaySnapshot :=
  let observed := snapshot.runtime.observeMedia media.mediaGeneration media.state media.lastError
  if observed.1 then (true, snapshot.withRuntime observed.2) else (false, snapshot)

end AddedCastDisplaySnapshot

end Pronk.CastDisplay
