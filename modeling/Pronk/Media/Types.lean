import Pronk.Machine

/-!
# Values shared by the display, media and device ports

Application-owned records. Owned PipeWire descriptors are left out where no
modelled function looks at them.
-/
namespace Pronk.Media

inductive AttachmentState where
  | Attached
  | Detached
  | Unknown
  deriving DecidableEq

structure RoutedMode where
  (width height refreshMillihz flags : UInt32)
  deriving DecidableEq

structure RouteTarget where
  asNonzero : NonZeroU32
  deriving DecidableEq

structure ActiveRoute where
  target : RouteTarget
  mode : RoutedMode
  deriving DecidableEq

structure DisplayTopology where
  attachment : AttachmentState
  route : Option ActiveRoute
  deriving DecidableEq

inductive DisplayGrantState where
  | Pending
  | Active
  | SuspendedNoMaster
  | SuspendedOtherMaster
  | SuspendedForeignContent
  | Revoked
  deriving DecidableEq

/-- What the kernel shows of a display: where it is routed and what its grant allows. -/
structure KernelDisplayObservation where
  topology : DisplayTopology
  grantState : DisplayGrantState
  deriving DecidableEq

inductive MediaState where
  | Idle
  | StartingCapture
  | StartingMedia
  | Running
  | Suspended
  | Reconfiguring
  | Reconnecting
  | Stopping
  | Failed
  deriving DecidableEq

structure MediaRoute where
  routeGeneration : UInt64
  target : RouteTarget
  mode : RoutedMode
  deriving DecidableEq

structure MediaStartRequest where
  mediaGeneration : UInt64
  route : MediaRoute
  deriving DecidableEq

inductive DeviceMediaKind where
  | Video
  | Audio
  deriving DecidableEq

/-- Exact PipeWire object a backend endpoint is authorized to consume. -/
structure DeviceMediaTarget where
  kind : DeviceMediaKind
  nodeName : String
  objectSerial : NonZeroU64
  (sessionId deviceInstance : String)
  connectorId : NonZeroU32
  outputIndex : UInt32
  mediaGeneration : NonZeroU64
  caps : String
  deriving DecidableEq

structure DeviceMediaConfiguration where
  videoProfileId : String
  audioProfileId : Option String
  mode : RoutedMode
  videoBitrate : NonZeroU64
  deriving DecidableEq

/-- Exact producer objects created for one active capture generation. -/
structure PreparedCaptureMedia where
  mediaGeneration : NonZeroU64
  videoTarget : DeviceMediaTarget
  audioTarget : Option DeviceMediaTarget
  configuration : DeviceMediaConfiguration
  deriving DecidableEq

inductive DeviceControlKind where
  | Activate
  | Deactivate
  | Power
  | Standby
  | KeyDown
  | KeyUp
  | Volume
  | Mute

structure DeviceControlOperation where
  kind : DeviceControlKind
  code : Option String
  value : Int32

namespace DeviceControlOperation

def simple (kind : DeviceControlKind) : DeviceControlOperation := ⟨kind, none, 0⟩

def coded (kind : DeviceControlKind) (code : String) : DeviceControlOperation :=
  ⟨kind, some code, 0⟩

def valued (kind : DeviceControlKind) (code : String) (value : Int32) : DeviceControlOperation :=
  ⟨kind, some code, value⟩

end DeviceControlOperation

end Pronk.Media
