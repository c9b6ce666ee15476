import Pronk.CastKms.Grant
import Pronk.Library.Interaction

/-!
# Read-only queries of a client

Attachment and active route of the grant's connector, the grant itself and the
audio tap. None of these methods writes to the client, so they run over any
state.
-/
namespace Pronk.CastKms
open Interaction Method

/-- A client method that fails with a client error. -/
abbrev QueryM (S α : Type) := Method Ioctl Ioctl.Reply S CastKmsError α

def issue {S ε : Type} (c : Ioctl) : Method Ioctl Ioctl.Reply S ε c.Reply := request c

inductive MonitorAttachmentState where
  | Detached
  | Attached
  | Unknown
  deriving DecidableEq

structure ActiveOutputRoute where
  (crtcId width height refreshMillihz : NonZeroU32)
  modeFlags : UInt32

/-- Whether a monitor is attached, and on which route. -/
structure OutputTopology where
  attachment : MonitorAttachmentState
  route : Option ActiveOutputRoute

/-- The route that a CRTC reply describes. The nonzero refresh of the source's
`expect` is the last error branch. -/
def outputTopologyFromKernel (attachment : MonitorAttachmentState) (expectedCrtcId : NonZeroU32)
    (crtc : DrmModeCrtc) : Except CastKmsError OutputTopology :=
  if crtc.crtcId ≠ expectedCrtcId.get then .error (.InvalidOutputTopology "CRTC identity")
  else if crtc.modeValid = 0 then .ok ⟨attachment, none⟩
  else if crtc.modeValid = 1 then
    let refreshHz := if crtc.vrefresh = 0 then 60 else crtc.vrefresh
    match NonZeroU32.new crtc.hdisplay.toUInt32, NonZeroU32.new crtc.vdisplay.toUInt32 with
    | none, _ => .error (.InvalidOutputTopology "active mode width")
    | some _, none => .error (.InvalidOutputTopology "active mode height")
    | some width, some height =>
      if 2 ^ 32 ≤ refreshHz.toNat * 1000 then
        .error (.InvalidOutputTopology "active mode refresh")
      else
        match NonZeroU32.new (refreshHz * 1000) with
        | none => .error (.InvalidOutputTopology "active mode refresh")
        | some refreshMillihz =>
          .ok ⟨attachment, some ⟨expectedCrtcId, width, height, refreshMillihz, crtc.modeFlags⟩⟩
  else .error (.InvalidOutputTopology "CRTC mode-valid field")

def monitorAttachmentState (connection : UInt32) : Except CastKmsError MonitorAttachmentState :=
  if connection = DRM_MODE_CONNECTED then .ok .Attached
  else if connection = DRM_MODE_DISCONNECTED then .ok .Detached
  else if connection = DRM_MODE_UNKNOWN_CONNECTION then .ok .Unknown
  else .error (.InvalidOutputTopology "connector connection state")

namespace GrantLease

variable (lease : GrantLease) {S : Type}

def queryGrant : QueryM S GrantInfo := do
  let reply : Except Errno DrmCastkmsGetGrant ← issue .getGrant
  let query ← lift (reply.mapError .QueryGrant)
  lift (lease.validateGrant query)

def queryOutputTopology : QueryM S OutputTopology := do
  let reply : Except Errno DrmModeGetConnector ← issue (.getConnector lease.connectorId)
  let connector ← lift (reply.mapError .QueryConnector)
  failIf (connector.connectorId ≠ lease.connectorId ∨ connector.pad ≠ 0)
    (.InvalidOutputTopology "connector identity or padding")
  let attachment ← lift (monitorAttachmentState connector.connection)
  if attachment ≠ .Attached ∨ connector.encoderId = 0 then pure ⟨attachment, none⟩
  else
    let reply : Except Errno DrmModeGetEncoder ← issue (.getEncoder connector.encoderId)
    let encoder ← lift (reply.mapError .QueryEncoder)
    failIf (encoder.encoderId ≠ connector.encoderId)
      (.InvalidOutputTopology "encoder identity")
    match NonZeroU32.new encoder.crtcId with
    | none => pure ⟨attachment, none⟩
    | some crtcId =>
      let reply : Except Errno DrmModeCrtc ← issue (.getCrtc crtcId.get)
      let crtc ← lift (reply.mapError .QueryCrtc)
      lift (outputTopologyFromKernel attachment crtcId crtc)

/-- The tap's frame capacity; its descriptor is owned by the caller. -/
def openAudioTap (nonblocking : Bool) : QueryM S UInt64 := do
  lift (lease.requireRights GRANT_CAPTURE_AUDIO)
  let requested : UInt32 := if nonblocking then O_NONBLOCK else 0
  let reply : Except Errno DrmCastkmsOpenAudioTap ←
    issue (.openAudioTap { connectorId := lease.connectorId, fd := -1, fdFlags := requested })
  let args ← lift (reply.mapError .OpenAudioTap)
  failIf (args.fd < 0) (.InvalidAudioTap "negative descriptor")
  failIf (args.connectorId ≠ lease.connectorId ∨ args.flags ≠ 0 ∨
      args.fdFlags ≠ requested ∨ args.format ≠ AUDIO_FORMAT_S16_LE ∨ args.rate ≠ AUDIO_TAP_RATE ∨
      args.channels ≠ AUDIO_TAP_CHANNELS ∨ args.frameBytes ≠ AUDIO_TAP_FRAME_BYTES ∨
      args.bufferFrames = 0 ∨ args.reserved ≠ 0)
    (.InvalidAudioTap "format or identity")
  let flags : Except Errno UInt32 ← issue (.fcntlGetFd args.fd)
  let descriptorFlags ← lift (flags.mapError .InspectAudioTap)
  failIf (descriptorFlags &&& FD_CLOEXEC = 0) (.InvalidAudioTap "FD_CLOEXEC")
  let flags : Except Errno UInt32 ← issue (.fcntlGetFl args.fd)
  let statusFlags ← lift (flags.mapError .InspectAudioTap)
  failIf ((statusFlags &&& O_NONBLOCK ≠ 0) ≠ nonblocking) (.InvalidAudioTap "O_NONBLOCK")
  pure args.bufferFrames

end GrantLease

end Pronk.CastKms
