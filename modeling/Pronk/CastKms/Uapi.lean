import Pronk.Machine

/-!
# The CastKMS kernel interface

Argument records of the ioctls the client issues, and what each may return. A
field the client neither sets nor reads back is left out. Where the kernel
writes through a pointer, the record holds the array in place of its address.
-/
namespace Pronk.CastKms

def CAPTURE_UAPI_MAJOR : UInt16 := 0
def CAPTURE_UAPI_MINOR : UInt16 := 12
def CAPTURE_CAP_SYNCOBJ_TIMELINE : UInt64 := 1
def CAPTURE_CAP_IMPLICIT_SYNC : UInt64 := 2
def CAPTURE_CAP_GRANT_FD : UInt64 := 8
def CAPTURE_CAP_GRANT_CONTROL_FD : UInt64 := 16
def GRANT_CAPTURE_PIXELS : UInt32 := 1
def GRANT_MANAGE_ATTACHMENT : UInt32 := 2
def GRANT_READ_CURSOR : UInt32 := 8
def GRANT_MANAGE_CEC : UInt32 := 16
def GRANT_CAPTURE_AUDIO : UInt32 := 32
def GRANT_FLAGS_MASK : UInt32 := 3
def CAPTURE_FRAME_MODE_CHANGED : UInt32 := 2
def CAPTURE_START_EXCLUSIVE : UInt32 := 1
def CAPTURE_START_EXCLUDE_CURSOR : UInt32 := 2
def CAPTURE_BUFFER_IMPLICIT_SYNC : UInt32 := 1
def CAPTURE_BUFFER_EXPLICIT_SYNC : UInt32 := 2
def CAPTURE_QUEUE_IMPLICIT_SYNC : UInt32 := 1
def CAPTURE_QUEUE_EXPLICIT_SYNC : UInt32 := 2
/-- `u32::from_le_bytes(*b"XR24")`. -/
def DRM_FORMAT_XRGB8888 : UInt32 := 0x34325258
def DRM_FORMAT_MOD_LINEAR : UInt64 := 0
def DRM_CLOEXEC : UInt32 := 0x00080000
def DRM_RDWR : UInt32 := 2
def DRM_MODE_CONNECTED : UInt32 := 1
def DRM_MODE_DISCONNECTED : UInt32 := 2
def DRM_MODE_UNKNOWN_CONNECTION : UInt32 := 3
def DMA_BUF_EXPORT_SYNC_WRITE : UInt32 := 2
def DRM_SYNCOBJ_HANDLE_TO_FD_FLAGS_NONE : UInt32 := 0
def AUDIO_FORMAT_S16_LE : UInt32 := 1
def AUDIO_TAP_RATE : UInt32 := 48000
def AUDIO_TAP_CHANNELS : UInt32 := 2
def AUDIO_TAP_FRAME_BYTES : UInt32 := 4
/-- `O_NONBLOCK` and `FD_CLOEXEC` on Linux. -/
def O_NONBLOCK : UInt32 := 2048
def FD_CLOEXEC : UInt32 := 1
def CEC_UAPI_MAJOR : UInt32 := 0
def CEC_UAPI_MINOR : UInt32 := 1
def CEC_CAP_ASYNC_TX : UInt64 := 1
def CEC_CAP_RX_INJECT : UInt64 := 2
def CEC_CAP_TRANSPORT_STATE : UInt64 := 8
def CEC_CAP_EDID_PHYS_ADDR : UInt64 := 16
def CEC_TRANSPORT_ONLINE : UInt32 := 1
def CEC_STATE_TRANSPORT_ONLINE : UInt32 := 1
def CEC_STATE_MONITOR_ATTACHED : UInt32 := 2
def CEC_STATE_MASK : UInt32 := 7
def CEC_TX_STATUS_OK : UInt8 := 1
def CEC_TX_STATUS_NACK : UInt8 := 4
def CEC_TX_STATUS_ERROR : UInt8 := 16

structure DrmCastkmsGetGrant where
  (grantId connectorId rights state flags outputIndex : UInt32)
  reserved : UInt64

structure DrmModeGetConnector where
  (encoderId connectorId connection pad : UInt32)

structure DrmModeGetEncoder where
  (encoderId crtcId : UInt32)

structure DrmModeCrtc where
  (crtcId modeValid : UInt32)
  (hdisplay vdisplay : UInt16)
  (vrefresh modeFlags : UInt32)

structure DrmCastkmsCaptureFormat where
  (format flags : UInt32)
  modifier : UInt64

structure DrmCastkmsCaptureQueryCaps where
  (uapiMajor uapiMinor crtcId formatCount : UInt32)
  flags : UInt64
  formats : List DrmCastkmsCaptureFormat
  (maxRegisteredBuffers reserved : UInt32)

structure DrmCastkmsCaptureStart where
  (crtcId flags : UInt32)
  streamId : UInt32 := 0
  reserved : UInt32 := 0
  modeGeneration : UInt64 := 0

structure DrmCastkmsCaptureRegisterBuffer where
  (streamId fbId readySyncobjHandle reuseSyncobjHandle flags : UInt32)
  bufferId : UInt32 := 0
  modeGeneration : UInt64
  deriving DecidableEq

structure DrmCastkmsCaptureQueueBuffer where
  (streamId bufferId flags : UInt32)
  (userData modeGeneration readyPoint reusePoint : UInt64)
  deriving DecidableEq

structure DrmModeCreateDumb where
  (height width bpp : UInt32)
  flags : UInt32 := 0
  handle : UInt32 := 0
  pitch : UInt32 := 0
  size : UInt64 := 0

structure DrmModeFbCmd2 where
  fbId : UInt32 := 0
  (width height pixelFormat : UInt32)
  flags : UInt32 := 0
  (handles pitches : List UInt32)
  offsets : List UInt32 := [0, 0, 0, 0]
  modifier : List UInt64

structure DrmPrimeHandle where
  (handle flags : UInt32)
  fd : Int32

structure DmaBufExportSyncFile where
  flags : UInt32
  fd : Int32

structure DrmSyncobjCreate where
  handle : UInt32 := 0
  flags : UInt32 := 0

structure DrmSyncobjHandle where
  (handle flags : UInt32)
  fd : Int32
  pad : UInt32 := 0
  point : UInt64 := 0

structure DrmSyncobjTimelineArray where
  handles : List UInt32
  points : List UInt64
  countHandles : UInt32
  flags : UInt32 := 0
  deriving DecidableEq

structure DrmSyncobjEventfd where
  handle : UInt32
  flags : UInt32 := 0
  point : UInt64
  fd : Int32
  pad : UInt32 := 0
  deriving DecidableEq

structure DrmCastkmsOpenAudioTap where
  connectorId : UInt32
  flags : UInt32 := 0
  fd : Int32
  fdFlags : UInt32
  format : UInt32 := 0
  rate : UInt32 := 0
  channels : UInt32 := 0
  frameBytes : UInt32 := 0
  bufferFrames : UInt64 := 0
  reserved : UInt64 := 0

structure DrmCastkmsCecQueryCaps where
  connectorId : UInt32
  flags : UInt32 := 0
  uapiMajor : UInt32 := 0
  uapiMinor : UInt32 := 0
  capabilities : UInt64 := 0
  maxMsgSize : UInt32 := 0
  outputIndex : UInt32 := 0
  hasAdapter : UInt32 := 0
  reserved : UInt32 := 0

structure DrmCastkmsCecBindTransport where
  connectorId : UInt32
  flags : UInt32 := 0
  transportId : UInt32 := 0
  reserved : UInt32 := 0
  transportGeneration : UInt64 := 0
  stateGeneration : UInt64 := 0
  outputIndex : UInt32 := 0
  stateFlags : UInt32 := 0
  physAddr : UInt16 := 0
  logicalAddrMask : UInt16 := 0
  pad0 : UInt32 := 0

structure DrmCastkmsCecSetTransportState where
  (connectorId transportId flags : UInt32)

structure DrmCastkmsCecTxComplete where
  (connectorId transportId : UInt32)
  (transportGeneration cookie : UInt64)
  (status arbLostCnt nackCnt lowDriveCnt errorCnt : UInt8)

structure DrmCastkmsCecReceive where
  (connectorId transportId : UInt32)
  transportGeneration : UInt64
  msg : List UInt8

/-- Every system call the modelled client methods issue. -/
inductive Ioctl where
  | getGrant
  | getConnector (connectorId : UInt32)
  | getEncoder (encoderId : UInt32)
  | getCrtc (crtcId : UInt32)
  | queryCaps (crtcId : UInt32) (formatCount : UInt32)
  | captureStart (args : DrmCastkmsCaptureStart)
  | captureStop (streamId : UInt32)
  | registerBuffer (args : DrmCastkmsCaptureRegisterBuffer)
  | unregisterBuffer (streamId bufferId : UInt32)
  | queueBuffer (args : DrmCastkmsCaptureQueueBuffer)
  | createDumb (args : DrmModeCreateDumb)
  | destroyDumb (handle : UInt32)
  | addFb2 (args : DrmModeFbCmd2)
  | rmFb (fbId : UInt32)
  | primeHandleToFd (args : DrmPrimeHandle)
  | exportSyncFile (dmaBuf : Int32) (args : DmaBufExportSyncFile)
  | syncobjCreate (args : DrmSyncobjCreate)
  | syncobjDestroy (handle : UInt32)
  | syncobjHandleToFd (args : DrmSyncobjHandle)
  | syncobjTimelineSignal (args : DrmSyncobjTimelineArray)
  | syncobjEventfd (args : DrmSyncobjEventfd)
  | eventfd
  | dup (fd : Int32)
  | fcntlGetFd (fd : Int32)
  | fcntlGetFl (fd : Int32)
  | openAudioTap (args : DrmCastkmsOpenAudioTap)
  | detachMonitor (connectorId : UInt32)
  | cecQueryCaps (args : DrmCastkmsCecQueryCaps)
  | cecBindTransport (args : DrmCastkmsCecBindTransport)
  | cecSetTransportState (args : DrmCastkmsCecSetTransportState)
  | cecTxComplete (args : DrmCastkmsCecTxComplete)
  | cecReceive (args : DrmCastkmsCecReceive)
  | cecUnbindTransport (connectorId transportId : UInt32)

/-- An ioctl either fails with an error number or returns its argument record,
in which the kernel may have changed any field. -/
@[reducible] def Ioctl.Reply : Ioctl → Type
  | .getGrant => Except Errno DrmCastkmsGetGrant
  | .getConnector _ => Except Errno DrmModeGetConnector
  | .getEncoder _ => Except Errno DrmModeGetEncoder
  | .getCrtc _ => Except Errno DrmModeCrtc
  | .queryCaps _ _ => Except Errno DrmCastkmsCaptureQueryCaps
  | .captureStart _ => Except Errno DrmCastkmsCaptureStart
  | .captureStop _ => Except Errno Unit
  | .registerBuffer _ => Except Errno DrmCastkmsCaptureRegisterBuffer
  | .unregisterBuffer _ _ => Except Errno Unit
  | .queueBuffer _ => Except Errno Unit
  | .createDumb _ => Except Errno DrmModeCreateDumb
  | .destroyDumb _ => Except Errno Unit
  | .addFb2 _ => Except Errno DrmModeFbCmd2
  | .rmFb _ => Except Errno Unit
  | .primeHandleToFd _ => Except Errno DrmPrimeHandle
  | .exportSyncFile _ _ => Except Errno DmaBufExportSyncFile
  | .syncobjCreate _ => Except Errno DrmSyncobjCreate
  | .syncobjDestroy _ => Except Errno Unit
  | .syncobjHandleToFd _ => Except Errno DrmSyncobjHandle
  | .syncobjTimelineSignal _ => Except Errno DrmSyncobjTimelineArray
  | .syncobjEventfd _ => Except Errno DrmSyncobjEventfd
  | .eventfd => Except Errno Int32
  | .dup _ => Except Errno Int32
  | .fcntlGetFd _ => Except Errno UInt32
  | .fcntlGetFl _ => Except Errno UInt32
  | .openAudioTap _ => Except Errno DrmCastkmsOpenAudioTap
  | .detachMonitor _ => Except Errno Unit
  | .cecQueryCaps _ => Except Errno DrmCastkmsCecQueryCaps
  | .cecBindTransport _ => Except Errno DrmCastkmsCecBindTransport
  | .cecSetTransportState _ => Except Errno Unit
  | .cecTxComplete _ => Except Errno Unit
  | .cecReceive _ => Except Errno Unit
  | .cecUnbindTransport _ _ => Except Errno Unit

/-- The ioctl succeeded. A capture stop may also fail. -/
def Ioctl.Succeeds : (c : Ioctl) → c.Reply → Prop
  | .captureStop _, _ => True
  | .getGrant, .ok _ | .getConnector _, .ok _ | .getEncoder _, .ok _ | .getCrtc _, .ok _
  | .queryCaps _ _, .ok _ | .captureStart _, .ok _ | .registerBuffer _, .ok _
  | .unregisterBuffer _ _, .ok _ | .queueBuffer _, .ok _ | .createDumb _, .ok _
  | .destroyDumb _, .ok _ | .addFb2 _, .ok _ | .rmFb _, .ok _ | .primeHandleToFd _, .ok _
  | .exportSyncFile _ _, .ok _ | .syncobjCreate _, .ok _ | .syncobjDestroy _, .ok _
  | .syncobjHandleToFd _, .ok _ | .syncobjTimelineSignal _, .ok _ | .syncobjEventfd _, .ok _
  | .eventfd, .ok _ | .dup _, .ok _ | .fcntlGetFd _, .ok _ | .fcntlGetFl _, .ok _
  | .openAudioTap _, .ok _ | .detachMonitor _, .ok _ | .cecQueryCaps _, .ok _
  | .cecBindTransport _, .ok _ | .cecSetTransportState _, .ok _ | .cecTxComplete _, .ok _
  | .cecReceive _, .ok _ | .cecUnbindTransport _ _, .ok _ => True
  | _, _ => False

end Pronk.CastKms
