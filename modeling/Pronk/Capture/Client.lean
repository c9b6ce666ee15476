import Pronk.Capture.Tracker
import Pronk.Library.Interaction

/-!
# Capture operations of the CastKMS client

Each operation is a method over the lease and the tracker whose ioctls are
requests. Validation after an ioctl reads the reply, so a kernel that changes a
field, returns a zero or repeats an identifier is part of the model. Owned
descriptors are closed on drop, which no operation observes.
-/
namespace Pronk.Capture
open CastKms Interaction Method

/-- The lease and the capture tracker of a client. -/
structure CaptureClient where
  lease : GrantLease
  capture : CaptureTracker := {}

/-- The methods of the capture client. -/
abbrev ClientM (α : Type) := Method Ioctl Ioctl.Reply CaptureClient CaptureError α

namespace CaptureClient

def ioctl (c : Ioctl) : ClientM c.Reply := request c

def setCapture (capture : CaptureTracker) : ClientM Unit :=
  Method.modify fun client => { client with capture }

/-- `get_or_insert` on two cleanup results: the first error is kept. -/
def firstError (a b : Except CaptureError Unit) : Except CaptureError Unit :=
  match a with
  | .ok () => b
  | .error e => .error e

def queryGrant : ClientM GrantInfo := do
  let client ← Method.get
  let reply : Except Errno DrmCastkmsGetGrant ← ioctl .getGrant
  let query ← lift (reply.mapError fun e => .Client (.QueryGrant e))
  lift ((client.lease.validateGrant query).mapError .Client)

def requireRights (required : UInt32) : ClientM Unit := do
  let client ← Method.get
  lift ((client.lease.requireRights required).mapError .Client)

def queryCrtcMode (crtcId : NonZeroU32) : ClientM (NonZeroU32 × NonZeroU32 × NonZeroU32) := do
  let reply : Except Errno DrmModeCrtc ← ioctl (.getCrtc crtcId.get)
  let crtc ← lift (reply.mapError .QueryCrtc)
  failIf (crtc.crtcId ≠ crtcId.get) (.InvalidKernelResult "CRTC query changed the CRTC ID")
  failIf (crtc.modeValid ≠ 1) (.InvalidCrtcMode "CRTC has no active mode")
  let width ← okOr (NonZeroU32.new crtc.hdisplay.toUInt32)
    (.InvalidCrtcMode "zero horizontal display")
  let height ← okOr (NonZeroU32.new crtc.vdisplay.toUInt32)
    (.InvalidCrtcMode "zero vertical display")
  let refreshHz ← okOr (NonZeroU32.new crtc.vrefresh) (.InvalidCrtcMode "zero refresh rate")
  pure (width, height, refreshHz)

def destroySyncobj (handle : NonZeroU32) : ClientM (Except Errno Unit) :=
  ioctl (.syncobjDestroy handle.get)

def destroySyncobjBestEffort (handle : NonZeroU32) : ClientM Unit := do
  let _ ← destroySyncobj handle

def destroySyncobjPair (pair : OwnedSyncobjPair) : ClientM (Except CaptureError Unit) := do
  let ready ← destroySyncobj pair.readyHandle
  let reuse ← destroySyncobj pair.reuseHandle
  pure (firstError (ready.mapError .DestroyReadySyncobj) (reuse.mapError .DestroyReuseSyncobj))

def destroySyncobjPairBestEffort : TrackedSynchronization → ClientM Unit
  | .Implicit => pure ()
  | .Explicit pair => do
    let _ ← destroySyncobjPair pair

def createSyncobj (mapError : Errno → CaptureError) : ClientM NonZeroU32 := do
  let reply : Except Errno DrmSyncobjCreate ← ioctl (.syncobjCreate {})
  let args ← lift (reply.mapError mapError)
  let handle ← okOr (NonZeroU32.new args.handle) (.ZeroKernelIdentifier "syncobj handle")
  if args.flags ≠ 0 then
    destroySyncobjBestEffort handle
    Method.throw (.InvalidKernelResult "syncobj creation modified immutable flags")
  else pure handle

def createSyncobjPair : ClientM OwnedSyncobjPair := do
  let readyHandle ← createSyncobj .CreateReadySyncobj
  let created : Except CaptureError NonZeroU32 ←
    attempt (createSyncobj .CreateReuseSyncobj)
  match created with
  | .error e =>
    destroySyncobjBestEffort readyHandle
    Method.throw e
  | .ok reuseHandle =>
    if readyHandle = reuseHandle then
      destroySyncobjBestEffort readyHandle
      Method.throw (.InvalidKernelResult "syncobj creation returned duplicate live handles")
    else pure ⟨readyHandle, reuseHandle⟩

def signalArgs (handle : NonZeroU32) (point : NonZeroU64) : DrmSyncobjTimelineArray :=
  { handles := [handle.get], points := [point.get], countHandles := 1 }

def signalSyncobjPoint (handle : NonZeroU32) (point : NonZeroU64) : ClientM Unit := do
  let args := signalArgs handle point
  let reply : Except Errno DrmSyncobjTimelineArray ← ioctl (.syncobjTimelineSignal args)
  let result ← lift (reply.mapError .SignalReusePoint)
  failIf (result ≠ args)
    (.InvalidKernelResult "syncobj timeline signal modified immutable fields")

def removeFramebufferBestEffort (framebufferId : UInt32) : ClientM Unit :=
  if framebufferId = 0 then pure () else do
    let _ ← ioctl (.rmFb framebufferId)

def destroyDumbBestEffort (gemHandle : UInt32) : ClientM Unit :=
  if gemHandle = 0 then pure () else do
    let _ ← ioctl (.destroyDumb gemHandle)

def stopStreamBestEffort (streamId : UInt32) : ClientM Unit :=
  if streamId = 0 then pure () else do
    let _ ← ioctl (.captureStop streamId)

def cleanupOwnedFramebuffer (framebufferId : NonZeroU32) (owned : OwnedFramebuffer) :
    ClientM (Except CaptureError Unit) := do
  let removed : Except Errno Unit ← ioctl (.rmFb framebufferId.get)
  let destroyed : Except Errno Unit ← ioctl (.destroyDumb owned.gemHandle.get)
  pure (firstError (removed.mapError .RemoveFramebuffer) (destroyed.mapError .DestroyDumbBuffer))

def cleanupTrackedBufferResources (b : TrackedBuffer) : ClientM (Except CaptureError Unit) := do
  let syncobjs ← match b.synchronization with
    | .Implicit => pure (.ok ())
    | .Explicit pair => destroySyncobjPair pair
  let framebuffer ← match b.ownedFramebuffer with
    | none => pure (.ok ())
    | some owned => cleanupOwnedFramebuffer b.framebufferId owned
  pure (firstError syncobjs framebuffer)

def releaseSyncobjs (b : TrackedBuffer) : ClientM (Except CaptureError Unit) :=
  match b.synchronization with
  | .Implicit => pure (.ok ())
  | .Explicit pair => destroySyncobjPair pair

def releaseFramebuffer (b : TrackedBuffer) : ClientM (Except CaptureError Unit) :=
  match b.ownedFramebuffer with
  | none => pure (.ok ())
  | some owned => cleanupOwnedFramebuffer b.framebufferId owned

lemma cleanupTrackedBufferResources_eq (b : TrackedBuffer) :
    cleanupTrackedBufferResources b =
      releaseSyncobjs b >>= fun syncobjs =>
        releaseFramebuffer b >>= fun framebuffer => pure (firstError syncobjs framebuffer) := by
  unfold cleanupTrackedBufferResources releaseSyncobjs releaseFramebuffer
  cases b.synchronization with
  | Implicit => cases b.ownedFramebuffer <;> rfl
  | Explicit pair => cases b.ownedFramebuffer <;> rfl

def activeCaptureStream (client : CaptureClient) : Option CaptureStreamInfo :=
  client.capture.active.map (·.info)

def retiredCaptureStream (client : CaptureClient) : Option CaptureStreamInfo :=
  client.capture.retired.map (·.info)

def captureBuffers (client : CaptureClient) (streamId : NonZeroU32) : List CaptureBufferInfo :=
  (client.capture.stream streamId).elim [] (·.bufferInfos)

def validateCapabilityHeader (lease : GrantLease) (crtcId : NonZeroU32)
    (query : DrmCastkmsCaptureQueryCaps) : Except CaptureError Unit :=
  if query.uapiMajor ≠ CAPTURE_UAPI_MAJOR.toUInt32 ∨ query.uapiMinor < CAPTURE_UAPI_MINOR.toUInt32 ∨
      query.uapiMajor ≠ lease.captureUapiMajor.toUInt32 ∨
      query.uapiMinor < lease.captureUapiMinor.toUInt32 then
    .error (.InvalidCapabilities "UAPI version")
  else if query.crtcId ≠ crtcId.get then .error (.InvalidCapabilities "CRTC ID")
  else if query.reserved ≠ 0 then .error (.InvalidCapabilities "reserved field")
  else if query.flags &&& CAPTURE_CAP_GRANT_FD = 0 then
    .error (.InvalidCapabilities "grant-fd capability")
  else if query.flags &&& CAPTURE_CAP_GRANT_CONTROL_FD = 0 then
    .error (.InvalidCapabilities "grant-control-fd capability")
  else if query.flags &&& (CAPTURE_CAP_SYNCOBJ_TIMELINE ||| CAPTURE_CAP_IMPLICIT_SYNC) = 0 then
    .error (.InvalidCapabilities "synchronization modes")
  else if query.maxRegisteredBuffers = 0 then .error (.InvalidCapabilities "zero buffer limit")
  else .ok ()

/-- The format array after a query: the kernel writes at most the entries that
were passed in, and what it leaves is zero. -/
def rawFormats (count : ℕ) (query : DrmCastkmsCaptureQueryCaps) : List DrmCastkmsCaptureFormat :=
  let unset : DrmCastkmsCaptureFormat := ⟨0, 0, 0⟩
  ((query.formats ++ List.replicate count unset).take count).take query.formatCount.toNat

def queryCaptureCapabilities (crtcId : NonZeroU32) : ClientM CaptureCapabilities := do
  let client ← Method.get
  requireRights GRANT_CAPTURE_PIXELS
  let reply : Except Errno DrmCastkmsCaptureQueryCaps ← ioctl (.queryCaps crtcId.get 0)
  let count ← lift (reply.mapError .QueryCapabilities)
  lift (validateCapabilityHeader client.lease crtcId count)
  failIf (count.formatCount = 0) (.InvalidCapabilities "empty format list")
  failIf (count.formatCount.toNat > MAX_CAPTURE_FORMATS)
    (.TooManyFormats count.formatCount MAX_CAPTURE_FORMATS)
  let reply : Except Errno DrmCastkmsCaptureQueryCaps ←
    ioctl (.queryCaps crtcId.get count.formatCount)
  let fill ← lift (reply.mapError .QueryCapabilities)
  lift (validateCapabilityHeader client.lease crtcId fill)
  failIf (fill.uapiMajor ≠ count.uapiMajor ∨ fill.uapiMinor ≠ count.uapiMinor ∨
      fill.flags ≠ count.flags ∨ fill.maxRegisteredBuffers ≠ count.maxRegisteredBuffers ∨
      fill.formatCount > count.formatCount) .CapabilitiesChanged
  let raw := rawFormats count.formatCount.toNat fill
  failIf (raw = []) (.InvalidCapabilities "empty format list")
  failIf (raw.any fun f => f.format = 0 ∨ f.flags ≠ 0) (.InvalidCapabilities "format entry")
  let formats : List CaptureFormat := raw.map fun f => ⟨f.format, f.modifier⟩
  pure ⟨count.uapiMajor.toUInt16, count.uapiMinor.toUInt16, crtcId, count.flags,
    formats, count.maxRegisteredBuffers⟩

/-- `start_capture`: one stream, on the mode the display has. -/
def startCapture (capabilities : CaptureCapabilities) (cursorMode : CursorCaptureMode) :
    ClientM CaptureStreamInfo := do
  let client ← Method.get
  failIf client.capture.active.isSome .ActiveStreamExists
  failIf client.capture.retired.isSome .RetiredStreamExists
  requireRights GRANT_CAPTURE_PIXELS
  when (cursorMode = .IncludeInFrame) (requireRights GRANT_READ_CURSOR)
  let grant ← queryGrant
  failIf (grant.state ≠ .Active) (.GrantNotActive grant.state)
  let (width, height, refreshHz) ← queryCrtcMode capabilities.crtcId
  let flags := if cursorMode = .ExcludeFromFrame then
    CAPTURE_START_EXCLUSIVE ||| CAPTURE_START_EXCLUDE_CURSOR else CAPTURE_START_EXCLUSIVE
  let reply : Except Errno DrmCastkmsCaptureStart ←
    ioctl (.captureStart { crtcId := capabilities.crtcId.get, flags })
  let args ← lift (reply.mapError .Start)
  if args.crtcId ≠ capabilities.crtcId.get ∨ args.flags ≠ flags ∨ args.reserved ≠ 0 then
    stopStreamBestEffort args.streamId
    Method.throw (.InvalidKernelResult "capture start modified immutable fields")
  else
    let streamId ← okOr (NonZeroU32.new args.streamId) (.ZeroKernelIdentifier "stream ID")
    match NonZeroU64.new args.modeGeneration with
    | none =>
      stopStreamBestEffort streamId.get
      Method.throw (.ZeroKernelIdentifier "mode generation")
    | some modeGeneration =>
      let info : CaptureStreamInfo :=
        { streamId, crtcId := capabilities.crtcId, modeGeneration, width, height, refreshHz,
          cursorMode }
      setCapture { client.capture with
        active := some { info, capabilities, stale := false, buffers := [] } }
      pure info

/-- The common exit of `register_capture_buffer` when the reply cannot be
believed: the stream is stopped and retired. -/
def abandonRegistration (streamId : NonZeroU32) (synchronization : TrackedSynchronization)
    (error : CaptureError) : ClientM CaptureBufferInfo := do
  stopStreamBestEffort streamId.get
  Method.modify fun client => { client with capture := client.capture.retireActive.2 }
  destroySyncobjPairBestEffort synchronization
  Method.throw error

/-- Synchronization objects of a new buffer, if the mode is advertised. -/
def trackSynchronization (capabilities : CaptureCapabilities) :
    CaptureSynchronization → ClientM TrackedSynchronization
  | .Implicit => do
    failIf (¬ capabilities.supportsImplicitSync) .ImplicitSyncUnsupported
    pure .Implicit
  | .Explicit => do
    failIf (¬ capabilities.supportsExplicitSync) .ExplicitSyncUnsupported
    let pair ← createSyncobjPair
    pure (.Explicit pair)

def registrationArgs (info : CaptureStreamInfo) (framebufferId : NonZeroU32) :
    TrackedSynchronization → DrmCastkmsCaptureRegisterBuffer
  | .Implicit =>
    { streamId := info.streamId.get, fbId := framebufferId.get, readySyncobjHandle := 0,
      reuseSyncobjHandle := 0, flags := CAPTURE_BUFFER_IMPLICIT_SYNC,
      modeGeneration := info.modeGeneration.get }
  | .Explicit pair =>
    { streamId := info.streamId.get, fbId := framebufferId.get,
      readySyncobjHandle := pair.readyHandle.get, reuseSyncobjHandle := pair.reuseHandle.get,
      flags := CAPTURE_BUFFER_EXPLICIT_SYNC, modeGeneration := info.modeGeneration.get }

/-- `register_capture_buffer`, with its synchronization objects. -/
def registerCaptureBuffer (framebufferId : NonZeroU32)
    (synchronizationMode : CaptureSynchronization) : ClientM CaptureBufferInfo := do
  let client ← Method.get
  let stream ← okOr client.capture.active .NoActiveStream
  failIf stream.stale .StaleStream
  let maxBuffers := stream.capabilities.maxRegisteredBuffers
  failIf (maxBuffers ≤ UInt32.ofNat stream.buffers.length) (.BufferLimit maxBuffers)
  let synchronization ← trackSynchronization stream.capabilities synchronizationMode
  let sent := registrationArgs stream.info framebufferId synchronization
  let reply : Except Errno DrmCastkmsCaptureRegisterBuffer ← ioctl (.registerBuffer sent)
  match reply with
  | .error e =>
    when (e = .ESTALE) (Method.modify fun client =>
      { client with capture := client.capture.markActiveStale stream.info.streamId })
    destroySyncobjPairBestEffort synchronization
    Method.throw (.RegisterBuffer e)
  | .ok args =>
    match NonZeroU32.new args.bufferId with
    | none =>
      abandonRegistration stream.info.streamId synchronization (.ZeroKernelIdentifier "buffer ID")
    | some bufferId =>
      if { args with bufferId := 0 } ≠ sent then
        abandonRegistration stream.info.streamId synchronization
          (.InvalidKernelResult "buffer registration modified immutable fields")
      else if stream.buffers.any (·.id = bufferId) then
        abandonRegistration stream.info.streamId synchronization (.DuplicateBufferId bufferId.get)
      else
        let b : TrackedBuffer :=
          { id := bufferId, framebufferId, synchronization, nextReadyPoint := 1,
            lastReleasePoint := 0, state := .Idle, ownedFramebuffer := none }
        setCapture { client.capture with
          active := some { stream with buffers := stream.buffers ++ [b] } }
        pure (b.info stream.info.streamId)

def validateDumbAllocation (stream : CaptureStreamInfo) (dumb : DrmModeCreateDumb) :
    Except CaptureError (NonZeroU32 × NonZeroU32 × NonZeroU64) :=
  if dumb.width ≠ stream.width.get ∨ dumb.height ≠ stream.height.get ∨ dumb.bpp ≠ 32 ∨
      dumb.flags ≠ 0 then
    .error (.InvalidKernelResult "dumb-buffer creation modified immutable fields")
  else
    match NonZeroU32.new dumb.handle, NonZeroU32.new dumb.pitch, NonZeroU64.new dumb.size with
    | none, _, _ => .error (.InvalidBufferAllocation "zero GEM handle")
    | some _, none, _ => .error (.InvalidBufferAllocation "zero pitch")
    | some _, some _, none => .error (.InvalidBufferAllocation "zero size")
    | some handle, some pitch, some size =>
      if 2 ^ 32 ≤ stream.width.get.toNat * 4 then .error (.InvalidBufferAllocation "pitch overflow")
      else if pitch.get.toNat < stream.width.get.toNat * 4 then
        .error (.InvalidBufferAllocation "pitch is smaller than one XRGB row")
      else if 2 ^ 64 ≤ pitch.get.toNat * stream.height.get.toNat then
        .error (.InvalidBufferAllocation "size overflow")
      else if size.get.toNat < pitch.get.toNat * stream.height.get.toNat then
        .error (.InvalidBufferAllocation "size is smaller than pitch times height")
      else if size.get > MAX_CAPTURE_BUFFER_BYTES then
        .error (.InvalidBufferAllocation "size exceeds the client allocation bound")
      else .ok (handle, pitch, size)

def validateFramebufferResult (framebuffer : DrmModeFbCmd2) (layout : CaptureBufferLayout)
    (gemHandle : NonZeroU32) : Except CaptureError NonZeroU32 :=
  if framebuffer.width ≠ layout.width.get ∨ framebuffer.height ≠ layout.height.get ∨
      framebuffer.pixelFormat ≠ layout.format ∨ framebuffer.flags ≠ 0 ∨
      framebuffer.handles ≠ [gemHandle.get, 0, 0, 0] ∨
      framebuffer.pitches ≠ [layout.pitch.get, 0, 0, 0] ∨
      framebuffer.offsets ≠ [0, 0, 0, 0] ∨ framebuffer.modifier ≠ [layout.modifier, 0, 0, 0] then
    .error (.InvalidKernelResult "framebuffer creation modified immutable fields")
  else
    match NonZeroU32.new framebuffer.fbId with
    | some framebufferId => .ok framebufferId
    | none => .error (.InvalidBufferAllocation "zero framebuffer ID")

/-- `owned_fd_from_kernel`: both failures report the same operation. -/
def ownedFdFromKernel (rawFd : Int32) (immutableFieldsValid : Prop)
    [Decidable immutableFieldsValid] (operation : String) : Except CaptureError Int32 :=
  if rawFd < 0 then .error (.InvalidKernelResult operation)
  else if immutableFieldsValid then .ok rawFd
  else .error (.InvalidKernelResult operation)

/-- The unwinding of a framebuffer that could not be registered. -/
def dropFramebuffer (framebufferId gemHandle : UInt32) (error : CaptureError) {α : Type} :
    ClientM α := do
  removeFramebufferBestEffort framebufferId
  destroyDumbBestEffort gemHandle
  Method.throw error

/-- The dumb buffer, its framebuffer and its exported DMA-BUF. -/
def createOwnedFramebuffer (info : CaptureStreamInfo) :
    ClientM (NonZeroU32 × OwnedFramebuffer) := do
  let created : Except Errno DrmModeCreateDumb ←
    ioctl (.createDumb { width := info.width.get, height := info.height.get, bpp := 32 })
  let dumb ← lift (created.mapError .CreateDumbBuffer)
  match validateDumbAllocation info dumb with
  | .error e =>
    destroyDumbBestEffort dumb.handle
    Method.throw e
  | .ok (gemHandle, pitch, size) =>
    let layout : CaptureBufferLayout :=
      { width := info.width, height := info.height, format := DRM_FORMAT_XRGB8888,
        modifier := DRM_FORMAT_MOD_LINEAR, pitch, size }
    let added : Except Errno DrmModeFbCmd2 ← ioctl (.addFb2
      { width := layout.width.get, height := layout.height.get, pixelFormat := layout.format,
        handles := [gemHandle.get, 0, 0, 0], pitches := [layout.pitch.get, 0, 0, 0],
        modifier := [layout.modifier, 0, 0, 0] })
    match added with
    | .error e =>
      destroyDumbBestEffort gemHandle.get
      Method.throw (.AddFramebuffer e)
    | .ok framebuffer =>
      match validateFramebufferResult framebuffer layout gemHandle with
      | .error e => dropFramebuffer framebuffer.fbId gemHandle.get e
      | .ok framebufferId =>
        let exported : Except Errno DrmPrimeHandle ← ioctl (.primeHandleToFd
          { handle := gemHandle.get, flags := DRM_CLOEXEC ||| DRM_RDWR, fd := -1 })
        match exported with
        | .error e => dropFramebuffer framebufferId.get gemHandle.get (.ExportDmaBuf e)
        | .ok prime =>
          match ownedFdFromKernel prime.fd
              (prime.handle = gemHandle.get ∧ prime.flags = DRM_CLOEXEC ||| DRM_RDWR)
              "DMA-BUF export" with
          | .error e => dropFramebuffer framebufferId.get gemHandle.get e
          | .ok dmaBuf => pure (framebufferId, ⟨gemHandle, layout, dmaBuf⟩)

/-- The two `expect`s that follow a successful registration are the error
branches of the last two matches. -/
def allocateLinearXrgb8888Buffer (synchronization : CaptureSynchronization) :
    ClientM CaptureBufferInfo := do
  let client ← Method.get
  let stream ← okOr client.capture.active .NoActiveStream
  failIf stream.stale .StaleStream
  let maxBuffers := stream.capabilities.maxRegisteredBuffers
  failIf (maxBuffers ≤ UInt32.ofNat stream.buffers.length) (.BufferLimit maxBuffers)
  failIf (¬ stream.capabilities.formats.any fun f =>
      f.format = DRM_FORMAT_XRGB8888 ∧ f.modifier = DRM_FORMAT_MOD_LINEAR)
    (.InvalidCapabilities "linear XRGB8888 is unavailable")
  let (framebufferId, owned) ← createOwnedFramebuffer stream.info
  let registration : Except CaptureError CaptureBufferInfo ←
    attempt (registerCaptureBuffer framebufferId synchronization)
  match registration with
  | .error e =>
    let _ ← cleanupOwnedFramebuffer framebufferId owned
    Method.throw e
  | .ok registered =>
    let client ← Method.get
    match client.capture.active with
    | none => Method.throw .NoActiveStream
    | some stream =>
      match stream.buffer registered.bufferId with
      | none => Method.throw (.UnknownBuffer registered.bufferId.get)
      | some b =>
        let b := { b with ownedFramebuffer := some owned }
        setCapture { client.capture with active := some (stream.setBuffer registered.bufferId b) }
        pure (b.info registered.streamId)

def exportSyncobjFd (handle : NonZeroU32) (mapError : Errno → CaptureError) :
    ClientM Int32 := do
  let reply : Except Errno DrmSyncobjHandle ← ioctl (.syncobjHandleToFd
    { handle := handle.get, flags := DRM_SYNCOBJ_HANDLE_TO_FD_FLAGS_NONE, fd := -1 })
  let args ← lift (reply.mapError mapError)
  lift (ownedFdFromKernel args.fd
    (args.handle = handle.get ∧ args.flags = DRM_SYNCOBJ_HANDLE_TO_FD_FLAGS_NONE ∧ args.pad = 0 ∧
      args.point = 0) "syncobj fd export")

/-- The timelines that an export carries for an explicit buffer. -/
def exportTimelines : TrackedSynchronization → ClientM (Option CaptureSyncobjTimelines)
  | .Implicit => pure none
  | .Explicit pair => do
    let ready ← exportSyncobjFd pair.readyHandle .ExportReadySyncobj
    let reuse ← exportSyncobjFd pair.reuseHandle .ExportReuseSyncobj
    pure (some ⟨ready, reuse⟩)

def exportCaptureBuffer (streamId bufferId : NonZeroU32) : ClientM CaptureBufferExport := do
  let client ← Method.get
  let stream ← okOr (client.capture.stream streamId) (.UnknownRetiredStream streamId.get)
  let b ← okOr (stream.buffer bufferId) (.UnknownBuffer bufferId.get)
  let owned ← okOr b.ownedFramebuffer (.ExternalBuffer bufferId.get)
  let reply : Except Errno Int32 ← ioctl (.dup owned.dmaBuf)
  let dmaBuf ← lift (reply.mapError .DuplicateDmaBuf)
  let timelines ← exportTimelines b.synchronization
  pure ⟨streamId, bufferId, owned.layout, dmaBuf, b.synchronization.public, timelines⟩

def exportImplicitCaptureFence (streamId bufferId : NonZeroU32) :
    ClientM ImplicitCaptureFence := do
  let client ← Method.get
  let stream ← okOr (client.capture.stream streamId) (.UnknownRetiredStream streamId.get)
  let b ← okOr (stream.buffer bufferId) (.UnknownBuffer bufferId.get)
  match b.synchronization, b.state with
  | .Explicit _, _ => Method.throw (.NotImplicitBuffer bufferId.get)
  | .Implicit, .Queued queue =>
    let owned ← okOr b.ownedFramebuffer (.ExternalBuffer bufferId.get)
    let reply : Except Errno DmaBufExportSyncFile ←
      ioctl (.exportSyncFile owned.dmaBuf { flags := DMA_BUF_EXPORT_SYNC_WRITE, fd := -1 })
    let args ← lift (reply.mapError .ExportImplicitFence)
    let fence ← lift (ownedFdFromKernel args.fd (args.flags = DMA_BUF_EXPORT_SYNC_WRITE)
      "implicit fence export")
    pure ⟨streamId, bufferId, queue.userData, fence⟩
  | .Implicit, state => Method.throw (.InvalidBufferState bufferId.get .Queued state.public)

def armExplicitCaptureFence (streamId bufferId : NonZeroU32) : ClientM ExplicitCaptureFence := do
  let client ← Method.get
  let stream ← okOr (client.capture.stream streamId) (.UnknownRetiredStream streamId.get)
  let b ← okOr (stream.buffer bufferId) (.UnknownBuffer bufferId.get)
  match b.synchronization, b.state with
  | .Implicit, _ => Method.throw (.NotExplicitBuffer bufferId.get)
  | .Explicit pair, .Queued queue =>
    let readyPoint ← okOr queue.readyPoint
      (.InvalidKernelResult "explicit queue has no ready point")
    let created : Except Errno Int32 ← ioctl .eventfd
    let event ← lift (created.mapError .CreateExplicitEventFd)
    let args : DrmSyncobjEventfd :=
      { handle := pair.readyHandle.get, point := readyPoint.get, fd := event }
    let reply : Except Errno DrmSyncobjEventfd ← ioctl (.syncobjEventfd args)
    let result ← lift (reply.mapError .ArmExplicitFence)
    failIf (result ≠ args)
      (.InvalidKernelResult "syncobj eventfd registration modified immutable fields")
    pure ⟨streamId, bufferId, queue.userData, readyPoint, event⟩
  | .Explicit _, state =>
    Method.throw (.InvalidBufferState bufferId.get .Queued state.public)

def unregisterCaptureBuffer (bufferId : NonZeroU32) : ClientM CaptureBufferInfo := do
  let client ← Method.get
  let stream ← okOr client.capture.active .NoActiveStream
  let index ← okOr (stream.bufferIndex bufferId) (.UnknownBuffer bufferId.get)
  let b ← okOr stream.buffers[index]? (.UnknownBuffer bufferId.get)
  lift (requireBufferState b .Idle)
  let reply : Except Errno Unit ←
    ioctl (.unregisterBuffer stream.info.streamId.get bufferId.get)
  lift (reply.mapError .UnregisterBuffer)
  setCapture { client.capture with
    active := some { stream with buffers := stream.buffers.eraseIdx index } }
  let cleaned ← cleanupTrackedBufferResources b
  lift cleaned
  pure (b.info stream.info.streamId)

def queueArgs (info : CaptureStreamInfo) (queue : CaptureQueue)
    (synchronization : CaptureSynchronization) : DrmCastkmsCaptureQueueBuffer where
  streamId := info.streamId.get
  bufferId := queue.bufferId.get
  flags := match synchronization with
    | .Implicit => CAPTURE_QUEUE_IMPLICIT_SYNC
    | .Explicit => CAPTURE_QUEUE_EXPLICIT_SYNC
  userData := queue.userData.get
  modeGeneration := info.modeGeneration.get
  readyPoint := queue.readyPoint.elim 0 NonZeroU64.get
  reusePoint := queue.reusePoint.elim 0 NonZeroU64.get

/-- `queue_capture_buffer`: an idle buffer is handed to the kernel. -/
def queueCaptureBuffer (bufferId : NonZeroU32) (userData : NonZeroU64) :
    ClientM CaptureQueue := do
  let client ← Method.get
  let stream ← okOr client.capture.active .NoActiveStream
  failIf stream.stale .StaleStream
  failIf (¬ stream.hasCaptureQueueCapacity) .CaptureQueueFull
  failIf (stream.buffers.any fun b => (b.state.queue?.any (·.userData = userData)))
    (.DuplicateUserData userData.get)
  let b ← okOr (stream.buffer bufferId) (.UnknownBuffer bufferId.get)
  lift (requireBufferState b .Idle)
  let points ← lift (queuePoints b)
  let queue : CaptureQueue :=
    { streamId := stream.info.streamId, bufferId, userData, readyPoint := points.ready,
      reusePoint := points.reuse }
  let reply : Except Errno Unit ←
    ioctl (.queueBuffer (queueArgs stream.info queue b.synchronization.public))
  match reply with
  | .error e =>
    when (e = .ESTALE) (Method.modify fun client =>
      { client with capture := client.capture.markActiveStale stream.info.streamId })
    Method.throw (.QueueBuffer e)
  | .ok () =>
    setCapture { client.capture with active := some (stream.setBuffer bufferId
      { b with nextReadyPoint := points.nextReady.getD b.nextReadyPoint, state := .Queued queue }) }
    pure queue

def recordCaptureFrame (event : CaptureFrameEvent) :
    Method Ioctl Ioctl.Reply CaptureClient CaptureProtocolError Unit := do
  let client ← Method.get
  let capture ← lift (client.capture.recordFrame event)
  Method.modify fun client => { client with capture }

/-- `take_capture_completion`: the buffer goes to the consumer. -/
def takeCaptureCompletion (ready : CaptureReady) : ClientM CaptureCompletion := do
  let client ← Method.get
  let stream ← okOr (client.capture.stream ready.streamId)
    (.UnknownRetiredStream ready.streamId.get)
  let b ← okOr (stream.buffer ready.bufferId) (.UnknownBuffer ready.bufferId.get)
  match b.state with
  | .Completed completion =>
    failIf (completion.queue.userData ≠ ready.userData)
      (.ReadyUserDataMismatch completion.queue.userData.get ready.userData.get)
    failIf (completion.queue.readyPoint ≠ ready.readyPoint)
      (.ReadyPointMismatch completion.queue.readyPoint ready.readyPoint)
    setCapture (client.capture.setStream ready.streamId
      (stream.setBuffer ready.bufferId { b with state := .ConsumerOwned completion }))
    pure completion
  | state => Method.throw (.InvalidBufferState ready.bufferId.get .Completed state.public)

def delegateExplicitCaptureCompletion (fence : ExplicitCaptureFence) :
    ClientM CaptureCompletion :=
  takeCaptureCompletion
    { streamId := fence.streamId, bufferId := fence.bufferId, userData := fence.userData,
      readyPoint := some fence.readyPoint }

/-- `release_capture_buffer`: the reuse point is signalled. -/
def releaseCaptureBuffer (streamId bufferId : NonZeroU32) : ClientM CaptureRelease := do
  let client ← Method.get
  let stream ← okOr (client.capture.stream streamId) (.UnknownRetiredStream streamId.get)
  let b ← okOr (stream.buffer bufferId) (.UnknownBuffer bufferId.get)
  lift (requireBufferState b .ConsumerOwned)
  let reusePoint ← lift (nextReusePoint b)
  match b.synchronization, reusePoint with
  | .Explicit pair, some point => signalSyncobjPoint pair.reuseHandle point
  | _, _ => pure ()
  setCapture (client.capture.setStream streamId (stream.setBuffer bufferId
    { b with lastReleasePoint := reusePoint.elim b.lastReleasePoint NonZeroU64.get,
             state := .Idle }))
  pure { streamId, bufferId, reusePoint }

def retireCancelledCaptureBuffer (queue : CaptureQueue) : ClientM Unit := do
  let client ← Method.get
  let stream ← okOr (client.capture.retired.filter (·.info.streamId = queue.streamId))
    (.UnknownRetiredStream queue.streamId.get)
  let b ← okOr (stream.buffer queue.bufferId) (.UnknownBuffer queue.bufferId.get)
  match b.state with
  | .Queued actual =>
    failIf (actual ≠ queue) .CancelledQueueMismatch
    setCapture { client.capture with
      retired := some (stream.setBuffer queue.bufferId { b with state := .Idle }) }
  | state => Method.throw (.InvalidBufferState queue.bufferId.get .Queued state.public)

def stopCapture : ClientM CaptureStopOutcome := do
  let client ← Method.get
  let stream ← okOr client.capture.active .NoActiveStream
  let reply : Except Errno Unit ← ioctl (.captureStop stream.info.streamId.get)
  let kernelStreamWasGone ← match reply with
    | .ok () => pure false
    | .error .ENOENT => pure true
    | .error e => Method.throw (.Stop e)
  setCapture client.capture.retireActive.2
  pure ⟨stream.info, kernelStreamWasGone, client.capture.retireActive.1⟩

def retireInvalidatedCapture : ClientM CaptureStopOutcome := do
  let client ← Method.get
  let stream ← okOr client.capture.active .NoActiveStream
  setCapture client.capture.retireActive.2
  pure ⟨stream.info, true, client.capture.retireActive.1⟩

/-- `reconcile_grant_state`: a stream that must be restarted is retired. -/
def reconcileGrantState (evidence : GrantStateEvidence) : ClientM GrantStateReconciliation := do
  let client ← Method.get
  lift (validateGrantStateEvidence client.lease.grantId evidence)
  let grant ← queryGrant
  let capture ← match client.capture.active, client.capture.retired with
    | some stream, _ =>
      if captureRestartRequired grant.state evidence then do
        let stopped ← if grant.state.isTerminal then retireInvalidatedCapture else stopCapture
        pure (GrantCaptureReconciliation.Retired stopped)
      else pure (.Retained stream.info)
    | none, some stream => pure (.Retiring stream.info)
    | none, none => pure .NoCapture
  pure ⟨grant, evidence, capture⟩

/-- The cleanup loop of `finish_retired_capture`: every buffer is cleaned up and
the first error is kept. -/
def cleanupBuffers : List TrackedBuffer → ClientM (Except CaptureError Unit)
  | [] => pure (.ok ())
  | b :: rest => do
    let first ← cleanupTrackedBufferResources b
    let others ← cleanupBuffers rest
    pure (firstError first others)

/-- `finish_retired_capture`: destroy the pool once it is idle. -/
def finishRetiredCapture (streamId : NonZeroU32) : ClientM RetiredCaptureStream := do
  let client ← Method.get
  let stream ← okOr (client.capture.retired.filter (·.info.streamId = streamId))
    (.UnknownRetiredStream streamId.get)
  failIf (stream.buffers.any (·.state.public ≠ .Idle)) .RetiredStreamBusy
  setCapture { client.capture with retired := none }
  let cleaned ← cleanupBuffers stream.buffers
  lift cleaned
  pure ⟨stream.info, stream.bufferInfos⟩

end CaptureClient

end Pronk.Capture
