import Pronk.Actor.Teardown

/-!
# One capture generation

Starting a generation with its rollback paths, queueing buffers, publishing
captured frames and following the PipeWire source.
-/
namespace Pronk.Actor
open CastKms Capture Interaction Method Media CaptureClient

def requireNotCancelled (operation : String) : ActorM Unit := do
  let cancelled : Bool ← call .isCancelled
  failIf cancelled ⟨operation, [.text "operation was cancelled"]⟩

/-- `rollback_unpublished(..)?` before the error is returned. -/
def rollBackWith {α : Type} (stream : CaptureStreamInfo) (e : KernelDisplayError) : ActorM α := do
  rollbackUnpublished stream
  Method.throw e

/-- The `Err` arm of a start step: roll back and return its error. -/
def orRollBack {α : Type} (stream : CaptureStreamInfo) (r : Except KernelDisplayError α) :
    ActorM α :=
  match r with
  | .ok a => pure a
  | .error e => rollBackWith stream e

def stopStartedSource (mediaGeneration : NonZeroU64) : ActorM Unit := do
  let stopped : VideoStop ← call (.videoStop mediaGeneration)
  match stopped with
  | .failed e => Method.throw ⟨"roll back PipeWire source", [.outside e]⟩
  | _ => pure ()

def validateStreamRoute (stream : CaptureStreamInfo) (request : MediaStartRequest) :
    Except KernelDisplayError Unit :=
  let route := request.route
  if stream.crtcId ≠ route.target.asNonzero ∨ stream.width.get ≠ route.mode.width ∨
      stream.height.get ≠ route.mode.height then
    .error ⟨"validate CastKMS capture route",
      [.text "kernel stream is CRTC ", .number stream.crtcId.get.toNat, .text " at ",
        .number stream.width.get.toNat, .text "x", .number stream.height.get.toNat,
        .text "; route is CRTC ", .number route.target.asNonzero.get.toNat, .text " at ",
        .number route.mode.width.toNat, .text "x", .number route.mode.height.toNat]⟩
  else .ok ()

/-- `allocate_pool` from buffer `index` on. -/
def allocatePool (stream : CaptureStreamInfo) (index : ℕ) : ℕ → ActorM (List CaptureBufferInfo)
  | 0 => pure []
  | left + 1 => do
    let allocated ← capture .actor (allocateLinearXrgb8888Buffer .Explicit)
    let b ← lift (allocated.mapError fun e => (⟨"allocate CastKMS capture pool",
      [.text "buffer ", .number index, .text ": ", .capture e]⟩ : KernelDisplayError))
    failIf (b.streamId ≠ stream.streamId) ⟨"allocate CastKMS capture pool",
      [.text "buffer belongs to another stream"]⟩
    let rest ← allocatePool stream (index + 1) left
    pure (b :: rest)

def exportVideoBuffers (stream : CaptureStreamInfo) : List CaptureBufferInfo →
    ActorM (List VideoBuffer)
  | [] => pure []
  | b :: rest => do
    let reply ← capture .actor (exportCaptureBuffer stream.streamId b.bufferId)
    let exported ← orFail "export CastKMS capture buffer" .capture reply
    let timelines ← okOr exported.timelines ⟨"export CastKMS capture buffer",
      [.text "explicit buffer has no sync timelines"]⟩
    let others ← exportVideoBuffers stream rest
    let layout := exported.layout
    pure (⟨exported.bufferId, exported.dmaBuf,
      ⟨layout.width, layout.height, layout.pitch, layout.size, layout.modifier⟩,
      some timelines⟩ :: others)

def rawVideoCaps (stream : CaptureStreamInfo) : String :=
  "video/x-raw,format=BGRx,width=" ++ toString stream.width.get.toNat ++ ",height=" ++
    toString stream.height.get.toNat ++ ",framerate=" ++ toString stream.refreshHz.get.toNat ++
    "/1"

def rawAudioCaps : String := "audio/x-raw,format=S16LE,layout=interleaved,rate=48000,channels=2"

/-- The identities that every node of a generation carries. -/
structure GenerationIds where
  mediaGeneration : NonZeroU64
  (connectorId grantId : NonZeroU32)

def generationIds (lease : GrantLease) (request : MediaStartRequest) :
    Except KernelDisplayError GenerationIds :=
  match NonZeroU64.new request.mediaGeneration, NonZeroU32.new lease.connectorId,
      NonZeroU32.new lease.grantId with
  | none, _, _ => .error ⟨"start capture generation", [.text "media generation is zero"]⟩
  | some _, none, _ => .error ⟨"start capture generation", [.text "CastKMS connector ID is zero"]⟩
  | some _, some _, none => .error ⟨"start capture generation", [.text "CastKMS grant ID is zero"]⟩
  | some mediaGeneration, some connectorId, some grantId =>
    .ok ⟨mediaGeneration, connectorId, grantId⟩

def videoSourceConfig (config : CastKmsActorConfig) (ids : GenerationIds)
    (stream : CaptureStreamInfo) : VideoSourceConfig where
  nodeName := "pronk.video." ++ config.sessionId ++ "." ++
    toString ids.mediaGeneration.get.toNat
  nodeDescription := config.nodeDescription
  sessionId := config.sessionId
  deviceInstance := config.deviceInstance
  connectorId := ids.connectorId
  outputIndex := config.outputIndex
  grantId := ids.grantId
  mediaGeneration := ids.mediaGeneration
  refreshHz := stream.refreshHz

def audioSourceConfig (config : CastKmsActorConfig) (ids : GenerationIds) :
    AudioSourceConfig where
  nodeName := "pronk.audio." ++ config.sessionId ++ "." ++
    toString ids.mediaGeneration.get.toNat
  nodeDescription := config.nodeDescription ++ " audio"
  sessionId := config.sessionId
  deviceInstance := config.deviceInstance
  connectorId := ids.connectorId
  outputIndex := config.outputIndex
  grantId := ids.grantId
  mediaGeneration := ids.mediaGeneration

def startOptionalKernelAudioSource (config : CastKmsActorConfig) (ids : GenerationIds) :
    ActorM (Option NodeIdentity) :=
  if config.audioProfileId = none then pure none
  else do
    let remote : Except String Unit ← call .createAudioRemote
    orFail "connect classified PipeWire audio producer" .outside remote
    let s ← Method.get
    let tap ← query (s.client.lease.openAudioTap true)
    let _ ← orFail "open grant-scoped CastKMS audio tap" .client tap
    let started : Except String NodeIdentity ← call (.audioStart (audioSourceConfig config ids))
    let source ← orFail "start PipeWire audio source" .outside started
    if source.mediaGeneration ≠ ids.mediaGeneration then do
      let _ ← call .audioShutdown
      fail "start PipeWire audio source" "audio source returned a stale media generation"
    else pure (some source)

def mediaTarget (config : CastKmsActorConfig) (ids : GenerationIds) (kind : DeviceMediaKind)
    (node : NodeIdentity) (caps : String) : DeviceMediaTarget :=
  ⟨kind, node.nodeName, node.objectSerial, config.sessionId, config.deviceInstance,
    ids.connectorId, config.outputIndex, ids.mediaGeneration, caps⟩

def preparedCaptureMedia (config : CastKmsActorConfig) (ids : GenerationIds)
    (request : MediaStartRequest) (stream : CaptureStreamInfo) (video : NodeIdentity)
    (audio : Option NodeIdentity) : PreparedCaptureMedia where
  mediaGeneration := ids.mediaGeneration
  videoTarget := mediaTarget config ids .Video video (rawVideoCaps stream)
  audioTarget := audio.map fun node => mediaTarget config ids .Audio node rawAudioCaps
  configuration := ⟨config.videoProfileId, if audio.isSome then config.audioProfileId else none,
    request.route.mode, config.videoBitrate⟩

/-- The producer connection, unless the cancellation comes first. -/
def connectProducer (stream : CaptureStreamInfo) : ActorM Unit := do
  let connected : Option (Except String Unit) ← call .createProducerRemote
  match connected with
  | none => rollBackWith stream ⟨"start capture generation", [.text "operation was cancelled"]⟩
  | some remote =>
    orRollBack stream (remote.mapError fun e =>
      ⟨"connect classified PipeWire producer", [.outside e]⟩)

/-- Undo a started source and its stream, then return the error. -/
def unwindSource {α : Type} (ids : GenerationIds) (stream : CaptureStreamInfo)
    (e : KernelDisplayError) : ActorM α := do
  stopStartedSource ids.mediaGeneration
  rollBackWith stream e

/-- The PipeWire source and, if a profile asks for it, the audio source. -/
def startSources (config : CastKmsActorConfig) (ids : GenerationIds) (stream : CaptureStreamInfo)
    (buffers : List VideoBuffer) : ActorM (NodeIdentity × Option NodeIdentity) := do
  let started : Except String NodeIdentity ←
    call (.videoStart (videoSourceConfig config ids stream) buffers)
  let identity ← orRollBack stream (started.mapError fun e =>
    ⟨"start PipeWire source", [.outside e]⟩)
  let cancelled : Bool ← call .isCancelled
  if cancelled then
    unwindSource ids stream ⟨"start PipeWire source", [.text "operation was cancelled"]⟩
  else if identity.mediaGeneration ≠ ids.mediaGeneration then
    unwindSource ids stream
      ⟨"start PipeWire source", [.text "source returned a stale media generation"]⟩
  else do
    let audio : Except KernelDisplayError (Option NodeIdentity) ←
      attempt (startOptionalKernelAudioSource config ids)
    match audio with
    | .error e => unwindSource ids stream e
    | .ok source => do
      let cancelled : Bool ← call .isCancelled
      if cancelled then do
        when source.isSome do
          let _ ← call .audioShutdown
        unwindSource ids stream
          ⟨"start PipeWire audio source", [.text "operation was cancelled"]⟩
      else pure (identity, source)

/-- Start capture, pool and sources; a failure rolls the stream back. -/
def startGeneration (config : CastKmsActorConfig) (request : MediaStartRequest) :
    ActorM (ActiveGeneration × PreparedCaptureMedia) := do
  let s ← Method.get
  let ids ← lift (generationIds s.client.lease request)
  requireNotCancelled "start capture generation"
  let queried ← capture .actor
    (queryCaptureCapabilities request.route.target.asNonzero)
  let capabilities ← orFail "query CastKMS capture capabilities" .capture queried
  failIf (capabilities.maxRegisteredBuffers < UInt32.ofNat CAPTURE_POOL_SIZE)
    ⟨"start capture generation", [.text "CastKMS supports ",
      .number capabilities.maxRegisteredBuffers.toNat, .text " buffers; ",
      .number CAPTURE_POOL_SIZE, .text " are required"]⟩
  let started ← capture .actor (startCapture capabilities .IncludeInFrame)
  let stream ← orFail "start CastKMS capture" .capture started
  orRollBack stream (validateStreamRoute stream request)
  let pool : Except KernelDisplayError (List CaptureBufferInfo) ←
    attempt (allocatePool stream 0 CAPTURE_POOL_SIZE)
  let buffers ← orRollBack stream pool
  let admitted : Except KernelDisplayError Unit ←
    attempt (requireNotCancelled "start capture generation")
  orRollBack stream admitted
  connectProducer stream
  let exported : Except KernelDisplayError (List VideoBuffer) ←
    attempt (exportVideoBuffers stream buffers)
  let videoBuffers ← orRollBack stream exported
  let (identity, audioSource) ← startSources config ids stream videoBuffers
  pure ({ mediaGeneration := ids.mediaGeneration, stream, identity, audioSource },
    preparedCaptureMedia config ids request stream identity audioSource)

/-- Whether the generation survives a failed request. -/
inductive QueueFailure where
  | Recoverable (error : KernelDisplayError)
  | Fatal (error : KernelDisplayError)

def queueFailed (message : Message) : KernelDisplayError :=
  ⟨"queue CastKMS capture buffer", message⟩

/-- `maybe_queue` on a generation that may queue its next available buffer. -/
def queueNext (generation : ActiveGeneration) (bufferId : NonZeroU32)
    (available : List NonZeroU32) :
    Method ActorCall ActorCall.Reply ActorState QueueFailure Unit := do
  let popped := { generation with available }
  let keep (g : ActiveGeneration) : Method ActorCall ActorCall.Reply ActorState QueueFailure Unit :=
    Method.modify fun s => { s with active := some g }
  keep popped
  let transport ← okOr (generation.transport bufferId) (.Fatal (queueFailed
    [.text "buffer ", .number bufferId.get.toNat, .text " has no negotiated PipeWire transport"]))
  let userData ← okOr (NonZeroU64.new generation.nextUserData) (.Recoverable (queueFailed
    [.text "user-data counter overflowed"]))
  let queued ← capture .actor (queueCaptureBuffer bufferId userData)
  match queued with
  | .error (.QueueBuffer .EBUSY) => keep { popped with available := bufferId :: available }
  | .error e => Method.throw (.Recoverable (queueFailed [.capture e]))
  | .ok queue => do
    let counted :=
      { popped with nextUserData := (checkedSucc generation.nextUserData).getD 0 }
    keep counted
    let armed ← capture .actor
      (armExplicitCaptureFence generation.stream.streamId bufferId)
    let fence ← lift (armed.mapError fun e =>
      QueueFailure.Fatal ⟨"arm CastKMS capture fence", [.capture e]⟩)
    keep { counted with outstanding := generation.outstanding ++ [⟨queue, fence, transport⟩] }

/-- Queue the next available buffer, unless enough are in flight. -/
def maybeQueue : Method ActorCall ActorCall.Reply ActorState QueueFailure Unit := do
  let s ← Method.get
  match s.active with
  | none => pure ()
  | some generation =>
    if generation.suspended ∨ generation.outstanding.length ≥ MAX_OUTSTANDING_CAPTURE_REQUESTS then
      pure ()
    else
      match generation.available with
      | [] => pure ()
      | bufferId :: available => queueNext generation bufferId available

def captureQueueNeedsRetry (active : Option ActiveGeneration) : Bool :=
  active.any fun g => !g.suspended &&
    g.outstanding.length < MAX_OUTSTANDING_CAPTURE_REQUESTS && g.available ≠ []

def captureQueueMatchesFrame (queue : CaptureQueue) (frame : CaptureFrameEvent) : Bool :=
  frame.streamId = queue.streamId.get && frame.bufferId = queue.bufferId.get &&
    frame.userData = queue.userData.get

/-- `u32::try_from` of a damage coordinate. -/
def damageCoordinate (value : Int32) (message : String) : Except KernelDisplayError UInt32 :=
  if value < 0 then .error ⟨"publish captured frame", [.text message]⟩ else .ok value.toUInt32

def damageExtent (value : UInt32) (message : String) : Except KernelDisplayError NonZeroU32 :=
  match NonZeroU32.new value with
  | some extent => .ok extent
  | none => .error ⟨"publish captured frame", [.text message]⟩

/-- Wait for readiness before a buffer is handed over without a timeline. -/
def waitBeforePublish (outstanding : OutstandingCapture) : ActorM Unit :=
  if outstanding.transport = .Waited then do
    let waited : Option (Except String Unit) ← call (.waitReady outstanding.fence)
    match waited with
    | none =>
      fail "wait for CastKMS capture readiness"
        "timed out before publishing a waited PipeWire buffer"
    | some ready => orFail "wait for CastKMS capture readiness" .outside ready
  else pure ()

def acquirePoint (outstanding : OutstandingCapture) : Option NonZeroU64 :=
  match outstanding.transport with
  | .Waited => none
  | .SyncTimeline => outstanding.queue.readyPoint

/-- Hand the completed buffer to the PipeWire source. -/
def publishFrame (generation : ActiveGeneration) (outstanding : OutstandingCapture)
    (frame : CaptureFrameEvent) (damage : VideoDamage) : ActorM Unit := do
  waitBeforePublish outstanding
  setActive (some { generation with outstanding := generation.outstanding.erase outstanding })
  let delegated ← capture .actor
    (delegateExplicitCaptureCompletion outstanding.fence)
  let completion ← orFail "delegate CastKMS capture completion" .capture delegated
  let published : Except String Unit ← call (.videoPublish generation.mediaGeneration
    { bufferId := completion.queue.bufferId, sequence := frame.sequence,
      ptsNs := frame.timestampNs, damage, discontinuity := frame.droppedFrames ≠ 0,
      acquirePoint := acquirePoint outstanding })
  orFail "publish captured PipeWire frame" .outside published

/-- Publish the frame of the outstanding request. -/
def handleCaptureFrame (frame : CaptureFrameEvent) : ActorM Unit := do
  let s ← Method.get
  let generation ← okOr s.active ⟨"handle CastKMS capture frame",
    [.text "frame arrived without an active media generation"]⟩
  let outstanding ← okOr
    (generation.outstanding.find? fun o => captureQueueMatchesFrame o.queue frame)
    ⟨"handle CastKMS capture frame",
      [.text "frame identity differs from every outstanding buffer"]⟩
  failIf (frame.status ≠ 0 ∨
      frame.modeGeneration ≠ generation.stream.modeGeneration.get)
    ⟨"handle CastKMS capture frame", [.text "capture completed with status ",
      .status frame.status, .text " at mode generation ", .number frame.modeGeneration.toNat]⟩
  let x ← lift (damageCoordinate frame.damageX "negative damage x coordinate")
  let y ← lift (damageCoordinate frame.damageY "negative damage y coordinate")
  let width ← lift (damageExtent frame.damageWidth "zero damage width")
  let height ← lift (damageExtent frame.damageHeight "zero damage height")
  publishFrame generation outstanding frame ⟨x, y, width, height⟩

def sourceEventGeneration : VideoSourceActorEvent → NonZeroU64
  | .BufferAvailable generation _ _ => generation
  | .BufferReleased generation _ => generation
  | .GenerationFailed identity _ => identity.mediaGeneration

/-- Events of an older generation are dropped, those of a newer one are refused. -/
def sourceGenerationIsCurrent (active requested : NonZeroU64) : Except KernelDisplayError Bool :=
  if requested.get < active.get then .ok false
  else if requested = active then .ok true
  else .error ⟨"handle PipeWire source event", [.text "event generation ",
    .number requested.get.toNat, .text "; active generation is ", .number active.get.toNat]⟩

def sourceEventFailed {α : Type} (bufferId : NonZeroU32) (message : String) : ActorM α :=
  Method.throw ⟨"handle PipeWire source event",
    [.text "buffer ", .number bufferId.get.toNat, .text message]⟩

/-- What a report of the source does to its generation. -/
def followSource (generation : ActiveGeneration) : VideoSourceActorEvent → ActorM Unit
  | .BufferAvailable _ bufferId transport =>
    if (generation.transport bufferId).isSome then
      sourceEventFailed bufferId " negotiated its transport twice"
    else if bufferId ∈ generation.available then
      sourceEventFailed bufferId " became available twice"
    else setActive (some { generation with
      transports := generation.transports ++ [(bufferId, transport)],
      available := generation.available ++ [bufferId] })
  | .BufferReleased _ bufferId =>
    if (generation.transport bufferId).isNone then
      sourceEventFailed bufferId " was released before transport negotiation"
    else do
      let released ← capture .actor
        (releaseCaptureBuffer generation.stream.streamId bufferId)
      let _ ← orFail "release CastKMS capture buffer" .capture released
      setActive (some { generation with available := generation.available ++ [bufferId] })
  | .GenerationFailed _ error => do
    setActive (some { generation with sourceActive := false })
    Method.throw ⟨"run PipeWire source generation", [.outside error]⟩

def handleSourceEvent (event : VideoSourceActorEvent) : ActorM Unit := do
  let s ← Method.get
  let generation ← okOr s.active ⟨"handle PipeWire source event",
    [.text "no active generation"]⟩
  let current ← lift
    (sourceGenerationIsCurrent generation.mediaGeneration (sourceEventGeneration event))
  if current then followSource generation event else pure ()

end Pronk.Actor
