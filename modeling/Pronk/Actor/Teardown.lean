import Pronk.Actor.State

/-!
# Tearing a capture generation down

`stop_active`, the drain of outstanding requests and the paths that lead to it.
Failures are collected and reported together; none of them cuts the teardown
short. The drain loop recurses on the event reads that still end before its
deadline.
-/
namespace Pronk.Actor
open CastKms Capture Interaction Method CaptureClient

/-- `record_capture_events`: frames are recorded in order up to the first rejected
one. -/
def recordCaptureEvents : List CastKmsEvent → ActorM (Except EventReadError Unit)
  | [] => pure (.ok ())
  | .CaptureFrame frame :: rest => do
    let recorded ← capture .actor (recordCaptureFrame frame)
    match recorded with
    | .ok () => recordCaptureEvents rest
    | .error e => pure (.error (.CaptureProtocol e))
  | _ :: rest => recordCaptureEvents rest

/-- The end of `read_events` and `try_read_events`. A batch whose frames cannot all be recorded
is lost, like what a failed read had decoded. -/
def finishRead (read : Except EventReadFailure (List CastKmsEvent)) :
    ActorM (Except EventReadError (List CastKmsEvent)) :=
  match read with
  | .error failure => do
    note (.discarded failure.decoded)
    pure (.error failure.error)
  | .ok events => do
    let recorded ← recordCaptureEvents events
    match recorded with
    | .error e => do
      note (.discarded events)
      pure (.error e)
    | .ok () => pure (.ok events)

def tryReadEvents : ActorM (Except EventReadError (List CastKmsEvent)) := do
  let read : Except EventReadFailure (List CastKmsEvent) ← call .tryReadEvents
  finishRead read

/-- The loop of `release_consumer_owned` over a snapshot of the buffers. -/
def releaseBuffers (streamId : NonZeroU32) : List CaptureBufferInfo → ActorM (List Message)
  | [] => pure []
  | b :: rest =>
    if b.state = .ConsumerOwned then do
      let released ← capture .actor (releaseCaptureBuffer streamId b.bufferId)
      let failures ← releaseBuffers streamId rest
      match released with
      | .ok _ => pure failures
      | .error e => pure ([.text "release consumer-owned CastKMS buffer ",
          .number b.bufferId.get.toNat, .text ": ", .capture e] :: failures)
    else releaseBuffers streamId rest

def releaseConsumerOwned (stream : CaptureStreamInfo) : ActorM (List Message) := do
  let s ← Method.get
  releaseBuffers stream.streamId (s.client.captureBuffers stream.streamId)

def drainFailed {α : Type} (message : String) : ActorM α := fail "drain CastKMS capture" message

/-- Take a completed buffer over its fence and give it back. -/
def drainCompleted (fence : ExplicitCaptureFence) : ActorM Unit := do
  let waited : Option (Except String Unit) ← call (.waitReady fence)
  match waited with
  | none => drainFailed "timed out waiting for capture-buffer readiness"
  | some ready => do
    orFail "wait for drained CastKMS capture readiness" .outside ready
    let taken ← capture .actor (takeCaptureCompletion
      ⟨fence.streamId, fence.bufferId, fence.userData, some fence.readyPoint⟩)
    let completion ← orFail "take drained CastKMS completion" .capture taken
    let released ← capture .actor (releaseCaptureBuffer completion.queue.streamId
      completion.queue.bufferId)
    let _ ← orFail "release drained CastKMS completion" .capture released

/-- Read a batch before the deadline and look at the buffer `again`. Of the batch only the
frames were recorded. -/
def drainRead (again : ActorM Unit) : ActorM Unit := do
  let read : Option (Except EventReadFailure (List CastKmsEvent)) ← call .readEventsBefore
  match read with
  | none => drainFailed "timed out waiting for canceled capture event"
  | some batch => do
    let finished ← finishRead batch
    let events ← orFail "drain CastKMS event stream" .events finished
    note (.drained events)
    again

/-- One iteration of the drain loop; `again` is absent once the deadline passed. -/
def drainStep (outstanding : OutstandingCapture) (retireSilentCancellation : Bool)
    (again : Option (ActorM Unit)) : ActorM Unit := do
  let s ← Method.get
  let found := (s.client.captureBuffers outstanding.queue.streamId).find?
    (·.bufferId = outstanding.queue.bufferId)
  let b ← okOr found ⟨"drain CastKMS capture",
    [.text "queued buffer disappeared during teardown"]⟩
  if b.state = .Queued ∧ retireSilentCancellation then do
    let retired ← capture .actor
      (retireCancelledCaptureBuffer outstanding.queue)
    orFail "retire canceled CastKMS capture" .capture retired
  else
    match again with
    | none => drainFailed "timed out waiting for canceled capture completion"
    | some again =>
      if b.state = .Completed then drainCompleted outstanding.fence
      else if b.state ≠ .Queued then
        Method.throw ⟨"drain CastKMS capture",
          [.text "queued buffer entered unexpected state ", .bufferState b.state]⟩
      else drainRead again

/-- Look at the buffer of a request until it is settled, for so many reads. -/
def drainLoop (outstanding : OutstandingCapture) (retireSilentCancellation : Bool) :
    ℕ → ActorM Unit
  | 0 => drainStep outstanding retireSilentCancellation none
  | left + 1 => drainStep outstanding retireSilentCancellation
      (some (drainLoop outstanding retireSilentCancellation left))

def drainOutstandingCapture (outstanding : OutstandingCapture)
    (retireSilentCancellation : Bool) : ActorM Unit := do
  let deadline : ℕ ← call .drainDeadline
  drainLoop outstanding retireSilentCancellation deadline

/-- Drain every request; the failures are collected. -/
def drainAll (retireSilentCancellation : Bool) : List OutstandingCapture → ActorM (List Message)
  | [] => pure []
  | outstanding :: rest => do
    let drained : Except KernelDisplayError Unit ←
      attempt (drainOutstandingCapture outstanding retireSilentCancellation)
    let failures ← drainAll retireSilentCancellation rest
    match drained with
    | .ok () => pure failures
    | .error e => pure (e.toMessage :: failures)

def shutDownAudio (generation : ActiveGeneration) : ActorM (List Message) :=
  if generation.audioSource.isSome then do
    let shutdown : Except String Unit ← call .audioShutdown
    match shutdown with
    | .ok () => pure []
    | .error e => pure [[.text "shut down PipeWire audio generation: ", .outside e]]
  else pure []

/-- Stop the PipeWire source, unless it is gone already. -/
def stopSource (generation : ActiveGeneration) : ActorM (List Message) :=
  if generation.sourceActive then do
    let stopped : VideoStop ← call (.videoStop generation.mediaGeneration)
    match stopped with
    | .stopped identity =>
      pure (if identity ≠ generation.identity then
        [[.text "PipeWire stop returned another generation identity"]] else [])
    | .shutdown identity source =>
      pure ((if identity ≠ generation.identity then
        [[.text "PipeWire failed stop returned another identity"]] else []) ++
        [[.text "shut down PipeWire generation: ", .outside source]])
    | .noActiveGeneration => pure []
    | .failed e => pure [[.text "stop PipeWire generation: ", .outside e]]
  else pure []

/-- Stop the stream if it is still active. The flag says that its queued requests
were cancelled without an event. -/
def stopStream (stream : CaptureStreamInfo) : ActorM (Bool × List Message) := do
  let s ← Method.get
  if s.client.activeCaptureStream = some stream then
    let stopped ← capture .actor stopCapture
    match stopped with
    | .ok outcome => pure (!outcome.kernelStreamWasGone, [])
    | .error e => pure (false, [[.text "stop CastKMS capture: ", .capture e]])
  else pure (false, [])

def awaitFences : List OutstandingCapture → ActorM (List Message)
  | [] => pure []
  | outstanding :: rest => do
    let waited : Option (Except String Unit) ← call (.waitReady outstanding.fence)
    let failures ← awaitFences rest
    match waited with
    | some (.ok ()) => pure failures
    | some (.error e) =>
      pure ([.text "wait for stopped CastKMS capture fence: ", .outside e] :: failures)
    | none => pure ([.text "timed out waiting for stopped CastKMS capture fence"] :: failures)

/-- Whether the requests that are still queued may be retired without an event. -/
def canRetireSilentCancellations (silent : Bool) (outstanding : List OutstandingCapture) :
    ActorM (Bool × List Message) :=
  if silent then do
    let failures ← awaitFences outstanding
    if failures = [] then
      let read ← tryReadEvents
      match read with
      | .ok events => do
        note (.drained events)
        pure (true, [])
      | .error e =>
        pure (false, [[.text "drain completed CastKMS events after stop: ", .events e]])
    else pure (false, failures)
  else pure (false, [])

/-- Destroy the retired pool. -/
def finishPool (streamId : NonZeroU32) : ActorM (Option RetiredCaptureStream × List Message) := do
  let finished ← capture .actor (finishRetiredCapture streamId)
  match finished with
  | .ok retired => pure (some retired, [])
  | .error e => pure (none, [[.text "destroy retired CastKMS capture pool: ", .capture e]])

/-- The body of `stop_active` once the generation was taken. -/
def stopGeneration (generation : ActiveGeneration) : ActorM (Except KernelDisplayError Unit) := do
  let audio ← shutDownAudio generation
  let source ← stopSource generation
  let released ← releaseConsumerOwned generation.stream
  let (silent, stopped) ← stopStream generation.stream
  let (retire, waited) ← canRetireSilentCancellations silent generation.outstanding
  let drained ← drainAll retire generation.outstanding
  let releasedLate ← releaseConsumerOwned generation.stream
  let (destroyed, finished) ← finishPool generation.stream.streamId
  let result := combinedKernelFailures "stop capture generation"
    (audio ++ source ++ released ++ stopped ++ waited ++ drained ++ releasedLate ++ finished)
  note (.tornDown ⟨generation.stream, result, destroyed⟩)
  pure result

/-- Tear the active generation down. -/
def stopActive : ActorM (Except KernelDisplayError Unit) := do
  let s ← Method.get
  match s.active with
  | none => pure (.ok ())
  | some generation =>
    setActive none
    stopGeneration generation

/-- Tear the active generation down and report its failure. -/
def failActive (error : Message) : ActorM Unit := do
  let cleanup ← stopActive
  match cleanup with
  | .ok () => publish (.MediaFailed error)
  | .error e =>
    publish (.MediaFailed (error ++ .text "; cleanup also failed: " :: e.toMessage))
    Method.throw ⟨"recover failed media generation",
      .text "cleanup failed after media error: " :: e.toMessage⟩

def rollbackUnpublished (stream : CaptureStreamInfo) : ActorM Unit := do
  let s ← Method.get
  when (s.client.activeCaptureStream = some stream) do
    let stopped ← capture .actor stopCapture
    let _ ← orFail "roll back CastKMS capture" .capture stopped
  let s ← Method.get
  when (s.client.captureBuffers stream.streamId ≠ []) do
    let finished ← capture .actor (finishRetiredCapture stream.streamId)
    let _ ← orFail "destroy rolled-back capture pool" .capture finished

end Pronk.Actor
