import Pronk.Actor.CecBridge
import Pronk.Capture.Client
import Pronk.CastKms.Cec
import Pronk.PipeWire.Tracker

/-!
# State and requests of the CastKMS actor

Everything outside the actor is a request: ioctls of its client, the PipeWire
and audio sources, fence waits and event reads. A wait under a timeout replies
`none` when it timed out. An error's message keeps what the source's format
string quotes instead of its rendering. The trace is a history variable: it
records what the actor did and no branch reads it.
-/
namespace Pronk.Actor
open CastKms Capture Interaction Method Media

export PipeWire (VideoSourceConfig VideoBufferLayout VideoDamage VideoFrame PipeWireBufferTransport)

def CAPTURE_POOL_SIZE : ℕ := 4

/-- `deviceControl` says whether a Device control port is configured. -/
structure CastKmsActorConfig where
  (sessionId deviceInstance nodeDescription : String)
  outputIndex : UInt32
  videoProfileId : String
  audioProfileId : Option String
  videoBitrate : NonZeroU64
  deviceControl : Bool

/-- What a message is put together from. -/
inductive Part where
  | text (value : String)
  | number (value : ℕ)
  | capture (error : CaptureError)
  | client (error : CastKmsError)
  | events (error : EventReadError)
  | outside (error : String)
  | status (value : Int32)
  | bufferState (state : CaptureBufferState)
  | displayGrant (state : DisplayGrantState)
  | grant (state : GrantState)
  deriving DecidableEq

abbrev Message := List Part

/-- What failed, and how. -/
structure KernelDisplayError where
  operation : String
  message : Message
  deriving DecidableEq

/-- `to_string` of an error: its operation, a colon and its message. -/
def KernelDisplayError.toMessage (e : KernelDisplayError) : Message :=
  .text e.operation :: .text ": " :: e.message

/-- What the actor tells its display. -/
inductive KernelDisplayEvent where
  | Changed (observation : KernelDisplayObservation)
  | Revoked
  | MediaFailed (diagnostic : Message)
  deriving DecidableEq

/-- `VideoNodeIdentity` and `AudioNodeIdentity`, which have the same fields. -/
structure NodeIdentity where
  nodeName : String
  objectId : NonZeroU32
  (objectSerial mediaGeneration : NonZeroU64)
  deriving DecidableEq

structure AudioSourceConfig where
  (nodeName nodeDescription sessionId deviceInstance : String)
  connectorId : NonZeroU32
  outputIndex : UInt32
  grantId : NonZeroU32
  mediaGeneration : NonZeroU64

structure VideoBuffer where
  id : NonZeroU32
  dmaBuf : Int32
  layout : VideoBufferLayout
  timelines : Option CaptureSyncobjTimelines

inductive VideoSourceActorEvent where
  | BufferAvailable (mediaGeneration : NonZeroU64) (bufferId : NonZeroU32)
      (transport : PipeWireBufferTransport)
  | BufferReleased (mediaGeneration : NonZeroU64) (bufferId : NonZeroU32)
  | GenerationFailed (identity : NodeIdentity) (error : String)
  deriving DecidableEq

/-- How `video.stop` ends, as far as the actor tells its results apart. -/
inductive VideoStop where
  | stopped (identity : NodeIdentity)
  | shutdown (identity : NodeIdentity) (source : String)
  | noActiveGeneration
  | failed (error : String)

/-- A request that was not seen to complete, with its fence. -/
structure OutstandingCapture where
  queue : CaptureQueue
  fence : ExplicitCaptureFence
  transport : PipeWireBufferTransport
  deriving DecidableEq

/-- What the actor keeps of a running generation. -/
structure ActiveGeneration where
  mediaGeneration : NonZeroU64
  stream : CaptureStreamInfo
  identity : NodeIdentity
  audioSource : Option NodeIdentity
  transports : List (NonZeroU32 × PipeWireBufferTransport) := []
  available : List NonZeroU32 := []
  outstanding : List OutstandingCapture := []
  nextUserData : UInt64 := 1
  sourceActive : Bool := true
  suspended : Bool := true

def ActiveGeneration.transport (g : ActiveGeneration) (bufferId : NonZeroU32) :
    Option PipeWireBufferTransport :=
  (g.transports.find? (·.1 = bufferId)).map (·.2)

/-- The event whose Device operation is running. -/
structure PendingCecControl where
  event : CecTransmitEvent
  operation : DeviceControlOperation

/-- One call of `stop_active` on a generation: its result and, if
`finish_retired_capture` succeeded, the pool it destroyed. -/
structure Teardown where
  stream : CaptureStreamInfo
  result : Except KernelDisplayError Unit
  destroyed : Option RetiredCaptureStream
  deriving DecidableEq

/-- What the actor sends on a command's reply channel. -/
inductive Answer where
  | start (result : Except KernelDisplayError PreparedCaptureMedia)
  | activate (result : Except KernelDisplayError Unit)
  | suspend (result : Except KernelDisplayError Unit)
  | stop (result : Except KernelDisplayError Unit)
  | detach (result : Except KernelDisplayError Unit)
  deriving DecidableEq

/-- A batch is dispatched by the main loop or drained by a teardown. What a read had decoded
before it failed is discarded. -/
inductive Happening where
  | dispatched (events : List CastKmsEvent)
  | drained (events : List CastKmsEvent)
  | discarded (events : List CastKmsEvent)
  | cecTransmit (event : CecTransmitEvent)
  | published (event : KernelDisplayEvent)
  | answered (answer : Answer)
  | tornDown (teardown : Teardown)
  deriving DecidableEq

/-- The variables of `run_actor` and its trace. -/
structure ActorState where
  client : CaptureClient
  cec : CecTracker := {}
  active : Option ActiveGeneration := none
  cecBridge : Option CecBridge := none
  pendingCecControl : Option PendingCecControl := none
  current : KernelDisplayObservation
  trace : List Happening := []
  returned : Option (Except KernelDisplayError Unit) := none

/-- Why an event read failed, and the events that it had decoded until then. -/
structure EventReadFailure where
  error : EventReadError
  decoded : List CastKmsEvent

/-- Whether an ioctl is issued inside `reconcile_grant_state`. The kernel does not
see the difference. -/
inductive Caller where
  | reconcile
  | actor

/-- Everything that the actor asks of the outside. -/
inductive ActorCall where
  | ioctl (caller : Caller) (call : Ioctl)
  | isCancelled
  | createProducerRemote
  | createAudioRemote
  | videoStart (config : VideoSourceConfig) (buffers : List VideoBuffer)
  | videoStop (mediaGeneration : NonZeroU64)
  | videoPublish (mediaGeneration : NonZeroU64) (frame : VideoFrame)
  | videoShutdown
  | audioStart (config : AudioSourceConfig)
  | audioShutdown
  | waitReady (fence : ExplicitCaptureFence)
  | readEvents
  | readEventsBefore
  | tryReadEvents
  | drainDeadline
  | replyStart
  | joinDetach

/-- `createProducerRemote` replies `none` when the cancellation won the select,
`replyStart` whether the caller still waits, and `drainDeadline` the number of
event reads that end before the deadline. A read waits only while it has decoded
nothing, so one that times out loses no event. -/
@[reducible] def ActorCall.Reply : ActorCall → Type
  | .ioctl _ call => call.Reply
  | .isCancelled => Bool
  | .createProducerRemote => Option (Except String Unit)
  | .createAudioRemote => Except String Unit
  | .videoStart _ _ => Except String NodeIdentity
  | .videoStop _ => VideoStop
  | .videoPublish _ _ => Except String Unit
  | .videoShutdown => Except String Unit
  | .audioStart _ => Except String NodeIdentity
  | .audioShutdown => Except String Unit
  | .waitReady _ => Option (Except String Unit)
  | .readEvents => Except EventReadFailure (List CastKmsEvent)
  | .readEventsBefore => Option (Except EventReadFailure (List CastKmsEvent))
  | .tryReadEvents => Except EventReadFailure (List CastKmsEvent)
  | .drainDeadline => ℕ
  | .replyStart => Bool
  | .joinDetach => Except String Unit

/-- The methods of the actor. -/
abbrev ActorM (α : Type) := Method ActorCall ActorCall.Reply ActorState KernelDisplayError α

@[reducible] def call (c : ActorCall) : ActorM c.Reply := request c

/-- Call a method of the client's capture half and look at its result. -/
def capture {ε δ α : Type} (caller : Caller) (m : Method Ioctl Ioctl.Reply CaptureClient ε α) :
    Method ActorCall ActorCall.Reply ActorState δ (Except ε α) :=
  attempt (focus (·.client) (fun c s => { s with client := c })
    (embed (.ioctl caller) m))

/-- Call a method of the client's CEC half and look at its result. -/
def cec {α : Type} (m : CecM α) : ActorM (Except CastKmsError α) :=
  attempt (focus (·.cec) (fun c s => { s with cec := c })
    (embed (.ioctl .actor) m))

/-- Call a query of the client and look at its result. -/
def query {α : Type} (m : QueryM ActorState α) : ActorM (Except CastKmsError α) :=
  attempt (embed (.ioctl .actor) m)

/-- `map_err(..)?` with the operation of the new error and what it quotes. -/
def orFail {ε α : Type} (operation : String) (quote : ε → Part) (r : Except ε α) : ActorM α :=
  lift (r.mapError fun e => ⟨operation, [quote e]⟩)

def fail {α : Type} (operation message : String) : ActorM α :=
  Method.throw ⟨operation, [.text message]⟩

/-- Append to the trace. -/
def note (h : Happening) : ActorM Unit := Method.modify fun s => { s with trace := s.trace ++ [h] }

/-- The result of sending is ignored, as in the source. -/
def publish (event : KernelDisplayEvent) : ActorM Unit := note (.published event)

def setActive (active : Option ActiveGeneration) : ActorM Unit :=
  Method.modify fun s => { s with active }

section Rules

variable {W : Type} (E : Environment W ActorCall ActorCall.Reply) (s : ActorState) (w : W)

@[simp] lemma wp_capture {ε δ α : Type} (caller : Caller)
    (m : Method Ioctl Ioctl.Reply CaptureClient ε α) (ok : Except ε α → ActorState → W → Prop)
    (err : δ → ActorState → W → Prop) :
    (capture caller m).wp E s w ok err ↔
      m.wp (fun w c r w' => E w (.ioctl caller c) r w') s.client w
        (fun a c => ok (.ok a) { s with client := c })
        (fun e c => ok (.error e) { s with client := c }) := by
  rw [capture, wp_attempt, wp_focus]
  exact wp_embed ..

@[simp] lemma wp_cec {α : Type} (m : CecM α)
    (ok : Except CastKmsError α → ActorState → W → Prop)
    (err : KernelDisplayError → ActorState → W → Prop) :
    (cec m).wp E s w ok err ↔
      m.wp (fun w c r w' => E w (.ioctl .actor c) r w') s.cec w
        (fun a c => ok (.ok a) { s with cec := c })
        (fun e c => ok (.error e) { s with cec := c }) := by
  rw [cec, wp_attempt, wp_focus]
  exact wp_embed ..

@[simp] lemma wp_query {α : Type} (m : QueryM ActorState α)
    (ok : Except CastKmsError α → ActorState → W → Prop)
    (err : KernelDisplayError → ActorState → W → Prop) :
    (query m).wp E s w ok err ↔
      m.wp (fun w c r w' => E w (.ioctl .actor c) r w') s w
        (fun a => ok (.ok a)) (fun e => ok (.error e)) := by
  rw [query, wp_attempt]
  exact wp_embed ..

@[simp] lemma wp_orFail {ε α : Type} (operation : String) (quote : ε → Part) (r : Except ε α)
    (ok : α → ActorState → W → Prop) (err : KernelDisplayError → ActorState → W → Prop) :
    (orFail operation quote r).wp E s w ok err ↔
      (∀ e, r = .error e → err ⟨operation, [quote e]⟩ s w) ∧ ∀ a, r = .ok a → ok a s w := by
  cases r <;> simp [orFail, Except.mapError]

@[simp] lemma wp_note (h : Happening) (ok : Unit → ActorState → W → Prop)
    (err : KernelDisplayError → ActorState → W → Prop) :
    (note h).wp E s w ok err ↔ ok () { s with trace := s.trace ++ [h] } w := Iff.rfl

@[simp] lemma wp_setActive (active : Option ActiveGeneration)
    (ok : Unit → ActorState → W → Prop) (err : KernelDisplayError → ActorState → W → Prop) :
    (setActive active).wp E s w ok err ↔ ok () { s with active } w := Iff.rfl

end Rules

def mapAttachment : MonitorAttachmentState → AttachmentState
  | .Attached => .Attached
  | .Detached => .Detached
  | .Unknown => .Unknown

def mapRoute (route : ActiveOutputRoute) : ActiveRoute :=
  ⟨⟨route.crtcId⟩,
    ⟨route.width.get, route.height.get, route.refreshMillihz.get, route.modeFlags⟩⟩

def mapTopology (topology : OutputTopology) : DisplayTopology :=
  ⟨mapAttachment topology.attachment, topology.route.map mapRoute⟩

def mapGrantState : GrantState → DisplayGrantState
  | .Pending => .Pending
  | .Active => .Active
  | .SuspendedNoMaster => .SuspendedNoMaster
  | .SuspendedOtherMaster => .SuspendedOtherMaster
  | .SuspendedForeignContent => .SuspendedForeignContent
  | .Revoked => .Revoked

/-- Topology and grant state as the kernel reports them. -/
def queryObservation : ActorM KernelDisplayObservation := do
  let s ← Method.get
  let reply ← query s.client.lease.queryGrant
  let grant ← orFail "query grant-scoped display state" .client reply
  let reply ← query s.client.lease.queryOutputTopology
  let topology ← orFail "query grant-scoped display state" .client reply
  pure ⟨mapTopology topology, mapGrantState grant.state⟩

/-- Publish an observation that differs from the last one. -/
def publishObservation (observation : KernelDisplayObservation) : ActorM Unit := do
  let s ← Method.get
  when (observation ≠ s.current) do
    Method.modify fun s => { s with current := observation }
    publish (.Changed observation)

def reconcileGrantState (operation : String) (evidence : GrantStateEvidence) : ActorM Unit := do
  let reconciled ← capture .reconcile (CaptureClient.reconcileGrantState evidence)
  let _ ← orFail operation .capture reconciled

def combinedKernelFailures (operation : String) (failures : List Message) :
    Except KernelDisplayError Unit :=
  if failures = [] then .ok ()
  else .error ⟨operation, (failures.intersperse [.text "; "]).flatten⟩

end Pronk.Actor
