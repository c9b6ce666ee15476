import Mathlib.Data.List.Basic
import Pronk.CastKms.Grant

/-!
# Capture streams and registered buffers

The tracker holds at most one active and one retired stream. A buffer is found
by the first entry with its identifier, as the source's `iter().find` does; that
identifiers are distinct is proved, not assumed.
-/
namespace Pronk.Capture
open CastKms

def MAX_CAPTURE_FORMATS : ℕ := 256
def MAX_TRACKED_CAPTURE_BUFFERS : UInt32 := 64
def MAX_CAPTURE_BUFFER_BYTES : UInt64 := 1024 * 1024 * 1024
/-- CastKMS exposes one queued-buffer slot per output. -/
def MAX_OUTSTANDING_CAPTURE_REQUESTS : ℕ := 1

structure CaptureFormat where
  format : UInt32
  modifier : UInt64

structure CaptureCapabilities where
  (uapiMajor uapiMinor : UInt16)
  crtcId : NonZeroU32
  flags : UInt64
  formats : List CaptureFormat
  maxRegisteredBuffersField : UInt32

namespace CaptureCapabilities

/-- The accessor, which bounds the field of the same name. -/
def maxRegisteredBuffers (c : CaptureCapabilities) : UInt32 :=
  min c.maxRegisteredBuffersField MAX_TRACKED_CAPTURE_BUFFERS

def supportsExplicitSync (c : CaptureCapabilities) : Bool :=
  c.flags &&& CAPTURE_CAP_SYNCOBJ_TIMELINE ≠ 0

def supportsImplicitSync (c : CaptureCapabilities) : Bool :=
  c.flags &&& CAPTURE_CAP_IMPLICIT_SYNC ≠ 0

end CaptureCapabilities

inductive CursorCaptureMode where
  | IncludeInFrame
  | ExcludeFromFrame
  deriving DecidableEq

inductive CaptureSynchronization where
  | Implicit
  | Explicit
  deriving DecidableEq

/-- A started stream, as the kernel described it. -/
structure CaptureStreamInfo where
  (streamId crtcId : NonZeroU32)
  modeGeneration : NonZeroU64
  (width height refreshHz : NonZeroU32)
  cursorMode : CursorCaptureMode
  deriving DecidableEq

structure CaptureBufferLayout where
  (width height : NonZeroU32)
  format : UInt32
  modifier : UInt64
  pitch : NonZeroU32
  size : NonZeroU64
  deriving DecidableEq

/-- The state of a buffer, as callers see it. -/
inductive CaptureBufferState where
  | Idle
  | Queued
  | Completed
  | ConsumerOwned
  deriving DecidableEq

structure CaptureBufferInfo where
  (streamId bufferId framebufferId : NonZeroU32)
  synchronization : CaptureSynchronization
  layout : Option CaptureBufferLayout
  state : CaptureBufferState
  deriving DecidableEq

structure CaptureFrameEvent where
  (userData sequence : UInt64)
  timestampNs : Int64
  modeGeneration : UInt64
  (streamId bufferId : UInt32)
  status : Int32
  (flags droppedFrames : UInt32)
  (damageX damageY : Int32)
  (damageWidth damageHeight cursorSerial cursorFlags : UInt32)
  (cursorX cursorY : Int32)
  (cursorHotspotX cursorHotspotY cursorWidth cursorHeight : UInt32)
  deriving DecidableEq

/-- A request that was handed to the kernel. -/
structure CaptureQueue where
  (streamId bufferId : NonZeroU32)
  userData : NonZeroU64
  (readyPoint reusePoint : Option NonZeroU64)
  deriving DecidableEq

/-- A request with its frame. -/
structure CaptureCompletion where
  queue : CaptureQueue
  frame : CaptureFrameEvent

structure CaptureReady where
  (streamId bufferId : NonZeroU32)
  userData : NonZeroU64
  readyPoint : Option NonZeroU64

/-- An eventfd armed for one driver-owned ready timeline point. -/
structure ExplicitCaptureFence where
  (streamId bufferId : NonZeroU32)
  (userData readyPoint : NonZeroU64)
  event : Int32
  deriving DecidableEq

structure ImplicitCaptureFence where
  (streamId bufferId : NonZeroU32)
  userData : NonZeroU64
  fence : Int32

structure CaptureSyncobjTimelines where
  (ready reuse : Int32)

/-- One owned buffer duplicated for the local media plane. -/
structure CaptureBufferExport where
  (streamId bufferId : NonZeroU32)
  layout : CaptureBufferLayout
  dmaBuf : Int32
  synchronization : CaptureSynchronization
  timelines : Option CaptureSyncobjTimelines

structure CaptureRelease where
  (streamId bufferId : NonZeroU32)
  reusePoint : Option NonZeroU64
  deriving DecidableEq

structure RetiredCaptureStream where
  stream : CaptureStreamInfo
  buffers : List CaptureBufferInfo
  deriving DecidableEq

structure CaptureStopOutcome where
  stream : CaptureStreamInfo
  kernelStreamWasGone : Bool
  waitingBufferCount : ℕ

/-- Evidence that prompted an authoritative grant-state query. -/
inductive GrantStateEvidence where
  | Query
  | Event (event : GrantStateEvent)
  | CaptureInvalidated (errno : Errno)

inductive GrantCaptureReconciliation where
  | NoCapture
  | Retained (stream : CaptureStreamInfo)
  | Retired (outcome : CaptureStopOutcome)
  | Retiring (stream : CaptureStreamInfo)

structure GrantStateReconciliation where
  grant : GrantInfo
  evidence : GrantStateEvidence
  capture : GrantCaptureReconciliation

/-- The errors of the capture client. -/
inductive CaptureError where
  | Client (error : CastKmsError)
  | QueryCapabilities (errno : Errno)
  | Start (errno : Errno)
  | Stop (errno : Errno)
  | RegisterBuffer (errno : Errno)
  | UnregisterBuffer (errno : Errno)
  | QueueBuffer (errno : Errno)
  | QueryCrtc (errno : Errno)
  | CreateDumbBuffer (errno : Errno)
  | AddFramebuffer (errno : Errno)
  | ExportDmaBuf (errno : Errno)
  | DuplicateDmaBuf (errno : Errno)
  | ExportImplicitFence (errno : Errno)
  | ExportReadySyncobj (errno : Errno)
  | ExportReuseSyncobj (errno : Errno)
  | CreateReadySyncobj (errno : Errno)
  | CreateReuseSyncobj (errno : Errno)
  | DestroyReadySyncobj (errno : Errno)
  | DestroyReuseSyncobj (errno : Errno)
  | CreateExplicitEventFd (errno : Errno)
  | ArmExplicitFence (errno : Errno)
  | SignalReusePoint (errno : Errno)
  | RemoveFramebuffer (errno : Errno)
  | DestroyDumbBuffer (errno : Errno)
  | GrantNotActive (state : GrantState)
  | InvalidCapabilities (what : String)
  | InvalidCrtcMode (what : String)
  | InvalidBufferAllocation (what : String)
  | InvalidKernelResult (what : String)
  | TooManyFormats (actual : UInt32) (maximum : ℕ)
  | CapabilitiesChanged
  | ActiveStreamExists
  | RetiredStreamExists
  | NoActiveStream
  | StaleStream
  | ExplicitSyncUnsupported
  | ImplicitSyncUnsupported
  | BufferLimit (limit : UInt32)
  | ZeroKernelIdentifier (what : String)
  | DuplicateBufferId (bufferId : UInt32)
  | UnknownBuffer (bufferId : UInt32)
  | ExternalBuffer (bufferId : UInt32)
  | NotImplicitBuffer (bufferId : UInt32)
  | NotExplicitBuffer (bufferId : UInt32)
  | InvalidBufferState (bufferId : UInt32) (expected actual : CaptureBufferState)
  | CaptureQueueFull
  | DuplicateUserData (userData : UInt64)
  | ReadyUserDataMismatch (expected actual : UInt64)
  | ReadyPointMismatch (expected actual : Option NonZeroU64)
  | ReadyPointOverflow
  | ReusePointOverflow
  | UnknownRetiredStream (streamId : UInt32)
  | RetiredStreamBusy
  | CancelledQueueMismatch
  | ForeignGrantStateEvent (expected actual : UInt32)
  | TerminalGrantStateEvent
  | InvalidGrantStateEventStatus (state : GrantState) (expected actual : Int32)
  | InvalidCaptureInvalidation (errno : Errno)
  deriving DecidableEq

inductive CaptureProtocolError where
  | UnknownStream (streamId : UInt32)
  | UnknownBuffer (streamId bufferId : UInt32)
  | UnexpectedBufferState (bufferId : UInt32) (actual : CaptureBufferState)
  | UserDataMismatch (expected actual : UInt64)
  | GenerationMismatch (expected actual : UInt64)
  | ZeroModeGeneration
  | InvalidModeChangeStatus (actual : Int32)
  | UnchangedModeGeneration (generation : UInt64)
  deriving DecidableEq

/-- The ready and the reuse timeline of a buffer. -/
structure OwnedSyncobjPair where
  (readyHandle reuseHandle : NonZeroU32)

structure OwnedFramebuffer where
  gemHandle : NonZeroU32
  layout : CaptureBufferLayout
  dmaBuf : Int32

/-- How a buffer is synchronized. -/
inductive TrackedSynchronization where
  | Implicit
  | Explicit (pair : OwnedSyncobjPair)

def TrackedSynchronization.public : TrackedSynchronization → CaptureSynchronization
  | .Implicit => .Implicit
  | .Explicit _ => .Explicit

/-- The state of a buffer with what belongs to it. -/
inductive TrackedBufferState where
  | Idle
  | Queued (queue : CaptureQueue)
  | Completed (completion : CaptureCompletion)
  | ConsumerOwned (completion : CaptureCompletion)

def TrackedBufferState.public : TrackedBufferState → CaptureBufferState
  | .Idle => .Idle
  | .Queued _ => .Queued
  | .Completed _ => .Completed
  | .ConsumerOwned _ => .ConsumerOwned

/-- The request a non-idle buffer carries. -/
def TrackedBufferState.queue? : TrackedBufferState → Option CaptureQueue
  | .Idle => none
  | .Queued queue => some queue
  | .Completed completion => some completion.queue
  | .ConsumerOwned completion => some completion.queue

/-- A registered buffer and what it owns. -/
structure TrackedBuffer where
  (id framebufferId : NonZeroU32)
  synchronization : TrackedSynchronization
  (nextReadyPoint lastReleasePoint : UInt64)
  state : TrackedBufferState
  ownedFramebuffer : Option OwnedFramebuffer

def TrackedBuffer.info (b : TrackedBuffer) (streamId : NonZeroU32) : CaptureBufferInfo where
  streamId := streamId
  bufferId := b.id
  framebufferId := b.framebufferId
  synchronization := b.synchronization.public
  layout := b.ownedFramebuffer.map (·.layout)
  state := b.state.public

/-- A stream and its buffers. -/
structure TrackedStream where
  info : CaptureStreamInfo
  capabilities : CaptureCapabilities
  stale : Bool
  buffers : List TrackedBuffer

namespace TrackedStream

def hasCaptureQueueCapacity (s : TrackedStream) : Bool :=
  s.buffers.countP (·.state.public = .Queued) < MAX_OUTSTANDING_CAPTURE_REQUESTS

def buffer (s : TrackedStream) (bufferId : NonZeroU32) : Option TrackedBuffer :=
  s.buffers.find? (·.id = bufferId)

/-- Write through `buffer_mut`: only the first entry with the identifier changes. -/
def setBuffer (s : TrackedStream) (bufferId : NonZeroU32) (b : TrackedBuffer) : TrackedStream :=
  { s with buffers := s.buffers.replaceF fun x => if x.id = bufferId then some b else none }

def bufferIndex (s : TrackedStream) (bufferId : NonZeroU32) : Option ℕ :=
  s.buffers.findIdx? (·.id = bufferId)

def bufferInfos (s : TrackedStream) : List CaptureBufferInfo :=
  s.buffers.map (·.info s.info.streamId)

end TrackedStream

/-- The active stream and the retired one. -/
@[ext] structure CaptureTracker where
  active : Option TrackedStream := none
  retired : Option TrackedStream := none

namespace CaptureTracker

def stream (t : CaptureTracker) (streamId : NonZeroU32) : Option TrackedStream :=
  (t.active.filter (·.info.streamId = streamId)).or
    (t.retired.filter (·.info.streamId = streamId))

/-- Write through `stream_mut`, which prefers the active stream. -/
def setStream (t : CaptureTracker) (streamId : NonZeroU32) (s : TrackedStream) :
    CaptureTracker :=
  if t.active.any (·.info.streamId = streamId) then { t with active := some s }
  else if t.retired.any (·.info.streamId = streamId) then { t with retired := some s }
  else t

/-- Callers have verified an active stream; the waiting count is returned. -/
def retireActive (t : CaptureTracker) : ℕ × CaptureTracker :=
  match t.active with
  | none => (0, t)
  | some s =>
    let waiting := s.buffers.countP (·.state.public ≠ .Idle)
    if s.buffers = [] then (waiting, { t with active := none })
    else (waiting, { active := none, retired := some s })

def markActiveStale (t : CaptureTracker) (streamId : NonZeroU32) : CaptureTracker :=
  { t with active := t.active.map fun s =>
      if s.info.streamId = streamId then { s with stale := true } else s }

def modeChanged (event : CaptureFrameEvent) : Bool :=
  event.flags &&& CAPTURE_FRAME_MODE_CHANGED ≠ 0

/-- The checks of `record_frame` before a buffer is looked up. -/
def checkFrame (s : TrackedStream) (event : CaptureFrameEvent) :
    Except CaptureProtocolError Unit :=
  let streamGeneration := s.info.modeGeneration.get
  if event.modeGeneration = 0 then .error .ZeroModeGeneration
  else if modeChanged event then
    if event.status ≠ -Errno.ESTALE.code then .error (.InvalidModeChangeStatus event.status)
    else if event.modeGeneration = streamGeneration then
      .error (.UnchangedModeGeneration event.modeGeneration)
    else .ok ()
  else if event.status = 0 ∧ event.modeGeneration ≠ streamGeneration then
    .error (.GenerationMismatch streamGeneration event.modeGeneration)
  else .ok ()

/-- Complete the request that a frame event names. -/
def recordFrame (t : CaptureTracker) (event : CaptureFrameEvent) :
    Except CaptureProtocolError CaptureTracker := do
  let some streamId := NonZeroU32.new event.streamId | .error (.UnknownStream event.streamId)
  let some bufferId := NonZeroU32.new event.bufferId
    | .error (.UnknownBuffer event.streamId event.bufferId)
  let some s := t.stream streamId | .error (.UnknownStream event.streamId)
  checkFrame s event
  let some b := s.buffer bufferId | .error (.UnknownBuffer event.streamId event.bufferId)
  let .Queued queue := b.state | .error (.UnexpectedBufferState event.bufferId b.state.public)
  if event.userData ≠ queue.userData.get then
    .error (.UserDataMismatch queue.userData.get event.userData)
  else
    let s := s.setBuffer bufferId { b with state := .Completed ⟨queue, event⟩ }
    .ok (t.setStream streamId { s with stale := s.stale || modeChanged event })

end CaptureTracker

def validateGrantStateEvidence (expectedGrantId : UInt32) :
    GrantStateEvidence → Except CaptureError Unit
  | .Query => .ok ()
  | .Event event =>
    if event.grantId ≠ expectedGrantId then
      .error (.ForeignGrantStateEvent expectedGrantId event.grantId)
    else
      let checkStatus (expected : Int32) : Except CaptureError Unit :=
        if event.status ≠ expected then
          .error (.InvalidGrantStateEventStatus event.state expected event.status)
        else .ok ()
      match event.state with
      | .Pending => checkStatus (-Errno.ENOLINK.code)
      | .Active => checkStatus 0
      | .SuspendedNoMaster | .SuspendedOtherMaster => checkStatus (-Errno.EAGAIN.code)
      | .SuspendedForeignContent => checkStatus (-Errno.ESTALE.code)
      | .Revoked => .error .TerminalGrantStateEvent
  | .CaptureInvalidated errno =>
    match errno with
    | .ENOENT | .EAGAIN | .ESTALE | .ENOLINK | .ENOTCONN => .ok ()
    | error => .error (.InvalidCaptureInvalidation error)

def captureRestartRequired (state : GrantState) (evidence : GrantStateEvidence) : Bool :=
  state ≠ .Active ||
    match evidence with
    | .Query => false
    | .Event event => event.state ≠ .Active
    | .CaptureInvalidated _ => true

def requireBufferState (b : TrackedBuffer) (expected : CaptureBufferState) :
    Except CaptureError Unit :=
  if b.state.public = expected then .ok ()
  else .error (.InvalidBufferState b.id.get expected b.state.public)

structure QueuePoints where
  (ready reuse : Option NonZeroU64)
  nextReady : Option UInt64

/-- The points of the next request. -/
def queuePoints (b : TrackedBuffer) : Except CaptureError QueuePoints :=
  match b.synchronization with
  | .Implicit => .ok ⟨none, none, none⟩
  | .Explicit _ =>
    match NonZeroU64.new b.nextReadyPoint, checkedSucc b.nextReadyPoint with
    | some ready, some next => .ok ⟨some ready, NonZeroU64.new b.lastReleasePoint, some next⟩
    | _, _ => .error .ReadyPointOverflow

/-- The point that the next release signals. -/
def nextReusePoint (b : TrackedBuffer) : Except CaptureError (Option NonZeroU64) :=
  match b.synchronization with
  | .Implicit => .ok none
  | .Explicit _ =>
    match (checkedSucc b.lastReleasePoint).bind NonZeroU64.new with
    | some point => .ok (some point)
    | none => .error .ReusePointOverflow

lemma queuePoints_explicit {b : TrackedBuffer} {points : QueuePoints}
    (h : queuePoints b = .ok points) (hsync : b.synchronization.public = .Explicit) :
    ∃ ready next, points = ⟨some ready, NonZeroU64.new b.lastReleasePoint, some next⟩ ∧
      ready.get = b.nextReadyPoint ∧ next.toNat = b.nextReadyPoint.toNat + 1 := by
  cases hb : b.synchronization with
  | Implicit => simp [hb, TrackedSynchronization.public] at hsync
  | Explicit pair =>
    simp only [queuePoints, hb] at h
    split at h
    · rename_i ready next hready hnext
      obtain rfl := Except.ok.inj h
      exact ⟨ready, next, rfl, NonZeroU64.new_eq_some.1 hready, checkedSucc_eq_some.1 hnext⟩
    · simp at h

lemma queuePoints_implicit {b : TrackedBuffer} {points : QueuePoints}
    (h : queuePoints b = .ok points) (hsync : b.synchronization.public = .Implicit) :
    points = ⟨none, none, none⟩ := by
  cases hb : b.synchronization with
  | Implicit =>
    simp only [queuePoints, hb] at h
    exact (Except.ok.inj h).symm
  | Explicit pair => simp [hb, TrackedSynchronization.public] at hsync

lemma nextReusePoint_explicit {b : TrackedBuffer} {point : Option NonZeroU64}
    (h : nextReusePoint b = .ok point) (hsync : b.synchronization.public = .Explicit) :
    ∃ p, point = some p ∧ p.get.toNat = b.lastReleasePoint.toNat + 1 := by
  cases hb : b.synchronization with
  | Implicit => simp [hb, TrackedSynchronization.public] at hsync
  | Explicit pair =>
    simp only [nextReusePoint, hb] at h
    split at h
    · rename_i p hp
      obtain ⟨v, hv, hnew⟩ := Option.bind_eq_some_iff.1 hp
      refine ⟨p, (Except.ok.inj h).symm, ?_⟩
      rw [NonZeroU64.new_eq_some.1 hnew]
      exact checkedSucc_eq_some.1 hv
    · simp at h

lemma nextReusePoint_implicit {b : TrackedBuffer} {point : Option NonZeroU64}
    (h : nextReusePoint b = .ok point) (hsync : b.synchronization.public = .Implicit) :
    point = none := by
  cases hb : b.synchronization with
  | Implicit =>
    simp only [nextReusePoint, hb] at h
    exact (Except.ok.inj h).symm
  | Explicit pair => simp [hb, TrackedSynchronization.public] at hsync

end Pronk.Capture
