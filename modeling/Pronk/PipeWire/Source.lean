import Mathlib.Data.List.AList
import Pronk.Library.Transition
import Pronk.PipeWire.Tracker

/-!
# One generation of a video source

The PipeWire thread and the actor that owns the source run side by side: events go
from the thread to the actor through a queue that never fills, and the actor waits
for each publish until the thread has handled it. The server is well behaved, and
the owner of the source publishes a buffer only after it was reported, with a frame
that fits the layout and the reported transport. Clearing a format or negotiating it
again changes nothing that is recorded about the buffers.
-/
namespace Pronk.PipeWire
open Transition

inductive ActorBufferState where
  | AwaitingInitial
  | Available
  | Submitted
  deriving DecidableEq

inductive VideoSourceActorRuntimeError where
  | Source (error : VideoSourceRuntimeError)
  | InvalidBufferEvent (event : String) (bufferId : UInt32)
  deriving DecidableEq

/-- Why a call was refused: by the thread, by the actor on an event, or by the actor
because the buffer is not available. -/
inductive Rejection where
  | thread (error : VideoSourceRuntimeError)
  | event (error : VideoSourceActorRuntimeError)
  | BufferUnavailable (bufferId : UInt32)
  deriving DecidableEq

/-- The buffers of an active generation, as the actor records them. -/
abbrev ActorBuffers := AList fun _ : NonZeroU32 => ActorBufferState

namespace ActorBuffers

def new (buffers : List VideoBuffer) : ActorBuffers :=
  buffers.foldl (fun table buffer => table.insert buffer.id .AwaitingInitial) ∅

def publishFrame (table : ActorBuffers) (frame : VideoFrame) : Option ActorBuffers :=
  if table.lookup frame.bufferId = some .Available then
    some (table.insert frame.bufferId .Submitted)
  else none

/-- An event is taken only in one state of its buffer, which is available afterwards. -/
def expect (table : ActorBuffers) (event : String) (bufferId : NonZeroU32)
    (expected : ActorBufferState) : Except VideoSourceActorRuntimeError ActorBuffers :=
  if table.lookup bufferId = some expected then .ok (table.insert bufferId .Available)
  else .error (.InvalidBufferEvent event bufferId.get)

def handleSourceEvent (table : ActorBuffers) :
    VideoSourceEvent → Except VideoSourceActorRuntimeError ActorBuffers
  | .BufferAvailable bufferId _ => table.expect "availability" bufferId .AwaitingInitial
  | .BufferReleased bufferId => table.expect "release" bufferId .Submitted
  | .Failed error => .error (.Source error)

end ActorBuffers

/-- A PipeWire buffer as the server has it. -/
inductive ServerBuffer where
  | held (releasePoint : Option NonZeroU64)
  | dequeued

/-- `offered` holds the buffers that were reported and not published since, and
`transports` what was reported of them. `returned` and `stale` are history: a buffer
is stale once it was removed after the server had returned it. -/
structure SourceState where
  thread : ThreadState
  actor : ActorBuffers
  events : List VideoSourceEvent := []
  publishing : Option VideoFrame := none
  server : AList (fun _ : ℕ => ServerBuffer) := ∅
  offered : List NonZeroU32 := []
  transports : AList (fun _ : NonZeroU32 => PipeWireBufferTransport) := ∅
  rejected : Option Rejection := none
  returned : List NonZeroU32 := []
  stale : List NonZeroU32 := []

/-- A step of the server, the thread or the actor. -/
inductive Input where
  | formatNegotiated
  | formatCleared
  | addBuffer (raw dataPlanes : ℕ) (hasSyncMeta : Bool)
  | removeBuffer (raw : ℕ)
  | returnBuffer (raw : ℕ)
  | publish (frame : VideoFrame)
  | handlePublish
  | handleEvent

namespace SourceState

def new (buffers : List VideoBuffer) : SourceState where
  thread := ThreadState.new buffers
  actor := ActorBuffers.new buffers

def reject (s : SourceState) (why : Rejection) : SourceState := { s with rejected := some why }

def addBuffer (s : SourceState) (raw dataPlanes : ℕ) (hasSyncMeta : Bool) : SourceState :=
  match s.thread.addBuffer raw dataPlanes hasSyncMeta with
  | .error e => s.reject (.thread e)
  | .ok thread => { s with thread := thread, server := s.server.insert raw (.held none) }

def removeBuffer (s : SourceState) (raw : ℕ) : SourceState :=
  let gone := (s.thread.bufferIdForRaw raw).toList.filter (· ∈ s.returned)
  match s.thread.removeBuffer raw with
  | .error e => s.reject (.thread e)
  | .ok thread => { s with
      thread := thread, server := s.server.erase raw, stale := gone ++ s.stale }

def returnBuffer (s : SourceState) (raw : ℕ) (releasePoint : Option NonZeroU64) : SourceState :=
  match s.thread.processReturnedBuffer raw releasePoint with
  | .error e => s.reject (.thread e)
  | .ok (event, thread) => { s with
      thread := thread
      server := s.server.insert raw .dequeued
      events := s.events ++ [event]
      returned := event.bufferId?.toList ++ s.returned }

def publish (s : SourceState) (frame : VideoFrame) : SourceState :=
  match s.actor.publishFrame frame with
  | none => s.reject (.BufferUnavailable frame.bufferId.get)
  | some actor => { s with
      actor := actor
      publishing := some frame
      offered := s.offered.filter (· ≠ frame.bufferId) }

def handlePublish (s : SourceState) (frame : VideoFrame) : SourceState :=
  match s.thread.publishFrame frame with
  | .error e => s.reject (.thread e)
  | .ok (raw, thread) => { s with
      thread := thread
      publishing := none
      server := s.server.insert raw (.held frame.acquirePoint) }

/-- The event is reported to the owner of the source. -/
def report (s : SourceState) : VideoSourceEvent → SourceState
  | .BufferAvailable bufferId transport => { s with
      offered := bufferId :: s.offered, transports := s.transports.insert bufferId transport }
  | .BufferReleased bufferId => { s with offered := bufferId :: s.offered }
  | .Failed _ => s

def handleEvent (s : SourceState) (event : VideoSourceEvent) (rest : List VideoSourceEvent) :
    SourceState :=
  match s.actor.handleSourceEvent event with
  | .error e => s.reject (.event e)
  | .ok actor => { s with actor := actor, events := rest }.report event

/-- A frame that the owner may publish: its buffer was reported, and it fits what was
reported. -/
def mayPublish (s : SourceState) (frame : VideoFrame) : Bool :=
  frame.bufferId ∈ s.offered &&
    (s.thread.buffer? frame.bufferId).any (frame.damage.isBoundedBy ·.descriptor.layout) &&
    (s.transports.lookup frame.bufferId).any fun transport =>
      frame.acquirePoint.isSome ↔ transport = .SyncTimeline

/-- The planes of an added buffer are those of an offered transport. -/
def mayAdd (s : SourceState) (raw dataPlanes : ℕ) (hasSyncMeta : Bool) : Bool :=
  raw ∉ s.server && s.server.keys.length < s.thread.buffers.length &&
    (dataPlanes = 1 ||
      (dataPlanes = 3 && hasSyncMeta && s.thread.buffers.all (·.descriptor.hasTimelines)))

/-- After a refusal the generation is reported failed and nothing follows. -/
def next (s : SourceState) (i : Input) : Option SourceState :=
  if s.rejected.isSome then none
  else match i with
  | .formatNegotiated => some s
  | .formatCleared => some s
  | .addBuffer raw dataPlanes hasSyncMeta =>
    if s.mayAdd raw dataPlanes hasSyncMeta then some (s.addBuffer raw dataPlanes hasSyncMeta)
    else none
  | .removeBuffer raw => if raw ∈ s.server then some (s.removeBuffer raw) else none
  | .returnBuffer raw =>
    match s.server.lookup raw with
    | some (.held releasePoint) => some (s.returnBuffer raw releasePoint)
    | _ => none
  | .publish frame =>
    if s.publishing.isNone ∧ s.mayPublish frame then some (s.publish frame) else none
  | .handlePublish => s.publishing.map s.handlePublish
  | .handleEvent =>
    match s.publishing, s.events with
    | none, event :: rest => some (s.handleEvent event rest)
    | _, _ => none

end SourceState

/-- The steps in any order. -/
def source : Machine SourceState Input := ⟨SourceState.next⟩

end Pronk.PipeWire
