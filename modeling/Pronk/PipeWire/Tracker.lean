import Pronk.Library.Fallible
import Pronk.Library.Keyed
import Pronk.Machine

/-!
# Buffer ownership of a PipeWire video source

The same buffer is recorded twice: by the tracker of the PipeWire thread and by the
actor that owns the source. A call that fails ends the loop of the thread, so the
state it leaves behind is not kept. Descriptors are left out, except that a buffer
has timelines or not.
-/
namespace Pronk.PipeWire
open Fallible

structure VideoBufferLayout where
  (width height pitch : NonZeroU32)
  size : NonZeroU64
  modifier : UInt64
  deriving DecidableEq

structure VideoBuffer where
  id : NonZeroU32
  layout : VideoBufferLayout
  hasTimelines : Bool

def MIN_VIDEO_BUFFERS : ℕ := 2
def MAX_VIDEO_BUFFERS : ℕ := 64
def MAX_FRAME_DIMENSION : UInt32 := 8192
def MAX_IDENTITY_STRING_BYTES : ℕ := 256

structure VideoSourceConfig where
  (nodeName nodeDescription sessionId deviceInstance : String)
  connectorId : NonZeroU32
  outputIndex : UInt32
  grantId : NonZeroU32
  mediaGeneration : NonZeroU64
  refreshHz : NonZeroU32

inductive ConfigurationError where
  | InvalidString (field : String)
  | BufferCount (count : ℕ)
  | LayoutMismatch (index : ℕ)
  | SynchronizationMismatch (index : ℕ)
  | DuplicateBufferId (bufferId : UInt32)
  | FrameDimensions (width height : UInt32)
  | NonlinearModifier (modifier : UInt64)
  | InvalidPitch (pitch : UInt32)
  | InvalidSize (size : UInt64)
  deriving DecidableEq

def validateString (field value : String) : Except ConfigurationError Unit :=
  if value.isEmpty ∨ value.utf8ByteSize > MAX_IDENTITY_STRING_BYTES ∨ '\x00' ∈ value.toList then
    .error (.InvalidString field)
  else .ok ()

def validateLayout (layout : VideoBufferLayout) : Except ConfigurationError Unit :=
  let width := layout.width.get
  let height := layout.height.get
  let pitch := layout.pitch.get.toNat
  let size := layout.size.get.toNat
  if width > MAX_FRAME_DIMENSION ∨ height > MAX_FRAME_DIMENSION then
    .error (.FrameDimensions width height)
  else if layout.modifier ≠ 0 then .error (.NonlinearModifier layout.modifier)
  else if pitch < min (width.toNat * 4) (2 ^ 32 - 1) ∨ pitch > 2 ^ 31 - 1 then
    .error (.InvalidPitch layout.pitch.get)
  else if size < pitch * height.toNat ∨ size > 2 ^ 31 - 1 then
    .error (.InvalidSize layout.size.get)
  else .ok ()

/-- The buffers from an index on, after those before it. -/
def validateBuffers (expected : VideoBufferLayout) (explicit : Bool) :
    List VideoBuffer → List VideoBuffer → Except ConfigurationError Unit
  | _, [] => .ok ()
  | previous, buffer :: rest =>
    if buffer.layout ≠ expected then .error (.LayoutMismatch previous.length)
    else if buffer.hasTimelines ≠ explicit then .error (.SynchronizationMismatch previous.length)
    else if previous.any (·.id = buffer.id) then .error (.DuplicateBufferId buffer.id.get)
    else validateBuffers expected explicit (previous ++ [buffer]) rest

/-- Every check of a configuration. -/
def VideoSourceConfig.validate (config : VideoSourceConfig) (buffers : List VideoBuffer) :
    Except ConfigurationError Unit := do
  validateString "node name" config.nodeName
  validateString "node description" config.nodeDescription
  validateString "session ID" config.sessionId
  validateString "device instance" config.deviceInstance
  if buffers.length < MIN_VIDEO_BUFFERS ∨ buffers.length > MAX_VIDEO_BUFFERS then
    throw (.BufferCount buffers.length)
  match buffers with
  | [] => return ()
  | first :: _ =>
    validateLayout first.layout
    validateBuffers first.layout first.hasTimelines [] buffers

lemma validateBuffers_nodup {expected : VideoBufferLayout} {explicit : Bool}
    {previous buffers : List VideoBuffer} (hprevious : (previous.map (·.id)).Nodup)
    (h : validateBuffers expected explicit previous buffers = .ok ()) :
    ((previous ++ buffers).map (·.id)).Nodup := by
  induction buffers generalizing previous with
  | nil => simpa using hprevious
  | cons buffer rest ih =>
    unfold validateBuffers at h
    split_ifs at h with hlayout hsync hdup
    have hnew : buffer.id ∉ previous.map (·.id) := by
      intro hmem
      obtain ⟨b, hb, hid⟩ := List.mem_map.1 hmem
      exact hdup (List.any_eq_true.2 ⟨b, hb, by simpa using hid⟩)
    have hnext : ((previous ++ [buffer]).map (·.id)).Nodup := by
      rw [List.map_append, List.map_singleton]
      exact List.Nodup.append hprevious (List.nodup_singleton _) (by simpa using hnew)
    simpa using ih hnext h

lemma validate_nodup {config : VideoSourceConfig} {buffers : List VideoBuffer}
    (h : config.validate buffers = .ok ()) : (buffers.map (·.id)).Nodup := by
  obtain ⟨_, -, h⟩ := bind_eq_ok.1 h
  obtain ⟨_, -, h⟩ := bind_eq_ok.1 h
  obtain ⟨_, -, h⟩ := bind_eq_ok.1 h
  obtain ⟨_, -, h⟩ := bind_eq_ok.1 h
  split_ifs at h with hcount
  · cases h
  · cases buffers with
    | nil => exact List.nodup_nil
    | cons first rest =>
      have hnil : (([] : List VideoBuffer).map (·.id)).Nodup := List.nodup_nil
      obtain ⟨_, -, hbuffers⟩ := bind_eq_ok.1 h
      exact validateBuffers_nodup hnil hbuffers

structure VideoDamage where
  (x y : UInt32)
  (width height : NonZeroU32)

def VideoDamage.isBoundedBy (d : VideoDamage) (layout : VideoBufferLayout) : Bool :=
  d.x ≤ layout.width.get && d.width.get ≤ saturatingSub layout.width.get d.x &&
    d.y ≤ layout.height.get && d.height.get ≤ saturatingSub layout.height.get d.y

structure VideoFrame where
  bufferId : NonZeroU32
  sequence : UInt64
  ptsNs : Int64
  damage : VideoDamage
  discontinuity : Bool
  acquirePoint : Option NonZeroU64

inductive PipeWireBufferTransport where
  | Waited
  | SyncTimeline
  deriving DecidableEq

inductive VideoSourceRuntimeError where
  | InvalidPipeWireBuffer (what : String)
  | TooManyPipeWireBuffers
  | InvalidOwnership (bufferId : UInt32)
  | UnknownBuffer (bufferId : UInt32)
  | InvalidDamage (bufferId : UInt32)
  | MissingAcquirePoint (bufferId : UInt32)
  | UnexpectedAcquirePoint (bufferId : UInt32)
  | ReleasePointMismatch (bufferId : UInt32) (expected actual : UInt64)
  deriving DecidableEq

/-- Who has a buffer. -/
inductive Ownership where
  | Unbound
  | ServerOwned (frameSubmitted : Bool) (expectedRelease : Option NonZeroU64)
  | Available
  deriving DecidableEq

/-- A buffer of the pool. -/
structure Slot where
  id : NonZeroU32
  layout : VideoBufferLayout
  hasTimelines : Bool
  transport : Option PipeWireBufferTransport
  ownership : Ownership

inductive BufferReturn where
  | Initial (bufferId : NonZeroU32) (transport : PipeWireBufferTransport)
  | Released (bufferId : NonZeroU32)

/-- The slots of the pool. -/
structure BufferTracker where
  slots : List Slot

namespace BufferTracker

def new (buffers : List VideoBuffer) : BufferTracker :=
  ⟨buffers.map fun buffer => ⟨buffer.id, buffer.layout, buffer.hasTimelines, none, .Unbound⟩⟩

def nextUnbound (t : BufferTracker) : Option NonZeroU32 :=
  (t.slots.find? (·.ownership = .Unbound)).map (·.id)

def slot? (t : BufferTracker) (bufferId : NonZeroU32) : Option Slot :=
  Keyed.lookup Slot.id bufferId t.slots

def setSlot (t : BufferTracker) (bufferId : NonZeroU32)
    (transport : Option PipeWireBufferTransport) (ownership : Ownership) : BufferTracker :=
  ⟨Keyed.modify Slot.id bufferId
    (fun slot => { slot with transport := transport, ownership := ownership }) t.slots⟩

def bind (t : BufferTracker) (bufferId : NonZeroU32) (transport : PipeWireBufferTransport) :
    Except VideoSourceRuntimeError BufferTracker :=
  match t.slot? bufferId with
  | none => .error (.UnknownBuffer bufferId.get)
  | some slot =>
    if slot.ownership ≠ .Unbound ∨ (transport = .SyncTimeline ∧ !slot.hasTimelines) then
      .error (.InvalidOwnership bufferId.get)
    else .ok (t.setSlot bufferId (some transport) (.ServerOwned false none))

def unbind (t : BufferTracker) (bufferId : NonZeroU32) :
    Except VideoSourceRuntimeError BufferTracker :=
  match t.slot? bufferId with
  | none => .error (.UnknownBuffer bufferId.get)
  | some _ => .ok (t.setSlot bufferId none .Unbound)

def publish (t : BufferTracker) (frame : VideoFrame) :
    Except VideoSourceRuntimeError BufferTracker :=
  match t.slot? frame.bufferId with
  | none => .error (.UnknownBuffer frame.bufferId.get)
  | some slot =>
    if slot.ownership ≠ .Available then .error (.InvalidOwnership frame.bufferId.get)
    else if !frame.damage.isBoundedBy slot.layout then .error (.InvalidDamage frame.bufferId.get)
    else match slot.transport, frame.acquirePoint with
    | none, _ => .error (.InvalidOwnership frame.bufferId.get)
    | some .SyncTimeline, none => .error (.MissingAcquirePoint frame.bufferId.get)
    | some .Waited, some _ => .error (.UnexpectedAcquirePoint frame.bufferId.get)
    | some transport, acquirePoint =>
      .ok (t.setSlot frame.bufferId (some transport) (.ServerOwned true acquirePoint))

def returned (t : BufferTracker) (bufferId : NonZeroU32) (actualRelease : Option NonZeroU64) :
    Except VideoSourceRuntimeError (BufferReturn × BufferTracker) :=
  match t.slot? bufferId with
  | none => .error (.UnknownBuffer bufferId.get)
  | some slot =>
    match slot.ownership with
    | .ServerOwned frameSubmitted expectedRelease =>
      if expectedRelease ≠ actualRelease then
        .error (.ReleasePointMismatch bufferId.get ((expectedRelease.map (·.get)).getD 0)
          ((actualRelease.map (·.get)).getD 0))
      else match frameSubmitted, slot.transport with
      | false, some transport =>
        .ok (.Initial bufferId transport, t.setSlot bufferId (some transport) .Available)
      | true, some transport =>
        .ok (.Released bufferId, t.setSlot bufferId (some transport) .Available)
      | _, none => .error (.InvalidOwnership bufferId.get)
    | _ => .error (.InvalidOwnership bufferId.get)

end BufferTracker

inductive VideoSourceEvent where
  | BufferAvailable (bufferId : NonZeroU32) (transport : PipeWireBufferTransport)
  | BufferReleased (bufferId : NonZeroU32)
  | Failed (error : VideoSourceRuntimeError)

def VideoSourceEvent.bufferId? : VideoSourceEvent → Option NonZeroU32
  | .BufferAvailable bufferId _ => some bufferId
  | .BufferReleased bufferId => some bufferId
  | .Failed _ => none

/-- A buffer of the pool and the PipeWire buffer it is bound to, if any. -/
structure RuntimeBuffer where
  descriptor : VideoBuffer
  pipewireBuffer : Option ℕ := none
  transport : Option PipeWireBufferTransport := none

/-- What the PipeWire thread keeps. -/
structure ThreadState where
  buffers : List RuntimeBuffer
  tracker : BufferTracker

namespace ThreadState

def new (buffers : List VideoBuffer) : ThreadState :=
  ⟨buffers.map fun buffer => { descriptor := buffer }, BufferTracker.new buffers⟩

def buffer? (t : ThreadState) (bufferId : NonZeroU32) : Option RuntimeBuffer :=
  Keyed.lookup (·.descriptor.id) bufferId t.buffers

def setBuffer (t : ThreadState) (bufferId : NonZeroU32) (raw : Option ℕ)
    (transport : Option PipeWireBufferTransport) : List RuntimeBuffer :=
  Keyed.modify (·.descriptor.id) bufferId
    (fun b => { b with pipewireBuffer := raw, transport := transport }) t.buffers

def bufferIdForRaw (t : ThreadState) (raw : ℕ) : Option NonZeroU32 :=
  (t.buffers.find? (·.pipewireBuffer = some raw)).map (·.descriptor.id)

/-- The transport that the data planes of a PipeWire buffer stand for. -/
def transport? (dataPlanes : ℕ) (hasTimelines hasSyncMeta : Bool) :
    Option PipeWireBufferTransport :=
  if dataPlanes = 1 then some .Waited
  else if dataPlanes = 3 ∧ hasTimelines ∧ hasSyncMeta then some .SyncTimeline
  else none

def addBuffer (t : ThreadState) (raw dataPlanes : ℕ) (hasSyncMeta : Bool) :
    Except VideoSourceRuntimeError ThreadState :=
  match t.tracker.nextUnbound with
  | none => .error .TooManyPipeWireBuffers
  | some bufferId =>
    match t.buffer? bufferId with
    | none => .error (.UnknownBuffer bufferId.get)
    | some runtime =>
      match transport? dataPlanes runtime.descriptor.hasTimelines hasSyncMeta with
      | none => .error (.InvalidPipeWireBuffer "invalid data/sync-timeline layout")
      | some transport =>
        (t.tracker.bind bufferId transport).map
          (⟨t.setBuffer bufferId (some raw) (some transport), ·⟩)

def removeBuffer (t : ThreadState) (raw : ℕ) : Except VideoSourceRuntimeError ThreadState :=
  match t.bufferIdForRaw raw with
  | none => .error (.InvalidPipeWireBuffer "remove names unknown pw_buffer")
  | some bufferId =>
    match t.tracker.unbind bufferId, t.buffer? bufferId with
    | .error e, _ => .error e
    | .ok _, none => .error (.UnknownBuffer bufferId.get)
    | .ok tracker, some _ => .ok ⟨t.setBuffer bufferId none none, tracker⟩

/-- The release point is read from the metadata of a buffer with a timeline. -/
def actualRelease (bufferId : NonZeroU32) (transport : Option PipeWireBufferTransport)
    (releasePoint : Option NonZeroU64) : Except VideoSourceRuntimeError (Option NonZeroU64) :=
  match transport with
  | some .SyncTimeline => .ok releasePoint
  | some .Waited => .ok none
  | none => .error (.InvalidOwnership bufferId.get)

def returnEvent : BufferReturn → VideoSourceEvent
  | .Initial bufferId transport => .BufferAvailable bufferId transport
  | .Released bufferId => .BufferReleased bufferId

/-- One turn of `process_returned_buffers`. -/
def processReturnedBuffer (t : ThreadState) (raw : ℕ) (releasePoint : Option NonZeroU64) :
    Except VideoSourceRuntimeError (VideoSourceEvent × ThreadState) :=
  match t.bufferIdForRaw raw with
  | none => .error (.InvalidPipeWireBuffer "dequeued unknown pw_buffer")
  | some bufferId =>
    match t.buffer? bufferId with
    | none => .error (.UnknownBuffer bufferId.get)
    | some runtime =>
      match actualRelease bufferId runtime.transport releasePoint with
      | .error e => .error e
      | .ok release =>
        (t.tracker.returned bufferId release).map fun (back, tracker) =>
          (returnEvent back, { t with tracker := tracker })

/-- The frame is written to the PipeWire buffer that is returned, and queued. -/
def publishFrame (t : ThreadState) (frame : VideoFrame) :
    Except VideoSourceRuntimeError (ℕ × ThreadState) :=
  match t.tracker.publish frame with
  | .error e => .error e
  | .ok tracker =>
    match t.buffer? frame.bufferId with
    | none => .error (.UnknownBuffer frame.bufferId.get)
    | some runtime =>
      match runtime.pipewireBuffer with
      | none => .error (.InvalidOwnership frame.bufferId.get)
      | some raw =>
        if runtime.transport = some .SyncTimeline ∧ frame.acquirePoint.isNone then
          .error (.MissingAcquirePoint frame.bufferId.get)
        else .ok (raw, { t with tracker := tracker })

end ThreadState

end Pronk.PipeWire
