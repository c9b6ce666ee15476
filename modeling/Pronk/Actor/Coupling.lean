import Pronk.Actor.Kernel

/-!
# The actor's requests and the kernel's

What the actor believes about its outstanding request agrees with the kernel: a
buffer is queued exactly while the kernel owes its frame or has published it, and
every other buffer is idle or with the consumer. The agreement survives whatever
the kernel does on its own.
-/
namespace Pronk.Actor
open CastKms Capture Interaction TrackedStream CaptureTracker World

/-- A buffer without a request of the kernel. -/
def Settled (b : TrackedBuffer) : Prop :=
  b.state = .Idle ∨ ∃ completion, b.state = .ConsumerOwned completion

/-- The kernel owes the frame of this request or has published it. -/
inductive Pending (info : CaptureStreamInfo) (q : CaptureQueue) (w : World) : Prop
  | owed {sync : CaptureSynchronization}
      (hw : w.inFlight = [CaptureClient.queueArgs info q sync]) (hf : w.frames = [])
  | published {f : CaptureFrameEvent} (hw : w.inFlight = []) (hf : w.frames = [f])
      (hfits : Fits info q f)

variable {q : CaptureQueue}

lemma Answers.fits {info : CaptureStreamInfo} {sync : CaptureSynchronization}
    {f : CaptureFrameEvent} (h : Answers f (CaptureClient.queueArgs info q sync)) :
    Fits info q f :=
  ⟨h.streamId, h.bufferId, h.userData, h.generation_ne, h.changed, h.unchanged⟩

variable {w : World}

lemma Pending.ticks {info : CaptureStreamInfo} {w' : World} (h : Pending info q w)
    (ht : Ticks w w') : Pending info q w' := by
  induction ht with
  | refl => exact h
  | tail _ hstep ih =>
    cases ih with
    | owed hw hf =>
      cases hstep with
      | complete hr hanswers =>
        rw [hw] at hr
        obtain rfl := List.mem_singleton.1 hr
        refine .published (by simp [hw]) ?_ hanswers.fits
        exact (frameEvents_concat _ _).trans (congrArg (· ++ [_]) hf)
      | publish he => exact .owed hw ((frameEvents_concat_other _ he).trans hf)
      | invalidate => exact .owed hw hf
      | sourceFailed => exact .owed hw hf
    | published hw hf hfits =>
      cases hstep with
      | complete hr => simp [hw] at hr
      | publish he => exact .published hw ((frameEvents_concat_other _ he).trans hf) hfits
      | invalidate => exact .published hw hf hfits
      | sourceFailed => exact .published hw hf hfits

/-- The buffer of an outstanding request and its fence; all other buffers are
settled. -/
structure Armed (s : TrackedStream) (o : OutstandingCapture) (b : TrackedBuffer) : Prop where
  buffer : s.buffer o.queue.bufferId = some b
  streamId : o.queue.streamId = s.info.streamId
  fenceStream : o.fence.streamId = s.info.streamId
  fenceBuffer : o.fence.bufferId = o.queue.bufferId
  fenceData : o.fence.userData = o.queue.userData
  readyPoint : o.queue.readyPoint = some o.fence.readyPoint
  others : ∀ x ∈ s.buffers, x.id ≠ o.queue.bufferId → Settled x

namespace Armed

variable {s : TrackedStream} {o : OutstandingCapture} {b x x' : TrackedBuffer}
  {id : NonZeroU32}

/-- Writing the buffer of the request. -/
theorem setBuffer (h : Armed s o b) (hi : StreamInv s) (b' : TrackedBuffer)
    (hid : b'.id = b.id) :
    Armed (s.setBuffer o.queue.bufferId b') o b' := by
  refine ⟨buffer_setBuffer h.buffer hid, h.streamId, h.fenceStream, h.fenceBuffer,
    h.fenceData, h.readyPoint, fun y hy hne => ?_⟩
  obtain ⟨hb, -⟩ := buffer_split h.buffer
  rcases hi.mem_setBuffer h.buffer hy with rfl | ⟨hy, -⟩
  · exact absurd (hid.trans hb) hne
  · exact h.others y hy hne

/-- Writing another buffer. -/
theorem setBuffer_ne (h : Armed s o b) (hi : StreamInv s) (hx : s.buffer id = some x)
    (hne : id ≠ o.queue.bufferId) (hid : x'.id = x.id) (hx' : Settled x') :
    Armed (s.setBuffer id x') o b := by
  refine ⟨?_, h.streamId, h.fenceStream, h.fenceBuffer, h.fenceData, h.readyPoint,
    fun y hy hne' => ?_⟩
  · rw [buffer_setBuffer_ne hx hid hne.symm]
    exact h.buffer
  · rcases hi.mem_setBuffer hx hy with rfl | ⟨hy, -⟩
    · exact hx'
    · exact h.others y hy hne'

lemma withStale (h : Armed s o b) (stale : Bool) : Armed { s with stale } o b :=
  ⟨h.buffer, h.streamId, h.fenceStream, h.fenceBuffer, h.fenceData, h.readyPoint, h.others⟩

lemma settled (h : Armed s o b) (hi : StreamInv s) (hb : Settled b) :
    ∀ x ∈ s.buffers, Settled x := by
  intro x hx
  by_cases hid : x.id = o.queue.bufferId
  · have hfound := hi.buffer_of_mem hx
    rw [hid, h.buffer] at hfound
    exact Option.some.inj hfound ▸ hb
  · exact h.others x hx hid

end Armed

/-- The outstanding requests of a generation, its buffers and the kernel agree. -/
inductive Coupled (s : TrackedStream) (w : World) : List OutstandingCapture → Prop
  | idle (hw : w.Still) (hs : ∀ b ∈ s.buffers, Settled b) : Coupled s w []
  | queued {o : OutstandingCapture} {b : TrackedBuffer} (ho : Armed s o b)
      (hb : b.state = .Queued o.queue) (hw : Pending s.info o.queue w) : Coupled s w [o]
  | completed {o : OutstandingCapture} {b : TrackedBuffer} {f : CaptureFrameEvent}
      (ho : Armed s o b) (hb : b.state = .Completed ⟨o.queue, f⟩) (hw : w.Still) : Coupled s w [o]

namespace Coupled

variable {s : TrackedStream} {w w' : World} {outstanding : List OutstandingCapture}

lemma ticks (h : Coupled s w outstanding) (ht : Ticks w w') : Coupled s w' outstanding := by
  cases h with
  | idle hw hs => exact .idle (hw.ticks ht) hs
  | queued ho hb hw => exact .queued ho hb (hw.ticks ht)
  | completed ho hb hw => exact .completed ho hb (hw.ticks ht)

lemma withStale (h : Coupled s w outstanding) (stale : Bool) :
    Coupled { s with stale } w outstanding := by
  cases h with
  | idle hw hs => exact .idle hw hs
  | queued ho hb hw => exact .queued (ho.withStale stale) hb hw
  | completed ho hb hw => exact .completed (ho.withStale stale) hb hw

lemma frames_le (h : Coupled s w outstanding) : w.frames.length ≤ 1 := by
  cases h with
  | idle hw => simp [hw.frames]
  | completed _ _ hw => simp [hw.frames]
  | queued _ _ hw =>
    cases hw with
    | owed _ hf => simp [hf]
    | published _ hf => simp [hf]

/-- A release touches no outstanding request. -/
theorem release (h : Coupled s w outstanding) (hi : StreamInv s) {id : NonZeroU32}
    {x : TrackedBuffer} {completion : CaptureCompletion} (hx : s.buffer id = some x)
    (howned : x.state = .ConsumerOwned completion) (point : Option NonZeroU64) :
    Coupled (s.setBuffer id (x.freed point)) w outstanding := by
  have hfreed : Settled (x.freed point) := .inl rfl
  have hne : ∀ {o b}, Armed s o b → b.state ≠ x.state → id ≠ o.queue.bufferId := by
    rintro o b ho hb rfl
    exact hb (congrArg _ (Option.some.inj (ho.buffer.symm.trans hx)))
  cases h with
  | idle hw hs =>
    refine .idle hw fun y hy => ?_
    rcases hi.mem_setBuffer hx hy with rfl | ⟨hy, -⟩
    · exact hfreed
    · exact hs y hy
  | queued ho hb hw =>
    exact .queued (ho.setBuffer_ne hi hx (hne ho (by simp [hb, howned])) rfl hfreed) hb hw
  | completed ho hb hw =>
    exact .completed (ho.setBuffer_ne hi hx (hne ho (by simp [hb, howned])) rfl hfreed) hb hw

end Coupled

/-- The requests after a stop: a request that was still in flight is cancelled, and
no event of it will come. -/
inductive Stopped (s : TrackedStream) (w : World) : List OutstandingCapture → Prop
  | coupled {outstanding : List OutstandingCapture} (h : Coupled s w outstanding) :
      Stopped s w outstanding
  | cancelled {o : OutstandingCapture} {b : TrackedBuffer} (ho : Armed s o b)
      (hb : b.state = .Queued o.queue) (hw : w.Still) : Stopped s w [o]

namespace Stopped

variable {s : TrackedStream} {w w' : World} {outstanding : List OutstandingCapture}

lemma ticks (h : Stopped s w outstanding) (ht : Ticks w w') : Stopped s w' outstanding := by
  cases h with
  | coupled h => exact .coupled (h.ticks ht)
  | cancelled ho hb hw => exact .cancelled ho hb (hw.ticks ht)

end Stopped

variable {s : TrackedStream}

/-- A stop that succeeds completes every request in flight without an event. -/
theorem Coupled.stop {outstanding : List OutstandingCapture} (h : Coupled s w outstanding) :
    Stopped s { w with stream := none, inFlight := [] }
      outstanding := by
  cases h with
  | idle hw hs => exact .coupled (.idle ⟨rfl, hw.frames⟩ hs)
  | queued ho hb hw =>
    cases hw with
    | owed _ hf => exact .cancelled ho hb ⟨rfl, hf⟩
    | published _ hf hfits => exact .coupled (.queued ho hb (.published rfl hf hfits))
  | completed ho hb hw => exact .coupled (.completed ho hb ⟨rfl, hw.frames⟩)

/-- What the tracker and the world keep for a generation besides its requests. -/
structure Kept (stream : CaptureStreamInfo) (identity : NodeIdentity) (live : Bool)
    (s : TrackedStream) (w : World) : Prop where
  info : s.info = stream
  nonempty : s.buffers ≠ []
  sound : s.Sound
  kernel : w.stream = none ∨ live = true ∧ w.stream = some s.info.streamId.get
  source : w.source = none ∨ w.source = some identity

namespace Kept

variable {stream : CaptureStreamInfo} {identity : NodeIdentity} {live : Bool}
  {s s' : TrackedStream} {w w' : World}

/-- The world moved on; the kernel can only have lost the stream and the source. -/
lemma world (h : Kept stream identity live s w) (hs : w'.stream = none ∨ w'.stream = w.stream)
    (hp : w'.source = none ∨ w'.source = w.source) : Kept stream identity live s w' where
  info := h.info
  nonempty := h.nonempty
  sound := h.sound
  kernel := by
    rcases hs with hs | hs
    · exact .inl hs
    · exact hs ▸ h.kernel
  source := by
    rcases hp with hp | hp
    · exact .inl hp
    · exact hp ▸ h.source

lemma ticks (h : Kept stream identity live s w) (ht : Ticks w w') :
    Kept stream identity live s w' :=
  h.world (Ticks.stream ht) (Ticks.source ht)

lemma retire (h : Kept stream identity live s w) (hw : w.stream = none) :
    Kept stream identity false s w :=
  ⟨h.info, h.nonempty, h.sound, .inl hw, h.source⟩

lemma gone (h : Kept stream identity false s w) : w.stream = none := by
  rcases h.kernel with h | ⟨h, -⟩
  · exact h
  · cases h

lemma write (h : Kept stream identity live s w) (hinfo : s'.info = s.info)
    (hne : s'.buffers ≠ []) (hs : s'.Sound) : Kept stream identity live s' w where
  info := hinfo.trans h.info
  nonempty := hne
  sound := hs
  kernel := hinfo ▸ h.kernel
  source := h.source

lemma release (h : Kept stream identity live s w) {id : NonZeroU32} {b : TrackedBuffer}
    {completion : CaptureCompletion} {point : Option NonZeroU64} (hb : s.buffer id = some b)
    (howned : b.state = .ConsumerOwned completion) (hpoint : nextReusePoint b = .ok point) :
    Kept stream identity live (s.setBuffer id (b.freed point)) w := by
  have hbusy : b.state.public ≠ .Idle := by simp [howned, TrackedBufferState.public]
  have hp := (h.sound.pointsLeft hb).freed hbusy hpoint
  exact h.write rfl (setBuffer_ne_nil hb _) (h.sound.idle hb rfl rfl hp)

end Kept

variable {stream : CaptureStreamInfo} {identity : NodeIdentity} {live : Bool} {b : TrackedBuffer}

/-- The event of a queued buffer is recorded. -/
theorem Kept.complete (h : Kept stream identity live s w) (hb : s.buffer q.bufferId = some b)
    (hq : b.state = .Queued q) (f : CaptureFrameEvent) :
    Kept stream identity live (completed s b q f) w := by
  have hbusy : b.state.public ≠ .Idle := by simp [hq, TrackedBufferState.public]
  have hsound := h.sound.carry hb (.Completed ⟨q, f⟩) (by rw [hq]; rfl) hbusy
    (by simp [TrackedBufferState.public])
  exact h.write rfl (setBuffer_ne_nil hb _) (hsound.withStale _)

variable {o : OutstandingCapture}

lemma Armed.complete (h : Armed s o b) (hi : StreamInv s) (f : CaptureFrameEvent) :
    Armed (completed s b o.queue f) o
      { b with state := .Completed ⟨o.queue, f⟩ } := by
  have hset := h.setBuffer hi { b with state := .Completed ⟨o.queue, f⟩ } rfl
  exact hset.withStale _

/-- A completed buffer goes to the consumer. -/
theorem Kept.take (h : Kept stream identity live s w) {id : NonZeroU32}
    {completion : CaptureCompletion} (hb : s.buffer id = some b)
    (hstate : b.state = .Completed completion) :
    Kept stream identity live (s.setBuffer id { b with state := .ConsumerOwned completion }) w := by
  have hbusy : b.state.public ≠ .Idle := by simp [hstate, TrackedBufferState.public]
  exact h.write rfl (setBuffer_ne_nil hb _)
    (h.sound.carry hb (.ConsumerOwned completion) (by rw [hstate]; rfl) hbusy
      (by simp [TrackedBufferState.public]))

/-- A request is accepted for an idle buffer. -/
theorem Kept.queue (h : Kept stream identity live s w) {points : QueuePoints}
    (ha : s.Accepts q b points) :
    Kept stream identity live (s.setBuffer q.bufferId (b.queued points q)) w :=
  h.write rfl (setBuffer_ne_nil ha.buffer _) (h.sound.queued ha)

lemma Armed.queue {points : QueuePoints} (hs : ∀ x ∈ s.buffers, Settled x) (hi : StreamInv s)
    (ha : s.Accepts o.queue b points) (hstream : o.fence.streamId = s.info.streamId)
    (hbuffer : o.fence.bufferId = o.queue.bufferId) (hdata : o.fence.userData = o.queue.userData)
    (hready : o.queue.readyPoint = some o.fence.readyPoint) :
    Armed (s.setBuffer o.queue.bufferId (b.queued points o.queue)) o
      (b.queued points o.queue) where
  buffer := buffer_setBuffer ha.buffer rfl
  streamId := ha.streamId
  fenceStream := hstream
  fenceBuffer := hbuffer
  fenceData := hdata
  readyPoint := hready
  others := by
    intro x hx hne
    rcases hi.mem_setBuffer ha.buffer hx with rfl | ⟨hx, -⟩
    · obtain ⟨hid, -⟩ := buffer_split ha.buffer
      exact absurd hid hne
    · exact hs x hx

/-- A cancelled request leaves its buffer idle. -/
theorem Kept.cancel (h : Kept stream identity live s w) {id : NonZeroU32}
    (hb : s.buffer id = some b) :
    Kept stream identity live (s.setBuffer id { b with state := .Idle }) w :=
  h.write rfl (setBuffer_ne_nil hb _)
    (h.sound.idle hb rfl rfl (h.sound.pointsLeft hb).cancelled)

lemma Armed.coupled {b' : TrackedBuffer} (h : Armed s o b) (hi : StreamInv s)
    (hi' : StreamInv (s.setBuffer o.queue.bufferId b')) (hid : b'.id = b.id) (hb' : Settled b')
    (hw : w.Still) : Coupled (s.setBuffer o.queue.bufferId b') w [] :=
  .idle hw ((h.setBuffer hi b' hid).settled hi' hb')

end Pronk.Actor
