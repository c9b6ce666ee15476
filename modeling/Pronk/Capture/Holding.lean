import Pronk.Capture.Operations

/-!
# A tracker that holds one stream

While the actor owns a generation its stream is the only one, active or retired.
The operations on such a tracker are described exactly: what has to hold for them
to succeed and which buffer they write.
-/
namespace Pronk.Capture
open CastKms Interaction Method

namespace TrackedStream

variable {s : TrackedStream} {id id' : NonZeroU32} {b b' x : TrackedBuffer}

lemma buffer_setBuffer (hb : s.buffer id = some b) (hid : b'.id = b.id) :
    (s.setBuffer id b').buffer id = some b' := by
  obtain ⟨hbid, l₁, l₂, hs, hl⟩ := List.find?_eq_some_iff_append.1 hb
  obtain ⟨-, m₁, m₂, hm, hset⟩ := buffer_split hb
  have hbid' : b.id = id := by simpa using hbid
  have h₁ : ∀ y ∈ l₁, y.id ≠ id := fun y hy => by simpa using hl y hy
  refine List.find?_eq_some_iff_append.2 ⟨by simp [hid, hbid'], l₁, l₂, ?_, hl⟩
  rw [setBuffer, hs]
  exact replaceF_append b b' l₁ l₂ h₁ hbid'

lemma buffer_setBuffer_ne (hb : s.buffer id = some b) (hid : b'.id = b.id) (hne : id' ≠ id) :
    (s.setBuffer id b').buffer id' = s.buffer id' := by
  obtain ⟨hbid, l₁, l₂, hs, hset⟩ := buffer_split hb
  have h : ¬ id = id' := fun h => hne h.symm
  simp only [buffer, hset, hs, List.find?_append, List.find?_cons, hid, hbid, h, decide_false]

end TrackedStream

namespace StreamInv

variable {s : TrackedStream} {id : NonZeroU32} {b b' x : TrackedBuffer}

lemma buffer_of_mem (hi : StreamInv s) (hx : x ∈ s.buffers) : s.buffer x.id = some x := by
  obtain ⟨l₁, l₂, hs⟩ := List.append_of_mem hx
  have hd := hi.ids_distinct
  rw [hs, List.pairwise_append] at hd
  refine List.find?_eq_some_iff_append.2 ⟨by simp, l₁, l₂, hs, fun y hy => ?_⟩
  simpa using hd.2.2 y hy x (by simp)

end StreamInv

/-- The next release of an explicit buffer still has a point: one less than the
ready points that were handed out. -/
def TrackedBuffer.PointsLeft (b : TrackedBuffer) : Prop :=
  b.synchronization.public = .Explicit →
    b.lastReleasePoint.toNat + (if b.state.public = .Idle then 1 else 2) ≤ b.nextReadyPoint.toNat

/-- The invariant of a stream together with the points of its buffers. -/
structure TrackedStream.Sound (s : TrackedStream) : Prop where
  inv : StreamInv s
  points : ∀ b ∈ s.buffers, b.PointsLeft

namespace TrackedStream.Sound

variable {s : TrackedStream} {id : NonZeroU32} {b b' : TrackedBuffer}

lemma withStale (hs : s.Sound) (stale : Bool) : Sound { s with stale } :=
  ⟨hs.inv.withStale stale, hs.points⟩

lemma pointsLeft (hs : s.Sound) (hb : s.buffer id = some b) : b.PointsLeft :=
  hs.points b (mem_of_buffer hb)

lemma points_setBuffer (hs : s.Sound) (hb : s.buffer id = some b) (hp : b'.PointsLeft) :
    ∀ x ∈ (s.setBuffer id b').buffers, x.PointsLeft := by
  intro x hx
  rcases hs.inv.mem_setBuffer hb hx with rfl | ⟨hx, -⟩
  · exact hp
  · exact hs.points x hx

/-- A busy buffer moves on with its request. -/
theorem carry (hs : s.Sound) (hb : s.buffer id = some b) (state : TrackedBufferState)
    (hsame : state.queue? = b.state.queue?) (hbusy : b.state.public ≠ .Idle)
    (hq : state.public ≠ .Queued) : (s.setBuffer id { b with state }).Sound := by
  refine ⟨hs.inv.carry hb state hsame hq, hs.points_setBuffer hb fun he => ?_⟩
  have hp := hs.pointsLeft hb he
  rw [if_neg hbusy] at hp
  dsimp only
  split <;> omega

/-- A busy buffer becomes idle and has used at most one more release point. -/
theorem idle (hs : s.Sound) (hb : s.buffer id = some b) (hid : b'.id = b.id)
    (hidle : b'.state = .Idle) (hp : b'.PointsLeft) : (s.setBuffer id b').Sound :=
  ⟨hs.inv.idle hb hid hidle, hs.points_setBuffer hb hp⟩

end TrackedStream.Sound

lemma nextReusePoint_of_pointsLeft {b : TrackedBuffer} (h : b.PointsLeft)
    (hbusy : b.state.public ≠ .Idle) : ∃ point, nextReusePoint b = .ok point := by
  cases hsync : b.synchronization with
  | Implicit => exact ⟨none, by simp [nextReusePoint, hsync]⟩
  | Explicit pair =>
    have hp := h (by simp [hsync, TrackedSynchronization.public])
    rw [if_neg hbusy] at hp
    have hlt := b.nextReadyPoint.toNat_lt
    cases hc : checkedSucc b.lastReleasePoint with
    | none =>
      have := checkedSucc_eq_none.1 hc
      omega
    | some v =>
      have hv := checkedSucc_eq_some.1 hc
      cases hn : NonZeroU64.new v with
      | none =>
        obtain rfl := NonZeroU64.new_eq_none.1 hn
        simp at hv
      | some point => exact ⟨some point, by simp [nextReusePoint, hsync, hc, hn]⟩

/-- The buffer after its release. -/
def TrackedBuffer.freed (b : TrackedBuffer) (point : Option NonZeroU64) : TrackedBuffer :=
  { b with lastReleasePoint := point.elim b.lastReleasePoint NonZeroU64.get, state := .Idle }

/-- The buffer with a request that was accepted. -/
def TrackedBuffer.queued (b : TrackedBuffer) (points : QueuePoints) (queue : CaptureQueue) :
    TrackedBuffer :=
  { b with nextReadyPoint := points.nextReady.getD b.nextReadyPoint, state := .Queued queue }

namespace TrackedBuffer.PointsLeft

variable {b : TrackedBuffer}

lemma freed (h : b.PointsLeft) (hbusy : b.state.public ≠ .Idle) {point : Option NonZeroU64}
    (hpoint : nextReusePoint b = .ok point) : (b.freed point).PointsLeft := by
  intro he
  have hp := h he
  obtain ⟨p, rfl, hget⟩ := nextReusePoint_explicit hpoint he
  rw [if_neg hbusy] at hp
  simp only [TrackedBuffer.freed, TrackedBufferState.public, if_true, Option.elim]
  omega

lemma queued (h : b.PointsLeft) (hidle : b.state = .Idle) {points : QueuePoints}
    (hpoints : queuePoints b = .ok points) (queue : CaptureQueue) :
    (b.queued points queue).PointsLeft := by
  intro he
  have hp := h he
  obtain ⟨ready, next, rfl, -, hnext⟩ := queuePoints_explicit hpoints he
  rw [if_pos (by rw [hidle]; rfl)] at hp
  rw [if_neg (by simp [TrackedBuffer.queued, TrackedBufferState.public])]
  change b.lastReleasePoint.toNat + 2 ≤ next.toNat
  omega

/-- A cancelled request used a ready point but no release point. -/
lemma cancelled (h : b.PointsLeft) : PointsLeft { b with state := .Idle } := by
  intro he
  have hp := h he
  simp only [TrackedBufferState.public, if_true]
  split at hp <;> omega

end TrackedBuffer.PointsLeft

/-- A request that an idle buffer of the stream may carry. -/
structure TrackedStream.Accepts (s : TrackedStream) (q : CaptureQueue) (b : TrackedBuffer)
    (points : QueuePoints) : Prop where
  buffer : s.buffer q.bufferId = some b
  idle : b.state = .Idle
  queuePoints_eq : queuePoints b = .ok points
  none_queued : s.queuedCount = 0
  label : ∀ x ∈ s.buffers, ∀ p, x.state.queue? = some p → p.userData ≠ q.userData
  streamId : q.streamId = s.info.streamId
  readyPoint : q.readyPoint = points.ready

lemma TrackedStream.Sound.queued {s : TrackedStream} {q : CaptureQueue} {b : TrackedBuffer}
    {points : QueuePoints} (hs : s.Sound) (h : s.Accepts q b points) :
    (s.setBuffer q.bufferId (b.queued points q)).Sound := by
  refine ⟨hs.inv.setBuffer h.buffer rfl ?_ ?_ fun _ => h.none_queued,
    hs.points_setBuffer h.buffer ((hs.pointsLeft h.buffer).queued h.idle h.queuePoints_eq q)⟩
  · intro p hp
    obtain rfl := Option.some.inj hp
    exact ⟨h.streamId, rfl⟩
  · intro p hp
    obtain rfl := Option.some.inj hp
    exact .inr h.label

namespace CaptureTracker

/-- The tracker of one stream, active or retired. -/
def holding (live : Bool) (s : TrackedStream) : CaptureTracker :=
  if live then { active := some s } else { retired := some s }

variable {live : Bool} {s s' : TrackedStream} {streamId : NonZeroU32}

@[simp] lemma active_holding_true : (holding true s).active = some s := rfl

@[simp] lemma active_holding_false : (holding false s).active = none := rfl

@[simp] lemma retired_holding_true : (holding true s).retired = none := rfl

@[simp] lemma retired_holding_false : (holding false s).retired = some s := rfl

lemma stream_holding (h : s.info.streamId = streamId) :
    (holding live s).stream streamId = some s := by
  cases live <;> simp [stream, h]

lemma eq_of_stream_holding (h : (holding live s).stream streamId = some s') :
    s' = s ∧ s.info.streamId = streamId := by
  cases live <;> simp only [stream, active_holding_true, active_holding_false,
    retired_holding_true, retired_holding_false, Option.filter, Option.or_none, Option.none_or] at h
  all_goals
    split_ifs at h with hid
    exact ⟨(Option.some.inj h).symm, by simpa using hid⟩

lemma setStream_holding (h : s.info.streamId = streamId) :
    (holding live s).setStream streamId s' = holding live s' := by
  cases live <;> simp [setStream, h] <;> rfl

lemma retireActive_holding (h : s.buffers ≠ []) :
    (holding true s).retireActive.2 = holding false s := by
  simp [retireActive, h]
  rfl

lemma markActiveStale_holding : (holding true s).markActiveStale s.info.streamId =
    holding true { s with stale := true } := by
  simp [markActiveStale, holding]

/-- The event of the request `q` of this stream. -/
structure Fits (info : CaptureStreamInfo) (q : CaptureQueue) (f : CaptureFrameEvent) : Prop where
  streamId : f.streamId = info.streamId.get
  bufferId : f.bufferId = q.bufferId.get
  userData : f.userData = q.userData.get
  generation_ne : f.modeGeneration ≠ 0
  changed : modeChanged f = true →
    f.status = -Errno.ESTALE.code ∧ f.modeGeneration ≠ info.modeGeneration.get
  unchanged : modeChanged f = false → f.status = 0 → f.modeGeneration = info.modeGeneration.get

lemma Fits.checkFrame {q : CaptureQueue} {f : CaptureFrameEvent} (h : Fits s.info q f) :
    CaptureTracker.checkFrame s f = .ok () := by
  unfold CaptureTracker.checkFrame
  rw [if_neg h.generation_ne]
  cases hm : modeChanged f with
  | true =>
    obtain ⟨hstatus, hne⟩ := h.changed hm
    simp [hstatus, hne]
  | false =>
    have hu := h.unchanged hm
    simpa using hu

/-- The stream after the event of a queued buffer was recorded. -/
def completed (s : TrackedStream) (b : TrackedBuffer) (q : CaptureQueue) (f : CaptureFrameEvent) :
    TrackedStream :=
  { s.setBuffer q.bufferId { b with state := .Completed ⟨q, f⟩ } with
    stale := s.stale || modeChanged f }

lemma recordFrame_holding {b : TrackedBuffer} {q : CaptureQueue} {f : CaptureFrameEvent}
    (hb : s.buffer q.bufferId = some b) (hq : b.state = .Queued q) (hf : Fits s.info q f) :
    (holding live s).recordFrame f = .ok (holding live (completed s b q f)) := by
  have hstream : NonZeroU32.new f.streamId = some s.info.streamId := by
    rw [hf.streamId, NonZeroU32.new_get]
  have hbuffer : NonZeroU32.new f.bufferId = some q.bufferId := by
    rw [hf.bufferId, NonZeroU32.new_get]
  simp only [recordFrame, hstream, hbuffer, stream_holding rfl, hf.checkFrame, hb, hq, bind,
    Except.bind, hf.userData, ne_eq, not_true, if_false, setStream_holding]
  rfl

end CaptureTracker

open CaptureTracker

/-- The ioctls that end the life of a buffer succeed, and they move the world along
`P` as arming a fence does. -/
structure Obliging {W : Type} (E : Environment W Ioctl Ioctl.Reply) (P : W → W → Prop) :
    Prop where
  refl : ∀ w, P w w
  trans : ∀ w₁ w₂ w₃, P w₁ w₂ → P w₂ w₃ → P w₁ w₃
  signal : ∀ w args r w', E w (.syncobjTimelineSignal args) r w' → r = .ok args ∧ P w w'
  rmFb : ∀ w id r w', E w (.rmFb id) r w' → r = .ok () ∧ P w w'
  destroyDumb : ∀ w handle r w', E w (.destroyDumb handle) r w' → r = .ok () ∧ P w w'
  syncobjDestroy : ∀ w handle r w', E w (.syncobjDestroy handle) r w' → r = .ok () ∧ P w w'
  eventfd : ∀ w r w', E w .eventfd r w' → P w w'
  syncobjEventfd : ∀ w args r w', E w (.syncobjEventfd args) r w' → P w w'

namespace CaptureClient

variable {W : Type} {E : Environment W Ioctl Ioctl.Reply} {P : W → W → Prop}
  {c : CaptureClient} {live : Bool} {s : TrackedStream} {b : TrackedBuffer}

/-- The client that holds this stream instead. -/
def hold (c : CaptureClient) (live : Bool) (s : TrackedStream) : CaptureClient :=
  { c with capture := .holding live s }

@[simp] lemma hold_capture : (c.hold live s).capture = .holding live s := rfl

lemma recordCaptureFrame_holding (hc : c.capture = .holding live s) {q : CaptureQueue}
    {f : CaptureFrameEvent} (hb : s.buffer q.bufferId = some b) (hq : b.state = .Queued q)
    (hf : Fits s.info q f) (w : W) :
    (recordCaptureFrame f).Gives E c w
      (fun _ c' w' => c' = c.hold live (completed s b q f) ∧ w' = w) := by
  refine Then.get ?_
  rw [hc, recordFrame_holding hb hq hf]
  exact ⟨rfl, rfl⟩

lemma takeCaptureCompletion_holding (hc : c.capture = .holding live s) {ready : CaptureReady}
    {completion : CaptureCompletion} (hs : s.info.streamId = ready.streamId)
    (hb : s.buffer ready.bufferId = some b) (hstate : b.state = .Completed completion)
    (hdata : completion.queue.userData = ready.userData)
    (hpoint : completion.queue.readyPoint = ready.readyPoint) (w : W) :
    (takeCaptureCompletion ready).Gives E c w
      (fun r c' w' => r = completion ∧ w' = w ∧
        c' = c.hold live
          (s.setBuffer ready.bufferId { b with state := .ConsumerOwned completion })) := by
  simp [takeCaptureCompletion, hc, stream_holding hs, hb, hstate, hdata, hpoint,
    setCapture, setStream_holding hs, hold]

lemma signalSyncobjPoint_obliging (h : Obliging E P) (handle : NonZeroU32) (point : NonZeroU64)
    (c : CaptureClient) (w : W) :
    (signalSyncobjPoint handle point).Gives E c w (fun _ c' w' => c' = c ∧ P w w') := by
  refine Then.request fun reply w' hE => ?_
  obtain ⟨rfl, hw⟩ := h.signal _ _ _ _ hE
  exact Then.of ((wp_lift_ok ..).2 ((wp_failIf ..).2
    ⟨fun hne => hne rfl, fun _ => ⟨rfl, hw⟩⟩))

lemma releaseCaptureBuffer_holding (h : Obliging E P) (hc : c.capture = .holding live s)
    (streamId bufferId : NonZeroU32) (w : W) :
    (releaseCaptureBuffer streamId bufferId).wp E c w
      (fun _ c' w' => P w w' ∧ ∃ b completion point, s.buffer bufferId = some b ∧
        b.state = .ConsumerOwned completion ∧ nextReusePoint b = .ok point ∧
        c' = c.hold live (s.setBuffer bufferId (b.freed point)))
      (fun _ c' w' => P w w' ∧ c' = c ∧ ∀ b completion, s.info.streamId = streamId →
        s.buffer bufferId = some b → b.state = .ConsumerOwned completion → ¬ b.PointsLeft) := by
  have hrefl := h.refl w
  refine Then.get <| Then.okOr (fun hnone => ⟨hrefl, rfl, fun b _ hs => ?_⟩) fun s' hs' => ?_
  · rw [hc, stream_holding hs] at hnone
    cases hnone
  rw [hc] at hs'
  obtain ⟨rfl, hs⟩ := eq_of_stream_holding hs'
  refine Then.okOr (fun hnone => ⟨hrefl, rfl, fun b _ _ hb => ?_⟩) fun b hb => ?_
  · rw [hnone] at hb
    cases hb
  refine Then.lift (fun e he => ⟨hrefl, rfl, fun b' k _ hb' hk => ?_⟩) fun _ hstate => ?_
  · obtain rfl := Option.some.inj (hb.symm.trans hb')
    simp [requireBufferState, hk, TrackedBufferState.public] at he
  obtain ⟨k, hk⟩ := state_eq_consumerOwned hstate
  have hbusy : b.state.public ≠ .Idle := by simp [hk, TrackedBufferState.public]
  refine Then.lift (fun e he => ⟨hrefl, rfl, fun b' _ _ hb' _ hp => ?_⟩) fun point hpoint => ?_
  · obtain rfl := Option.some.inj (hb.symm.trans hb')
    obtain ⟨point, hpoint⟩ := nextReusePoint_of_pointsLeft hp hbusy
    rw [hpoint] at he
    cases he
  have hfreed : c.capture.setStream streamId (s'.setBuffer bufferId (b.freed point)) =
      .holding live (s'.setBuffer bufferId (b.freed point)) := by
    rw [hc, setStream_holding hs]
  have hend {w'} (hw : P w w') : P w w' ∧ ∃ b' completion point', s'.buffer bufferId = some b' ∧
      b'.state = .ConsumerOwned completion ∧ nextReusePoint b' = .ok point' ∧
      ({ c with capture := c.capture.setStream streamId (s'.setBuffer bufferId (b.freed point)) } :
        CaptureClient) = c.hold live (s'.setBuffer bufferId (b'.freed point')) :=
    ⟨hw, b, k, point, hb, hk, hpoint, congrArg (CaptureClient.mk c.lease) hfreed⟩
  split
  · rename_i pair p _
    refine Then.gives (signalSyncobjPoint_obliging h pair.reuseHandle p c w) ?_
    rintro _ _ w' ⟨rfl, hw⟩
    exact hend hw
  · exact hend hrefl

lemma retireCancelledCaptureBuffer_holding {q : CaptureQueue}
    (hc : c.capture = .holding false s) (hs : s.info.streamId = q.streamId)
    (hb : s.buffer q.bufferId = some b) (hq : b.state = .Queued q) (w : W) :
    (retireCancelledCaptureBuffer q).Gives E c w
      (fun _ c' w' =>
        c' = c.hold false (s.setBuffer q.bufferId { b with state := .Idle }) ∧ w' = w) := by
  simp [retireCancelledCaptureBuffer, hc, Option.filter, hs, hb, hq, setCapture, hold,
    holding]

lemma stopCapture_holding (hc : c.capture = .holding true s) (hne : s.buffers ≠ []) (w : W) :
    stopCapture.wp E c w
      (fun outcome c' w' => c' = c.hold false s ∧
        E w (.captureStop s.info.streamId.get)
          (if outcome.kernelStreamWasGone then .error .ENOENT else .ok ()) w')
      (fun _ c' w' => c' = c ∧ ∃ e, e ≠ .ENOENT ∧
        E w (.captureStop s.info.streamId.get) (.error e) w') := by
  have hretire : c.capture.retireActive.2 = .holding false s := by
    rw [hc, retireActive_holding hne]
  refine Then.get ?_
  rw [hretire, hc]
  refine Then.request fun reply w' hE => ?_
  split
  · exact ⟨rfl, hE⟩
  · exact ⟨rfl, hE⟩
  · rename_i e he
    exact ⟨rfl, e, by simpa using he, hE⟩

/-- A cleanup that succeeds and only moves the world. -/
def Obliged (E : Environment W Ioctl Ioctl.Reply) (P : W → W → Prop)
    (m : ClientM (Except CaptureError Unit)) : Prop :=
  ∀ c w, m.Gives E c w (fun r c' w' => r = .ok () ∧ c' = c ∧ P w w')

lemma Obliged.done (h : Obliging E P) : Obliged E P (pure (.ok ())) :=
  fun _ w => ⟨rfl, rfl, h.refl w⟩

lemma Obliged.both (h : Obliging E P) {m n : ClientM (Except CaptureError Unit)}
    (hm : Obliged E P m) (hn : Obliged E P n) :
    Obliged E P (do let first ← m; let second ← n; pure (firstError first second)) := by
  refine fun c w => Then.gives (hm c w) ?_
  rintro _ _ w₁ ⟨rfl, rfl, h₁⟩
  refine Then.gives (hn _ w₁) ?_
  rintro _ _ w₂ ⟨rfl, rfl, h₂⟩
  exact ⟨rfl, rfl, h.trans _ _ _ h₁ h₂⟩

lemma cleanupTrackedBufferResources_obliging (h : Obliging E P) (b : TrackedBuffer) :
    Obliged E P (cleanupTrackedBufferResources b) := by
  rw [cleanupTrackedBufferResources_eq]
  apply Obliged.both h
  · unfold releaseSyncobjs
    cases b.synchronization with
    | Implicit => exact .done h
    | Explicit pair =>
      refine fun c w => Then.request fun _ w₁ h₁ => Then.request fun _ w₂ h₂ => ?_
      obtain ⟨rfl, hw₁⟩ := h.syncobjDestroy _ _ _ _ h₁
      obtain ⟨rfl, hw₂⟩ := h.syncobjDestroy _ _ _ _ h₂
      exact ⟨rfl, rfl, h.trans _ _ _ hw₁ hw₂⟩
  · unfold releaseFramebuffer
    cases b.ownedFramebuffer with
    | none => exact .done h
    | some owned =>
      refine fun c w => Then.request fun _ w₁ h₁ => Then.request fun _ w₂ h₂ => ?_
      obtain ⟨rfl, hw₁⟩ := h.rmFb _ _ _ _ h₁
      obtain ⟨rfl, hw₂⟩ := h.destroyDumb _ _ _ _ h₂
      exact ⟨rfl, rfl, h.trans _ _ _ hw₁ hw₂⟩

lemma cleanupBuffers_obliging (h : Obliging E P) (buffers : List TrackedBuffer) :
    Obliged E P (cleanupBuffers buffers) := by
  induction buffers with
  | nil => exact .done h
  | cons b rest ih => exact .both h (cleanupTrackedBufferResources_obliging h b) ih

lemma finishRetiredCapture_holding (h : Obliging E P) (hc : c.capture = .holding false s)
    {streamId : NonZeroU32} (hs : s.info.streamId = streamId)
    (hidle : ∀ b ∈ s.buffers, b.state = .Idle) (w : W) :
    (finishRetiredCapture streamId).Gives E c w
      (fun r c' w' => r = ⟨s.info, s.bufferInfos⟩ ∧ c' = { c with capture := {} } ∧ P w w') := by
  have hfound : c.capture.retired.filter (·.info.streamId = streamId) = some s := by
    simp [hc, Option.filter, hs]
  have hall : ¬ s.buffers.any (·.state.public ≠ .Idle) := by
    simpa [List.any_eq_true] using fun b hb => by simp [hidle b hb, TrackedBufferState.public]
  refine Then.get ?_
  rw [hfound]
  refine Then.failIf (fun h => absurd h hall) fun _ => Then.modify ?_
  refine Then.gives (cleanupBuffers_obliging h s.buffers _ w) ?_
  rintro _ _ w' ⟨rfl, rfl, hw⟩
  exact ⟨rfl, by rw [hc]; rfl, hw⟩

/-- A refused request leaves the buffers alone, though it may mark the stream stale. -/
theorem queueCaptureBuffer_holding (hc : c.capture = .holding live s) (bufferId : NonZeroU32)
    (userData : NonZeroU64) (w : W) :
    (queueCaptureBuffer bufferId userData).wp E c w
      (fun q c' w' => live = true ∧ ∃ b points, s.Accepts q b points ∧ q.bufferId = bufferId ∧
        c' = c.hold true (s.setBuffer q.bufferId (b.queued points q)) ∧
        E w (.queueBuffer (queueArgs s.info q b.synchronization.public)) (.ok ()) w')
      (fun _ c' w' => (∃ stale, c' = c.hold live { s with stale }) ∧
        (w' = w ∨ ∃ args e, E w (.queueBuffer args) (.error e) w')) := by
  have hkeep : ∃ stale, c = c.hold live { s with stale } := ⟨s.stale, by simp [hold, ← hc]⟩
  refine queueCaptureBuffer_wp (fun _ _ => ⟨hkeep, .inl rfl⟩) fun s' b points h r w' hE => ?_
  obtain rfl : live = true := by
    cases live
    · simpa [hc] using h.active
    · rfl
  obtain rfl : s' = s := by simpa [hc] using h.active.symm
  cases r with
  | error e =>
    rintro t (rfl | rfl)
    · exact ⟨hkeep, .inr ⟨_, e, hE⟩⟩
    · have hmark : c.capture.markActiveStale s'.info.streamId =
          .holding true { s' with stale := true } := by
        rw [hc, markActiveStale_holding]
      exact ⟨⟨true, congrArg (CaptureClient.mk c.lease) hmark⟩, .inr ⟨_, e, hE⟩⟩
  | ok u =>
    have hcount : s'.queuedCount < MAX_OUTSTANDING_CAPTURE_REQUESTS := of_decide_eq_true h.capacity
    exact ⟨rfl, b, points, ⟨h.buffer, h.idle, h.queuePoints_eq, Nat.lt_one_iff.1 hcount,
      h.label, rfl, rfl⟩, rfl, by rw [hc]; rfl, hE⟩

lemma armExplicitCaptureFence_holding (h : Obliging E P) (hc : c.capture = .holding live s)
    {streamId : NonZeroU32} (hs : s.info.streamId = streamId) {q : CaptureQueue}
    (hb : s.buffer q.bufferId = some b) (hq : b.state = .Queued q) (w : W) :
    (armExplicitCaptureFence streamId q.bufferId).wp E c w
      (fun fence c' w' => c' = c ∧ P w w' ∧ fence.streamId = streamId ∧
        fence.bufferId = q.bufferId ∧ fence.userData = q.userData ∧
        q.readyPoint = some fence.readyPoint)
      (fun _ _ _ => True) := by
  refine Then.get ?_
  rw [hc, stream_holding hs]
  refine Then.okOr (fun _ => trivial) fun _ hstream => ?_
  obtain rfl := Option.some.inj hstream
  rw [hb]
  refine Then.okOr (fun _ => trivial) fun _ hbuffer => ?_
  obtain rfl := Option.some.inj hbuffer
  rw [hq]
  cases hsync : b.synchronization with
  | Implicit => trivial
  | Explicit pair =>
    refine Then.okOr (fun _ => trivial) fun readyPoint hready => Then.request fun _ w₁ h₁ => ?_
    refine Then.lift (fun _ _ => trivial) fun event _ => Then.request fun reply w₂ h₂ => ?_
    refine Then.lift (fun _ _ => trivial) fun _ _ => Then.failIf (fun _ => trivial) fun _ => ?_
    exact ⟨rfl, h.trans _ _ _ (h.eventfd _ _ _ h₁) (h.syncobjEventfd _ _ _ _ h₂), rfl, rfl, rfl,
      hready⟩

end CaptureClient

end Pronk.Capture
