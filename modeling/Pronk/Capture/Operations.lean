import Pronk.Capture.Quiet
import Pronk.Capture.Resources

/-!
# Every capture operation is one move

Each lemma says how an operation may end: which move of the tracker it made and
which ioctls it asked for. An operation that fails has no effect a caller could
count, though it may have retired the stream or marked it stale, and only a release
can find a reuse timeline exhausted.
-/
namespace Pronk.Capture
open CastKms Interaction Method CaptureTracker Ioctl

namespace CaptureClient
open CaptureError (NotOverflow)

variable {W : Type} {E : Environment W Ioctl Reply} {P : W → W → Prop} {c : CaptureClient}
  {A : Ioctl → Prop} {M : CaptureTracker → Effect → CaptureTracker → Prop}

/-- One move of the tracker under an unchanged lease. -/
def Ends (M : CaptureTracker → Effect → CaptureTracker → Prop) (e : Effect)
    (c c' : CaptureClient) : Prop :=
  c'.lease = c.lease ∧ M c.capture e c'.capture

/-- How an operation fails. -/
def Fails (M : CaptureTracker → Effect → CaptureTracker → Prop) (e : CaptureError)
    (c c' : CaptureClient) : Prop :=
  Ends M .none c c' ∧ e.NotOverflow

/-- The operation asks for ioctls in `A` and makes one move with the effect that its result
shows. -/
abbrev Moves (A : Ioctl → Prop) (M : CaptureTracker → Effect → CaptureTracker → Prop) {α : Type}
    (effect : α → Effect) (m : ClientM α) : Prop :=
  Does A (fun a => Ends M (effect a)) (Fails M) m

variable {e : CaptureError}

lemma Fails.keep (he : e.NotOverflow) : Fails Move e c c :=
  ⟨⟨rfl, .keep _⟩, he⟩

lemma Fails.hand (he : e.NotOverflow) : Fails Hands e c c :=
  ⟨⟨rfl, .keep _⟩, he⟩

/-- The stream that a start put into an empty tracker. -/
structure Started (E : Environment W Ioctl Reply) (c : CaptureClient)
    (info : CaptureStreamInfo) (c' : CaptureClient) (w' : W) : Prop where
  active : c.capture.active = none
  retired : c.capture.retired = none
  result : ∃ capabilities, c' = { c with capture :=
    { c.capture with active := some ⟨info, capabilities, false, []⟩ } }
  issued : ∃ w sent, ∃ args : DrmCastkmsCaptureStart, args.streamId = info.streamId.get ∧
    E w (.captureStart sent) (.ok args) w'

variable {c' : CaptureClient}

lemma Started.hands {info : CaptureStreamInfo} {w' : W} (h : Started E c info c' w') :
    Ends Hands .none c c' := by
  obtain ⟨capabilities, rfl⟩ := h.result
  exact ⟨rfl, .start _ _ h.active h.retired, fun _ => held_start h.active _ _⟩

lemma startCapture_started (h : Follows Polls E P)
    (hstart : ∀ w args r w', E w (.captureStart args) r w' → P w w')
    (capabilities : CaptureCapabilities) (cursorMode : CursorCaptureMode) (c : CaptureClient)
    (w : W) :
    (startCapture capabilities cursorMode).wp E c w
      (fun info c' w' => Started E c info c' w' ∧ P w w')
      (fun e c' w' => c' = c ∧ e.NotOverflow ∧ P w w') := by
  have hrefl := h.refl w
  have hfail (e : CaptureError) (w' : W) (he : e.NotOverflow) (h : P w w') :
      c = c ∧ e.NotOverflow ∧ P w w' := ⟨rfl, he, h⟩
  refine Then.get <| Then.failIf (fun _ => hfail _ _ nofun hrefl) fun ha => ?_
  refine Then.failIf (fun _ => hfail _ _ nofun hrefl) fun hr => ?_
  have hactive : c.capture.active = none := by simpa using ha
  have hretired : c.capture.retired = none := by simpa using hr
  refine (requireRights_asking _).step h hrefl hfail fun _ w₁ h₁ => ?_
  refine ((requireRights_asking _).when _).step h h₁ hfail fun _ w₂ h₂ => ?_
  refine queryGrant_asking.step h h₂ hfail fun grant w₃ h₃ => ?_
  refine Then.failIf (fun _ => hfail _ _ nofun h₃) fun _ => ?_
  refine (queryCrtcMode_asking _).step h h₃ hfail fun mode w₄ h₄ => ?_
  refine Then.request fun reply w₅ hE => ?_
  have h₅ := h.trans _ _ _ h₄ (hstart _ _ _ _ hE)
  cases reply with
  | error e => exact hfail _ _ nofun h₅
  | ok args =>
    refine Then.of ((wp_lift_ok ..).2 ((wp_ite ..).2 ⟨fun _ => ?_, fun _ => ?_⟩))
    · exact (stopStreamBestEffort_asking _).step h h₅ hfail fun _ _ => hfail _ _ nofun
    · refine Then.okOr (fun _ => hfail _ _ nofun h₅) fun streamId hid => ?_
      split
      · exact (stopStreamBestEffort_asking _).step h h₅ hfail fun _ _ => hfail _ _ nofun
      · exact ⟨⟨hactive, hretired, ⟨capabilities, rfl⟩, w₄, _, args,
          (NonZeroU32.new_eq_some.1 hid).symm, hE⟩, h₅⟩

lemma abandonRegistration_fails (streamId : NonZeroU32) (sync : TrackedSynchronization)
    (he : e.NotOverflow) :
    Does (fun c => ¬ Advances c) (fun _ _ _ => False) (Fails Move)
      (abandonRegistration streamId sync e) := by
  refine fun c => Then.plain (stopStreamBestEffort_asking _) (fun _ h => h.1)
    (fun _ he' => ⟨trivial, .keep he'⟩) fun _ => Then.modify ?_
  exact Then.plain (destroySyncobjPairBestEffort_plain _) (fun _ => id)
    (fun _ he' => ⟨trivial, ⟨rfl, .retire _⟩, he'⟩) fun _ => ⟨trivial, ⟨rfl, .retire _⟩, he⟩

/-- A registered buffer before a caller may attach its framebuffer. -/
structure Registered (c : CaptureClient) (s : TrackedStream) (b : TrackedBuffer)
    (c' : CaptureClient) : Prop where
  active : c.capture.active = some s
  room : ¬ s.capabilities.maxRegisteredBuffers ≤ UInt32.ofNat s.buffers.length
  new : ∀ x ∈ s.buffers, x.id ≠ b.id
  idle : b.state = .Idle
  ready : b.nextReadyPoint = 1
  release : b.lastReleasePoint = 0
  result : c' = { c with capture :=
    { c.capture with active := some { s with buffers := s.buffers ++ [b] } } }

variable {b : TrackedBuffer}

/-- A registration: its last ioctl gave the kernel the synchronization of the new buffer. -/
def Registers (E : Environment W Ioctl Reply) (c : CaptureClient) (info : CaptureBufferInfo)
    (c' : CaptureClient) (w' : W) : Prop :=
  ∃ s b, Registered c s b c' ∧ info = b.info s.info.streamId ∧
    ∃ framebufferId w args, args.bufferId = b.id.get ∧
      E w (.registerBuffer (registrationArgs s.info framebufferId b.synchronization)) (.ok args) w'

lemma Registers.ends {info : CaptureBufferInfo} {w' : W} (h : Registers E c info c' w') :
    Ends Move (.registered info) c c' := by
  obtain ⟨s, b, hr, rfl, -⟩ := h
  rw [hr.result]
  exact ⟨rfl, .register b hr.active hr.room hr.new hr.idle hr.ready hr.release⟩

lemma registerCaptureBuffer_registers (h : Silent E P) (framebufferId : NonZeroU32)
    (mode : CaptureSynchronization) (c : CaptureClient) (w : W) :
    (registerCaptureBuffer framebufferId mode).wp E c w
      (fun info c' w' => Registers E c info c' w' ∧ P w w')
      (fun e c' w' => Fails Move e c c' ∧ P w w') := by
  have hrefl := h.refl w
  refine Then.get <| Then.okOr (fun _ => ⟨.keep nofun, hrefl⟩) fun s hactive => ?_
  refine Then.failIf (fun _ => ⟨.keep nofun, hrefl⟩) fun _ => ?_
  refine Then.failIf (fun _ => ⟨.keep nofun, hrefl⟩) fun hroom => ?_
  refine (trackSynchronization_plain _ _).step h hrefl (fun _ _ he hw => ⟨.keep he, hw⟩)
    fun sync w₁ h₁ => Then.request fun reply w₂ hE => ?_
  have h₂ := h.trans _ _ _ h₁ (h.call w₁ (.registerBuffer _) reply w₂ not_false hE)
  have habandon {streamId} {e : CaptureError} (he : e.NotOverflow) {ok} :
      (abandonRegistration streamId sync e).wp E c w₂ ok
        fun e c' w' => Fails Move e c c' ∧ P w w' :=
    wp_mono ((abandonRegistration_fails streamId sync he).wp h c w₂)
      (fun _ _ _ hno => hno.1.elim) fun _ _ _ hw => ⟨hw.1, h.trans _ _ _ h₂ hw.2⟩
  cases reply with
  | error e =>
    refine Then.of ((wp_when ..).2 ⟨fun _ => (wp_modify ..).2 ?_, fun _ => ?_⟩)
    · exact (destroySyncobjPairBestEffort_plain _).step h h₂
        (fun _ _ he hw => ⟨⟨⟨rfl, .stale _ _⟩, he⟩, hw⟩)
        fun _ _ hw => ⟨⟨⟨rfl, .stale _ _⟩, nofun⟩, hw⟩
    · exact (destroySyncobjPairBestEffort_plain _).step h h₂ (fun _ _ he hw => ⟨.keep he, hw⟩)
        fun _ _ hw => ⟨.keep nofun, hw⟩
  | ok args =>
    dsimp only
    split
    · exact habandon (by nofun)
    · rename_i bufferId hid
      refine (wp_ite ..).2 ⟨fun _ => habandon (by nofun), fun _ => ?_⟩
      refine (wp_ite ..).2 ⟨fun _ => habandon (by nofun), fun hdup => ?_⟩
      have hnew : ∀ x ∈ s.buffers, x.id ≠ bufferId := by
        intro x hx he
        exact hdup (List.any_eq_true.2 ⟨x, hx, by simpa using he⟩)
      exact ⟨⟨s, _, ⟨hactive, hroom, hnew, rfl, rfl, rfl, rfl⟩, rfl, framebufferId, w₁, args,
        (NonZeroU32.new_eq_some.1 hid).symm, hE⟩, h₂⟩

/-- The lookup after a successful registration finds the new buffer, and writing
it back only replaces that entry. -/
lemma setBuffer_append {s : TrackedStream} (b' : TrackedBuffer)
    (hnew : ∀ x ∈ s.buffers, x.id ≠ b.id) :
    let s' := { s with buffers := s.buffers ++ [b] }
    s'.buffer b.id = some b ∧
      s'.setBuffer b.id b' = { s with buffers := s.buffers ++ [b'] } := by
  constructor
  · refine List.find?_eq_some_iff_append.2 ⟨by simp, s.buffers, [], rfl, ?_⟩
    intro x hx
    simpa using hnew x hx
  · simp only [TrackedStream.setBuffer]
    rw [TrackedStream.replaceF_append b b' s.buffers [] hnew rfl]

lemma allocateLinearXrgb8888Buffer_registers (h : Silent E P) (mode : CaptureSynchronization)
    (c : CaptureClient) (w : W) :
    (allocateLinearXrgb8888Buffer mode).wp E c w
      (fun info c' w' => Registers E c info c' w' ∧ P w w')
      (fun e c' w' => Fails Move e c c' ∧ P w w') := by
  have hrefl := h.refl w
  refine Then.get <| Then.okOr (fun _ => ⟨.keep nofun, hrefl⟩) fun s hactive => ?_
  refine Then.failIf (fun _ => ⟨.keep nofun, hrefl⟩) fun _ => ?_
  refine Then.failIf (fun _ => ⟨.keep nofun, hrefl⟩) fun _ => ?_
  refine Then.failIf (fun _ => ⟨.keep nofun, hrefl⟩) fun _ => ?_
  refine (createOwnedFramebuffer_plain _).step h hrefl (fun _ _ he hw => ⟨.keep he, hw⟩)
    fun ⟨framebufferId, owned⟩ w₁ h₁ => Then.of ((wp_attempt ..).2 ?_)
  refine wp_mono (registerCaptureBuffer_registers h framebufferId mode c w₁) ?_ ?_
  · rintro info c' w₂ ⟨⟨s, b, hr, rfl, hgiven⟩, h₂⟩
    obtain ⟨hfound, hset⟩ := setBuffer_append { b with ownedFramebuffer := some owned } hr.new
    obtain rfl := hr.result
    refine Then.get ?_
    simp only [TrackedBuffer.info, hfound, hset]
    exact ⟨⟨s, { b with ownedFramebuffer := some owned }, ⟨hr.active, hr.room, hr.new, hr.idle,
      hr.ready, hr.release, rfl⟩, rfl, hgiven⟩, h.trans _ _ _ h₁ h₂⟩
  · rintro e c' w₂ ⟨hfails, h₂⟩
    refine Then.mono ((cleanupOwnedFramebuffer_cleans _ _).wp h c' w₂)
      (fun _ _ _ hno => hno.1.elim) ?_
    rintro _ _ w₃ ⟨⟨rfl, -⟩, h₃⟩
    exact ⟨hfails, h.trans _ _ _ h₁ (h.trans _ _ _ h₂ h₃)⟩

lemma requireBufferState_error {expected : CaptureBufferState}
    (h : requireBufferState b expected = .error e) : e.NotOverflow := by
  grind [requireBufferState, NotOverflow]

lemma state_eq_idle {u : Unit} (h : requireBufferState b .Idle = .ok u) :
    b.state = .Idle := by
  unfold requireBufferState at h
  split_ifs at h with hs
  cases hb : b.state <;> simp_all [TrackedBufferState.public]

lemma state_eq_consumerOwned {u : Unit} (h : requireBufferState b .ConsumerOwned = .ok u) :
    ∃ c, b.state = .ConsumerOwned c := by
  unfold requireBufferState at h
  split_ifs at h with hs
  cases hb : b.state <;> simp_all [TrackedBufferState.public]

lemma ends_cleanup {α : Type} {m : ClientM (Except CaptureError Unit)} (hm : Cleans m) {a : α}
    {effect : α → Effect} (hok : Ends Move (effect a) c c') (herr : Ends Move .none c c') :
    (do let cleaned ← m; lift cleaned; pure a : ClientM α).wp
      (watching fun c => ¬ Advances c) c' ⟨True⟩ (fun a c' q => q.holds ∧ Ends Move (effect a) c c')
      fun e c' q => q.holds ∧ Fails Move e c c' := by
  refine Then.of (hm.watched (fun _ => id) ?_ fun _ _ h => h.elim)
  rintro cleaned _ ⟨rfl, hclean⟩
  exact Then.lift (fun e he => ⟨trivial, herr, hclean e he⟩) fun _ _ => ⟨trivial, hok⟩

lemma unregisterCaptureBuffer_moves (bufferId : NonZeroU32) :
    Moves (fun c => ¬ Advances c) Move (fun _ => .none) (unregisterCaptureBuffer bufferId) := by
  refine fun c => Then.get <| Then.okOr (fun _ => ⟨trivial, .keep nofun⟩) fun s hactive => ?_
  refine Then.okOr (fun _ => ⟨trivial, .keep nofun⟩) fun i _ => ?_
  refine Then.okOr (fun _ => ⟨trivial, .keep nofun⟩) fun b _ => ?_
  refine Then.lift (fun _ he => ⟨trivial, .keep (requireBufferState_error he)⟩) fun _ _ => ?_
  refine Then.ask not_false fun reply => Then.lift (fun _ he => ⟨trivial, .keep ?_⟩) fun _ _ => ?_
  · obtain ⟨_, -, rfl⟩ := Fallible.mapError_eq_error.1 he
    nofun
  have hends : Ends Move .none c { c with capture := { c.capture with
      active := some { s with buffers := s.buffers.eraseIdx i } } } := ⟨rfl, .unregister i hactive⟩
  exact Then.modify (ends_cleanup (cleanupTrackedBufferResources_cleans b) hends hends)

lemma finishRetiredCapture_moves (streamId : NonZeroU32) :
    Moves (fun c => ¬ Advances c) Move (fun _ => .none) (finishRetiredCapture streamId) := by
  refine fun c => Then.get <| Then.okOr (fun _ => ⟨trivial, .keep nofun⟩) fun s _ => ?_
  refine Then.failIf (fun _ => ⟨trivial, .keep nofun⟩) fun _ => Then.modify ?_
  exact ends_cleanup (cleanupBuffers_cleans _) ⟨rfl, .finish _⟩ ⟨rfl, .finish _⟩

lemma queuePoints_error (h : queuePoints b = .error e) :
    e.NotOverflow := by
  grind [queuePoints, NotOverflow]

/-- What a request has to meet before the kernel is asked. -/
structure Queueable (c : CaptureClient) (s : TrackedStream) (bufferId : NonZeroU32)
    (userData : NonZeroU64) (b : TrackedBuffer) (points : QueuePoints) : Prop where
  active : c.capture.active = some s
  capacity : s.hasCaptureQueueCapacity
  label : ∀ x ∈ s.buffers, ∀ q, x.state.queue? = some q → q.userData ≠ userData
  buffer : s.buffer bufferId = some b
  idle : b.state = .Idle
  queuePoints_eq : queuePoints b = .ok points

/-- The one ioctl of a queueing, and what its replies lead to. -/
theorem queueCaptureBuffer_wp {bufferId : NonZeroU32} {userData : NonZeroU64} {w : W}
    {ok : CaptureQueue → CaptureClient → W → Prop} {err : CaptureError → CaptureClient → W → Prop}
    (hrefused : ∀ e, e.NotOverflow → err e c w)
    (hasked : ∀ s b points, Queueable c s bufferId userData b points →
      let queue := ⟨s.info.streamId, bufferId, userData, points.ready, points.reuse⟩
      let b' := { b with nextReadyPoint := points.nextReady.getD b.nextReadyPoint,
                         state := .Queued queue }
      ∀ r w', E w (.queueBuffer (queueArgs s.info queue b.synchronization.public)) r w' →
        match r with
        | .error e => ∀ t, t = c.capture ∨ t = c.capture.markActiveStale s.info.streamId →
            err (.QueueBuffer e) { c with capture := t } w'
        | .ok () => ok queue { c with capture :=
            { c.capture with active := some (s.setBuffer bufferId b') } } w') :
    (queueCaptureBuffer bufferId userData).wp E c w ok err := by
  refine Then.get <| Then.okOr (fun _ => hrefused _ nofun) fun s hactive => ?_
  refine Then.failIf (fun _ => hrefused _ nofun) fun _ => ?_
  refine Then.failIf (fun _ => hrefused _ nofun) fun hcap => ?_
  refine Then.failIf (fun _ => hrefused _ nofun) fun hdup => ?_
  refine Then.okOr (fun _ => hrefused _ nofun) fun b hbuffer => ?_
  refine Then.lift (fun _ he => hrefused _ (requireBufferState_error he)) fun _ hstate => ?_
  refine Then.lift (fun _ he => hrefused _ (queuePoints_error he)) fun points hpoints => ?_
  have hlabel : ∀ x ∈ s.buffers, ∀ q, x.state.queue? = some q → q.userData ≠ userData := by
    intro x hx q hq he
    exact hdup (List.any_eq_true.2 ⟨x, hx, by simp [hq, he]⟩)
  have hasked := hasked s b points
    ⟨hactive, by simpa using hcap, hlabel, hbuffer, state_eq_idle hstate, hpoints⟩
  refine Then.request fun reply w' hE => ?_
  have hreply := hasked reply w' hE
  cases reply with
  | error e =>
    exact Then.of ((wp_when ..).2 ⟨fun _ => hreply _ (.inr rfl), fun _ => hreply _ (.inl rfl)⟩)
  | ok u => exact hreply

lemma queueCaptureBuffer_moves (bufferId : NonZeroU32) (userData : NonZeroU64) :
    Moves (fun c => Polls c ∨ ∃ args, c = .queueBuffer args) Hands .queued
      (queueCaptureBuffer bufferId userData) := by
  refine fun c => queueCaptureBuffer_wp (fun e he => ⟨trivial, .hand he⟩) ?_
  rintro s b points h queue b' r w' rfl
  have hasked : True ∧ (Polls (.queueBuffer (queueArgs s.info queue b.synchronization.public)) ∨
    ∃ args, queueBuffer (queueArgs s.info queue b.synchronization.public) =
      .queueBuffer args) := ⟨trivial, .inr ⟨_, rfl⟩⟩
  cases r with
  | error e =>
    rintro t (rfl | rfl)
    · exact ⟨hasked, .hand nofun⟩
    · exact ⟨hasked, ⟨rfl, .stale _ _⟩, nofun⟩
  | ok u =>
    exact ⟨hasked, rfl, .queue userData h.active h.capacity h.label h.buffer h.idle
      h.queuePoints_eq, fun _ => held_setActive h.active h.buffer rfl⟩

lemma recordFrame_eq_ok {t t' : CaptureTracker} {event : CaptureFrameEvent}
    (h : t.recordFrame event = .ok t') :
    ∃ streamId s id b q stale, t.stream streamId = some s ∧ s.buffer id = some b ∧
      b.state = .Queued q ∧ t' = t.setStream streamId
        { s.setBuffer id { b with state := .Completed ⟨q, event⟩ } with stale } := by
  unfold recordFrame at h
  cases hs : NonZeroU32.new event.streamId with
  | none => simp [hs] at h
  | some streamId =>
  cases hb : NonZeroU32.new event.bufferId with
  | none => simp [hs, hb] at h
  | some bufferId =>
  simp only [hs, hb] at h
  split at h
  case h_2 => cases h
  case h_1 s hstream =>
  obtain ⟨_, -, h⟩ := Fallible.bind_eq_ok.1 h
  split at h
  case h_2 => cases h
  case h_1 b hbuffer =>
  split at h
  case h_2 => cases h
  case h_1 q hstate =>
  split_ifs at h
  cases h
  exact ⟨streamId, s, bufferId, b, q, _, hstream, hbuffer, hstate, rfl⟩

lemma recordFrame_hands {t t' : CaptureTracker} {event : CaptureFrameEvent}
    (h : t.recordFrame event = .ok t') : Hands t .none t' := by
  obtain ⟨streamId, s, id, b, q, stale, hstream, hbuffer, hstate, rfl⟩ := recordFrame_eq_ok h
  exact ⟨.complete event stale hstream hbuffer hstate, fun _ =>
    held_setStream hstream (resources_setBuffer hbuffer rfl)⟩

lemma recordCaptureFrame_ends (event : CaptureFrameEvent) (c : CaptureClient) (w : W) :
    (recordCaptureFrame event).wp E c w (fun _ c' w' => Ends Hands .none c c' ∧ w' = w)
      (fun _ c' w' => Ends Hands .none c c' ∧ w' = w) :=
  Then.get <| Then.lift (fun _ _ => ⟨⟨rfl, .keep _⟩, rfl⟩)
    fun _ ht => ⟨⟨rfl, recordFrame_hands ht⟩, rfl⟩

lemma takeCaptureCompletion_moves (ready : CaptureReady) :
    Moves Polls Hands (fun _ => .none) (takeCaptureCompletion ready) := by
  refine fun c => Then.get <| Then.okOr (fun _ => ⟨trivial, .hand nofun⟩) fun s hstream => ?_
  refine Then.okOr (fun _ => ⟨trivial, .hand nofun⟩) fun b hbuffer => ?_
  split
  · rename_i completion hstate
    refine Then.failIf (fun _ => ⟨trivial, .hand nofun⟩) fun _ => ?_
    refine Then.failIf (fun _ => ⟨trivial, .hand nofun⟩) fun _ => ?_
    exact ⟨trivial, rfl, .take hstream hbuffer hstate, fun _ =>
      held_setStream hstream (resources_setBuffer hbuffer rfl)⟩
  · exact ⟨trivial, .hand nofun⟩

lemma retireCancelledCaptureBuffer_moves (queue : CaptureQueue) :
    Moves Polls Hands (fun _ => .none) (retireCancelledCaptureBuffer queue) := by
  refine fun c => Then.get <| Then.okOr (fun _ => ⟨trivial, .hand nofun⟩) fun s hs => ?_
  have hretired : c.capture.retired = some s := (Option.filter_eq_some_iff.1 hs).1
  refine Then.okOr (fun _ => ⟨trivial, .hand nofun⟩) fun b hbuffer => ?_
  split
  · rename_i actual hstate
    refine Then.failIf (fun _ => ⟨trivial, .hand nofun⟩) fun _ => ?_
    exact ⟨trivial, rfl, .cancel hretired hbuffer hstate, fun _ =>
      held_setRetired hretired hbuffer rfl⟩
  · exact ⟨trivial, .hand nofun⟩

lemma retireInvalidatedCapture_moves :
    Moves Polls Hands (fun _ => .none) retireInvalidatedCapture :=
  fun _ => Then.get <| Then.okOr (fun _ => ⟨trivial, .hand nofun⟩)
    fun _ _ => ⟨trivial, rfl, .retire _⟩

lemma stopCapture_moves : Moves Polls Hands (fun _ => .none) stopCapture := by
  refine fun c => Then.get <| Then.okOr (fun _ => ⟨trivial, .hand nofun⟩) fun s _ => ?_
  refine Then.ask ⟨not_false, not_false⟩ fun reply => ?_
  split
  · exact ⟨trivial, rfl, .retire _⟩
  · exact ⟨trivial, rfl, .retire _⟩
  · exact ⟨trivial, .hand nofun⟩

lemma validateGrantStateEvidence_error {grantId : UInt32} {evidence : GrantStateEvidence}
    (h : validateGrantStateEvidence grantId evidence = .error e) :
    e.NotOverflow := by
  unfold validateGrantStateEvidence at h
  grind [NotOverflow]

lemma reconcileGrantState_moves (evidence : GrantStateEvidence) :
    Moves Polls Hands (fun _ => .none) (reconcileGrantState evidence) := by
  refine fun c => Then.get <| Then.lift
    (fun _ he => ⟨trivial, .hand (validateGrantStateEvidence_error he)⟩) fun _ _ => ?_
  refine Then.plain queryGrant_asking (fun _ => id) (fun _ he => ⟨trivial, .hand he⟩)
    fun grant => ?_
  have hkeep : Ends Hands .none c c := ⟨rfl, .keep _⟩
  split
  · refine (wp_ite ..).2 ⟨fun _ => ?_, fun _ => ⟨trivial, hkeep⟩⟩
    split_ifs
    · exact Then.of (retireInvalidatedCapture_moves c)
    · exact Then.of (stopCapture_moves c)
  · exact ⟨trivial, hkeep⟩
  · exact ⟨trivial, hkeep⟩

/-- How a release moved the world: one signal on the buffer's reuse syncobj that the kernel
reported back unchanged, or nothing for an implicit buffer. -/
def Signalled (E : Environment W Ioctl Reply) :
    TrackedSynchronization → Option NonZeroU64 → W → W → Prop
  | .Explicit pair, some point, w, w' =>
    E w (.syncobjTimelineSignal (signalArgs pair.reuseHandle point))
      (.ok (signalArgs pair.reuseHandle point)) w'
  | _, _, w, w' => w' = w

/-- The released buffer was tracked, and its own reuse syncobj was signalled. -/
def SignalledFor (E : Environment W Ioctl Reply) (t : CaptureTracker) (r : CaptureRelease)
    (w w' : W) : Prop :=
  ∃ s b, t.stream r.streamId = some s ∧ s.buffer r.bufferId = some b ∧
    Signalled E b.synchronization r.reusePoint w w'

/-- How a failed release moved the world: at most one signal, which the kernel
refused or reported back changed. -/
def SignalFailed (E : Environment W Ioctl Reply) (w w' : W) : Prop :=
  w' = w ∨ ∃ handle point, ∃ reply : Except Errno DrmSyncobjTimelineArray,
    reply ≠ .ok (signalArgs handle point) ∧
      E w (.syncobjTimelineSignal (signalArgs handle point)) reply w'

lemma signalSyncobjPoint_spec (handle : NonZeroU32) (point : NonZeroU64) (c : CaptureClient)
    (w : W) :
    (signalSyncobjPoint handle point).wp E c w
      (fun _ c' w' => c' = c ∧ E w (.syncobjTimelineSignal (signalArgs handle point))
        (.ok (signalArgs handle point)) w')
      (fun e c' w' => e.NotOverflow ∧ c' = c ∧ SignalFailed E w w') := by
  refine Then.request fun reply w' hE => ?_
  cases reply with
  | error e => exact ⟨nofun, rfl, .inr ⟨handle, point, .error e, by simp, hE⟩⟩
  | ok result =>
    refine Then.of ((wp_lift_ok ..).2 ((wp_failIf ..).2 ⟨fun hne => ?_, fun heq => ?_⟩))
    · exact ⟨nofun, rfl, .inr ⟨handle, point, .ok result, by simpa using hne, hE⟩⟩
    · obtain rfl := not_not.1 heq
      exact ⟨rfl, hE⟩

lemma releaseCaptureBuffer_spec (streamId bufferId : NonZeroU32) (c : CaptureClient) (w : W) :
    (releaseCaptureBuffer streamId bufferId).wp E c w
      (fun r c' w' => Ends Hands (.released r) c c' ∧ SignalledFor E c.capture r w w')
      (fun e c' w' => c' = c ∧ SignalFailed E w w' ∧
        (e = .ReusePointOverflow → ∃ s b completion, c.capture.stream streamId = some s ∧
          s.buffer bufferId = some b ∧ b.state = .ConsumerOwned completion ∧
          nextReusePoint b = .error .ReusePointOverflow)) := by
  refine Then.get <| Then.okOr (fun _ => ⟨rfl, .inl rfl, nofun⟩) fun s hstream => ?_
  refine Then.okOr (fun _ => ⟨rfl, .inl rfl, nofun⟩) fun b hbuffer => ?_
  refine Then.lift (fun e he => ⟨rfl, .inl rfl, fun h => ?_⟩) fun _ hstate => ?_
  · exact absurd h (requireBufferState_error he)
  obtain ⟨completion, howned⟩ := state_eq_consumerOwned hstate
  refine Then.lift (fun e he => ⟨rfl, .inl rfl, fun h => ?_⟩) fun point hpoint => ?_
  · exact ⟨s, b, completion, hstream, hbuffer, howned, h ▸ he⟩
  have hhands : Hands c.capture (.released ⟨streamId, bufferId, point⟩) _ :=
    ⟨.release hstream hbuffer howned hpoint, fun _ =>
      held_setStream hstream (resources_setBuffer hbuffer rfl)⟩
  split
  · rename_i pair p hsync
    refine Then.mono (signalSyncobjPoint_spec pair.reuseHandle p c w) ?_ ?_
    · rintro e _ w' ⟨hne, rfl, hfailed⟩
      exact ⟨rfl, hfailed, fun he => absurd he hne⟩
    · rintro _ _ w' ⟨rfl, hsignal⟩
      exact ⟨⟨rfl, hhands⟩, s, b, hstream, hbuffer, hsync ▸ hsignal⟩
  · rename_i point _ _ hother
    refine ⟨⟨rfl, hhands⟩, s, b, hstream, hbuffer, ?_⟩
    unfold Signalled
    split
    · rename_i pair p hsync hp
      exact (hother pair p hsync hp).elim
    · rfl

end CaptureClient

end Pronk.Capture
