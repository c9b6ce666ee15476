import Pronk.Actor.Turns

/-!
# Starting a generation

A start issues no request, so the kernel stays still however it ends. A start
that succeeds holds a fresh stream with idle buffers; one that fails and leaves
something in the tracker ends the actor.
-/
namespace Pronk.Actor
open CastKms Capture Interaction Method Media CaptureClient

/-- The kernel handed out no request and started no stream. -/
structure Idles (w w' : World) : Prop where
  still : w.Still → w'.Still
  stream : w'.stream = none ∨ w'.stream = w.stream

lemma idles_of_ticks {w w' : World} (h : Ticks w w') : Idles w w' :=
  ⟨fun hw => hw.ticks h, World.Ticks.stream h⟩

lemma kernel_silent {admitted : World → ActorCall → Prop} {caller : Caller} :
    Silent (kernel admitted caller) Idles where
  refl _ := ⟨id, .inr rfl⟩
  trans _ _ _ h₁ h₂ := by
    refine ⟨fun hw => h₂.still (h₁.still hw), ?_⟩
    rcases h₂.stream with h | h
    · exact .inl h
    · rcases h₁.stream with h' | h'
      · exact .inl (h.trans h')
      · exact .inr (h.trans h')
  call w c r w' hc h := by
    by_cases hi : Inert c
    · exact idles_of_ticks (ticks_of_inert h hi)
    · cases c with
      | captureStop id =>
        obtain ⟨w₁, ht, -, ⟨-, -, rfl⟩ | ⟨-, -, rfl⟩⟩ := h
        · exact ⟨fun hw => ⟨rfl, (hw.ticks ht).frames⟩, .inl rfl⟩
        · exact idles_of_ticks ht
      | captureStart args => exact absurd trivial hc
      | queueBuffer args => exact absurd trivial hc
      | _ => exact absurd trivial hi

/-- No generation is installed and the kernel has none of its requests. -/
structure Unstarted (s : ActorState) (w : World) : Prop where
  clean : Clean s w
  active : s.active = none
  still : w.Still

/-- The actor holds the stream of a generation that is being started. -/
structure Pool (stream : CaptureStreamInfo) (st : TrackedStream) (s : ActorState) (w : World) :
    Prop where
  unstarted : Unstarted s w
  holds : s.client.capture = .holding true st
  info : st.info = stream
  sound : st.Sound
  idle : ∀ b ∈ st.buffers, b.state = .Idle
  kernel : w.stream = none ∨ w.stream = some stream.streamId.get

instance unstarted_stable : Stable Unstarted :=
  ⟨fun _ _ _ _ h ha ht => ⟨fun t => ha.run.teardowns ▸ h.clean t, ha.run.active.trans h.active,
    h.still.ticks ht⟩⟩

section Start

variable {admitted : World → ActorCall → Prop} {s : ActorState} {w w' : World}
  {stream : CaptureStreamInfo} {st : TrackedStream}

lemma Pool.idles (h : Pool stream st s w) (hi : Idles w w') : Pool stream st s w' where
  unstarted := ⟨h.unstarted.clean, h.unstarted.active, hi.still h.unstarted.still⟩
  holds := h.holds
  info := h.info
  sound := h.sound
  idle := h.idle
  kernel := by
    rcases hi.stream with hs | hs
    · exact .inl hs
    · exact hs ▸ h.kernel

instance pool_stable (stream : CaptureStreamInfo) (st : TrackedStream) :
    Stable (Pool stream st) := by
  refine ⟨fun s w s' w' h ha ht => ?_⟩
  have h' := h.idles (idles_of_ticks ht)
  exact ⟨unstarted_stable.stable s w s' w' h.unstarted ha ht, ha.capture.trans h.holds, h.info,
    h.sound, h.idle, h'.kernel⟩

instance : Leads (Pool stream st) Unstarted := ⟨fun _ _ h => h.unstarted⟩

lemma unstarted_capture {ε α : Type} {m : Method Ioctl Ioctl.Reply CaptureClient ε α}
    {rok : α → CaptureClient → CaptureClient → Prop}
    {rerr : ε → CaptureClient → CaptureClient → Prop}
    (hm : Does (fun c => ¬ Advances c) rok rerr m) :
    Keeps (contract admitted) Unstarted Unstarted
      (capture .actor m : ActorM (Except ε α)) := by
  refine ⟨fun s w h => (wp_capture ..).2 ?_⟩
  exact wp_mono (hm.wp kernel_silent s.client w)
    (fun _ _ _ hi => ⟨h.clean, h.active, hi.2.still h.still⟩)
    fun _ _ _ hi => ⟨h.clean, h.active, hi.2.still h.still⟩

/-- The rollback of an unpublished stream, whatever becomes of it. -/
instance rollbackUnpublished_keeps (stream : CaptureStreamInfo) :
    Keeps (contract admitted) Unstarted Unstarted (rollbackUnpublished stream) := by
  have hstop : Keeps (contract admitted) Unstarted Unstarted
      (capture .actor stopCapture : ActorM _) :=
    unstarted_capture (stopCapture_moves.mono fun _ hc => hc.1)
  have hfinish (id : NonZeroU32) : Keeps (contract admitted) Unstarted Unstarted
      (capture .actor (finishRetiredCapture id) : ActorM _) :=
    unstarted_capture (finishRetiredCapture_moves id)
  unfold rollbackUnpublished
  infer_instance

lemma rollBackWith_spec {α : Type} (h : Unstarted s w) (stream : CaptureStreamInfo)
    (e : KernelDisplayError) (ok : α → ActorState → World → Prop) :
    (rollBackWith stream e).wp (contract admitted) s w ok (fun _ s' w' => Unstarted s' w') :=
  Keeps.step (rollbackUnpublished_keeps stream) h (fun _ _ _ h' => h') fun _ _ _ h' => h'

instance orRollBack_keeps {α : Type} {I : ActorState → World → Prop} [hI : Leads I Unstarted]
    (stream : CaptureStreamInfo) (r : Except KernelDisplayError α) :
    Keeps (contract admitted) I Unstarted (orRollBack stream r) := by
  cases r with
  | ok a => exact .pure a
  | error e => exact ⟨fun s w h => rollBackWith_spec (hI.leads s w h) stream e _⟩

lemma unwindSource_spec {α : Type} (h : Unstarted s w) (ids : GenerationIds)
    (stream : CaptureStreamInfo) (e : KernelDisplayError)
    (ok : α → ActorState → World → Prop) :
    (unwindSource ids stream e).wp (contract admitted) s w ok (fun _ s' w' => Unstarted s' w') := by
  refine Then.of (Then.request fun stopped w' hE => ?_)
  obtain ⟨w₁, ht, -, hserved⟩ := hE
  have h₁ : Unstarted s w' := by
    have hw := h.still.ticks ht
    rcases hserved with ⟨identity, -, -, rfl⟩ | ⟨-, -, rfl⟩
    · exact ⟨h.clean, h.active, hw.inFlight, hw.frames⟩
    · exact ⟨h.clean, h.active, hw⟩
  cases stopped with
  | failed e' => exact h₁
  | _ => exact rollBackWith_spec h₁ stream e ok

instance {I J : ActorState → World → Prop} [Stable I] :
    Keeps (contract admitted) I J (call .isCancelled : ActorM Bool) :=
  Stable.call fun _ _ _ h => h

instance {I J : ActorState → World → Prop} [Stable I] [Leads I J]
    (operation : String) : Keeps (contract admitted) I J (requireNotCancelled operation) := by
  unfold requireNotCancelled
  infer_instance

lemma pointsLeft_of_registered {b : TrackedBuffer} (hidle : b.state = .Idle)
    (hready : b.nextReadyPoint = 1) (hrelease : b.lastReleasePoint = 0) : b.PointsLeft := by
  intro _
  rw [hready, hrelease, if_pos (by rw [hidle]; rfl)]
  decide

lemma Pool.register {s : ActorState} {c' : CaptureClient} (h : Pool stream st s w)
    {info : CaptureBufferInfo} (hm : Move s.client.capture (.registered info) c'.capture)
    (hi : Idles w w') :
    ∃ b, Pool stream { st with buffers := st.buffers ++ [b] } { s with client := c' } w' := by
  have htracker : TrackerInv s.client.capture := by
    rw [h.holds]
    exact ⟨.inr rfl, by simp, fun s hs => Option.some.inj hs ▸ h.sound.inv, by simp⟩
  have hinv := hm.inv htracker
  have h' := h.idles hi
  generalize hc : c'.capture = t' at hm hinv
  cases hm with
  | @register s₁ b hactive hroom hnew hidle hready hrelease =>
    obtain rfl : st = s₁ := by simpa [h.holds] using hactive
    have hretired : s.client.capture.retired = none := by rw [h.holds]; rfl
    have hu := h'.unstarted
    refine ⟨b, ⟨hu.clean, hu.active, hu.still⟩, ?_, h.info, ⟨hinv.active_inv _ rfl, ?_⟩, ?_,
      h'.kernel⟩
    · change c'.capture = _
      rw [hc, hretired]
      rfl
    · intro x hx
      rcases List.mem_append.1 hx with hx | hx
      · exact h.sound.points x hx
      · obtain rfl := List.mem_singleton.1 hx
        exact pointsLeft_of_registered hidle hready hrelease
    · intro x hx
      rcases List.mem_append.1 hx with hx | hx
      · exact h.idle x hx
      · obtain rfl := List.mem_singleton.1 hx
        exact hidle

/-- The pool grows buffer by buffer; a failure leaves whatever it leaves. -/
theorem allocatePool_spec (index left : ℕ) (h : Pool stream st s w) :
    (allocatePool stream index left).wp (contract admitted) s w
      (fun _ s' w' => ∃ st', Pool stream st' s' w' ∧
        st.buffers.length + left ≤ st'.buffers.length)
      (fun _ s' w' => Unstarted s' w') := by
  induction left generalizing index st s w with
  | zero => exact ⟨st, h, Nat.le_refl _⟩
  | succ left ih =>
    refine Then.of ((wp_capture ..).2 ?_)
    refine wp_mono (allocateLinearXrgb8888Buffer_registers kernel_silent
      .Explicit s.client w) ?_ ?_
    · rintro info c' w₁ ⟨hregisters, hi⟩
      obtain ⟨b, h₁⟩ := h.register hregisters.ends.2 hi
      refine Then.of ((wp_lift_ok ..).2 (Then.failIf (fun _ => h₁.unstarted) fun _ => ?_))
      refine Then.mono (ih (index + 1) h₁) (fun _ _ _ h' => h') ?_
      rintro _ s' w' ⟨st', h', hlen⟩
      refine ⟨st', h', ?_⟩
      simp only [List.length_append, List.length_singleton] at hlen
      omega
    · rintro e c' w₁ ⟨-, hi⟩
      exact ⟨h.unstarted.clean, h.unstarted.active, hi.still h.unstarted.still⟩

instance exportVideoBuffers_keeps (buffers : List CaptureBufferInfo) :
    Keeps (contract admitted) (Pool stream st) (Pool stream st)
      (exportVideoBuffers stream buffers) := by
  have hexport (id : NonZeroU32) : Keeps (contract admitted) (Pool stream st) (Pool stream st)
      (capture .actor (exportCaptureBuffer stream.streamId id) : ActorM _) :=
    ⟨fun _ _ h => (wp_capture ..).2 ((exportCaptureBuffer_queries _ _).wp
      (kernel_silent.mono fun _ hc => hc.1) (fun _ _ hi => h.idles hi) fun _ _ _ hi => h.idles hi)⟩
  fun_induction exportVideoBuffers stream buffers <;> infer_instance

/-- The PipeWire source of the generation that is being started. -/
structure Sourced (stream : CaptureStreamInfo) (st : TrackedStream) (identity : NodeIdentity)
    (s : ActorState) (w : World) : Prop where
  pool : Pool stream st s w
  source : w.source = none ∨ w.source = some identity

instance (stream : CaptureStreamInfo) (st : TrackedStream)
    (identity : NodeIdentity) : Stable (Sourced stream st identity) := by
  refine ⟨fun s w s' w' h ha ht => ?_⟩
  refine ⟨(pool_stable stream st).stable s w s' w' h.pool ha ht, ?_⟩
  rcases World.Ticks.source ht with hs | hs
  · exact .inl hs
  · exact hs ▸ h.source

instance connectProducer_keeps :
    Keeps (contract admitted) (Pool stream st) Unstarted (connectProducer stream) := by
  refine .seq (Stable.call fun _ _ _ h => h) fun connected => ?_
  cases connected with
  | none => exact ⟨fun s w h => rollBackWith_spec h.unstarted stream _ _⟩
  | some remote => exact orRollBack_keeps stream _

set_option synthInstance.maxSize 1024 in
instance startOptionalKernelAudioSource_keeps {I : ActorState → World → Prop} [Stable I]
    (config : CastKmsActorConfig) (ids : GenerationIds) :
    Keeps (contract admitted) I I (startOptionalKernelAudioSource config ids) := by
  have htap (lease : GrantLease) :
      Keeps (contract admitted) I I (query (lease.openAudioTap true)) :=
    Stable.query (lease.openAudioTap_query true)
  have hremote : Keeps (contract admitted) I I (call .createAudioRemote) :=
    Stable.call fun _ _ _ h => h
  have hstart (config : AudioSourceConfig) : Keeps (contract admitted) I I
      (call (.audioStart config)) := Stable.call fun _ _ _ h => h
  have hshutdown : Keeps (contract admitted) I I (call .audioShutdown) :=
    Stable.call fun _ _ _ h => h.2
  unfold startOptionalKernelAudioSource
  infer_instance

lemma startSources_spec (h : Pool stream st s w) (config : CastKmsActorConfig)
    (ids : GenerationIds) (buffers : List VideoBuffer) :
    (startSources config ids stream buffers).wp (contract admitted) s w
      (fun r s' w' => Sourced stream st r.1 s' w') (fun _ s' w' => Unstarted s' w') := by
  refine Then.request fun started w' hE => ?_
  obtain ⟨w₁, ht, -, hserved⟩ := hE
  have h₁ := (pool_stable stream st).stable s w s w₁ h (.refl s) ht
  cases started with
  | error e =>
    obtain rfl : w' = w₁ := hserved
    exact Then.of (rollBackWith_spec h₁.unstarted stream _ _)
  | ok identity =>
    have h₂ : Sourced stream st identity s w' := by
      obtain rfl : w' = { w₁ with source := some identity } := hserved
      exact ⟨h₁.idles ⟨fun hw => ⟨hw.inFlight, hw.frames⟩, .inr rfl⟩, .inr rfl⟩
    have hcancelled : Keeps (contract admitted) (Sourced stream st identity) Unstarted
        (call .isCancelled : ActorM Bool) := inferInstance
    have hshutdown : Keeps (contract admitted) (Sourced stream st identity) Unstarted
        (call .audioShutdown : ActorM _) := Stable.call fun _ _ _ h => h.2
    have hunwind (e : KernelDisplayError) {s : ActorState} {w : World}
        (h : Sourced stream st identity s w) :
        (unwindSource ids stream e : ActorM (NodeIdentity × Option NodeIdentity)).wp
          (contract admitted) s w (fun r s' w' => Sourced stream st r.1 s' w')
          fun _ s' w' => Unstarted s' w' := unwindSource_spec h.pool.unstarted ids stream e _
    refine Then.of (hcancelled.step h₂ (fun _ _ _ h => h) fun cancelled s₂ w₂ h₂ => ?_)
    refine (wp_ite ..).2 ⟨fun _ => hunwind _ h₂, fun _ => ?_⟩
    refine (wp_ite ..).2 ⟨fun _ => hunwind _ h₂, fun _ => Then.of ?_⟩
    refine (wp_attempt ..).2 (wp_mono
      ((startOptionalKernelAudioSource_keeps config ids).wp s₂ w₂ h₂) (fun source s₃ w₃ h₃ => ?_)
      fun e s₃ w₃ h₃ => hunwind e h₃)
    refine hcancelled.step h₃ (fun _ _ _ h => h) fun cancelled s₄ w₄ h₄ => ?_
    refine (wp_ite ..).2 ⟨fun _ => ?_, fun _ => h₄⟩
    have hdown : Keeps (contract admitted) (Sourced stream st identity) Unstarted
        (when source.isSome do
          let _ ← call .audioShutdown : ActorM Unit) := inferInstance
    exact hdown.step h₄ (fun _ _ _ h => h) fun _ _ _ h => hunwind _ h

/-- A generation that was just started. -/
structure Fresh (g : ActiveGeneration) (s : ActorState) (w : World) : Prop where
  outstanding : g.outstanding = []
  sourced : ∃ st, Sourced g.stream st g.identity s w ∧ st.buffers ≠ []

lemma startCapture_pool (h : Unstarted s w) (hc : s.client.capture = {})
    (capabilities : CaptureCapabilities) (cursorMode : CursorCaptureMode) :
    (startCapture capabilities cursorMode).wp (kernel admitted .actor) s.client w
      (fun info c' w' => ∃ st, Pool info st { s with client := c' } w')
      (fun _ c' w' => Unstarted { s with client := c' } w') := by
  have hs : Follows Polls (kernel admitted .actor) fun w w' => w.Still → w'.Still :=
    ⟨fun _ => id, fun _ _ _ h₁ h₂ hw => h₂ (h₁ hw),
      fun w c r w' hc h => (kernel_silent.call w c r w' hc.1 h).still⟩
  have hstart : ∀ w args r w', kernel admitted .actor w (.captureStart args) r w' →
      w.Still → w'.Still := by
    rintro w args r w' ⟨w₁, ht, -, hserved⟩ hw
    have hw₁ := hw.ticks ht
    cases r with
    | error e =>
      obtain rfl : w' = w₁ := hserved
      exact hw₁
    | ok reply =>
      obtain rfl : w' = { w₁ with stream := some reply.streamId } := hserved
      exact ⟨hw₁.inFlight, hw₁.frames⟩
  refine wp_mono
    (startCapture_started hs hstart capabilities cursorMode s.client w) ?_ ?_
  · rintro info _ w' ⟨hstarted, hstill⟩
    obtain ⟨found, rfl⟩ := hstarted.result
    obtain ⟨w₀, sent, args, hid, w₁, -, -, hserved⟩ := hstarted.issued
    refine ⟨⟨info, found, false, []⟩, ⟨h.clean, h.active, hstill h.still⟩, ?_, rfl,
      ⟨.empty _ _, by simp⟩, by simp, .inr ?_⟩
    · simp [hc, CaptureTracker.holding]
    · obtain rfl : w' = { w₁ with stream := some args.streamId } := hserved
      simp [hid]
  · rintro e _ w' ⟨rfl, -, hstill⟩
    exact ⟨h.clean, h.active, hstill h.still⟩

/-- The steps of a start that follow the allocation of the pool. -/
lemma finishStart_spec (h : Pool stream st s w) (hne : st.buffers ≠ [])
    (config : CastKmsActorConfig) (request : MediaStartRequest) (ids : GenerationIds)
    (buffers : List CaptureBufferInfo) :
    wp (contract admitted) (do
      let admitted : Except KernelDisplayError Unit ←
        attempt (requireNotCancelled "start capture generation")
      orRollBack stream admitted
      connectProducer stream
      let exported : Except KernelDisplayError (List VideoBuffer) ←
        attempt (exportVideoBuffers stream buffers)
      let videoBuffers ← orRollBack stream exported
      let (identity, audioSource) ← startSources config ids stream videoBuffers
      pure (({ mediaGeneration := ids.mediaGeneration, stream, identity, audioSource } :
        ActiveGeneration), preparedCaptureMedia config ids request stream identity audioSource))
      s w (fun r s' w' => Fresh r.1 s' w') (fun _ s' w' => Unstarted s' w') := by
  have hcheck : Keeps (contract admitted) (Pool stream st) (Pool stream st)
      (requireNotCancelled "start capture generation") := inferInstance
  refine Then.attempt ?_
  refine wp_mono (hcheck.wp s w h) (fun _ s₁ w₁ h₁ => ?_)
    fun e s₁ w₁ h₁ => Then.of (rollBackWith_spec h₁.unstarted stream e _)
  refine Then.of (connectProducer_keeps.step h₁ (fun _ _ _ h => h) fun _ s₂ w₂ h₂ => ?_)
  refine Then.attempt ?_
  refine wp_mono ((exportVideoBuffers_keeps buffers).wp s₂ w₂ h₂)
    (fun exported s₃ w₃ h₃ => Then.of ?_)
    fun e s₃ w₃ h₃ => Then.of (rollBackWith_spec h₃.unstarted stream e _)
  exact Then.mono (startSources_spec h₃ config ids exported) (fun _ _ _ h => h)
    fun _ _ _ h₄ => ⟨rfl, st, h₄, hne⟩

lemma startGeneration_spec (h : Unstarted s w) (hc : s.client.capture = {})
    (config : CastKmsActorConfig) (request : MediaStartRequest) :
    (startGeneration config request).wp (contract admitted) s w
      (fun r s' w' => Fresh r.1 s' w') (fun _ s' w' => Unstarted s' w') := by
  let I : ActorState → World → Prop := fun s w => Unstarted s w ∧ s.client.capture = {}
  have hI : Stable I := ⟨fun s w s' w' h ha ht =>
    ⟨unstarted_stable.stable s w s' w' h.1 ha ht, ha.capture.trans h.2⟩⟩
  have hJ : Leads I Unstarted := ⟨fun _ _ h => h.1⟩
  have hcheck : Keeps (contract admitted) I Unstarted
      (requireNotCancelled "start capture generation") := inferInstance
  refine Then.get (Then.lift (fun _ _ => h) fun ids _ => ?_)
  refine hcheck.step ⟨h, hc⟩ (fun _ _ _ h => h) fun _ s₁ w₁ h₁ => ?_
  have hu : ∀ w', Idles w₁ w' → Unstarted s₁ w' := fun w' hi =>
    ⟨h₁.1.clean, h₁.1.active, hi.still h₁.1.still⟩
  refine Then.of ((wp_capture ..).2 ?_)
  refine (queryCaptureCapabilities_queries _).wp
    (kernel_silent.mono fun _ hc => hc.1) (fun found w₂ hi => ?_) fun e w₂ _ hi => hu w₂ hi
  refine Then.of ((wp_orFail ..).2 ⟨by simp, fun capabilities _ => ?_⟩)
  refine Then.failIf (fun _ => hu w₂ hi) fun _ => Then.of ((wp_capture ..).2 ?_)
  refine wp_mono (startCapture_pool (hu w₂ hi) h₁.2 capabilities _) ?_ fun _ _ _ h => h
  rintro stream c₃ w₃ ⟨st, h₃⟩
  refine Then.of ((wp_orFail ..).2 ⟨by simp, fun _ hstream => ?_⟩)
  obtain rfl := Except.ok.inj hstream
  refine (orRollBack_keeps stream _).step h₃ (fun _ _ _ h => h) fun _ s₄ w₄ h₄ => ?_
  refine Then.attempt ?_
  refine wp_mono (allocatePool_spec 0 CAPTURE_POOL_SIZE h₄) ?_ fun e s₅ w₅ h₅ => ?_
  · rintro buffers s₅ w₅ ⟨st', h₅, hlen⟩
    have hne : st'.buffers ≠ [] := by
      intro hempty
      rw [hempty] at hlen
      simp [CAPTURE_POOL_SIZE] at hlen
    exact finishStart_spec h₅ hne config request ids buffers
  · exact Then.of (rollBackWith_spec h₅ stream e _)

lemma Fresh.inv {g : ActiveGeneration} (h : Fresh g s w) :
    InStep [] { s with active := some g } w := by
  obtain ⟨st, hs, hne⟩ := h.sourced
  have hp := hs.pool
  have hinfo : st.info.streamId = g.stream.streamId := by rw [hp.info]
  have hkernel : w.stream = none ∨ true = true ∧ w.stream = some st.info.streamId.get := by
    rw [hinfo]
    exact hp.kernel.imp_right fun hs => ⟨rfl, hs⟩
  have hcoupled : Coupled st w g.outstanding := by
    rw [h.outstanding]
    exact .idle hp.unstarted.still fun b hb => .inl (hp.idle b hb)
  exact ⟨hp.unstarted.clean, .busy rfl hp.holds ⟨hp.info, hne, hp.sound, hkernel, hs.source⟩
    hcoupled fun hne => absurd rfl hne⟩

/-- A start that failed: unless the tracker is empty, only the record is clean. -/
def Tried (r : Except KernelDisplayError PreparedCaptureMedia) (s : ActorState) (w : World) :
    Prop :=
  match r with
  | .ok _ => InStep [] s w
  | .error _ => Clean s w ∧ (s.client.capture = {} → InStep [] s w)

lemma tryStart_spec (h : InStep [] s w) (config : CastKmsActorConfig)
    (request : MediaStartRequest) :
    (tryStart config request).wp (contract Unqueued) s w Tried (fun _ _ _ => False) := by
  refine Then.get ((wp_ite ..).2 ⟨fun _ => ⟨h.clean, fun _ => h⟩, fun hactive => ?_⟩)
  cases h.holds with
  | busy ha => simp [ha] at hactive
  | idle ha hc hw =>
    refine Then.attempt ?_
    refine wp_mono (startGeneration_spec ⟨h.clean, ha, hw⟩ hc config request) ?_ ?_
    · rintro ⟨g, prepared⟩ s' w' hfresh
      exact hfresh.inv
    · intro e s' w' hu
      exact ⟨hu.clean, fun hempty => ⟨hu.clean, .idle hu.active hempty hu.still⟩⟩

/-- The answer to a start that left the agreement intact. -/
instance answerStart_turn (result : Except KernelDisplayError PreparedCaptureMedia)
    (incompleteRollback : Bool) : Turn [] (answerStart result incompleteRollback) := by
  have hnote : Turn [] (note (.answered (.start result))) := Stable.note rfl
  unfold answerStart
  exact .seq (Stable.call fun _ _ _ h => h) fun _ => inferInstance

lemma answerStart_incomplete (e : KernelDisplayError) (h : Clean s w) :
    (answerStart (.error e) true).wp (contract Unqueued) s w (fun _ _ _ => False)
      (fun _ s' w' => Clean s' w') := by
  refine Then.request fun (taken : Bool) w' hE => ?_
  have hnote : Clean { s with trace := s.trace ++ [.answered (.start (.error e))] } w' := by
    intro t ht
    refine h t ?_
    simpa [ActorState.teardowns, Happening.teardown?] using ht
  cases taken with
  | true => exact hnote
  | false => exact h

instance (config : CastKmsActorConfig) (request : MediaStartRequest) :
    Turn [] (onStart config request) := by
  refine ⟨fun s w h => Then.gives (tryStart_spec h config request) ?_⟩
  refine fun r s₁ w₁ h₁ => Then.get ?_
  cases r with
  | ok prepared => exact (answerStart_turn _ _).wp s₁ w₁ h₁
  | error e =>
    obtain ⟨hclean, hempty⟩ := h₁
    cases hc : s₁.client.activeCaptureStream.isSome || s₁.client.retiredCaptureStream.isSome with
    | false =>
      have hnone : s₁.client.capture = {} := by
        simp only [activeCaptureStream, retiredCaptureStream,
          Option.isSome_map, Bool.or_eq_false_iff, Option.isSome_eq_false_iff,
          Option.isNone_iff_eq_none] at hc
        exact CaptureTracker.ext_iff.2 hc
      exact (answerStart_turn _ _).wp s₁ w₁ (hempty hnone)
    | true =>
      exact wp_mono (answerStart_incomplete e hclean) (fun _ _ _ hf => hf.elim)
        fun _ _ _ h' => h'

end Start

end Pronk.Actor
