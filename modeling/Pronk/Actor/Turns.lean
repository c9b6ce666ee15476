import Pronk.Actor.Aside

/-!
# Every turn of the actor keeps the agreement

Between two turns either no generation exists and the kernel is still, or the
actor holds the stream of its generation and its outstanding request agrees with
the kernel. A turn that fails ends the actor. Each teardown on the way is clean.
-/
namespace Pronk.Actor
open CastKms Capture Interaction Method Media

/-- The generation between two steps, with the frames of the current batch that
are still to be dispatched. -/
inductive Holds (frames : List CaptureFrameEvent) (s : ActorState) (w : World) : Prop
  | idle (ha : s.active = none) (hc : s.client.capture = {}) (hw : w.Still)
  | busy {g : ActiveGeneration} {live : Bool} {st : TrackedStream} (ha : s.active = some g)
      (hc : s.client.capture = .holding live st) (hk : Kept g.stream g.identity live st w)
      (hcoupled : Coupled st w g.outstanding)
      (hdue : frames ≠ [] → AllCompleted st g.outstanding)

/-- Every teardown so far was clean. -/
def Clean (s : ActorState) (_ : World) : Prop := ∀ t ∈ s.teardowns, t.Clean

/-- The teardowns so far were clean, and the generation is coupled with the kernel. -/
structure InStep (frames : List CaptureFrameEvent) (s : ActorState) (w : World) : Prop where
  clean : Clean s w
  holds : Holds frames s w

section Turns

variable {frames : List CaptureFrameEvent} {s s' : ActorState} {w w' : World}

instance inStep_stable (frames : List CaptureFrameEvent) : Stable (InStep frames) := by
  refine ⟨fun s w s' w' h ha ht => ?_⟩
  refine ⟨fun t => ha.run.teardowns ▸ h.clean t, ?_⟩
  cases h.holds with
  | idle hactive hc hw =>
    exact .idle (ha.run.active.trans hactive) (ha.capture.trans hc) (hw.ticks ht)
  | busy hactive hc hk hcoupled hdue =>
    exact .busy (ha.run.active.trans hactive) (ha.capture.trans hc) (hk.ticks ht)
      (hcoupled.ticks ht) hdue

instance (frames : List CaptureFrameEvent) : Leads (InStep frames) Clean :=
  ⟨fun _ _ h => h.clean⟩

/-- A step of the actor that keeps the agreement or ends the actor. -/
abbrev Turn (frames : List CaptureFrameEvent) {α : Type} (m : ActorM α) : Prop :=
  Keeps (contract Unqueued) (InStep frames) Clean m

/-- A grant that the query reports as terminal has no stream in the kernel. -/
lemma queryGrant_kernel {admitted : World → ActorCall → Prop} {caller : Caller}
    (c : CaptureClient) (w : World) :
    CaptureClient.queryGrant.wp (kernel admitted caller) c w
      (fun grant c' w' => c' = c ∧ Ticks w w' ∧ (grant.state.isTerminal = true → w'.stream = none))
      (fun _ c' w' => c' = c ∧ Ticks w w') := by
  refine Then.get (Then.request fun reply w' hE => ?_)
  obtain ⟨w₁, ht, -, hrevoked, rfl⟩ := hE
  cases reply with
  | error e => exact ⟨rfl, ht⟩
  | ok query =>
    refine Then.of ((wp_lift_ok ..).2 ((wp_lift ..).2 ⟨?_, ?_⟩))
    · exact fun _ _ => ⟨rfl, ht⟩
    · intro grant hgrant
      refine ⟨rfl, ht, fun hterminal => hrevoked query rfl ?_⟩
      cases hvalid : c.lease.validateGrant query with
      | error e => simp [hvalid, Except.mapError] at hgrant
      | ok found =>
        obtain rfl : found = grant := by simpa [hvalid, Except.mapError] using hgrant
        exact GrantLease.state_of_isTerminal hvalid hterminal

/-- A stop of a stream without an uncompleted request looks like losing the stream. -/
lemma stop_unqueued {id : UInt32} {reply : Except Errno Unit}
    (hw : w.stream = none ∨ w.stream = some id)
    (hE : kernel Unqueued .reconcile w (.captureStop id) reply w') :
    Ticks w w' ∧ w'.stream = none ∧ (reply = .ok () ∨ reply = .error .ENOENT) := by
  obtain ⟨w₁, ht, hunqueued, ⟨rfl, hs, rfl⟩ | ⟨rfl, hs, rfl⟩⟩ := hE
  · have hin : w₁.inFlight = [] := hunqueued hs
    have hlost := ht.tail (Tick.invalidate (by simp [hs]) w₁.lag)
    rw [← hin]
    exact ⟨hlost, rfl, .inl rfl⟩
  · have hgone : w'.stream = none := by
      rcases World.Ticks.stream ht with h | h
      · exact h
      · rcases hw with hw | hw
        · exact h.trans hw
        · exact absurd (h.trans hw) hs
    exact ⟨ht, hgone, .inr rfl⟩

/-- What reconciling does to a client that holds a stream. -/
def Reconciled (live : Bool) (st : TrackedStream) (c : CaptureClient) (w : World)
    (c' : CaptureClient) (w' : World) : Prop :=
  Ticks w w' ∧ (c' = c ∨ live = true ∧ c' = c.hold false st ∧ w'.stream = none)

variable {live : Bool} {st : TrackedStream}

lemma reconcileGrantState_holding {c : CaptureClient} (hc : c.capture = .holding live st)
    (hne : st.buffers ≠ []) (hw : w.stream = none ∨ w.stream = some st.info.streamId.get)
    (evidence : GrantStateEvidence) :
    (CaptureClient.reconcileGrantState evidence).wp (kernel Unqueued .reconcile) c w
      (fun _ c' w' => Reconciled live st c w c' w')
      (fun _ c' w' => Reconciled live st c w c' w') := by
  refine Then.get (Then.lift (fun _ _ => ⟨.refl, .inl rfl⟩) fun _ _ => ?_)
  refine Then.mono (queryGrant_kernel c w) (fun _ c' w' h => ⟨h.2, .inl h.1⟩) ?_
  rintro grant c w₁ ⟨rfl, ht, hterminal⟩
  cases live with
  | false =>
    rw [hc]
    exact ⟨ht, .inl rfl⟩
  | true =>
    have hw₁ : w₁.stream = none ∨ w₁.stream = some st.info.streamId.get := by
      rcases World.Ticks.stream ht with h | h
      · exact .inl h
      · exact h ▸ hw
    have hactive : c.capture.active = some st := by rw [hc]; rfl
    have hretire : c.capture.retireActive.2 = .holding false st := by
      rw [hc, CaptureTracker.retireActive_holding hne]
    rw [hactive]
    refine (wp_ite ..).2 ⟨fun _ => ?_, fun _ => ⟨ht, .inl rfl⟩⟩
    split_ifs with hstate
    · refine Then.of (Then.get ?_)
      rw [hactive]
      exact ⟨ht, .inr ⟨rfl, by rw [hretire]; rfl, hterminal hstate⟩⟩
    · refine Then.mono (CaptureClient.stopCapture_holding hc hne w₁) ?_ ?_
      · rintro _ _ w₂ ⟨-, e, he, hE⟩
        obtain ⟨-, -, hreply | hreply⟩ := stop_unqueued hw₁ hE
        · cases hreply
        · exact absurd (Except.error.inj hreply) he
      · rintro outcome _ w₂ ⟨rfl, hE⟩
        obtain ⟨ht₂, hgone, -⟩ := stop_unqueued hw₁ hE
        exact ⟨ht.trans ht₂, .inr ⟨rfl, rfl, hgone⟩⟩

lemma reconcileGrantState_empty {c : CaptureClient} (hc : c.capture = {})
    (evidence : GrantStateEvidence) (w : World) :
    (CaptureClient.reconcileGrantState evidence).wp (kernel Unqueued .reconcile) c w
      (fun _ c' w' => c' = c ∧ Ticks w w') (fun _ c' w' => c' = c ∧ Ticks w w') := by
  refine Then.get (Then.lift (fun _ _ => ⟨rfl, .refl⟩) fun _ _ => ?_)
  refine Then.mono (queryGrant_kernel c w) (fun _ _ _ h => h) ?_
  rintro grant c w₁ ⟨rfl, ht, -⟩
  rw [hc]
  exact ⟨rfl, ht⟩

/-- Reconciling keeps the agreement, whether or not it retires the stream. -/
instance (operation : String) (evidence : GrantStateEvidence) :
    Turn frames (reconcileGrantState operation evidence) := by
  refine Keeps.seq ⟨fun s w h => (wp_capture ..).2 ?_⟩ fun _ => inferInstance
  cases h.holds with
  | idle ha hc hw =>
    have hpost : ∀ c' w', c' = s.client ∧ Ticks w w' →
        InStep frames { s with client := c' } w' := by
      rintro _ w' ⟨rfl, ht⟩
      exact ⟨h.clean, .idle ha hc (hw.ticks ht)⟩
    exact wp_mono (reconcileGrantState_empty hc evidence w) (fun _ => hpost) fun _ => hpost
  | @busy g live st ha hc hk hcoupled hdue =>
    have hpost : ∀ c' w', Reconciled live st s.client w c' w' →
        InStep frames { s with client := c' } w' := by
      rintro c' w' ⟨ht, rfl | ⟨rfl, rfl, hgone⟩⟩
      · exact ⟨h.clean, .busy ha hc (hk.ticks ht) (hcoupled.ticks ht) hdue⟩
      · exact ⟨h.clean, .busy ha rfl ((hk.ticks ht).retire hgone) (hcoupled.ticks ht) hdue⟩
    have hw : w.stream = none ∨ w.stream = some st.info.streamId.get :=
      hk.kernel.imp_right And.right
    exact wp_mono (reconcileGrantState_holding hc hk.nonempty hw evidence) (fun _ => hpost)
      fun _ => hpost

/-- `stop_active` succeeds and leaves no generation. -/
theorem stopActive_spec (h : InStep frames s w) (frames' : List CaptureFrameEvent) :
    stopActive.Gives (contract Unqueued) s w
      (fun r s' w' => r = .ok () ∧ InStep frames' s' w') := by
  refine Then.get ?_
  cases h.holds with
  | idle ha hc hw =>
    rw [ha]
    exact ⟨rfl, h.clean, .idle ha hc hw⟩
  | @busy g live st ha hc hk hcoupled hdue =>
    rw [ha]
    refine Then.of ((wp_setActive ..).2 ?_)
    have hspec : wp (contract Unqueued) (stopGeneration g) { s with active := none } w _ _ :=
      stopGeneration_spec hc hk hcoupled
    refine Gives.mono hspec ?_
    rintro _ s' w' ⟨rfl, hdown⟩
    refine ⟨rfl, ?_, .idle hdown.active hdown.capture hdown.still⟩
    obtain ⟨t, ht, hteardowns⟩ := hdown.clean
    intro t' ht'
    rw [hteardowns] at ht'
    rcases List.mem_append.1 ht' with ht' | ht'
    · exact h.clean t' ht'
    · obtain rfl := List.mem_singleton.1 ht'
      exact ht

instance : Turn frames stopActive :=
  ⟨fun _ _ h => wp_mono (stopActive_spec h frames) (fun _ _ _ h' => h'.2)
    fun _ _ _ hf => hf.elim⟩

instance failActive_turn (error : Message) : Turn frames (failActive error) := by
  have : Turn frames (note (.published (.MediaFailed error))) := Stable.note rfl
  refine ⟨fun s w h => Then.gives (stopActive_spec h frames) ?_⟩
  rintro _ s' w' ⟨rfl, h'⟩
  exact this.wp s' w' h'

instance (isActive : Bool) (state : Part) : Turn frames (failUnlessActive isActive state) := by
  unfold failUnlessActive
  infer_instance

instance : Turn frames onPoll := by
  unfold onPoll
  infer_instance

instance (event : GrantStateEvent) : Turn frames (onGrantState event) := by
  unfold onGrantState
  infer_instance

instance : Turn frames onGrantRevoked := by
  have : Turn frames (note (.published .Revoked)) := Stable.note rfl
  unfold onGrantRevoked publish
  infer_instance

instance : Turn frames recheckCecAuthority := by
  unfold recheckCecAuthority
  infer_instance

instance (event : CecTransmitEvent) : Turn frames (onCecTransmit event) := by
  unfold onCecTransmit
  infer_instance

instance (answer : Answer) : Turn frames (note (.answered answer)) :=
  Stable.note rfl

instance (mediaGeneration : NonZeroU64) : Turn frames (onStop mediaGeneration) :=
  .seq inferInstance fun _ => by split <;> infer_instance

instance : Turn frames onDetach := by
  have (lease : GrantLease) : Turn frames (cec lease.detachMonitor) :=
    Stable.cec lease.detachMonitor_asks
  have hshutdown : Turn frames (call .videoShutdown) := Stable.call fun _ _ _ h => h
  have hjoin : Turn frames (call .joinDetach) := Stable.call fun _ _ _ h => h
  unfold onDetach
  infer_instance

/-- The suspension flag is no part of the agreement. -/
instance (mediaGeneration : NonZeroU64) (suspended : Bool) :
    Turn frames (setSuspended mediaGeneration suspended) := by
  refine .get_bind fun s w h => ?_
  split
  · exact h
  · rename_i g hg
    refine Then.of ((wp_setActive ..).2 ?_)
    cases h.holds with
    | idle ha => simp [ha, requireGeneration] at hg
    | busy ha hc hk hcoupled hdue =>
      simp only [ha, requireGeneration] at hg
      split_ifs at hg
      obtain rfl := Except.ok.inj hg
      exact ⟨h.clean, .busy rfl hc hk hcoupled hdue⟩

/-- How queueing may fail: a recoverable failure leaves a generation to tear down,
a fatal one ends the actor. -/
def QueueFailed (e : QueueFailure) (s : ActorState) (w : World) : Prop :=
  match e with
  | .Recoverable _ => InStep [] s w
  | .Fatal _ => Clean s w

/-- A refused request changed nothing that the kernel could see. -/
lemma ticks_of_refused
    (h : w' = w ∨ ∃ args e, kernel Unqueued .actor w (.queueBuffer args) (.error e) w') :
    Ticks w w' := by
  rcases h with rfl | ⟨args, e, w₁, ht, -, hs⟩
  · exact .refl
  · obtain rfl : w' = w₁ := hs
    exact ht

variable {g : ActiveGeneration}

lemma queueNext_spec (hclean : Clean s w) (hc : s.client.capture = .holding live st)
    (hk : Kept g.stream g.identity live st w) (hcoupled : Coupled st w [])
    (hnone : g.outstanding = []) (bufferId : NonZeroU32) (available : List NonZeroU32) :
    (queueNext g bufferId available).wp (contract Unqueued) s w
      (fun _ => InStep []) QueueFailed := by
  have hdue : ∀ st', ([] : List CaptureFrameEvent) ≠ [] → AllCompleted st' g.outstanding :=
    fun _ hne => absurd rfl hne
  obtain ⟨hw, hsettled⟩ : w.Still ∧ ∀ b ∈ st.buffers, Settled b := by
    cases hcoupled with
    | idle hw hs => exact ⟨hw, hs⟩
  refine Then.modify (Then.okOr (fun _ => hclean) fun transport _ => Then.okOr (fun _ =>
    ⟨hclean, .busy rfl hc hk (hnone ▸ hcoupled) (hdue st)⟩) fun userData _ => ?_)
  refine Then.of ((wp_capture ..).2 ?_)
  refine wp_mono (CaptureClient.queueCaptureBuffer_holding hc bufferId userData w) ?_ ?_
  · rintro q _ w₁ ⟨rfl, b, points, haccepts, rfl, rfl, w₀, ht, -, hserved⟩
    have hw₀ := hw.ticks ht
    have hin : w₁.inFlight = [CaptureClient.queueArgs st.info q b.synchronization.public] := by
      obtain rfl : w₁ = _ := hserved
      simp [hw₀.inFlight]
    have hpending : Pending st.info q w₁ := by
      obtain rfl : w₁ = _ := hserved
      exact .owed hin hw₀.frames
    have hk₁ : Kept g.stream g.identity true st w₁ := by
      obtain rfl : w₁ = _ := hserved
      exact (hk.ticks ht).world (.inr rfl) (.inr rfl)
    have hqueued := hk₁.queue haccepts
    have hbuffer := TrackedStream.buffer_setBuffer haccepts.buffer
      (rfl : (b.queued points q).id = b.id)
    refine Then.modify (Then.of ((wp_capture ..).2 ?_))
    refine wp_mono (CaptureClient.armExplicitCaptureFence_holding kernel_obliging
      CaptureClient.hold_capture (congrArg _ hqueued.info) hbuffer rfl w₁) ?_ ?_
    · rintro fence _ w₂ ⟨rfl, ht₂, hstream, hid, hdata, hready⟩
      refine Then.of ((wp_lift_ok ..).2 ((wp_modify ..).2 ?_))
      have harmed : Armed _ ⟨q, fence, transport⟩ _ := .queue hsettled hk.sound.inv haccepts
        (hstream.trans (congrArg _ hk.info.symm)) hid hdata hready
      have hcoupled₁ := (Coupled.queued harmed rfl hpending).ticks ht₂
      exact ⟨hclean, .busy rfl rfl (hqueued.ticks ht₂) (by rw [hnone]; exact hcoupled₁)
        fun hne => absurd rfl hne⟩
    · intro e _ w₂ _
      exact hclean
  · rintro e _ w₁ ⟨⟨stale, rfl⟩, hrefused⟩
    have ht := ticks_of_refused hrefused
    have hk₁ : Kept g.stream g.identity live { st with stale } w₁ :=
      (hk.ticks ht).write rfl hk.nonempty (hk.sound.withStale stale)
    have hcoupled₁ : Coupled { st with stale } w₁ g.outstanding := by
      rw [hnone]
      exact (hcoupled.ticks ht).withStale stale
    split
    · exact ⟨hclean, .busy rfl rfl hk₁ hcoupled₁ (hdue _)⟩
    · exact ⟨hclean, .busy rfl rfl hk₁ hcoupled₁ (hdue _)⟩
    · rename_i hok
      cases hok

lemma maybeQueue_spec (h : InStep [] s w) :
    maybeQueue.wp (contract Unqueued) s w (fun _ => InStep []) QueueFailed := by
  refine Then.get ?_
  cases h.holds with
  | idle ha =>
    rw [ha]
    exact h
  | @busy g live st ha hc hk hcoupled hdue =>
    rw [ha]
    refine (wp_ite ..).2 ⟨fun _ => h, fun hidle => ?_⟩
    have hnone : g.outstanding = [] := by
      have hlen : ¬ g.outstanding.length ≥ 1 := fun hge => hidle (.inr hge)
      exact List.length_eq_zero_iff.1 (by omega)
    split
    · exact h
    · exact queueNext_spec h.clean hc hk (hnone ▸ hcoupled) hnone _ _

instance : Turn [] queueOrFail := by
  refine ⟨fun s w h => Then.attempt ?_⟩
  refine wp_mono (maybeQueue_spec h) (fun _ _ _ h' => h') ?_
  intro e s' w' he
  cases e with
  | Recoverable e => exact (failActive_turn e.toMessage).wp s' w' he
  | Fatal e => exact he

instance queueAfter_turn (handled : Except KernelDisplayError Unit) :
    Turn [] (queueAfter handled) := by
  cases handled <;> unfold queueAfter <;> infer_instance

instance : Turn [] onQueueRetry := by
  unfold onQueueRetry
  infer_instance

lemma waitBeforePublish_spec (o : OutstandingCapture) :
    (waitBeforePublish o).wp (contract Unqueued) s w (fun _ s' w' => s' = s ∧ Ticks w w')
      fun _ s' w' => s' = s ∧ Ticks w w' := by
  refine (wp_ite ..).2 ⟨fun _ => Then.request ?_, fun _ => ⟨rfl, .refl⟩⟩
  rintro waited w' ⟨w₁, ht, -, hserved⟩
  obtain rfl : w' = w₁ := hserved.2
  split
  · exact ⟨rfl, ht⟩
  · exact (wp_lift ..).2 ⟨fun _ _ => ⟨rfl, ht⟩, fun _ _ => ⟨rfl, ht⟩⟩

lemma outstanding_of_mem {o : OutstandingCapture} {outstanding : List OutstandingCapture}
    (hcoupled : Coupled st w outstanding) (ho : o ∈ outstanding) :
    outstanding = [o] := by
  cases hcoupled with
  | idle => simp at ho
  | queued => rw [List.mem_singleton.1 ho]
  | completed => rw [List.mem_singleton.1 ho]

lemma publishFrame_keeps {o : OutstandingCapture} (h : InStep [] s w)
    (hc : s.client.capture = .holding live st) (hk : Kept g.stream g.identity live st w)
    (hcoupled : Coupled st w g.outstanding) (hall : AllCompleted st g.outstanding)
    (ho : o ∈ g.outstanding) (frame : CaptureFrameEvent) (damage : VideoDamage) :
    (publishFrame g o frame damage).wp (contract Unqueued) s w (fun _ => InStep [])
      (fun _ => InStep []) := by
  have hone := outstanding_of_mem hcoupled ho
  refine Then.mono (waitBeforePublish_spec o) ?_ ?_
  · rintro _ _ w₁ ⟨rfl, ht⟩
    exact (inStep_stable []).stable _ w _ w₁ h (.refl _) ht
  rintro _ s w₁ ⟨rfl, ht⟩
  refine Then.of ((wp_setActive ..).2 (Then.of ((wp_capture ..).2 ?_)))
  have hk₁ := hk.ticks ht
  have hi := hk.sound.inv
  rw [hone] at hcoupled hall
  cases hcoupled.ticks ht with
  | @queued _ b harmed hb =>
    obtain ⟨b', f, hb', hf⟩ := hall o (by simp)
    obtain rfl := Option.some.inj (harmed.buffer.symm.trans hb')
    simp [hb] at hf
  | @completed _ b f harmed hb hw =>
    have hbuffer : st.buffer o.fence.bufferId = some b := by
      rw [harmed.fenceBuffer, harmed.buffer]
    refine Gives.mono (CaptureClient.takeCaptureCompletion_holding hc harmed.fenceStream.symm
      hbuffer hb harmed.fenceData.symm harmed.readyPoint w₁) ?_
    rintro _ _ w₁ ⟨rfl, rfl, rfl⟩
    have htaken := hk₁.take harmed.buffer hb
    have hnone := harmed.coupled hi htaken.sound.inv rfl (.inr ⟨_, rfl⟩) hw
    have hinv : InStep [] { s with
        active := some { g with outstanding := g.outstanding.erase o }
        client := s.client.hold live (st.setBuffer o.fence.bufferId
          { b with state := .ConsumerOwned ⟨o.queue, f⟩ }) } w₁ := by
      rw [harmed.fenceBuffer]
      exact ⟨h.clean, .busy rfl rfl htaken (by simpa [hone] using hnone) fun hne => absurd rfl hne⟩
    refine Then.of ((wp_orFail ..).2 ⟨by simp, fun completion _ => ?_⟩)
    have hkeep : Keeps (contract Unqueued) (InStep []) (InStep []) (do
        let published : Except String Unit ← call (.videoPublish g.mediaGeneration
          { bufferId := completion.queue.bufferId, sequence := frame.sequence,
            ptsNs := frame.timestampNs, damage, discontinuity := frame.droppedFrames ≠ 0,
            acquirePoint := acquirePoint o })
        orFail "publish captured PipeWire frame" .outside published) :=
      .seq (Stable.call fun _ _ _ hs => hs) fun _ => inferInstance
    exact hkeep.wp _ _ hinv

/-- Handling the frame of a batch ends with nothing left to dispatch. -/
lemma handleCaptureFrame_spec {frame : CaptureFrameEvent} (h : InStep [frame] s w) :
    (handleCaptureFrame frame).wp (contract Unqueued) s w (fun _ => InStep [])
      (fun _ => InStep []) := by
  cases h.holds with
  | idle ha hc hw =>
    refine Then.get (Then.of ?_)
    rw [ha]
    exact ⟨h.clean, .idle ha hc hw⟩
  | @busy g live st ha hc hk hcoupled hdue =>
    have h' : InStep [] s w := ⟨h.clean, .busy ha hc hk hcoupled fun hne => absurd rfl hne⟩
    refine Then.get (Then.okOr (by simp [ha]) fun g' hg' => ?_)
    obtain rfl : g = g' := Option.some.inj (ha.symm.trans hg')
    refine Then.okOr (fun _ => h') fun o hfound => Then.failIf (fun _ => h') fun _ => ?_
    refine Then.lift (fun _ _ => h') fun x _ => Then.lift (fun _ _ => h') fun y _ => ?_
    refine Then.lift (fun _ _ => h') fun width _ => Then.lift (fun _ _ => h') fun height _ => ?_
    exact publishFrame_keeps h' hc hk hcoupled (hdue (by simp)) (List.mem_of_find?_eq_some hfound)
      frame _

lemma onCaptureFrame_spec {frame : CaptureFrameEvent} (h : InStep [frame] s w) :
    (onCaptureFrame frame).wp (contract Unqueued) s w (fun _ => InStep [])
      (fun _ s' w' => Clean s' w') := by
  refine Then.attempt ?_
  exact wp_mono (handleCaptureFrame_spec h) (fun _ => (queueAfter_turn _).wp)
    fun _ => (queueAfter_turn _).wp

/-- An event that is no frame keeps the frames that are still to come. -/
lemma dispatch_turn {event : CastKmsEvent} (he : event.frame? = none) :
    Turn frames (dispatch event) := by
  cases event with
  | CaptureFrame f => simp [CastKmsEvent.frame?] at he
  | _ => unfold dispatch; infer_instance

/-- A batch with at most one frame, whose request was recorded as completed. -/
theorem dispatchAll_spec {events : List CastKmsEvent} (hone : (frameEvents events).length ≤ 1)
    (h : InStep (frameEvents events) s w) :
    (dispatchAll events).wp (contract Unqueued) s w (fun _ => InStep [])
      (fun _ s' w' => Clean s' w') := by
  induction events generalizing s w with
  | nil => exact h
  | cons event rest ih =>
    refine Then.of ?_
    cases hevent : event.frame? with
    | none =>
      have hframes : frameEvents (event :: rest) = frameEvents rest := by
        simp [frameEvents, hevent]
      rw [hframes] at h hone
      exact wp_mono ((dispatch_turn hevent).wp s w h) (fun _ _ _ h' => ih hone h')
        fun _ _ _ h' => h'
    | some frame =>
      obtain rfl : event = .CaptureFrame frame := by
        cases event <;> simp_all [CastKmsEvent.frame?]
      have hframes : frameEvents (.CaptureFrame frame :: rest) = frame :: frameEvents rest := rfl
      have hnone : frameEvents rest = [] := by
        rw [hframes, List.length_cons] at hone
        exact List.length_eq_zero_iff.1 (by omega)
      rw [hframes, hnone] at h
      refine wp_mono (onCaptureFrame_spec h) (fun _ _ _ h' => ih ?_ ?_) fun _ _ _ h' => h'
      · simp [hnone]
      · rw [hnone]
        exact h'

/-- Recording a batch that the main loop read completes the request of its frame. -/
lemma recordCaptureEvents_inStep {w₁ : World} (h : InStep [] s w₁) (hin : w'.inFlight = w₁.inFlight)
    (hread : w'.frames = []) (hstream : w'.stream = w₁.stream) (hsource : w'.source = w₁.source) :
    (recordCaptureEvents w₁.events).Gives (contract Unqueued) s w'
      (fun r s' w'' => r = .ok () ∧ InStep (frameEvents w₁.events) s' w'') := by
  cases h.holds with
  | idle ha hc hw =>
    refine Gives.mono (recordCaptureEvents_none hw.frames s w') ?_
    rintro _ _ _ ⟨rfl, rfl, rfl⟩
    exact ⟨rfl, h.clean, .idle ha hc ⟨hin.trans hw.inFlight, hread⟩⟩
  | @busy g live st ha hc hk hcoupled hdue =>
    have ht : Tearing s g.stream g.identity live st s w' :=
      ⟨.refl s, hc, hk.world (.inr hstream) (.inr hsource)⟩
    refine Gives.mono (recordCaptureEvents_spec ht hcoupled hin hread) ?_
    rintro _ s' _ ⟨rfl, rfl, st', ht', hcoupled', hall⟩
    refine ⟨rfl, fun t => ht'.run.teardowns ▸ h.clean t, ?_⟩
    exact .busy (ht'.run.active.trans ha) ht'.holds ht'.kept hcoupled' hall

instance : Turn [] onEvents := by
  refine ⟨fun s w h => Then.of (Then.request fun r w' hE => ?_)⟩
  obtain ⟨w₁, ht, -, events, rfl, rfl, -, -, rfl⟩ := hE
  have h₁ : InStep [] s w₁ := (inStep_stable []).stable s w _ w₁ h (.refl s) ht
  have hone : (frameEvents w₁.events).length ≤ 1 := by
    change w₁.frames.length ≤ 1
    cases h₁.holds with
    | idle _ _ hw => simp [hw.frames]
    | busy _ _ _ hcoupled _ => exact hcoupled.frames_le
  refine Then.gives (finishRead_gives (recordCaptureEvents_inStep h₁ rfl rfl rfl rfl)) ?_
  rintro _ s' w' ⟨rfl, h'⟩
  refine Then.of ((wp_orFail ..).2 ⟨by simp, fun events he => Then.of ((wp_note ..).2 ?_)⟩)
  obtain rfl := Except.ok.inj he
  exact dispatchAll_spec hone
    ((inStep_stable _).stable s' w' _ w' h' (Aside.note s' rfl) .refl)

lemma followSource_spec (h : InStep [] s w) (ha : s.active = some g)
    (hc : s.client.capture = .holding live st) (hk : Kept g.stream g.identity live st w)
    (hcoupled : Coupled st w g.outstanding) (event : VideoSourceActorEvent) :
    (followSource g event).wp (contract Unqueued) s w (fun _ => InStep [])
      (fun _ => InStep []) := by
  have hdue : ∀ st', ([] : List CaptureFrameEvent) ≠ [] → AllCompleted st' g.outstanding :=
    fun _ hne => absurd rfl hne
  cases event with
  | BufferAvailable _ bufferId transport =>
    refine (wp_ite ..).2 ⟨fun _ => h, fun _ => (wp_ite ..).2 ⟨fun _ => h, fun _ => ?_⟩⟩
    exact ⟨h.clean, .busy rfl hc hk hcoupled (hdue st)⟩
  | BufferReleased _ bufferId =>
    refine (wp_ite ..).2 ⟨fun _ => h, fun _ => Then.of ((wp_capture ..).2 ?_)⟩
    refine wp_mono (CaptureClient.releaseCaptureBuffer_holding kernel_obliging hc
      g.stream.streamId bufferId w) ?_ ?_
    · rintro release _ w₁ ⟨ht, b, k, point, hb, hk', hpoint, rfl⟩
      refine Then.of ((wp_orFail ..).2 ⟨by simp, fun _ _ => ?_⟩)
      exact ⟨h.clean, .busy rfl rfl ((hk.release hb hk' hpoint).ticks ht)
        ((hcoupled.release hk.sound.inv hb hk' point).ticks ht) (hdue _)⟩
    · rintro e _ w₁ ⟨ht, rfl, -⟩
      refine Then.of ((wp_orFail ..).2 ⟨fun _ _ => ?_, by simp⟩)
      exact ⟨h.clean, .busy ha hc (hk.ticks ht) (hcoupled.ticks ht) (hdue st)⟩
  | GenerationFailed _ error =>
    exact Then.of ((wp_setActive ..).2 ⟨h.clean, .busy rfl hc hk hcoupled (hdue st)⟩)

instance (event : VideoSourceActorEvent) :
    Keeps (contract Unqueued) (InStep []) (InStep []) (handleSourceEvent event) := by
  refine .get_bind fun s w h => ?_
  cases h.holds with
  | idle ha =>
    rw [ha]
    exact Then.of h
  | busy ha hc hk hcoupled _ =>
    rw [ha]
    refine Then.of ((wp_okOr_some ..).2 (Then.lift (fun _ _ => h) fun current _ => ?_))
    exact (wp_ite ..).2 ⟨fun _ => followSource_spec h ha hc hk hcoupled event, fun _ => h⟩

instance (event : Option VideoSourceActorEvent) : Turn [] (onSourceEvent event) := by
  cases event <;> unfold onSourceEvent <;> infer_instance

end Turns

end Pronk.Actor
