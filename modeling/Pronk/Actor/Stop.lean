import Pronk.Actor.Coupling

/-!
# A teardown that finds its requests where it left them

`stop_active` from a state in which the outstanding request and the kernel agree:
every step succeeds, the drain ends before its deadline, and the pool is destroyed
with all buffers idle. Nothing is assumed about who stopped the stream, only that
the agreement still holds.
-/
namespace Pronk.Actor
open CastKms Capture Interaction Method CaptureClient TrackedBuffer Gives World.Ticks CaptureTracker
open List

/-- The teardowns that the trace records. -/
def Happening.teardown? : Happening → Option Teardown
  | .tornDown teardown => some teardown
  | _ => none

def ActorState.teardowns (s : ActorState) : List Teardown :=
  s.trace.filterMap Happening.teardown?

lemma ActorState.mem_teardowns {s : ActorState} {t : Teardown} :
    t ∈ s.teardowns ↔ .tornDown t ∈ s.trace := by
  constructor
  · intro h
    obtain ⟨happening, hm, ht⟩ := mem_filterMap.1 h
    cases happening with
    | tornDown t' => exact Option.some.inj ht ▸ hm
    | _ => simp [Happening.teardown?] at ht
  · exact fun h => mem_filterMap.2 ⟨_, h, rfl⟩

/-- A teardown that succeeded and destroyed its pool with every buffer idle. -/
def Teardown.Clean (t : Teardown) : Prop :=
  t.result = .ok () ∧ ∃ pool ∈ t.destroyed, pool.stream = t.stream ∧
    ∀ b ∈ pool.buffers, b.state = .Idle
deriving Decidable

/-- No generation was installed or torn down meanwhile. -/
structure SameRun (s s' : ActorState) : Prop where
  active : s'.active = s.active
  teardowns : s'.teardowns = s.teardowns

namespace SameRun

variable {s s' s'' : ActorState}

lemma refl (s : ActorState) : SameRun s s := ⟨rfl, rfl⟩

lemma client (h : SameRun s s') (c : CaptureClient) : SameRun s { s' with client := c } :=
  ⟨h.active, h.teardowns⟩

lemma note (h : SameRun s s') {happening : Happening} (hn : happening.teardown? = none) :
    SameRun s { s' with trace := s'.trace ++ [happening] } := by
  refine ⟨h.active, ?_⟩
  rw [← h.teardowns]
  simp [ActorState.teardowns, hn]

end SameRun

/-- The actor holds the stream of a generation that was torn down from `s₀` on. -/
structure Tearing (s₀ : ActorState) (stream : CaptureStreamInfo) (identity : NodeIdentity)
    (live : Bool) (st : TrackedStream) (s : ActorState) (w : World) : Prop where
  run : SameRun s₀ s
  holds : s.client.capture = .holding live st
  kept : Kept stream identity live st w

section Steps

variable {admitted : World → ActorCall → Prop} {s₀ s : ActorState} {w w' : World}
  {stream : CaptureStreamInfo} {identity : NodeIdentity} {live : Bool} {st : TrackedStream}
  {outstanding : List OutstandingCapture}

lemma Tearing.ticks (h : Tearing s₀ stream identity live st s w) (ht : Ticks w w') :
    Tearing s₀ stream identity live st s w' :=
  ⟨h.run, h.holds, h.kept.ticks ht⟩

lemma Tearing.hold {live' : Bool} {st' : TrackedStream}
    (h : Tearing s₀ stream identity live st s w) (hk : Kept stream identity live' st' w') :
    Tearing s₀ stream identity live' st' { s with client := s.client.hold live' st' } w' :=
  ⟨h.run.client _, rfl, hk⟩

lemma Tearing.drained (h : Tearing s₀ stream identity live st s w) (events : List CastKmsEvent) :
    Tearing s₀ stream identity live st { s with trace := s.trace ++ [.drained events] } w :=
  ⟨h.run.note rfl, h.holds, h.kept⟩

lemma Tearing.infos (h : Tearing s₀ stream identity live st s w) :
    s.client.captureBuffers stream.streamId = st.bufferInfos := by
  rw [captureBuffers, h.holds, stream_holding (by rw [h.kept.info])]
  rfl

lemma shutDownAudio_spec (g : ActiveGeneration) (s : ActorState) (w : World) :
    (shutDownAudio g).Gives (contract admitted) s w
      (fun r s' w' => r = [] ∧ s' = s ∧ Ticks w w') := by
  rw [Gives, shutDownAudio, wp_ite]
  refine ⟨fun _ => ?_, fun _ => ⟨rfl, rfl, .refl⟩⟩
  refine Then.request fun r w' hE => ?_
  obtain ⟨w₁, ht, -, rfl, rfl⟩ := hE
  exact ⟨rfl, rfl, ht⟩

/-- Stopping the source leaves the same world as losing it. -/
lemma stopSource_spec (g : ActiveGeneration) (s : ActorState) {w : World}
    (hw : w.source = none ∨ w.source = some g.identity) :
    (stopSource g).Gives (contract admitted) s w
      (fun r s' w' => r = [] ∧ s' = s ∧ Ticks w w') := by
  rw [Gives, stopSource, wp_ite]
  refine ⟨fun _ => ?_, fun _ => ⟨rfl, rfl, .refl⟩⟩
  refine Then.request fun r w' hE => ?_
  obtain ⟨w₁, ht, -, ⟨found, hsource, rfl, rfl⟩ | ⟨-, rfl, rfl⟩⟩ := hE
  · have hfound : found = g.identity := by
      rcases source ht with h | h
      · simp [h] at hsource
      · rcases hw with hw | hw <;> simp_all
    refine ⟨by simp [hfound], rfl, ht.tail (.sourceFailed _)⟩
  · exact ⟨rfl, rfl, ht⟩

variable {b : TrackedBuffer}

/-- One release of the loop: the next entry of the snapshot is found under its
identifier and is the only one written. -/
lemma setBuffer_split {l₁ l₂ : List TrackedBuffer} (hi : StreamInv st)
    (hs : st.buffers = l₁ ++ b :: l₂) (b' : TrackedBuffer) :
    (st.setBuffer b.id b').buffers = l₁ ++ b' :: l₂ := by
  have hd := hi.ids_distinct
  rw [hs, pairwise_append] at hd
  rw [TrackedStream.setBuffer, hs]
  exact TrackedStream.replaceF_append b b' l₁ l₂ (fun x hx => hd.2.2 x hx b (by simp)) rfl

/-- The loop over the snapshot `rest`; the entries before it are already free. -/
lemma releaseBuffers_spec (done rest : List TrackedBuffer)
    (h : Tearing s₀ stream identity live st s w) (hc : Coupled st w outstanding)
    (hsplit : st.buffers = done ++ rest)
    (hdone : ∀ b ∈ done, b.state.public ≠ .ConsumerOwned) :
    (releaseBuffers stream.streamId (rest.map (·.info stream.streamId))).Gives (contract admitted)
      s w (fun r s' w' => r = [] ∧ ∃ st', Tearing s₀ stream identity live st' s' w' ∧
        Coupled st' w' outstanding ∧ ∀ b ∈ st'.buffers, b.state.public ≠ .ConsumerOwned) := by
  induction rest generalizing done st s w with
  | nil =>
    refine ⟨rfl, st, h, hc, ?_⟩
    rw [hsplit, append_nil]
    exact hdone
  | cons b rest ih =>
    rw [Gives, map_cons, releaseBuffers, wp_ite]
    have hi := h.kept.sound.inv
    refine ⟨fun howned => ?_, fun hother => ?_⟩
    · rw [wp_bind, wp_capture]
      have hb : st.buffer b.id = some b := hi.buffer_of_mem (by simp [hsplit])
      obtain ⟨k, hk⟩ : ∃ k, b.state = .ConsumerOwned k := by
        cases hb : b.state <;> simp_all [info, TrackedBufferState.public]
      refine wp_mono (releaseCaptureBuffer_holding kernel_obliging h.holds
        stream.streamId b.id w) ?_ ?_
      · rintro release c' w₁ ⟨ht, b', k', point, hb', hk', hpoint, rfl⟩
        obtain rfl := Option.some.inj (hb.symm.trans hb')
        have h₁ := h.hold ((h.kept.release hb hk hpoint).ticks ht)
        have hc₁ := (hc.release hi hb hk point).ticks ht
        refine Then.gives (ih (done ++ [b.freed point]) h₁ hc₁ ?_ ?_) ?_
        · rw [setBuffer_split hi hsplit]
          simp
        · intro x hx
          rcases mem_append.1 hx with hx | hx
          · exact hdone x hx
          · obtain rfl := mem_singleton.1 hx
            simp [freed, TrackedBufferState.public]
        · rintro r s' w' ⟨rfl, hpost⟩
          exact ⟨rfl, hpost⟩
      · rintro e c' w₁ ⟨-, -, hfail⟩
        exact absurd (h.kept.sound.pointsLeft hb) (hfail b k (by rw [h.kept.info]) hb hk)
    · refine ih (done ++ [b]) h hc (by simp [hsplit]) fun x hx => ?_
      rcases mem_append.1 hx with hx | hx
      · exact hdone x hx
      · obtain rfl := mem_singleton.1 hx
        exact hother

lemma releaseConsumerOwned_spec (h : Tearing s₀ stream identity live st s w)
    (hc : Coupled st w outstanding) :
    (releaseConsumerOwned stream).Gives (contract admitted) s w
      (fun r s' w' => r = [] ∧ ∃ st', Tearing s₀ stream identity live st' s' w' ∧
        Coupled st' w' outstanding ∧ ∀ b ∈ st'.buffers, b.state.public ≠ .ConsumerOwned) := by
  rw [Gives, releaseConsumerOwned, wp_bind, wp_get, h.infos, TrackedStream.bufferInfos,
    h.kept.info]
  exact releaseBuffers_spec [] st.buffers h hc rfl (by simp)

lemma stopStream_spec (h : Tearing s₀ stream identity live st s w)
    (hc : Coupled st w outstanding) :
    (stopStream stream).Gives (contract admitted) s w
      (fun r s' w' => r.2 = [] ∧ Tearing s₀ stream identity false st s' w' ∧
        (r.1 = true → w'.inFlight = [] ∧ Stopped st w' outstanding) ∧
        (r.1 = false → Coupled st w' outstanding)) := by
  rw [Gives, stopStream, wp_bind, wp_get, wp_ite]
  refine ⟨fun hactive => ?_, fun hactive => ?_⟩
  · obtain rfl : live = true := by
      cases live
      · simp [activeCaptureStream, h.holds] at hactive
      · rfl
    rw [wp_bind, wp_capture]
    refine wp_mono (stopCapture_holding h.holds h.kept.nonempty w) ?_ ?_
    · rintro ⟨info, gone, waiting⟩ c' w' ⟨rfl, w₁, ht, -, hs⟩
      have hk₁ := h.kept.ticks ht
      have hc₁ := hc.ticks ht
      rcases hs with ⟨hr, -, rfl⟩ | ⟨hr, hne, rfl⟩
      · obtain rfl : gone = false := by
          cases gone
          · rfl
          · cases hr
        have hk₂ : Kept stream identity true st { w₁ with stream := none, inFlight := [] } :=
          hk₁.world (.inl rfl) (.inr rfl)
        exact ⟨rfl, h.hold (hk₂.retire rfl), fun _ => ⟨rfl, hc₁.stop⟩, by simp⟩
      · obtain rfl : gone = true := by
          cases gone
          · cases hr
          · rfl
        have hgone : w'.stream = none := by
          rcases hk₁.kernel with hk | ⟨-, hk⟩
          · exact hk
          · exact absurd hk hne
        exact ⟨rfl, h.hold (hk₁.retire hgone), by simp, fun _ => hc₁⟩
    · rintro _ c' w' ⟨-, e, he, w₁, -, -, ⟨hr, -⟩ | ⟨hr, -⟩⟩
      · cases hr
      · exact absurd (Except.error.inj hr) he
  · obtain rfl : live = false := by
      cases live
      · rfl
      · simp [activeCaptureStream, h.holds, h.kept.info] at hactive
    exact ⟨rfl, h, by simp, fun _ => hc⟩

lemma recordCaptureEvents_none {events : List CastKmsEvent} (he : frameEvents events = [])
    (s : ActorState) (w : World) :
    (recordCaptureEvents events).Gives (contract admitted) s w
      (fun r s' w' => r = .ok () ∧ s' = s ∧ w' = w) := by
  induction events with
  | nil => exact ⟨rfl, rfl, rfl⟩
  | cons e rest ih =>
    cases e with
    | CaptureFrame f => simp [frameEvents, CastKmsEvent.frame?] at he
    | GrantState _ => exact ih he
    | GrantRevoked _ => exact ih he
    | CecTransmit _ => exact ih he
    | Unknown _ => exact ih he

variable {f : CaptureFrameEvent}

lemma recordCaptureEvents_one {events : List CastKmsEvent} (he : frameEvents events = [f])
    {q : CaptureQueue} {s : ActorState} (hs : s.client.capture = .holding live st)
    (hb : st.buffer q.bufferId = some b) (hq : b.state = .Queued q)
    (hf : Fits st.info q f) (w : World) :
    (recordCaptureEvents events).Gives (contract admitted) s w
      (fun r s' w' => r = .ok () ∧ w' = w ∧
        s' = { s with client := s.client.hold live (completed st b q f) }) := by
  induction events with
  | nil => simp [frameEvents] at he
  | cons e rest ih =>
    cases e with
    | CaptureFrame f' =>
      simp only [frameEvents, filterMap_cons, CastKmsEvent.frame?, cons.injEq] at he
      obtain ⟨rfl, hrest⟩ := he
      rw [Gives, recordCaptureEvents, wp_bind, wp_capture]
      refine mono (recordCaptureFrame_holding hs hb hq hf w) ?_
      rintro _ _ _ ⟨rfl, rfl⟩
      refine mono (recordCaptureEvents_none hrest _ _) ?_
      rintro _ _ _ ⟨rfl, rfl, rfl⟩
      exact ⟨rfl, rfl, rfl⟩
    | GrantState _ => exact ih he
    | GrantRevoked _ => exact ih he
    | CecTransmit _ => exact ih he
    | Unknown _ => exact ih he

/-- Every buffer of an outstanding request has its completion. -/
def AllCompleted (st : TrackedStream) (outstanding : List OutstandingCapture) : Prop :=
  ∀ o ∈ outstanding, ∃ b f, st.buffer o.queue.bufferId = some b ∧
    b.state = .Completed ⟨o.queue, f⟩

/-- Reading everything that is pending and recording it: `w` is the world before
the read and `w'` the one after it. -/
lemma recordCaptureEvents_spec (h : Tearing s₀ stream identity live st s w')
    (hc : Coupled st w outstanding) (hin : w'.inFlight = w.inFlight) (hread : w'.frames = []) :
    (recordCaptureEvents w.events).Gives (contract admitted) s w'
      (fun r s' w'' => r = .ok () ∧ w'' = w' ∧ ∃ st', Tearing s₀ stream identity live st' s' w' ∧
        Coupled st' w' outstanding ∧ (w.frames ≠ [] → AllCompleted st' outstanding)) := by
  have hquiet : w.frames = [] → Coupled st w' outstanding →
      (recordCaptureEvents w.events).Gives (contract admitted) s w'
      (fun r s' w'' => r = .ok () ∧ w'' = w' ∧ ∃ st', Tearing s₀ stream identity live st' s' w' ∧
        Coupled st' w' outstanding ∧ (w.frames ≠ [] → AllCompleted st' outstanding)) := by
    intro hf hc'
    refine mono (recordCaptureEvents_none hf s w') ?_
    rintro _ _ _ ⟨rfl, rfl, rfl⟩
    exact ⟨rfl, rfl, st, h, hc', fun hne => absurd hf hne⟩
  cases hc with
  | idle hw hs => exact hquiet hw.frames (.idle ⟨hin.trans hw.inFlight, hread⟩ hs)
  | completed ho hb hw =>
    exact hquiet hw.frames (.completed ho hb ⟨hin.trans hw.inFlight, hread⟩)
  | queued ho hb hw =>
    cases hw with
    | owed hw hf => exact hquiet hf (.queued ho hb (.owed (hin.trans hw) hread))
    | @published f hw hf hfits =>
      refine mono (recordCaptureEvents_one hf h.holds ho.buffer hb hfits w') ?_
      rintro _ _ _ ⟨rfl, rfl, rfl⟩
      have ho' := ho.complete h.kept.sound.inv f
      refine ⟨rfl, rfl, _, h.hold (h.kept.complete ho.buffer hb f),
        .completed ho' rfl ⟨hin.trans hw, hread⟩, fun _ o' ho'' => ?_⟩
      obtain rfl := mem_singleton.1 ho''
      exact ⟨_, f, ho'.buffer, rfl⟩

lemma finishRead_gives {Q : ActorState → World → Prop} {events : List CastKmsEvent}
    (h : (recordCaptureEvents events).Gives (contract admitted) s w
      fun r s' w' => r = .ok () ∧ Q s' w') :
    (finishRead (.ok events)).Gives (contract admitted) s w
      fun r s' w' => r = .ok events ∧ Q s' w' := by
  refine Then.gives h ?_
  rintro _ s' w' ⟨rfl, hq⟩
  exact ⟨rfl, hq⟩

lemma tryReadEvents_spec (h : Tearing s₀ stream identity live st s w)
    (hs : Stopped st w outstanding) (hin : w.inFlight = []) :
    tryReadEvents.Gives (contract admitted) s w
      (fun r s' w' => ∃ events, r = .ok events ∧ w'.Still ∧
        ∃ st', Tearing s₀ stream identity live st' s' w' ∧ Stopped st' w' outstanding) := by
  refine Then.request fun r w' hE => ?_
  obtain ⟨w₁, ht, -, rfl, rfl⟩ := hE
  have hin₁ := inFlight ht hin
  have hstill : World.Still { w₁ with events := [] } := ⟨hin₁, rfl⟩
  have h₁ : Tearing s₀ stream identity live st s { w₁ with events := [] } :=
    ⟨h.run, h.holds, (h.kept.ticks ht).world (.inr rfl) (.inr rfl)⟩
  refine mono (finishRead_gives ?_) fun _ _ _ hread => ⟨w₁.events, hread⟩
  cases hs.ticks ht with
  | coupled hc =>
    refine mono (recordCaptureEvents_spec h₁ hc rfl rfl) ?_
    rintro _ s' _ ⟨rfl, rfl, st', ht', hc', -⟩
    exact ⟨rfl, hstill, st', ht', .coupled hc'⟩
  | cancelled ho hb hw =>
    refine mono (recordCaptureEvents_none hw.frames _ _) ?_
    rintro _ s' _ ⟨rfl, rfl, rfl⟩
    exact ⟨rfl, hstill, st, h₁, .cancelled ho hb hstill⟩

lemma awaitFences_spec (outstanding : List OutstandingCapture) (s : ActorState) {w : World}
    (hin : w.inFlight = []) :
    (awaitFences outstanding).Gives (contract admitted) s w
      (fun r s' w' => r = [] ∧ s' = s ∧ Ticks w w') := by
  induction outstanding generalizing w with
  | nil => exact ⟨rfl, rfl, .refl⟩
  | cons o rest ih =>
    refine Then.request fun r w' hE => ?_
    obtain ⟨w₁, ht, -, hr, rfl⟩ := hE
    have hin₁ := inFlight ht hin
    rcases hr with ⟨rfl, -⟩ | ⟨-, r, hr, -⟩
    · refine Then.gives (ih hin₁) ?_
      rintro _ _ w₂ ⟨rfl, rfl, ht₂⟩
      exact ⟨rfl, rfl, ht.trans ht₂⟩
    · simp [hin₁] at hr

lemma canRetire_silent (h : Tearing s₀ stream identity live st s w)
    (hs : Stopped st w outstanding) (hin : w.inFlight = []) :
    (canRetireSilentCancellations true outstanding).Gives (contract admitted) s w
      (fun r s' w' => r = (true, []) ∧ w'.Still ∧
        ∃ st', Tearing s₀ stream identity live st' s' w' ∧ Stopped st' w' outstanding) := by
  rw [canRetireSilentCancellations, if_pos rfl]
  refine Then.gives (awaitFences_spec outstanding s hin) ?_
  rintro _ _ w₁ ⟨rfl, rfl, ht⟩
  rw [if_pos rfl]
  refine Then.gives (tryReadEvents_spec (h.ticks ht) (hs.ticks ht)
    (inFlight ht hin)) ?_
  rintro _ s' w' ⟨events, rfl, hstill, st', h', hs'⟩
  exact ⟨rfl, hstill, st', h'.drained events, hs'⟩

/-- What the drain of one request leaves behind. -/
def Drained (s₀ : ActorState) (stream : CaptureStreamInfo) (identity : NodeIdentity)
    (s : ActorState) (w : World) : Prop :=
  ∃ st, Tearing s₀ stream identity false st s w ∧ Coupled st w []

variable {o : OutstandingCapture}

lemma drainCompleted_spec (h : Tearing s₀ stream identity false st s w) (ho : Armed st o b)
    (hb : b.state = .Completed ⟨o.queue, f⟩) (hw : w.Still) :
    (drainCompleted o.fence).Gives (contract admitted) s w
      fun _ => Drained s₀ stream identity := by
  have hi := h.kept.sound.inv
  refine Then.request fun r w₁ hE => ?_
  obtain ⟨w₁, ht, -, hr, rfl⟩ := hE
  have hw₁ := hw.ticks ht
  rcases hr with ⟨rfl, -⟩ | ⟨-, r, hr, -⟩
  · refine (wp_bind ..).2 ((wp_orFail ..).2 ⟨by simp, fun _ _ => ?_⟩)
    rw [wp_bind, wp_capture]
    have hbuffer : st.buffer o.fence.bufferId = some b := by rw [ho.fenceBuffer, ho.buffer]
    refine mono (takeCaptureCompletion_holding h.holds ho.fenceStream.symm
      hbuffer hb ho.fenceData.symm ho.readyPoint w₁) ?_
    rintro _ _ _ ⟨rfl, rfl, rfl⟩
    rw [wp_bind, wp_orFail]
    refine ⟨by simp, fun completion hcompletion => ?_⟩
    obtain rfl := Except.ok.inj hcompletion
    have hk₁ := (h.kept.ticks ht).take ho.buffer hb
    have hi₁ := hk₁.sound.inv
    have hc₁ := ho.coupled hi hi₁ rfl (.inr ⟨_, rfl⟩) hw₁
    have hb₁ := (ho.setBuffer hi { b with state := .ConsumerOwned ⟨o.queue, f⟩ } rfl).buffer
    have h₁ := h.hold hk₁
    rw [ho.fenceBuffer, wp_bind, wp_capture]
    refine wp_mono (releaseCaptureBuffer_holding kernel_obliging h₁.holds
      o.queue.streamId o.queue.bufferId _) ?_ ?_
    · rintro release _ w₂ ⟨ht₂, b₂, k, point, hb₂, hk₂, hpoint, rfl⟩
      rw [wp_bind, wp_orFail]
      refine ⟨by simp, fun _ _ => ?_⟩
      exact ⟨_, h₁.hold ((hk₁.release hb₂ hk₂ hpoint).ticks ht₂),
        (hc₁.release hi₁ hb₂ hk₂ point).ticks ht₂⟩
    · rintro e _ w₂ ⟨-, -, hfail⟩
      exact absurd (hk₁.sound.pointsLeft hb₁) (hfail _ _ ho.streamId.symm hb₁ rfl)
  · simp [hw₁.inFlight] at hr

lemma drainStep_found (h : Tearing s₀ stream identity live st s w) (ho : Armed st o b) :
    (s.client.captureBuffers o.queue.streamId).find? (·.bufferId = o.queue.bufferId) =
      some (b.info st.info.streamId) := by
  have hid : o.queue.streamId = stream.streamId := by rw [ho.streamId, h.kept.info]
  have hb := ho.buffer
  rw [TrackedStream.buffer] at hb
  rw [hid, h.infos, TrackedStream.bufferInfos, find?_map]
  simp only [Function.comp_def, info, hb, Option.map_some]

lemma drainRead_spec {again : ActorM Unit} (h : Tearing s₀ stream identity false st s w)
    (hc : Coupled st w [o]) (hpending : Pending st.info o.queue w)
    (hagain : ∀ {st' s' w'}, Tearing s₀ stream identity false st' s' w' → Coupled st' w' [o] →
      w'.lag < w.lag ∨ AllCompleted st' [o] →
      again.Gives (contract admitted) s' w' fun _ => Drained s₀ stream identity) :
    (drainRead again).Gives (contract admitted) s w
      fun _ => Drained s₀ stream identity := by
  refine Then.request fun r w' hE => ?_
  obtain ⟨w₁, ht, -, hr⟩ := hE
  have hgone : w₁.stream = none := (h.kept.ticks ht).gone
  have hp₁ := hpending.ticks ht
  rcases hr with ⟨events, rfl, rfl, -, howed, rfl⟩ | ⟨rfl, hnone, howed, rfl⟩
  · have h₁ : Tearing s₀ stream identity false st s { w₁ with events := [], lag := w₁.lag - 1 } :=
      ⟨h.run, h.holds, (h.kept.ticks ht).world (.inr rfl) (.inr rfl)⟩
    refine Then.gives (finishRead_gives (recordCaptureEvents_spec h₁ (hc.ticks ht) rfl rfl)) ?_
    rintro _ s' _ ⟨rfl, rfl, st', h', hc', hall⟩
    rw [wp_bind, wp_orFail]
    refine ⟨by simp, fun events _ => Then.of ((wp_note ..).2 (hagain (h'.drained events) hc' ?_))⟩
    by_cases hf : w₁.frames = []
    · left
      cases hp₁ with
      | owed hin =>
        have hlag : w₁.lag ≠ 0 := fun hz => by simp [howed hgone hz] at hin
        have hsame := lag ht h.kept.gone
        change w₁.lag - 1 < w.lag
        omega
      | published _ hone => simp [hone] at hf
    · exact .inr (hall hf)
  · cases hp₁ with
    | owed hin => simp [howed hgone] at hin
    | published _ hone => simp [World.frames, hnone, frameEvents] at hone

lemma drainStep_completed (h : Tearing s₀ stream identity false st s w) (ho : Armed st o b)
    (hb : b.state = .Completed ⟨o.queue, f⟩) (hw : w.Still) (retire : Bool) (again : ActorM Unit) :
    (drainStep o retire (some again)).Gives (contract admitted) s w
      fun _ => Drained s₀ stream identity := by
  have hstate : (b.info st.info.streamId).state = .Completed := by
    simp [info, hb, TrackedBufferState.public]
  rw [Gives, drainStep, wp_bind, wp_get, wp_bind, drainStep_found h ho,
    wp_okOr_some, if_neg (by simp [hstate])]
  dsimp only
  rw [if_pos hstate]
  exact drainCompleted_spec h ho hb hw

/-- Each read either brings the frame or uses up some of the kernel's lag. -/
lemma drainLoop_spec (n : ℕ) (h : Tearing s₀ stream identity false st s w) (hc : Coupled st w [o])
    (hn : w.lag + 2 ≤ n ∨ AllCompleted st [o] ∧ 1 ≤ n) :
    (drainLoop o false n).Gives (contract admitted) s w
      fun _ => Drained s₀ stream identity := by
  induction n generalizing st s w with
  | zero => omega
  | succ n ih =>
    rw [drainLoop]
    cases hc with
    | completed ho hb hw => exact drainStep_completed h ho hb hw false _
    | @queued _ b ho hb hw =>
      have hstate : (b.info st.info.streamId).state = .Queued := by
        simp [info, hb, TrackedBufferState.public]
      rw [Gives, drainStep, wp_bind, wp_get, wp_bind, drainStep_found h ho,
        wp_okOr_some, if_neg (by simp)]
      dsimp only
      rw [if_neg (by simp [hstate]), if_neg (by simp [hstate])]
      refine drainRead_spec h (.queued ho hb hw) hw fun h' hc' hprogress => ih h' hc' ?_
      rcases hn with hn | ⟨hall, -⟩
      · rcases hprogress with hlag | hall
        · exact .inl (by omega)
        · exact .inr ⟨hall, by omega⟩
      · obtain ⟨b', f, hb', hk⟩ := hall o (by simp)
        obtain rfl := Option.some.inj (ho.buffer.symm.trans hb')
        simp [hb] at hk

lemma drainLoop_silent {n : ℕ} (h : Tearing s₀ stream identity false st s w) (hs : Stopped st w [o])
    (hw : w.Still) (hn : 1 ≤ n) :
    (drainLoop o true n).Gives (contract admitted) s w
      fun _ => Drained s₀ stream identity := by
  obtain ⟨n, rfl⟩ := Nat.exists_eq_add_of_le' hn
  have hi := h.kept.sound.inv
  rw [drainLoop]
  cases hs with
  | coupled hc =>
    cases hc with
    | completed ho hb _ => exact drainStep_completed h ho hb hw true _
    | queued _ _ hp =>
      cases hp with
      | owed hin => simp [hw.inFlight] at hin
      | published _ hf => simp [hw.frames] at hf
  | @cancelled _ b ho hb _ =>
    have hstate : (b.info st.info.streamId).state = .Queued := by
      simp [info, hb, TrackedBufferState.public]
    rw [Gives, drainStep, wp_bind, wp_get, wp_bind, drainStep_found h ho,
      wp_okOr_some, if_pos ⟨hstate, rfl⟩, wp_bind, wp_capture]
    refine mono (retireCancelledCaptureBuffer_holding h.holds
      ho.streamId.symm ho.buffer hb w) ?_
    rintro _ _ _ ⟨rfl, rfl⟩
    have hk := h.kept.cancel ho.buffer
    rw [wp_orFail]
    refine ⟨by simp, fun _ _ => ⟨_, h.hold hk, ?_⟩⟩
    exact ho.coupled hi hk.sound.inv rfl (.inl rfl) hw

/-- How the requests stand when the drain starts. -/
inductive Drainable (st : TrackedStream) (w : World) (outstanding : List OutstandingCapture) :
    Bool → Prop
  | awaited (h : Coupled st w outstanding) : Drainable st w outstanding false
  | silent (h : Stopped st w outstanding) (hw : w.Still) : Drainable st w outstanding true

lemma drainOutstandingCapture_spec {retire : Bool} (h : Tearing s₀ stream identity false st s w)
    (hd : Drainable st w [o] retire) :
    (drainOutstandingCapture o retire).Gives (contract admitted) s w
      fun _ => Drained s₀ stream identity := by
  refine Then.request fun n w' hE => ?_
  obtain ⟨w₁, ht, -, hn, rfl⟩ := hE
  cases hd with
  | awaited hc => exact drainLoop_spec n (h.ticks ht) (hc.ticks ht) (.inl hn)
  | silent hs hw =>
    exact drainLoop_silent (h.ticks ht) (hs.ticks ht) (hw.ticks ht) (by omega)

lemma drainAll_spec {retire : Bool} (h : Tearing s₀ stream identity false st s w)
    (hd : Drainable st w outstanding retire) :
    (drainAll retire outstanding).Gives (contract admitted) s w
      (fun r s' w' => r = [] ∧ Drained s₀ stream identity s' w') := by
  have hcases : (outstanding = [] ∧ Coupled st w []) ∨ ∃ o, outstanding = [o] := by
    cases hd with
    | awaited hc =>
      cases hc with
      | idle hw hs => exact .inl ⟨rfl, .idle hw hs⟩
      | queued => exact .inr ⟨_, rfl⟩
      | completed => exact .inr ⟨_, rfl⟩
    | silent hs _ =>
      cases hs with
      | coupled hc =>
        cases hc with
        | idle hw hs => exact .inl ⟨rfl, .idle hw hs⟩
        | queued => exact .inr ⟨_, rfl⟩
        | completed => exact .inr ⟨_, rfl⟩
      | cancelled => exact .inr ⟨_, rfl⟩
  rcases hcases with ⟨rfl, hc⟩ | ⟨o, rfl⟩
  · exact ⟨rfl, st, h, hc⟩
  · rw [Gives, drainAll, wp_bind, wp_attempt]
    exact wp_mono (drainOutstandingCapture_spec h hd) (fun _ _ _ hpost => ⟨rfl, hpost⟩)
      fun _ _ _ hf => hf.elim

lemma finishPool_spec (h : Tearing s₀ stream identity false st s w)
    (hidle : ∀ b ∈ st.buffers, b.state = .Idle) :
    (finishPool stream.streamId).Gives (contract admitted) s w
      (fun r s' w' => r = (some ⟨stream, st.bufferInfos⟩, []) ∧ SameRun s₀ s' ∧
        s'.client.capture = {} ∧ Ticks w w') := by
  rw [Gives, finishPool, wp_bind, wp_capture]
  refine mono (finishRetiredCapture_holding kernel_obliging h.holds
    (by rw [h.kept.info]) hidle w) ?_
  rintro _ _ w' ⟨rfl, rfl, ht⟩
  exact ⟨by rw [h.kept.info], h.run.client _, rfl, ht⟩

lemma idle_of_settled (h : Settled b) (hb : b.state.public ≠ .ConsumerOwned) : b.state = .Idle := by
  rcases h with h | ⟨completion, h⟩
  · exact h
  · simp [h, TrackedBufferState.public] at hb

/-- The state after a teardown that `s` started. -/
structure TornDown (s s' : ActorState) (w' : World) : Prop where
  active : s'.active = s.active
  capture : s'.client.capture = {}
  still : w'.Still
  clean : ∃ t : Teardown, t.Clean ∧ s'.teardowns = s.teardowns ++ [t]

/-- The teardown of a generation that agrees with the kernel. -/
theorem stopGeneration_spec {g : ActiveGeneration}
    (hs : s.client.capture = .holding live st) (hk : Kept g.stream g.identity live st w)
    (hc : Coupled st w g.outstanding) :
    (stopGeneration g).Gives (contract admitted) s w
      (fun r s' w' => r = .ok () ∧ TornDown s s' w') := by
  have h : Tearing s g.stream g.identity live st s w := ⟨.refl s, hs, hk⟩
  rw [stopGeneration]
  refine Then.gives (shutDownAudio_spec g s w) ?_
  rintro _ s w₁ ⟨rfl, rfl, ht₁⟩
  refine Then.gives (stopSource_spec g s (hk.ticks ht₁).source) ?_
  rintro _ s w₂ ⟨rfl, rfl, ht₂⟩
  have ht := ht₁.trans ht₂
  refine Then.gives (releaseConsumerOwned_spec (h.ticks ht) (hc.ticks ht)) ?_
  rintro _ s₃ w₃ ⟨rfl, st₃, h₃, hc₃, -⟩
  refine Then.gives (stopStream_spec h₃ hc₃) ?_
  rintro ⟨silent, _⟩ s₄ w₄ ⟨rfl, h₄, hsilent, hawaited⟩
  have hretire : (canRetireSilentCancellations silent g.outstanding).Gives (contract admitted) s₄ w₄
      (fun r s' w' => r.2 = [] ∧ ∃ st', Tearing s g.stream g.identity false st' s' w' ∧
        Drainable st' w' g.outstanding r.1) := by
    cases silent with
    | true =>
      obtain ⟨hin, hstopped⟩ := hsilent rfl
      refine mono (canRetire_silent h₄ hstopped hin) ?_
      rintro _ s' w' ⟨rfl, hw, st', h', hs'⟩
      exact ⟨rfl, st', h', .silent hs' hw⟩
    | false => exact ⟨rfl, st₃, h₄, .awaited (hawaited rfl)⟩
  refine Then.gives hretire ?_
  rintro ⟨retire, _⟩ s₅ w₅ ⟨rfl, st₅, h₅, hd⟩
  refine Then.gives (drainAll_spec h₅ hd) ?_
  rintro _ s₆ w₆ ⟨rfl, st₆, h₆, hc₆⟩
  refine Then.gives (releaseConsumerOwned_spec h₆ hc₆) ?_
  rintro _ s₇ w₇ ⟨rfl, st₇, h₇, hc₇, hfree⟩
  obtain ⟨hw₇, hsettled⟩ : w₇.Still ∧ ∀ b ∈ st₇.buffers, Settled b := by
    cases hc₇ with
    | idle hw hs => exact ⟨hw, hs⟩
  have hidle : ∀ b ∈ st₇.buffers, b.state = .Idle :=
    fun b hb => idle_of_settled (hsettled b hb) (hfree b hb)
  refine Then.gives (finishPool_spec h₇ hidle) ?_
  rintro _ s₈ w₈ ⟨rfl, hrun, hempty, ht₈⟩
  have hpool : ∀ info ∈ st₇.bufferInfos, info.state = .Idle := by
    intro info hinfo
    obtain ⟨b, hb, rfl⟩ := mem_map.1 hinfo
    simp [info, hidle b hb, TrackedBufferState.public]
  refine ⟨rfl, hrun.active, hempty, hw₇.ticks ht₈,
    ⟨g.stream, .ok (), some ⟨g.stream, st₇.bufferInfos⟩⟩, ⟨rfl, _, rfl, rfl, hpool⟩, ?_⟩
  rw [← hrun.teardowns]
  exact filterMap_append ..

end Steps

end Pronk.Actor
