import Pronk.Capture.Client
import Pronk.Library.Fallible

/-!
# Helpers that leave the tracker alone

Only `signal_syncobj_point` moves a reuse timeline, only `start_capture` starts a
stream and only `queue_capture_buffer` hands a request to the kernel. Every other
helper of the capture operations neither touches the client state nor does any of
these, and none of them builds `ReusePointOverflow`. The helpers have no loops but
one, so each of these facts is read off by executing them symbolically.
-/
namespace Pronk.Capture
open CastKms Interaction Method

/-- The ioctls that signal a timeline point, start a stream or queue a buffer. -/
def Advances : Ioctl → Prop
  | .syncobjTimelineSignal _ => True
  | .captureStart _ => True
  | .queueBuffer _ => True
  | _ => False

/-- The ioctls that create or destroy a kernel object. -/
def Creates : Ioctl → Prop
  | .createDumb _ => True
  | .addFb2 _ => True
  | .syncobjCreate _ => True
  | .destroyDumb _ => True
  | .rmFb _ => True
  | .syncobjDestroy _ => True
  | _ => False

/-- The ioctls that only ask, among which are those that end a stream. -/
def Polls (c : Ioctl) : Prop := ¬ Advances c ∧ ¬ Creates c

/-- A preorder on worlds that every ioctl follows unless it advances something. -/
abbrev Silent {W : Type} (E : Environment W Ioctl Ioctl.Reply) (P : W → W → Prop) : Prop :=
  Follows (fun c => ¬ Advances c) E P

namespace CaptureError

def NotOverflow (e : CaptureError) : Prop := e ≠ .ReusePointOverflow

end CaptureError

namespace CaptureClient
open CaptureError (NotOverflow)

/-- A helper that advances nothing, and that cannot find a timeline exhausted. -/
abbrev Plain {α : Type} (m : ClientM α) : Prop := Method.Plain (fun c => ¬ Advances c) NotOverflow m

/-- A helper that only asks. -/
abbrev Asking {α : Type} (m : ClientM α) : Prop := Method.Plain Polls NotOverflow m

attribute [local simp] Does watching Advances Creates Polls NotOverflow
  Fallible.mapError_eq_error Fallible.mapError_eq_ok ioctl destroySyncobj destroySyncobjBestEffort
  destroyDumbBestEffort

lemma queryGrant_asking : Asking queryGrant := by
  simp [queryGrant]

lemma requireRights_asking (required : UInt32) : Asking (requireRights required) := by
  simp [requireRights]

lemma queryCrtcMode_asking (crtcId : NonZeroU32) : Asking (queryCrtcMode crtcId) := by
  simp [queryCrtcMode]

lemma destroySyncobjPairBestEffort_plain (sync : TrackedSynchronization) :
    Plain (destroySyncobjPairBestEffort sync) := by
  cases sync <;> simp [destroySyncobjPairBestEffort, destroySyncobjPair]

lemma trackSynchronization_plain (capabilities : CaptureCapabilities)
    (mode : CaptureSynchronization) : Plain (trackSynchronization capabilities mode) := by
  cases mode <;> simp [trackSynchronization, createSyncobjPair, createSyncobj]

lemma stopStreamBestEffort_asking (streamId : UInt32) : Asking (stopStreamBestEffort streamId) := by
  simp [stopStreamBestEffort]

lemma validateDumbAllocation_error {info : CaptureStreamInfo} {dumb : DrmModeCreateDumb}
    {e : CaptureError} (h : validateDumbAllocation info dumb = .error e) : e.NotOverflow := by
  grind [validateDumbAllocation, NotOverflow]

lemma validateFramebufferResult_error {framebuffer : DrmModeFbCmd2} {layout : CaptureBufferLayout}
    {handle : NonZeroU32} {e : CaptureError}
    (h : validateFramebufferResult framebuffer layout handle = .error e) : e.NotOverflow := by
  grind [validateFramebufferResult, NotOverflow]

lemma ownedFdFromKernel_error {fd : Int32} {valid : Prop} [Decidable valid] {operation : String}
    {e : CaptureError} (h : ownedFdFromKernel fd valid operation = .error e) : e.NotOverflow := by
  grind [ownedFdFromKernel, NotOverflow]

lemma dropFramebuffer_plain {α : Type} (id handle : UInt32) {e : CaptureError}
    (he : e.NotOverflow) : Plain (dropFramebuffer id handle e : ClientM α) := by
  intro c
  simpa [dropFramebuffer, removeFramebufferBestEffort] using he

lemma createOwnedFramebuffer_plain (info : CaptureStreamInfo) :
    Plain (createOwnedFramebuffer info) := by
  intro c
  simp [createOwnedFramebuffer]
  intro _ dumb _
  split
  · next e he => simpa using validateDumbAllocation_error he
  · simp
    intro added
    split
    · simp
    · split
      · next e he => exact dropFramebuffer_plain _ _ (validateFramebufferResult_error he) c
      · simp
        intro exported
        split
        · exact dropFramebuffer_plain _ _ (by simp) c
        · split
          · next e he => exact dropFramebuffer_plain _ _ (ownedFdFromKernel_error he) c
          · simp

/-- The result of a cleanup that found no timeline exhausted either. -/
def Clean (r : Except CaptureError Unit) : Prop := ∀ e, r = .error e → e.NotOverflow

/-- A cleanup never fails; what went wrong is in its result. -/
abbrev Cleans (m : ClientM (Except CaptureError Unit)) : Prop :=
  Does (fun c => ¬ Advances c) (fun r c c' => c' = c ∧ Clean r) (fun _ _ _ => False) m

lemma clean_firstError {a b : Except CaptureError Unit} (ha : Clean a) (hb : Clean b) :
    Clean (firstError a b) := by
  cases a with
  | ok u => exact hb
  | error e => exact ha

lemma clean_mapError {f : Errno → CaptureError} (hf : ∀ x, (f x).NotOverflow)
    (r : Except Errno Unit) : Clean (r.mapError f) := by
  intro e he
  obtain ⟨x, -, rfl⟩ := Fallible.mapError_eq_error.1 he
  exact hf x

lemma clean_both {f g : Errno → CaptureError} (hf : ∀ x, (f x).NotOverflow)
    (hg : ∀ x, (g x).NotOverflow) (a b : Except Errno Unit) :
    Clean (firstError (a.mapError f) (b.mapError g)) :=
  clean_firstError (clean_mapError hf a) (clean_mapError hg b)

lemma Cleans.both {m n : ClientM (Except CaptureError Unit)} (hm : Cleans m) (hn : Cleans n) :
    Cleans (do let first ← m; let second ← n; pure (firstError first second)) := by
  refine fun c => Then.of (hm.watched (fun _ => id) ?_ fun _ _ h => h.elim)
  rintro first _ ⟨rfl, hfirst⟩
  refine Then.of (hn.watched (fun _ => id) ?_ fun _ _ h => h.elim)
  rintro second _ ⟨rfl, hsecond⟩
  exact ⟨trivial, rfl, clean_firstError hfirst hsecond⟩

lemma cleanupOwnedFramebuffer_cleans (id : NonZeroU32) (owned : OwnedFramebuffer) :
    Cleans (cleanupOwnedFramebuffer id owned) :=
  fun _ => Then.ask not_false fun removed => Then.ask not_false fun destroyed =>
    ⟨trivial, rfl, clean_both (by simp) (by simp) removed destroyed⟩

lemma cleanupTrackedBufferResources_cleans (b : TrackedBuffer) :
    Cleans (cleanupTrackedBufferResources b) := by
  rw [cleanupTrackedBufferResources_eq]
  apply Cleans.both
  · unfold releaseSyncobjs
    cases b.synchronization with
    | Implicit => simp [Clean]
    | Explicit pair =>
      exact fun _ => Then.ask not_false fun ready => Then.ask not_false fun reuse =>
        ⟨trivial, rfl, clean_both (by simp) (by simp) ready reuse⟩
  · unfold releaseFramebuffer
    cases b.ownedFramebuffer with
    | none => simp [Clean]
    | some owned => exact cleanupOwnedFramebuffer_cleans b.framebufferId owned

lemma cleanupBuffers_cleans (buffers : List TrackedBuffer) : Cleans (cleanupBuffers buffers) := by
  induction buffers with
  | nil => simp [cleanupBuffers, Clean]
  | cons b rest ih => exact (cleanupTrackedBufferResources_cleans b).both ih

section Queries

/-- A call that only asks, whatever it reports. -/
abbrev Queries {α : Type} (m : ClientM α) : Prop := Method.Plain Polls (fun _ => True) m

lemma queryCaptureCapabilities_queries (crtcId : NonZeroU32) :
    Queries (queryCaptureCapabilities crtcId) := by
  simp [queryCaptureCapabilities, requireRights]

lemma exportCaptureBuffer_queries (streamId bufferId : NonZeroU32) :
    Queries (exportCaptureBuffer streamId bufferId) := by
  intro c
  simp [exportCaptureBuffer]
  intro _ _ b _ _ _
  cases b.synchronization <;> simp [exportTimelines, exportSyncobjFd]

lemma exportImplicitCaptureFence_queries (streamId bufferId : NonZeroU32) :
    Queries (exportImplicitCaptureFence streamId bufferId) := by
  refine fun c => Then.get <| Then.okOr (by simp) fun _ _ => Then.okOr (by simp) fun b _ => ?_
  split <;> simp

lemma armExplicitCaptureFence_queries (streamId bufferId : NonZeroU32) :
    Queries (armExplicitCaptureFence streamId bufferId) := by
  refine fun c => Then.get <| Then.okOr (by simp) fun _ _ => Then.okOr (by simp) fun b _ => ?_
  split <;> simp

end Queries

end CaptureClient

end Pronk.Capture
