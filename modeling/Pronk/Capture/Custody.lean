import Pronk.Capture.Service

/-!
# What the helpers do to the kernel objects

Each helper of the capture operations that creates or destroys is given a triple: which
objects it takes, returns with and fails with.
-/
namespace Pronk.Capture
open CastKms Interaction Ledger Register Register.Trades

abbrev Trades {α ε : Type} (x : List Resource) (y : α → List Resource) (z : List Resource)
    (m : Method Ioctl Ioctl.Reply CaptureClient ε α) : Prop :=
  resources.Trades (fun r => r.number ≠ 0) x y z m

/-- The ioctls that neither create nor destroy. -/
def Neutral (c : Ioctl) : Prop := ∀ r : c.Reply, resourceChange c r = .none

namespace CaptureClient

section Destruction

variable {x z : List Resource}

lemma ioctl_neutral {c : Ioctl} (hc : Neutral c) : Trades x (fun _ => x) z (ioctl c) :=
  .request_none hc

lemma destroySyncobj_trades (handle : NonZeroU32) (hx : resources.Anchored x) :
    Trades (.syncobj handle.get :: x) (fun _ => x) z (destroySyncobj handle) :=
  .request_closes (fun _ => rfl) (by simp [resources, Resource.needs]) hx

lemma destroySyncobjBestEffort_trades (handle : NonZeroU32) (hx : resources.Anchored x) :
    Trades (.syncobj handle.get :: x) (fun _ => x) z (destroySyncobjBestEffort handle) :=
  .bind (destroySyncobj_trades handle hx) fun _ => .pure rfl

lemma destroySyncobjPair_trades (pair : OwnedSyncobjPair) (hx : resources.Anchored x) :
    Trades (.syncobj pair.readyHandle.get :: .syncobj pair.reuseHandle.get :: x) (fun _ => x) z
      (destroySyncobjPair pair) := by
  refine .bind (destroySyncobj_trades pair.readyHandle (hx.cons rfl)) fun ready => ?_
  exact .bind (destroySyncobj_trades pair.reuseHandle hx) fun reuse => .pure rfl

lemma destroySyncobjPairBestEffort_trades (sync : TrackedSynchronization)
    (hx : resources.Anchored x) :
    Trades (sync.resources ++ x) (fun _ => x) z (destroySyncobjPairBestEffort sync) := by
  cases sync with
  | Implicit => exact .pure rfl
  | Explicit pair => exact .bind (destroySyncobjPair_trades pair hx) fun _ => .pure rfl

lemma rmFb_trades (id gemHandle : UInt32) (hx : resources.Anchored x) :
    Trades (.framebuffer id gemHandle :: x) (fun _ => x) z (ioctl (.rmFb id)) :=
  .request_closes (fun _ => rfl) (by simp [resources, Resource.needs, Resource.id]) hx

lemma destroyDumb_trades (handle : UInt32) (hx : resources.Anchored x) :
    Trades (.gem handle :: x) (fun _ => x) z (ioctl (.destroyDumb handle)) :=
  .request_closes (fun _ => rfl) (by simp [resources, Resource.needs]) hx

lemma destroyDumbBestEffort_trades {handle : UInt32} (hnonzero : handle ≠ 0)
    (hx : resources.Anchored x) :
    Trades (.gem handle :: x) (fun _ => x) z (destroyDumbBestEffort handle) :=
  .ite (fun hzero => absurd hzero hnonzero) fun _ =>
    .bind (destroyDumb_trades handle hx) fun _ => .pure rfl

lemma removeFramebufferBestEffort_trades {id gemHandle : UInt32} (hnonzero : id ≠ 0)
    (hx : resources.Anchored x) :
    Trades (.framebuffer id gemHandle :: x) (fun _ => x) z (removeFramebufferBestEffort id) :=
  .ite (fun hzero => absurd hzero hnonzero) fun _ =>
    .bind (rmFb_trades id gemHandle hx) fun _ => .pure rfl

lemma cleanupOwnedFramebuffer_trades (framebufferId : NonZeroU32) (owned : OwnedFramebuffer)
    (hx : resources.Anchored x) :
    Trades (owned.resources framebufferId ++ x) (fun _ => x) z
      (cleanupOwnedFramebuffer framebufferId owned) := by
  change Trades (.framebuffer framebufferId.get owned.gemHandle.get ::
    .gem owned.gemHandle.get :: x) _ _ _
  refine .bind (rmFb_trades framebufferId.get owned.gemHandle.get (hx.cons rfl)) fun removed => ?_
  exact .bind (destroyDumb_trades owned.gemHandle.get hx) fun destroyed => .pure rfl

lemma cleanupTrackedBufferResources_trades (b : TrackedBuffer) (hx : resources.Anchored x) :
    Trades (b.resources ++ x) (fun _ => x) z (cleanupTrackedBufferResources b) := by
  let framebuffers := b.ownedFramebuffer.elim [] (·.resources b.framebufferId)
  have hframebuffers : Trades (framebuffers ++ x) (fun _ => x) z (releaseFramebuffer b) := by
    unfold framebuffers releaseFramebuffer
    cases b.ownedFramebuffer with
    | none => exact .pure rfl
    | some owned => exact cleanupOwnedFramebuffer_trades b.framebufferId owned hx
  have hanchored : resources.Anchored (framebuffers ++ x) := by
    apply Anchored.append _ hx
    unfold framebuffers
    cases b.ownedFramebuffer with
    | none => exact anchored_nil
    | some owned => exact owned.anchored b.framebufferId
  have hsyncobjs : Trades (b.synchronization.resources ++ (framebuffers ++ x))
      (fun _ => framebuffers ++ x) z (releaseSyncobjs b) := by
    unfold releaseSyncobjs
    cases b.synchronization with
    | Implicit => exact .pure rfl
    | Explicit pair => exact destroySyncobjPair_trades pair hanchored
  rw [cleanupTrackedBufferResources_eq, TrackedBuffer.resources, List.append_assoc]
  exact .bind hsyncobjs fun _ => .bind hframebuffers fun _ => .pure rfl

lemma cleanupBuffers_trades (buffers : List TrackedBuffer) (hx : resources.Anchored x) :
    Trades (buffers.flatMap TrackedBuffer.resources ++ x) (fun _ => x) z
      (cleanupBuffers buffers) := by
  induction buffers with
  | nil => exact .pure rfl
  | cons b rest ih =>
    rw [List.flatMap_cons, List.append_assoc]
    have hrest := (anchored_buffers rest).append hx
    exact .bind (cleanupTrackedBufferResources_trades b hrest) fun _ =>
      .bind ih fun _ => .pure rfl

end Destruction

section Creation

variable {x : List Resource}

lemma createSyncobj_trades (mapError : Errno → CaptureError) (hx : resources.Anchored x) :
    Trades x (fun handle => .syncobj handle.get :: x) x (createSyncobj mapError) := by
  apply Trades.request_opens
  intro reply
  cases reply with
  | error e => exact .inr ⟨rfl, .lift_error⟩
  | ok args =>
    refine .inl ⟨.syncobj args.handle, rfl, fun hnonzero => .lift_ok ?_⟩
    have hnew : args.handle ≠ 0 := hnonzero
    refine .okOr_bind (by simp [NonZeroU32.new, hnew]) fun handle hhandle => ?_
    rw [← NonZeroU32.new_eq_some.1 hhandle]
    refine .ite (fun _ => ?_) fun _ => .pure rfl
    exact .bind (destroySyncobjBestEffort_trades handle hx) fun _ => .throw _

lemma createSyncobjPair_trades (hx : resources.Anchored x) :
    Trades x (fun pair => (TrackedSynchronization.Explicit pair).resources ++ x) x
      createSyncobjPair := by
  refine .bind (createSyncobj_trades _ hx) fun ready => ?_
  have hready : resources.Anchored (.syncobj ready.get :: x) := hx.cons rfl
  refine .bind (.attempt (createSyncobj_trades _ hready)) fun created => ?_
  cases created with
  | error e =>
    exact .bind (destroySyncobjBestEffort_trades ready hx) fun _ => .throw e
  | ok reuse =>
    refine .ite (fun hsame => .of_repeated ?_) fun _ => ?_
    · simp [attempted, hsame]
    · exact .perm (List.Perm.swap _ _ _) (.pure rfl)

lemma trackSynchronization_trades (capabilities : CaptureCapabilities)
    (mode : CaptureSynchronization) (hx : resources.Anchored x) :
    Trades x (fun sync => sync.resources ++ x) x (trackSynchronization capabilities mode) := by
  cases mode with
  | Implicit => exact .bind (.failIf _ _) fun _ => .pure rfl
  | Explicit =>
    exact .bind (.failIf _ _) fun _ => .bind (createSyncobjPair_trades hx) fun _ => .pure rfl

lemma dropFramebuffer_trades {α : Type} {y : α → List Resource} {id gemHandle : UInt32}
    (hid : id ≠ 0) (hgem : gemHandle ≠ 0) (e : CaptureError) (hx : resources.Anchored x) :
    Trades (.framebuffer id gemHandle :: .gem gemHandle :: x) y x
      (dropFramebuffer id gemHandle e) :=
  .bind (removeFramebufferBestEffort_trades hid (hx.cons rfl)) fun _ =>
    .bind (destroyDumbBestEffort_trades hgem hx) fun _ => .throw e

lemma validateDumbAllocation_handle {info : CaptureStreamInfo} {dumb : DrmModeCreateDumb}
    {handle pitch : NonZeroU32} {size : NonZeroU64}
    (h : validateDumbAllocation info dumb = .ok (handle, pitch, size)) :
    handle.get = dumb.handle := by
  unfold validateDumbAllocation at h
  split at h
  · cases h
  split at h
  case h_4 handle' _ _ hhandle _ _ =>
    split_ifs at h
    cases h
    exact NonZeroU32.new_eq_some.1 hhandle
  all_goals cases h

lemma validateFramebufferResult_id {framebuffer : DrmModeFbCmd2} {layout : CaptureBufferLayout}
    {gemHandle framebufferId : NonZeroU32}
    (h : validateFramebufferResult framebuffer layout gemHandle = .ok framebufferId) :
    framebufferId.get = framebuffer.fbId := by
  unfold validateFramebufferResult at h
  split_ifs at h
  split at h
  · rename_i id hid
    cases h
    exact NonZeroU32.new_eq_some.1 hid
  · cases h

lemma createOwnedFramebuffer_trades (info : CaptureStreamInfo) (hx : resources.Anchored x) :
    Trades x (fun created => created.2.resources created.1 ++ x) x
      (createOwnedFramebuffer info) := by
  apply Trades.request_opens
  intro reply
  cases reply with
  | error e => exact .inr ⟨rfl, .lift_error⟩
  | ok dumb =>
    refine .inl ⟨.gem dumb.handle, rfl, fun hnonzero => .lift_ok ?_⟩
    have hgem : dumb.handle ≠ 0 := hnonzero
    dsimp only
    split
    · exact .bind (destroyDumbBestEffort_trades hgem hx) fun _ => .throw _
    rename_i gemHandle pitch size hvalid
    rw [← validateDumbAllocation_handle hvalid]
    apply Trades.request_opens
    intro added
    cases added with
    | error e =>
      refine .inr ⟨rfl, ?_⟩
      exact .bind (destroyDumbBestEffort_trades gemHandle.ne_zero hx) fun _ => .throw _
    | ok framebuffer =>
      refine .inl ⟨.framebuffer framebuffer.fbId gemHandle.get, rfl, fun hid => ?_⟩
      have hid : framebuffer.fbId ≠ 0 := hid
      dsimp only
      split
      · exact dropFramebuffer_trades hid gemHandle.ne_zero _ hx
      rename_i framebufferId hframebuffer
      rw [← validateFramebufferResult_id hframebuffer]
      refine .bind (ioctl_neutral fun _ => rfl) fun exported => ?_
      cases exported with
      | error e => exact dropFramebuffer_trades framebufferId.ne_zero gemHandle.ne_zero _ hx
      | ok prime =>
        dsimp only
        split
        · exact dropFramebuffer_trades framebufferId.ne_zero gemHandle.ne_zero _ hx
        · exact .pure rfl

end Creation

end CaptureClient

end Pronk.Capture
