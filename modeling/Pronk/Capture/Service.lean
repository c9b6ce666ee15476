import Pronk.Capture.Operations

/-!
# Histories of the capture operations

The operations as one service, so that a run is any sequence of calls with any
kernel replies. What every operation does to the tracker is one `Move`, hence
the ownership invariant holds after every history.
-/
namespace Pronk.Capture
open CastKms Interaction Method Ioctl

/-- The operations that change the tracker. -/
inductive CaptureOp where
  | startCapture (capabilities : CaptureCapabilities) (cursorMode : CursorCaptureMode)
  | registerCaptureBuffer (framebufferId : NonZeroU32) (mode : CaptureSynchronization)
  | allocateLinearXrgb8888Buffer (mode : CaptureSynchronization)
  | unregisterCaptureBuffer (bufferId : NonZeroU32)
  | queueCaptureBuffer (bufferId : NonZeroU32) (userData : NonZeroU64)
  | recordCaptureFrame (event : CaptureFrameEvent)
  | takeCaptureCompletion (ready : CaptureReady)
  | delegateExplicitCaptureCompletion (fence : ExplicitCaptureFence)
  | releaseCaptureBuffer (streamId bufferId : NonZeroU32)
  | retireCancelledCaptureBuffer (queue : CaptureQueue)
  | stopCapture
  | retireInvalidatedCapture
  | reconcileGrantState (evidence : GrantStateEvidence)
  | finishRetiredCapture (streamId : NonZeroU32)

namespace CaptureOp

def Ret : CaptureOp → Type
  | .startCapture _ _ => Except CaptureError CaptureStreamInfo
  | .registerCaptureBuffer _ _ => Except CaptureError CaptureBufferInfo
  | .allocateLinearXrgb8888Buffer _ => Except CaptureError CaptureBufferInfo
  | .unregisterCaptureBuffer _ => Except CaptureError CaptureBufferInfo
  | .queueCaptureBuffer _ _ => Except CaptureError CaptureQueue
  | .recordCaptureFrame _ => Except CaptureProtocolError Unit
  | .takeCaptureCompletion _ => Except CaptureError CaptureCompletion
  | .delegateExplicitCaptureCompletion _ => Except CaptureError CaptureCompletion
  | .releaseCaptureBuffer _ _ => Except CaptureError CaptureRelease
  | .retireCancelledCaptureBuffer _ => Except CaptureError Unit
  | .stopCapture => Except CaptureError CaptureStopOutcome
  | .retireInvalidatedCapture => Except CaptureError CaptureStopOutcome
  | .reconcileGrantState _ => Except CaptureError GrantStateReconciliation
  | .finishRetiredCapture _ => Except CaptureError RetiredCaptureStream

def run : (op : CaptureOp) → CaptureClient → Program Ioctl Reply (op.Ret × CaptureClient)
  | .startCapture capabilities cursorMode => CaptureClient.startCapture capabilities cursorMode
  | .registerCaptureBuffer id mode => CaptureClient.registerCaptureBuffer id mode
  | .allocateLinearXrgb8888Buffer mode => CaptureClient.allocateLinearXrgb8888Buffer mode
  | .unregisterCaptureBuffer id => CaptureClient.unregisterCaptureBuffer id
  | .queueCaptureBuffer id userData => CaptureClient.queueCaptureBuffer id userData
  | .recordCaptureFrame event => CaptureClient.recordCaptureFrame event
  | .takeCaptureCompletion ready => CaptureClient.takeCaptureCompletion ready
  | .delegateExplicitCaptureCompletion fence =>
    CaptureClient.delegateExplicitCaptureCompletion fence
  | .releaseCaptureBuffer streamId id => CaptureClient.releaseCaptureBuffer streamId id
  | .retireCancelledCaptureBuffer queue => CaptureClient.retireCancelledCaptureBuffer queue
  | .stopCapture => CaptureClient.stopCapture
  | .retireInvalidatedCapture => CaptureClient.retireInvalidatedCapture
  | .reconcileGrantState evidence => CaptureClient.reconcileGrantState evidence
  | .finishRetiredCapture streamId => CaptureClient.finishRetiredCapture streamId

/-- What a caller can count of one finished call. -/
def effect : (op : CaptureOp) → op.Ret → Effect
  | .registerCaptureBuffer _ _, .ok info => .registered info
  | .allocateLinearXrgb8888Buffer _, .ok info => .registered info
  | .queueCaptureBuffer _ _, .ok queue => .queued queue
  | .releaseCaptureBuffer _ _, .ok release => .released release
  | _, _ => .none

/-- The operation failed for want of a reuse point. -/
def Overflowed : (op : CaptureOp) → op.Ret → Prop
  | .startCapture _ _, r => r = .error .ReusePointOverflow
  | .registerCaptureBuffer _ _, r => r = .error .ReusePointOverflow
  | .allocateLinearXrgb8888Buffer _, r => r = .error .ReusePointOverflow
  | .unregisterCaptureBuffer _, r => r = .error .ReusePointOverflow
  | .queueCaptureBuffer _ _, r => r = .error .ReusePointOverflow
  | .recordCaptureFrame _, _ => False
  | .takeCaptureCompletion _, r => r = .error .ReusePointOverflow
  | .delegateExplicitCaptureCompletion _, r => r = .error .ReusePointOverflow
  | .releaseCaptureBuffer _ _, r => r = .error .ReusePointOverflow
  | .retireCancelledCaptureBuffer _, r => r = .error .ReusePointOverflow
  | .stopCapture, r => r = .error .ReusePointOverflow
  | .retireInvalidatedCapture, r => r = .error .ReusePointOverflow
  | .reconcileGrantState _, r => r = .error .ReusePointOverflow
  | .finishRetiredCapture _, r => r = .error .ReusePointOverflow

end CaptureOp

/-- The capture half of the client as a service. -/
def captureService : Service Ioctl Reply CaptureClient :=
  ⟨CaptureOp, CaptureOp.Ret, CaptureOp.run⟩

section Step

variable {W : Type} {E : Environment W Ioctl Reply} {P : W → W → Prop}

/-- How a call moved the world: a release signals its point, any other call
signals nothing, except that a failed release may have tried to. -/
def Traced (E : Environment W Ioctl Reply) (P : W → W → Prop) (t : CaptureTracker) :
    Effect → W → W → Prop
  | .released r, w, w' => CaptureClient.SignalledFor E t r w w'
  | .registered _, w, w' => P w w'
  | .queued _, w, w' => P w w'
  | .none, w, w' => P w w' ∨ CaptureClient.SignalFailed E w w'

/-- A buffer that a release would find exhausted. -/
def Exhausted (t : CaptureTracker) : Prop :=
  ∃ streamId bufferId s b completion, t.stream streamId = some s ∧
    s.buffer bufferId = some b ∧ b.state = .ConsumerOwned completion ∧
    nextReusePoint b = .error .ReusePointOverflow

namespace CaptureClient

variable {α : Type} {A : Ioctl → Prop} {effect : α → Effect} {m : ClientM α}

lemma Moves.of_hands (hm : Moves A Hands effect m) : Moves A Move effect m :=
  fun _ => hm.watched (fun _ => id) (fun _ _ h => ⟨trivial, h.1, h.2.move⟩)
    fun _ _ h => ⟨trivial, ⟨h.1.1, h.1.2.move⟩, h.2⟩

/-- From what an operation does to the result of a call, whose effect is `shown`. -/
lemma Moves.ended (hm : Moves A Move effect m) (hE : Follows A E P)
    (shown : Except CaptureError α → Effect) (hok : ∀ a, shown (.ok a) = effect a)
    (herror : ∀ e, shown (.error e) = .none)
    (htraced : ∀ a t w w', P w w' → Traced E P t (effect a) w w') (c : CaptureClient) (w : W) :
    (m c).wp E w fun out w' => Move c.capture (shown out.1) out.2.capture ∧
      Traced E P c.capture (shown out.1) w w' ∧
        (out.1 = .error .ReusePointOverflow → Exhausted c.capture) := by
  refine wp_result (hm.wp hE c w) ?_ ?_
  · rintro a c' w' ⟨⟨-, hmove⟩, hw⟩
    exact ⟨hok a ▸ hmove, hok a ▸ htraced a _ w w' hw, nofun⟩
  · rintro e c' w' ⟨⟨⟨-, hmove⟩, he⟩, hw⟩
    exact ⟨herror e ▸ hmove, herror e ▸ .inl hw, fun h => absurd (Except.error.inj h) he⟩

end CaptureClient

open CaptureClient in
/-- Whatever the kernel replies, one call is one move with the call's effect, and it does not
overflow unless the tracker holds an exhausted buffer. -/
theorem CaptureOp.run_spec (h : Silent E P)
    (hstart : ∀ w args r w', E w (.captureStart args) r w' → P w w')
    (hqueue : ∀ w args r w', E w (.queueBuffer args) r w' → P w w') (op : CaptureOp)
    (c : CaptureClient) (w : W) :
    (op.run c).wp E w fun out w' =>
      Move c.capture (op.effect out.1) out.2.capture ∧
        Traced E P c.capture (op.effect out.1) w w' ∧
          (op.Overflowed out.1 → Exhausted c.capture) := by
  have hpoll : Follows Polls E P := h.mono fun _ hc => hc.1
  have hnone : ∀ t w w', P w w' → Traced E P t .none w w' := fun _ _ _ => .inl
  have hmoves {α : Type} {m : ClientM α} (hm : Moves Polls Hands (fun _ => .none) m) :
      (m c).wp E w fun out w' => Move c.capture .none out.2.capture ∧
        Traced E P c.capture .none w w' ∧
        (out.1 = .error .ReusePointOverflow → Exhausted c.capture) :=
    hm.of_hands.ended hpoll (fun _ => .none) (fun _ => rfl) (fun _ => rfl) (fun _ => hnone) c w
  have hfails {e : CaptureError} {c' : CaptureClient} {w' : W} (hf : Fails Move e c c' ∧ P w w') :
      Move c.capture .none c'.capture ∧ Traced E P c.capture .none w w' ∧
        (Except.error e = (.error .ReusePointOverflow : Except CaptureError CaptureBufferInfo) →
          Exhausted c.capture) :=
    ⟨hf.1.1.2, .inl hf.2, fun h => absurd (Except.error.inj h) hf.1.2⟩
  cases op with
  | startCapture capabilities cursorMode =>
    refine wp_result (startCapture_started hpoll hstart capabilities cursorMode c w) ?_ ?_
    · exact fun _ _ _ hs => ⟨hs.1.hands.2.move, .inl hs.2, nofun⟩
    · rintro e _ _ ⟨rfl, he, hw⟩
      exact ⟨.keep _, .inl hw, fun h => absurd (Except.error.inj h) he⟩
  | registerCaptureBuffer id mode =>
    exact wp_result (registerCaptureBuffer_registers h id mode c w)
      (fun _ _ _ hr => ⟨hr.1.ends.2, hr.2, nofun⟩) fun _ _ _ => hfails
  | allocateLinearXrgb8888Buffer mode =>
    exact wp_result (allocateLinearXrgb8888Buffer_registers h mode c w)
      (fun _ _ _ hr => ⟨hr.1.ends.2, hr.2, nofun⟩) fun _ _ _ => hfails
  | unregisterCaptureBuffer id =>
    exact (unregisterCaptureBuffer_moves id).ended h _ (fun _ => rfl) (fun _ => rfl)
      (fun _ => hnone) c w
  | queueCaptureBuffer id userData =>
    have hfollows : Follows (fun c => Polls c ∨ ∃ args, c = .queueBuffer args) E P := by
      refine ⟨h.refl, h.trans, ?_⟩
      rintro w c r w' (hc | ⟨args, rfl⟩) hE
      · exact hpoll.call w c r w' hc hE
      · exact hqueue w args r w' hE
    exact (queueCaptureBuffer_moves id userData).of_hands.ended hfollows _ (fun _ => rfl)
      (fun _ => rfl) (fun _ _ _ _ hw => hw) c w
  | recordCaptureFrame event =>
    refine wp_result (recordCaptureFrame_ends event c w) ?_ ?_ <;>
    · rintro _ _ _ ⟨hends, rfl⟩
      exact ⟨hends.2.move, .inl (h.refl _), False.elim⟩
  | takeCaptureCompletion ready => exact hmoves (takeCaptureCompletion_moves ready)
  | delegateExplicitCaptureCompletion fence => exact hmoves (takeCaptureCompletion_moves _)
  | releaseCaptureBuffer streamId id =>
    refine wp_result (releaseCaptureBuffer_spec streamId id c w)
      (fun _ _ _ he => ⟨he.1.2.move, he.2, nofun⟩) ?_
    rintro e _ _ ⟨rfl, hfailed, hover⟩
    refine ⟨.keep _, .inr hfailed, fun h => ?_⟩
    obtain ⟨s, b, completion, hrest⟩ := hover (Except.error.inj h)
    exact ⟨streamId, id, s, b, completion, hrest⟩
  | retireCancelledCaptureBuffer queue => exact hmoves (retireCancelledCaptureBuffer_moves queue)
  | stopCapture => exact hmoves stopCapture_moves
  | retireInvalidatedCapture => exact hmoves retireInvalidatedCapture_moves
  | reconcileGrantState evidence => exact hmoves (reconcileGrantState_moves evidence)
  | finishRetiredCapture streamId =>
    exact (finishRetiredCapture_moves streamId).ended h _ (fun _ => rfl) (fun _ => rfl)
      (fun _ => hnone) c w

end Step

/-- After any history of capture operations with any kernel replies, the tracker
keeps its streams, buffers and requests apart. -/
theorem reachable_trackerInv (lease : GrantLease) {h : List captureService.Invocation}
    {c : CaptureClient} (hr : captureService.Run (fun _ _ => True) { lease } h c) :
    TrackerInv c.capture := by
  refine hr.invariant (I := fun _ c => TrackerInv c.capture) .empty ?_
  intro _ c op hi
  exact Program.wp_mono _ (CaptureOp.run_spec (Follows.any _) (fun _ _ _ _ _ => trivial)
    (fun _ _ _ _ _ => trivial) op c []) fun _ _ hm => hm.1.inv hi

/-- A cooperative kernel: stream 7, buffer 5 and syncobj handles in order. -/
def sampleKernel (log : List (Exchange Ioctl Reply)) : (c : Ioctl) → c.Reply
  | .getGrant => .ok ⟨1, 1, 9, 1, 0, 0, 0⟩
  | .getConnector _ => .error .ENOENT
  | .getEncoder _ => .error .ENOENT
  | .getCrtc crtcId => .ok ⟨crtcId, 1, 1920, 1080, 60, 0⟩
  | .queryCaps _ _ => .error .ENOENT
  | .captureStart args => .ok { args with streamId := 7, modeGeneration := 3 }
  | .captureStop _ => .ok ()
  | .registerBuffer args => .ok { args with bufferId := 5 }
  | .unregisterBuffer _ _ => .ok ()
  | .queueBuffer _ => .ok ()
  | .createDumb _ => .error .ENOENT
  | .destroyDumb _ => .ok ()
  | .addFb2 _ => .error .ENOENT
  | .rmFb _ => .ok ()
  | .primeHandleToFd _ => .error .ENOENT
  | .exportSyncFile _ _ => .error .ENOENT
  | .syncobjCreate args => .ok { args with handle := UInt32.ofNat (log.length + 1) }
  | .syncobjDestroy _ => .ok ()
  | .syncobjHandleToFd _ => .error .ENOENT
  | .syncobjTimelineSignal args => .ok args
  | .syncobjEventfd args => .ok args
  | .eventfd => .ok 3
  | .dup fd => .ok fd
  | .fcntlGetFd _ => .ok FD_CLOEXEC
  | .fcntlGetFl _ => .ok O_NONBLOCK
  | .openAudioTap args => .ok args
  | .detachMonitor _ => .ok ()
  | .cecQueryCaps args => .ok args
  | .cecBindTransport args => .ok args
  | .cecSetTransportState _ => .ok ()
  | .cecTxComplete _ => .ok ()
  | .cecReceive _ => .ok ()
  | .cecUnbindTransport _ _ => .ok ()

def sampleLease : GrantLease := ⟨1, 1, 0, 9, 0, 0, 12⟩

def sampleCapabilities : CaptureCapabilities := ⟨0, 12, 2, 3, [], 4⟩

/-- One explicit buffer, queued and then cut off by a stop. -/
def sampleOps : List CaptureOp :=
  [.startCapture sampleCapabilities .ExcludeFromFrame,
   .registerCaptureBuffer 9 .Explicit,
   .queueCaptureBuffer 5 11,
   .stopCapture]

def sampleRun : List captureService.Invocation × CaptureClient :=
  captureService.replay sampleKernel sampleOps { lease := sampleLease }

lemma sampleRun_run :
    captureService.Run (fun _ _ => True) { lease := sampleLease } sampleRun.1 sampleRun.2 :=
  Service.run_replay (M := captureService) (fun _ _ => trivial) sampleOps _

/-- The sample history retires its stream with one queued buffer. -/
theorem reachable_trackerInv_sample :
    TrackerInv sampleRun.2.capture ∧ sampleRun.2.capture.active = none ∧
      sampleRun.2.capture.retired.map (·.queuedCount) = some 1 :=
  ⟨reachable_trackerInv sampleLease sampleRun_run, by decide, by decide⟩

end Pronk.Capture
