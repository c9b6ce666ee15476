import Pronk.Capture.Custody

/-!
# The books of the capture client

The kernel objects that are outstanding are those that the tracked buffers hold, before
and after every operation. Inside an operation some are in its hands: those that it has
just created, or that it has taken from a buffer to destroy them.
-/
namespace Pronk.Capture
open CastKms Interaction Method Ledger CaptureTracker Register Ioctl

namespace CaptureClient

/-- The books balance with what the tracker holds. -/
abbrev Accounted (c : CaptureClient) (log : List (Exchange Ioctl Reply)) : Prop :=
  resources.Books log c.capture.held

lemma resourceChange_of_not_creates {c : Ioctl} (hc : ¬ Creates c) (r : c.Reply) :
    resourceChange c r = .none := by
  cases c with
  | createDumb | addFb2 | syncobjCreate | destroyDumb | rmFb | syncobjDestroy =>
    exact absurd trivial hc
  | _ => rfl

/-- What is outstanding stays so under the ioctls that neither create nor destroy. -/
def KeepsBooks (log log' : List (Exchange Ioctl Reply)) : Prop :=
  ∀ m, resources.Books log m → resources.Books log' m

lemma keepsBooks {c : Ioctl} {log log' : List (Exchange Ioctl Reply)} {r : c.Reply}
    (h : freshKernel log c r log') (hc : ¬ Creates c) : KeepsBooks log log' := by
  obtain ⟨rfl, -⟩ := h
  exact fun _ hbooks => hbooks.none (resourceChange_of_not_creates hc r)

lemma follows_keepsBooks : Follows (fun c => ¬ Creates c) freshKernel KeepsBooks :=
  ⟨fun _ _ => id, fun _ _ _ h₁ h₂ m h => h₂ m (h₁ m h), fun _ _ _ _ hc h => keepsBooks h hc⟩

/-- An operation after which the books balance again, however it ended. -/
def Accounts {α ε : Type} (m : Method Ioctl Reply CaptureClient ε α) : Prop :=
  ∀ c log, TrackerInv c.capture → c.Accounted log →
    m.wp freshKernel c log (fun _ c' log' => c'.Accounted log') (fun _ c' log' => c'.Accounted log')

section Operations

variable {c c' : CaptureClient} {log log' : List (Exchange Ioctl Reply)}

lemma Ends.accounted {e : Effect} (hends : Ends Hands e c c') (hi : TrackerInv c.capture)
    (hbooks : c.Accounted log) (hlog : KeepsBooks log log') : c'.Accounted log' := by
  rw [Accounted, hends.2.held hi]
  exact hlog _ hbooks

lemma Moves.accounts {A : Ioctl → Prop} {α : Type} {effect : α → Effect} {m : ClientM α}
    (hm : Moves A Hands effect m) (hA : ∀ c, A c → ¬ Creates c) : Accounts m := by
  intro c log hi hbooks
  refine wp_mono (hm.wp (follows_keepsBooks.mono hA) c log) ?_ ?_
  · exact fun _ _ _ h => h.1.accounted hi hbooks h.2
  · exact fun _ _ _ h => h.1.1.accounted hi hbooks h.2

lemma startCapture_accounts (capabilities : CaptureCapabilities) (cursorMode : CursorCaptureMode) :
    Accounts (startCapture capabilities cursorMode) := by
  intro c log hi hbooks
  refine wp_mono (startCapture_started (follows_keepsBooks.mono fun _ hc => hc.2)
    (fun _ _ _ _ h => keepsBooks h not_false) capabilities cursorMode c log) ?_ ?_
  · exact fun _ _ _ h => h.1.hands.accounted hi hbooks h.2
  · rintro _ _ log' ⟨rfl, -, hlog⟩
    exact hlog _ hbooks

lemma queueCaptureBuffer_accounts (bufferId : NonZeroU32) (userData : NonZeroU64) :
    Accounts (queueCaptureBuffer bufferId userData) := by
  refine (queueCaptureBuffer_moves bufferId userData).accounts ?_
  rintro c (hc | ⟨args, rfl⟩)
  · exact hc.2
  · exact not_false

lemma recordCaptureFrame_accounts (event : CaptureFrameEvent) :
    Accounts (recordCaptureFrame event) := by
  intro c log hi hbooks
  apply wp_weaken (recordCaptureFrame_ends event c log)
  rintro c' _ ⟨hends, rfl⟩
  exact hends.accounted hi hbooks (follows_keepsBooks.refl _)

lemma releaseCaptureBuffer_accounts (streamId bufferId : NonZeroU32) :
    Accounts (releaseCaptureBuffer streamId bufferId) := by
  intro c log hi hbooks
  refine wp_mono (releaseCaptureBuffer_spec streamId bufferId c log) ?_ ?_
  · rintro r c' log' ⟨hends, s, b, -, -, hsignal⟩
    apply hends.accounted hi hbooks
    unfold Signalled at hsignal
    split at hsignal
    · exact keepsBooks hsignal not_false
    · exact hsignal ▸ follows_keepsBooks.refl _
  · rintro _ _ log' ⟨rfl, rfl | ⟨handle, point, reply, -, hE⟩, -⟩
    · exact hbooks
    · exact keepsBooks hE not_false _ hbooks

lemma stopStreamBestEffort_trades {x z : List Resource} (streamId : UInt32) :
    Trades x (fun _ => x) z (stopStreamBestEffort streamId) :=
  .ite (fun _ => .pure rfl) fun _ => .bind (ioctl_neutral fun _ => rfl) fun _ => .pure rfl

lemma abandonRegistration_accounts {x : List Resource} (streamId : NonZeroU32)
    (sync : TrackedSynchronization) (e : CaptureError) (hx : resources.Anchored x)
    (hi : TrackerInv c.capture)
    (hbooks : resources.Books log ((sync.resources ++ x) ++ c.capture.held))
    (ok : CaptureBufferInfo → CaptureClient → List (Exchange Ioctl Reply) → Prop) :
    (abandonRegistration streamId sync e).wp freshKernel c log ok
      (fun _ c' log' => resources.Books log' (x ++ c'.capture.held)) := by
  have hheld := c.capture.anchored_held
  have hretired := held_retireActive hi
  refine (stopStreamBestEffort_trades _).step hheld hbooks (fun _ _ h => h)
    fun _ log₁ h₁ => Then.modify ?_
  rw [← hretired] at h₁ hheld
  exact (destroySyncobjPairBestEffort_trades sync hx).step hheld h₁ (fun _ _ h => h)
    fun _ _ h => h

/-- A registration with the objects `x` in hand. The buffer holds no framebuffer yet. -/
lemma registerCaptureBuffer_accounts {x : List Resource} (framebufferId : NonZeroU32)
    (mode : CaptureSynchronization) (hx : resources.Anchored x)
    (hi : TrackerInv c.capture) (hbooks : resources.Books log (x ++ c.capture.held)) :
    (registerCaptureBuffer framebufferId mode).wp freshKernel c log
      (fun info c' log' => ∃ s b, Registered c s b c' ∧ info = b.info s.info.streamId ∧
        b.framebufferId = framebufferId ∧ b.ownedFramebuffer = none ∧
        resources.Books log' (x ++ c'.capture.held))
      (fun _ c' log' => resources.Books log' (x ++ c'.capture.held)) := by
  have hheld := c.capture.anchored_held
  refine Then.get <| Then.okOr (fun _ => hbooks) fun s hactive => ?_
  refine Then.failIf (fun _ => hbooks) fun _ => Then.failIf (fun _ => hbooks) fun hroom => ?_
  refine (trackSynchronization_trades _ mode hx).step hheld hbooks (fun _ _ h => h)
    fun sync log₁ h₁ => ?_
  refine (ioctl_neutral fun _ => rfl).step hheld h₁ (fun _ _ h => h) fun reply log₂ h₂ => ?_
  have hdestroy := destroySyncobjPairBestEffort_trades (z := x) sync hx
  cases reply with
  | error e =>
    refine Then.of ((wp_when ..).2 ⟨fun _ => (wp_modify ..).2 ?_, fun _ => ?_⟩)
    · rw [← held_markActiveStale s.info.streamId] at h₂ hheld
      exact hdestroy.step hheld h₂ (fun _ _ h => h) fun _ _ h => h
    · exact hdestroy.step hheld h₂ (fun _ _ h => h) fun _ _ h => h
  | ok args =>
    dsimp only
    split
    · exact abandonRegistration_accounts _ sync _ hx hi h₂ _
    · rename_i bufferId _
      refine (wp_ite ..).2 ⟨fun _ => abandonRegistration_accounts _ sync _ hx hi h₂ _, ?_⟩
      refine fun _ => (wp_ite ..).2
        ⟨fun _ => abandonRegistration_accounts _ sync _ hx hi h₂ _, fun hdup => ?_⟩
      have hnew : ∀ x ∈ s.buffers, x.id ≠ bufferId := by
        intro x hx he
        exact hdup (List.any_eq_true.2 ⟨x, hx, by simpa using he⟩)
      refine ⟨s, _, ⟨hactive, hroom, hnew, rfl, rfl, rfl, rfl⟩, rfl, rfl, rfl, h₂.perm ?_⟩
      rw [held_register hactive (hi.retired_eq_none hactive), List.append_assoc,
        ← List.append_assoc x]
      have hb : sync.resources ++ (none : Option OwnedFramebuffer).elim []
          (·.resources framebufferId) = sync.resources := List.append_nil _
      exact hb.symm ▸ List.perm_append_comm

lemma registerCaptureBuffer_accounts_all (framebufferId : NonZeroU32)
    (mode : CaptureSynchronization) : Accounts (registerCaptureBuffer framebufferId mode) := by
  intro c log hi hbooks
  refine wp_mono (registerCaptureBuffer_accounts framebufferId mode
    anchored_nil hi hbooks) ?_ fun _ _ _ h => h
  rintro info c' log' ⟨s, b, -, -, -, -, h⟩
  exact h

lemma allocateLinearXrgb8888Buffer_accounts (mode : CaptureSynchronization) :
    Accounts (allocateLinearXrgb8888Buffer mode) := by
  intro c log hi hbooks
  refine Then.get <| Then.okOr (fun _ => hbooks) fun stream _ => ?_
  refine Then.failIf (fun _ => hbooks) fun _ => Then.failIf (fun _ => hbooks) fun _ => ?_
  refine Then.failIf (fun _ => hbooks) fun _ => ?_
  refine (createOwnedFramebuffer_trades _ anchored_nil).step c.capture.anchored_held
    hbooks (fun _ _ h => h) fun ⟨framebufferId, owned⟩ log₄ h₄ => ?_
  rw [List.append_nil] at h₄
  refine Then.of ((wp_attempt ..).2 (wp_mono (registerCaptureBuffer_accounts
    framebufferId mode (owned.anchored framebufferId) hi h₄) ?_ ?_))
  · rintro info c' log' ⟨s, b, hr, rfl, hid, hnone, h₅⟩
    obtain ⟨hfound, hset⟩ := setBuffer_append { b with ownedFramebuffer := some owned } hr.new
    have hretired := hi.retired_eq_none hr.active
    obtain rfl := hr.result
    refine Then.get ?_
    simp only [TrackedBuffer.info, hfound, hset]
    have hbefore : b.resources = b.synchronization.resources := by
      simp [TrackedBuffer.resources, hnone]
    have hafter : TrackedBuffer.resources { b with ownedFramebuffer := some owned } =
        b.synchronization.resources ++ owned.resources framebufferId := by
      simp [TrackedBuffer.resources, hid]
    refine h₅.perm ?_
    rw [held_register hr.active hretired,
      held_register hr.active hretired, hbefore, hafter,
      ← List.append_assoc c.capture.held]
    exact List.perm_append_comm
  · intro e c' log' h₅
    have hclean : Trades (owned.resources framebufferId ++ []) (fun _ => []) []
        (cleanupOwnedFramebuffer framebufferId owned) :=
      cleanupOwnedFramebuffer_trades framebufferId owned anchored_nil
    exact hclean.step c'.capture.anchored_held (by simpa using h₅) (fun _ _ h => h)
      fun _ _ h => h

lemma accounted_cleanup {α : Type} {x : List Resource} {m : ClientM (Except CaptureError Unit)}
    (hm : Trades (x ++ []) (fun _ => []) [] m) (hbooks : resources.Books log (x ++ c.capture.held))
    (a : α) :
    (do let cleaned ← m; lift cleaned; pure a : ClientM α).wp freshKernel c log
      (fun _ c' log' => c'.Accounted log') fun _ c' log' => c'.Accounted log' := by
  rw [List.append_nil] at hm
  exact hm.step c.capture.anchored_held hbooks (fun _ _ h => h)
    fun cleaned _ h => Then.lift (fun _ _ => h) fun _ _ => h

lemma unregisterCaptureBuffer_accounts (bufferId : NonZeroU32) :
    Accounts (unregisterCaptureBuffer bufferId) := by
  intro c log hi hbooks
  refine Then.get <| Then.okOr (fun _ => hbooks) fun s hactive => ?_
  refine Then.okOr (fun _ => hbooks) fun i _ => Then.okOr (fun _ => hbooks) fun b hb => ?_
  refine Then.lift (fun _ _ => hbooks) fun _ _ => Then.request fun reply log₁ hE => ?_
  have h₁ := keepsBooks hE not_false _ hbooks
  refine Then.lift (fun _ _ => h₁) fun _ _ => Then.modify ?_
  exact accounted_cleanup (cleanupTrackedBufferResources_trades b anchored_nil)
    (h₁.perm (held_unregister hactive (hi.retired_eq_none hactive) hb)) _

lemma finishRetiredCapture_accounts (streamId : NonZeroU32) :
    Accounts (finishRetiredCapture streamId) := by
  intro c log hi hbooks
  refine Then.get <| Then.okOr (fun _ => hbooks) fun s hs => ?_
  have hretired : c.capture.retired = some s := (Option.filter_eq_some_iff.1 hs).1
  refine Then.failIf (fun _ => hbooks) fun _ => Then.modify ?_
  exact accounted_cleanup (cleanupBuffers_trades s.buffers anchored_nil)
    (hbooks.perm (held_finish hretired)) _

end Operations

end CaptureClient

end Pronk.Capture
