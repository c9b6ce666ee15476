import Pronk.Capture.Accounts

/-!
# No capture resource is leaked or destroyed twice

The capture operations of the client with those that only ask. After any history the
books balance, so every kernel object that was created is held by one buffer or was
destroyed once.
-/
namespace Pronk.Capture
open CastKms Interaction Method Ledger Ioctl

/-- Every operation of the client, queries included. -/
inductive ClientOp where
  | capture (op : CaptureOp)
  | queryCaptureCapabilities (crtcId : NonZeroU32)
  | exportCaptureBuffer (streamId bufferId : NonZeroU32)
  | exportImplicitCaptureFence (streamId bufferId : NonZeroU32)
  | armExplicitCaptureFence (streamId bufferId : NonZeroU32)

namespace ClientOp

def Ret : ClientOp → Type
  | .capture op => op.Ret
  | .queryCaptureCapabilities _ => Except CaptureError CaptureCapabilities
  | .exportCaptureBuffer _ _ => Except CaptureError CaptureBufferExport
  | .exportImplicitCaptureFence _ _ => Except CaptureError ImplicitCaptureFence
  | .armExplicitCaptureFence _ _ => Except CaptureError ExplicitCaptureFence

def run : (op : ClientOp) → CaptureClient → Program Ioctl Reply (op.Ret × CaptureClient)
  | .capture op => op.run
  | .queryCaptureCapabilities crtcId => CaptureClient.queryCaptureCapabilities crtcId
  | .exportCaptureBuffer streamId id => CaptureClient.exportCaptureBuffer streamId id
  | .exportImplicitCaptureFence streamId id => CaptureClient.exportImplicitCaptureFence streamId id
  | .armExplicitCaptureFence streamId id => CaptureClient.armExplicitCaptureFence streamId id

end ClientOp

def clientService : Service Ioctl Reply CaptureClient :=
  ⟨ClientOp, ClientOp.Ret, ClientOp.run⟩

section Step

variable {c : CaptureClient} {log : List (Exchange Ioctl Reply)}

lemma CaptureClient.Accounts.result {α ε : Type}
    {m : Method Ioctl Reply CaptureClient ε α} (hm : CaptureClient.Accounts m)
    (hi : TrackerInv c.capture) (h : c.Accounted log) :
    (m c).wp freshKernel log fun out log' => out.2.Accounted log' :=
  wp_result (hm c log hi h) (fun _ _ _ h => h) fun _ _ _ h => h

open CaptureClient in
lemma CaptureOp.run_accounted (op : CaptureOp) (hi : TrackerInv c.capture) (h : c.Accounted log) :
    (op.run c).wp freshKernel log fun out log' => out.2.Accounted log' := by
  have hpolls {α : Type} {m : ClientM α} {effect : α → Effect} (hm : Moves Polls Hands effect m) :=
    (hm.accounts fun _ hc => hc.2).result hi h
  cases op with
  | startCapture capabilities cursorMode =>
    exact (startCapture_accounts capabilities cursorMode).result hi h
  | registerCaptureBuffer id mode => exact (registerCaptureBuffer_accounts_all id mode).result hi h
  | allocateLinearXrgb8888Buffer mode =>
    exact (allocateLinearXrgb8888Buffer_accounts mode).result hi h
  | unregisterCaptureBuffer id => exact (unregisterCaptureBuffer_accounts id).result hi h
  | queueCaptureBuffer id userData => exact (queueCaptureBuffer_accounts id userData).result hi h
  | recordCaptureFrame event => exact (recordCaptureFrame_accounts event).result hi h
  | takeCaptureCompletion ready => exact hpolls (takeCaptureCompletion_moves ready)
  | delegateExplicitCaptureCompletion fence => exact hpolls (takeCaptureCompletion_moves _)
  | releaseCaptureBuffer streamId id =>
    exact (releaseCaptureBuffer_accounts streamId id).result hi h
  | retireCancelledCaptureBuffer queue => exact hpolls (retireCancelledCaptureBuffer_moves queue)
  | stopCapture => exact hpolls stopCapture_moves
  | retireInvalidatedCapture => exact hpolls retireInvalidatedCapture_moves
  | reconcileGrantState evidence => exact hpolls (reconcileGrantState_moves evidence)
  | finishRetiredCapture streamId => exact (finishRetiredCapture_accounts streamId).result hi h

/-- The tracker is in order and the books balance. -/
structure Kept (c : CaptureClient) (log : List (Exchange Ioctl Reply)) : Prop where
  tracker : TrackerInv c.capture
  accounted : c.Accounted log

lemma Kept.asked {α : Type} {m : ClientM α} (h : Kept c log) (hm : CaptureClient.Queries m) :
    (m c).wp freshKernel log fun out log' => Kept out.2 log' := by
  have hfollows := CaptureClient.follows_keepsBooks.mono fun _ (hc : Polls _) => hc.2
  refine wp_result (hm.wp hfollows ?_ ?_)
    (fun _ _ _ h => h) fun _ _ _ h => h
  · exact fun _ _ hlog => ⟨h.tracker, hlog _ h.accounted⟩
  · exact fun _ _ _ hlog => ⟨h.tracker, hlog _ h.accounted⟩

lemma ClientOp.run_kept (op : ClientOp) (h : Kept c log) :
    (op.run c).wp freshKernel log fun out log' => Kept out.2 log' := by
  cases op with
  | capture op =>
    have hmove := CaptureOp.run_spec (Follows.any freshKernel) (fun _ _ _ _ _ => trivial)
      (fun _ _ _ _ _ => trivial) op c log
    exact Program.wp_mono _ (Program.wp_and _ hmove (op.run_accounted h.tracker h.accounted))
      fun _ _ hout => ⟨hout.1.1.inv h.tracker, hout.2⟩
  | queryCaptureCapabilities crtcId =>
    exact h.asked (CaptureClient.queryCaptureCapabilities_queries crtcId)
  | exportCaptureBuffer streamId id =>
    exact h.asked (CaptureClient.exportCaptureBuffer_queries streamId id)
  | exportImplicitCaptureFence streamId id =>
    exact h.asked (CaptureClient.exportImplicitCaptureFence_queries streamId id)
  | armExplicitCaptureFence streamId id =>
    exact h.asked (CaptureClient.armExplicitCaptureFence_queries streamId id)

end Step

variable {log : List (Exchange Ioctl Reply)}

lemma reachable_kept (lease : GrantLease) {c : CaptureClient}
    (hr : clientService.Reach freshKernel { lease } [] c log) : Kept c log :=
  hr.invariant (I := Kept) ⟨.empty, Register.Books.nil⟩ fun _ _ op h => ClientOp.run_kept op h

variable {r : Resource}

/-- What lists without a common element hold together is in one of them. -/
lemma countP_holders {bs : List TrackedBuffer}
    (hdistinct : (bs.flatMap TrackedBuffer.resources).Nodup)
    (hr : r ∈ bs.flatMap TrackedBuffer.resources) : bs.countP (r ∈ ·.resources) = 1 := by
  induction bs with
  | nil => simp at hr
  | cons b rest ih =>
    rw [List.flatMap_cons] at hdistinct hr
    obtain ⟨-, hrest, hdisjoint⟩ := List.nodup_append.1 hdistinct
    by_cases hb : r ∈ b.resources
    · have hnone : rest.countP (r ∈ ·.resources) = 0 := by
        rw [List.countP_eq_zero]
        intro b' hb' hmem
        exact hdisjoint r hb r (List.mem_flatMap.2 ⟨b', hb', of_decide_eq_true hmem⟩) rfl
      simp [hb, hnone]
    · have hmem : r ∈ rest.flatMap TrackedBuffer.resources :=
        (List.mem_append.1 hr).resolve_left hb
      simp [hb, ih hrest hmem]

/-- How the tracker stands to an object that was created before the given exchanges. A
number that the kernel gives out again stands for a new object, so only the exchanges up
to then count. -/
def Settled (t : CaptureTracker) (r : Resource) (after : List (Exchange Ioctl Reply)) :
    Prop :=
  let lifetime := resources.lifetime r.id after
  (lifetime = after ∧ lifetime.countP (resources.closesKey r.id) = 0 ∧
      t.buffers.countP (r ∈ ·.resources) = 1) ∨
    (lifetime.countP (resources.closesKey r.id) = 1 ∧
      (lifetime = after → ∀ b ∈ t.buffers, ∀ x ∈ b.resources, x.id ≠ r.id))

lemma Kept.settled {c : CaptureClient} {before after : List (Exchange Ioctl Reply)}
    {e : Exchange Ioctl Reply} (h : Kept c (before ++ e :: after))
    (he : resources.change e = .opens r) : Settled c.capture r after := by
  have hbooks := h.accounted
  cases hbooks.balanced.fate he with
  | outstanding hkey hcount hmem =>
    have hlifetime : resources.lifetime r.id after = after := hkey
    have hheld : r ∈ c.capture.held := hbooks.held.mem_iff.1 hmem
    refine .inl ⟨hkey, ?_, countP_holders (.of_map _ hbooks.distinct) hheld⟩
    rw [hlifetime]
    exact hcount
  | closed hkey hcount hmem =>
    have hlifetime : resources.lifetime r.id after = after := hkey
    refine .inr ⟨?_, fun _ b hb x hx => ?_⟩
    · rw [hlifetime]
      exact hcount
    · exact hmem x (hbooks.held.mem_iff.2 (List.mem_flatMap.2 ⟨b, hb, hx⟩))
  | reused hkey hcount => exact .inr ⟨hcount, fun heq => absurd heq hkey⟩

lemma rmFb_of_closesKey {id : UInt32} {e : Exchange Ioctl Reply}
    (h : resources.closesKey (.framebuffer id) e = true) : e.1 = .rmFb id := by
  obtain ⟨c, r⟩ := e
  have hcloses : resourceChange c r = .closes (.framebuffer id) := Register.closesKey_eq_true _ h
  unfold resourceChange at hcloses
  split at hcloses <;> cases hcloses
  rfl

/-- After any history of capture operations, with a kernel that answers anything but
creates under fresh nonzero numbers, every created object is held by one buffer and was not
destroyed, or is held by none and was destroyed once. A GEM handle is destroyed after
the framebuffers that were made from it. -/
theorem resources_settled (lease : GrantLease) {c : CaptureClient}
    {log : List (Exchange Ioctl Reply)}
    (hr : clientService.Reach freshKernel { lease } [] c log) :
    (∀ before e after r, log = before ++ e :: after → resources.change e = .opens r →
      Settled c.capture r after) ∧
    ∀ before e mid handle id reply post,
      log = before ++ e :: mid ++ ⟨.destroyDumb handle, reply⟩ :: post →
      resources.change e = .opens (.framebuffer id handle) →
      ∃ removal ∈ mid, removal.1 = .rmFb id := by
  have hkept := reachable_kept lease hr
  constructor
  · intro before e after r hlog he
    subst hlog
    exact hkept.settled he
  · intro before e mid handle id reply post hlog he
    subst hlog
    obtain ⟨y, hy, hcloses⟩ := hkept.accounted.balanced.closed_first he rfl rfl
    exact ⟨y, hy, rmFb_of_closesKey hcloses⟩

/-- The number of the next exchange, unless it is in use. -/
def freeNumber (log : List (Exchange Ioctl Reply)) (id : UInt32 → ResourceId) :
    Except Errno UInt32 :=
  let number := UInt32.ofNat (log.length + 1)
  if number ≠ 0 ∧ (resources.outstanding log).all (·.id ≠ id number) then .ok number
  else .error .ENOENT

lemma freeNumber_eq_ok {id : UInt32 → ResourceId} {number : UInt32}
    (h : freeNumber log id = .ok number) :
    number ≠ 0 ∧ ∀ x ∈ resources.outstanding log, x.id ≠ id number := by
  simp only [freeNumber] at h
  split_ifs at h with hfree
  cases h
  simpa using hfree

/-- The cooperative kernel, which also creates. -/
def creatingKernel (log : List (Exchange Ioctl Reply)) : (c : Ioctl) → c.Reply
  | .createDumb args => (freeNumber log .gem).map fun handle =>
      { args with handle, pitch := 7680, size := 8294400 }
  | .addFb2 args => (freeNumber log .framebuffer).map fun fbId => { args with fbId }
  | .syncobjCreate args => (freeNumber log .syncobj).map fun handle => { args with handle }
  | .primeHandleToFd args => .ok { args with fd := 20 }
  | c => sampleKernel log c

/-- A number that was free is fresh, whatever is created under it. -/
lemma fresh_of_freeNumber (id : UInt32 → ResourceId)
    (change : Except Errno UInt32 → Change Resource ResourceId) {make : UInt32 → Resource}
    (herror : ∀ e, change (.error e) = .none) (hok : ∀ n, change (.ok n) = .opens (make n))
    (hnumber : ∀ n, (make n).number = n) (hid : ∀ n, (make n).id = id n)
    (hr : change (freeNumber log id) = .opens r) :
    r.number ≠ 0 ∧ ∀ x ∈ resources.outstanding log, x.id ≠ r.id := by
  cases hfree : freeNumber log id with
  | error e => simp [hfree, herror] at hr
  | ok n =>
    rw [hfree, hok] at hr
    cases hr
    rw [hnumber, hid]
    exact freeNumber_eq_ok hfree

lemma creatingKernel_fresh (log : List (Exchange Ioctl Reply)) (c : Ioctl) :
    freshKernel log c (creatingKernel log c) (log ++ [⟨c, creatingKernel log c⟩]) := by
  refine ⟨rfl, fun r hr => ?_⟩
  cases c with
  | createDumb args =>
    exact fresh_of_freeNumber .gem
      (fun free => resourceChange (.createDumb args) (free.map fun handle =>
        { args with handle, pitch := 7680, size := 8294400 }))
      (fun _ => rfl) (fun _ => rfl) (fun _ => rfl) (fun _ => rfl) hr
  | addFb2 args =>
    exact fresh_of_freeNumber .framebuffer
      (fun free => resourceChange (.addFb2 args) (free.map fun fbId =>
        { args with fbId }))
      (fun _ => rfl) (fun _ => rfl) (fun _ => rfl) (fun _ => rfl) hr
  | syncobjCreate args =>
    exact fresh_of_freeNumber .syncobj
      (fun free => resourceChange (.syncobjCreate args) (free.map fun handle =>
        { args with handle }))
      (fun _ => rfl) (fun _ => rfl) (fun _ => rfl) (fun _ => rfl) hr
  | _ => cases hr

/-- Two buffers in turn, of which the first is given back. -/
def creatingOps : List ClientOp :=
  [.capture (.startCapture { sampleCapabilities with
     formats := [⟨DRM_FORMAT_XRGB8888, DRM_FORMAT_MOD_LINEAR⟩] } .ExcludeFromFrame),
   .capture (.allocateLinearXrgb8888Buffer .Explicit),
   .capture (.unregisterCaptureBuffer 5),
   .capture (.allocateLinearXrgb8888Buffer .Explicit)]

def creatingRun : CaptureClient × List (Exchange Ioctl Reply) :=
  clientService.play (Service.recorded creatingKernel) creatingOps { lease := sampleLease } []

lemma creatingRun_reach :
    clientService.Reach freshKernel { lease := sampleLease } [] creatingRun.1 creatingRun.2 :=
  Service.Reach.play (M := clientService) id creatingKernel_fresh creatingOps .init

/-- Eight objects were created, four of them are held and four were destroyed. -/
theorem resources_settled_creating :
    (creatingRun.2.filter fun e => (resources.change e matches .opens _)).length = 8 ∧
      creatingRun.1.capture.held.length = 4 ∧
      ∀ before e after r, creatingRun.2 = before ++ e :: after →
        resources.change e = .opens r → Settled creatingRun.1.capture r after :=
  ⟨by decide +kernel, by decide +kernel, (resources_settled sampleLease creatingRun_reach).1⟩

end Pronk.Capture
