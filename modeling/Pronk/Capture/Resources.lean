import Mathlib.Data.List.Perm.Basic
import Pronk.Capture.Move
import Pronk.Library.Custody

/-!
# The kernel objects behind the capture buffers

GEM handles, framebuffers and synchronization objects are opened and closed by ioctls,
and a framebuffer needs the GEM handle that it was made from. A buffer holds the objects
that were created for it, and the tracker holds those of its buffers. Most moves of the
tracker leave what it holds as it is.
-/
namespace Pronk.Capture
open CastKms Interaction Ledger Register

/-- The name of a kernel object. -/
inductive ResourceId where
  | gem (handle : UInt32)
  | framebuffer (id : UInt32)
  | syncobj (handle : UInt32)
  deriving DecidableEq

/-- A framebuffer is recorded with the GEM handle of its first plane. -/
inductive Resource where
  | gem (handle : UInt32)
  | framebuffer (id gemHandle : UInt32)
  | syncobj (handle : UInt32)
  deriving DecidableEq

namespace Resource

def id : Resource → ResourceId
  | .gem handle => .gem handle
  | .framebuffer id _ => .framebuffer id
  | .syncobj handle => .syncobj handle

def needs : Resource → Option ResourceId
  | .framebuffer _ gemHandle => some (.gem gemHandle)
  | _ => none

/-- The number that the kernel chose. -/
def number : Resource → UInt32
  | .gem handle => handle
  | .framebuffer id _ => id
  | .syncobj handle => handle

end Resource

/-- A creation counts when it succeeded, a destruction when it was tried. -/
def resourceChange : (c : Ioctl) → c.Reply → Change Resource ResourceId
  | .createDumb _, .ok dumb => .opens (.gem dumb.handle)
  | .addFb2 args, .ok added => .opens (.framebuffer added.fbId (args.handles.headD 0))
  | .syncobjCreate _, .ok created => .opens (.syncobj created.handle)
  | .destroyDumb handle, _ => .closes (.gem handle)
  | .rmFb id, _ => .closes (.framebuffer id)
  | .syncobjDestroy handle, _ => .closes (.syncobj handle)
  | _, _ => .none

def resources : Register (Exchange Ioctl Ioctl.Reply) Resource ResourceId where
  change e := resourceChange e.1 e.2
  key := Resource.id
  needs := Resource.needs

/-- The kernel may answer anything, but what it creates has a nonzero number that is not
in use. -/
abbrev freshKernel : Environment (List (Exchange Ioctl Ioctl.Reply)) Ioctl Ioctl.Reply :=
  resources.fresh fun r => r.number ≠ 0

def TrackedSynchronization.resources : TrackedSynchronization → List Resource
  | .Implicit => []
  | .Explicit pair => [.syncobj pair.readyHandle.get, .syncobj pair.reuseHandle.get]

def OwnedFramebuffer.resources (framebufferId : NonZeroU32) (owned : OwnedFramebuffer) :
    List Resource :=
  [.framebuffer framebufferId.get owned.gemHandle.get, .gem owned.gemHandle.get]

/-- What a buffer holds. A framebuffer of the caller is not among it. -/
def TrackedBuffer.resources (b : TrackedBuffer) : List Resource :=
  b.synchronization.resources ++ b.ownedFramebuffer.elim [] (·.resources b.framebufferId)

section Anchored

lemma TrackedSynchronization.anchored (sync : TrackedSynchronization) :
    Capture.resources.Anchored sync.resources := by
  cases sync with
  | Implicit => exact anchored_nil
  | Explicit pair => exact (anchored_nil.cons rfl).cons rfl

lemma OwnedFramebuffer.anchored (framebufferId : NonZeroU32) (owned : OwnedFramebuffer) :
    Capture.resources.Anchored (owned.resources framebufferId) := by
  intro x hx k hk
  simp only [OwnedFramebuffer.resources, List.mem_cons, List.not_mem_nil, or_false] at hx
  rcases hx with rfl | rfl
  · cases hk
    exact ⟨.gem owned.gemHandle.get, by simp [OwnedFramebuffer.resources], rfl⟩
  · cases hk

lemma TrackedBuffer.anchored (b : TrackedBuffer) : Capture.resources.Anchored b.resources := by
  apply Anchored.append b.synchronization.anchored
  cases b.ownedFramebuffer with
  | none => exact anchored_nil
  | some owned => exact owned.anchored b.framebufferId

lemma anchored_buffers (buffers : List TrackedBuffer) :
    resources.Anchored (buffers.flatMap TrackedBuffer.resources) := by
  induction buffers with
  | nil => exact anchored_nil
  | cons b rest ih => exact b.anchored.append ih

end Anchored

namespace CaptureTracker

/-- The buffers of the active and the retired stream. -/
def buffers (t : CaptureTracker) : List TrackedBuffer :=
  t.active.elim [] (·.buffers) ++ t.retired.elim [] (·.buffers)

/-- The objects that the buffers hold. -/
def held (t : CaptureTracker) : List Resource := t.buffers.flatMap TrackedBuffer.resources

variable {t : CaptureTracker} {s s' : TrackedStream}

lemma anchored_held (t : CaptureTracker) : resources.Anchored t.held := anchored_buffers _

lemma held_markActiveStale (streamId : NonZeroU32) :
    (t.markActiveStale streamId).held = t.held := by
  cases hactive : t.active with
  | none => simp [held, buffers, markActiveStale, hactive]
  | some s =>
    simp only [held, buffers, markActiveStale, hactive, Option.map_some, Option.elim_some]
    split_ifs <;> rfl

lemma held_start (hactive : t.active = none) (info : CaptureStreamInfo)
    (capabilities : CaptureCapabilities) :
    held { t with active := some ⟨info, capabilities, false, []⟩ } = t.held := by
  simp [held, buffers, hactive]

lemma held_register (hactive : t.active = some s) (hretired : t.retired = none)
    (b : TrackedBuffer) :
    held { t with active := some { s with buffers := s.buffers ++ [b] } } =
      t.held ++ b.resources := by
  simp [held, buffers, hactive, hretired]

lemma held_retireActive (hi : TrackerInv t) : t.retireActive.2.held = t.held := by
  unfold retireActive
  cases hactive : t.active with
  | none => rfl
  | some s =>
    have hretired := hi.retired_eq_none hactive
    dsimp only
    split_ifs with hempty
    · simp [held, buffers, hactive, hretired, hempty]
    · simp [held, buffers, hactive, hretired]

variable {id : NonZeroU32} {b b' : TrackedBuffer}

lemma resources_setBuffer (hb : s.buffer id = some b) (hsame : b'.resources = b.resources) :
    (s.setBuffer id b').buffers.flatMap TrackedBuffer.resources =
      s.buffers.flatMap TrackedBuffer.resources := by
  obtain ⟨-, l₁, l₂, hs, hset⟩ := TrackedStream.buffer_split hb
  rw [hset, hs]
  simp [hsame]

lemma held_setActive (hactive : t.active = some s) (hb : s.buffer id = some b)
    (hsame : b'.resources = b.resources) :
    held { t with active := some (s.setBuffer id b') } = t.held := by
  simp only [held, buffers, hactive, List.flatMap_append, Option.elim_some]
  rw [resources_setBuffer hb hsame]

lemma held_setRetired (hretired : t.retired = some s) (hb : s.buffer id = some b)
    (hsame : b'.resources = b.resources) :
    held { t with retired := some (s.setBuffer id b') } = t.held := by
  simp only [held, buffers, hretired, List.flatMap_append, Option.elim_some]
  rw [resources_setBuffer hb hsame]

lemma held_unregister {i : ℕ} (hactive : t.active = some s) (hretired : t.retired = none)
    (hb : s.buffers[i]? = some b) :
    t.held.Perm (b.resources ++
      held { t with active := some { s with buffers := s.buffers.eraseIdx i } }) := by
  obtain ⟨hi, rfl⟩ := List.getElem?_eq_some_iff.1 hb
  have hflat := (List.getElem_cons_eraseIdx_perm hi).symm.flatMap_right TrackedBuffer.resources
  simpa [held, buffers, hactive, hretired] using hflat

lemma held_finish (hretired : t.retired = some s) :
    t.held.Perm (s.buffers.flatMap TrackedBuffer.resources ++ held { t with retired := none }) := by
  simpa [held, buffers, hretired] using List.perm_append_comm

lemma held_setStream {streamId : NonZeroU32} (hs : t.stream streamId = some s)
    (hsame : s'.buffers.flatMap TrackedBuffer.resources =
      s.buffers.flatMap TrackedBuffer.resources) : (t.setStream streamId s').held = t.held := by
  unfold setStream
  unfold stream at hs
  split_ifs with hactive hretired
  · obtain ⟨s₀, hs₀, hid⟩ := (Option.any_eq_true _ _).1 hactive
    simp only [hs₀, Option.filter_some, hid, if_true, Option.some_or, Option.some.injEq] at hs
    subst hs
    simp [held, buffers, hs₀, hsame]
  · obtain ⟨s₀, hs₀, hid⟩ := (Option.any_eq_true _ _).1 hretired
    have hnone : t.active.filter (·.info.streamId = streamId) = none := by
      rw [Option.filter_eq_none_iff]
      intro s hs hid
      exact hactive ((Option.any_eq_true _ _).2 ⟨s, hs, hid⟩)
    simp only [hnone, hs₀, Option.filter_some, hid, if_true, Option.none_or,
      Option.some.injEq] at hs
    subst hs
    simp [held, buffers, hs₀, hsame]
  · rfl

end CaptureTracker

/-- A move after which the tracker holds what it held before. -/
structure Hands (t : CaptureTracker) (e : Effect) (t' : CaptureTracker) : Prop where
  move : Move t e t'
  held : TrackerInv t → t'.held = t.held

namespace Hands
open CaptureTracker

variable {t : CaptureTracker} {s : TrackedStream} {id : NonZeroU32} {b : TrackedBuffer}

lemma keep (t : CaptureTracker) : Hands t .none t := ⟨.keep t, fun _ => rfl⟩

lemma stale (t : CaptureTracker) (streamId : NonZeroU32) :
    Hands t .none (t.markActiveStale streamId) :=
  ⟨.stale t streamId, fun _ => held_markActiveStale streamId⟩

lemma retire (t : CaptureTracker) : Hands t .none t.retireActive.2 :=
  ⟨.retire t, held_retireActive⟩

end Hands

end Pronk.Capture
