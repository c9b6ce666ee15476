import Mathlib.Data.List.Basic
import Pronk.Capture.Tracker

/-!
# The ownership invariant of the tracker

Every operation writes at most one buffer, found by its identifier, or adds,
removes or moves whole entries. The lemmas below say what each of these writes
asks for; the operations only have to supply it.
-/
namespace Pronk.Capture
open CastKms List

namespace TrackedBuffer

/-- Two buffers do not carry the same request label. -/
def LabelsDiffer (x y : TrackedBuffer) : Prop :=
  ∀ p q, x.state.queue? = some p → y.state.queue? = some q → p.userData ≠ q.userData

lemma LabelsDiffer.symm {x y : TrackedBuffer} (h : x.LabelsDiffer y) : y.LabelsDiffer x :=
  fun p q hp hq => (h q p hq hp).symm

end TrackedBuffer

namespace TrackedStream

def queuedCount (s : TrackedStream) : ℕ := s.buffers.countP (·.state.public = .Queued)

lemma replaceF_append {id : NonZeroU32} (b b' : TrackedBuffer) (l₁ l₂ : List TrackedBuffer)
    (h₁ : ∀ x ∈ l₁, x.id ≠ id) (hb : b.id = id) :
    (l₁ ++ b :: l₂).replaceF (fun x => if x.id = id then some b' else none) =
      l₁ ++ b' :: l₂ := by
  induction l₁ with
  | nil => simp [replaceF, hb]
  | cons x l₁ ih =>
    have hx : x.id ≠ id := h₁ x (by simp)
    have hl : ∀ y ∈ l₁, y.id ≠ id := fun y hy => h₁ y (by simp [hy])
    simp [replaceF, hx, ih hl]

/-- A lookup splits the buffers at the entry that a write replaces. -/
theorem buffer_split {s : TrackedStream} {id : NonZeroU32} {b : TrackedBuffer}
    (h : s.buffer id = some b) :
    b.id = id ∧ ∃ l₁ l₂, s.buffers = l₁ ++ b :: l₂ ∧
      ∀ b', (s.setBuffer id b').buffers = l₁ ++ b' :: l₂ := by
  obtain ⟨hb, l₁, l₂, hs, hl⟩ := find?_eq_some_iff_append.1 h
  have hid : b.id = id := by simpa using hb
  have h₁ : ∀ x ∈ l₁, x.id ≠ id := by
    intro x hx
    simpa using hl x hx
  refine ⟨hid, l₁, l₂, hs, fun b' => ?_⟩
  rw [setBuffer, hs]
  exact replaceF_append b b' l₁ l₂ h₁ hid

end TrackedStream

/-- What holds of one tracked stream, active or retired. -/
structure StreamInv (s : TrackedStream) : Prop where
  ids_distinct : s.buffers.Pairwise fun x y => x.id ≠ y.id
  bounded : s.buffers.length ≤ s.capabilities.maxRegisteredBuffers.toNat
  one_queued : s.queuedCount ≤ 1
  names : ∀ b ∈ s.buffers, ∀ q, b.state.queue? = some q →
    q.streamId = s.info.streamId ∧ q.bufferId = b.id
  labels_distinct : s.buffers.Pairwise TrackedBuffer.LabelsDiffer

namespace StreamInv

variable {s : TrackedStream}

lemma empty (info : CaptureStreamInfo) (capabilities : CaptureCapabilities) :
    StreamInv ⟨info, capabilities, false, []⟩ where
  ids_distinct := Pairwise.nil
  bounded := Nat.zero_le _
  one_queued := Nat.zero_le _
  names := by simp
  labels_distinct := Pairwise.nil

lemma withStale (hi : StreamInv s) (stale : Bool) : StreamInv { s with stale } :=
  ⟨hi.ids_distinct, hi.bounded, hi.one_queued, hi.names, hi.labels_distinct⟩

/-- The client-side limit keeps the length far below a wrap of `len() as u32`. -/
lemma length_lt_of_ofNat_lt (hi : StreamInv s)
    (h : ¬ s.capabilities.maxRegisteredBuffers ≤ UInt32.ofNat s.buffers.length) :
    s.buffers.length < s.capabilities.maxRegisteredBuffers.toNat := by
  have hb := hi.bounded
  have hm := s.capabilities.maxRegisteredBuffers.toNat_lt
  rw [UInt32.le_iff_toNat_le, UInt32.toNat_ofNat'] at h
  have hmod : s.buffers.length % 2 ^ 32 = s.buffers.length := Nat.mod_eq_of_lt (by omega)
  omega

/-- Registering an idle buffer under a new identifier. -/
theorem append (hi : StreamInv s) {b : TrackedBuffer} (hidle : b.state = .Idle)
    (hnew : ∀ x ∈ s.buffers, x.id ≠ b.id)
    (hroom : s.buffers.length < s.capabilities.maxRegisteredBuffers.toNat) :
    StreamInv { s with buffers := s.buffers ++ [b] } where
  ids_distinct := by
    refine pairwise_append.2 ⟨hi.ids_distinct, by simp, ?_⟩
    intro x hx y hy
    obtain rfl := mem_singleton.1 hy
    exact hnew x hx
  bounded := by
    rw [length_append, length_singleton]
    exact hroom
  one_queued := by
    have hq := hi.one_queued
    simp only [TrackedStream.queuedCount, countP_append] at hq ⊢
    simpa [hidle, TrackedBufferState.public] using hq
  names := by
    intro x hx q hq
    rcases mem_append.1 hx with hx | hx
    · exact hi.names x hx q hq
    · obtain rfl := mem_singleton.1 hx
      simp [hidle, TrackedBufferState.queue?] at hq
  labels_distinct := by
    refine pairwise_append.2 ⟨hi.labels_distinct, by simp, ?_⟩
    intro x _ y hy p q _ hq
    obtain rfl := mem_singleton.1 hy
    simp [hidle, TrackedBufferState.queue?] at hq

lemma eraseIdx (hi : StreamInv s) (i : ℕ) :
    StreamInv { s with buffers := s.buffers.eraseIdx i } where
  ids_distinct := hi.ids_distinct.sublist (eraseIdx_sublist _ _)
  bounded := Nat.le_trans (eraseIdx_sublist s.buffers i).length_le hi.bounded
  one_queued := Nat.le_trans (eraseIdx_sublist s.buffers i).countP_le hi.one_queued
  names := fun b hb => hi.names b ((eraseIdx_sublist _ _).subset hb)
  labels_distinct := hi.labels_distinct.sublist (eraseIdx_sublist _ _)

/-- A write to one buffer. Its request must name the buffer; a label that the
buffer did not carry before must be new, and it may only become queued while
nothing is. -/
theorem setBuffer (hi : StreamInv s) {id : NonZeroU32} {b b' : TrackedBuffer}
    (hb : s.buffer id = some b) (hid : b'.id = b.id)
    (hname : ∀ q, b'.state.queue? = some q → q.streamId = s.info.streamId ∧ q.bufferId = id)
    (hlabel : ∀ q, b'.state.queue? = some q →
      b.state.queue?.map (·.userData) = some q.userData ∨
        ∀ x ∈ s.buffers, ∀ p, x.state.queue? = some p → p.userData ≠ q.userData)
    (hqueued : b'.state.public = .Queued → s.queuedCount = 0) :
    StreamInv (s.setBuffer id b') := by
  obtain ⟨hbid, l₁, l₂, hs, hset⟩ := TrackedStream.buffer_split hb
  have hids := hi.ids_distinct
  have hlabels := hi.labels_distinct
  have hlen := hi.bounded
  have hcount := hi.one_queued
  rw [hs, pairwise_append, pairwise_cons] at hids hlabels
  have hother : ∀ x, x ∈ l₁ ∨ x ∈ l₂ → x.LabelsDiffer b → x.LabelsDiffer b' := by
    intro x hx hxb p q hp hq
    rcases hlabel q hq with hold | hfresh
    · obtain ⟨q₀, hq₀, he⟩ := Option.map_eq_some_iff.1 hold
      rw [← he]
      exact hxb p q₀ hp hq₀
    · refine hfresh x ?_ p hp
      rw [hs]
      rcases hx with hx | hx <;> simp [hx]
  refine ⟨?_, ?_, ?_, ?_, ?_⟩
  · rw [hset, pairwise_append, pairwise_cons]
    refine ⟨hids.1, ⟨fun y hy => hid ▸ hids.2.1.1 y hy, hids.2.1.2⟩, ?_⟩
    intro x hx y hy
    rcases mem_cons.1 hy with rfl | hy
    · rw [hid]
      exact hids.2.2 x hx b (by simp)
    · exact hids.2.2 x hx y (by simp [hy])
  · rw [hset]
    rw [hs] at hlen
    simpa [TrackedStream.setBuffer] using hlen
  · simp only [TrackedStream.queuedCount, hset, hs, countP_append, countP_cons]
      at hcount hqueued ⊢
    by_cases hq : b'.state.public = .Queued
    · have hzero := hqueued hq
      simp only [hq, decide_true, if_true]
      omega
    · simp only [hq, decide_false, Bool.false_eq_true, if_false]
      omega
  · intro x hx q hq
    rw [hset] at hx
    rcases mem_append.1 hx with hx | hx
    · exact hi.names x (by simp [hs, hx]) q hq
    · rcases mem_cons.1 hx with rfl | hx
      · rw [hid, hbid]
        exact hname q hq
      · exact hi.names x (by simp [hs, hx]) q hq
  · rw [hset, pairwise_append, pairwise_cons]
    refine ⟨hlabels.1, ⟨fun y hy => ?_, hlabels.2.1.2⟩, ?_⟩
    · exact (hother y (.inr hy) (hlabels.2.1.1 y hy).symm).symm
    · intro x hx y hy
      rcases mem_cons.1 hy with rfl | hy
      · exact hother x (.inl hx) (hlabels.2.2 x hx b (by simp))
      · exact hlabels.2.2 x hx y (by simp [hy])

end StreamInv

/-- What holds of every reachable tracker. -/
structure TrackerInv (t : CaptureTracker) : Prop where
  exclusive : t.active = none ∨ t.retired = none
  retired_nonempty : ∀ s, t.retired = some s → s.buffers ≠ []
  active_inv : ∀ s, t.active = some s → StreamInv s
  retired_inv : ∀ s, t.retired = some s → StreamInv s

namespace TrackerInv

variable {t : CaptureTracker} {s s' : TrackedStream}

lemma empty : TrackerInv {} where
  exclusive := .inl rfl
  retired_nonempty := by simp
  active_inv := by simp
  retired_inv := by simp

/-- Replacing the active stream, or starting one while nothing is retired. -/
theorem setActive (hi : TrackerInv t) (hr : t.retired = none) (hs : StreamInv s) :
    TrackerInv { t with active := some s } where
  exclusive := .inr hr
  retired_nonempty := hi.retired_nonempty
  active_inv := by
    intro x hx
    obtain rfl := Option.some.inj hx
    exact hs
  retired_inv := hi.retired_inv

lemma retired_eq_none (hi : TrackerInv t) (ha : t.active = some s) : t.retired = none := by
  rcases hi.exclusive with h | h
  · simp [h] at ha
  · exact h

lemma active_eq_none (hi : TrackerInv t) (hr : t.retired = some s) : t.active = none := by
  rcases hi.exclusive with h | h
  · exact h
  · simp [h] at hr

lemma setRetired (hi : TrackerInv t) (hr : t.retired = some s) (hs : StreamInv s')
    (hne : s'.buffers ≠ []) : TrackerInv { t with retired := some s' } where
  exclusive := .inl (hi.active_eq_none hr)
  retired_nonempty := by
    intro x hx
    obtain rfl := Option.some.inj hx
    exact hne
  active_inv := hi.active_inv
  retired_inv := by
    intro x hx
    obtain rfl := Option.some.inj hx
    exact hs

lemma clearRetired (hi : TrackerInv t) : TrackerInv { t with retired := none } where
  exclusive := .inr rfl
  retired_nonempty := by simp
  active_inv := hi.active_inv
  retired_inv := by simp

lemma retireActive (hi : TrackerInv t) : TrackerInv t.retireActive.2 := by
  unfold CaptureTracker.retireActive
  split
  · exact hi
  · rename_i s ha
    split_ifs with hempty
    · exact ⟨.inl rfl, hi.retired_nonempty, by simp, hi.retired_inv⟩
    · refine ⟨.inl rfl, ?_, by simp, ?_⟩
      · intro x hx
        obtain rfl := Option.some.inj hx
        exact hempty
      · intro x hx
        obtain rfl := Option.some.inj hx
        exact hi.active_inv s ha

lemma markActiveStale (hi : TrackerInv t) (id : NonZeroU32) :
    TrackerInv (t.markActiveStale id) := by
  cases ha : t.active with
  | none =>
    have he : t.markActiveStale id = t := by
      cases t
      simp_all [CaptureTracker.markActiveStale]
    rw [he]
    exact hi
  | some s =>
    have hr := hi.retired_eq_none ha
    have hs := hi.active_inv s ha
    simp only [CaptureTracker.markActiveStale, ha, Option.map_some]
    split_ifs
    · exact hi.setActive hr (hs.withStale true)
    · exact hi.setActive hr hs

lemma stream_inv (hi : TrackerInv t) {id : NonZeroU32} (h : t.stream id = some s) :
    StreamInv s ∧ s.info.streamId = id := by
  simp only [CaptureTracker.stream, Option.or_eq_some_iff, Option.filter_eq_some_iff,
    decide_eq_true_eq] at h
  rcases h with ⟨ha, hid⟩ | ⟨-, hr, hid⟩
  · exact ⟨hi.active_inv s ha, hid⟩
  · exact ⟨hi.retired_inv s hr, hid⟩

/-- A write through `stream_mut` of a stream found under its identifier. -/
theorem setStream (hi : TrackerInv t) {id : NonZeroU32} (h : t.stream id = some s)
    (hs : StreamInv s') (hne : s.buffers ≠ [] → s'.buffers ≠ []) :
    TrackerInv (t.setStream id s') := by
  unfold CaptureTracker.setStream
  split_ifs with ha hr
  · cases hact : t.active with
    | none => simp [hact] at ha
    | some a => exact hi.setActive (hi.retired_eq_none hact) hs
  · simp only [CaptureTracker.stream, Option.or_eq_some_iff, Option.filter_eq_some_iff,
      decide_eq_true_eq] at h
    rcases h with ⟨hact, hid⟩ | ⟨-, hret, -⟩
    · simp [hact, hid] at ha
    · exact hi.setRetired hret hs (hne (hi.retired_nonempty s hret))
  · exact hi

end TrackerInv

end Pronk.Capture
