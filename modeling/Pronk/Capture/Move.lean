import Pronk.Capture.Invariant

/-!
# What one operation can do to the tracker

`Move t e t'` lists every change of the tracker with the guard under which the
operations make it. The effect `e` is what a caller sees of the change: a
registration, an accepted request or a release. Every invariant of the tracker
is proved from this relation.
-/
namespace Pronk.Capture
open CastKms TrackedStream

/-- What an operation registered, queued or released. -/
inductive Effect where
  | none
  | registered (info : CaptureBufferInfo)
  | queued (queue : CaptureQueue)
  | released (release : CaptureRelease)
  deriving DecidableEq

/-- The changes that operations make to the tracker. -/
inductive Move : CaptureTracker → Effect → CaptureTracker → Prop
  | keep (t : CaptureTracker) : Move t .none t
  | start {t : CaptureTracker} (info : CaptureStreamInfo) (capabilities : CaptureCapabilities)
      (hactive : t.active = none) (hretired : t.retired = none) :
      Move t .none { t with active := some ⟨info, capabilities, false, []⟩ }
  | stale (t : CaptureTracker) (streamId : NonZeroU32) : Move t .none (t.markActiveStale streamId)
  | retire (t : CaptureTracker) : Move t .none t.retireActive.2
  | register {t : CaptureTracker} {s : TrackedStream} (b : TrackedBuffer)
      (hactive : t.active = some s)
      (hroom : ¬ s.capabilities.maxRegisteredBuffers ≤ UInt32.ofNat s.buffers.length)
      (hnew : ∀ x ∈ s.buffers, x.id ≠ b.id) (hidle : b.state = .Idle)
      (hready : b.nextReadyPoint = 1) (hrelease : b.lastReleasePoint = 0) :
      Move t (.registered (b.info s.info.streamId))
        { t with active := some { s with buffers := s.buffers ++ [b] } }
  | unregister {t : CaptureTracker} {s : TrackedStream} (i : ℕ) (hactive : t.active = some s) :
      Move t .none { t with active := some { s with buffers := s.buffers.eraseIdx i } }
  | queue {t : CaptureTracker} {s : TrackedStream} {id : NonZeroU32} {b : TrackedBuffer}
      {points : QueuePoints} (userData : NonZeroU64) (hactive : t.active = some s)
      (hcapacity : s.hasCaptureQueueCapacity)
      (hlabel : ∀ x ∈ s.buffers, ∀ q, x.state.queue? = some q → q.userData ≠ userData)
      (hbuffer : s.buffer id = some b) (hidle : b.state = .Idle)
      (hpoints : queuePoints b = .ok points) :
      Move t (.queued ⟨s.info.streamId, id, userData, points.ready, points.reuse⟩)
        { t with active := some (s.setBuffer id
          { b with nextReadyPoint := points.nextReady.getD b.nextReadyPoint,
                   state := .Queued ⟨s.info.streamId, id, userData, points.ready,
                     points.reuse⟩ }) }
  | complete {t : CaptureTracker} {s : TrackedStream} {streamId id : NonZeroU32}
      {b : TrackedBuffer} {q : CaptureQueue} (frame : CaptureFrameEvent) (stale : Bool)
      (hstream : t.stream streamId = some s) (hbuffer : s.buffer id = some b)
      (hqueued : b.state = .Queued q) :
      Move t .none (t.setStream streamId
        { s.setBuffer id { b with state := .Completed ⟨q, frame⟩ } with stale })
  | take {t : CaptureTracker} {s : TrackedStream} {streamId id : NonZeroU32} {b : TrackedBuffer}
      {c : CaptureCompletion} (hstream : t.stream streamId = some s)
      (hbuffer : s.buffer id = some b) (hcompleted : b.state = .Completed c) :
      Move t .none (t.setStream streamId (s.setBuffer id { b with state := .ConsumerOwned c }))
  | release {t : CaptureTracker} {s : TrackedStream} {streamId id : NonZeroU32}
      {b : TrackedBuffer} {c : CaptureCompletion} {point : Option NonZeroU64}
      (hstream : t.stream streamId = some s) (hbuffer : s.buffer id = some b)
      (howned : b.state = .ConsumerOwned c) (hpoint : nextReusePoint b = .ok point) :
      Move t (.released ⟨streamId, id, point⟩) (t.setStream streamId (s.setBuffer id
        { b with lastReleasePoint := point.elim b.lastReleasePoint NonZeroU64.get,
                 state := .Idle }))
  | cancel {t : CaptureTracker} {s : TrackedStream} {id : NonZeroU32} {b : TrackedBuffer}
      {q : CaptureQueue} (hretired : t.retired = some s) (hbuffer : s.buffer id = some b)
      (hqueued : b.state = .Queued q) :
      Move t .none { t with retired := some (s.setBuffer id { b with state := .Idle }) }
  | finish (t : CaptureTracker) : Move t .none { t with retired := none }

lemma TrackedStream.setBuffer_ne_nil {s : TrackedStream} {id : NonZeroU32}
    {b : TrackedBuffer} (h : s.buffer id = some b) (b' : TrackedBuffer) :
    (s.setBuffer id b').buffers ≠ [] := by
  obtain ⟨-, l₁, l₂, -, hset⟩ := buffer_split h
  rw [hset]
  simp

lemma TrackedStream.mem_of_buffer {s : TrackedStream} {id : NonZeroU32} {b : TrackedBuffer}
    (h : s.buffer id = some b) : b ∈ s.buffers := by
  obtain ⟨-, l₁, l₂, hs, -⟩ := buffer_split h
  simp [hs]

namespace StreamInv

variable {s : TrackedStream} {id : NonZeroU32} {b : TrackedBuffer}

/-- A write replaces the one buffer with its identifier. -/
theorem mem_setBuffer (hi : StreamInv s) (hb : s.buffer id = some b)
    {x b' : TrackedBuffer}
    (hx : x ∈ (s.setBuffer id b').buffers) : x = b' ∨ x ∈ s.buffers ∧ x.id ≠ id := by
  obtain ⟨hid, l₁, l₂, hs, hset⟩ := buffer_split hb
  have hd := hi.ids_distinct
  rw [hs, List.pairwise_append, List.pairwise_cons] at hd
  rw [hset] at hx
  rcases List.mem_append.1 hx with hx | hx
  · exact .inr ⟨by simp [hs, hx], hid ▸ hd.2.2 x hx b (by simp)⟩
  · rcases List.mem_cons.1 hx with rfl | hx
    · exact .inl rfl
    · exact .inr ⟨by simp [hs, hx], fun h => hd.2.1.1 x hx (hid.trans h.symm)⟩

/-- The buffer moves on with the request it already carries. -/
theorem carry (hi : StreamInv s) (hb : s.buffer id = some b) (state : TrackedBufferState)
    (hsame : state.queue? = b.state.queue?) (hq : state.public ≠ .Queued) :
    StreamInv (s.setBuffer id { b with state }) := by
  obtain ⟨hid, -⟩ := buffer_split hb
  refine hi.setBuffer hb rfl ?_ ?_ fun h => absurd h hq
  · intro q hs
    have hn := hi.names b (mem_of_buffer hb) q (hsame ▸ hs)
    exact ⟨hn.1, hn.2.trans hid⟩
  · intro q hs
    left
    rw [← hsame, hs]
    rfl

/-- The buffer gives up its request. -/
theorem idle (hi : StreamInv s) (hb : s.buffer id = some b) {b' : TrackedBuffer}
    (hid : b'.id = b.id) (hidle : b'.state = .Idle) : StreamInv (s.setBuffer id b') := by
  refine hi.setBuffer hb hid ?_ ?_ ?_ <;>
    simp [hidle, TrackedBufferState.queue?, TrackedBufferState.public]

end StreamInv

/-- Every move keeps the ownership invariant. -/
theorem Move.inv {t t' : CaptureTracker} {e : Effect} (hm : Move t e t') (hi : TrackerInv t) :
    TrackerInv t' := by
  cases hm with
  | keep => exact hi
  | start info capabilities hactive hretired => exact hi.setActive hretired (.empty _ _)
  | stale streamId => exact hi.markActiveStale streamId
  | retire => exact hi.retireActive
  | register b hactive hroom hnew hidle _ _ =>
    have hs := hi.active_inv _ hactive
    have hr := hi.retired_eq_none hactive
    exact hi.setActive hr (hs.append hidle hnew (hs.length_lt_of_ofNat_lt hroom))
  | unregister i hactive =>
    exact hi.setActive (hi.retired_eq_none hactive) ((hi.active_inv _ hactive).eraseIdx i)
  | queue userData hactive hcapacity hlabel hbuffer hidle hpoints =>
    have hs := hi.active_inv _ hactive
    refine hi.setActive (hi.retired_eq_none hactive) (hs.setBuffer hbuffer rfl ?_ ?_ ?_)
    · intro q hq
      obtain rfl := Option.some.inj hq
      exact ⟨rfl, rfl⟩
    · intro q hq
      obtain rfl := Option.some.inj hq
      exact .inr hlabel
    · intro _
      have hcount : queuedCount _ < MAX_OUTSTANDING_CAPTURE_REQUESTS :=
        of_decide_eq_true hcapacity
      exact Nat.lt_one_iff.1 hcount
  | complete frame stale hstream hbuffer hqueued =>
    obtain ⟨hs, -⟩ := hi.stream_inv hstream
    have hc := hs.carry hbuffer (.Completed ⟨_, frame⟩)
      (by rw [hqueued]; rfl) (by simp [TrackedBufferState.public])
    exact hi.setStream hstream (hc.withStale stale)
      fun _ => setBuffer_ne_nil hbuffer _
  | take hstream hbuffer hcompleted =>
    obtain ⟨hs, -⟩ := hi.stream_inv hstream
    have hc := hs.carry hbuffer (.ConsumerOwned _)
      (by rw [hcompleted]; rfl) (by simp [TrackedBufferState.public])
    exact hi.setStream hstream hc fun _ => setBuffer_ne_nil hbuffer _
  | release hstream hbuffer howned hpoint =>
    obtain ⟨hs, -⟩ := hi.stream_inv hstream
    exact hi.setStream hstream (hs.idle hbuffer rfl rfl)
      fun _ => setBuffer_ne_nil hbuffer _
  | cancel hretired hbuffer hqueued =>
    exact hi.setRetired hretired ((hi.retired_inv _ hretired).idle hbuffer rfl rfl)
      (setBuffer_ne_nil hbuffer _)
  | finish => exact hi.clearRetired

end Pronk.Capture
