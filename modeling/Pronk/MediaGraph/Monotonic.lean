import Mathlib.Data.List.Pairwise
import Mathlib.Order.MinMax
import Pronk.Library.Transition
import Pronk.MediaGraph.Timeline

/-!
# Media and reference time never go back

A run of calls of one generation is recorded with the units that it timed. Whatever the
origins of the segments are, the times of the units are ordered as the calls were.
-/
namespace Pronk.MediaGraph

open Transition GenerationMediaTimeline

inductive TimelineCall where
  | timing (kind : MediaStreamKind) (pts : UInt64) (duration : ℕ)
  | reanchor (videoPtsOrigin : UInt64) (audioPtsOrigin : Option UInt64)
      (referenceOrigin : ℤ)

def TimelineCall.PositiveDuration : TimelineCall → Prop
  | .timing _ _ duration => 0 < duration
  | .reanchor .. => True

instance : DecidablePred TimelineCall.PositiveDuration := fun call => by
  cases call <;> unfold TimelineCall.PositiveDuration <;> infer_instance

/-- A successful call of `timing`, in the segment of that number. -/
structure TimedUnit where
  segment : ℕ
  kind : MediaStreamKind
  pts : UInt64
  (duration media : ℕ)
  reference : ℤ

structure TimelineRun where
  timeline : GenerationMediaTimeline
  /-- The number of successful calls of `reanchor`. -/
  segment : ℕ
  units : List TimedUnit

namespace TimelineRun

def start (videoPtsOrigin : UInt64) (audioPtsOrigin : Option UInt64)
    (generationReferenceOrigin : ℤ) : TimelineRun :=
  ⟨.new videoPtsOrigin audioPtsOrigin generationReferenceOrigin, 0, []⟩

/-- A call that fails leaves the timeline as it was. -/
def call (run : TimelineRun) : TimelineCall → TimelineRun
  | .timing kind pts duration =>
    match run.timeline.timing kind pts duration with
    | .ok ((media, reference), timeline) =>
      { run with
        timeline
        units := run.units ++ [⟨run.segment, kind, pts, duration, media, reference⟩] }
    | .error _ => run
  | .reanchor videoPtsOrigin audioPtsOrigin referenceOrigin =>
    match run.timeline.reanchor videoPtsOrigin audioPtsOrigin referenceOrigin with
    | .ok timeline => { run with timeline, segment := run.segment + 1 }
    | .error _ => run

def machine : Machine TimelineRun TimelineCall where
  next run call := some (run.call call)

/-- The calls of a generation whose units all last some time. -/
def generation : Machine TimelineRun TimelineCall :=
  machine.guard fun _ call => call.PositiveDuration

end TimelineRun

namespace TimedUnit

/-- How the times of a unit relate to those of a later one. -/
structure Before (u v : TimedUnit) : Prop where
  segment_le : u.segment ≤ v.segment
  media_lt : u.kind = v.kind → u.media < v.media
  reference_lt : u.kind = v.kind → u.reference < v.reference
  media_end_le : u.segment < v.segment → u.kind = v.kind → u.media + u.duration ≤ v.media
  reference_end_le : u.segment < v.segment → u.reference + u.duration ≤ v.reference
  reference_sub : u.segment = v.segment →
    v.reference - u.reference = (v.pts.toNat : ℤ) - u.pts.toNat

/-- What the stream of a timed unit keeps of it. -/
structure InStream (u : TimedUnit) (segment : ℕ) (stream : StreamTimeline) : Prop where
  end_le_next : u.media + u.duration ≤ stream.nextMediaTimestamp
  end_le_origin : u.segment < segment → u.media + u.duration ≤ stream.segmentMediaOrigin
  anchored : u.segment = segment →
    stream.segmentPtsOrigin.toNat ≤ u.pts.toNat ∧
    u.media = stream.segmentMediaOrigin + (u.pts.toNat - stream.segmentPtsOrigin.toNat)
  last : u.segment = segment → ∃ last, stream.lastPts = some last ∧ u.pts.toNat ≤ last.toNat

/-- What the timeline keeps of a unit it has timed. -/
structure Past (u : TimedUnit) (segment : ℕ) (timeline : GenerationMediaTimeline) : Prop where
  segment_le : u.segment ≤ segment
  positive : 0 < u.duration
  end_le_floor : u.reference + u.duration ≤ timeline.referenceTimeFloor
  end_le_origin : u.segment < segment →
    u.reference + u.duration ≤ timeline.segmentReferenceOrigin
  anchored : u.segment = segment →
    timeline.segmentPtsOrigin.toNat ≤ u.pts.toNat ∧
    u.reference = timeline.segmentReferenceOrigin +
      ((u.pts.toNat - timeline.segmentPtsOrigin.toNat : ℕ) : ℤ)
  stream : ∃ stream, timeline.stream? u.kind = some stream ∧ u.InStream segment stream

variable {u v : TimedUnit} {segment : ℕ} {timeline timeline' : GenerationMediaTimeline}
  {stream : StreamTimeline} {kind : MediaStreamKind} {pts : UInt64}
  {duration media : ℕ} {reference : ℤ}

lemma InStream.reanchor (h : u.InStream segment stream) (hle : u.segment ≤ segment)
    (origin : UInt64) : u.InStream (segment + 1) (stream.reanchor origin) where
  end_le_next := h.end_le_next
  end_le_origin _ := h.end_le_next
  anchored heq := by omega
  last heq := by omega

/-- A new segment begins at the ends of all the units before it. -/
lemma Past.reanchor {videoPtsOrigin : UInt64} {audioPtsOrigin : Option UInt64}
    (h : u.Past segment timeline)
    (hcall : timeline.reanchor videoPtsOrigin audioPtsOrigin reference = .ok timeline') :
    u.Past (segment + 1) timeline' := by
  obtain ⟨hfloor, horigin, hstreams⟩ := reanchor_eq_ok hcall
  have hle := h.segment_le
  have hend := h.end_le_floor
  obtain ⟨stream, hstream, hin⟩ := h.stream
  obtain ⟨origin, hstream'⟩ := hstreams _ _ hstream
  constructor
  · omega
  · exact h.positive
  · rw [hfloor]
    exact hend
  · intro _
    exact hend.trans horigin
  · intro heq
    omega
  · exact ⟨_, hstream', hin.reanchor hle origin⟩

lemma InStream.timed (h : u.InStream segment stream)
    (hadvance : ∀ last, stream.lastPts = some last → last.toNat < pts.toNat)
    (next : ℕ) : u.InStream segment (stream.timed pts next) where
  end_le_next := le_max_of_le_left h.end_le_next
  end_le_origin := h.end_le_origin
  anchored := h.anchored
  last heq := by
    obtain ⟨last, hlast, hle⟩ := h.last heq
    exact ⟨pts, rfl, hle.trans (hadvance last hlast).le⟩

lemma Past.timing (h : u.Past segment timeline)
    (hcall : timeline.timing kind pts duration = .ok ((media, reference), timeline')) :
    u.Past segment timeline' := by
  obtain ⟨stream, hstream, hadvance, -, -, -, -, rfl⟩ := timing_eq_ok hcall
  constructor
  · exact h.segment_le
  · exact h.positive
  · exact le_max_of_le_left (by simpa using h.end_le_floor)
  · simpa [raiseFloor] using h.end_le_origin
  · simpa [raiseFloor] using h.anchored
  · obtain ⟨own, hown, hin⟩ := h.stream
    by_cases hkind : u.kind = kind
    · have heq : own = stream := Option.some.inj (hown.symm.trans (hkind ▸ hstream))
      subst heq
      exact ⟨own.timed pts (media + duration), by simp [stream?_setStream, hkind],
        hin.timed hadvance _⟩
    · exact ⟨own, by simpa [stream?_setStream, hkind] using hown, hin⟩

lemma Past.of_timing (hpositive : 0 < duration)
    (hcall : timeline.timing kind pts duration = .ok ((media, reference), timeline')) :
    Past ⟨segment, kind, pts, duration, media, reference⟩ segment timeline' := by
  obtain ⟨stream, -, -, horigin, hsegment, hmedia, hreference, rfl⟩ := timing_eq_ok hcall
  constructor
  · exact le_rfl
  · exact hpositive
  · exact le_max_right _ _
  · intro hlt
    exact absurd hlt (lt_irrefl _)
  · intro _
    simpa [raiseFloor] using And.intro hsegment hreference
  · refine ⟨stream.timed pts (media + duration), by simp [stream?_setStream], ?_⟩
    constructor
    · exact le_max_right _ _
    · intro hlt
      exact absurd hlt (lt_irrefl _)
    · intro _
      exact ⟨horigin, hmedia⟩
    · intro _
      exact ⟨pts, rfl, le_rfl⟩

/-- The unit that is timed next comes after every unit that the timeline keeps. -/
lemma Past.before (h : u.Past segment timeline)
    (hcall : timeline.timing kind pts duration = .ok ((media, reference), timeline')) :
    u.Before ⟨segment, kind, pts, duration, media, reference⟩ := by
  obtain ⟨stream, hstream, hadvance, horigin, hsegment, hmedia, hreference, -⟩ :=
    timing_eq_ok hcall
  have hpositive := h.positive
  obtain ⟨own, hown, hin⟩ := h.stream
  have hsame : u.kind = kind → own = stream := by
    intro hkind
    exact Option.some.inj (hown.symm.trans (hkind ▸ hstream))
  -- In an earlier segment the unit ended before the origins of this one.
  have hmediaEnd : u.segment < segment → u.kind = kind → u.media + u.duration ≤ media := by
    intro hlt hkind
    have := hin.end_le_origin hlt
    rw [hsame hkind] at this
    omega
  have hreferenceEnd : u.segment < segment → u.reference + u.duration ≤ reference := by
    intro hlt
    have := h.end_le_origin hlt
    omega
  -- In this segment the times differ as the timestamps do.
  have hsub : u.segment = segment →
      reference - u.reference = (pts.toNat : ℤ) - u.pts.toNat := by
    intro heq
    obtain ⟨hle, href⟩ := h.anchored heq
    omega
  have hpts : u.segment = segment → u.kind = kind → u.pts.toNat < pts.toNat := by
    intro heq hkind
    obtain ⟨last, hlast, hle⟩ := hin.last heq
    have := hadvance last (hsame hkind ▸ hlast)
    omega
  have hcases := h.segment_le.lt_or_eq
  constructor
  · exact h.segment_le
  · intro hkind
    rcases hcases with hlt | heq
    · have := hmediaEnd hlt hkind
      show u.media < media
      omega
    · obtain ⟨hle, hown⟩ := hin.anchored heq
      have := hpts heq hkind
      rw [hsame hkind] at hle hown
      show u.media < media
      omega
  · intro hkind
    show u.reference < reference
    rcases hcases with hlt | heq
    · have := hreferenceEnd hlt
      omega
    · have := hsub heq
      have := hpts heq hkind
      omega
  · exact hmediaEnd
  · exact hreferenceEnd
  · exact hsub

end TimedUnit

namespace TimelineRun

open TimedUnit

/-- The units lie behind the timeline, each one behind the next. -/
structure Ordered (run : TimelineRun) : Prop where
  past : ∀ u ∈ run.units, u.Past run.segment run.timeline
  before : run.units.Pairwise Before

lemma ordered_start (videoPtsOrigin : UInt64) (audioPtsOrigin : Option UInt64)
    (reference : ℤ) : (start videoPtsOrigin audioPtsOrigin reference).Ordered :=
  ⟨by simp [start], List.Pairwise.nil⟩

lemma Ordered.timing {run : TimelineRun} {kind : MediaStreamKind} {pts : UInt64}
    {duration : ℕ} (h : run.Ordered) (hpositive : 0 < duration) :
    (run.call (.timing kind pts duration)).Ordered := by
  simp only [call]
  split
  · next media reference timeline hcall =>
    constructor
    · intro u hu
      rcases List.mem_append.1 hu with hu | hu
      · exact (h.past u hu).timing hcall
      · rw [List.mem_singleton.1 hu]
        exact Past.of_timing hpositive hcall
    · rw [List.pairwise_append]
      refine ⟨h.before, List.pairwise_singleton _ _, ?_⟩
      intro u hu v hv
      rw [List.mem_singleton.1 hv]
      exact (h.past u hu).before hcall
  · exact h

lemma Ordered.reanchor {run : TimelineRun} {videoPtsOrigin : UInt64}
    {audioPtsOrigin : Option UInt64} {reference : ℤ} (h : run.Ordered) :
    (run.call (.reanchor videoPtsOrigin audioPtsOrigin reference)).Ordered := by
  simp only [call]
  split
  · next timeline hcall =>
    constructor
    · intro u hu
      exact (h.past u hu).reanchor hcall
    · exact h.before
  · exact h

/-- Whatever is called, and with whatever origins: of any two units of a run the earlier one
also comes first in media time and in reference time. -/
theorem units_in_order {videoPtsOrigin : UInt64} {audioPtsOrigin : Option UInt64}
    {generationReferenceOrigin : ℤ} {run : TimelineRun}
    (h : generation.Reach
      (start videoPtsOrigin audioPtsOrigin generationReferenceOrigin) run) :
    run.units.Pairwise Before := by
  have hordered : run.Ordered := by
    refine h.invariant (ordered_start _ _ _) ?_
    intro run call run' hrun hnext
    obtain ⟨hpositive, hnext⟩ := Machine.guard_next.1 hnext
    obtain rfl := Option.some.inj hnext
    cases call with
    | timing kind pts duration => exact hrun.timing hpositive
    | reanchor videoPtsOrigin audioPtsOrigin reference => exact hrun.reanchor
  exact hordered.before

/-- The source restarts with earlier timestamps and an earlier reference time. -/
def restartedCalls : List TimelineCall :=
  [.timing .Audio 1000 20, .timing .Video 1020 20, .timing .Audio 1040 20,
    .reanchor 10 (some 0) (-5), .timing .Video 10 20, .timing .Audio 5 20]

theorem units_in_order_restarted :
    ∃ run, generation.run (start 1020 (some 1000) 0) restartedCalls = some run ∧
      (run.units.map fun unit => (unit.media, unit.reference)) =
        [(0, 0), (0, 20), (40, 40), (20, 70), (65, 65)] ∧
      run.units.Pairwise Before :=
  ⟨_, rfl, by decide +kernel, units_in_order ⟨restartedCalls, rfl⟩⟩

end TimelineRun

end Pronk.MediaGraph
