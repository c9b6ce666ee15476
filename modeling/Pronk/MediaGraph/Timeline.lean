import Mathlib.Data.Int.Notation
import Mathlib.Order.Lattice
import Pronk.Library.Fallible
import Pronk.Machine

/-!
# The timeline of a media generation

Audio and video are packetized independently. Each stream has its own media time, which
starts at zero, and both share the reference time of a segment. A source that restarts with
other timestamps begins a new segment.

A duration is a number of nanoseconds, and an instant one on the clock of the system, which
may be negative. A sum beyond the range of the source's type is `none`.
-/
namespace Pronk.MediaGraph

/-- 64 bits of seconds. -/
def DURATION_LIMIT : ℕ := 2 ^ 64 * 1000000000
/-- The seconds of an instant are signed. -/
def INSTANT_LIMIT : ℤ := 2 ^ 63 * 1000000000

def checkedAddDuration (a b : ℕ) : Option ℕ :=
  if a + b < DURATION_LIMIT then some (a + b) else none

def checkedAddInstant (instant : ℤ) (duration : ℕ) : Option ℤ :=
  if instant + duration < INSTANT_LIMIT then some (instant + duration) else none

def checkedSub (a b : UInt64) : Option ℕ :=
  if b ≤ a then some (a.toNat - b.toNat) else none

structure MediaGraphError where
  message : String

def okOr (value : Option α) (message : String) : Except MediaGraphError α :=
  match value with
  | some a => .ok a
  | none => .error ⟨message⟩

inductive MediaStreamKind where
  | Video
  | Audio
  deriving DecidableEq

def MediaStreamKind.name : MediaStreamKind → String
  | .Video => "video"
  | .Audio => "audio"

/-- The media time of one stream. -/
structure StreamTimeline where
  segmentPtsOrigin : UInt64
  (segmentMediaOrigin nextMediaTimestamp : ℕ)
  lastPts : Option UInt64

def StreamTimeline.new (ptsOrigin : UInt64) : StreamTimeline := ⟨ptsOrigin, 0, 0, none⟩

def StreamTimeline.reanchor (stream : StreamTimeline) (ptsOrigin : UInt64) : StreamTimeline :=
  { stream with
    segmentPtsOrigin := ptsOrigin
    segmentMediaOrigin := stream.nextMediaTimestamp
    lastPts := none }

def StreamTimeline.timed (stream : StreamTimeline) (pts : UInt64)
    (nextMediaTimestamp : ℕ) : StreamTimeline :=
  { stream with
    lastPts := some pts
    nextMediaTimestamp := max stream.nextMediaTimestamp nextMediaTimestamp }

/-- The segment and its streams. -/
structure GenerationMediaTimeline where
  segmentPtsOrigin : UInt64
  (segmentReferenceOrigin referenceTimeFloor : ℤ)
  video : StreamTimeline
  audio : Option StreamTimeline

/-- The earlier one of the two origins. -/
def generationPtsOrigin (videoPtsOrigin : UInt64) : Option UInt64 → UInt64
  | some audio => min audio videoPtsOrigin
  | none => videoPtsOrigin

namespace GenerationMediaTimeline

def new (videoPtsOrigin : UInt64) (audioPtsOrigin : Option UInt64)
    (generationReferenceOrigin : ℤ) : GenerationMediaTimeline where
  segmentPtsOrigin := generationPtsOrigin videoPtsOrigin audioPtsOrigin
  segmentReferenceOrigin := generationReferenceOrigin
  referenceTimeFloor := generationReferenceOrigin
  video := .new videoPtsOrigin
  audio := audioPtsOrigin.map .new

def reanchor (timeline : GenerationMediaTimeline) (videoPtsOrigin : UInt64)
    (audioPtsOrigin : Option UInt64) (referenceOrigin : ℤ) :
    Except MediaGraphError GenerationMediaTimeline :=
  if timeline.audio.isSome ≠ audioPtsOrigin.isSome then
    .error ⟨"audio presence changed while reanchoring a media generation"⟩
  else
    .ok
      { timeline with
        segmentPtsOrigin := generationPtsOrigin videoPtsOrigin audioPtsOrigin
        segmentReferenceOrigin := max referenceOrigin timeline.referenceTimeFloor
        video := timeline.video.reanchor videoPtsOrigin
        audio := match timeline.audio, audioPtsOrigin with
          | some audio, some origin => some (audio.reanchor origin)
          | audio, _ => audio }

def stream? (timeline : GenerationMediaTimeline) : MediaStreamKind → Option StreamTimeline
  | .Video => some timeline.video
  | .Audio => timeline.audio

def setStream (timeline : GenerationMediaTimeline) (kind : MediaStreamKind)
    (stream : StreamTimeline) : GenerationMediaTimeline :=
  match kind with
  | .Video => { timeline with video := stream }
  | .Audio => { timeline with audio := some stream }

def raiseFloor (timeline : GenerationMediaTimeline) (referenceTimeEnd : ℤ) :
    GenerationMediaTimeline :=
  { timeline with referenceTimeFloor := max timeline.referenceTimeFloor referenceTimeEnd }

def requireAdvance (kind : MediaStreamKind) (previous : Option UInt64) (pts : UInt64) :
    Except MediaGraphError Unit :=
  match previous with
  | none => .ok ()
  | some previous =>
    if pts ≤ previous then
      .error ⟨"encoded " ++ kind.name ++ " presentation timestamp did not advance from " ++
        toString previous ++ " to " ++ toString pts⟩
    else .ok ()

/-- The media timestamp and the reference time of a unit, with the timeline after it. -/
def timing (timeline : GenerationMediaTimeline) (kind : MediaStreamKind) (pts : UInt64)
    (duration : ℕ) :
    Except MediaGraphError ((ℕ × ℤ) × GenerationMediaTimeline) := do
  let stream ← okOr (timeline.stream? kind) "audio timing requested for a video-only generation"
  requireAdvance kind stream.lastPts pts
  let mediaElapsed ← okOr (checkedSub pts stream.segmentPtsOrigin)
    ("encoded " ++ kind.name ++ " timestamp precedes its stream anchor")
  let segmentElapsed ← okOr (checkedSub pts timeline.segmentPtsOrigin)
    ("encoded " ++ kind.name ++ " timestamp precedes its segment anchor")
  let mediaTimestamp ← okOr (checkedAddDuration stream.segmentMediaOrigin mediaElapsed)
    "encoded media timestamp overflowed"
  let referenceTime ← okOr (checkedAddInstant timeline.segmentReferenceOrigin segmentElapsed)
    "encoded media reference time overflowed"
  let nextMediaTimestamp ← okOr (checkedAddDuration mediaTimestamp duration)
    "encoded media end timestamp overflowed"
  let referenceTimeEnd ← okOr (checkedAddInstant referenceTime duration)
    "encoded media reference end time overflowed"
  .ok ((mediaTimestamp, referenceTime),
    (timeline.setStream kind (stream.timed pts nextMediaTimestamp)).raiseFloor referenceTimeEnd)

variable {timeline timeline' : GenerationMediaTimeline} {kind : MediaStreamKind}
  {stream : StreamTimeline} {pts : UInt64} {duration media : ℕ} {reference : ℤ}

lemma okOr_eq_ok {value : Option α} {message : String} {a : α} :
    okOr value message = .ok a ↔ value = some a := by
  cases value <;> simp [okOr]

lemma checkedSub_eq_some {a b : UInt64} {elapsed : ℕ} :
    checkedSub a b = some elapsed ↔ b.toNat ≤ a.toNat ∧ a.toNat - b.toNat = elapsed := by
  simp only [checkedSub, UInt64.le_iff_toNat_le]
  split_ifs with h <;> simp [h]

lemma requireAdvance_eq_ok {previous : Option UInt64} :
    requireAdvance kind previous pts = .ok () ↔
      ∀ last, previous = some last → last.toNat < pts.toNat := by
  cases previous with
  | none => simp [requireAdvance]
  | some last =>
    simp only [requireAdvance, UInt64.le_iff_toNat_le]
    split_ifs with h
    · simpa using h
    · simpa using h

lemma stream?_setStream (kind' : MediaStreamKind) :
    (timeline.setStream kind stream).stream? kind' =
      if kind' = kind then some stream else timeline.stream? kind' := by
  cases kind <;> cases kind' <;> rfl

@[simp] lemma stream?_raiseFloor (time : ℤ) :
    (timeline.raiseFloor time).stream? kind = timeline.stream? kind := by
  cases kind <;> rfl

@[simp] lemma setStream_segmentPtsOrigin :
    (timeline.setStream kind stream).segmentPtsOrigin = timeline.segmentPtsOrigin := by
  cases kind <;> rfl

@[simp] lemma setStream_segmentReferenceOrigin :
    (timeline.setStream kind stream).segmentReferenceOrigin =
      timeline.segmentReferenceOrigin := by
  cases kind <;> rfl

@[simp] lemma setStream_referenceTimeFloor :
    (timeline.setStream kind stream).referenceTimeFloor = timeline.referenceTimeFloor := by
  cases kind <;> rfl

/-- A reanchored segment starts where everything before it has ended. -/
theorem reanchor_eq_ok {videoPtsOrigin : UInt64} {audioPtsOrigin : Option UInt64}
    (h : timeline.reanchor videoPtsOrigin audioPtsOrigin reference = .ok timeline') :
    timeline'.referenceTimeFloor = timeline.referenceTimeFloor ∧
    timeline.referenceTimeFloor ≤ timeline'.segmentReferenceOrigin ∧
    ∀ kind stream, timeline.stream? kind = some stream →
      ∃ origin, timeline'.stream? kind = some (stream.reanchor origin) := by
  simp only [reanchor] at h
  split_ifs at h with haudio
  obtain rfl := Except.ok.inj h
  refine ⟨rfl, le_max_right _ _, ?_⟩
  intro kind stream hstream
  cases kind with
  | Video =>
    obtain rfl := Option.some.inj hstream
    exact ⟨videoPtsOrigin, rfl⟩
  | Audio =>
    have haudio' : timeline.audio = some stream := hstream
    cases audioPtsOrigin with
    | none => simp [haudio'] at haudio
    | some origin => exact ⟨origin, by simp [stream?, haudio']⟩

/-- Every condition on a unit that is timed, its times, and the timeline after it. -/
theorem timing_eq_ok
    (h : timeline.timing kind pts duration = .ok ((media, reference), timeline')) :
    ∃ stream, timeline.stream? kind = some stream ∧
      (∀ last, stream.lastPts = some last → last.toNat < pts.toNat) ∧
      stream.segmentPtsOrigin.toNat ≤ pts.toNat ∧
      timeline.segmentPtsOrigin.toNat ≤ pts.toNat ∧
      media = stream.segmentMediaOrigin + (pts.toNat - stream.segmentPtsOrigin.toNat) ∧
      reference = timeline.segmentReferenceOrigin +
        ((pts.toNat - timeline.segmentPtsOrigin.toNat : ℕ) : ℤ) ∧
      timeline' = (timeline.setStream kind (stream.timed pts (media + duration))).raiseFloor
        (reference + duration) := by
  simp only [timing, Fallible.bind_eq_ok, okOr_eq_ok, checkedSub_eq_some,
    checkedAddDuration, checkedAddInstant, Option.ite_none_right_eq_some] at h
  obtain ⟨stream, hstream, ⟨⟩, hadvance, _, ⟨hmedia, rfl⟩, _, ⟨hsegment, rfl⟩, _,
    ⟨-, hmediaTime⟩, _, ⟨-, hreference⟩, _, ⟨-, hnext⟩, _, ⟨-, hend⟩, h⟩ := h
  simp only [Option.some.injEq] at hmediaTime hreference hnext hend
  simp only [Except.ok.injEq, Prod.mk.injEq] at h
  obtain ⟨⟨rfl, rfl⟩, rfl⟩ := h
  subst hnext hend
  exact ⟨stream, hstream, requireAdvance_eq_ok.1 hadvance, hmedia, hsegment,
    hmediaTime.symm, hreference.symm, rfl⟩

end GenerationMediaTimeline

end Pronk.MediaGraph
