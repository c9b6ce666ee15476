import Pronk.Library.Dependent
import Pronk.MediaGraph.PullLoop

/-!
# Frames that the queue of the appsink discards

The queue discards frames without a word. Before the key frame of a segment this does no harm,
because the worker then skips every delta. Afterwards it hands over whatever it finds, so a
delta follows the gap, unless the oldest frame that the queue still has is a key frame.
-/
namespace Pronk.MediaGraph
open Transition VideoSample

/-- Every delta comes right behind the frame that the encoder produced before it. -/
def Decodable (handed : List VideoSample) : Prop :=
  ∀ sample ∈ handed, sample.dependency = .Delta →
    ∃ before ∈ handed, before.serial + 1 = sample.serial

instance (handed : List VideoSample) : Decidable (Decodable handed) :=
  List.decidableBAll _ handed

/-- From one on, so that the first frame has no predecessor. -/
def VideoSample.number (sample : VideoSample) : ℕ := sample.serial + 1

namespace GStreamerGraph

/-- The frame that the next call of the worker takes through the timeline. -/
def upcoming (graph : GStreamerGraph) : Option VideoSample :=
  match graph.phase with
  | .pendingVideo => graph.pendingVideo
  | .video => graph.appSink.head?
  | _ => none

/-- The frames are timestamped: the timeline has a place for each. -/
def Timestamped (graph : GStreamerGraph) : GraphInput → Prop
  | .advance .. => ∀ sample ∈ graph.upcoming, ∀ timeline ∈ graph.timeline,
      (timeline.timing .Video sample.pts sample.duration).isOk = true
  | _ => True

/-- A frame that arrives does not make the queue discard one, or it does so while no key frame
of the segment has been found, or a key frame is the oldest one then. -/
def NoGap (graph : GStreamerGraph) : GraphInput → Prop
  | .video dependency .. =>
    graph.appSink.length < RAW_QUEUE_BUFFERS ∨
      (graph.needsSegmentKeyFrame = true ∧ graph.pendingVideo = none) ∨
      (graph.appSink.tail.map (·.dependency) ++ [dependency]).head? = some .KeyFrame
  | _ => True

instance (graph : GStreamerGraph) : (input : GraphInput) → Decidable (graph.Timestamped input)
  | .advance .. => inferInstanceAs (Decidable (∀ sample ∈ graph.upcoming, _))
  | .video .. | .audio .. | .poll | .suspend | .resume | .stop | .output .. =>
    inferInstanceAs (Decidable True)

instance (graph : GStreamerGraph) : (input : GraphInput) → Decidable (graph.NoGap input)
  | .video .. => inferInstanceAs (Decidable (_ ∨ (_ ∧ _) ∨ _))
  | .audio .. | .poll | .advance .. | .suspend | .resume | .stop | .output .. =>
    inferInstanceAs (Decidable True)

/-! ## What has been taken from the queue -/

/-- The frames that were handed over, and the one that is held back. -/
def taken (graph : GStreamerGraph) : List VideoSample :=
  graph.handed ++ graph.pendingVideo.toList

/-- The number of the oldest frame in the queue, or of the next one. -/
def oldest (graph : GStreamerGraph) : ℕ := graph.produced - graph.appSink.length + 1

def KeyFirst : List VideoSample → Prop
  | [] => False
  | sample :: _ => ¬ sample.IsDelta

/-- What the worker knows in a phase. -/
def Admits (graph : GStreamerGraph) : PullPhase → Prop
  | .idle => True
  | .anchor | .anchorAudio | .reanchor => graph.needsSegmentKeyFrame = true
  | .pendingVideo => graph.timeline.isSome = true ∧ graph.timelineNeedsReanchor = false
  | .pendingAudio | .video | .audio => graph.needsSegmentKeyFrame = false

/-- The queue goes on where the frames that were taken end, unless the worker waits for a key
frame or finds one at the head. -/
structure Sound (graph : GStreamerGraph) : Prop where
  length_le : graph.appSink.length ≤ graph.produced
  consecutive : Dependent.Consecutive number graph.oldest graph.appSink
  gapless : Dependent.Gapless number IsDelta 0 graph.taken
  behind : Dependent.next number 0 graph.taken ≤ graph.oldest
  held : ∀ key, graph.pendingVideo = some key →
    graph.needsSegmentKeyFrame = true ∧ ¬ key.IsDelta
  linked : (graph.needsSegmentKeyFrame = true → graph.pendingVideo ≠ none) →
    Dependent.next number 0 graph.taken = graph.oldest ∨ KeyFirst graph.appSink
  anchored : graph.needsSegmentKeyFrame = false →
    graph.timeline.isSome = true ∧ graph.timelineNeedsReanchor = false
  waiting : graph.needsSegmentKeyFrame = true → graph.pendingVideo = none →
    graph.timeline.isSome = false ∨ graph.timelineNeedsReanchor = true
  phase : graph.Admits graph.phase

variable {graph graph' : GStreamerGraph} {sample : VideoSample} {rest : List VideoSample}

attribute [local grind =] taken oldest KeyFirst Admits number IsDelta
  Dependent.next_append Dependent.next_concat Dependent.gapless_append Dependent.Gapless
  Dependent.next_nil Dependent.Consecutive finish goOn Option.isNone_iff_eq_none
  Option.isSome_iff_ne_none

/-! ## Steps of the video branch -/

lemma Sound.move (h : graph.Sound) (hsink : graph'.appSink = graph.appSink)
    (hproduced : graph'.produced = graph.produced) (hhanded : graph'.handed = graph.handed)
    (hpending : graph'.pendingVideo = graph.pendingVideo)
    (hneeds : graph'.needsSegmentKeyFrame = graph.needsSegmentKeyFrame)
    (htimeline : graph'.timeline.isSome = graph.timeline.isSome)
    (hreanchor : graph'.timelineNeedsReanchor = graph.timelineNeedsReanchor)
    (hphase : graph.Admits graph'.phase) : graph'.Sound := by
  obtain ⟨hlength, hconsecutive, hgapless, hbehind, hheld, hlinked, hanchored, hwaiting, -⟩ := h
  constructor <;> grind -linarith [Admits.eq_def]

/-- A frame that is taken from the queue comes right behind those taken before, or is a key
frame. -/
lemma Sound.take (h : graph.Sound) (hsink : graph.appSink = sample :: rest)
    (hfits : sample.IsDelta → Dependent.next number 0 graph.taken = graph.oldest)
    (hsink' : graph'.appSink = rest) (hproduced : graph'.produced = graph.produced)
    (htaken : graph'.taken = graph.taken ++ [sample])
    (hheld : ∀ key, graph'.pendingVideo = some key →
      graph'.needsSegmentKeyFrame = true ∧ ¬ key.IsDelta)
    (hanchored : graph'.needsSegmentKeyFrame = false →
      graph'.timeline.isSome = true ∧ graph'.timelineNeedsReanchor = false)
    (hwaiting : graph'.needsSegmentKeyFrame = true → graph'.pendingVideo ≠ none)
    (hphase : graph'.Admits graph'.phase) : graph'.Sound := by
  have hlength := h.length_le
  have hconsecutive := h.consecutive
  rw [hsink] at hlength hconsecutive
  have hnumber : sample.number = graph.oldest := hconsecutive.1
  have holdest : graph'.oldest = graph.oldest + 1 := by grind -linarith
  have hnext : Dependent.next number 0 graph'.taken = graph'.oldest := by
    rw [htaken, Dependent.next_concat, hnumber, holdest]
  refine ⟨by grind, ?_, ?_, hnext.le, hheld, fun _ => .inl hnext, hanchored, ?_, hphase⟩
  · rw [holdest, hsink']
    exact hconsecutive.2
  · rw [htaken]
    apply Dependent.gapless_concat h.gapless
    · rw [hnumber]
      exact h.behind
    · intro hdelta
      rw [hnumber, hfits hdelta]
  · intro hneeds hnone
    exact absurd hnone (hwaiting hneeds)

/-- What waits is thrown away, and a new segment begins. -/
lemma Sound.suspend (h : graph.Sound) (hidle : graph.phase = .idle) : graph.suspend.Sound := by
  have hsplit := Dependent.gapless_append.1 h.gapless
  have hle := hsplit.2.le_next
  have hbehind := h.behind
  rw [taken, Dependent.next_append] at hbehind
  unfold GStreamerGraph.suspend
  constructor <;> grind -linarith

lemma Sound.encode (h : graph.Sound) {dependency : VideoFrameDependency} {pts : UInt64}
    {duration : ℕ} {data : List UInt8}
    (hroom : graph.NoGap (.video dependency pts duration data)) :
    (graph.encode dependency pts duration data).Sound := by
  obtain ⟨hlength, hconsecutive, hgapless, hbehind, hheld, hlinked, hanchored, hwaiting,
    hphase⟩ := h
  unfold GStreamerGraph.encode pushDropping
  unfold NoGap at hroom
  cases hsink : graph.appSink with
  | nil => refine ⟨?_, ?_, ?_, ?_, hheld, ?_, hanchored, hwaiting, hphase⟩ <;> grind -linarith
  | cons lost rest =>
    refine ⟨?_, ?_, ?_, ?_, hheld, ?_, hanchored, hwaiting, hphase⟩ <;> cases rest <;>
      grind -linarith [Dependent.consecutive_concat]

/-! ## Calls of the worker -/

lemma forwardAccessUnit_eq (graph : GStreamerGraph) (unit : Produced) (forced : Bool) :
    ∃ result videoOutput videoChannel, graph.forwardAccessUnit unit forced =
      (result, { graph with videoOutput, videoChannel }) := by
  unfold forwardAccessUnit
  cases graph.videoOutput with
  | none => exact ⟨_, _, _, rfl⟩
  | some output =>
    dsimp only
    split
    · exact ⟨_, _, _, rfl⟩
    · split_ifs
      · exact ⟨_, _, _, rfl⟩
      · exact ⟨_, _, _, rfl⟩
    · exact ⟨_, _, _, rfl⟩

lemma consumeVideoSample_eq (graph : GStreamerGraph) (forced : Bool)
    (hfirst : graph.needsSegmentKeyFrame = true → ¬ sample.IsDelta)
    (htimeline : graph.timeline.isSome = true)
    (htimed : ∀ timeline ∈ graph.timeline,
      (timeline.timing .Video sample.pts sample.duration).isOk = true) :
    ∃ result timeline videoOutput videoChannel, graph.consumeVideoSample sample forced =
      (result, { graph with
        timeline := some timeline
        needsSegmentKeyFrame := false
        handed := graph.handed ++ [sample]
        videoOutput, videoChannel }) := by
  obtain ⟨timeline, htimeline⟩ := Option.isSome_iff_exists.1 htimeline
  have hvalid : validateFrame sample.dependency graph.needsSegmentKeyFrame = .ok () := by
    unfold validateFrame
    rw [if_neg]
    rintro ⟨hneeds, hdependency⟩
    apply hfirst hneeds
    cases hdep : sample.dependency with
    | KeyFrame => exact absurd hdep hdependency
    | Delta => exact hdep
  have htiming : graph.videoTiming sample =
      timeline.timing .Video sample.pts sample.duration := by
    rw [videoTiming, hvalid, htimeline]
    rfl
  have hok := htimed timeline htimeline
  unfold consumeVideoSample
  rw [htiming]
  cases htimes : timeline.timing .Video sample.pts sample.duration with
  | error error =>
    rw [htimes] at hok
    cases hok
  | ok times =>
    obtain ⟨result, videoOutput, videoChannel, hforward⟩ := forwardAccessUnit_eq
      { graph with
        timeline := some times.2
        needsSegmentKeyFrame := false
        handed := graph.handed ++ [sample] }
      ⟨sample.serial, ⟨graph.generation, sample.dependency, sample.data, times.1.1, times.1.2,
        sample.duration⟩⟩ forced
    exact ⟨result, times.2, videoOutput, videoChannel, hforward⟩

lemma consumeAudioPacket_eq (graph : GStreamerGraph) (packet : RawEncodedAudioPacket) :
    ∃ result timeline audioChannel, timeline.isSome = graph.timeline.isSome ∧
      graph.consumeAudioPacket packet = (result, { graph with timeline, audioChannel }) := by
  unfold consumeAudioPacket
  cases htimes : graph.audioTiming packet with
  | error error => exact ⟨_, graph.timeline, graph.audioChannel, rfl, rfl⟩
  | ok times =>
    obtain ⟨timeline, htimeline, -⟩ := Fallible.bind_eq_ok.1 htimes
    have hsome : graph.timeline.isSome = true := by
      rw [GenerationMediaTimeline.okOr_eq_ok.1 htimeline]
      rfl
    dsimp only
    unfold forwardAudioPacket
    split_ifs
    · dsimp only
      split
      · exact ⟨_, some times.2, _, hsome.symm, rfl⟩
      · exact ⟨_, some times.2, _, hsome.symm, rfl⟩
      · exact ⟨_, some times.2, _, hsome.symm, rfl⟩
    · exact ⟨_, some times.2, _, hsome.symm, rfl⟩

lemma Sound.pullAnchor (h : graph.Sound) (hphase : graph.phase = .anchor) :
    graph.pullAnchor.Sound := by
  have hadmits := h.phase
  unfold GStreamerGraph.pullAnchor
  split_ifs with hpending
  · apply h.move <;> grind -linarith
  · have hpending : graph.pendingVideo = none := by simpa using hpending
    have hlength := h.length_le
    have hconsecutive := h.consecutive
    have hgapless := h.gapless
    have hbehind := h.behind
    have hwaiting := h.waiting
    cases hsink : graph.appSink with
    | nil => apply h.move <;> grind -linarith
    | cons sample rest =>
      dsimp only
      split_ifs with hanchor
      · apply h.take hsink <;> grind -linarith [isSegmentAnchor]
      · constructor <;> grind -linarith

lemma Sound.pullAnchorAudio (h : graph.Sound) (hphase : graph.phase = .anchorAudio) :
    graph.pullAnchorAudio.Sound := by
  have hadmits := h.phase
  unfold GStreamerGraph.pullAnchorAudio
  split_ifs
  · apply h.move <;> grind -linarith
  · split <;> apply h.move <;> grind -linarith

lemma Sound.reanchor (h : graph.Sound) (hphase : graph.phase = .reanchor) (now : ℤ) :
    (graph.reanchor now).Sound := by
  obtain ⟨hlength, hconsecutive, hgapless, hbehind, hheld, hlinked, hanchored, hwaiting,
    hadmits⟩ := h
  unfold GStreamerGraph.reanchor
  constructor <;> grind -linarith

lemma Sound.consumePendingVideo (h : graph.Sound) (hphase : graph.phase = .pendingVideo)
    (forced : Bool)
    (htimed : ∀ sample ∈ graph.pendingVideo, ∀ timeline ∈ graph.timeline,
      (timeline.timing .Video sample.pts sample.duration).isOk = true) :
    (graph.consumePendingVideo forced).Sound := by
  obtain ⟨hlength, hconsecutive, hgapless, hbehind, hheld, hlinked, hanchored, hwaiting,
    hadmits⟩ := h
  rw [hphase] at hadmits
  unfold GStreamerGraph.consumePendingVideo
  cases hpending : graph.pendingVideo with
  | none =>
    -- a worker that comes here without a frame has an open segment
    have hneeds : graph.needsSegmentKeyFrame = false := by grind -linarith
    constructor <;> grind -linarith
  | some sample =>
    obtain ⟨result, timeline, videoOutput, videoChannel, hconsume⟩ :=
      consumeVideoSample_eq { graph with pendingVideo := none } forced
        (fun _ => (hheld sample hpending).2) hadmits.1 (htimed sample hpending)
    dsimp only at hconsume ⊢
    rw [hconsume]
    cases result <;> constructor <;> grind -linarith

lemma Sound.consumePendingAudio (h : graph.Sound) (hphase : graph.phase = .pendingAudio) :
    graph.consumePendingAudio.Sound := by
  have hneeds := h.phase
  unfold GStreamerGraph.consumePendingAudio
  cases graph.pendingAudio with
  | none => apply h.move <;> grind -linarith
  | some packet =>
    obtain ⟨result, timeline, audioChannel, htimeline, hconsume⟩ :=
      consumeAudioPacket_eq { graph with pendingAudio := none } packet
    dsimp only at hconsume ⊢
    rw [hconsume]
    cases result <;> apply h.move <;> grind -linarith

lemma Sound.pullVideo (h : graph.Sound) (hphase : graph.phase = .video) (forced : Bool)
    (htimed : ∀ sample ∈ graph.appSink.head?, ∀ timeline ∈ graph.timeline,
      (timeline.timing .Video sample.pts sample.duration).isOk = true) :
    (graph.pullVideo forced).Sound := by
  have hadmits := h.phase
  have hpending : graph.pendingVideo = none := by
    have hheld := h.held
    cases hpending : graph.pendingVideo <;> grind -linarith
  have hlinked := h.linked
  have hanchored := h.anchored
  rw [hphase] at hadmits
  unfold GStreamerGraph.pullVideo
  cases hsink : graph.appSink with
  | nil => apply h.move <;> grind -linarith
  | cons sample rest =>
    obtain ⟨result, timeline, videoOutput, videoChannel, hconsume⟩ :=
      consumeVideoSample_eq { graph with appSink := rest } forced (by grind)
        (hanchored hadmits).1 (htimed sample (by rw [hsink]; rfl))
    dsimp only at hconsume ⊢
    rw [hconsume]
    cases result <;> apply h.take hsink <;> grind -linarith

lemma Sound.pullAudio (h : graph.Sound) (hphase : graph.phase = .audio) :
    graph.pullAudio.Sound := by
  have hneeds := h.phase
  unfold GStreamerGraph.pullAudio
  split
  · apply h.move <;> grind -linarith
  · apply h.move <;> grind -linarith
  · next packet rest _ =>
    obtain ⟨result, timeline, audioChannel, htimeline, hconsume⟩ :=
      consumeAudioPacket_eq { graph with audio := some rest } packet
    rw [hconsume]
    cases result <;> apply h.move <;> grind -linarith
  · apply h.move <;> grind -linarith

lemma Sound.advance {now : ℤ} {forced : Bool} (h : graph.Sound)
    (htimed : graph.Timestamped (.advance now forced)) : (graph.advance now forced).Sound := by
  unfold GStreamerGraph.advance
  cases hphase : graph.phase with
  | idle => exact h
  | anchor => exact h.pullAnchor hphase
  | anchorAudio => exact h.pullAnchorAudio hphase
  | reanchor => exact h.reanchor hphase now
  | pendingVideo =>
    apply h.consumePendingVideo hphase
    intro sample hsample
    exact htimed sample (by rwa [upcoming, hphase])
  | pendingAudio => exact h.consumePendingAudio hphase
  | video =>
    apply h.pullVideo hphase
    intro sample hsample
    exact htimed sample (by rwa [upcoming, hphase])
  | audio => exact h.pullAudio hphase

lemma Sound.begin (h : graph.Sound) : graph.begin.Sound := by
  -- with an anchored timeline the worker would not be looking for a key frame
  have hanchored := h.anchored
  unfold GStreamerGraph.begin
  apply h.move <;> grind -linarith [Admits.eq_def]

lemma Sound.step {input : GraphInput} (h : graph.Sound) (htimed : graph.Timestamped input)
    (hgap : graph.NoGap input) (hnext : graph.next input = some graph') : graph'.Sound := by
  unfold next at hnext
  split_ifs at hnext with henabled
  obtain rfl := Option.some.inj hnext
  rw [Bool.and_eq_true] at henabled
  cases input with
  | video dependency pts duration data => exact h.encode hgap
  | poll => exact h.begin
  | advance now forced => exact h.advance htimed
  | suspend => exact h.suspend (by simpa [enabled] using henabled.2)
  | stop => exact h.begin.move rfl rfl rfl rfl rfl rfl rfl h.begin.phase
  | audio packet => exact h.move rfl rfl rfl rfl rfl rfl rfl h.phase
  | resume => exact h.move rfl rfl rfl rfl rfl rfl rfl h.phase
  | output videoChannel audioChannel => exact h.move rfl rfl rfl rfl rfl rfl rfl h.phase

lemma sound_built (generation : NonZeroU64) (encoderName : String) (hasAudio : Bool)
    (videoOutput : Option EncodedVideoOutput) (videoChannel : Channel Produced)
    (audioOutput : Bool) (audioChannel : Channel EncodedAudioPacket) :
    (built generation encoderName hasAudio videoOutput videoChannel audioOutput
      audioChannel).Sound := by
  unfold built
  constructor <;> grind -linarith [Admits.eq_def]

/-- In every run in which no frame is discarded behind the key frame of its segment, unless a key
frame takes its place at the head of the queue, what is handed over can be decoded: a delta comes
right behind its predecessor, and after a frame that was not handed over a key frame comes first. -/
theorem handed_decodable {generation : NonZeroU64} {encoderName : String} {hasAudio : Bool}
    {videoOutput : Option EncodedVideoOutput} {videoChannel : Channel Produced}
    {audioOutput : Bool} {audioChannel : Channel EncodedAudioPacket}
    (hreach : (machine.guard fun graph input => graph.Timestamped input ∧
      graph.NoGap input).Reach (built generation encoderName hasAudio videoOutput videoChannel
        audioOutput audioChannel) graph) :
    Decodable graph.handed ∧
    ∀ sample ∈ graph.handed, sample.dependency = .Delta → ∀ lost < sample.serial,
      (∀ other ∈ graph.handed, other.serial ≠ lost) →
      ∃ key ∈ graph.handed, key.dependency = .KeyFrame ∧
        lost < key.serial ∧ key.serial < sample.serial := by
  have h : graph.Sound := by
    apply hreach.invariant (sound_built ..)
    intro before input after hbefore hnext
    obtain ⟨⟨htimed, hgap⟩, hnext⟩ := Machine.guard_next.1 hnext
    exact hbefore.step htimed hgap hnext
  have hdecodable : Decodable graph.handed := by
    intro sample hsample hdelta
    have hgapless := (Dependent.gapless_append.1 h.gapless).1
    rcases hgapless.exists_predecessor hsample hdelta with hfirst | ⟨before, hbefore, hserial⟩
    · cases hfirst
    · exact ⟨before, hbefore, Nat.succ.inj hserial⟩
  refine ⟨hdecodable, ?_⟩
  intro sample hsample hdelta lost hlt hlost
  have hpred : ∀ a ∈ graph.handed, a.IsDelta →
      a.serial = 0 ∨ ∃ b ∈ graph.handed, b.serial + 1 = a.serial :=
    fun a ha hd => .inr (hdecodable a ha hd)
  obtain ⟨key, hkey, hindep, hbetween⟩ :=
    Dependent.exists_between hpred hsample hdelta hlt hlost
  refine ⟨key, hkey, ?_, hbetween⟩
  cases hdep : key.dependency with
  | KeyFrame => rfl
  | Delta => exact absurd hdep hindep

/-- A graph without an output. -/
def sampleGraph (hasAudio : Bool) : GStreamerGraph :=
  built 1 "vp8enc" hasAudio none (.bounded 1) false (.bounded 1)

/-- Calls of the worker up to the end of a pull. -/
def calls (n : ℕ) : List GraphInput := List.replicate n (.advance 0 true)

/-- The key frame is held back until there is audio, and the queue overflows with deltas. -/
def delayedAudio : List GraphInput :=
  [.resume, .video .KeyFrame 0 10 [], .poll] ++ calls 3 ++
  [.video .Delta 10 10 [], .video .Delta 20 10 [], .video .Delta 30 10 [],
    .audio (.ok ⟨[], 0, 20⟩), .poll] ++ calls 8

/-- The same without audio, when the worker comes late. -/
def lateWorker : List GraphInput :=
  [.resume, .video .KeyFrame 0 10 [], .poll] ++ calls 7 ++
  [.video .Delta 10 10 [], .video .Delta 20 10 [], .video .Delta 30 10 [], .poll] ++ calls 5

/-- The key frame is handed over, then the second and the third delta, but not the first. -/
theorem delta_handed_after_gap :
    (∃ graph, (machine.guard Timestamped).run (sampleGraph true) delayedAudio = some graph ∧
      graph.handed.map (·.serial) = [0, 2, 3] ∧ ¬ Decodable graph.handed) ∧
    ∃ graph, (machine.guard Timestamped).run (sampleGraph false) lateWorker = some graph ∧
      graph.handed.map (·.serial) = [0, 2, 3] ∧ ¬ Decodable graph.handed := by
  exact ⟨Machine.exists_run (by decide +kernel), Machine.exists_run (by decide +kernel)⟩

/-- A frame is discarded while the worker still looks for a key frame. -/
def earlyOverflow : List GraphInput :=
  [.resume, .video .Delta 0 10 [], .video .Delta 10 10 [], .video .KeyFrame 20 10 [],
    .video .Delta 30 10 [], .audio (.ok ⟨[], 20, 20⟩), .poll] ++ calls 8

theorem handed_decodable_early :
    ∃ graph, (machine.guard fun graph input => graph.Timestamped input ∧
        graph.NoGap input).run (sampleGraph true) earlyOverflow = some graph ∧
      graph.handed.map (·.serial) = [2, 3] ∧ Decodable graph.handed := by
  obtain ⟨graph, hrun, hgraph⟩ : ∃ graph, (machine.guard fun graph input =>
      graph.Timestamped input ∧ graph.NoGap input).run (sampleGraph true) earlyOverflow =
        some graph ∧ graph.handed.map (·.serial) = [2, 3] :=
    Machine.exists_run (by decide +kernel)
  exact ⟨graph, hrun, hgraph, (handed_decodable ⟨earlyOverflow, hrun⟩).1⟩

end GStreamerGraph

end Pronk.MediaGraph
