import Pronk.Library.Transition
import Pronk.MediaGraph.EncodedOutput

/-!
# The worker of the media graph

The encoders fill two queues while the worker pulls from them. The first key frame of a segment
is held back until the audio branch has a packet too, because both together anchor the timeline.

Frames may arrive between any two calls of the worker, so `pull_available_samples` is a
sequence of phases, each of which makes one call.
-/
namespace Pronk.MediaGraph
open Transition

def RAW_QUEUE_BUFFERS : ℕ := 2
def RAW_AUDIO_QUEUE_BUFFERS : ℕ := 8

/-- An encoded frame that is well formed, with its number in the order of the encoder. -/
structure VideoSample where
  serial : ℕ
  dependency : VideoFrameDependency
  pts : UInt64
  duration : ℕ
  data : List UInt8

def VideoSample.IsDelta (sample : VideoSample) : Prop := sample.dependency = .Delta

def isSegmentAnchor (sample : VideoSample) : Bool := sample.dependency ≠ .Delta

structure RawEncodedAudioPacket where
  data : List UInt8
  pts : UInt64
  duration : ℕ

structure EncodedAudioPacket where
  mediaGeneration : NonZeroU64
  data : List UInt8
  mediaTimestamp : ℕ
  referenceTime : ℤ
  duration : ℕ

/-- An appsink that makes room by discarding its oldest entry. -/
def pushDropping (maxBuffers : ℕ) (queue : List α) (a : α) : List α :=
  if queue.length < maxBuffers then queue ++ [a] else queue.tail ++ [a]

/-- Where the worker is in `pull_available_samples`. -/
inductive PullPhase where
  | idle
  | anchor
  | anchorAudio
  | reanchor
  | pendingVideo
  | pendingAudio
  | video
  | audio
  deriving DecidableEq

/-- An audio packet in the queue is what `consume_sample` of its branch makes of it. -/
structure GStreamerGraph where
  generation : NonZeroU64
  encoderName : String
  playing : Bool
  appSink : List VideoSample
  audio : Option (List (Except MediaGraphError RawEncodedAudioPacket))
  videoOutput : Option EncodedVideoOutput
  videoChannel : Channel Produced
  audioOutput : Bool
  audioChannel : Channel EncodedAudioPacket
  timeline : Option GenerationMediaTimeline
  (timelineNeedsReanchor needsSegmentKeyFrame : Bool)
  pendingVideo : Option VideoSample
  pendingAudio : Option RawEncodedAudioPacket
  phase : PullPhase
  /-- The graph is being stopped, and ends with this pull. -/
  (stopping stopped : Bool)
  /-- How many frames the encoder has produced. -/
  produced : ℕ
  /-- The frames that were handed to the output. -/
  handed : List VideoSample

namespace GStreamerGraph

/-! ## Samples -/

/-- A frame that is dropped may make the encoder be asked for a key frame, which it accepts if
`forced`. -/
def forwardAccessUnit (graph : GStreamerGraph) (unit : Produced) (forced : Bool) :
    Except MediaGraphError Unit × GStreamerGraph :=
  match graph.videoOutput with
  | none => (.ok (), graph)
  | some output =>
    let (result, output, channel) := output.tryForward graph.videoChannel unit
    let graph := { graph with videoOutput := some output, videoChannel := channel }
    match result with
    | .error error => (.error error, graph)
    | .ok (.Dropped true) =>
      if forced then (.ok (), graph)
      else (.error ⟨graph.encoderName ++ " rejected an upstream force-key-unit event"⟩, graph)
    | .ok _ => (.ok (), graph)

def validateFrame (dependency : VideoFrameDependency) (first : Bool) :
    Except MediaGraphError Unit :=
  if first ∧ dependency ≠ .KeyFrame then
    .error ⟨"the first encoded video frame is not a key frame"⟩
  else .ok ()

/-- The media timestamp and the reference time of a frame that passes all checks. -/
def videoTiming (graph : GStreamerGraph) (sample : VideoSample) :
    Except MediaGraphError ((ℕ × ℤ) × GenerationMediaTimeline) := do
  validateFrame sample.dependency graph.needsSegmentKeyFrame
  let timeline ← okOr graph.timeline "generation media timeline is absent"
  timeline.timing .Video sample.pts sample.duration

/-- Time a frame and hand it over. -/
def consumeVideoSample (graph : GStreamerGraph) (sample : VideoSample) (forced : Bool) :
    Except MediaGraphError Unit × GStreamerGraph :=
  match graph.videoTiming sample with
  | .error error => (.error error, graph)
  | .ok ((mediaTimestamp, referenceTime), timeline) =>
    let unit := ⟨sample.serial, ⟨graph.generation, sample.dependency, sample.data,
      mediaTimestamp, referenceTime, sample.duration⟩⟩
    forwardAccessUnit { graph with
      timeline := some timeline
      needsSegmentKeyFrame := false
      handed := graph.handed ++ [sample] } unit forced

def forwardAudioPacket (graph : GStreamerGraph) (packet : EncodedAudioPacket) :
    Except MediaGraphError Unit × GStreamerGraph :=
  if graph.audioOutput then
    match graph.audioChannel.trySend packet with
    | .ok audioChannel => (.ok (), { graph with audioChannel })
    | .error .Full => (.ok (), graph)
    | .error .Closed =>
      (.error ⟨"encoded-audio output channel closed while media was active"⟩, graph)
  else (.ok (), graph)

def audioTiming (graph : GStreamerGraph) (packet : RawEncodedAudioPacket) :
    Except MediaGraphError ((ℕ × ℤ) × GenerationMediaTimeline) := do
  let timeline ← okOr graph.timeline "generation media timeline is absent"
  timeline.timing .Audio packet.pts packet.duration

def consumeAudioPacket (graph : GStreamerGraph) (packet : RawEncodedAudioPacket) :
    Except MediaGraphError Unit × GStreamerGraph :=
  match graph.audioTiming packet with
  | .error error => (.error error, graph)
  | .ok ((mediaTimestamp, referenceTime), timeline) =>
    forwardAudioPacket { graph with timeline := some timeline }
      ⟨graph.generation, packet.data, mediaTimestamp, referenceTime, packet.duration⟩

/-! ## The phases of a pull -/

/-- The pull ends, with or without an error. -/
def finish (graph : GStreamerGraph) : GStreamerGraph :=
  { graph with phase := .idle, stopped := graph.stopped || graph.stopping }

/-- The pull goes on unless there was an error. -/
def goOn (phase : PullPhase) :
    Except MediaGraphError Unit × GStreamerGraph → GStreamerGraph
  | (.ok (), graph) => { graph with phase }
  | (.error _, graph) => graph.finish

/-- The timeline is not anchored, or no longer. -/
def begin (graph : GStreamerGraph) : GStreamerGraph :=
  { graph with
    phase := if graph.timeline.isNone || graph.timelineNeedsReanchor then .anchor
      else .pendingVideo }

/-- One round of the loop of `pull_timeline_anchor_sample`. -/
def pullAnchor (graph : GStreamerGraph) : GStreamerGraph :=
  if graph.pendingVideo.isSome then { graph with phase := .anchorAudio }
  else
    match graph.appSink with
    | [] => { graph with phase := .anchorAudio }
    | sample :: appSink =>
      if ¬ graph.needsSegmentKeyFrame ∨ isSegmentAnchor sample then
        { graph with appSink, pendingVideo := some sample, phase := .anchorAudio }
      else { graph with appSink }

def pullAnchorAudio (graph : GStreamerGraph) : GStreamerGraph :=
  if graph.pendingAudio.isSome then { graph with phase := .reanchor }
  else
    match graph.audio with
    | none | some [] => { graph with phase := .reanchor }
    | some (.ok packet :: rest) =>
      { graph with audio := some rest, pendingAudio := some packet, phase := .reanchor }
    | some (.error _ :: rest) => { graph with audio := some rest }.finish

/-- Both branches have to be there. -/
def reanchor (graph : GStreamerGraph) (now : ℤ) : GStreamerGraph :=
  match graph.pendingVideo with
  | none => graph.finish
  | some video =>
    if graph.audio.isSome && graph.pendingAudio.isNone then graph.finish
    else
      let audioPts := if graph.audio.isSome then graph.pendingAudio.map (·.pts) else none
      match graph.timeline with
      | none =>
        { graph with
          timeline := some (.new video.pts audioPts now)
          timelineNeedsReanchor := false
          phase := .pendingVideo }
      | some timeline =>
        match timeline.reanchor video.pts audioPts now with
        | .error _ => graph.finish
        | .ok timeline =>
          { graph with
            timeline := some timeline, timelineNeedsReanchor := false, phase := .pendingVideo }

def consumePendingVideo (graph : GStreamerGraph) (forced : Bool) : GStreamerGraph :=
  match graph.pendingVideo with
  | none => { graph with phase := .pendingAudio }
  | some sample =>
    goOn .pendingAudio ({ graph with pendingVideo := none }.consumeVideoSample sample forced)

def consumePendingAudio (graph : GStreamerGraph) : GStreamerGraph :=
  match graph.pendingAudio with
  | none => { graph with phase := .video }
  | some packet => goOn .video ({ graph with pendingAudio := none }.consumeAudioPacket packet)

def pullVideo (graph : GStreamerGraph) (forced : Bool) : GStreamerGraph :=
  match graph.appSink with
  | [] => { graph with phase := .audio }
  | sample :: appSink => goOn .video ({ graph with appSink }.consumeVideoSample sample forced)

def pullAudio (graph : GStreamerGraph) : GStreamerGraph :=
  match graph.audio with
  | none | some [] => graph.finish
  | some (.ok packet :: rest) =>
    goOn .audio ({ graph with audio := some rest }.consumeAudioPacket packet)
  | some (.error _ :: rest) => { graph with audio := some rest }.finish

/-- The next call of the worker. -/
def advance (graph : GStreamerGraph) (now : ℤ) (forced : Bool) : GStreamerGraph :=
  match graph.phase with
  | .idle => graph
  | .anchor => graph.pullAnchor
  | .anchorAudio => graph.pullAnchorAudio
  | .reanchor => graph.reanchor now
  | .pendingVideo => graph.consumePendingVideo forced
  | .pendingAudio => graph.consumePendingAudio
  | .video => graph.pullVideo forced
  | .audio => graph.pullAudio

/-! ## Commands -/

/-- The pipeline has reached the state in which nothing arrives any more. -/
def suspend (graph : GStreamerGraph) : GStreamerGraph :=
  { graph with
    playing := false
    pendingVideo := none
    appSink := []
    pendingAudio := none
    audio := graph.audio.map fun _ => []
    timelineNeedsReanchor := graph.timeline.isSome
    needsSegmentKeyFrame := true }

/-- A frame of the encoder reaches the appsink. -/
def encode (graph : GStreamerGraph) (dependency : VideoFrameDependency) (pts : UInt64)
    (duration : ℕ) (data : List UInt8) : GStreamerGraph :=
  { graph with
    appSink := pushDropping RAW_QUEUE_BUFFERS graph.appSink
      ⟨graph.produced, dependency, pts, duration, data⟩
    produced := graph.produced + 1 }

/-- A step of an encoder or of the worker. -/
inductive GraphInput where
  | video (dependency : VideoFrameDependency) (pts : UInt64) (duration : ℕ) (data : List UInt8)
  | audio (packet : Except MediaGraphError RawEncodedAudioPacket)
  | poll
  | advance (now : ℤ) (forced : Bool)
  | suspend
  | resume
  | stop
  /-- The other end of the channels takes a unit or goes away. -/
  | output (videoChannel : Channel Produced) (audioChannel : Channel EncodedAudioPacket)

/-- Commands are handled between two pulls, and nothing arrives while the graph is suspended. -/
def enabled (graph : GStreamerGraph) : GraphInput → Bool
  | .video .. | .audio _ => graph.playing
  | .poll | .suspend | .resume | .stop => graph.phase = .idle
  | .advance .. => graph.phase ≠ .idle
  | .output .. => true

/-- After an error the graph is stopped, or the command that failed leaves it and it is polled
again. -/
def handle (graph : GStreamerGraph) : GraphInput → GStreamerGraph
  | .video dependency pts duration data => graph.encode dependency pts duration data
  | .audio packet =>
    { graph with
      audio := graph.audio.map fun queue => pushDropping RAW_AUDIO_QUEUE_BUFFERS queue packet }
  | .poll => graph.begin
  | .advance now forced => graph.advance now forced
  | .suspend => graph.suspend
  | .resume => { graph with playing := true }
  | .stop => { graph.begin with stopping := true }
  | .output videoChannel audioChannel => { graph with videoChannel, audioChannel }

def next (graph : GStreamerGraph) (input : GraphInput) : Option GStreamerGraph :=
  if !graph.stopped && graph.enabled input then some (graph.handle input) else none

def machine : Machine GStreamerGraph GraphInput where
  next := next

/-- A graph that has just been built, with or without an audio branch. -/
def built (generation : NonZeroU64) (encoderName : String) (hasAudio : Bool)
    (videoOutput : Option EncodedVideoOutput) (videoChannel : Channel Produced)
    (audioOutput : Bool) (audioChannel : Channel EncodedAudioPacket) : GStreamerGraph where
  generation
  encoderName
  playing := false
  appSink := []
  audio := if hasAudio then some [] else none
  videoOutput
  videoChannel
  audioOutput
  audioChannel
  timeline := none
  timelineNeedsReanchor := false
  needsSegmentKeyFrame := true
  pendingVideo := none
  pendingAudio := none
  phase := .idle
  stopping := false
  stopped := false
  produced := 0
  handed := []

end GStreamerGraph

end Pronk.MediaGraph
