import Pronk.Chromiacast.MediaSession
import Pronk.MediaGraph.EncodedOutput

/-!
# The video sender

An actor takes access units from the encoder and hands them to the transport. While the
transport is under pressure, or has lost the reference for the next delta, units are dropped.
What the transport answers is part of a turn.
-/
namespace Pronk.Chromiacast
open MediaGraph

structure VideoTransportError where
  message : String

inductive VideoSendOutcome where
  | Accepted
  | Congested

structure VideoTransportPressure where
  (inFlightFrames inFlightMediaDuration maxAcceptableInFlightDuration : ℕ)
  (currentRtt receiverPlayoutDelay : Option ℕ)
  (nackCount framesDroppedOrSkipped : UInt64)
  fractionLost : Option UInt8

def VideoTransportPressure.queueSaturated (pressure : VideoTransportPressure) : Bool :=
  pressure.maxAcceptableInFlightDuration ≠ 0 ∧
    pressure.maxAcceptableInFlightDuration ≤ pressure.inFlightMediaDuration

structure VideoTransportFeedbackSnapshot where
  (revision keyFrameRequests acknowledgedFrames acknowledgedAudioPackets : UInt64)
  pressure : Option VideoTransportPressure
  terminalError : Option VideoTransportError

structure VideoSenderStatistics where
  frames : UInt64 := 0
  acknowledgedFrames : UInt64 := 0
  acknowledgedAudioPackets : UInt64 := 0
  keyFrames : UInt64 := 0
  encodedBytes : UInt64 := 0
  droppedFrames : UInt64 := 0
  queueDelay : ℕ := 0

inductive VideoSenderState where
  | Empty
  | Configured
  | Streaming
  | Suspended
  | Failed
  | Stopped
  deriving DecidableEq

def VideoSenderState.name : VideoSenderState → String
  | .Empty => "Empty"
  | .Configured => "Configured"
  | .Streaming => "Streaming"
  | .Suspended => "Suspended"
  | .Failed => "Failed"
  | .Stopped => "Stopped"

structure VideoSenderSnapshot where
  generation : Option NonZeroU64 := none
  state : VideoSenderState := .Empty
  statistics : VideoSenderStatistics := {}
  lastError : Option String := none

structure VideoSenderFeedbackSnapshot where
  revision : UInt64 := 0
  generation : Option NonZeroU64 := none
  keyFrameRequests : UInt64 := 0
  acknowledgedFrames : UInt64 := 0
  pressure : Option VideoTransportPressure := none
  terminalError : Option VideoTransportError := none

/-- The sender of one generation. -/
structure ActiveSender where
  generation : NonZeroU64
  state : VideoSenderState
  /-- The transport port has not been shut down. -/
  (sender feedbackOpen : Bool)
  observedKeyFrameRequests : UInt64
  (pressureLimited needsKeyFrame : Bool)
  statistics : VideoSenderStatistics

/-- The sender and what it publishes. -/
structure VideoSenderActor where
  running : Bool := true
  active : Option ActiveSender := none
  completedGeneration : Option NonZeroU64 := none
  snapshot : VideoSenderSnapshot := {}
  feedback : VideoSenderFeedbackSnapshot := {}

/-- `u64::saturating_add`. -/
def saturatingAdd (a b : UInt64) : UInt64 :=
  if a.toNat + b.toNat < 18446744073709551616 then a + b else 18446744073709551615

namespace VideoSenderActor

def publish (actor : VideoSenderActor) (generation : Option NonZeroU64)
    (state : VideoSenderState) (statistics : VideoSenderStatistics)
    (lastError : Option String) : VideoSenderActor :=
  { actor with snapshot := ⟨generation, state, statistics, lastError⟩ }

def publishFeedback (actor : VideoSenderActor) (generation : NonZeroU64)
    (requestKeyFrame : Bool) (acknowledgedFrames : UInt64)
    (pressure : Option VideoTransportPressure) : VideoSenderActor :=
  { actor with
    feedback := { actor.feedback with
      revision := saturatingAdd actor.feedback.revision 1
      generation := some generation
      keyFrameRequests :=
        saturatingAdd actor.feedback.keyFrameRequests (if requestKeyFrame then 1 else 0)
      acknowledgedFrames
      pressure := pressure.or actor.feedback.pressure } }

/-- The active sender after a change, with its snapshot. -/
def store (actor : VideoSenderActor) (active : ActiveSender) : VideoSenderActor :=
  { actor with active := some active }.publish (some active.generation) active.state
    active.statistics none

def failActive (actor : VideoSenderActor) (error : VideoTransportError) : VideoSenderActor :=
  match actor.active with
  | none => actor
  | some active =>
    let active := { active with state := .Failed, feedbackOpen := false, sender := false }
    { actor with
      active := some active
      feedback := { actor.feedback with
        revision := saturatingAdd actor.feedback.revision 1
        generation := some active.generation
        terminalError := some error } }.publish (some active.generation) active.state
      active.statistics (some error.message)

/-- The flags of the sender after a snapshot of the transport, and whether the encoder is
asked for a key frame. -/
def observeFeedback (active : ActiveSender) (incoming : VideoTransportFeedbackSnapshot) :
    ActiveSender × Bool :=
  let active := { active with
    statistics := { active.statistics with
      acknowledgedFrames := incoming.acknowledgedFrames
      acknowledgedAudioPackets := incoming.acknowledgedAudioPackets } }
  let (active, requestKeyFrame) :=
    if incoming.keyFrameRequests > active.observedKeyFrameRequests then
      ({ active with
         observedKeyFrameRequests := incoming.keyFrameRequests, needsKeyFrame := true }, true)
    else (active, false)
  match incoming.pressure with
  | none => (active, requestKeyFrame)
  | some pressure =>
    let limited := pressure.queueSaturated
    let (active, requestKeyFrame) :=
      if limited ≠ active.pressureLimited then
        ({ active with pressureLimited := limited, needsKeyFrame := true },
          requestKeyFrame || !limited)
      else (active, requestKeyFrame)
    if incoming.acknowledgedFrames = 0 ∧ pressure.inFlightFrames ≠ 0 then
      ({ active with needsKeyFrame := true }, true)
    else (active, requestKeyFrame)

/-- What the transport reports is observed and published. -/
def processTransportFeedback (actor : VideoSenderActor)
    (incoming : VideoTransportFeedbackSnapshot) :
    Except VideoTransportError VideoSenderActor :=
  match actor.active with
  | none => .ok actor
  | some active =>
    match incoming.terminalError with
    | some error => .error error
    | none =>
      let (active, requestKeyFrame) := observeFeedback active incoming
      .ok ((actor.publishFeedback active.generation requestKeyFrame
        incoming.acknowledgedFrames incoming.pressure).store active)

/-- What the port makes of an access unit; `none` is a timeout. -/
abbrev SendReply := Option (Except VideoTransportError VideoSendOutcome)

/-- A unit that is not even offered to the transport. -/
def withheld (active : ActiveSender) (dependency : VideoFrameDependency) : Bool :=
  (active.pressureLimited && (active.statistics.acknowledgedFrames != 0 ||
    dependency != .KeyFrame)) || (active.needsKeyFrame && dependency == .Delta)

def countDropped (active : ActiveSender) : ActiveSender :=
  { active with statistics := { active.statistics with
      droppedFrames := saturatingAdd active.statistics.droppedFrames 1 } }

/-- The actor after an access unit, and whether the transport has accepted it. -/
def forwardAccessUnit (actor : VideoSenderActor) (accessUnit : EncodedVideoAccessUnit)
    (reply : SendReply) (now : ℤ) : Except VideoTransportError (VideoSenderActor × Bool) :=
  match actor.active with
  | none => .error ⟨"video sender is missing"⟩
  | some active =>
    if accessUnit.mediaGeneration ≠ active.generation then
      .ok ({ actor with active := some (countDropped active) }, false)
    else if withheld active accessUnit.dependency then
      .ok (actor.store (countDropped active), false)
    else if active.sender = false then .error ⟨"video sender transport is missing"⟩
    else
      let queueDelay := (now - accessUnit.referenceTime).toNat
      match reply with
      | none => .error ⟨"timed out enqueueing encoded video"⟩
      | some (.error error) => .error error
      | some (.ok .Congested) =>
        let active := countDropped active
        let active := { active with
          statistics := { active.statistics with queueDelay }
          pressureLimited := true
          needsKeyFrame := true }
        .ok ((actor.publishFeedback active.generation true active.statistics.acknowledgedFrames
          none).store active, false)
      | some (.ok .Accepted) =>
        let keyFrame := accessUnit.dependency = .KeyFrame
        let statistics := { active.statistics with
          frames := saturatingAdd active.statistics.frames 1
          keyFrames := saturatingAdd active.statistics.keyFrames (if keyFrame then 1 else 0)
          encodedBytes :=
            saturatingAdd active.statistics.encodedBytes (.ofNat accessUnit.data.length)
          queueDelay }
        .ok (actor.store { active with
          statistics, needsKeyFrame := if keyFrame then false else active.needsKeyFrame }, true)

/-! ## Commands -/

def generationMismatch (active requested : NonZeroU64) : VideoTransportError :=
  ⟨"requested video sender generation " ++ toString requested.get ++
    "; active generation is " ++ toString active.get⟩

def matchingActive (actor : VideoSenderActor) (generation : NonZeroU64) :
    Except VideoTransportError ActiveSender :=
  match actor.active with
  | none => .error ⟨"there is no active video sender generation"⟩
  | some active =>
    if active.generation ≠ generation then
      .error (generationMismatch active.generation generation)
    else .ok active

/-- What is left of a negotiated transport here: whether it still has its audio sender. -/
structure NegotiatedVideoTransport where
  audioSender : Bool

def configureActive (actor : VideoSenderActor) (generation : NonZeroU64)
    (transport : NegotiatedVideoTransport) : Except VideoTransportError VideoSenderActor :=
  if transport.audioSender then
    .error ⟨"audio sender was not split from negotiated transport before configuring video"⟩
  else if actor.active.isSome then .error ⟨"a video sender generation is already active"⟩
  else if ∃ done ∈ actor.completedGeneration, generation.get ≤ done.get then
    .error ⟨"video sender generation " ++ toString generation.get ++ " is not newer than " ++
      generationText actor.completedGeneration⟩
  else
    .ok ({ actor with
      active := some {
        generation
        state := .Configured
        sender := true
        feedbackOpen := true
        observedKeyFrameRequests := 0
        pressureLimited := false
        needsKeyFrame := false
        statistics := {} }
      feedback := {
        revision := saturatingAdd actor.feedback.revision 1
        generation := some generation } }.publish (some generation) .Configured {} none)

inductive Transition where
  | Start
  | Suspend
  | Resume

def Transition.required : Transition → VideoSenderState
  | .Start => .Configured
  | .Suspend => .Streaming
  | .Resume => .Suspended

def Transition.desired : Transition → VideoSenderState
  | .Start => .Streaming
  | .Suspend => .Suspended
  | .Resume => .Streaming

def transitionActive (actor : VideoSenderActor) (generation : NonZeroU64)
    (transition : Transition) : Except VideoTransportError VideoSenderActor := do
  let active ← actor.matchingActive generation
  if active.state ≠ transition.required then
    .error ⟨"video sender generation " ++ toString generation.get ++ " is " ++
      active.state.name ++ "; expected " ++ transition.required.name⟩
  else .ok (actor.store { active with state := transition.desired })

def setTargetPlayoutDelay (actor : VideoSenderActor) (generation : NonZeroU64)
    (port : Except VideoTransportError Unit) : Except VideoTransportError Unit := do
  let active ← actor.matchingActive generation
  if active.sender then port else .error ⟨"video sender transport is missing"⟩

/-- The port is shut down, if there is one. -/
def shutdownPort (active : ActiveSender) (port : Except VideoTransportError Unit) :
    Except VideoTransportError Unit :=
  if active.sender then port else .ok ()

/-- A sender whose port fails to shut down is gone as well. -/
def stopActive (actor : VideoSenderActor) (generation : NonZeroU64)
    (port : Except VideoTransportError Unit) :
    Except VideoTransportError VideoSenderStatistics × VideoSenderActor :=
  match actor.active with
  | none =>
    if actor.completedGeneration = some generation then (.ok {}, actor)
    else (.error ⟨"there is no matching video sender generation to stop"⟩, actor)
  | some current =>
    if current.generation ≠ generation then
      (.error (generationMismatch current.generation generation), actor)
    else
      ((shutdownPort current port).map fun _ => current.statistics, { actor with active := none })

def shutdownActive (actor : VideoSenderActor) (port : Except VideoTransportError Unit) :
    Except VideoTransportError Unit × VideoSenderActor :=
  match actor.active with
  | none => (.ok (), actor)
  | some active => (shutdownPort active port, { actor with active := none })

def activeStatistics (actor : VideoSenderActor) (generation : NonZeroU64) :
    Except VideoTransportError VideoSenderStatistics :=
  match actor.active with
  | some active =>
    if active.generation ≠ generation then
      .error (generationMismatch active.generation generation)
    else if active.state = .Failed then
      .error ⟨actor.snapshot.lastError.getD "video sender failed without diagnostic detail"⟩
    else .ok active.statistics
  | none =>
    if actor.completedGeneration = some generation then .ok actor.snapshot.statistics
    else .error ⟨"there is no matching video sender generation for statistics"⟩

/-- The commands of the sender. -/
inductive Command where
  | Configure (generation : NonZeroU64) (transport : NegotiatedVideoTransport)
  | Transition (generation : NonZeroU64) (transition : Transition)
  | SetTargetPlayoutDelay (generation : NonZeroU64) (delay : ℕ)
  | Stop (generation : NonZeroU64)
  | Statistics (generation : NonZeroU64)
  | Shutdown

def errorOf : Except VideoTransportError α → Option String
  | .ok _ => none
  | .error error => some error.message

/-- The end of the actor, which nothing follows. -/
def finish (actor : VideoSenderActor) (lastError : Option String) : VideoSenderActor :=
  { actor with running := false }.publish actor.completedGeneration .Stopped {} lastError

def stop (actor : VideoSenderActor) (generation : NonZeroU64)
    (port : Except VideoTransportError Unit) :
    Except VideoTransportError VideoSenderStatistics × VideoSenderActor :=
  let (result, actor) := actor.stopActive generation port
  match result with
  | .ok statistics =>
    (result, { actor with completedGeneration := some generation }.publish (some generation)
      .Empty statistics none)
  | .error error =>
    (result, actor.publish (some generation) .Empty {} (some error.message))

/-- What a caller is told. -/
abbrev Reply := Except VideoTransportError (Option VideoSenderStatistics)

/-- A command with what the port answers to it, and the channel of access units. -/
def handle (actor : VideoSenderActor) (output : Channel α) (command : Command)
    (port : Except VideoTransportError Unit) : Reply × VideoSenderActor × Channel α :=
  match command with
  | .Configure generation transport =>
    match actor.configureActive generation transport with
    | .ok actor => (.ok none, actor, output.drain)
    | .error error => (.error error, actor, output)
  | .Transition generation transition =>
    match actor.transitionActive generation transition with
    | .ok actor => (.ok none, actor, output)
    | .error error => (.error error, actor, output)
  | .SetTargetPlayoutDelay generation _ =>
    ((actor.setTargetPlayoutDelay generation port).map fun _ => none, actor, output)
  | .Stop generation =>
    let (result, actor) := actor.stop generation port
    (result.map some, actor, output)
  | .Statistics generation => ((actor.activeStatistics generation).map some, actor, output)
  | .Shutdown =>
    let (result, actor) := actor.shutdownActive port
    (result.map fun _ => none, actor.finish (errorOf result), output.close)

/-- What wakes the actor. `Command none` is the end of its commands, `Feedback none` and
`AccessUnit none` the end of the other channels. -/
inductive Next where
  | Command (command : Option Command) (port : Except VideoTransportError Unit)
  | AccessUnit (accessUnit : Option EncodedVideoAccessUnit) (reply : SendReply) (now : ℤ)
  | Feedback (changed : Option VideoTransportFeedbackSnapshot)

/-- The branches of the `select` in which the actor waits. -/
def waitsFor (actor : VideoSenderActor) : Next → Bool
  | .Command .. => actor.running
  | .AccessUnit .. => actor.running && actor.active.any (·.state = .Streaming)
  | .Feedback .. => actor.running && actor.active.any (·.feedbackOpen)

/-- One turn of the loop of the actor: the actor and the channel afterwards, and whether an
access unit was accepted. -/
def turn (actor : VideoSenderActor) (output : Channel α) :
    Next → VideoSenderActor × Channel α × Bool
  | .Command none port =>
    (((actor.shutdownActive port).2.finish none), output.close, false)
  | .Command (some command) port =>
    let (_, actor, output) := actor.handle output command port
    (actor, output, false)
  | .AccessUnit none _ _ =>
    (actor.failActive ⟨"encoded-video source channel closed"⟩, output, false)
  | .AccessUnit (some accessUnit) reply now =>
    match actor.forwardAccessUnit accessUnit reply now with
    | .ok (actor, accepted) => (actor, output, accepted)
    | .error error => (actor.failActive error, output, false)
  | .Feedback none => (actor.failActive ⟨"Cast sender feedback channel closed"⟩, output, false)
  | .Feedback (some incoming) =>
    match actor.processTransportFeedback incoming with
    | .ok actor => (actor, output, false)
    | .error error => (actor.failActive error, output, false)

variable {actor : VideoSenderActor} {active : ActiveSender} {generation : NonZeroU64}

lemma observeFeedback_generation (incoming : VideoTransportFeedbackSnapshot) :
    (observeFeedback active incoming).1.generation = active.generation := by
  unfold observeFeedback
  cases incoming.pressure with
  | none => dsimp only; split_ifs <;> rfl
  | some pressure => dsimp only; split_ifs <;> rfl

lemma matchingActive_eq_ok (hok : actor.matchingActive generation = .ok active) :
    actor.active = some active := by
  unfold matchingActive at hok
  cases hactive : actor.active with
  | none => simp [hactive] at hok
  | some current =>
    rw [hactive] at hok
    dsimp only at hok
    split_ifs at hok
    rw [Except.ok.inj hok]

end VideoSenderActor

end Pronk.Chromiacast
