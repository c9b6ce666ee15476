import Pronk.Library.Interaction
import Pronk.MediaSession.Types

/-!
# The media session of the Chromiacast backend

`ChromiacastMediaSession` with the media graph, the two sender actors and the Cast
connection behind requests, together with the one field of `ChromiacastDeviceControl`
that negotiation looks at. An application on the receiver is named by the generation it
was launched for. What `configure` reads from the wire is checked by an arbitrary
`Admission`; the feedback controller and the contents of the graph configuration are
left out.
-/
namespace Pronk.Chromiacast
open Interaction Method Media
open MediaSession (boundedText)

def MAX_TRANSPORT_ERROR_BYTES : ℕ := 512

/-- Where the session stands. -/
inductive SessionState where
  | Created
  | Preparing
  | Prepared
  | Configured
  | Streaming
  | Suspended
  | Stopped
  | Failed
  deriving DecidableEq

inductive MediaSessionError where
  | InvalidRequest (text : String)
  | Transition (operation : String) (state : SessionState)
  | Graph (text : String)
  | Transport (text : String)
  deriving DecidableEq

inductive GraphOp where
  | configure
  | start
  | suspend
  | resume
  | stop

inductive SenderOp where
  | configure
  | statistics
  | start
  | suspend
  | resume
  | waitForMedia
  | waitForReceiverAck
  | waitForReceiverAudioAck
  | stop

/-- What the session asks of the four owners of a generation. `releasePort` shuts down a
negotiated sender that no actor took over. -/
inductive OwnerCall where
  | negotiate (generation : NonZeroU64) (audio : Bool)
  | stopApp (generation : NonZeroU64)
  | graph (op : GraphOp) (generation : NonZeroU64)
  | sender (kind : DeviceMediaKind) (op : SenderOp) (generation : NonZeroU64)
  | releasePort (kind : DeviceMediaKind) (generation : NonZeroU64)
  | shutdownGraph
  | shutdownSender (kind : DeviceMediaKind)

/-- Whether a negotiated transport came with a sender for audio. -/
structure Negotiated where
  audioSender : Bool

abbrev OwnerReply : OwnerCall → Type
  | .negotiate _ _ => Except String Negotiated
  | _ => Except String Unit

/-- What `graph_configuration` makes of a request, as far as the session keeps it. -/
structure Plan where
  audio : Bool
  videoBitrate : NonZeroU64

/-- The checks of capabilities and requests, which look at nothing that changes. -/
structure Admission (κ ρ : Type) where
  capabilities : κ → Except String Unit
  configuration : ρ → UInt64 → Except String Unit
  graphConfiguration : κ → ρ → NonZeroU64 → Except MediaSessionError Plan

/-- The fields of the media session. -/
structure ChromiacastMediaSession (κ : Type) where
  state : SessionState := .Created
  capabilities : Option κ := none
  activeGeneration : Option NonZeroU64 := none
  completedGeneration : Option NonZeroU64 := none
  graphReceivedGeneration : Bool := false
  senderReceivedGeneration : Bool := false
  audioSenderReceivedGeneration : Bool := false
  transportActive : Bool := false
  audioEnabled : Bool := false
  mediaReady : Bool := false
  videoBitrate : UInt64 := 0
  sender : Bool := true
  audioSender : Bool := true
  activeApp : Option NonZeroU64 := none

variable {κ ρ : Type}

abbrev SessionMethod (κ : Type) :=
  Method OwnerCall OwnerReply (ChromiacastMediaSession κ) MediaSessionError

def nonzeroGeneration (mediaGeneration : UInt64) : Except MediaSessionError NonZeroU64 :=
  NonZeroU64.newOr mediaGeneration (.InvalidRequest "media generation must be nonzero")

namespace ChromiacastMediaSession

def requireMatchingGeneration (s : ChromiacastMediaSession κ) (operation : String)
    (generation : NonZeroU64) : Except MediaSessionError Unit :=
  if s.activeGeneration = some generation then .ok ()
  else .error (.InvalidRequest (operation ++ " generation " ++ toString generation.get ++
    " does not match active generation " ++ generationText s.activeGeneration))

def requireGeneration (operation : String) (mediaGeneration : UInt64)
    (requiredState : SessionState) : SessionMethod κ NonZeroU64 := do
  let s ← Method.get
  failIf (s.state ≠ requiredState) (.Transition operation s.state)
  let generation ← lift (nonzeroGeneration mediaGeneration)
  let _ ← lift (s.requireMatchingGeneration operation generation)
  pure generation

def hasSender (s : ChromiacastMediaSession κ) : DeviceMediaKind → Bool
  | .Video => s.sender
  | .Audio => s.audioSender

def senderGone : DeviceMediaKind → MediaSessionError
  | .Video => .Transport "video sender actor is shut down"
  | .Audio => .Transport "audio sender actor is shut down"

/-- `self.sender()?` and `self.audio_sender()?`. -/
def needSender (kind : DeviceMediaKind) : SessionMethod κ PUnit := do
  let s ← Method.get
  failIf (s.hasSender kind = false) (senderGone kind)

def senderCall (kind : DeviceMediaKind) (op : SenderOp) (generation : NonZeroU64) :
    SessionMethod κ PUnit := do
  needSender kind
  let reply ← request (OwnerCall.sender kind op generation)
  let _ ← lift (reply.mapError .Transport)
  pure ⟨⟩

def graphCall (op : GraphOp) (generation : NonZeroU64) : SessionMethod κ PUnit := do
  let reply ← request (OwnerCall.graph op generation)
  let _ ← lift (reply.mapError .Graph)
  pure ⟨⟩

/-- A call whose result is not looked at. -/
def bestEffort (c : OwnerCall) : SessionMethod κ PUnit := do
  let _ ← request c
  pure ⟨⟩

/-- After an error, undo what was done and leave with it. -/
def orUndo (r : Except MediaSessionError Unit) (undo : SessionMethod κ PUnit) :
    SessionMethod κ PUnit :=
  match r with
  | .ok _ => pure ⟨⟩
  | .error e => do
    undo
    Method.throw e

def completePreparation (admission : Admission κ ρ) (capabilities : κ) : SessionMethod κ PUnit := do
  let s ← Method.get
  failIf (s.state ≠ .Created) (.Transition "Prepare" s.state)
  let _ ← lift ((admission.capabilities capabilities).mapError .InvalidRequest)
  Method.modify fun s => { s with capabilities := some capabilities, state := .Prepared }

/-- `ChromiacastDeviceControl::negotiate_video`. -/
def negotiateVideo (generation : NonZeroU64) (audio : Bool) : SessionMethod κ Negotiated := do
  let s ← Method.get
  failIf s.activeApp.isSome (.Transport "a Cast mirroring application is already active")
  let reply ← request (OwnerCall.negotiate generation audio)
  let negotiated ← lift (reply.mapError .Transport)
  Method.modify fun s => { s with activeApp := some generation }
  pure negotiated

/-- `ChromiacastDeviceControl::stop_video`. -/
def stopVideo : SessionMethod κ (Except MediaSessionError Unit) := do
  let s ← Method.get
  match s.activeApp with
  | none => pure (.ok ())
  | some app => do
    let reply ← request (OwnerCall.stopApp app)
    match reply with
    | .ok _ => do
      Method.modify fun s => { s with activeApp := none }
      pure (.ok ())
    | .error e =>
      pure (.error (.Transport
        (boundedText ("stop Cast mirroring app: " ++ e) MAX_TRANSPORT_ERROR_BYTES)))

def configureGraph (generation : NonZeroU64) : SessionMethod κ PUnit := do
  Method.modify fun s => { s with graphReceivedGeneration := true }
  let reply ← request (OwnerCall.graph .configure generation)
  orUndo (reply.mapError .Graph) (bestEffort (.releasePort .Video generation))

def configureAudio (generation : NonZeroU64) (audioEnabled : Bool) (negotiated : Negotiated) :
    SessionMethod κ PUnit :=
  match audioEnabled, negotiated.audioSender with
  | true, true => do
    needSender .Audio
    let reply ← request (OwnerCall.sender .Audio .configure generation)
    orUndo (reply.mapError .Transport) (bestEffort (.releasePort .Video generation))
    Method.modify fun s => { s with audioSenderReceivedGeneration := true }
  | true, false => do
    bestEffort (.releasePort .Video generation)
    Method.throw (.Transport "Cast receiver did not provide the negotiated audio sender")
  | false, true => do
    bestEffort (.releasePort .Audio generation)
    bestEffort (.releasePort .Video generation)
    Method.throw (.Transport "Cast transport provided audio for a video-only generation")
  | false, false => pure ⟨⟩

/-- The calls of `configure` once the generation is owned. -/
def configureOwners (generation : NonZeroU64) (plan : Plan) : SessionMethod κ PUnit := do
  let negotiated ← negotiateVideo generation plan.audio
  Method.modify fun s => { s with transportActive := true }
  configureGraph generation
  configureAudio generation plan.audio negotiated
  senderCall .Video .configure generation
  Method.modify fun s => { s with senderReceivedGeneration := true, mediaReady := true }

def graphConfiguration (admission : Admission κ ρ) (s : ChromiacastMediaSession κ) (request : ρ)
    (generation : NonZeroU64) : Except MediaSessionError Plan :=
  match s.capabilities with
  | none => .error (.Transition "ConfigureMedia" s.state)
  | some capabilities => admission.graphConfiguration capabilities request generation

/-- Negotiate and hand the generation to its owners. -/
def configure (admission : Admission κ ρ) (request : ρ) (mediaGeneration : UInt64) :
    SessionMethod κ PUnit := do
  let _ ← lift ((admission.configuration request mediaGeneration).mapError .InvalidRequest)
  let s ← Method.get
  failIf (s.state ≠ .Prepared) (.Transition "ConfigureMedia" s.state)
  let generation ← lift (nonzeroGeneration mediaGeneration)
  failIf (∃ completed ∈ s.completedGeneration, generation.get ≤ completed.get)
    (.InvalidRequest ("media generation " ++ toString generation.get ++
      " is not newer than completed generation " ++ generationText s.completedGeneration))
  let plan ← lift (s.graphConfiguration admission request generation)
  Method.modify fun s => { s with
    activeGeneration := some generation
    graphReceivedGeneration := false
    senderReceivedGeneration := false
    audioSenderReceivedGeneration := false
    transportActive := false
    audioEnabled := plan.audio
    mediaReady := false
    videoBitrate := plan.videoBitrate.get
    state := .Configured }
  configureOwners generation plan

def suspendSendersBestEffort (generation : NonZeroU64) : SessionMethod κ PUnit := do
  let s ← Method.get
  when (s.audioEnabled ∧ s.audioSender) (bestEffort (.sender .Audio .suspend generation))
  when s.sender (bestEffort (.sender .Video .suspend generation))

def waitForMediaConfirmation (generation : NonZeroU64) (audio : Bool) : SessionMethod κ PUnit := do
  senderCall .Video .waitForMedia generation
  when audio (senderCall .Audio .waitForMedia generation)
  senderCall .Video .waitForReceiverAck generation
  when audio (senderCall .Video .waitForReceiverAudioAck generation)

/-- The audio half of `start` and `resume`. -/
def streamAudio (op : SenderOp) (generation : NonZeroU64) : SessionMethod κ PUnit := do
  needSender .Audio
  let reply ← request (OwnerCall.sender .Audio op generation)
  orUndo (reply.mapError .Transport) do
    needSender .Video
    bestEffort (.sender .Video .suspend generation)

def streamGraph (op : GraphOp) (generation : NonZeroU64) : SessionMethod κ PUnit := do
  let reply ← request (OwnerCall.graph op generation)
  orUndo (reply.mapError .Graph) (suspendSendersBestEffort generation)

/-- What `start` and `resume` do after their checks. -/
def stream (senderOp : SenderOp) (graphOp : GraphOp) (generation : NonZeroU64) :
    SessionMethod κ PUnit := do
  let s ← Method.get
  senderCall .Video .statistics generation
  when s.audioEnabled (senderCall .Audio .statistics generation)
  senderCall .Video senderOp generation
  when s.audioEnabled (streamAudio senderOp generation)
  streamGraph graphOp generation
  let confirmation ← attempt (waitForMediaConfirmation generation s.audioEnabled)
  orUndo (confirmation.map fun _ => ()) do
    bestEffort (.graph .suspend generation)
    suspendSendersBestEffort generation
  Method.modify fun s => { s with state := .Streaming }

/-- Start the senders and the graph. -/
def start (mediaGeneration : UInt64) : SessionMethod κ PUnit := do
  let generation ← requireGeneration "Start" mediaGeneration .Configured
  let s ← Method.get
  failIf (s.mediaReady = false) (.Graph "Start cannot follow a failed media configuration")
  stream .start .start generation

def resume (mediaGeneration : UInt64) : SessionMethod κ PUnit := do
  let generation ← requireGeneration "Resume" mediaGeneration .Suspended
  stream .resume .resume generation

def suspendAudio (generation : NonZeroU64) : SessionMethod κ PUnit := do
  needSender .Audio
  let reply ← request (OwnerCall.sender .Audio .suspend generation)
  orUndo (reply.mapError .Transport) (bestEffort (.graph .resume generation))

def resumeAudio (generation : NonZeroU64) : SessionMethod κ PUnit := do
  needSender .Audio
  bestEffort (.sender .Audio .resume generation)

def suspendVideo (audio : Bool) (generation : NonZeroU64) : SessionMethod κ PUnit := do
  needSender .Video
  let reply ← request (OwnerCall.sender .Video .suspend generation)
  orUndo (reply.mapError .Transport) do
    when audio (resumeAudio generation)
    bestEffort (.graph .resume generation)

/-- Suspend the graph and the senders. -/
def suspend : SessionMethod κ PUnit := do
  let s ← Method.get
  failIf (s.state ≠ .Streaming) (.Transition "Suspend" s.state)
  let generation ← okOr s.activeGeneration (.Graph "active media generation is missing")
  graphCall .suspend generation
  when s.audioEnabled (suspendAudio generation)
  suspendVideo s.audioEnabled generation
  Method.modify fun s => { s with state := .Suspended }

def stopGraph (generation : NonZeroU64) : SessionMethod κ (Except MediaSessionError Unit) := do
  let s ← Method.get
  if s.graphReceivedGeneration then do
    let reply ← request (OwnerCall.graph .stop generation)
    pure (reply.mapError .Graph)
  else pure (.ok ())

def senderReceived (s : ChromiacastMediaSession κ) : DeviceMediaKind → Bool
  | .Video => s.senderReceivedGeneration
  | .Audio => s.audioSenderReceivedGeneration

def stopSender (kind : DeviceMediaKind) (generation : NonZeroU64) :
    SessionMethod κ (Except MediaSessionError Unit) := do
  let s ← Method.get
  if s.senderReceived kind then
    if s.hasSender kind then do
      let reply ← request (OwnerCall.sender kind .stop generation)
      pure (reply.mapError .Transport)
    else pure (.error (senderGone kind))
  else pure (.ok ())

def stopTransport : SessionMethod κ (Except MediaSessionError Unit) := do
  let s ← Method.get
  if s.transportActive then stopVideo else pure (.ok ())

/-- The four stops of `stop_media`. They run at the same time; none looks at what
another one does. The record of the generation is cleared whatever they answer. -/
def stopOwners (generation : NonZeroU64) : SessionMethod κ PUnit := do
  let graph ← stopGraph generation
  let audio ← stopSender .Audio generation
  let video ← stopSender .Video generation
  let transport ← stopTransport
  Method.modify fun s => { s with
    activeGeneration := none
    completedGeneration := some generation
    graphReceivedGeneration := false
    senderReceivedGeneration := false
    audioSenderReceivedGeneration := false
    transportActive := false
    audioEnabled := false
    mediaReady := false
    videoBitrate := 0
    state := .Prepared }
  let _ ← lift graph
  let _ ← lift audio
  let _ ← lift video
  let _ ← lift transport
  pure ⟨⟩

/-- Ask the owners of the generation to stop it. -/
def stopMedia (mediaGeneration : UInt64) : SessionMethod κ PUnit := do
  let generation ← lift (nonzeroGeneration mediaGeneration)
  let s ← Method.get
  if s.state = .Prepared ∧ s.completedGeneration = some generation then pure ⟨⟩
  else do
    failIf (s.state ∉ [.Configured, .Streaming, .Suspended])
      (.Transition "StopMedia" s.state)
    let _ ← lift (s.requireMatchingGeneration "StopMedia" generation)
    stopOwners generation

/-- Shut down a sender actor that is still there. -/
def shutdownSender (kind : DeviceMediaKind) (present : Bool) :
    SessionMethod κ (Except MediaSessionError Unit) :=
  if present then do
    let reply ← request (OwnerCall.shutdownSender kind)
    pure (reply.mapError .Transport)
  else pure (.ok ())

def shutdown : SessionMethod κ PUnit := do
  let s ← Method.get
  Method.modify fun s => { s with sender := false, audioSender := false }
  let graph ← request OwnerCall.shutdownGraph
  let audio ← shutdownSender .Audio s.audioSender
  let video ← shutdownSender .Video s.sender
  Method.modify fun s => { s with
    activeGeneration := none
    graphReceivedGeneration := false
    senderReceivedGeneration := false
    audioSenderReceivedGeneration := false
    transportActive := false
    audioEnabled := false
    mediaReady := false
    videoBitrate := 0
    state := .Stopped }
  let _ ← lift (graph.mapError .Graph)
  let _ ← lift audio
  let _ ← lift video
  pure ⟨⟩

end ChromiacastMediaSession

/-- The methods of the session. -/
inductive SessionOp (κ ρ : Type) where
  | completePreparation (capabilities : κ)
  | configure (request : ρ) (mediaGeneration : UInt64)
  | start (mediaGeneration : UInt64)
  | suspend
  | resume (mediaGeneration : UInt64)
  | stopMedia (mediaGeneration : UInt64)
  | shutdown
  deriving DecidableEq

def SessionOp.run (admission : Admission κ ρ) : SessionOp κ ρ → SessionMethod κ PUnit
  | .completePreparation capabilities =>
    ChromiacastMediaSession.completePreparation admission capabilities
  | .configure request mediaGeneration =>
    ChromiacastMediaSession.configure admission request mediaGeneration
  | .start mediaGeneration => ChromiacastMediaSession.start mediaGeneration
  | .suspend => ChromiacastMediaSession.suspend
  | .resume mediaGeneration => ChromiacastMediaSession.resume mediaGeneration
  | .stopMedia mediaGeneration => ChromiacastMediaSession.stopMedia mediaGeneration
  | .shutdown => ChromiacastMediaSession.shutdown

/-- The methods in any order. -/
def mediaSession (admission : Admission κ ρ) :
    Service OwnerCall OwnerReply (ChromiacastMediaSession κ) where
  Op := SessionOp κ ρ
  Ret := fun _ => Except MediaSessionError PUnit
  run := SessionOp.run admission

end Pronk.Chromiacast
