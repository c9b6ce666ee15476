import Pronk.Library.Interaction
import Pronk.MediaSession.Types

/-!
# The media-session actor

`run_actor` with the driver behind requests. Each command is one turn, and so is the
moment when the last handle is dropped. A driver call is recorded with the snapshot
that was published when it was made. The tokens that the calls are given, and how
requests supersede each other, are in the module on the coordinator: here a call may
end in any way at any time. The time that a phase was given is part of the reply.
-/
namespace Pronk.MediaSession
open Interaction Method Media

/-- The calls of the driver. -/
inductive DriverCall where
  | startCapture (request : MediaStartRequest)
  | startMedia (request : MediaStartRequest)
  | suspend (mediaGeneration : UInt64) (reason : MediaSuspendReason)
  | stop (mediaGeneration : UInt64) (reason : MediaStopReason)
  | shutdown (reason : MediaStopReason)
  deriving DecidableEq

structure DriverRequest where
  call : DriverCall
  published : MediaSessionSnapshot

/-- How `run_phase` sees a call end. A cancelled call is one that failed. -/
inductive PhaseOutcome where
  | succeeded
  | failed (error : String)
  | timedOut (timeout : ℕ)

/-- `handled` is the history of the turns; `none` stands for the closed channel. -/
structure Session where
  snapshot : MediaSessionSnapshot := .idle
  ended : Bool := false
  handled : List (Option CommandKind) := []

abbrev Reply : DriverRequest → Type := fun _ => PhaseOutcome

abbrev SessionMethod := Method DriverRequest Reply Session MediaSessionActorError

def saturatingSucc (v : UInt64) : UInt64 := (checkedSucc v).getD v

/-- A snapshot that would not change keeps its revision. -/
def MediaSessionSnapshot.setState (snapshot : MediaSessionSnapshot) (media : MediaState)
    (route : Option MediaRoute) (generation : Option UInt64) (lastError : Option String) :
    MediaSessionSnapshot :=
  let generation := generation.getD snapshot.mediaGeneration
  if snapshot.state = media ∧ snapshot.route = route ∧ snapshot.mediaGeneration = generation ∧
      snapshot.lastError = lastError then snapshot
  else ⟨saturatingSucc snapshot.revision, generation, media, route, lastError⟩

namespace Session

def setState (media : MediaState) (route : Option MediaRoute) (generation : Option UInt64)
    (lastError : Option String) : SessionMethod PUnit :=
  Method.modify fun s =>
    { s with snapshot := s.snapshot.setState media route generation lastError }

def fail (route : Option MediaRoute) (error : MediaSessionActorError) : SessionMethod PUnit :=
  setState .Failed route none (some (boundedText error.text MAX_ERROR_BYTES))

def runPhase (phase : String) (call : DriverCall) : SessionMethod PUnit := do
  let s ← Method.get
  let outcome ← request ⟨call, s.snapshot⟩
  match outcome with
  | .succeeded => pure ⟨⟩
  | .failed error => Method.throw (.Driver phase error)
  | .timedOut timeout => Method.throw (.PhaseTimeout phase timeout)

def runStop (reason : MediaStopReason) : SessionMethod PUnit := do
  let s ← Method.get
  when (s.snapshot.mediaGeneration ≠ 0)
    (runPhase "stop media" (.stop s.snapshot.mediaGeneration reason))

/-- The cleanup that comes before a new generation. -/
def retire (route : MediaRoute) (reason : MediaStopReason) : SessionMethod PUnit := do
  setState .Reconfiguring (some route) none none
  let stopped ← attempt (runStop reason)
  match stopped with
  | .ok _ => pure ⟨⟩
  | .error error => do
    fail (some route) error
    Method.throw error

def rollbackAfterStartFailure (request : MediaStartRequest) (startError : MediaSessionActorError) :
    SessionMethod PUnit := do
  let cleanup ← attempt
    (runPhase "roll back media" (.stop request.mediaGeneration .TransportFailure))
  let diagnostic := match cleanup with
    | .ok _ => startError.text
    | .error cleanup => boundedText
      (startError.text ++ "; rollback also failed: " ++ cleanup.text) MAX_ERROR_BYTES
  setState .Failed (some request.route) none (some diagnostic)

/-- A start phase that is rolled back when it fails. -/
def startPhase (request : MediaStartRequest) (phase : String) (call : DriverCall) :
    SessionMethod PUnit := do
  let started ← attempt (runPhase phase call)
  match started with
  | .ok _ => pure ⟨⟩
  | .error error => do
    rollbackAfterStartFailure request error
    Method.throw error

def start (route : MediaRoute) : SessionMethod PUnit := do
  let s ← Method.get
  let generation ← okOr (checkedSucc s.snapshot.mediaGeneration) .GenerationExhausted
  let request : MediaStartRequest := ⟨generation, route⟩
  setState .StartingCapture (some route) (some generation) none
  startPhase request "start capture" (.startCapture request)
  setState .StartingMedia (some route) none none
  startPhase request "start backend media" (.startMedia request)
  setState .Running (some route) none none

/-- A failed phase may have left authority behind even when its rollback failed too. -/
def retireCurrent (current : MediaState) (route : MediaRoute) : SessionMethod PUnit :=
  if current = .Failed then retire route .TransportFailure
  else when (current ≠ .Idle) (retire route .ModeChanged)

def activate (route : MediaRoute) : SessionMethod PUnit := do
  failIf (route.routeGeneration = 0) .InvalidRouteGeneration
  let s ← Method.get
  if s.snapshot.state = .Running ∧ s.snapshot.route = some route then pure ⟨⟩
  else do
    retireCurrent s.snapshot.state route
    start route

def suspend (reason : MediaSuspendReason) : SessionMethod PUnit := do
  let s ← Method.get
  if s.snapshot.state = .Suspended then pure ⟨⟩
  else do
    failIf (s.snapshot.state ≠ .Running) (.SuspendUnavailable s.snapshot.state)
    let suspended ← attempt
      (runPhase "suspend media" (.suspend s.snapshot.mediaGeneration reason))
    match suspended with
    | .ok _ => setState .Suspended s.snapshot.route none none
    | .error error => do
      fail s.snapshot.route error
      Method.throw error

/-- Stop the generation; the session ends idle or failed. -/
def stopToIdle (reason : MediaStopReason) : SessionMethod PUnit := do
  let s ← Method.get
  if s.snapshot.state = .Idle then setState .Idle none none none
  else do
    setState .Stopping none none none
    let stopped ← attempt (runStop reason)
    match stopped with
    | .ok _ => setState .Idle none none none
    | .error error => do
      fail none error
      Method.throw error

def retry : SessionMethod PUnit := do
  let s ← Method.get
  match s.snapshot.state, s.snapshot.route with
  | .Failed, some route => activate route
  | state, _ => Method.throw (.RetryUnavailable state)

def reportExternalFailure (error : String) : SessionMethod PUnit := do
  let s ← Method.get
  let cleanup ← attempt (runStop .TransportFailure)
  let diagnostic := match cleanup with
    | .ok _ => error
    | .error cleanup => boundedText (error ++ "; cleanup also failed: " ++ cleanup.text)
      MAX_ERROR_BYTES
  setState .Failed s.snapshot.route none (some diagnostic)
  lift cleanup

def combineShutdown : Except MediaSessionActorError PUnit → Except MediaSessionActorError PUnit →
    Except MediaSessionActorError PUnit
  | .ok _, .ok _ => .ok ⟨⟩
  | .error error, .ok _ => .error error
  | .ok _, .error error => .error error
  | .error media, .error finalError =>
    .error (.CombinedShutdown media.text finalError.text)

def shutdownDriver (reason : MediaStopReason) : SessionMethod PUnit := do
  let media ← attempt (stopToIdle reason)
  let final ← attempt (runPhase "shut down media driver" (.shutdown reason))
  lift (combineShutdown media final)

/-- The loop returns after the driver was shut down. -/
def finish (reason : MediaStopReason) : SessionMethod PUnit := do
  let result ← attempt (shutdownDriver reason)
  Method.modify fun s => { s with ended := true }
  lift result

/-- One command. -/
def handle : Option CommandKind → SessionMethod PUnit
  | some (.Activate route) => activate route
  | some .Deactivate => stopToIdle .OutputDisabled
  | some (.Suspend reason) => suspend reason
  | some .Retry => retry
  | some (.ReportFailure error) => reportExternalFailure (boundedText error MAX_ERROR_BYTES)
  | some (.Shutdown reason) => finish reason
  | none => finish .BackendShutdown

/-- After the loop has returned a command is not received any more. -/
def turn (command : Option CommandKind) : SessionMethod PUnit := do
  let s ← Method.get
  when (s.ended = false) do
    Method.modify fun s => { s with handled := s.handled ++ [command] }
    handle command

end Session

/-- `run_actor`, one turn for each received command. -/
def mediaSession : Service DriverRequest Reply Session where
  Op := Option CommandKind
  Ret := fun _ => Except MediaSessionActorError PUnit
  run := Session.turn

end Pronk.MediaSession
