import Pronk.Dbus.Device
import Pronk.MediaSession.Types

/-!
# The recovery coordinator of one display

`run_recovery` as a task that moves from one await to the next. What the session port,
the factory and the queues answer is part of the input; the task is generic in the
sessions that pass through its hands. Shutting down an event source is not a phase of
its own, except where a session waits for it.
-/
namespace Pronk.DeviceSession
open Dbus
open MediaSession (boundedChars)

def RECOVERY_COMMAND_CAPACITY : ℕ := 4
def RECOVERY_EVENT_CAPACITY : ℕ := 4
def MAX_RECOVERY_ERROR_BYTES : ℕ := 512

/-- `bounded_text`: a text that is too long ends in three dots. -/
def boundedText (value : String) (maximum : ℕ) : String :=
  if value.utf8ByteSize ≤ maximum then value
  else String.ofList (boundedChars (maximum - 3) value.toList) ++ "..."

/-- Cancellation tokens are named by the order in which they were made. -/
inductive RecoveryCommand where
  | Recover (requestGeneration : UInt64) (device : DeviceInfo) (cancellation : ℕ)
  | Shutdown

inductive DeviceSessionRecoveryEvent where
  | Ready (requestGeneration : UInt64) (device : DeviceInfo) (sessionGeneration : NonZeroU64)
      (retiredSessionCleanupError : Option String)
  | Failed (requestGeneration : UInt64) (device : DeviceInfo) (error : String)
  | TransportFailed (sessionGeneration : NonZeroU64) (error : String)
  deriving DecidableEq

/-- What the event source of a session reports. -/
structure DeviceSessionEvent where
  sessionGeneration : NonZeroU64
  error : String

inductive DeviceSessionFactoryError where
  | Cancelled
  | Failed (text : String)

inductive DeviceSessionReplacementError where
  | Stopped
  | Occupied (current : NonZeroU64)
  | StaleGeneration (current replacement : NonZeroU64)
  | RejectedCleanup (reason cleanup : String)
  deriving DecidableEq

namespace DeviceSessionReplacementError

def text : DeviceSessionReplacementError → String
  | .Stopped => "Device-session owner has stopped"
  | .Occupied current =>
    "Device-session generation " ++ toString current.get ++ " still occupies the replacement slot"
  | .StaleGeneration current replacement => "replacement session generation " ++
    toString replacement.get ++ " is not newer than current generation " ++ toString current.get
  | .RejectedCleanup reason cleanup =>
    reason ++ "; rejected session cleanup also failed: " ++ cleanup

/-- The error of a rejected installation, once the rejected session was stopped. -/
def afterCleanup (reason : DeviceSessionReplacementError) : Option String →
    DeviceSessionReplacementError
  | none => reason
  | some cleanup =>
    match reason with
    | .StaleGeneration current replacement => .RejectedCleanup ("replacement session generation " ++
      toString replacement.get ++ " is not newer than " ++ toString current.get) cleanup
    | other => .RejectedCleanup other.text cleanup

end DeviceSessionReplacementError

/-- A `Recover` command that is being processed, with the session generation that it
consumed. -/
structure Attempt where
  requestGeneration : UInt64
  device : DeviceInfo
  cancellation : ℕ
  sessionGeneration : NonZeroU64
  deriving DecidableEq

/-- Where the task waits. In `stoppingRetired`, `discarding` and `rejecting` the final stop
of the named session is pending. -/
inductive Phase (σ : Type) where
  | waiting
  | retiring (attempt : Attempt)
  | stoppingRetired (attempt : Attempt) (session : σ)
  | creating (attempt : Attempt) (cleanup : Option String)
  | incompatible (attempt : Attempt) (session : σ) (error : String)
  | discarding (attempt : Attempt) (session : σ) (error : String)
  | installing (attempt : Attempt) (cleanup : Option String) (session : σ)
  | rejecting (attempt : Attempt) (session : σ) (reason : DeviceSessionReplacementError)
  | sending (event : DeviceSessionRecoveryEvent)
  | ended
  deriving DecidableEq

/-- The task between two awaits. -/
structure RecoveryTask (σ : Type) where
  phase : Phase σ
  lastSessionGeneration : NonZeroU64
  currentEvents : Bool

/-- What an await returned. -/
inductive TaskInput (σ : Type) where
  | command (command : Option RecoveryCommand)
  | sessionEvent (event : Option DeviceSessionEvent)
  | retired (result : Except DeviceSessionReplacementError (Option σ))
  | retiredStopped (error : Option String)
  | created (result : Except DeviceSessionFactoryError (σ × Except String Unit))
  | eventsShutDown
  | discarded (error : Option String)
  | installed (result : Except DeviceSessionReplacementError Unit)
  | rejectionStopped (error : Option String)
  | sent (received : Bool)

namespace Attempt

/-- `send_failure` for the request. -/
def failure (attempt : Attempt) (error : String) : DeviceSessionRecoveryEvent :=
  .Failed attempt.requestGeneration attempt.device (boundedText error MAX_RECOVERY_ERROR_BYTES)

end Attempt

namespace RecoveryTask

variable {σ : Type}

def goto (t : RecoveryTask σ) (phase : Phase σ) : RecoveryTask σ := { t with phase := phase }

/-- A command taken from the queue. Every attempt consumes a session generation. -/
def onCommand (t : RecoveryTask σ) : Option RecoveryCommand → RecoveryTask σ
  | none => t.goto .ended
  | some .Shutdown => { t with phase := .ended, currentEvents := false }
  | some (.Recover requestGeneration device cancellation) =>
    match (checkedSucc t.lastSessionGeneration.get).bind NonZeroU64.new with
    | none => t.goto (.sending (.Failed requestGeneration device
        (boundedText "Device-session generation exhausted" MAX_RECOVERY_ERROR_BYTES)))
    | some sessionGeneration => {
        phase := .retiring ⟨requestGeneration, device, cancellation, sessionGeneration⟩
        lastSessionGeneration := sessionGeneration
        currentEvents := false }

def onSessionEvent (t : RecoveryTask σ) (event : Option DeviceSessionEvent) : RecoveryTask σ :=
  let event := event.getD ⟨t.lastSessionGeneration, "Device-session event source stopped"⟩
  { t with
    currentEvents := false
    phase := .sending (.TransportFailed event.sessionGeneration
      (boundedText event.error MAX_RECOVERY_ERROR_BYTES)) }

def onCreated (t : RecoveryTask σ) (attempt : Attempt) (cleanup : Option String) :
    Except DeviceSessionFactoryError (σ × Except String Unit) → RecoveryTask σ
  | .error .Cancelled => t.goto .waiting
  | .error (.Failed text) => t.goto (.sending (attempt.failure text))
  | .ok (session, .error error) => t.goto (.incompatible attempt session error)
  | .ok (session, .ok _) => t.goto (.installing attempt cleanup session)

/-- The diagnostic of a session that does not fit the display. -/
def incompatibleText (error : String) : Option String → String
  | some cleanup => "recovered Device session is incompatible: " ++ error ++
    "; replacement cleanup also failed: " ++ cleanup
  | none => "recovered Device session is incompatible: " ++ error

def rejected (t : RecoveryTask σ) (attempt : Attempt) (error : DeviceSessionReplacementError) :
    RecoveryTask σ :=
  t.goto (.sending (attempt.failure ("install recovered Device session: " ++ error.text)))

def onInstalled (t : RecoveryTask σ) (attempt : Attempt) (cleanup : Option String) (session : σ) :
    Except DeviceSessionReplacementError Unit → RecoveryTask σ
  | .ok _ => {
      t with
      currentEvents := true
      phase := .sending (.Ready attempt.requestGeneration attempt.device attempt.sessionGeneration
        cleanup) }
  | .error reason => t.goto (.rejecting attempt session reason)

/-- A failure is dropped when nobody listens any more; the other events end the task. -/
def onSent (t : RecoveryTask σ) (event : DeviceSessionRecoveryEvent) (received : Bool) :
    RecoveryTask σ :=
  match received, event with
  | true, _ => t.goto .waiting
  | false, .Failed _ _ _ => t.goto .waiting
  | false, _ => t.goto .ended

/-- From one await to the next. -/
def step (t : RecoveryTask σ) (input : TaskInput σ) : Option (RecoveryTask σ) :=
  match t.phase, input with
  | .waiting, .command command => some (t.onCommand command)
  | .waiting, .sessionEvent event => if t.currentEvents then some (t.onSessionEvent event) else none
  | .retiring attempt, .retired (.error error) =>
    some (t.goto (.sending (attempt.failure ("retire current Device session: " ++ error.text))))
  | .retiring attempt, .retired (.ok none) => some (t.goto (.creating attempt none))
  | .retiring attempt, .retired (.ok (some session)) =>
    some (t.goto (.stoppingRetired attempt session))
  | .stoppingRetired attempt _, .retiredStopped error => some (t.goto (.creating attempt error))
  | .creating attempt cleanup, .created result => some (t.onCreated attempt cleanup result)
  | .incompatible attempt session error, .eventsShutDown =>
    some (t.goto (.discarding attempt session error))
  | .discarding attempt _ error, .discarded cleanup =>
    some (t.goto (.sending (attempt.failure (incompatibleText error cleanup))))
  | .installing attempt cleanup session, .installed result =>
    some (t.onInstalled attempt cleanup session result)
  | .rejecting attempt _ reason, .rejectionStopped cleanup =>
    some (t.rejected attempt (reason.afterCleanup cleanup))
  | .sending event, .sent received => some (t.onSent event received)
  | _, _ => none

/-- The steps of the task, one constructor for each await that can end. -/
inductive Steps (t : RecoveryTask σ) : TaskInput σ → RecoveryTask σ → Prop
  | command (command : Option RecoveryCommand) (hphase : t.phase = .waiting) :
      Steps t (.command command) (t.onCommand command)
  | sessionEvent (event : Option DeviceSessionEvent) (hphase : t.phase = .waiting)
      (hevents : t.currentEvents = true) : Steps t (.sessionEvent event) (t.onSessionEvent event)
  | refused (attempt : Attempt) (error : DeviceSessionReplacementError)
      (hphase : t.phase = .retiring attempt) : Steps t (.retired (.error error))
        (t.goto (.sending (attempt.failure ("retire current Device session: " ++ error.text))))
  | vacant (attempt : Attempt) (hphase : t.phase = .retiring attempt) :
      Steps t (.retired (.ok none)) (t.goto (.creating attempt none))
  | retired (attempt : Attempt) (session : σ) (hphase : t.phase = .retiring attempt) :
      Steps t (.retired (.ok (some session))) (t.goto (.stoppingRetired attempt session))
  | retiredStopped (attempt : Attempt) (session : σ) (error : Option String)
      (hphase : t.phase = .stoppingRetired attempt session) :
      Steps t (.retiredStopped error) (t.goto (.creating attempt error))
  | created (attempt : Attempt) (cleanup : Option String)
      (result : Except DeviceSessionFactoryError (σ × Except String Unit))
      (hphase : t.phase = .creating attempt cleanup) :
      Steps t (.created result) (t.onCreated attempt cleanup result)
  | eventsShutDown (attempt : Attempt) (session : σ) (error : String)
      (hphase : t.phase = .incompatible attempt session error) :
      Steps t .eventsShutDown (t.goto (.discarding attempt session error))
  | discarded (attempt : Attempt) (session : σ) (error : String) (cleanup : Option String)
      (hphase : t.phase = .discarding attempt session error) : Steps t (.discarded cleanup)
        (t.goto (.sending (attempt.failure (incompatibleText error cleanup))))
  | installed (attempt : Attempt) (cleanup : Option String) (session : σ)
      (result : Except DeviceSessionReplacementError Unit)
      (hphase : t.phase = .installing attempt cleanup session) :
      Steps t (.installed result) (t.onInstalled attempt cleanup session result)
  | rejectionStopped (attempt : Attempt) (session : σ) (reason : DeviceSessionReplacementError)
      (cleanup : Option String) (hphase : t.phase = .rejecting attempt session reason) :
      Steps t (.rejectionStopped cleanup) (t.rejected attempt (reason.afterCleanup cleanup))
  | sent (event : DeviceSessionRecoveryEvent) (received : Bool)
      (hphase : t.phase = .sending event) : Steps t (.sent received) (t.onSent event received)

attribute [local grind intro] Steps in
lemma steps_of_step {t t' : RecoveryTask σ} {input : TaskInput σ}
    (h : t.step input = some t') : Steps t input t' := by
  unfold step at h
  split at h <;> grind

end RecoveryTask

open RecoveryTask

/-- The request that is being processed. -/
def Phase.attempt? {σ : Type} : Phase σ → Option Attempt
  | .retiring attempt => some attempt
  | .stoppingRetired attempt _ => some attempt
  | .creating attempt _ => some attempt
  | .incompatible attempt _ _ => some attempt
  | .discarding attempt _ _ => some attempt
  | .installing attempt _ _ => some attempt
  | .rejecting attempt _ _ => some attempt
  | _ => none

/-- The event ends the request for the device. -/
def DeviceSessionRecoveryEvent.Answers (requestGeneration : UInt64) (device : DeviceInfo) :
    DeviceSessionRecoveryEvent → Prop
  | .Ready answered recovered _ _ => answered = requestGeneration ∧ recovered = device
  | .Failed answered failed _ => answered = requestGeneration ∧ failed = device
  | .TransportFailed _ _ => False

attribute [grind] Phase.attempt? DeviceSessionRecoveryEvent.Answers
attribute [grind =] Attempt.failure goto onCommand
  onSessionEvent onCreated rejected
  onInstalled onSent

/-- A request that is processed stays so until it is answered or cancelled. -/
theorem RecoveryTask.Steps.attempt {σ : Type} {t t' : RecoveryTask σ} {input : TaskInput σ}
    (h : Steps t input t') {attempt : Attempt} (hattempt : t.phase.attempt? = some attempt) :
    t'.phase.attempt? = some attempt ∨
    (∃ event, t'.phase = .sending event ∧
      event.Answers attempt.requestGeneration attempt.device) ∨
    input = .created (.error .Cancelled) := by
  cases h with
  | created a cleanup result hphase =>
    rcases result with (_ | _) | ⟨session, error | _⟩ <;> grind
  | installed a cleanup session result hphase => cases result <;> grind
  | _ => grind

end Pronk.DeviceSession
