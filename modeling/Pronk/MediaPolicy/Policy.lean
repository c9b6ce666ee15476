import Pronk.Library.Transition
import Pronk.MediaSession.Actor

/-!
# The media policy of a display

`run_policy` over the watched input and the media-session actor. The task is cut at
its awaits, so the input may change between any two of its steps. The actor answers
one request at a time and the task always waits for the answer, so a request is
served in one step; the outcomes of the driver calls are part of that step.
-/
namespace Pronk.MediaPolicy
open Interaction Media MediaSession Transition

/-- `std::time::Duration` in nanoseconds. -/
structure Duration where
  nanos : ℕ
  bounded : nanos ≤ 2 ^ 64 * 1000000000 - 1
  deriving DecidableEq

namespace Duration

def saturating (nanos : ℕ) : Duration :=
  ⟨min nanos (2 ^ 64 * 1000000000 - 1), Nat.min_le_right _ _⟩

def saturatingMul (duration : Duration) (multiplier : UInt32) : Duration :=
  saturating (duration.nanos * multiplier.toNat)

def fromMillis (millis : UInt64) : Duration := saturating (millis.toNat * 1000000)

protected def min (a b : Duration) : Duration := if b.nanos < a.nanos then b else a

end Duration

/-- What the media policy is told. -/
structure MediaPolicyInput where
  attachment : AttachmentState
  grant : DisplayGrantState
  (deviceAvailable deviceSessionReady : Bool)
  deviceSessionGeneration : UInt64
  route : Option MediaRoute
  deriving DecidableEq

/-- The budget and the delays. -/
structure MediaRecoveryPolicy where
  maximumAttempts : UInt32 := 6
  initialDelay : Duration := .fromMillis 250
  maximumDelay : Duration := .fromMillis 4000

/-- What the policy asks of the actor. -/
inductive PolicyDecision where
  | Activate (route : MediaRoute)
  | Deactivate
  | GiveUp
  | RetryDeactivate (delay : Duration)
  | Suspend (reason : MediaSuspendReason)
  | Retry (delay : Duration)
  deriving DecidableEq

namespace PolicyDecision

/-- How long `apply_decision` sleeps before its request. -/
def delay : PolicyDecision → Option Duration
  | .RetryDeactivate delay => some delay
  | .Retry delay => some delay
  | _ => none

/-- What `apply_decision` requests; it is not called to give up. -/
def command : PolicyDecision → Option CommandKind
  | .Activate route => some (.Activate route)
  | .Deactivate => some .Deactivate
  | .GiveUp => none
  | .RetryDeactivate _ => some .Deactivate
  | .Suspend reason => some (.Suspend reason)
  | .Retry _ => some .Retry

end PolicyDecision

def decideDeactivate (state : MediaState) (retryDelay : Option Duration) :
    Option PolicyDecision :=
  match state with
  | .Idle => none
  | .Failed => some ((retryDelay.map .RetryDeactivate).getD .GiveUp)
  | _ => some .Deactivate

protected def MediaPolicyInput.decide (input : MediaPolicyInput) (media : MediaSessionSnapshot)
    (retryDelay : Option Duration) : Option PolicyDecision :=
  match input.route with
  | none => decideDeactivate media.state retryDelay
  | some route =>
    if input.attachment ≠ .Attached then decideDeactivate media.state retryDelay
    else if input.deviceAvailable = false ∨ input.deviceSessionReady = false then
      if media.state = .Running then some (.Suspend .DeviceUnavailable) else none
    else if input.grant ≠ .Active then
      if media.state = .Running then some (.Suspend .GrantUnavailable) else none
    else if media.state = .Running ∧ media.route = some route then none
    else if media.state = .Failed ∧ media.route = some route then
      some ((retryDelay.map .Retry).getD .GiveUp)
    else some (.Activate route)

structure RetryContext where
  route : Option MediaRoute
  attachment : AttachmentState
  grant : DisplayGrantState
  (deviceAvailable deviceSessionReady : Bool)
  deviceSessionGeneration : UInt64
  deriving DecidableEq

def RetryContext.fromInput (input : MediaPolicyInput) : RetryContext where
  route := input.route
  attachment := input.attachment
  grant := input.grant
  deviceAvailable := input.deviceAvailable
  deviceSessionReady := input.deviceSessionReady
  deviceSessionGeneration := input.deviceSessionGeneration

/-- The attempts in one context. -/
structure RetryTracker where
  context : Option RetryContext := none
  attempts : UInt32 := 0

namespace RetryTracker

def observe (retry : RetryTracker) (input : MediaPolicyInput) (media : MediaSessionSnapshot) :
    RetryTracker :=
  let context := RetryContext.fromInput input
  if retry.context ≠ some context ∨ media.state = .Running then ⟨some context, 0⟩ else retry

/-- `1_u32.checked_shl(shift)`. -/
def checkedShl (shift : UInt32) : Option UInt32 := if shift < 32 then some (1 <<< shift) else none

def nextDelay (retry : RetryTracker) (policy : MediaRecoveryPolicy) : Option Duration :=
  if policy.maximumAttempts ≤ retry.attempts then none
  else
    let multiplier := (checkedShl (min retry.attempts 30)).getD 0xFFFFFFFF
    some ((policy.initialDelay.saturatingMul multiplier).min policy.maximumDelay)

/-- The count saturates. -/
def recordAttempt (retry : RetryTracker) : RetryTracker :=
  { retry with attempts := if retry.attempts = 0xFFFFFFFF then 0xFFFFFFFF else retry.attempts + 1 }

end RetryTracker

/-- Where the task is. At the top of the loop `dropped` records that the attempt which was
counted last ended without a request. -/
inductive PolicyPhase where
  | observing (dropped : Bool)
  | waiting
  | applying (decision : PolicyDecision)
  | requesting (command : CommandKind)
  | exhausted (error : String)
  | returned
  deriving DecidableEq

/-- What the task has seen and done, as history that no step reads. -/
inductive PolicyNote where
  | observed (input : MediaPolicyInput) (state : MediaState)
  | decided (decision : PolicyDecision)
  | submitted (command : CommandKind)

/-- `inputChanged` and `mediaChanged` say that a watch holds a version which the task has
not seen. -/
structure PolicyTask where
  recovery : MediaRecoveryPolicy
  input : MediaPolicyInput
  session : Session
  latestGeneration : UInt64
  inputChanged : Bool := false
  mediaChanged : Bool := false
  cancelled : Bool := false
  retry : RetryTracker := {}
  phase : PolicyPhase := .observing false
  history : List PolicyNote := []

/-- Driver calls answered from a list; when it is used up they succeed. -/
def outcomeOf : List PhaseOutcome → DriverRequest → PhaseOutcome × List PhaseOutcome
  | [], _ => (.succeeded, [])
  | outcome :: rest, _ => (outcome, rest)

/-- The media-session actor handles one command. -/
def serve (session : Session) (command : CommandKind) (outcomes : List PhaseOutcome) : Session :=
  ((session.turn command).exec outcomeOf outcomes).1.2

/-- `change`, `reportFailure` and `retry` are what the owner of the policy calls, and `leave`
is the return of a task that was cancelled. -/
inductive PolicyStep where
  | change (input : MediaPolicyInput)
  | reportFailure (error : String) (outcomes : List PhaseOutcome)
  | retry (outcomes : List PhaseOutcome)
  | cancel
  | leave
  | observe
  | wakeInput
  | wakeMedia
  | abort
  | submit
  | answer (outcomes : List PhaseOutcome)

namespace PolicyTask

def spawned (recovery : MediaRecoveryPolicy) (input : MediaPolicyInput) (session : Session)
    (latestGeneration : UInt64) : PolicyTask :=
  { recovery, input, session, latestGeneration }

/-- `DisplayMediaPolicyActor::observe`: an equal input is not a change. -/
def change (w : PolicyTask) (input : MediaPolicyInput) : PolicyTask :=
  if w.input = input then w else { w with input := input, inputChanged := true }

def serveMedia (w : PolicyTask) (command : CommandKind) (outcomes : List PhaseOutcome) :
    PolicyTask :=
  { w with session := serve w.session command outcomes, mediaChanged := true }

/-- A request takes its generation before it is sent. -/
def nextGeneration (w : PolicyTask) : Option PolicyTask :=
  (checkedSucc w.latestGeneration).map fun generation =>
    { w with latestGeneration := generation }

/-- The input and the snapshot are read, and the tracker is told. -/
def look (w : PolicyTask) : PolicyTask :=
  { w with
    inputChanged := false
    retry := w.retry.observe w.input w.session.snapshot
    history := w.history ++ [.observed w.input w.session.snapshot.state] }

def takeDecision (w : PolicyTask) (decision : PolicyDecision) : PolicyTask :=
  { w with
    retry := if decision.delay.isSome then w.retry.recordAttempt else w.retry
    phase := .applying decision
    history := w.history ++ [.decided decision] }

def giveUp (w : PolicyTask) : PolicyTask :=
  { w with
    phase := .exhausted (w.session.snapshot.lastError.getD "media recovery budget exhausted") }

def act (w : PolicyTask) : Option PolicyDecision → PolicyTask
  | none => { w with phase := .waiting }
  | some .GiveUp => w.giveUp
  | some decision => w.takeDecision decision

/-- The decision at the top of the loop. -/
def choice (w : PolicyTask) : Option PolicyDecision :=
  w.input.decide w.session.snapshot (w.retry.nextDelay w.recovery)

def observe (w : PolicyTask) : PolicyTask := w.look.act w.look.choice

/-- Without a generation left the request fails at once. -/
def submit (w : PolicyTask) (decision : PolicyDecision) (command : CommandKind) : PolicyTask :=
  match w.nextGeneration with
  | none => { w with phase := .observing decision.delay.isSome }
  | some w => { w with
      phase := .requesting command
      history := w.history ++ [.submitted command] }

/-- Cancellation is seen in the selections: a pending sleep ends, a request is awaited. -/
def leave (w : PolicyTask) : Option PolicyTask :=
  match w.phase with
  | .waiting => some { w with phase := .returned }
  | .observing _ => some { w with phase := .returned }
  | .applying decision => if decision.delay.isSome then some { w with phase := .returned } else none
  | _ => none

def next (w : PolicyTask) : PolicyStep → Option PolicyTask
  | .change input => some (w.change input)
  | .reportFailure error outcomes =>
    w.nextGeneration.map (·.serveMedia (.ReportFailure error) outcomes)
  | .retry outcomes => w.nextGeneration.map (·.serveMedia .Retry outcomes)
  | .cancel => some { w with cancelled := true }
  | .leave => if w.cancelled then w.leave else none
  | .observe =>
    match w.phase with
    | .observing _ => some w.observe
    | _ => none
  | .wakeInput =>
    if w.phase = .waiting ∧ w.inputChanged then
      some { w with inputChanged := false, phase := .observing false }
    else none
  | .wakeMedia =>
    if w.phase = .waiting ∧ w.mediaChanged then
      some { w with mediaChanged := false, phase := .observing false }
    else none
  | .abort =>
    match w.phase with
    | .applying decision =>
      if decision.delay.isSome ∧ w.inputChanged then
        some { w with inputChanged := false, phase := .observing true }
      else none
    | _ => none
  | .submit =>
    match w.phase with
    | .applying decision => decision.command.map (w.submit decision)
    | _ => none
  | .answer outcomes =>
    match w.phase with
    | .requesting command => some { w.serveMedia command outcomes with phase := .observing false }
    | _ => none

/-- The top of the loop waits, gives up or takes a decision. -/
lemma observe_cases (w : PolicyTask) :
    (w.look.choice = none ∧ w.observe = { w.look with phase := .waiting }) ∨
    (w.look.choice = some .GiveUp ∧ w.observe = w.look.giveUp) ∨
    ∃ decision, decision ≠ .GiveUp ∧ w.look.choice = some decision ∧
      w.observe = w.look.takeDecision decision := by
  unfold observe
  cases w.look.choice with
  | none => exact .inl ⟨rfl, rfl⟩
  | some decision =>
    cases decision with
    | GiveUp => exact .inr (.inl ⟨rfl, rfl⟩)
    | _ => exact .inr (.inr ⟨_, PolicyDecision.noConfusion, rfl, rfl⟩)

end PolicyTask

/-- `run_policy`. -/
def policyTask : Machine PolicyTask PolicyStep := ⟨PolicyTask.next⟩

end Pronk.MediaPolicy
