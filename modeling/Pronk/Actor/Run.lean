import Pronk.Actor.Generation

/-!
# The actor loop

One call of the service is one turn of the `select!` in `run_actor`: the branch
that became ready runs to its end. Once the loop has returned, nothing happens
any more. A branch whose guard is false is not polled.
-/
namespace Pronk.Actor
open CastKms Capture Interaction Method Media

def synchronizeCecAuthority (authorityActive : Bool) : ActorM Unit := do
  let s ← Method.get
  if ¬ s.cec.isBound then pure ()
  else if authorityActive then do
    let resumed ← cec (s.client.lease.setCecTransportOnline true)
    orFail "resume connector CEC transport authority" .client resumed
  else do
    Method.modify fun s => { s with pendingCecControl := none }
    let suspended ← cec CecTracker.recordAuthoritySuspended
    orFail "suspend connector CEC transport authority" .client suspended

def completeCec (operation : String) (event : CecTransmitEvent) (completion : CecCompletion) :
    ActorM Unit := do
  let s ← Method.get
  let completed ← cec (s.client.lease.completeCecTransmit event completion)
  orFail operation .client completed

/-- What the actor does with the action that an accepted transmit stands for. -/
def performCecAction (event : CecTransmitEvent) : CecBridgeAction → ActorM Unit
  | .Acknowledge => completeCec "acknowledge CastKMS CEC transmit" event .succeeded
  | .NotAcknowledged =>
    completeCec "reject CastKMS CEC transmit" event (.notAcknowledged event.attempts)
  | .Reply message => do
    completeCec "acknowledge CastKMS CEC request" event .succeeded
    let s ← Method.get
    let injected ← cec (s.client.lease.injectCecMessage message)
    orFail "inject CastKMS CEC response" .client injected
  | .Control operation =>
    Method.modify fun s => { s with pendingCecControl := some ⟨event, operation⟩ }

/-- The body of `handle_cec_transmit`. -/
def admitCecTransmit (bridge : CecBridge) (event : CecTransmitEvent) : ActorM Unit := do
  let s ← Method.get
  failIf s.pendingCecControl.isSome ⟨"handle CastKMS CEC transmit",
    [.text "a Device control operation is already pending"]⟩
  let recorded ← cec (s.client.lease.recordCecTransmit event)
  let admission ← orFail "record CastKMS CEC transmit" .client recorded
  if admission = .Stale then pure ()
  else do
    let translated := bridge.translate event.message
    Method.modify fun s => { s with cecBridge := some translated.2 }
    performCecAction event translated.1

def handleCecTransmit (bridge : CecBridge) (event : CecTransmitEvent) : ActorM Unit := do
  note (.cecTransmit event)
  admitCecTransmit bridge event

/-- Fail the transmit whose Device operation is still running. -/
def failPendingControl : ActorM (Except CastKmsError Unit) := do
  let s ← Method.get
  match s.pendingCecControl with
  | none => pure (.ok ())
  | some pending => do
    Method.modify fun s => { s with pendingCecControl := none }
    cec (s.client.lease.completeCecTransmit pending.event .failed)

/-- The failures of `teardown_cec`. -/
def teardownCec : ActorM (List Message) := do
  let aborted ← failPendingControl
  let s ← Method.get
  if ¬ s.cec.isBound then pure (report "fail pending CEC transmit: " aborted)
  else do
    let offline ← cec (s.client.lease.setCecTransportOnline false)
    let unbound ← cec s.client.lease.unbindCecTransport
    pure (report "fail pending CEC transmit: " aborted ++
      report "take CEC transport offline: " offline ++ report "unbind CEC transport: " unbound)
where
  report (what : String) (r : Except CastKmsError Unit) : List Message :=
    match r with
    | .ok () => []
    | .error e => [[.text what, .client e]]

def requireGeneration (active : Option ActiveGeneration) (requested : NonZeroU64) :
    Except KernelDisplayError ActiveGeneration :=
  match active with
  | none => .error ⟨"select capture generation", [.text "no media generation is active"]⟩
  | some generation =>
    if generation.mediaGeneration ≠ requested then
      .error ⟨"select capture generation", [.text "requested generation ",
        .number requested.get.toNat, .text "; active generation is ",
        .number generation.mediaGeneration.get.toNat]⟩
    else .ok generation

/-- `Activate` and `Suspend` set the flag of the requested generation. -/
def setSuspended (mediaGeneration : NonZeroU64) (suspended : Bool) :
    ActorM (Except KernelDisplayError Unit) := do
  let s ← Method.get
  match requireGeneration s.active mediaGeneration with
  | .error e => pure (.error e)
  | .ok generation => do
    setActive (some { generation with suspended })
    pure (.ok ())

/-- Start a generation unless one is active. -/
def tryStart (config : CastKmsActorConfig) (request : MediaStartRequest) :
    ActorM (Except KernelDisplayError PreparedCaptureMedia) := do
  let s ← Method.get
  if s.active.isSome then
    pure (.error ⟨"start capture generation", [.text "another media generation is still active"]⟩)
  else do
    let started : Except KernelDisplayError (ActiveGeneration × PreparedCaptureMedia) ←
      attempt (startGeneration config request)
    match started with
    | .error e => pure (.error e)
    | .ok (generation, prepared) => do
      setActive (some generation)
      pure (.ok prepared)

/-- A start that nobody waits for any more is undone, and one that left capture
resources behind ends the actor. -/
def answerStart (result : Except KernelDisplayError PreparedCaptureMedia)
    (incompleteRollback : Bool) : ActorM Unit := do
  let taken : Bool ← call .replyStart
  when taken (note (.answered (.start result)))
  when (¬ taken ∧ result.isOk) do
    let stopped ← stopActive
    lift stopped
  failIf incompleteRollback ⟨"roll back failed capture start",
    [.text "capture resources remain owned after startup failure"]⟩

/-- The command to start a generation. -/
def onStart (config : CastKmsActorConfig) (request : MediaStartRequest) : ActorM Unit := do
  let result ← tryStart config request
  let s ← Method.get
  answerStart result (!result.isOk &&
    (s.client.activeCaptureStream.isSome || s.client.retiredCaptureStream.isSome))

/-- The command to stop a generation. -/
def onStop (mediaGeneration : NonZeroU64) : ActorM Unit := do
  let s ← Method.get
  match s.active with
  | none => note (.answered (.stop (.ok ())))
  | some generation =>
    if generation.mediaGeneration = mediaGeneration then do
      let stopped ← stopActive
      note (.answered (.stop stopped))
    else note (.answered (.stop (.error ⟨"stop capture generation",
      [.text "requested generation ", .number mediaGeneration.get.toNat,
        .text "; active generation is ", .number generation.mediaGeneration.get.toNat]⟩)))

/-- The command to detach the monitor, after which the actor ends. -/
def onDetach : ActorM Unit := do
  let stopped ← stopActive
  let shutdown : Except String Unit ← call .videoShutdown
  let cecFailures ← teardownCec
  let s ← Method.get
  let detached ← cec s.client.lease.detachMonitor
  let joined : Except String Unit ← call .joinDetach
  let failures :=
    (match stopped with
      | .ok () => []
      | .error e => [e.toMessage]) ++
    (match shutdown with
      | .ok () => []
      | .error e => [[.text "shut down PipeWire source actor: ", .outside e]]) ++ cecFailures ++
    (match joined, detached with
      | .error e, _ => [[.text "join CastKMS detach", .text ": ", .outside e]]
      | .ok (), .error e => [[.text "detach grant-scoped monitor", .text ": ", .client e]]
      | .ok (), .ok () => [])
  note (.answered (.detach (combinedKernelFailures "tear down CastKMS actor" failures)))

/-- `maybe_queue` with the actor's answer to its failures. -/
def queueOrFail : ActorM Unit := do
  let queued : Except QueueFailure Unit ← attempt maybeQueue
  match queued with
  | .ok () => pure ()
  | .error (.Recoverable e) => failActive e.toMessage
  | .error (.Fatal e) => Method.throw e

/-- Queue after a handled event, or tear down for the error of handling it. -/
def queueAfter (handled : Except KernelDisplayError Unit) : ActorM Unit :=
  match handled with
  | .ok () => queueOrFail
  | .error e => failActive e.toMessage

/-- A grant that is no longer active ends the generation. -/
def failUnlessActive (isActive : Bool) (state : Part) : ActorM Unit := do
  let s ← Method.get
  when (¬ isActive ∧ s.active.isSome)
    (failActive [.text "CastKMS grant became ", state])

/-- The timer: observe, reconcile and publish what changed. -/
def onPoll : ActorM Unit := do
  let observation ← queryObservation
  let s ← Method.get
  let grantChanged := observation.grantState ≠ s.current.grantState
  when (grantChanged ∨ (observation.grantState ≠ .Active ∧ s.active.isSome))
    (reconcileGrantState "reconcile CastKMS grant state" .Query)
  when grantChanged (synchronizeCecAuthority (observation.grantState = .Active))
  publishObservation observation
  failUnlessActive (observation.grantState = .Active) (.displayGrant observation.grantState)

def onGrantState (event : GrantStateEvent) : ActorM Unit := do
  reconcileGrantState "reconcile CastKMS grant-state event" (.Event event)
  synchronizeCecAuthority (event.state = .Active)
  let observation ← queryObservation
  publishObservation observation
  failUnlessActive (event.state = .Active) (.grant event.state)

def onGrantRevoked : ActorM Unit := do
  synchronizeCecAuthority false
  publish .Revoked
  let s ← Method.get
  when s.active.isSome do
    reconcileGrantState "reconcile revoked CastKMS grant" .Query
    failActive [.text "CastKMS grant was revoked"]

/-- A transmit while the transport is offline: bring it back if the grant is
active again. -/
def recheckCecAuthority : ActorM Unit := do
  let s ← Method.get
  when (¬ s.cec.isOnline) do
    let reply ← query s.client.lease.queryGrant
    let grant ← orFail "recheck CEC transmit authority" .client reply
    reconcileGrantState "reconcile CEC transmit authority" .Query
    when (grant.state = .Active) (synchronizeCecAuthority true)

/-- Handle a transmit while the grant is in force. -/
def onCecTransmit (event : CecTransmitEvent) : ActorM Unit := do
  recheckCecAuthority
  let s ← Method.get
  let bridge ← okOr s.cecBridge ⟨"handle CastKMS CEC transmit",
    [.text "CEC event arrived without an enabled Device control port"]⟩
  handleCecTransmit bridge event

def onCaptureFrame (frame : CaptureFrameEvent) : ActorM Unit := do
  let handled : Except KernelDisplayError Unit ← attempt (handleCaptureFrame frame)
  queueAfter handled

/-- Handle one event. -/
def dispatch : CastKmsEvent → ActorM Unit
  | .CaptureFrame frame => onCaptureFrame frame
  | .GrantState event => onGrantState event
  | .GrantRevoked _ => onGrantRevoked
  | .CecTransmit event => onCecTransmit event
  | .Unknown _ => pure ()

def dispatchAll : List CastKmsEvent → ActorM Unit
  | [] => pure ()
  | event :: rest => do
    dispatch event
    dispatchAll rest

/-- The batch that the loop is about to dispatch. -/
def takeBatch : ActorM (List CastKmsEvent) := do
  let read : Except EventReadFailure (List CastKmsEvent) ← call .readEvents
  let finished ← finishRead read
  let events ← orFail "read grant-holder event stream" .events finished
  note (.dispatched events)
  pure events

def onEvents : ActorM Unit := do
  let events ← takeBatch
  dispatchAll events

/-- How the task of a pending Device operation ended. -/
inductive ControlResult where
  | succeeded
  | refused
  | lost
  deriving DecidableEq

def onControl (result : ControlResult) : ActorM Unit := do
  let s ← Method.get
  match s.pendingCecControl with
  | none => pure ()
  | some pending => do
    Method.modify fun s => { s with pendingCecControl := none }
    completeCec "complete Device-backed CEC transmit" pending.event (match result with
      | .succeeded => .succeeded
      | .refused => .notAcknowledged pending.event.attempts
      | .lost => .failed)

/-- The timer that tries to queue again. -/
def onQueueRetry : ActorM Unit := do
  let s ← Method.get
  when (captureQueueNeedsRetry s.active) queueOrFail

/-- `none` when the source actor's event stream closed. -/
def onSourceEvent (event : Option VideoSourceActorEvent) : ActorM Unit := do
  let s ← Method.get
  when s.active.isSome do
    let handled : Except KernelDisplayError Unit ← match event with
      | some event => attempt (handleSourceEvent event)
      | none => pure (.error ⟨"observe PipeWire source",
          [.text "source actor event stream closed"]⟩)
    queueAfter handled

/-- The branches of the `select!`; a command branch carries the command. -/
inductive Branch where
  | start (request : MediaStartRequest)
  | activate (mediaGeneration : NonZeroU64)
  | suspend (mediaGeneration : NonZeroU64)
  | stop (mediaGeneration : NonZeroU64)
  | detach
  | commandsClosed
  | poll
  | events
  | control (result : ControlResult)
  | queueRetry
  | sourceEvent (event : Option VideoSourceActorEvent)
  deriving DecidableEq

/-- The branch body; `true` when the loop returns `Ok` after it. -/
def Branch.body (config : CastKmsActorConfig) : Branch → ActorM Bool
  | .start request => do
    onStart config request
    pure false
  | .activate mediaGeneration => do
    let result ← setSuspended mediaGeneration false
    note (.answered (.activate result))
    pure false
  | .suspend mediaGeneration => do
    let result ← setSuspended mediaGeneration true
    note (.answered (.suspend result))
    pure false
  | .stop mediaGeneration => do
    onStop mediaGeneration
    pure false
  | .detach => do
    onDetach
    pure true
  | .commandsClosed =>
    fail "run CastKMS actor" "all command handles closed without orderly detach"
  | .poll => do
    onPoll
    pure false
  | .events => do
    onEvents
    pure false
  | .control result => do
    onControl result
    pure false
  | .queueRetry => do
    onQueueRetry
    pure false
  | .sourceEvent event => do
    onSourceEvent event
    pure false

/-- One turn of the loop. -/
def Branch.run (config : CastKmsActorConfig) (branch : Branch) (s : ActorState) :
    Program ActorCall ActorCall.Reply (Unit × ActorState) :=
  if s.returned.isSome then .done ((), s)
  else (branch.body config s).bind fun out => .done ((), match out with
    | (.ok false, s') => s'
    | (.ok true, s') => { s' with returned := some (.ok ()) }
    | (.error e, s') => { s' with returned := some (.error e) })

/-- `run_actor`, one turn of its loop after the other. -/
def actorService (config : CastKmsActorConfig) : Service ActorCall ActorCall.Reply ActorState where
  Op := Branch
  Ret _ := Unit
  run := Branch.run config

/-- The state in which `run_actor` enters its loop. -/
def ActorState.initial (config : CastKmsActorConfig) (lease : GrantLease) (cec : CecTracker)
    (current : KernelDisplayObservation) : ActorState where
  client := { lease }
  cec := cec
  cecBridge := if config.deviceControl && cec.isBound then some {} else none
  current := current

end Pronk.Actor
