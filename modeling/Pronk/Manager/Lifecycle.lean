import Mathlib.Data.List.AList
import Pronk.Dbus.Device
import Pronk.Library.Transition

/-!
# Display lifecycle of the manager

The tables of `run_manager` that own displays, and every input of its loop that
writes to them: commands, joined setup and removal tasks, slot events and the
shutdown that follows the loop. The tasks of the setups and the clients that watch
them take steps of their own. A display identity is drawn at random and taken to be
fresh; the task of a setup is found by that identity. Of a display the manager only
reads the device it stands for, so snapshots are left out of the events. The history
records what was answered, published and observed; no branch reads it.
-/
namespace Pronk.Manager
open Dbus Transition

def MAX_RETAINED_SETUP_OPERATIONS : ℕ := 128

/-- 128 random bits. -/
structure CastDisplayId where
  bits : BitVec 128
  deriving DecidableEq

structure DeviceTarget where
  (backendId deviceId : String)
  deriving DecidableEq

def DeviceTarget.ofSelection (selection : DeviceSelection) : DeviceTarget :=
  ⟨selection.backendId, selection.deviceId⟩

/-- How far a setup has come. -/
inductive DisplaySetupStage where
  | Validating
  | Authorizing
  | PreparingDevice
  | Attaching
  | Added
  | Cancelled
  | Failed
  deriving DecidableEq

def DisplaySetupStage.isTerminal : DisplaySetupStage → Bool
  | .Added => true
  | .Cancelled => true
  | .Failed => true
  | _ => false

/-- What a setup shares with the holders of its handle: the published stage and the
cancellation token. -/
structure DisplaySetup where
  stage : DisplaySetupStage
  cancelled : Bool := false

/-- The result of the task that ran a setup; `lost` if it panicked. -/
inductive SetupResult where
  | added
  | cancelled
  | failed
  | lost
  deriving DecidableEq

/-- The stage that the task publishes before it returns. -/
def SetupResult.stage? : SetupResult → Option DisplaySetupStage
  | .added => some .Added
  | .cancelled => some .Cancelled
  | .failed => some .Failed
  | .lost => none

/-- A task of the manager that waits for a setup; it has a result once the setup's
own task returned. -/
structure SetupTask where
  target : DeviceTarget
  result : Option SetupResult := none

inductive DisplaySetupStartError where
  | InvalidOffer (what : String)
  | Identity (errno : Errno)
  deriving DecidableEq

inductive StartDisplaySetupError where
  | InvalidSelection (error : ValidationError)
  | TooManyOperations
  | IdentityCollision
  | InconsistentTarget
  | Start (error : DisplaySetupStartError)
  deriving DecidableEq

inductive RemoveManagedDisplayError where
  | Cleanup (error : String)
  deriving DecidableEq

/-- What clients are told about displays. -/
inductive LifecycleEvent where
  | DisplayAdded (displayId : CastDisplayId)
  | DisplayStateChanged (displayId : CastDisplayId)
  | DisplayRemoved (displayId : CastDisplayId)
  deriving DecidableEq

inductive CastDisplaySlotEvent where
  | StateChanged (displayId : CastDisplayId)
  | TerminalFailure (displayId : CastDisplayId)
  deriving DecidableEq

/-- A cancellation answer is recorded with the stage it was decided on, and a
removal answer with the waiter it was sent to. -/
inductive Happening where
  | observed (displayId : CastDisplayId) (stage : DisplaySetupStage)
  | startAnswered (result : Except StartDisplaySetupError CastDisplayId)
  | cancelAnswered (displayId : CastDisplayId) (stage : Option DisplaySetupStage)
      (cancelled : Bool)
  | forgetAnswered (displayId : CastDisplayId) (forgotten : Bool)
  | removeAnswered (waiter : ℕ) (displayId : CastDisplayId)
      (result : Except RemoveManagedDisplayError Unit)
  | published (event : LifecycleEvent)
  deriving DecidableEq

/-- `setups` holds every setup that was ever spawned; `removalTasks` and
`removalWaiters` belong to displays that are being removed, `shutdownRemovals` to
those that are removed after the loop. -/
structure ManagerState where
  setups : AList fun _ : CastDisplayId => DisplaySetup := ∅
  operations : AList fun _ : CastDisplayId => DeviceTarget := ∅
  targetOwners : AList fun _ : DeviceTarget => CastDisplayId := ∅
  displays : AList fun _ : CastDisplayId => DeviceTarget := ∅
  setupTasks : AList fun _ : CastDisplayId => SetupTask := ∅
  removalTasks : AList fun _ : CastDisplayId => DeviceTarget := ∅
  removalWaiters : AList fun _ : CastDisplayId => List ℕ := ∅
  shutdownRemovals : AList fun _ : CastDisplayId => DeviceTarget := ∅
  closing : Bool := false
  history : List Happening := []

/-- The command's own response channel is its last field; a started setup carries
what `spawn_display_setup_operation` returned. -/
inductive ManagerCommand where
  | StartDisplaySetup (selection : DeviceSelection)
      (spawned : Except DisplaySetupStartError CastDisplayId)
  | CancelDisplaySetup (displayId : CastDisplayId)
  | ForgetDisplaySetupOperation (displayId : CastDisplayId)
  | RemoveDisplay (displayId : CastDisplayId) (waiter : ℕ)
  | Shutdown
  deriving DecidableEq

/-- How a joined setup task ended for the manager. Of an added display,
`spawned` says whether its slot actor could be spawned. -/
inductive SetupJoin where
  | completed (spawned : Bool)
  | aborted
  deriving DecidableEq

/-- A step of the loop or of the tasks around it. -/
inductive Input where
  | command (command : ManagerCommand)
  | joinSetup (displayId : CastDisplayId) (join : SetupJoin)
  | joinRemoval (displayId : CastDisplayId) (result : Except String Unit)
  | slotEvent (event : CastDisplaySlotEvent)
  | finish
  | advance (displayId : CastDisplayId) (stage : DisplaySetupStage)
  | settle (displayId : CastDisplayId) (result : SetupResult)
  | observe (displayId : CastDisplayId)
  deriving DecidableEq

def releaseTargetOwner (owners : AList fun _ : DeviceTarget => CastDisplayId)
    (target : DeviceTarget) (displayId : CastDisplayId) :
    AList fun _ : DeviceTarget => CastDisplayId :=
  if owners.lookup target = some displayId then owners.erase target else owners

namespace ManagerState

def note (s : ManagerState) (h : Happening) : ManagerState := { s with history := s.history ++ [h] }

def publish (s : ManagerState) (event : LifecycleEvent) : ManagerState := s.note (.published event)

def isTerminal (s : ManagerState) (displayId : CastDisplayId) : Bool :=
  (s.setups.lookup displayId).any (·.stage.isTerminal)

def cancelSetup (s : ManagerState) (displayId : CastDisplayId) : ManagerState :=
  match s.setups.lookup displayId with
  | some setup => { s with setups := s.setups.insert displayId { setup with cancelled := true } }
  | none => s

/-- The tables after a setup was spawned under a fresh identity. -/
def installSetup (s : ManagerState) (target : DeviceTarget) (displayId : CastDisplayId) :
    ManagerState :=
  { s with
    setups := s.setups.insert displayId { stage := .Validating }
    operations := s.operations.insert displayId target
    targetOwners := s.targetOwners.insert target displayId
    setupTasks := s.setupTasks.insert displayId { target } }

/-- A setup that is spawned and dropped again is cancelled at once. The target that
had no owner before the spawn has none after it. -/
def startManagedDisplaySetup (s : ManagerState) (selection : DeviceSelection)
    (spawned : Except DisplaySetupStartError CastDisplayId) :
    ManagerState × Except StartDisplaySetupError CastDisplayId :=
  let target := DeviceTarget.ofSelection selection
  match selection.validate with
  | .error e => (s, .error (.InvalidSelection e))
  | .ok () =>
    match s.targetOwners.lookup target with
    | some owner =>
      if owner ∈ s.operations then (s, .ok owner) else (s, .error .InconsistentTarget)
    | none =>
      if s.operations.keys.length ≥ MAX_RETAINED_SETUP_OPERATIONS then
        (s, .error .TooManyOperations)
      else
        match spawned with
        | .error e => (s, .error (.Start e))
        | .ok displayId =>
          if displayId ∈ s.operations then
            ({ s with setups := s.setups.insert displayId ⟨.Validating, true⟩ },
              .error .IdentityCollision)
          else (s.installSetup target displayId, .ok displayId)

def cancelDisplaySetup (s : ManagerState) (displayId : CastDisplayId) : ManagerState :=
  let stage := if displayId ∈ s.operations then (s.setups.lookup displayId).map (·.stage) else none
  if stage.any (!·.isTerminal) then
    (s.cancelSetup displayId).note (.cancelAnswered displayId stage true)
  else s.note (.cancelAnswered displayId stage false)

def forgetDisplaySetupOperation (s : ManagerState) (displayId : CastDisplayId) : ManagerState :=
  let forgettable := (s.operations.lookup displayId).any fun target =>
    s.isTerminal displayId && s.targetOwners.lookup target ≠ some displayId &&
      displayId ∉ s.displays && displayId ∉ s.removalWaiters
  if forgettable then
    { s with operations := s.operations.erase displayId }.note (.forgetAnswered displayId true)
  else s.note (.forgetAnswered displayId false)

/-- A display that is being removed gets one more waiter, one that is there starts
its removal, and for any other identity the answer is immediate. -/
def removeDisplay (s : ManagerState) (displayId : CastDisplayId) (waiter : ℕ) : ManagerState :=
  match s.removalWaiters.lookup displayId with
  | some waiters =>
    { s with removalWaiters := s.removalWaiters.insert displayId (waiters ++ [waiter]) }
  | none =>
    match s.displays.lookup displayId with
    | some target =>
      { s with
        displays := s.displays.erase displayId
        removalWaiters := s.removalWaiters.insert displayId [waiter]
        removalTasks := s.removalTasks.insert displayId target }
    | none => s.note (.removeAnswered waiter displayId (.ok ()))

/-- The loop ends, and every setup that has not ended is cancelled. -/
def shutdown (s : ManagerState) : ManagerState :=
  let running := s.operations.keys.filter (!s.isTerminal ·)
  { running.foldl cancelSetup s with closing := true }

/-- After the loop the returned event is not sent. -/
def send (s : ManagerState) (event : LifecycleEvent) : ManagerState :=
  if s.closing then s else s.publish event

def release (s : ManagerState) (target : DeviceTarget) (displayId : CastDisplayId) :
    ManagerState :=
  { s with targetOwners := releaseTargetOwner s.targetOwners target displayId }

/-- A setup whose record is gone leaves nothing to install. -/
def handleSetupJoin (s : ManagerState) (displayId : CastDisplayId) (task : SetupTask)
    (result : SetupResult) (spawned : Bool) : ManagerState :=
  let joined := { s with setupTasks := s.setupTasks.erase displayId }
  match s.operations.lookup displayId with
  | none => joined
  | some target =>
    if result = .added ∧ spawned then
      { joined with displays := s.displays.insert displayId task.target }.send
        (.DisplayAdded displayId)
    else joined.release target displayId

/-- The manager's own task failed: the setup's record goes with it. -/
def handleSetupAbort (s : ManagerState) (displayId : CastDisplayId) : ManagerState :=
  let joined := { s with setupTasks := s.setupTasks.erase displayId }
  match s.operations.lookup displayId with
  | none => joined
  | some target =>
    { joined with operations := s.operations.erase displayId }.release target displayId

/-- The end of a removal answers its waiters. -/
def handleRemovalJoin (s : ManagerState) (displayId : CastDisplayId) (target : DeviceTarget)
    (result : Except String Unit) : ManagerState :=
  let answers := ((s.removalWaiters.lookup displayId).getD []).map fun waiter =>
    Happening.removeAnswered waiter displayId (result.mapError .Cleanup)
  let joined := { s with
    removalTasks := s.removalTasks.erase displayId
    operations := s.operations.erase displayId
    removalWaiters := s.removalWaiters.erase displayId
    history := s.history ++ answers }
  (joined.release target displayId).send (.DisplayRemoved displayId)

def handleSlotEvent (s : ManagerState) : CastDisplaySlotEvent → ManagerState
  | .StateChanged displayId =>
    if displayId ∈ s.displays then s.publish (.DisplayStateChanged displayId) else s
  | .TerminalFailure displayId =>
    match s.displays.lookup displayId with
    | none => s
    | some target =>
      ({ s with displays := s.displays.erase displayId }.release target displayId).publish
        (.DisplayRemoved displayId)

/-- The commands of clients. -/
def handleCommand (s : ManagerState) : ManagerCommand → Option ManagerState
  | .StartDisplaySetup selection spawned =>
    if spawned.toOption.any (· ∈ s.setups) then none
    else
      let (s', result) := s.startManagedDisplaySetup selection spawned
      some (s'.note (.startAnswered result))
  | .CancelDisplaySetup displayId => some (s.cancelDisplaySetup displayId)
  | .ForgetDisplaySetupOperation displayId => some (s.forgetDisplaySetupOperation displayId)
  | .RemoveDisplay displayId waiter => some (s.removeDisplay displayId waiter)
  | .Shutdown => some s.shutdown

/-- The task of a running setup publishes its last stage and returns. -/
def settle (s : ManagerState) (displayId : CastDisplayId) (task : SetupTask) (setup : DisplaySetup)
    (result : SetupResult) : ManagerState :=
  { s with
    setups := s.setups.insert displayId { setup with stage := result.stage?.getD setup.stage }
    setupTasks := s.setupTasks.insert displayId { task with result := some result } }

end ManagerState

/-- After the loop the setup tasks are joined, then the removal tasks, and then the
removal of every display is started, once. -/
def ManagerState.next (s : ManagerState) : Input → Option ManagerState
  | .command command => if s.closing then none else s.handleCommand command
  | .joinSetup displayId join =>
    match s.setupTasks.lookup displayId, join with
    | some task, .completed spawned =>
      task.result.map fun result => s.handleSetupJoin displayId task result spawned
    | some _, .aborted => some (s.handleSetupAbort displayId)
    | none, _ => none
  | .joinRemoval displayId result =>
    if s.closing ∧ s.setupTasks.keys ≠ [] then none
    else (s.removalTasks.lookup displayId).map fun target =>
      s.handleRemovalJoin displayId target result
  | .slotEvent event => if s.closing then none else some (s.handleSlotEvent event)
  | .finish =>
    if s.closing ∧ s.setupTasks.keys = [] ∧ s.removalTasks.keys = [] ∧
        s.shutdownRemovals.keys = [] then
      some { s with displays := ∅, shutdownRemovals := s.displays }
    else none
  | .advance displayId stage =>
    match s.setupTasks.lookup displayId, s.setups.lookup displayId with
    | some ⟨_, none⟩, some setup =>
      if stage.isTerminal then none
      else some { s with setups := s.setups.insert displayId { setup with stage } }
    | _, _ => none
  | .settle displayId result =>
    match s.setupTasks.lookup displayId, s.setups.lookup displayId with
    | some ⟨target, none⟩, some setup => some (s.settle displayId ⟨target, none⟩ setup result)
    | _, _ => none
  | .observe displayId => (s.setups.lookup displayId).map fun setup =>
      s.note (.observed displayId setup.stage)

/-- The loop of the manager. -/
def manager : Machine ManagerState Input := ⟨ManagerState.next⟩

end Pronk.Manager
