import Pronk.CastDisplay.State
import Pronk.DeviceSession.Recovery
import Pronk.Library.Transition
import Pronk.MediaPolicy.Policy
import Pronk.MediaSession.Numbering

/-!
# The owner of one configured display

`run_slot` and the recovery coordinator it owns, between their two bounded queues. The
slot handles one input at a time and waits in between: for the next input, for room
in the command queue, for the media actor to take a failure, and at the end for the
coordinator. What the kernel, the media actor and the coordinator's own ports answer
is part of the input. `published` and `accepted` are history: no step reads them.
-/
namespace Pronk.CastDisplay
open Dbus Media DeviceSession Transition
open MediaPolicy (MediaPolicyInput)
open MediaSession (MediaSessionSnapshot)

/-- `pendingRequest` holds a request generation and the connection and discovery
generations of the device it was made for. -/
structure DeviceSessionPolicyState where
  ready : Bool
  (boundConnectionGeneration sessionGeneration : UInt64)
  pendingRequest : Option (UInt64 × UInt64 × UInt64)

inductive DeviceSessionAction where
  | Cancel
  | Recover (device : DeviceInfo)

namespace DeviceSessionPolicyState

def new (device : DeviceInfo) (ready : Bool) (sessionGeneration : UInt64) :
    DeviceSessionPolicyState :=
  ⟨ready, device.connectionGeneration, sessionGeneration, none⟩

def observeDevice (policy : DeviceSessionPolicyState) (device : DeviceInfo) :
    Option DeviceSessionAction × DeviceSessionPolicyState :=
  if policy.ready ∧ policy.boundConnectionGeneration = device.connectionGeneration then
    (none, policy)
  else if device.availability ≠ .Available then
    (some .Cancel, { policy with ready := false, pendingRequest := none })
  else (some (.Recover device), { policy with ready := false })

/-- A live session is left alone; without one the request follows the device. -/
theorem observeDevice_cases (policy : DeviceSessionPolicyState) (device : DeviceInfo) :
    (policy.ready = true ∧ policy.observeDevice device = (none, policy)) ∨
    (device.availability ≠ .Available ∧ policy.observeDevice device =
      (some .Cancel, { policy with ready := false, pendingRequest := none })) ∨
    (device.availability = .Available ∧ policy.observeDevice device =
      (some (.Recover device), { policy with ready := false })) := by
  unfold observeDevice
  split_ifs with hbound havailable
  · exact .inl ⟨hbound.1, rfl⟩
  · exact .inr (.inl ⟨havailable, rfl⟩)
  · exact .inr (.inr ⟨not_not.1 havailable, rfl⟩)

def deviceAvailable (policy : DeviceSessionPolicyState) (device : DeviceInfo) : Bool :=
  policy.ready || device.availability = .Available

/-- How a request for the device is remembered. -/
def request (requestGeneration : UInt64) (device : DeviceInfo) : UInt64 × UInt64 × UInt64 :=
  (requestGeneration, device.connectionGeneration, device.discoveryGeneration)

def beginRequest (policy : DeviceSessionPolicyState) (requestGeneration : UInt64)
    (device : DeviceInfo) : DeviceSessionPolicyState :=
  { policy with pendingRequest := some (request requestGeneration device) }

def completeRequest (policy : DeviceSessionPolicyState) (requestGeneration : UInt64)
    (recovered : DeviceInfo) (sessionGeneration : UInt64) (current : DeviceInfo) :
    Bool × DeviceSessionPolicyState :=
  if policy.pendingRequest ≠ some (request requestGeneration recovered) ∨ recovered ≠ current ∨
      current.availability ≠ .Available then (false, policy)
  else (true, ⟨true, recovered.connectionGeneration, sessionGeneration, none⟩)

def failRequest (policy : DeviceSessionPolicyState) (requestGeneration : UInt64)
    (device : DeviceInfo) : Bool × DeviceSessionPolicyState :=
  if policy.pendingRequest ≠ some (request requestGeneration device) then (false, policy)
  else (true, { policy with ready := false, pendingRequest := none })

def transportFailed (policy : DeviceSessionPolicyState) (sessionGeneration : UInt64) :
    Bool × DeviceSessionPolicyState :=
  if policy.ready = false ∨ policy.sessionGeneration ≠ sessionGeneration then (false, policy)
  else (true, { policy with ready := false, pendingRequest := none })

end DeviceSessionPolicyState

/-- `MediaRoute::from_display_state`. -/
def mediaRoute (state : DisplayRuntimeState) : Option MediaRoute :=
  match state.route with
  | .Disabled => none
  | .Active route =>
    if state.routeGeneration ≠ 0 then some ⟨state.routeGeneration, route.target, route.mode⟩
    else none

def mediaPolicyInput (snapshot : AddedCastDisplaySnapshot) (policy : DeviceSessionPolicyState) :
    MediaPolicyInput where
  attachment := snapshot.runtime.attachment
  grant := snapshot.grantState
  deviceAvailable := policy.deviceAvailable snapshot.device
  deviceSessionReady := policy.ready
  deviceSessionGeneration := policy.sessionGeneration
  route := mediaRoute snapshot.runtime

inductive DeviceSessionRecoveryError where
  | Stopped
  | GenerationExhausted

def DeviceSessionRecoveryError.text : DeviceSessionRecoveryError → String
  | .Stopped => "Device-session recovery actor stopped"
  | .GenerationExhausted => "Device-session recovery generation exhausted"

/-- The tokens are numbered in the order in which they were made. -/
structure DeviceSessionRecoveryHandle where
  requestGeneration : UInt64 := 0
  phaseCancellation : ℕ := 0
  cancelled : List ℕ := []

namespace DeviceSessionRecoveryHandle

def cancelPhase (handle : DeviceSessionRecoveryHandle) : DeviceSessionRecoveryHandle :=
  { handle with cancelled := handle.phaseCancellation :: handle.cancelled }

/-- The token of the phase before is cancelled and replaced. -/
def beginRequest (handle : DeviceSessionRecoveryHandle) : DeviceSessionRecoveryHandle :=
  { handle.cancelPhase with phaseCancellation := handle.phaseCancellation + 1 }

/-- `recover`, up to the send: the generation and the token are those of the new handle. -/
def recover (handle : DeviceSessionRecoveryHandle) :
    Except DeviceSessionRecoveryError DeviceSessionRecoveryHandle :=
  match checkedSucc handle.requestGeneration with
  | none => .error .GenerationExhausted
  | some requestGeneration =>
    .ok { handle.beginRequest with requestGeneration := requestGeneration }

end DeviceSessionRecoveryHandle

/-- Where the slot waits. `recovering` has a request that is not in the queue yet, with the
diagnostic of the transport failure that it follows; `reporting` goes on to a terminal
error if it has one. -/
inductive SlotPhase where
  | waiting
  | recovering (requestGeneration : UInt64) (device : DeviceInfo) (cancellation : ℕ)
      (failure : Option String)
  | reporting (terminal : Option String)
  | stopping
  | joining
  | ended
  deriving DecidableEq

/-- A session that the slot took for its display. -/
structure Acceptance where
  (requestGeneration sessionGeneration : UInt64)

/-- The variables of `run_slot` and its coordinator. -/
structure Slot where
  phase : SlotPhase := .waiting
  snapshot : AddedCastDisplaySnapshot
  policy : DeviceSessionPolicyState
  policyInput : MediaPolicyInput
  mediaEventsOpen : Bool := true
  terminalError : Option String := none
  handle : DeviceSessionRecoveryHandle := {}
  commands : List RecoveryCommand := []
  events : List DeviceSessionRecoveryEvent := []
  task : RecoveryTask Unit
  published : List AddedCastDisplaySnapshot
  accepted : List Acceptance

/-- The first three are the branches of the loop that have inputs of their own; a failed
kernel port gives its text. -/
inductive Input where
  | updateDevice (device : DeviceInfo)
  | kernel (event : Except String KernelDisplayEvent)
  | media (snapshot : MediaSession.PublishedSnapshot)
  | mediaClosed
  | recoveryEvent
  | recoveryStopped
  | policyEvent (exhausted : Option String)
  | remove
  | recoverSent
  | recoverRefused
  | reported
  | shutdownSent
  | joined
  | dequeue
  | recovery (input : TaskInput Unit)
  | eventSent

namespace Slot

/-- The slot takes over a display whose setup succeeded. -/
def initial (display : AddedCastDisplay) (observation : KernelDisplayObservation) : Slot :=
  let snapshot := AddedCastDisplaySnapshot.initial display observation
  let policy := DeviceSessionPolicyState.new display.prepared.device
    (snapshot.device.availability = .Available) display.initialSessionGeneration.get
  { snapshot := snapshot
    policy := policy
    policyInput := mediaPolicyInput snapshot policy
    task := ⟨.waiting, display.initialSessionGeneration, true⟩
    published := [snapshot]
    accepted := [⟨0, display.initialSessionGeneration.get⟩] }

/-- Change the snapshot and publish it. -/
def publish (w : Slot) (snapshot : AddedCastDisplaySnapshot) : Slot :=
  { w with snapshot := snapshot, published := w.published ++ [snapshot] }

def publishMediaFailure (w : Slot) (diagnostic : String) : Slot :=
  w.publish (w.snapshot.failMedia diagnostic)

/-- `media_policy.observe`. -/
def observePolicy (w : Slot) : Slot :=
  { w with policyInput := mediaPolicyInput w.snapshot w.policy }

/-- The loop is left, and `shutdown` of the coordinator begins. -/
def leave (w : Slot) (terminalError : Option String) : Slot :=
  { w with phase := .stopping, terminalError := terminalError, handle := w.handle.cancelPhase }

/-- A request that could not be made. Without a transport failure before it the display
has nothing else to report. -/
def recoverFailed (w : Slot) (failure : Option String) (error : DeviceSessionRecoveryError) :
    Slot :=
  match failure with
  | none =>
    let diagnostic := "start Device-session recovery: " ++ error.text
    (w.publishMediaFailure diagnostic).leave (some diagnostic)
  | some _ => { w with phase := .reporting (some
      ("start recovery after Device-session transport failure: " ++ error.text)) }

/-- Ask the coordinator for a new session. -/
def recover (w : Slot) (device : DeviceInfo) (failure : Option String) : Slot :=
  match w.handle.recover with
  | .error error => w.recoverFailed failure error
  | .ok handle => { w with
      handle := handle
      phase := .recovering handle.requestGeneration device handle.phaseCancellation failure }

/-- The snapshot is published if the device is another one. -/
def refreshDevice (w : Slot) (device : DeviceInfo) : Slot :=
  match w.snapshot.updateDevice device with
  | (true, snapshot) => w.publish snapshot
  | (false, _) => w

/-- The device and the policy state that follows from it. -/
def noteDevice (w : Slot) (policy : DeviceSessionPolicyState) (device : DeviceInfo) : Slot :=
  (refreshDevice { w with policy := policy } device).observePolicy

def cancelPhase (w : Slot) : Slot := { w with handle := w.handle.cancelPhase }

def updateDevice (w : Slot) (device : DeviceInfo) : Slot :=
  match w.policy.observeDevice device with
  | (none, policy) => if w.snapshot.device = device then w else w.noteDevice policy device
  | (some .Cancel, policy) => (w.noteDevice policy device).cancelPhase
  | (some (.Recover device), policy) => (w.noteDevice policy device).recover device none

def kernelEvent (w : Slot) (event : KernelDisplayEvent) : Slot :=
  let w := (w.publish (w.snapshot.applyKernelEvent event)).observePolicy
  match event with
  | .Changed _ => w
  | .Revoked => w.leave (some "CastKMS grant was revoked")
  | .MediaFailed _ => { w with phase := .reporting none }

def kernelFailed (w : Slot) (diagnostic : String) : Slot :=
  (w.publish (w.snapshot.failKernel diagnostic)).leave (some diagnostic)

def observeMedia (w : Slot) (media : MediaSessionSnapshot) : Slot :=
  match w.snapshot.observeMedia media with
  | (true, snapshot) => w.publish snapshot
  | (false, _) => w

def onReady (w : Slot) (requestGeneration : UInt64) (device : DeviceInfo)
    (sessionGeneration : NonZeroU64) : Slot :=
  match w.policy.completeRequest requestGeneration device sessionGeneration.get
      w.snapshot.device with
  | (false, _) => w
  | (true, policy) => observePolicy { w with
      policy := policy
      accepted := w.accepted ++ [⟨requestGeneration, sessionGeneration.get⟩] }

def onFailed (w : Slot) (requestGeneration : UInt64) (device : DeviceInfo) (error : String) :
    Slot :=
  match w.policy.failRequest requestGeneration device with
  | (false, _) => w
  | (true, policy) =>
    let diagnostic := "Device-session recovery failed: " ++ error
    (publishMediaFailure { w with policy := policy } diagnostic).leave (some diagnostic)

def onTransportFailed (w : Slot) (sessionGeneration : NonZeroU64) (error : String) : Slot :=
  match w.policy.transportFailed sessionGeneration.get with
  | (false, _) => w
  | (true, policy) =>
    let diagnostic := "Device session transport failed: " ++ error
    let w := (publishMediaFailure { w with policy := policy } diagnostic).observePolicy
    if w.snapshot.device.availability = .Available then
      w.recover w.snapshot.device (some diagnostic)
    else { w with phase := .reporting none }

def onRecoveryEvent (w : Slot) : DeviceSessionRecoveryEvent → Slot
  | .Ready requestGeneration device sessionGeneration _ =>
    w.onReady requestGeneration device sessionGeneration
  | .Failed requestGeneration device error => w.onFailed requestGeneration device error
  | .TransportFailed sessionGeneration error => w.onTransportFailed sessionGeneration error

def recoveryStopped (w : Slot) : Slot :=
  let diagnostic := "Device-session recovery coordinator stopped"
  (w.publishMediaFailure diagnostic).leave (some diagnostic)

def policyEvent (w : Slot) (exhausted : Option String) : Slot :=
  w.leave (some (exhausted.getD "media recovery policy stopped unexpectedly"))

/-- The request is in the queue: the slot remembers it and goes on. -/
def recoverSent (w : Slot) (requestGeneration : UInt64) (device : DeviceInfo) (cancellation : ℕ)
    (failure : Option String) : Slot :=
  { w with
    commands := w.commands ++ [.Recover requestGeneration device cancellation]
    policy := w.policy.beginRequest requestGeneration device
    phase := match failure with
      | none => .waiting
      | some _ => .reporting none }

/-- The factory answers `Cancelled` only if its token is cancelled. -/
def mayAnswer (w : Slot) : TaskInput Unit → Bool
  | .command _ => false
  | .sent _ => false
  | .created (.error .Cancelled) =>
    match w.task.phase with
    | .creating attempt _ => attempt.cancellation ∈ w.handle.cancelled
    | _ => false
  | _ => true

/-- One input, if the slot is ready for it. -/
def next (w : Slot) : Input → Option Slot
  | .updateDevice device => if w.phase = .waiting then some (w.updateDevice device) else none
  | .kernel (.ok event) => if w.phase = .waiting then some (w.kernelEvent event) else none
  | .kernel (.error error) => if w.phase = .waiting then some (w.kernelFailed error) else none
  | .media snapshot =>
    if w.phase = .waiting ∧ w.mediaEventsOpen then some (w.observeMedia snapshot) else none
  | .mediaClosed => if w.phase = .waiting then some { w with mediaEventsOpen := false } else none
  | .recoveryEvent =>
    match w.phase, w.events with
    | .waiting, event :: rest => some (onRecoveryEvent { w with events := rest } event)
    | _, _ => none
  | .recoveryStopped =>
    if w.phase = .waiting ∧ w.events = [] ∧ w.task.phase = .ended then some w.recoveryStopped
    else none
  | .policyEvent exhausted =>
    if w.phase = .waiting then some (w.policyEvent exhausted) else none
  | .remove => if w.phase = .waiting then some (w.leave none) else none
  | .recoverSent =>
    match w.phase with
    | .recovering requestGeneration device cancellation failure =>
      if w.commands.length < RECOVERY_COMMAND_CAPACITY ∧ w.task.phase ≠ .ended then
        some (w.recoverSent requestGeneration device cancellation failure)
      else none
    | _ => none
  | .recoverRefused =>
    match w.phase with
    | .recovering _ _ _ failure =>
      if w.task.phase = .ended then some (w.recoverFailed failure .Stopped) else none
    | _ => none
  | .reported =>
    match w.phase with
    | .reporting none => some { w with phase := .waiting }
    | .reporting (some terminal) => some (w.leave (some terminal))
    | _ => none
  | .shutdownSent =>
    if w.phase = .stopping then
      if w.task.phase = .ended then some { w with phase := .ended }
      else if w.commands.length < RECOVERY_COMMAND_CAPACITY then
        some { w with phase := .joining, commands := w.commands ++ [.Shutdown] }
      else none
    else none
  | .joined =>
    if w.phase = .joining ∧ w.task.phase = .ended then some { w with phase := .ended } else none
  | .dequeue =>
    match w.commands with
    | command :: rest =>
      (w.task.step (.command (some command))).map fun task =>
        { w with commands := rest, task := task }
    | [] => none
  | .recovery input =>
    if w.mayAnswer input then (w.task.step input).map fun task => { w with task := task }
    else none
  | .eventSent =>
    match w.task.phase with
    | .sending event =>
      if w.events.length < RECOVERY_EVENT_CAPACITY then
        (w.task.step (.sent true)).map fun task =>
          { w with events := w.events ++ [event], task := task }
      else none
    | _ => none

/-- The steps of the slot and of its coordinator, with what each of them found. -/
inductive Steps (w : Slot) (i : Input) : Slot → Prop
  | updateDevice (device : DeviceInfo) (hinput : i = .updateDevice device)
      (hphase : w.phase = .waiting) : Steps w i (w.updateDevice device)
  | kernelEvent (event : KernelDisplayEvent) (hphase : w.phase = .waiting) :
      Steps w i (w.kernelEvent event)
  | kernelFailed (error : String) (hphase : w.phase = .waiting) : Steps w i (w.kernelFailed error)
  | media (snapshot : MediaSession.PublishedSnapshot) (hphase : w.phase = .waiting) :
      Steps w i (w.observeMedia snapshot.1)
  | mediaClosed (hphase : w.phase = .waiting) : Steps w i { w with mediaEventsOpen := false }
  | recoveryEvent (event : DeviceSessionRecoveryEvent) (rest : List DeviceSessionRecoveryEvent)
      (hphase : w.phase = .waiting) (hevents : w.events = event :: rest) :
      Steps w i (onRecoveryEvent { w with events := rest } event)
  | recoveryStopped (hphase : w.phase = .waiting) (hended : w.task.phase = .ended) :
      Steps w i w.recoveryStopped
  | leave (terminal : Option String)
      (hphase : w.phase = .waiting ∨ w.phase = .reporting terminal) : Steps w i (w.leave terminal)
  | recoverSent (requestGeneration : UInt64) (device : DeviceInfo) (cancellation : ℕ)
      (failure : Option String)
      (hphase : w.phase = .recovering requestGeneration device cancellation failure)
      (hroom : w.commands.length < RECOVERY_COMMAND_CAPACITY) :
      Steps w i (w.recoverSent requestGeneration device cancellation failure)
  | recoverRefused (requestGeneration : UInt64) (device : DeviceInfo) (cancellation : ℕ)
      (failure : Option String)
      (hphase : w.phase = .recovering requestGeneration device cancellation failure)
      (hended : w.task.phase = .ended) : Steps w i (w.recoverFailed failure .Stopped)
  | reported (hphase : w.phase = .reporting none) : Steps w i { w with phase := .waiting }
  | shutdownSent (hphase : w.phase = .stopping)
      (hroom : w.commands.length < RECOVERY_COMMAND_CAPACITY) :
      Steps w i { w with phase := .joining, commands := w.commands ++ [.Shutdown] }
  | ended (hphase : w.phase = .stopping ∨ w.phase = .joining) (hended : w.task.phase = .ended) :
      Steps w i { w with phase := .ended }
  | dequeue (command : RecoveryCommand) (rest : List RecoveryCommand) (task : RecoveryTask Unit)
      (hcommands : w.commands = command :: rest)
      (hstep : w.task.step (.command (some command)) = some task) :
      Steps w i { w with commands := rest, task := task }
  | recovery (input : TaskInput Unit) (task : RecoveryTask Unit) (hmay : w.mayAnswer input = true)
      (hstep : w.task.step input = some task) : Steps w i { w with task := task }
  | eventSent (event : DeviceSessionRecoveryEvent) (task : RecoveryTask Unit)
      (hphase : w.task.phase = .sending event)
      (hroom : w.events.length < RECOVERY_EVENT_CAPACITY)
      (hstep : w.task.step (.sent true) = some task) :
      Steps w i { w with events := w.events ++ [event], task := task }

attribute [local grind intro] Steps in
lemma steps_of_next {w w' : Slot} {i : Input} (h : w.next i = some w') : Steps w i w' := by
  unfold next at h
  split at h <;> grind [policyEvent, Option.map_eq_some_iff]

end Slot

/-- The slot and its recovery coordinator, in any interleaving. -/
def slot : Machine Slot Input := ⟨Slot.next⟩

end Pronk.CastDisplay
