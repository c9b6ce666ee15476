import Pronk.BackendHost.Inventory
import Pronk.Library.Transition

/-!
# The discovery loop

The loop keeps an inventory and applies to it the signals of three streams, which it polls in
any order. A signal that does not fit makes it list the devices again. Every change is sent
to the owner of the discovery.
-/
namespace Pronk.BackendHost
open BackendProtocol Transition

/-- What the call of `ListDevices` came to. -/
inductive ListDevices where
  | returned (snapshot : DeviceSnapshot)
  | failed
  | timedOut

inductive DiscoveryError where
  | Protocol
  | SnapshotTimeout
  | SnapshotGeneration (expected actual : UInt64)
  | Inventory (error : InventoryError)
  deriving DecidableEq

/-- What the loop reports as a failure. -/
inductive Failure where
  | fetch (error : DiscoveryError)
  | undecodable
  | fatalGeneration (actual expected : UInt64)
  | errorText (error : ValidationError)
  deriving DecidableEq

/-- What the loop tells the supervisor. -/
inductive DiscoveryNotification where
  | Changed (snapshot : DeviceInventorySnapshot)
  | Resynchronized (reason : InventoryError) (snapshot : DeviceInventorySnapshot)
  | FatalError (connectionGeneration : UInt64) (errorText : String)
  | ConnectionClosed
  | Failed (failure : Failure)
  deriving DecidableEq

def DiscoveryNotification.snapshot? : DiscoveryNotification → Option DeviceInventorySnapshot
  | .Changed snapshot => some snapshot
  | .Resynchronized _ snapshot => some snapshot
  | _ => none

/-- Why the loop has ended. -/
inductive DiscoveryExit where
  | command
  | closed
  | fatal
  | failed (failure : Failure)
  | ownerGone

inductive SignalKind where
  | added
  | changed
  | removed
  deriving DecidableEq

def DeviceEvent.kind : DeviceEvent → SignalKind
  | .Added .. => .added
  | .Changed .. => .changed
  | .Removed .. => .removed

/-- `ListDevices`, checked against the subscription. -/
def fetchSnapshot (answer : ListDevices) (expectedBackendId : String)
    (discoveryGeneration : UInt64) : Except DiscoveryError DeviceInventory :=
  match answer with
  | .timedOut => .error .SnapshotTimeout
  | .failed => .error .Protocol
  | .returned snapshot =>
    if snapshot.discoveryGeneration ≠ discoveryGeneration then
      .error (.SnapshotGeneration discoveryGeneration snapshot.discoveryGeneration)
    else (DeviceInventory.fromSnapshot expectedBackendId snapshot).mapError .Inventory

/-- The streams hold what the loop has still to consume, `consumed` what it has. The
notifications are those that found a receiver. -/
structure DiscoveryState where
  streams : SignalKind → List DeviceEvent
  consumed : List DeviceEvent := []
  inventory : Option DeviceInventory := none
  initial : Option DeviceInventorySnapshot := none
  notifications : List DiscoveryNotification := []
  exit : Option DiscoveryExit := none

namespace DiscoveryState

/-- The snapshots that the owner was given, the oldest first. -/
def published (s : DiscoveryState) : List DeviceInventorySnapshot :=
  s.initial.toList ++ s.notifications.filterMap (·.snapshot?)

/-- A notification that finds no receiver ends the loop. -/
def notify (s : DiscoveryState) (notification : DiscoveryNotification) (received : Bool) :
    DiscoveryState :=
  if received then { s with notifications := s.notifications ++ [notification] }
  else { s with exit := some .ownerGone }

/-- The last notification, whose receiver is not looked at. -/
def finish (s : DiscoveryState) (notification : DiscoveryNotification) (received : Bool)
    (exit : DiscoveryExit) : DiscoveryState :=
  { s with
    notifications := s.notifications ++ if received then [notification] else []
    exit := some exit }

def fail (s : DiscoveryState) (failure : Failure) (received : Bool) : DiscoveryState :=
  s.finish (.Failed failure) received (.failed failure)

/-- Apply a signal, or list the devices again. -/
def processEvent (s : DiscoveryState) (expectedBackendId : String) (inventory : DeviceInventory)
    (event : DeviceEvent) (answer : ListDevices) (received : Bool) : DiscoveryState :=
  match inventory.apply event with
  | (inventory, .ok .Changed) =>
    { s with inventory := some inventory }.notify (.Changed inventory.snapshot) received
  | (inventory, .ok _) => { s with inventory := some inventory }
  | (inventory, .error reason) =>
    match fetchSnapshot answer expectedBackendId inventory.snapshot.discoveryGeneration with
    | .ok replacement =>
      { s with inventory := some replacement }.notify
        (.Resynchronized reason replacement.snapshot) received
    | .error e => { s with inventory := some inventory }.fail (.fetch e) received

end DiscoveryState

/-- What the loop may see next. `received` says whether the owner takes what is sent, and
`answer` what `ListDevices` would return. -/
inductive DiscoveryInput where
  | start (answer : ListDevices) (received : Bool)
  | signal (kind : SignalKind) (answer : ListDevices) (received : Bool)
  | fatal (connectionGeneration : UInt64) (errorText : String) (received : Bool)
  | undecodable (received : Bool)
  | closed (received : Bool)
  | command

/-- `ListDevices` returns, if it is called. -/
def DiscoveryInput.answered : DiscoveryInput → Bool
  | .start (.returned _) _ => true
  | .signal _ (.returned _) _ => true
  | .start .. => false
  | .signal .. => false
  | _ => true

section Loop

variable (expectedBackendId : String) (connectionGeneration discoveryGeneration : UInt64)

def DiscoveryState.start (s : DiscoveryState) (answer : ListDevices) (received : Bool) :
    DiscoveryState :=
  match fetchSnapshot answer expectedBackendId discoveryGeneration with
  | .error e => { s with exit := some (.failed (.fetch e)) }
  | .ok inventory =>
    if received then
      { s with inventory := some inventory, initial := some inventory.snapshot }
    else { s with inventory := some inventory, exit := some .ownerGone }

def DiscoveryState.onFatal (s : DiscoveryState) (actualGeneration : UInt64) (errorText : String)
    (received : Bool) : DiscoveryState :=
  if actualGeneration ≠ connectionGeneration then
    s.fail (.fatalGeneration actualGeneration connectionGeneration) received
  else
    match validateErrorText errorText with
    | .error e => s.fail (.errorText e) received
    | .ok () => s.finish (.FatalError connectionGeneration errorText) received .fatal

/-- Once `StartDiscovery` has returned: the devices are listed, and then the loop takes what
comes first, until it ends. -/
def runDiscovery : Machine DiscoveryState DiscoveryInput where
  next s input :=
    if s.exit.isSome then none
    else
      match s.inventory, input with
      | none, .start answer received =>
        some (s.start expectedBackendId discoveryGeneration answer received)
      | some inventory, .signal kind answer received =>
        match s.streams kind with
        | [] => none
        | event :: rest =>
          some ({ s with
              streams := Function.update s.streams kind rest
              consumed := s.consumed ++ [event] }.processEvent expectedBackendId inventory event
            answer received)
      | some _, .fatal generation errorText received =>
        some (s.onFatal connectionGeneration generation errorText received)
      | some _, .undecodable received => some (s.fail .undecodable received)
      | some _, .closed received => some (s.finish .ConnectionClosed received .closed)
      | some _, .command => some { s with exit := some .command }
      | _, _ => none

end Loop

namespace DiscoveryState

variable {s s' : DiscoveryState} {notification : DiscoveryNotification} {received : Bool}
  {exit : DiscoveryExit} {failure : Failure}

@[simp] lemma notify_streams : (s.notify notification received).streams = s.streams := by
  cases received <;> rfl

@[simp] lemma notify_consumed : (s.notify notification received).consumed = s.consumed := by
  cases received <;> rfl

@[simp] lemma notify_inventory : (s.notify notification received).inventory = s.inventory := by
  cases received <;> rfl

@[simp] lemma notify_exit :
    (s.notify notification received).exit = if received then s.exit else some .ownerGone := by
  cases received <;> rfl

lemma published_notify {snapshot : DeviceInventorySnapshot}
    (h : notification.snapshot? = some snapshot) :
    (s.notify notification received).published = s.published ∨
      (s.notify notification received).published = s.published ++ [snapshot] := by
  cases received with
  | false => exact .inl rfl
  | true => exact .inr (by simp [notify, published, h])

lemma published_finish (h : notification.snapshot? = none) :
    (s.finish notification received exit).published = s.published := by
  cases received <;> simp [finish, published, h]

lemma processEvent_pending {expectedBackendId : String} {inventory : DeviceInventory}
    {event : DeviceEvent} {answer : ListDevices} :
    (s.processEvent expectedBackendId inventory event answer received).streams = s.streams ∧
      (s.processEvent expectedBackendId inventory event answer received).consumed =
        s.consumed := by
  unfold processEvent
  split
  · simp
  · exact ⟨rfl, rfl⟩
  · split
    · simp
    · exact ⟨rfl, rfl⟩

/-- A step that ends the loop and leaves everything else that matters as it was. -/
structure Ends (s s' : DiscoveryState) : Prop where
  streams : s'.streams = s.streams
  consumed : s'.consumed = s.consumed
  inventory : s'.inventory = s.inventory
  published : s'.published = s.published
  listed : ∀ e, s'.exit ≠ some (.failed (.fetch e))

lemma ends_finish (h : notification.snapshot? = none)
    (hlisted : ∀ e, exit ≠ .failed (.fetch e)) : Ends s (s.finish notification received exit) :=
  ⟨rfl, rfl, rfl, published_finish h, fun e heq => hlisted e (Option.some.inj heq)⟩

/-- The steps of the loop. -/
inductive Steps (expectedBackendId : String) (discoveryGeneration : UInt64)
    (s : DiscoveryState) : DiscoveryInput → DiscoveryState → Prop
  | start (hinventory : s.inventory = none) (answer : ListDevices) (received : Bool) :
      Steps expectedBackendId discoveryGeneration s (.start answer received)
        (s.start expectedBackendId discoveryGeneration answer received)
  | signal {inventory event rest} (kind : SignalKind) (hinventory : s.inventory = some inventory)
      (hstream : s.streams kind = event :: rest) (answer : ListDevices) (received : Bool) :
      Steps expectedBackendId discoveryGeneration s (.signal kind answer received)
        ({ s with
            streams := Function.update s.streams kind rest
            consumed := s.consumed ++ [event] }.processEvent expectedBackendId inventory event
          answer received)
  | ends {input s'} (h : Ends s s') : Steps expectedBackendId discoveryGeneration s input s'

lemma steps_of_next {expectedBackendId : String}
    {connectionGeneration discoveryGeneration : UInt64} {input : DiscoveryInput}
    (h : (runDiscovery expectedBackendId connectionGeneration discoveryGeneration).next s input =
      some s') :
    s.exit = none ∧ Steps expectedBackendId discoveryGeneration s input s' := by
  simp only [runDiscovery] at h
  split_ifs at h with hexit
  refine ⟨by simpa using hexit, ?_⟩
  split at h
  · cases h
    exact .start ‹_› _ _
  · split at h
    · cases h
    · cases h
      exact .signal _ ‹_› ‹_› _ _
  · cases h
    unfold onFatal
    split_ifs
    · exact .ends (ends_finish rfl nofun)
    · split
      · exact .ends (ends_finish rfl nofun)
      · exact .ends (ends_finish rfl nofun)
  · cases h
    exact .ends (ends_finish rfl nofun)
  · cases h
    exact .ends (ends_finish rfl nofun)
  · cases h
    exact .ends ⟨rfl, rfl, rfl, rfl, nofun⟩
  · cases h

end DiscoveryState

end Pronk.BackendHost
