import Pronk.Manager.Replay
import Pronk.Manager.Retention
import Pronk.OutputSlot.Reservations

/-!
# Output slots of the managed displays

The manager owns the pool of output slots next to its table of target owners. A setup
asks for its slot with a command of its own, and whoever drops a slot sends its release
through a channel of its own, so that the loop sees requests, releases and completions in
any order. A setup that is cancelled leaves its request in the queue; the slot that
answers it is dropped at once. Once the loop has ended, neither channel is read.
-/
namespace Pronk.Manager
open Dbus OutputSlot Transition

/-- A `ReserveDisplaySlot` command, with the setup that waits for its answer. -/
structure SlotRequest where
  displayId : CastDisplayId
  selection : DeviceSelection
  outputs : List CastKmsOutput
  preferredOutput : Option CastKmsOutputId

/-- The source wraps the missing worker of a backend in `Device`. -/
inductive ReserveDisplaySlotError where
  | Device (error : ResolveDeviceError)
  | BackendUnavailable (backendId : String)
  | Output (error : OutputReservationError)
  deriving DecidableEq

/-- Where a setup, and later its display, stands with its slot. -/
inductive SlotPhase where
  | pending (selection : DeviceSelection) (preferredOutput : Option CastKmsOutputId)
  | awaiting
  | reserved (reservation : OutputReservation)
  | dropped
  deriving DecidableEq

def SlotPhase.isReserved : SlotPhase → Bool
  | .reserved _ => true
  | _ => false

/-- `workers` names the backends with a worker; `requests` and `releases` are the commands
and the messages on their way to the loop. -/
structure SlotState where
  lifecycle : ManagerState := {}
  devices : InventoryHistory := {}
  workers : List String := []
  pool : OutputSlotPool := {}
  phases : AList fun _ : CastDisplayId => SlotPhase := ∅
  requests : List SlotRequest := []
  releases : List OutputReservationRelease := []
  answers : List (CastDisplayId × Except ReserveDisplaySlotError OutputReservation) := []

/-- `request`, `abandon` and `drop` are steps of the task that runs a setup or a display;
the loop takes all the others. -/
inductive SlotInput where
  | start (selection : DeviceSelection) (preferredOutput : Option CastKmsOutputId)
      (spawned : Except DisplaySetupStartError CastDisplayId)
  | request (displayId : CastDisplayId) (outputs : List CastKmsOutput)
  | reserve
  | abandon (displayId : CastDisplayId)
  | drop (displayId : CastDisplayId)
  | release
  | inventory (input : InventoryInput)
  | lifecycle (input : Input)

def DeviceTarget.ofKey (device : DeviceKey) : DeviceTarget := ⟨device.backendId, device.deviceId⟩

namespace SlotState

/-- The slot of a display is dropped: its release is sent. -/
def dropSlot (s : SlotState) (displayId : CastDisplayId) : SlotState :=
  match s.phases.lookup displayId with
  | some (.reserved reservation) =>
    { s with
      phases := s.phases.insert displayId .dropped
      releases := s.releases ++ [reservation.release] }
  | _ => s

/-- Claim an output for the device. -/
def reserveDisplaySlot (s : SlotState) (request : SlotRequest) :
    Except ReserveDisplaySlotError OutputReservation × OutputSlotPool :=
  match s.devices.inventory.resolveDevice request.selection with
  | .error error => (.error (.Device error), s.pool)
  | .ok device =>
    if device.backendId ∈ s.workers then
      let (result, pool) := s.pool.reserve device request.outputs request.preferredOutput
      (result.mapError .Output, pool)
    else (.error (.BackendUnavailable device.backendId), s.pool)

/-- The answer reaches the setup, or is dropped with the slot in it. -/
def answer (s : SlotState) (request : SlotRequest) : SlotState :=
  let (result, pool) := s.reserveDisplaySlot request
  let answered := { s with pool, answers := s.answers ++ [(request.displayId, result)] }
  match s.phases.lookup request.displayId, result with
  | some .awaiting, .ok reservation =>
    { answered with phases := s.phases.insert request.displayId (.reserved reservation) }
  | some .awaiting, .error _ =>
    { answered with phases := s.phases.insert request.displayId .dropped }
  | _, .ok reservation => { answered with releases := s.releases ++ [reservation.release] }
  | _, .error _ => answered

/-- A setup returns its display with the slot, and fails without it. The actor of a display
drops the slot before it reports its failure or answers a removal; of a removal that
failed nothing is known. -/
def permits (s : SlotState) : Input → Bool
  | .command (.StartDisplaySetup _ _) => false
  | .settle displayId .added => (s.phases.lookup displayId).any (·.isReserved)
  | .settle displayId _ => s.phases.lookup displayId = some .dropped
  | .slotEvent (.TerminalFailure displayId) => s.phases.lookup displayId = some .dropped
  | .joinRemoval displayId (.ok _) => s.phases.lookup displayId = some .dropped
  | _ => true

/-- A display that its joined setup returned and that was not installed is dropped. -/
def joined (s : SlotState) (lifecycle : ManagerState) : Input → SlotState
  | .joinSetup displayId (.completed _) =>
    if displayId ∈ lifecycle.displays then { s with lifecycle }
    else { s with lifecycle }.dropSlot displayId
  | _ => { s with lifecycle }

def next (s : SlotState) : SlotInput → Option SlotState
  | .start selection preferredOutput spawned =>
    (s.lifecycle.next (.command (.StartDisplaySetup selection spawned))).map fun lifecycle =>
      match spawned with
      | .ok displayId =>
        if displayId ∈ lifecycle.setupTasks then
          { s with
            lifecycle
            phases := s.phases.insert displayId (.pending selection preferredOutput) }
        else { s with lifecycle }
      | .error _ => { s with lifecycle }
  | .request displayId outputs =>
    match s.phases.lookup displayId with
    | some (.pending selection preferredOutput) =>
      if s.lifecycle.closing then none
      else some { s with
        phases := s.phases.insert displayId .awaiting
        requests := s.requests ++ [⟨displayId, selection, outputs, preferredOutput⟩] }
    | _ => none
  | .reserve =>
    match s.requests with
    | request :: rest =>
      if s.lifecycle.closing then none else some ({ s with requests := rest }.answer request)
    | [] => none
  | .abandon displayId =>
    match s.phases.lookup displayId with
    | some (.pending _ _) | some .awaiting =>
      some { s with phases := s.phases.insert displayId .dropped }
    | _ => none
  | .drop displayId =>
    -- the display of a setup that was not joined yet keeps its slot
    if (s.lifecycle.setupTasks.lookup displayId).bind (·.result) = some .added then none
    else some (s.dropSlot displayId)
  | .release =>
    match s.releases with
    | release :: rest =>
      if s.lifecycle.closing then none
      else some { s with pool := (s.pool.release release).2, releases := rest }
    | [] => none
  | .inventory input =>
    if s.lifecycle.closing then none else some { s with devices := s.devices.next input }
  | .lifecycle input =>
    if s.permits input then (s.lifecycle.next input).map fun lifecycle => s.joined lifecycle input
    else none

/-- What an input can do, with what was checked before it. -/
inductive Steps (s : SlotState) : SlotInput → SlotState → Prop
  | refused {selection : DeviceSelection} {preferred : Option CastKmsOutputId}
      {spawned : Except DisplaySetupStartError CastDisplayId} {lifecycle : ManagerState}
      (hnext : s.lifecycle.next (.command (.StartDisplaySetup selection spawned)) =
        some lifecycle) :
      Steps s (.start selection preferred spawned) { s with lifecycle }
  | started {selection : DeviceSelection} {preferred : Option CastKmsOutputId}
      {id : CastDisplayId} {lifecycle : ManagerState}
      (hnext : s.lifecycle.next (.command (.StartDisplaySetup selection (.ok id))) =
        some lifecycle) (htask : id ∈ lifecycle.setupTasks) :
      Steps s (.start selection preferred (.ok id))
        { s with lifecycle, phases := s.phases.insert id (.pending selection preferred) }
  | request {id : CastDisplayId} {selection : DeviceSelection} {outputs : List CastKmsOutput}
      {preferred : Option CastKmsOutputId}
      (hphase : s.phases.lookup id = some (.pending selection preferred)) :
      Steps s (.request id outputs) { s with
        phases := s.phases.insert id .awaiting
        requests := s.requests ++ [⟨id, selection, outputs, preferred⟩] }
  | reserve {request : SlotRequest} {rest : List SlotRequest}
      (hopen : s.lifecycle.closing = false) (hrequests : s.requests = request :: rest) :
      Steps s .reserve ({ s with requests := rest }.answer request)
  | abandon {id : CastDisplayId} {phase : SlotPhase} (hphase : s.phases.lookup id = some phase)
      (hheld : phase.isReserved = false) (hdropped : phase ≠ .dropped) :
      Steps s (.abandon id) { s with phases := s.phases.insert id .dropped }
  | drop {id : CastDisplayId} : Steps s (.drop id) (s.dropSlot id)
  | release {release : OutputReservationRelease} {rest : List OutputReservationRelease}
      (hreleases : s.releases = release :: rest) :
      Steps s .release { s with pool := (s.pool.release release).2, releases := rest }
  | inventory {input : InventoryInput} :
      Steps s (.inventory input) { s with devices := s.devices.next input }
  | lifecycle {input : Input} {lifecycle : ManagerState} (hpermits : s.permits input)
      (hnext : s.lifecycle.next input = some lifecycle) :
      Steps s (.lifecycle input) (s.joined lifecycle input)

attribute [local grind intro] Steps in
lemma steps_of_next {s s' : SlotState} {i : SlotInput} (hs' : s.next i = some s') :
    s.Steps i s' := by
  cases i with
  | abandon id =>
    simp only [next] at hs'
    split at hs'
    · next hphase => exact Option.some.inj hs' ▸ .abandon hphase rfl (by simp)
    · next hphase => exact Option.some.inj hs' ▸ .abandon hphase rfl (by simp)
    · cases hs'
  | start selection preferred spawned => cases spawned <;> grind [next, Option.map_eq_some_iff]
  | _ => grind [next, Option.map_eq_some_iff]

end SlotState

/-- The pool beside the manager. -/
def slots : Machine SlotState SlotInput := ⟨SlotState.next⟩

end Pronk.Manager
