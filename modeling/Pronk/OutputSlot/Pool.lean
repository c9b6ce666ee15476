import Mathlib.Data.List.AList
import Mathlib.Data.Prod.Lex
import Mathlib.Data.String.Basic
import Pronk.Dbus.Device

/-!
# Reservation of CastKMS outputs

`OutputSlotPool` claims a disconnected output for a device. A reservation is released
by a message that names it, which may arrive late or more than once. A path is the list
of its components, as comparisons of paths see it.
-/
namespace Pronk.OutputSlot
open Dbus

inductive PathComponent where
  | RootDir
  | CurDir
  | ParentDir
  | Normal (name : String)
  deriving DecidableEq

/-- The components in the order of their declaration, names by their text. -/
def PathComponent.key : PathComponent → ℕ ×ₗ String
  | .RootDir => toLex (0, "")
  | .CurDir => toLex (1, "")
  | .ParentDir => toLex (2, "")
  | .Normal name => toLex (3, name)

lemma PathComponent.key_injective : Function.Injective PathComponent.key := by
  intro a b h
  cases a <;> cases b <;> simp_all [PathComponent.key]

instance : LinearOrder PathComponent := LinearOrder.lift' _ PathComponent.key_injective

abbrev PathBuf := List PathComponent

def isAbsolute (path : PathBuf) : Bool := path.head? = some .RootDir

structure CastKmsOutputId where
  devicePath : PathBuf
  outputIndex : UInt32
  deriving DecidableEq

def CastKmsOutputId.key (id : CastKmsOutputId) : PathBuf ×ₗ ℕ :=
  toLex (id.devicePath, id.outputIndex.toNat)

lemma CastKmsOutputId.key_injective : Function.Injective CastKmsOutputId.key := by
  intro a b h
  cases a
  cases b
  simpa [CastKmsOutputId.key, UInt32.toNat_inj] using h

instance : LinearOrder CastKmsOutputId := LinearOrder.lift' _ CastKmsOutputId.key_injective

inductive OutputConnection where
  | Connected
  | Disconnected
  | Unknown
  deriving DecidableEq

/-- An output that a display can take. -/
structure CastKmsOutput where
  id : CastKmsOutputId
  nodePath : PathBuf
  (deviceMajor deviceMinor connectorId : UInt32)
  connectorName : String
  connection : OutputConnection
  deriving DecidableEq

def CastKmsOutput.isAvailable (output : CastKmsOutput) : Bool :=
  output.connection = .Disconnected

structure DeviceKey where
  (backendId deviceId : String)
  deriving DecidableEq

def DeviceKey.fromDevice (device : DeviceInfo) : DeviceKey := ⟨device.backendId, device.deviceId⟩

structure OutputReservationRelease where
  token : UInt64
  device : DeviceKey
  outputId : CastKmsOutputId
  deriving DecidableEq

/-- An output that was reserved. -/
structure OutputReservation where
  token : UInt64
  device : DeviceKey
  output : CastKmsOutput
  deriving DecidableEq

def OutputReservation.release (reservation : OutputReservation) : OutputReservationRelease :=
  ⟨reservation.token, reservation.device, reservation.output.id⟩

structure OutputClaim where
  token : UInt64
  device : DeviceKey
  deriving DecidableEq

/-- The outputs that are claimed, and by whom. -/
structure OutputSlotPool where
  nextToken : UInt64 := 0
  claims : AList fun _ : CastKmsOutputId => OutputClaim := ∅
  devices : AList fun _ : DeviceKey => CastKmsOutputId := ∅

inductive OutputReservationError where
  | InvalidInventory
  | DeviceAlreadyClaimed (backendId deviceId : String)
  | CapacityExhausted
  | TokenExhausted
  deriving DecidableEq

/-- The outputs of an inventory, with the identities and connectors of those before. -/
def validateOutputs (identities : List CastKmsOutputId) (connectors : List (PathBuf × UInt32)) :
    List CastKmsOutput → Except OutputReservationError Unit
  | [] => .ok ()
  | output :: rest =>
    if !isAbsolute output.nodePath || !isAbsolute output.id.devicePath || output.deviceMajor = 0 ||
        output.connectorId = 0 || output.connectorName = "" then .error .InvalidInventory
    else if output.id ∈ identities then .error .InvalidInventory
    else if (output.id.devicePath, output.connectorId) ∈ connectors then .error .InvalidInventory
    else validateOutputs (output.id :: identities)
      ((output.id.devicePath, output.connectorId) :: connectors) rest

def validateInventory (outputs : List CastKmsOutput) : Except OutputReservationError Unit :=
  validateOutputs [] [] outputs

/-- `min_by` on the identities: of equal ones the first. -/
def leastOutput : List CastKmsOutput → Option CastKmsOutput
  | [] => none
  | output :: rest =>
    match leastOutput rest with
    | none => some output
    | some least => if least.id < output.id then some least else some output

namespace OutputSlotPool

def available (pool : OutputSlotPool) (output : CastKmsOutput) : Bool :=
  output.isAvailable && (pool.claims.lookup output.id).isNone

def select (pool : OutputSlotPool) (outputs : List CastKmsOutput)
    (preferred : Option CastKmsOutputId) : Option CastKmsOutput :=
  (preferred.bind fun preferred =>
    outputs.find? fun output => output.id = preferred && pool.available output).or
    (leastOutput (outputs.filter pool.available))

/-- The selected output is claimed under the next token. -/
def claim (pool : OutputSlotPool) (token : UInt64) (device : DeviceKey)
    (output : CastKmsOutput) : OutputSlotPool where
  nextToken := token
  claims := pool.claims.insert output.id ⟨token, device⟩
  devices := pool.devices.insert device output.id

/-- Claim an output for a device. -/
def reserve (pool : OutputSlotPool) (device : DeviceInfo) (outputs : List CastKmsOutput)
    (preferred : Option CastKmsOutputId) :
    Except OutputReservationError OutputReservation × OutputSlotPool :=
  let key := DeviceKey.fromDevice device
  if (pool.devices.lookup key).isSome then
    (.error (.DeviceAlreadyClaimed device.backendId device.deviceId), pool)
  else match validateInventory outputs with
    | .error error => (.error error, pool)
    | .ok _ =>
      match pool.select outputs preferred with
      | none => (.error .CapacityExhausted, pool)
      | some selected =>
        match checkedSucc pool.nextToken with
        | none => (.error .TokenExhausted, pool)
        | some token => (.ok ⟨token, key, selected⟩, pool.claim token key selected)

/-- The slot of a reservation is free again. -/
def free (pool : OutputSlotPool) (release : OutputReservationRelease) : OutputSlotPool :=
  { pool with
    claims := pool.claims.erase release.outputId
    devices := pool.devices.erase release.device }

/-- Take back the claim that a release names. -/
def release (pool : OutputSlotPool) (release : OutputReservationRelease) :
    Bool × OutputSlotPool :=
  if pool.claims.lookup release.outputId = some ⟨release.token, release.device⟩ then
    (true, pool.free release)
  else (false, pool)

end OutputSlotPool

end Pronk.OutputSlot
