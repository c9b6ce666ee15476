import Pronk.Capture.Event
import Pronk.CastKms.Topology

/-!
# The CEC transport of a client

The tracker remembers the binding, the transmit that awaits its completion and
whether the next transmit must prove a newer online interval. Client methods
take the lease, since they only read it.
-/
namespace Pronk.CastKms
open Interaction Method Capture

def CEC_REQUIRED_CAPABILITIES : UInt64 :=
  CEC_CAP_ASYNC_TX ||| CEC_CAP_RX_INJECT ||| CEC_CAP_TRANSPORT_STATE ||| CEC_CAP_EDID_PHYS_ADDR
def CEC_MAX_MESSAGE_SIZE : UInt32 := 16

structure CecCapabilities where
  connectorId : NonZeroU32
  outputIndex : UInt32
  capabilities : UInt64
  uapiMinor : UInt32

/-- The transport that is bound. -/
structure CecTransportBinding where
  transportId : NonZeroU32
  (transportGeneration stateGeneration : NonZeroU64)
  outputIndex : UInt32
  (physicalAddress logicalAddressMask : UInt16)
  online : Bool
  deriving DecidableEq

structure CecCompletion where
  (status arbLostCount nackCount lowDriveCount errorCount : UInt8)

namespace CecCompletion

def succeeded : CecCompletion := ⟨CEC_TX_STATUS_OK, 0, 0, 0, 0⟩
def notAcknowledged (attempts : UInt8) : CecCompletion := ⟨CEC_TX_STATUS_NACK, 0, attempts, 0, 0⟩
def failed : CecCompletion := ⟨CEC_TX_STATUS_ERROR, 0, 0, 0, 1⟩

end CecCompletion

inductive CecTransmitAdmission where
  | Accepted
  | Stale
  deriving DecidableEq

/-- The transmit that awaits its completion. -/
structure PendingTransmit where
  (transportGeneration cookie : NonZeroU64)
  deriving DecidableEq

/-- The transport and its pending transmit. -/
structure CecTracker where
  binding : Option CecTransportBinding := none
  pending : Option PendingTransmit := none
  requiresStateAdvance : Bool := false
  deriving DecidableEq

/-- The methods of the tracker. -/
abbrev CecM (α : Type) := Method Ioctl Ioctl.Reply CecTracker CastKmsError α

namespace CecTracker

def isBound (t : CecTracker) : Bool := t.binding.isSome

def isOnline (t : CecTracker) : Bool := t.binding.any (·.online)

def requireBinding (t : CecTracker) : Except CastKmsError CecTransportBinding :=
  match t.binding with
  | some binding => .ok binding
  | none => .error (.InvalidCecState "CEC transport is not bound")

def install (binding : CecTransportBinding) : CecM Unit := do
  let t ← Method.get
  failIf t.isBound (.InvalidCecState "CEC transport is already bound")
  Method.set { t with binding := some binding }

def setOnline (online : Bool) : CecM Unit := do
  let t ← Method.get
  failIf (t.pending.isSome ∧ ¬ online)
    (.InvalidCecState "cannot take CEC transport offline with a pending transmit")
  let binding ← lift t.requireBinding
  when (binding.online ≠ online) (Method.set
    { t with binding := some { binding with online }, requiresStateAdvance := true })

def recordAuthoritySuspended : CecM Unit := do
  let t ← Method.get
  let binding ← lift t.requireBinding
  Method.set { binding := some { binding with online := false }, pending := none,
               requiresStateAdvance := true }

def recordTransmit (event : CecTransmitEvent) : CecM CecTransmitAdmission := do
  let t ← Method.get
  let binding ← lift t.requireBinding
  if ¬ binding.online then pure .Stale
  else
    failIf (event.transportId ≠ binding.transportId.get ∨
        event.transportGeneration ≠ binding.transportGeneration.get ∨
        event.outputIndex ≠ binding.outputIndex)
      (.InvalidCecMetadata "transmit binding identity")
    let stateGeneration ← okOr (NonZeroU64.new event.stateGeneration)
      (.InvalidCecMetadata "transmit state generation")
    if stateGeneration.get < binding.stateGeneration.get ∨
        (t.requiresStateAdvance ∧ stateGeneration = binding.stateGeneration) then pure .Stale
    else
      let transportGeneration ← okOr (NonZeroU64.new event.transportGeneration)
        (.InvalidCecMetadata "transmit transport generation")
      let cookie ← okOr (NonZeroU64.new event.cookie)
        (.InvalidCecMetadata "transmit cookie")
      failIf t.pending.isSome
        (.InvalidCecState "a second CEC transmit arrived before completion")
      Method.set { binding := some { binding with stateGeneration },
                   pending := some ⟨transportGeneration, cookie⟩, requiresStateAdvance := false }
      pure .Accepted

def validateCompletion (t : CecTracker) (event : CecTransmitEvent) : Except CastKmsError Unit :=
  match t.pending with
  | none => .error (.InvalidCecState "CEC transmit has no pending transaction")
  | some pending =>
    if pending.transportGeneration.get ≠ event.transportGeneration ∨
        pending.cookie.get ≠ event.cookie then
      .error (.InvalidCecMetadata "transmit completion identity")
    else .ok ()

def remove : CecM Unit := do
  let t ← Method.get
  failIf t.pending.isSome
    (.InvalidCecState "cannot unbind CEC transport with a pending transmit")
  let _ ← lift t.requireBinding
  Method.set { t with binding := none, requiresStateAdvance := false }

end CecTracker

/-- `decode_cec_capabilities`: `none` when the connector has no adapter. -/
def decodeCecCapabilities (connectorId : UInt32) (query : DrmCastkmsCecQueryCaps) :
    Except CastKmsError (Option CecCapabilities) :=
  if query.connectorId ≠ connectorId then .error (.InvalidCecMetadata "connector identity")
  else if query.flags ≠ 0 ∨ query.reserved ≠ 0 then
    .error (.InvalidCecMetadata "capability padding")
  else if query.uapiMajor ≠ CEC_UAPI_MAJOR ∨ query.uapiMinor < CEC_UAPI_MINOR then
    .error (.InvalidCecMetadata "UAPI version")
  else if query.capabilities &&& CEC_REQUIRED_CAPABILITIES ≠ CEC_REQUIRED_CAPABILITIES then
    .error (.InvalidCecMetadata "required capability bits")
  else if query.maxMsgSize ≠ CEC_MAX_MESSAGE_SIZE then
    .error (.InvalidCecMetadata "maximum message size")
  else if query.hasAdapter > 1 then .error (.InvalidCecMetadata "adapter availability")
  else if query.hasAdapter = 0 then .ok none
  else
    match NonZeroU32.new query.connectorId with
    | none => .error (.InvalidCecMetadata "connector ID")
    | some connectorId =>
      .ok (some ⟨connectorId, query.outputIndex, query.capabilities, query.uapiMinor⟩)

namespace GrantLease

variable (lease : GrantLease)

def queryCecCapabilities : CecM (Option CecCapabilities) := do
  lift (lease.requireRights GRANT_MANAGE_CEC)
  let reply : Except Errno DrmCastkmsCecQueryCaps ←
    issue (.cecQueryCaps { connectorId := lease.connectorId })
  let query ← lift (reply.mapError .QueryCecCapabilities)
  lift (decodeCecCapabilities lease.connectorId query)

/-- The binding that a bind reply describes. -/
def decodeCecBinding (capabilities : CecCapabilities) (bind : DrmCastkmsCecBindTransport) :
    Except CastKmsError CecTransportBinding :=
  if bind.connectorId ≠ lease.connectorId ∨ bind.flags ≠ 0 ∨ bind.reserved ≠ 0 ∨
      bind.pad0 ≠ 0 then
    .error (.InvalidCecMetadata "binding identity or padding")
  else if bind.outputIndex ≠ capabilities.outputIndex then
    .error (.InvalidCecMetadata "binding output identity")
  else if bind.stateFlags &&& ~~~CEC_STATE_MASK ≠ 0 ∨
      bind.stateFlags &&& CEC_STATE_TRANSPORT_ONLINE ≠ 0 ∨
      bind.stateFlags &&& CEC_STATE_MONITOR_ATTACHED = 0 then
    .error (.InvalidCecMetadata "initial binding state")
  else
    match NonZeroU32.new bind.transportId, NonZeroU64.new bind.transportGeneration,
        NonZeroU64.new bind.stateGeneration with
    | none, _, _ => .error (.InvalidCecMetadata "transport ID")
    | some _, none, _ => .error (.InvalidCecMetadata "transport generation")
    | some _, some _, none => .error (.InvalidCecMetadata "state generation")
    | some transportId, some transportGeneration, some stateGeneration =>
      .ok ⟨transportId, transportGeneration, stateGeneration, bind.outputIndex, bind.physAddr,
        bind.logicalAddrMask, false⟩

def bindCecTransport (capabilities : CecCapabilities) : CecM CecTransportBinding := do
  lift (lease.requireRights GRANT_MANAGE_CEC)
  let t ← Method.get
  failIf t.isBound (.InvalidCecState "CEC transport is already bound")
  failIf (capabilities.connectorId.get ≠ lease.connectorId)
    (.InvalidCecMetadata "capability connector identity")
  let reply : Except Errno DrmCastkmsCecBindTransport ←
    issue (.cecBindTransport { connectorId := lease.connectorId })
  let bind ← lift (reply.mapError .BindCecTransport)
  let binding ← lift (lease.decodeCecBinding capabilities bind)
  CecTracker.install binding
  pure binding

def setCecTransportOnline (online : Bool) : CecM Unit := do
  let t ← Method.get
  let binding ← lift t.requireBinding
  when (binding.online ≠ online) do
    failIf (¬ online ∧ t.pending.isSome)
      (.InvalidCecState "cannot take CEC transport offline with a pending transmit")
    let reply : Except Errno Unit ← issue (.cecSetTransportState
      ⟨lease.connectorId, binding.transportId.get, if online then CEC_TRANSPORT_ONLINE else 0⟩)
    lift (reply.mapError .SetCecTransportState)
    CecTracker.setOnline online

def recordCecTransmit (event : CecTransmitEvent) : CecM CecTransmitAdmission := do
  failIf (event.connectorId ≠ lease.connectorId)
    (.InvalidCecMetadata "transmit connector identity")
  CecTracker.recordTransmit event

def completeCecTransmit (event : CecTransmitEvent) (completion : CecCompletion) : CecM Unit := do
  let t ← Method.get
  lift (t.validateCompletion event)
  let binding ← lift t.requireBinding
  let reply : Except Errno Unit ← issue (.cecTxComplete
    ⟨lease.connectorId, binding.transportId.get, event.transportGeneration, event.cookie,
      completion.status, completion.arbLostCount, completion.nackCount, completion.lowDriveCount,
      completion.errorCount⟩)
  lift (reply.mapError .CompleteCecTransmit)
  Method.set { t with pending := none }

def injectCecMessage (message : List UInt8) : CecM Unit := do
  failIf (message = [] ∨ message.length > CEC_MAX_MESSAGE_SIZE.toNat)
    (.InvalidCecMetadata "receive message size")
  let t ← Method.get
  let binding ← lift t.requireBinding
  failIf (¬ binding.online)
    (.InvalidCecState "cannot inject CEC message while transport is offline")
  let reply : Except Errno Unit ← issue (.cecReceive
    ⟨lease.connectorId, binding.transportId.get, binding.transportGeneration.get, message⟩)
  lift (reply.mapError .ReceiveCecMessage)

def unbindCecTransport : CecM Unit := do
  let t ← Method.get
  let binding ← lift t.requireBinding
  failIf binding.online (.InvalidCecState "CEC transport must be offline before unbind")
  failIf t.pending.isSome
    (.InvalidCecState "cannot unbind CEC transport with a pending transmit")
  let reply : Except Errno Unit ←
    issue (.cecUnbindTransport lease.connectorId binding.transportId.get)
  lift (reply.mapError .UnbindCecTransport)
  CecTracker.remove

def detachMonitor : CecM Unit := do
  let t ← Method.get
  failIf t.isBound
    (.InvalidCecState "CEC transport must be unbound before monitor detach")
  lift (lease.requireRights GRANT_MANAGE_ATTACHMENT)
  let reply : Except Errno Unit ← issue (.detachMonitor lease.connectorId)
  lift (reply.mapError .DetachMonitor)

end GrantLease

end Pronk.CastKms
