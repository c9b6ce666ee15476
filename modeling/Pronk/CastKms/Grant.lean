import Pronk.CastKms.Uapi

/-!
# The display grant

A lease names the grant that the inherited descriptor holds. Every grant query
is compared with it field by field before its state is believed.
-/
namespace Pronk.CastKms

def GRANT_STATE_PENDING : UInt32 := 0
def GRANT_STATE_ACTIVE : UInt32 := 1
def GRANT_STATE_SUSPENDED_NO_MASTER : UInt32 := 2
def GRANT_STATE_SUSPENDED_OTHER_MASTER : UInt32 := 3
def GRANT_STATE_SUSPENDED_FOREIGN_CONTENT : UInt32 := 4
def GRANT_STATE_REVOKED : UInt32 := 5

inductive CastKmsError where
  | QueryGrant (errno : Errno)
  | InvalidGrant (what : String)
  | UnknownGrantState (state : UInt32)
  | RevokedGrant
  | MissingRights (required actual : UInt32)
  | InvalidDisplayName (what : String)
  | AttachMonitor (errno : Errno)
  | SetOutputEdid (errno : Errno)
  | DetachMonitor (errno : Errno)
  | QueryConnector (errno : Errno)
  | QueryEncoder (errno : Errno)
  | QueryCrtc (errno : Errno)
  | InvalidOutputTopology (what : String)
  | QueryCecCapabilities (errno : Errno)
  | BindCecTransport (errno : Errno)
  | SetCecTransportState (errno : Errno)
  | CompleteCecTransmit (errno : Errno)
  | ReceiveCecMessage (errno : Errno)
  | UnbindCecTransport (errno : Errno)
  | InvalidCecMetadata (what : String)
  | InvalidCecState (what : String)
  | OpenAudioTap (errno : Errno)
  | InspectAudioTap (errno : Errno)
  | InvalidAudioTap (what : String)
  deriving DecidableEq

/-- The states of a grant. -/
inductive GrantState where
  | Pending
  | Active
  | SuspendedNoMaster
  | SuspendedOtherMaster
  | SuspendedForeignContent
  | Revoked
  deriving DecidableEq

namespace GrantState

def isTerminal (s : GrantState) : Bool := s = Revoked

def tryFrom (value : UInt32) : Except CastKmsError GrantState :=
  if value = GRANT_STATE_PENDING then .ok Pending
  else if value = GRANT_STATE_ACTIVE then .ok Active
  else if value = GRANT_STATE_SUSPENDED_NO_MASTER then .ok SuspendedNoMaster
  else if value = GRANT_STATE_SUSPENDED_OTHER_MASTER then .ok SuspendedOtherMaster
  else if value = GRANT_STATE_SUSPENDED_FOREIGN_CONTENT then .ok SuspendedForeignContent
  else if value = GRANT_STATE_REVOKED then .ok Revoked
  else .error (.UnknownGrantState value)

end GrantState

/-- What the kernel says about the grant. -/
structure GrantInfo where
  (grantId connectorId outputIndex rights : UInt32)
  state : GrantState
  flags : UInt32

structure GrantStateEvent where
  grantId : UInt32
  state : GrantState
  status : Int32
  timestampNs : UInt64
  deriving DecidableEq

/-- What the lease says of the grant; the descriptors it owns are not modelled. -/
structure GrantLease where
  (grantId connectorId outputIndex rights flags : UInt32)
  (captureUapiMajor captureUapiMinor : UInt16)
  deriving DecidableEq

namespace GrantLease

/-- The validation that `query_grant` applies to a reply. -/
def validateGrant (lease : GrantLease) (query : DrmCastkmsGetGrant) :
    Except CastKmsError GrantInfo :=
  if query.reserved ≠ 0 then .error (.InvalidGrant "reserved field")
  else if query.flags &&& ~~~GRANT_FLAGS_MASK ≠ 0 then .error (.InvalidGrant "flags")
  else if query.grantId ≠ lease.grantId then .error (.InvalidGrant "grant ID")
  else if query.connectorId ≠ lease.connectorId then .error (.InvalidGrant "connector ID")
  else if query.outputIndex ≠ lease.outputIndex then .error (.InvalidGrant "output index")
  else if query.rights ≠ lease.rights then .error (.InvalidGrant "rights")
  else if query.flags ≠ lease.flags then .error (.InvalidGrant "mode flags")
  else (GrantState.tryFrom query.state).map fun state =>
    ⟨query.grantId, query.connectorId, query.outputIndex, query.rights, state, query.flags⟩

/-- A terminal grant is one that the kernel reports as revoked. -/
theorem state_of_isTerminal {lease : GrantLease} {query : DrmCastkmsGetGrant}
    {grant : GrantInfo} (h : lease.validateGrant query = .ok grant)
    (ht : grant.state.isTerminal = true) : query.state = GRANT_STATE_REVOKED := by
  unfold validateGrant at h
  split_ifs at h
  cases hs : GrantState.tryFrom query.state with
  | error e => simp [hs, Except.map] at h
  | ok state =>
    obtain rfl := Except.ok.inj (hs ▸ h : Except.map _ (.ok state) = .ok grant)
    obtain rfl : state = .Revoked := by simpa [GrantState.isTerminal] using ht
    unfold GrantState.tryFrom at hs
    split_ifs at hs <;> first | assumption | cases hs

def requireRights (lease : GrantLease) (required : UInt32) : Except CastKmsError Unit :=
  if lease.rights &&& required = required then .ok ()
  else .error (.MissingRights required lease.rights)

end GrantLease

end Pronk.CastKms
