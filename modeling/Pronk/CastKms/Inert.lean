import Pronk.CastKms.Cec

/-!
# Requests that leave a capture stream alone

The queries of a client and its CEC operations neither start, stop nor feed a
capture stream.
-/
namespace Pronk.CastKms
open Interaction Capture Method

/-- The ioctls that neither start, stop nor feed a stream. -/
def Inert : Ioctl → Prop
  | .captureStart _ => False
  | .captureStop _ => False
  | .queueBuffer _ => False
  | _ => True

/-- A preorder on worlds that every inert ioctl follows. -/
abbrev Passive {W : Type} (E : Environment W Ioctl Ioctl.Reply) (P : W → W → Prop) : Prop :=
  Interaction.Follows Inert E P

attribute [local simp] Does Asks watching Inert issue

variable {S : Type} (lease : GrantLease)

section Queries

/-- A query that only asks inert ioctls, whatever it reports. -/
abbrev Query {α : Type} (m : QueryM S α) : Prop := Plain Inert (fun _ => True) m

lemma GrantLease.queryGrant_query : Query (lease.queryGrant : QueryM S GrantInfo) := by
  simp [queryGrant]

lemma GrantLease.queryOutputTopology_query :
    Query (lease.queryOutputTopology : QueryM S OutputTopology) := by
  simp [queryOutputTopology]
  intros
  split <;> simp

lemma GrantLease.openAudioTap_query (nonblocking : Bool) :
    Query (lease.openAudioTap nonblocking : QueryM S UInt64) := by
  simp [openAudioTap]

end Queries

section Cec

lemma CecTracker.recordAuthoritySuspended_asks : Asks Inert recordAuthoritySuspended := by
  simp [recordAuthoritySuspended]

namespace GrantLease

lemma setCecTransportOnline_asks (online : Bool) :
    Asks Inert (lease.setCecTransportOnline online) := by
  simp [setCecTransportOnline, CecTracker.setOnline]

lemma recordCecTransmit_asks (event : CecTransmitEvent) :
    Asks Inert (lease.recordCecTransmit event) := by
  simp [recordCecTransmit, CecTracker.recordTransmit]

lemma completeCecTransmit_asks (event : CecTransmitEvent) (completion : CecCompletion) :
    Asks Inert (lease.completeCecTransmit event completion) := by
  simp [completeCecTransmit]

lemma injectCecMessage_asks (message : List UInt8) :
    Asks Inert (lease.injectCecMessage message) := by
  simp [injectCecMessage]

lemma unbindCecTransport_asks : Asks Inert lease.unbindCecTransport := by
  simp [unbindCecTransport, CecTracker.remove]

lemma detachMonitor_asks : Asks Inert lease.detachMonitor := by
  simp [detachMonitor]

end GrantLease

end Cec

end Pronk.CastKms
