import Pronk.Actor.Stop

/-!
# Work beside the capture generation

CEC, the grant and topology queries and the published events leave the generation
and its stream alone. Every invariant of the generation that the kernel's own
moves keep is therefore kept by them.
-/
namespace Pronk.Actor
open CastKms Capture Interaction Method Media

set_option synthInstance.maxSize 1024

/-- Neither the generation nor the tracker changed. -/
structure Aside (s s' : ActorState) : Prop where
  run : SameRun s s'
  capture : s'.client.capture = s.client.capture

lemma Aside.refl (s : ActorState) : Aside s s := ⟨.refl s, rfl⟩

lemma Aside.note (s : ActorState) {happening : Happening} (h : happening.teardown? = none) :
    Aside s { s with trace := s.trace ++ [happening] } :=
  ⟨(SameRun.refl s).note h, rfl⟩

/-- An assertion about the generation that survives work beside it. -/
class Stable (I : ActorState → World → Prop) : Prop where
  stable : ∀ s w s' w', I s w → Aside s s' → Ticks w w' → I s' w'

variable {admitted : World → ActorCall → Prop} {I J : ActorState → World → Prop} {α ε : Type}

namespace Stable

variable [hI : Stable I]

lemma modify {f : ActorState → ActorState} (hf : ∀ s, Aside s (f s)) :
    Keeps (contract admitted) I J (Method.modify f : ActorM Unit) :=
  Keeps.modify fun s w h => hI.stable s w (f s) w h (hf s) .refl

lemma note {happening : Happening} (h : happening.teardown? = none) :
    Keeps (contract admitted) I J (note happening) :=
  modify fun s => Aside.note s h

lemma call {c : ActorCall} (hc : ∀ w r w', Serves w c r w' → w' = w) :
    Keeps (contract admitted) I J (call c) := by
  have : Spares (contract admitted) I c := by
    refine ⟨fun s w r w' hE h => ?_⟩
    obtain ⟨w₁, ht, -, hs⟩ := hE
    obtain rfl := hc _ _ _ hs
    exact hI.stable s w s _ h (.refl s) ht
  exact Keeps.request

lemma cec {m : CecM α} (hm : Asks Inert m) : Keeps (contract admitted) I J (cec m) := by
  refine ⟨fun s w h => (wp_cec ..).2 ?_⟩
  exact wp_mono (hm.wp (@kernel_passive admitted _) s.cec w)
    (fun _ c w' ht => hI.stable s w _ w' h ⟨⟨rfl, rfl⟩, rfl⟩ ht)
    fun _ c w' ht => hI.stable s w _ w' h ⟨⟨rfl, rfl⟩, rfl⟩ ht

lemma query {m : QueryM ActorState α} (hm : Query m) :
    Keeps (contract admitted) I J (query m) :=
  ⟨fun s w h => (wp_query ..).2 (hm.wp kernel_passive
    (fun _ w' ht => hI.stable s w s w' h (.refl s) ht)
    fun _ w' _ ht => hI.stable s w s w' h (.refl s) ht)⟩

instance setPending (pending : Option PendingCecControl) : Keeps (contract admitted) I J
    (Method.modify fun s => { s with pendingCecControl := pending } : ActorM Unit) :=
  modify fun _ => ⟨⟨rfl, rfl⟩, rfl⟩

instance setCurrent (current : KernelDisplayObservation) : Keeps (contract admitted) I J
    (Method.modify fun s => { s with current } : ActorM Unit) :=
  modify fun _ => ⟨⟨rfl, rfl⟩, rfl⟩

instance setBridge (bridge : Option CecBridge) : Keeps (contract admitted) I J
    (Method.modify fun s => { s with cecBridge := bridge } : ActorM Unit) :=
  modify fun _ => ⟨⟨rfl, rfl⟩, rfl⟩

variable (lease : GrantLease)

instance setOnline (online : Bool) :
    Keeps (contract admitted) I J (Actor.cec (lease.setCecTransportOnline online)) :=
  cec (lease.setCecTransportOnline_asks online)

instance suspended :
    Keeps (contract admitted) I J (Actor.cec CecTracker.recordAuthoritySuspended) :=
  cec CecTracker.recordAuthoritySuspended_asks

instance record (event : CecTransmitEvent) :
    Keeps (contract admitted) I J (Actor.cec (lease.recordCecTransmit event)) :=
  cec (lease.recordCecTransmit_asks event)

instance complete (event : CecTransmitEvent) (completion : CecCompletion) :
    Keeps (contract admitted) I J (Actor.cec (lease.completeCecTransmit event completion)) :=
  cec (lease.completeCecTransmit_asks event completion)

instance inject (message : List UInt8) :
    Keeps (contract admitted) I J (Actor.cec (lease.injectCecMessage message)) :=
  cec (lease.injectCecMessage_asks message)

instance unbind : Keeps (contract admitted) I J (Actor.cec lease.unbindCecTransport) :=
  cec lease.unbindCecTransport_asks

instance queryGrant : Keeps (contract admitted) I J (Actor.query lease.queryGrant) :=
  query lease.queryGrant_query

instance queryOutputTopology :
    Keeps (contract admitted) I J (Actor.query lease.queryOutputTopology) :=
  query lease.queryOutputTopology_query

end Stable

section Methods

instance [Leads I J] (operation : String) (quote : ε → Part) (r : Except ε α) :
    Keeps (contract admitted) I J (orFail operation quote r) :=
  Keeps.lift _

instance [Leads I J] (operation message : String) :
    Keeps (contract admitted) I J (fail operation message : ActorM α) :=
  Keeps.throw _

variable [Stable I]

instance (observation : KernelDisplayObservation) :
    Keeps (contract admitted) I J (publishObservation observation) := by
  have : Keeps (contract admitted) I J (note (.published (.Changed observation))) :=
    Stable.note rfl
  unfold publishObservation publish
  infer_instance

instance : Keeps (contract admitted) I J failPendingControl :=
  .seq inferInstance fun _ => by split <;> infer_instance

instance : Keeps (contract admitted) I J teardownCec := by
  unfold teardownCec
  infer_instance

variable [Leads I J]

instance (authorityActive : Bool) :
    Keeps (contract admitted) I J (synchronizeCecAuthority authorityActive) := by
  unfold synchronizeCecAuthority
  infer_instance

instance (operation : String) (event : CecTransmitEvent) (completion : CecCompletion) :
    Keeps (contract admitted) I J (completeCec operation event completion) := by
  unfold completeCec
  infer_instance

instance (event : CecTransmitEvent) (action : CecBridgeAction) :
    Keeps (contract admitted) I J (performCecAction event action) := by
  cases action <;> unfold performCecAction <;> infer_instance

instance (bridge : CecBridge) (event : CecTransmitEvent) :
    Keeps (contract admitted) I J (handleCecTransmit bridge event) := by
  have : Keeps (contract admitted) I J (note (.cecTransmit event)) := Stable.note rfl
  unfold handleCecTransmit admitCecTransmit
  dsimp only
  infer_instance

instance : Keeps (contract admitted) I J queryObservation := by
  unfold queryObservation
  infer_instance

instance (result : ControlResult) : Keeps (contract admitted) I J (onControl result) :=
  .seq inferInstance fun _ => by split <;> infer_instance

end Methods

end Pronk.Actor
