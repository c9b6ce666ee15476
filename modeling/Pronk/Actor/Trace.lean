import Pronk.Actor.Run
import Pronk.Capture.Operations
import Pronk.CastKms.Inert

/-!
# What the actor records

Only the dispatch of a batch records the handling of a notice. Everything else the
actor does appends plain entries to its trace and leaves the lease alone, so whatever
this cannot change is kept, for every reply of the kernel and of PipeWire.

That a method keeps such a property is a class. The rules for the actions and for their
composition are instances, so the methods are walked by instance search, with a case
split where a method looks into its state.
-/
namespace Pronk.Actor
open CastKms Capture Interaction Method Media Follows ActorCall

set_option synthInstance.maxSize 1024

/-- Neither a dispatched batch nor the handling of a notice. -/
def Happening.plain : Happening → Bool
  | .dispatched _ => false
  | .cecTransmit _ => false
  | .published .Revoked => false
  | _ => true

/-- The events that a teardown or a failed read has lost. -/
def Happening.lost? : Happening → List CastKmsEvent
  | .drained events => events
  | .discarded events => events
  | _ => []

/-- A property of the trace, of the active generation and of the lease. -/
class Sees (I : ActorState → Unit → Prop) : Prop where
  sees : ∀ s w client cec cecBridge pendingCecControl current, client.lease = s.client.lease →
    I s w → I { s with client, cec, cecBridge, pendingCecControl, current } w

/-- A property that the reads of a teardown keep. -/
class Drains (I : ActorState → Unit → Prop) : Prop where
  drained : ∀ s w events, I s w → I { s with trace := s.trace ++ [.drained events] } w
  discarded : ∀ s w events, I s w → I { s with trace := s.trace ++ [.discarded events] } w

/-- A property that a write to the generation keeps. -/
class Seats (I : ActorState → Unit → Prop) : Prop where
  seat : ∀ s w generation, I s w → I { s with active := some generation } w

/-- A property that plain entries and every change of the generation keep. -/
class Steady (I : ActorState → Unit → Prop) : Prop where
  plain : ∀ s w h, Happening.plain h = true → I s w → I { s with trace := s.trace ++ [h] } w
  active : ∀ s w active, I s w → I { s with active } w

/-- A property of the trace and of whether a generation is active. -/
def OnTrace (P : List Happening → Bool → Prop) (s : ActorState) (_ : Unit) : Prop :=
  P s.trace s.active.isSome

instance (P : List Happening → Bool → Prop) : Sees (OnTrace P) := ⟨fun _ _ _ _ _ _ _ _ h => h⟩

/-- The client holds the lease that it was created with. -/
def UnderLease (lease : GrantLease) (s : ActorState) (_ : Unit) : Prop := s.client.lease = lease

instance (lease : GrantLease) : Sees (UnderLease lease) := ⟨fun _ _ _ _ _ _ _ hc h => hc.trans h⟩

instance (lease : GrantLease) : Steady (UnderLease lease) := ⟨fun _ _ _ _ h => h, fun _ _ _ h => h⟩

/-- The method keeps the property, whatever it is answered. -/
abbrev Logs {C : Type} {R : C → Type} (I : ActorState → Unit → Prop) {ε α : Type}
    (m : Method C R ActorState ε α) : Prop :=
  Keeps anyReply I I m

variable {I : ActorState → Unit → Prop} {ε δ α β : Type}

instance [hI : Steady I] : Drains I :=
  ⟨fun _ _ _ h => hI.plain _ _ _ rfl h, fun _ _ _ h => hI.plain _ _ _ rfl h⟩

instance [hI : Steady I] : Seats I := ⟨fun _ _ _ h => hI.active _ _ _ h⟩

/-- A capture method of the client that keeps its lease. -/
class Leased (m : Method Ioctl Ioctl.Reply CaptureClient ε α) : Prop where
  leased : ∀ c, m.wp anyReply c () (fun _ c' _ => c'.lease = c.lease)
    fun _ c' _ => c'.lease = c.lease

section Leased
open CaptureClient

variable {A : Ioctl → Prop} {effect : α → Effect} {F : CaptureError → Prop} {m : ClientM α}
  {M : CaptureTracker → Effect → CaptureTracker → Prop}

lemma Leased.of_moves (hm : Moves A M effect m) : Leased m :=
  ⟨fun c => wp_mono (hm.wp (any _) c ()) (fun _ _ _ h => h.1.1)
    fun _ _ _ h => h.1.1.1⟩

lemma Leased.of_plain (hm : Plain A F m) : Leased m :=
  ⟨fun _ => hm.wp (any _) (fun _ _ _ => rfl) fun _ _ _ _ => rfl⟩

instance (event : CaptureFrameEvent) : Leased (recordCaptureFrame event) :=
  ⟨fun c => wp_mono (recordCaptureFrame_ends event c ()) (fun _ _ _ h => h.1.1)
    fun _ _ _ h => h.1.1⟩

instance (streamId bufferId : NonZeroU32) : Leased (releaseCaptureBuffer streamId bufferId) :=
  ⟨fun c => wp_mono (releaseCaptureBuffer_spec streamId bufferId c ())
    (fun _ _ _ h => h.1.1) fun _ _ _ h => h.1 ▸ rfl⟩

instance (capabilities : CaptureCapabilities) (cursorMode : CursorCaptureMode) :
    Leased (startCapture capabilities cursorMode) :=
  ⟨fun c => wp_mono (startCapture_started (any _) (fun _ _ _ _ _ => trivial)
    capabilities cursorMode c ()) (fun _ _ _ h => h.1.hands.1) fun _ _ _ h => h.1 ▸ rfl⟩

instance (mode : CaptureSynchronization) : Leased (allocateLinearXrgb8888Buffer mode) :=
  ⟨fun c => wp_mono (allocateLinearXrgb8888Buffer_registers (any _) mode c ())
    (fun _ _ _ h => h.1.ends.1) fun _ _ _ h => h.1.1.1⟩

instance (bufferId : NonZeroU32) (userData : NonZeroU64) :
    Leased (queueCaptureBuffer bufferId userData) :=
  .of_moves (queueCaptureBuffer_moves bufferId userData)

instance (ready : CaptureReady) : Leased (takeCaptureCompletion ready) :=
  .of_moves (takeCaptureCompletion_moves ready)

instance (fence : ExplicitCaptureFence) : Leased (delegateExplicitCaptureCompletion fence) :=
  .of_moves (takeCaptureCompletion_moves _)

instance (queue : CaptureQueue) : Leased (retireCancelledCaptureBuffer queue) :=
  .of_moves (retireCancelledCaptureBuffer_moves queue)

instance : Leased stopCapture := .of_moves stopCapture_moves

instance (evidence : GrantStateEvidence) : Leased (CaptureClient.reconcileGrantState evidence) :=
  .of_moves (reconcileGrantState_moves evidence)

instance (streamId : NonZeroU32) : Leased (finishRetiredCapture streamId) :=
  .of_moves (finishRetiredCapture_moves streamId)

instance (crtcId : NonZeroU32) : Leased (queryCaptureCapabilities crtcId) :=
  .of_plain (queryCaptureCapabilities_queries crtcId)

instance (streamId bufferId : NonZeroU32) : Leased (exportCaptureBuffer streamId bufferId) :=
  .of_plain (exportCaptureBuffer_queries streamId bufferId)

instance (streamId bufferId : NonZeroU32) : Leased (armExplicitCaptureFence streamId bufferId) :=
  .of_plain (armExplicitCaptureFence_queries streamId bufferId)

end Leased

namespace Logs

variable {m : Method ActorCall Reply ActorState ε α}
  {f : α → Method ActorCall Reply ActorState ε β}

instance request {C : Type} {R : C → Type} (c : C) :
    Spares (anyReply : Environment Unit C R) I c := ⟨fun _ _ _ _ _ h => h⟩

lemma query {m : QueryM ActorState α} (hm : Query m) : Logs I (query m) :=
  ⟨fun _ _ h => (wp_query ..).2
    (hm.wp (any _) (fun _ _ _ => h) fun _ _ _ _ => h)⟩

instance queryGrant (lease : GrantLease) : Logs I (Actor.query lease.queryGrant) :=
  query lease.queryGrant_query

instance queryOutputTopology (lease : GrantLease) :
    Logs I (Actor.query lease.queryOutputTopology) :=
  query lease.queryOutputTopology_query

instance openAudioTap (lease : GrantLease) (nonblocking : Bool) :
    Logs I (Actor.query (lease.openAudioTap nonblocking)) :=
  query (lease.openAudioTap_query nonblocking)

section Client

variable [hI : Sees I]

instance capture (caller : Caller) (m : Method Ioctl Ioctl.Reply CaptureClient ε α)
    [hm : Leased m] :
    Logs I (capture caller m : Method ActorCall Reply ActorState δ (Except ε α)) := by
  refine ⟨fun s w h => (wp_capture ..).2 (wp_mono (hm.leased s.client) ?_ ?_)⟩ <;>
    exact fun _ c _ hc => hI.sees s w c _ _ _ _ hc h

instance cec (m : CecM α) : Logs I (cec m) :=
  ⟨fun s w h => (wp_cec ..).2 (wp_of_forall (fun _ c _ => hI.sees s w _ c _ _ _ rfl h)
    fun _ c _ => hI.sees s w _ c _ _ _ rfl h)⟩

instance setPending (pending : Option PendingCecControl) :
    Logs I (Method.modify fun s => { s with pendingCecControl := pending } : ActorM Unit) :=
  .modify fun s w h => hI.sees s w _ _ _ pending _ rfl h

instance setCurrent (current : KernelDisplayObservation) :
    Logs I (Method.modify fun s => { s with current } : ActorM Unit) :=
  .modify fun s w h => hI.sees s w _ _ _ _ current rfl h

instance setBridge (bridge : Option CecBridge) :
    Logs I (Method.modify fun s => { s with cecBridge := bridge } : ActorM Unit) :=
  .modify fun s w h => hI.sees s w _ _ bridge _ _ rfl h

end Client

instance orFail (operation : String) (quote : ε → Part) (r : Except ε α) :
    Logs I (orFail operation quote r) := Keeps.lift _

instance fail (operation message : String) : Logs I (fail operation message : ActorM α) :=
  Keeps.throw _

instance seat [hI : Seats I] (generation : ActiveGeneration) :
    Logs I (Method.modify fun s => { s with active := some generation } :
      Method ActorCall Reply ActorState ε PUnit) :=
  .modify fun s w h => hI.seat s w generation h

instance [Seats I] (generation : ActiveGeneration) :
    Logs I (setActive (some generation)) := seat generation

instance setActive [hI : Steady I] (active : Option ActiveGeneration) :
    Logs I (setActive active) := .modify fun s w h => hI.active s w active h

instance drained [hI : Drains I] (events : List CastKmsEvent) : Logs I (note (.drained events)) :=
  .modify fun s w h => hI.drained s w events h

instance discarded [hI : Drains I] (events : List CastKmsEvent) :
    Logs I (note (.discarded events)) := .modify fun s w h => hI.discarded s w events h

lemma plain [hI : Steady I] {h : Happening} (hh : h.plain = true) : Logs I (note h) :=
  .modify fun s w hs => hI.plain s w h hh hs

instance answered [Steady I] (answer : Answer) : Logs I (note (.answered answer)) := plain rfl

instance [Steady I] (message : Message) : Logs I (publish (.MediaFailed message)) :=
  plain rfl

instance changed [Steady I] (observation : KernelDisplayObservation) :
    Logs I (publish (.Changed observation)) := plain rfl

lemma step [hm : Logs I m] {s : ActorState} {w : Unit} (h : I s w)
    {ok : β → ActorState → Unit → Prop} {err : ε → ActorState → Unit → Prop}
    (herr : ∀ e s' w', I s' w' → err e s' w')
    (hok : ∀ a s' w', I s' w' → (f a).wp anyReply s' w' ok err) :
    (m >>= f).wp anyReply s w ok err :=
  Keeps.step hm h herr hok

end Logs

variable [Sees I]

section Teardown

variable (silent : Bool) (stream : CaptureStreamInfo) (outstanding : List OutstandingCapture)
  (streamId : NonZeroU32) (generation : ActiveGeneration)

instance (events : List CastKmsEvent) : Logs I (recordCaptureEvents events) := by
  fun_induction recordCaptureEvents events <;> infer_instance

instance [Drains I] (read : Except EventReadFailure (List CastKmsEvent)) :
    Logs I (finishRead read) := by
  cases read <;> unfold finishRead <;> infer_instance

instance [Drains I] : Logs I tryReadEvents := by
  unfold tryReadEvents
  infer_instance

instance (buffers : List CaptureBufferInfo) : Logs I (releaseBuffers streamId buffers) := by
  fun_induction releaseBuffers streamId buffers <;> infer_instance

instance : Logs I (releaseConsumerOwned stream) := by
  unfold releaseConsumerOwned
  infer_instance

instance (message : String) : Logs I (drainFailed message : ActorM α) :=
  Keeps.throw _

instance (fence : ExplicitCaptureFence) : Logs I (drainCompleted fence) := by
  unfold drainCompleted
  infer_instance

instance [Drains I] {again : ActorM Unit} [Logs I again] : Logs I (drainRead again) := by
  unfold drainRead
  infer_instance

lemma drainStep_logs [Drains I] (outstanding : OutstandingCapture) (silent : Bool)
    {again : Option (ActorM Unit)} (hagain : ∀ m ∈ again, Logs I m) :
    Logs I (drainStep outstanding silent again) := by
  unfold drainStep
  cases again with
  | none => infer_instance
  | some again =>
    have := hagain again rfl
    infer_instance

instance [Drains I] (outstanding : OutstandingCapture) (left : ℕ) :
    Logs I (drainLoop outstanding silent left) := by
  induction left with
  | zero => exact drainStep_logs outstanding silent nofun
  | succ left ih =>
    refine drainStep_logs outstanding silent fun m hm => ?_
    exact Option.some.inj hm ▸ ih

instance [Drains I] (outstanding : OutstandingCapture)
    : Logs I (drainOutstandingCapture outstanding silent) := by
  unfold drainOutstandingCapture
  infer_instance

instance [Drains I] : Logs I (drainAll silent outstanding) := by
  fun_induction drainAll silent outstanding <;> infer_instance

instance : Logs I (shutDownAudio generation) := by
  unfold shutDownAudio
  infer_instance

instance : Logs I (stopSource generation) := by
  unfold stopSource
  split
  · exact .seq inferInstance fun _ => by split <;> infer_instance
  · infer_instance

instance : Logs I (stopStream stream) := by
  unfold stopStream
  infer_instance

instance : Logs I (awaitFences outstanding) := by
  fun_induction awaitFences outstanding with
  | case1 => infer_instance
  | case2 =>
    exact .seq inferInstance fun _ => .seq inferInstance fun _ => by split <;> infer_instance

instance [Drains I] : Logs I (canRetireSilentCancellations silent outstanding) := by
  unfold canRetireSilentCancellations
  infer_instance

instance : Logs I (finishPool streamId) := by
  unfold finishPool
  infer_instance

/-- Up to its last entry a teardown only records the batches that it reads. -/
lemma stopGeneration_leads [Drains I] {J : ActorState → Unit → Prop}
    (hJ : ∀ s w teardown, I s w → J { s with trace := s.trace ++ [.tornDown teardown] } w)
    (generation : ActiveGeneration) {s : ActorState} {w : Unit} (h : I s w) :
    (stopGeneration generation).wp anyReply s w (fun _ => J) fun _ => I := by
  refine Logs.step h (fun _ _ _ h => h) fun _ _ _ h₁ => ?_
  refine Logs.step h₁ (fun _ _ _ h => h) fun _ _ _ h₂ => ?_
  refine Logs.step h₂ (fun _ _ _ h => h) fun _ _ _ h₃ => ?_
  refine Logs.step h₃ (fun _ _ _ h => h) fun _ _ _ h₄ => ?_
  refine Logs.step h₄ (fun _ _ _ h => h) fun _ _ _ h₅ => ?_
  refine Logs.step h₅ (fun _ _ _ h => h) fun _ _ _ h₆ => ?_
  refine Logs.step h₆ (fun _ _ _ h => h) fun _ _ _ h₇ => ?_
  refine Logs.step h₇ (fun _ _ _ h => h) fun _ _ _ h₈ => ?_
  exact Then.of ((wp_note ..).2 (hJ _ _ _ h₈))

instance : Logs I (rollbackUnpublished stream) := by
  unfold rollbackUnpublished
  infer_instance

end Teardown

section Generation

variable (stream : CaptureStreamInfo) (generation : ActiveGeneration) (ids : GenerationIds)
  (config : CastKmsActorConfig) (e : KernelDisplayError) (frame : CaptureFrameEvent)
  (event : VideoSourceActorEvent)

instance [hI : Steady I] : Logs I (stopGeneration generation) :=
  ⟨fun _ _ h => stopGeneration_leads (fun s w _ => hI.plain s w _ rfl) generation h⟩

instance [Steady I] : Logs I stopActive :=
  .seq inferInstance fun _ => by split <;> infer_instance

instance [Steady I] (error : Message) : Logs I (failActive error) := by
  unfold failActive
  infer_instance

instance (operation : String) : Logs I (requireNotCancelled operation) := by
  unfold requireNotCancelled
  infer_instance

instance : Logs I (rollBackWith stream e : ActorM α) := by
  unfold rollBackWith
  infer_instance

instance (r : Except KernelDisplayError α) : Logs I (orRollBack stream r) := by
  cases r <;> unfold orRollBack <;> infer_instance

instance : Logs I (unwindSource ids stream e : ActorM α) :=
  .seq (.seq inferInstance fun _ => by split <;> infer_instance) fun _ => inferInstance

instance (index left : ℕ) : Logs I (allocatePool stream index left) := by
  fun_induction allocatePool stream index left <;> infer_instance

instance (buffers : List CaptureBufferInfo) : Logs I (exportVideoBuffers stream buffers) := by
  fun_induction exportVideoBuffers stream buffers <;> infer_instance

instance : Logs I (startOptionalKernelAudioSource config ids) := by
  unfold startOptionalKernelAudioSource
  infer_instance

instance : Logs I (connectProducer stream) := by
  unfold connectProducer
  infer_instance

instance (buffers : List VideoBuffer) : Logs I (startSources config ids stream buffers) := by
  unfold startSources
  infer_instance

instance (request : MediaStartRequest) : Logs I (startGeneration config request) := by
  unfold startGeneration
  iterate 8 refine .seq inferInstance fun _ => ?_
  infer_instance

instance [Seats I] (bufferId : NonZeroU32)
    (available : List NonZeroU32) : Logs I (queueNext generation bufferId available) := by
  unfold queueNext
  refine .seq inferInstance fun _ => .seq inferInstance fun _ => .seq inferInstance fun _ =>
    .seq inferInstance fun _ => ?_
  split <;> infer_instance

instance [Seats I] : Logs I maybeQueue := by
  refine .seq inferInstance fun _ => ?_
  split
  · infer_instance
  · split_ifs
    · infer_instance
    · split <;> infer_instance

instance [Seats I] (outstanding : OutstandingCapture) (damage : VideoDamage) :
    Logs I (publishFrame generation outstanding frame damage) := by
  unfold publishFrame waitBeforePublish
  infer_instance

instance [Seats I] : Logs I (handleCaptureFrame frame) := by
  unfold handleCaptureFrame
  infer_instance

instance [Seats I] : Logs I (followSource generation event) := by
  cases event <;> unfold followSource sourceEventFailed <;> infer_instance

instance [Seats I] : Logs I (handleSourceEvent event) := by
  unfold handleSourceEvent
  infer_instance

end Generation

section Loop

variable (event : CecTransmitEvent) (operation : String) (mediaGeneration : NonZeroU64)
  (config : CastKmsActorConfig) (request : MediaStartRequest)

instance (evidence : GrantStateEvidence) : Logs I (reconcileGrantState operation evidence) := by
  unfold reconcileGrantState
  infer_instance

instance : Logs I queryObservation := by
  unfold queryObservation
  infer_instance

instance (authorityActive : Bool) : Logs I (synchronizeCecAuthority authorityActive) := by
  unfold synchronizeCecAuthority
  infer_instance

instance (completion : CecCompletion) : Logs I (completeCec operation event completion) := by
  unfold completeCec
  infer_instance

instance (action : CecBridgeAction) : Logs I (performCecAction event action) := by
  cases action <;> unfold performCecAction <;> infer_instance

instance (bridge : CecBridge) : Logs I (admitCecTransmit bridge event) := by
  unfold admitCecTransmit
  dsimp only
  infer_instance

instance : Logs I failPendingControl :=
  .seq inferInstance fun _ => by split <;> infer_instance

instance : Logs I teardownCec := by
  unfold teardownCec
  infer_instance

instance : Logs I recheckCecAuthority := by
  unfold recheckCecAuthority
  infer_instance

instance (result : ControlResult) : Logs I (onControl result) :=
  .seq inferInstance fun _ => by split <;> infer_instance

instance [Seats I] (suspended : Bool) : Logs I (setSuspended mediaGeneration suspended) :=
  .seq inferInstance fun _ => by split <;> infer_instance

instance [Seats I] : Logs I (tryStart config request) := by
  unfold tryStart
  infer_instance

variable [Steady I]

instance (observation : KernelDisplayObservation) : Logs I (publishObservation observation) := by
  unfold publishObservation
  infer_instance

instance : Logs I (onStart config request) := by
  unfold onStart answerStart
  infer_instance

instance : Logs I (onStop mediaGeneration) :=
  .seq inferInstance fun _ => by split <;> infer_instance

instance : Logs I onDetach := by
  unfold onDetach
  infer_instance

instance : Logs I queueOrFail :=
  .seq inferInstance fun _ => by split <;> infer_instance

instance (handled : Except KernelDisplayError Unit) : Logs I (queueAfter handled) := by
  cases handled <;> unfold queueAfter <;> infer_instance

instance (isActive : Bool) (state : Part) : Logs I (failUnlessActive isActive state) := by
  unfold failUnlessActive
  infer_instance

instance : Logs I onPoll := by
  unfold onPoll
  infer_instance

instance (event : GrantStateEvent) : Logs I (onGrantState event) := by
  unfold onGrantState
  infer_instance

instance (frame : CaptureFrameEvent) : Logs I (onCaptureFrame frame) := by
  unfold onCaptureFrame
  infer_instance

instance (event : Option VideoSourceActorEvent) : Logs I (onSourceEvent event) := by
  cases event <;> unfold onSourceEvent <;> infer_instance

instance : Logs I onQueueRetry := by
  unfold onQueueRetry
  infer_instance

/-- Only the branch that reads events records a notice. -/
theorem Branch.body_logs (config : CastKmsActorConfig) {branch : Branch} (hb : branch ≠ .events) :
    Logs I (branch.body config) := by
  cases branch with
  | events => exact absurd rfl hb
  | _ => unfold Branch.body; infer_instance

end Loop

end Pronk.Actor
