import Pronk.Actor.Loop
import Pronk.Actor.Runs
import Pronk.Actor.Trace

/-!
# Failure reports

A failure of the active generation tears it down and is reported once. The frames of a
batch are dispatched one by one, and an earlier event of the batch may have ended the
generation to which a frame belongs. Such a frame finds no generation and is reported
too.
-/
namespace Pronk.Actor
open CastKms Capture Interaction Method Media Happening Rehearsal

set_option synthInstance.maxSize 1024

def Happening.isReport : Happening → Bool
  | .published (.MediaFailed _) => true
  | _ => false

/-- A start that succeeded and whose reply was taken. -/
def Happening.isStarted : Happening → Bool
  | .answered (.start (.ok _)) => true
  | _ => false

/-- A report follows the teardown of a generation. -/
def Backs (before : List Happening) (happening : Happening) : Prop :=
  happening.isReport = true → ∃ earlier teardown, before = earlier ++ [.tornDown teardown]

/-- The reports, and one more for the active generation, are covered by the starts. -/
structure Reported (trace : List Happening) (active : Bool) : Prop where
  bounded : trace.countP isReport + active.toNat ≤ trace.countP isStarted
  backed : Trace.Lawful Backs trace

namespace Reported

variable {trace : List Happening} {active : Bool} {happening : Happening}

lemma empty : Reported [] false := ⟨Nat.le_refl 0, Trace.Lawful.nil⟩

lemma note (h : Reported trace active) (hreport : happening.isReport = false) :
    Reported (trace ++ [happening]) active where
  bounded := by
    have hbounded := h.bounded
    simp only [List.countP_append, List.countP_singleton, hreport, Bool.false_eq_true, if_false]
    omega
  backed := h.backed.snoc fun hyes => by simp [hreport] at hyes

lemma started (h : Reported trace false) (result : PreparedCaptureMedia) :
    Reported (trace ++ [.answered (.start (.ok result))]) true where
  bounded := by
    have hbounded := h.bounded
    simp only [List.countP_append, List.countP_singleton, isReport,
      isStarted, Bool.toNat_true, Bool.toNat_false, Bool.false_eq_true,
      if_true, if_false] at hbounded ⊢
    omega
  backed := h.backed.snoc nofun

lemma released (h : Reported trace active) : Reported trace false where
  bounded := by
    have hbounded := h.bounded
    simp only [Bool.toNat_false]
    omega
  backed := h.backed

lemma report {earlier : List Happening} {teardown : Teardown}
    (h : Reported trace true) (htrace : trace = earlier ++ [.tornDown teardown])
    (message : Message) : Reported (trace ++ [.published (.MediaFailed message)]) false where
  bounded := by
    have hbounded := h.bounded
    simp only [List.countP_append, List.countP_singleton, isReport,
      isStarted, Bool.toNat_true] at hbounded ⊢
    simpa using hbounded
  backed := h.backed.snoc fun _ => ⟨earlier, teardown, htrace⟩

end Reported

/-- The property at hand of a state. -/
abbrev ActorState.Reported (s : ActorState) : Prop := Actor.Reported s.trace s.active.isSome

/-- A generation is active, and its report is still to be made. -/
def Live (trace : List Happening) (active : Bool) : Prop := Reported trace true ∧ active = true

instance : Seats (OnTrace Live) := ⟨fun _ _ _ h => ⟨h.1, rfl⟩⟩

variable {s : ActorState}

lemma ActorState.Reported.live (h : s.Reported) (hactive : s.active.isSome = true) :
    Live s.trace s.active.isSome := by
  unfold ActorState.Reported at h
  rw [hactive] at h
  exact ⟨h, hactive⟩

lemma Live.reported (h : Live s.trace s.active.isSome) : s.Reported := by
  unfold ActorState.Reported
  rw [h.2]
  exact h.1

instance : Drains (OnTrace Reported) :=
  ⟨fun _ _ _ h => h.note rfl, fun _ _ _ h => h.note rfl⟩

/-- The method keeps the balance of reports and starts. -/
abbrev Reports {α : Type} (m : ActorM α) : Prop := Logs (OnTrace Reported) m

section Teardown

variable {s : ActorState} {w : Unit}

/-- The trace ends with a teardown, and no generation is active. -/
def Ended (credit : Bool) (trace : List Happening) (active : Bool) : Prop :=
  (∃ earlier teardown, trace = earlier ++ [.tornDown teardown]) ∧ Reported trace credit ∧
    active = false

/-- The stop of an active generation keeps the credit for its report. -/
lemma stopActive_ends {credit : Bool} (h : Reported s.trace credit)
    (hactive : s.active.isSome = true) :
    stopActive.wp anyReply s w (fun _ s' _ => Ended credit s'.trace s'.active.isSome)
      fun _ s' _ => s'.Reported := by
  obtain ⟨generation, hsome⟩ := Option.isSome_iff_exists.1 hactive
  have hdrains : Drains (OnTrace fun trace active => Reported trace credit ∧ active = false) :=
    ⟨fun _ _ _ h => ⟨h.1.note rfl, h.2⟩, fun _ _ _ h => ⟨h.1.note rfl, h.2⟩⟩
  refine Then.get ?_
  rw [hsome]
  refine Then.of ((wp_setActive ..).2 ?_)
  refine wp_mono (stopGeneration_leads (I := OnTrace fun trace active => Reported trace credit ∧
    active = false) (J := OnTrace (Ended credit)) ?_ generation ⟨h, rfl⟩) (fun _ _ _ h' => h') ?_
  · intro s' _ teardown h'
    exact ⟨⟨s'.trace, teardown, rfl⟩, h'.1.note rfl, h'.2⟩
  · rintro _ s' _ ⟨h', hnone⟩
    unfold ActorState.Reported
    rw [hnone]
    exact h'.released

instance : Reports stopActive := by
  refine ⟨fun s w h => ?_⟩
  cases hsome : s.active with
  | none =>
    refine Then.get ?_
    rw [hsome]
    exact h
  | some generation =>
    have hactive : s.active.isSome = true := by simp [hsome]
    refine wp_mono (stopActive_ends h hactive) ?_ fun _ _ _ h' => h'
    rintro _ s' _ ⟨-, h', hnone⟩
    unfold OnTrace
    rw [hnone]
    exact h'.released

/-- The failure of an active generation is reported on its credit. -/
lemma failActive_reported (message : Message) (h : Live s.trace s.active.isSome) :
    (failActive message).wp anyReply s w (fun _ s' _ => s'.Reported) fun _ s' _ => s'.Reported := by
  refine Then.mono (stopActive_ends h.1 h.2) (fun _ _ _ h' => h') ?_
  rintro cleanup s' w' ⟨⟨earlier, teardown, htrace⟩, h', hnone⟩
  have hreport (message : Message) : ActorState.Reported
      { s' with trace := s'.trace ++ [.published (.MediaFailed message)] } := by
    unfold ActorState.Reported
    rw [hnone]
    exact h'.report htrace message
  cases cleanup with
  | ok _ => exact hreport _
  | error e => exact hreport _

end Teardown

section Handlers

variable {s : ActorState} {w : Unit}

lemma note_reported {happening : Happening} (h : happening.isReport = false) :
    Reports (note happening) :=
  .modify fun _ _ hs => hs.note h

instance (observation : KernelDisplayObservation) : Reports (publishObservation observation) := by
  have : Reports (note (.published (.Changed observation))) := note_reported rfl
  unfold publishObservation publish
  infer_instance

/-- Queueing fails only for an active generation. -/
instance queueOrFail_reported : Reports queueOrFail := by
  refine ⟨fun s w h => ?_⟩
  cases hsome : s.active with
  | none =>
    refine Then.attempt (Then.get ?_)
    rw [hsome]
    exact h
  | some generation =>
    have hlive : Live s.trace s.active.isSome := ActorState.Reported.live h (by simp [hsome])
    refine Logs.step (I := OnTrace Live) hlive (fun _ _ _ h' => Live.reported h')
      fun queued s' w' h' => ?_
    rcases queued with (e | e) | _
    · exact failActive_reported _ h'
    · exact Live.reported h'
    · exact Live.reported h'

lemma queueAfter_reported (handled : Except KernelDisplayError Unit)
    (h : Live s.trace s.active.isSome) :
    (queueAfter handled).wp anyReply s w (fun _ s' _ => s'.Reported) fun _ s' _ => s'.Reported := by
  cases handled with
  | ok _ => exact queueOrFail_reported.wp s w (Live.reported h)
  | error e => exact failActive_reported _ h

instance (isActive : Bool) (state : Part) : Reports (failUnlessActive isActive state) := by
  refine .get_bind fun s w h => (wp_when ..).2 ?_
  exact ⟨fun hc => failActive_reported _ (ActorState.Reported.live h hc.2), fun _ => h⟩

lemma onCaptureFrame_reported (frame : CaptureFrameEvent) (h : s.Reported)
    (hactive : s.active.isSome = true) :
    (onCaptureFrame frame).wp anyReply s w (fun _ s' _ => s'.Reported)
      fun _ s' _ => s'.Reported :=
  Logs.step (I := OnTrace Live) (h.live hactive) (fun _ _ _ h' => Live.reported h')
    fun handled _ _ h' => queueAfter_reported handled h'

instance (event : Option VideoSourceActorEvent) : Reports (onSourceEvent event) := by
  refine .get_bind fun s w h => (wp_when ..).2 ⟨fun hactive => ?_, fun _ => h⟩
  have hlive := ActorState.Reported.live h hactive
  cases event with
  | none => exact Then.of (queueAfter_reported _ hlive)
  | some event =>
    exact Logs.step (I := OnTrace Live) hlive (fun _ _ _ h' => Live.reported h')
      fun handled _ _ h' => queueAfter_reported handled h'

instance : Reports onPoll := by
  unfold onPoll
  infer_instance

instance onGrantState_reported (event : GrantStateEvent) : Reports (onGrantState event) := by
  unfold onGrantState
  infer_instance

instance onGrantRevoked_reported : Reports onGrantRevoked := by
  refine .seq inferInstance fun _ => .seq (note_reported rfl) fun _ => ?_
  refine .get_bind fun s w h => (wp_when ..).2 ⟨fun hactive => ?_, fun _ => h⟩
  exact Logs.step (I := OnTrace Live) (ActorState.Reported.live h hactive)
    (fun _ _ _ h' => Live.reported h') fun _ _ _ h' => failActive_reported _ h'

instance onCecTransmit_reported (event : CecTransmitEvent) : Reports (onCecTransmit event) := by
  have : Reports (note (.cecTransmit event)) := note_reported rfl
  unfold onCecTransmit handleCecTransmit
  infer_instance

lemma tryStart_reported (config : CastKmsActorConfig) (request : MediaStartRequest)
    (h : s.Reported) :
    (tryStart config request).wp anyReply s w
      (fun result s' _ => match result with
        | .ok _ => Reported s'.trace false ∧ s'.active.isSome = true
        | .error _ => s'.Reported) fun _ s' _ => s'.Reported := by
  refine Then.get ?_
  by_cases hactive : s.active.isSome = true
  · rw [if_pos hactive]
    exact h
  · rw [if_neg hactive]
    refine Logs.step (I := OnTrace Reported) h (fun _ _ _ h' => h') fun started s' w' h' => ?_
    rcases started with e | ⟨generation, prepared⟩
    · exact h'
    · exact ⟨h'.released, rfl⟩

lemma answerStart_reported (result : Except KernelDisplayError PreparedCaptureMedia)
    (incompleteRollback : Bool)
    (h : match result with
      | .ok _ => Reported s.trace false ∧ s.active.isSome = true
      | .error _ => s.Reported) :
    (answerStart result incompleteRollback).wp anyReply s w (fun _ s' _ => s'.Reported)
      fun _ s' _ => s'.Reported := by
  have hend : ∀ s' w', s'.Reported → (failIf (incompleteRollback = true)
      ⟨"roll back failed capture start",
        [.text "capture resources remain owned after startup failure"]⟩ : ActorM Unit).wp anyReply
      s' w' (fun _ s' _ => s'.Reported) fun _ s' _ => s'.Reported :=
    fun s' w' h' => (wp_failIf ..).2 ⟨fun _ => h', fun _ => h'⟩
  refine Then.request fun taken w₁ _ => Then.of ((wp_when ..).2 ⟨fun htaken => ?_, ?_⟩)
  · refine (wp_note ..).2 (Then.of ((wp_when ..).2 ?_))
    refine ⟨fun hc => absurd htaken hc.1, fun _ => hend _ _ ?_⟩
    cases result with
    | error e => exact Reported.note h rfl
    | ok prepared =>
      have hstarted := h.1.started prepared
      rw [← h.2] at hstarted
      exact hstarted
  · refine fun hlost => Then.of ((wp_when ..).2 ?_)
    cases result with
    | error e => exact ⟨fun hc => absurd hc.2 Bool.false_ne_true, fun _ => hend _ _ h⟩
    | ok prepared =>
      refine ⟨fun _ => ?_, fun hc => absurd ⟨hlost, rfl⟩ hc⟩
      refine Then.mono (stopActive_ends h.1 h.2) (fun _ _ _ h' => h') ?_
      rintro stopped s' w' ⟨-, h', hnone⟩
      have hreported : s'.Reported := by
        unfold ActorState.Reported
        rw [hnone]
        exact h'
      exact (wp_lift ..).2 ⟨fun _ _ => hreported, fun _ _ => hend _ _ hreported⟩

instance (config : CastKmsActorConfig) (request : MediaStartRequest) :
    Reports (onStart config request) :=
  ⟨fun _ _ h => Then.mono (tryStart_reported config request h) (fun _ _ _ h' => h')
    fun result _ _ h' => Then.get (answerStart_reported result _ h')⟩

instance (answer : Answer) : Reports (note (.answered answer)) :=
  note_reported rfl

instance (mediaGeneration : NonZeroU64) : Reports (onStop mediaGeneration) :=
  .seq inferInstance fun _ => by split <;> infer_instance

instance : Reports onDetach := by
  unfold onDetach
  infer_instance

instance (mediaGeneration : NonZeroU64) (suspended : Bool) :
    Reports (setSuspended mediaGeneration suspended) := by
  refine .get_bind fun s w h => ?_
  cases hactive : s.active with
  | none => exact h
  | some generation =>
    cases hrequired : requireGeneration (some generation) mediaGeneration with
    | error e => exact h
    | ok current =>
      unfold OnTrace at h
      rw [hactive] at h
      exact Then.of ((wp_setActive ..).2 h)

lemma Branch.body_reported (config : CastKmsActorConfig) {branch : Branch}
    (hb : branch ≠ .events) : Reports (branch.body config) := by
  cases branch with
  | events => exact absurd rfl hb
  | queueRetry => unfold Branch.body onQueueRetry; infer_instance
  | _ => unfold Branch.body; infer_instance

/-- A frame is expected while a generation is active. -/
def Expected (s : ActorState) (event : CastKmsEvent) : Prop :=
  event.frame?.isSome = true → s.active.isSome = true

lemma inactive_of_not_expected {frame : CaptureFrameEvent}
    (h : ¬ Expected s (.CaptureFrame frame)) : s.active = none := by
  cases hactive : s.active with
  | none => rfl
  | some generation => exact absurd (fun _ => by simp [hactive]) h

lemma dispatch_reported {event : CastKmsEvent} (h : s.Reported) (hexpected : Expected s event) :
    (dispatch event).wp anyReply s w (fun _ s' _ => s'.Reported) fun _ s' _ => s'.Reported := by
  cases event with
  | CaptureFrame frame => exact onCaptureFrame_reported frame h (hexpected rfl)
  | GrantState event => exact (onGrantState_reported event).wp s w h
  | GrantRevoked event => exact onGrantRevoked_reported.wp s w h
  | CecTransmit event => exact (onCecTransmit_reported event).wp s w h
  | Unknown event => exact h

end Handlers

lemma LoopReach.reported {config : CastKmsActorConfig} {s₀ s : ActorState}
    {events : List CastKmsEvent} {w : Unit}
    (h : LoopReach config anyReply (fun s event _ => Expected s event) s₀ () s events w)
    (h₀ : s₀.Reported) : s.Reported := by
  have (events : List CastKmsEvent) : Reports (note (.dispatched events)) := note_reported rfl
  have htake : Reports takeBatch := by
    unfold takeBatch
    infer_instance
  exact h.invariant (I := fun s _ _ => s.Reported) h₀ (fun _ h' => h')
    (fun branch hbranch h' => (Branch.body_reported config hbranch).wp _ _ h')
    (fun h' => htake.wp _ _ h') fun hallowed h' => dispatch_reported h' hallowed

/-- The error of a frame that finds no generation. -/
def unexpectedFrame : KernelDisplayError where
  operation := "handle CastKMS capture frame"
  message := [.text "frame arrived without an active media generation"]

/-- An unexpected frame is reported, and nothing is torn down for it. -/
lemma dispatch_unexpected {W : Type} {E : Environment W ActorCall ActorCall.Reply} {w : W}
    {frame : CaptureFrameEvent} (hnone : s.active = none) :
    (dispatch (.CaptureFrame frame)).wp E s w
      (fun _ s' _ => s'.active = none ∧
        s'.trace = s.trace ++ [.published (.MediaFailed unexpectedFrame.toMessage)])
      fun _ _ _ => False := by
  have hhandled : (handleCaptureFrame frame).wp E s w (fun _ _ _ => False)
      fun e s' _ => e = unexpectedFrame ∧ s' = s :=
    Then.get (Then.okOr (fun _ => ⟨rfl, rfl⟩) fun g hg => by simp [hnone] at hg)
  refine Then.attempt ?_
  refine wp_mono hhandled (fun _ _ _ h' => h'.elim) ?_
  rintro _ _ w' ⟨rfl, rfl⟩
  refine Then.of (Then.get ?_)
  rw [hnone]
  exact ⟨hnone, rfl⟩

/-- If every frame is dispatched while a generation is active, there are no more reports than
started generations, and every report follows the teardown of one. An unexpected frame
breaks this. -/
theorem failures_covered (config : CastKmsActorConfig) (lease : GrantLease) (cec : CecTracker)
    (current : KernelDisplayObservation) {s : ActorState} {events : List CastKmsEvent} {w : Unit}
    (h : LoopReach config anyReply (fun s event _ => Expected s event)
      (ActorState.initial config lease cec current) () s events w) :
    s.trace.countP isReport ≤ s.trace.countP isStarted ∧
      Trace.Lawful Backs s.trace ∧
      ∀ frame, ¬ Expected s (.CaptureFrame frame) →
        (dispatch (.CaptureFrame frame)).wp anyReply s w
          (fun _ s' _ => s'.active = none ∧
            s'.trace = s.trace ++ [.published (.MediaFailed unexpectedFrame.toMessage)])
          fun _ _ _ => False := by
  have hreported := h.reported Reported.empty
  have hbounded := hreported.bounded
  exact ⟨by omega, hreported.backed, fun _ hframe =>
    dispatch_unexpected (inactive_of_not_expected hframe)⟩

/-- A request is in flight when the grant loses its master. The loop reads the notice
together with the frame of the request. -/
def brokenBatchRun : ActorState × Rehearsal :=
  let started := startedRun sampleConfig sampleState false
  (actorService sampleConfig).play (script false true) [.events] started.1
    { started.2 with world := { started.2.world with
        events := [.GrantState ⟨1, .SuspendedNoMaster, -11, 0⟩] } }

/-- One generation, two reports. -/
theorem failure_reported_twice :
    ∃ s, (actorService sampleConfig).Reach anyReply sampleState () s () ∧
      s.trace.countP isStarted = 1 ∧ s.teardowns.length = 1 ∧
      s.trace.countP isReport = 2 ∧
      .published (.MediaFailed unexpectedFrame.toMessage) ∈ s.trace := by
  refine ⟨brokenBatchRun.1, ?_, by decide +kernel⟩
  exact Service.Reach.play (fun _ => ()) (fun _ _ => trivial) _
    (Service.Reach.play (fun _ => ()) (fun _ _ => trivial) _ .init)

/-- The batch with the frame of the request. -/
def takenBatch : (Except KernelDisplayError (List CastKmsEvent) × ActorState) × Rehearsal :=
  let started := startedRun sampleConfig sampleState false
  (takeBatch started.1).exec (script false false) started.2

/-- The frame failed with `EIO`. -/
def failedFrame : CaptureFrameEvent :=
  answer ⟨7, 12, 2, 1, 3, 1, 0⟩

/-- The state after the frame was dispatched. -/
def failedRun : (Except KernelDisplayError Unit × ActorState) × Rehearsal :=
  (dispatch (.CaptureFrame failedFrame) takenBatch.1.2).exec (script false false)
    takenBatch.2

lemma takenBatch_events :
    takenBatch.1.1 = .ok [.CaptureFrame failedFrame, .Unknown ⟨0, 0⟩] := by
  decide +kernel

lemma failedRun_returned : failedRun.1.1 = .ok () := by
  decide +kernel

lemma failedRun_reach :
    LoopReach sampleConfig anyReply (fun s event _ => Expected s event) sampleState ()
      failedRun.1.2 [.Unknown ⟨0, 0⟩] () := by
  have hstarted (prompt : Bool) : LoopReach sampleConfig anyReply
      (fun s event _ => Expected s event) sampleState ()
      (startedRun sampleConfig sampleState prompt).1 [] () :=
    .play (script prompt false) (fun _ => ()) (fun _ _ => trivial) sampleBranches (by decide) .init
  have hactive : takenBatch.1.2.active.isSome = true := by decide +kernel
  have htaken : LoopReach sampleConfig anyReply (fun s event _ => Expected s event) sampleState ()
      takenBatch.1.2 [.CaptureFrame failedFrame, .Unknown ⟨0, 0⟩] () :=
    .takes (script false false) (fun _ => ()) (fun _ _ => trivial)
      (startedRun sampleConfig sampleState false).2 (hstarted false) (by decide +kernel) rfl
      takenBatch_events
  exact .dispatches (script false false) (fun _ => ()) (fun _ _ => trivial) takenBatch.2
    htaken (fun _ => hactive) rfl failedRun_returned

/-- A frame that failed ends the generation, and this is reported once. -/
theorem failures_covered_once :
    failedRun.1.2.trace.countP isReport = 1 ∧
      failedRun.1.2.trace.countP isReport ≤
        failedRun.1.2.trace.countP isStarted ∧
      Trace.Lawful Backs failedRun.1.2.trace :=
  have h := failures_covered sampleConfig sampleGrant {} ⟨⟨.Attached, none⟩, .Active⟩
    failedRun_reach
  ⟨by decide +kernel, h.1, h.2.1⟩

end Pronk.Actor
