import Pronk.CastDisplay.Slot

/-!
# No recovery is lost

While the device of a display is available and its session is not ready, the latest
request is somewhere between the slot and its coordinator: queued, being processed or
answered. Its token is not cancelled, so the coordinator does not drop it, and its
device is the current one, so its answer is believed.
-/
namespace Pronk.CastDisplay
open Dbus DeviceSession Media Transition DeviceSessionPolicyState Slot RecoveryTask
open DeviceSessionPolicyState (request)

/-- The slot without what it publishes. -/
structure View where
  phase : SlotPhase
  policy : DeviceSessionPolicyState
  device : DeviceInfo
  handle : DeviceSessionRecoveryHandle
  commands : List RecoveryCommand
  events : List DeviceSessionRecoveryEvent
  task : RecoveryTask Unit
  accepted : List Acceptance

namespace Slot

def view (w : Slot) : View :=
  ⟨w.phase, w.policy, w.snapshot.device, w.handle, w.commands, w.events, w.task, w.accepted⟩

lemma applyKernelEvent_device (snapshot : AddedCastDisplaySnapshot) (event : KernelDisplayEvent) :
    (snapshot.applyKernelEvent event).device = snapshot.device := by
  cases event <;> rfl

lemma noteDevice_eq (w : Slot) (policy : DeviceSessionPolicyState) (device : DeviceInfo) :
    ∃ snapshot published input, snapshot.device = device ∧
      w.noteDevice policy device = { w with
        policy := policy, snapshot := snapshot, published := published, policyInput := input } := by
  simp only [noteDevice, refreshDevice, AddedCastDisplaySnapshot.updateDevice]
  split_ifs with h
  · exact ⟨w.snapshot, w.published, _, h, rfl⟩
  · exact ⟨_, _, _, by rfl, rfl⟩

lemma observeMedia_eq (w : Slot) (media : MediaSession.MediaSessionSnapshot) :
    ∃ snapshot published, snapshot.device = w.snapshot.device ∧
      w.observeMedia media = { w with snapshot := snapshot, published := published } := by
  simp only [observeMedia, AddedCastDisplaySnapshot.observeMedia]
  split_ifs
  · exact ⟨_, _, by rfl, rfl⟩
  · exact ⟨w.snapshot, w.published, rfl, rfl⟩

end Slot

namespace View

/-- The request is queued, it is being processed, or its answer is on the way. -/
def Outstanding (v : View) (requestGeneration : UInt64) (device : DeviceInfo)
    (cancellation : ℕ) : Prop :=
  .Recover requestGeneration device cancellation ∈ v.commands ∨
  (∃ attempt, v.task.phase.attempt? = some attempt ∧
    attempt.requestGeneration = requestGeneration ∧ attempt.device = device ∧
    attempt.cancellation = cancellation) ∨
  (∃ event, v.task.phase = .sending event ∧ event.Answers requestGeneration device) ∨
  ∃ event ∈ v.events, event.Answers requestGeneration device

variable {v : View} {requestGeneration : UInt64} {device : DeviceInfo} {cancellation : ℕ}
  {task : RecoveryTask Unit}

/-- The command that the coordinator takes becomes an attempt, or fails at once. -/
lemma Outstanding.dequeue (h : v.Outstanding requestGeneration device cancellation)
    {command : RecoveryCommand} {rest : List RecoveryCommand}
    (hcommands : v.commands = command :: rest)
    (hstep : v.task.step (.command (some command)) = some task) :
    Outstanding { v with commands := rest, task := task } requestGeneration device
      cancellation := by
  unfold Outstanding at h ⊢
  cases steps_of_step hstep with
  | command _ hphase =>
    simp only [hcommands, List.mem_cons, hphase, Phase.attempt?, reduceCtorEq, false_and,
      exists_false, false_or] at h
    rcases h with (rfl | hqueued) | hanswered
    · simp only [onCommand]
      split
      · exact .inr (.inr (.inl ⟨_, rfl, rfl, rfl⟩))
      · exact .inr (.inl ⟨_, rfl, rfl, rfl, rfl⟩)
    · exact .inl hqueued
    · exact .inr (.inr (.inr hanswered))

/-- The coordinator does not drop a request whose token is not cancelled. -/
lemma Outstanding.recovery {w : Slot} (h : w.view.Outstanding requestGeneration device cancellation)
    (hcancellation : cancellation ∉ w.handle.cancelled) {input : TaskInput Unit}
    (hmay : w.mayAnswer input = true) (hstep : w.task.step input = some task) :
    Outstanding { w.view with task := task } requestGeneration device cancellation := by
  have hsteps := steps_of_step hstep
  rcases h with hqueued | ⟨attempt, hattempt, hgeneration, hdevice, htoken⟩ |
    ⟨event, hevent, -⟩ | hanswered
  · exact .inl hqueued
  · rcases hsteps.attempt hattempt with hsame | ⟨event, hphase, hanswers⟩ | rfl
    · exact .inr (.inl ⟨attempt, hsame, hgeneration, hdevice, htoken⟩)
    · exact .inr (.inr (.inl ⟨event, hphase, hgeneration ▸ hdevice ▸ hanswers⟩))
    · cases hsteps
      grind -linarith [mayAnswer, view]
  · cases hsteps <;> simp_all [view, mayAnswer]
  · exact .inr (.inr (.inr hanswered))

/-- The latest request was made for the current device and is not cancelled. -/
def Latest (v : View) (requestGeneration : UInt64) (device : DeviceInfo) (cancellation : ℕ) :
    Prop :=
  v.policy.ready = false ∧ requestGeneration = v.handle.requestGeneration ∧ device = v.device ∧
  cancellation = v.handle.phaseCancellation ∧ cancellation ∉ v.handle.cancelled ∧
  device.availability = .Available

/-- The slot waits for its next input, or will when the media actor has answered. -/
def Steady (v : View) : Prop := v.phase = .waiting ∨ v.phase = .reporting none

/-- A steady slot that has no session waits for its request, or for its device. -/
structure Tracked (v : View) : Prop where
  tokens : ∀ token ∈ v.handle.cancelled, token ≤ v.handle.phaseCancellation
  ready : v.policy.ready = true → v.policy.pendingRequest = none ∧
    v.accepted.getLast? = some ⟨v.handle.requestGeneration, v.policy.sessionGeneration⟩
  serving : v.phase ∉ [.stopping, .joining, .ended] →
    v.task.phase ≠ .ended ∧ .Shutdown ∉ v.commands
  recovering : ∀ generation device token failure,
    v.phase = .recovering generation device token failure → v.Latest generation device token
  pending : v.Steady → ∀ r, v.policy.pendingRequest = some r →
    r = request v.handle.requestGeneration v.device ∧
    v.Latest v.handle.requestGeneration v.device v.handle.phaseCancellation ∧
    v.Outstanding v.handle.requestGeneration v.device v.handle.phaseCancellation
  idle : v.Steady → v.policy.pendingRequest = none →
    v.policy.ready = true ∨ v.device.availability ≠ .Available

end View

namespace Slot
open View

attribute [local grind] view Latest Steady Outstanding
attribute [local grind =] DeviceSessionRecoveryHandle.cancelPhase
  DeviceSessionRecoveryHandle.beginRequest
  beginRequest request List.getLast?_concat
attribute [local simp] view publish publishMediaFailure observePolicy cancelPhase
  recover recoverFailed kernelEvent kernelFailed recoverSent recoveryStopped leave
  applyKernelEvent_device AddedCastDisplaySnapshot.failMedia AddedCastDisplaySnapshot.failKernel
  AddedCastDisplaySnapshot.withRuntime

lemma tracked_updateDevice {w : Slot} (h : w.view.Tracked) (device : DeviceInfo)
    (hphase : w.phase = .waiting) : (w.updateDevice device).view.Tracked := by
  obtain ⟨htokens, hready, hserving, hrecovering, hpending, hidle⟩ := h
  rcases w.policy.observeDevice_cases device with
    ⟨hlive, heq⟩ | ⟨hunavailable, heq⟩ | ⟨havailable, heq⟩ <;>
    simp only [updateDevice, heq]
  -- a live session stays, whatever discovery says of its device
  · split_ifs
    · exact ⟨htokens, hready, hserving, hrecovering, hpending, hidle⟩
    obtain ⟨snapshot, published, input, hdevice, hnote⟩ := w.noteDevice_eq w.policy device
    simp [hnote, hdevice]
    constructor <;> grind -linarith
  · obtain ⟨snapshot, published, input, hdevice, hnote⟩ :=
      w.noteDevice_eq { w.policy with ready := false, pendingRequest := none } device
    simp [hnote, hdevice]
    constructor <;> grind -linarith
  · obtain ⟨snapshot, published, input, hdevice, hnote⟩ :=
      w.noteDevice_eq { w.policy with ready := false } device
    cases hnext : checkedSucc w.handle.requestGeneration <;>
      simp [hnote, hdevice, DeviceSessionRecoveryHandle.recover, hnext]
    all_goals constructor <;> grind -linarith

lemma tracked_recoveryEvent {w : Slot} (h : w.view.Tracked) {event : DeviceSessionRecoveryEvent}
    {rest : List DeviceSessionRecoveryEvent} (hphase : w.phase = .waiting)
    (hevents : w.events = event :: rest) :
    (onRecoveryEvent { w with events := rest } event).view.Tracked := by
  obtain ⟨htokens, hready, hserving, hrecovering, hpending, hidle⟩ := h
  cases event with
  | Ready generation device sessionGeneration cleanup =>
    simp only [onRecoveryEvent, onReady, completeRequest]
    split_ifs with hstale
    all_goals simp
    all_goals constructor <;> grind -linarith
  | Failed generation device error =>
    simp only [onRecoveryEvent, onFailed, failRequest]
    split_ifs with hstale
    all_goals simp
    all_goals constructor <;> grind -linarith
  | TransportFailed sessionGeneration error =>
    simp only [onRecoveryEvent, onTransportFailed, transportFailed]
    split_ifs with hstale
    · simp
      constructor <;> grind -linarith
    dsimp only
    split_ifs with havailable <;> simp at havailable
    · cases hnext : checkedSucc w.handle.requestGeneration <;>
        simp [DeviceSessionRecoveryHandle.recover, hnext]
      all_goals constructor <;> grind -linarith
    · simp
      constructor <;> grind -linarith

lemma Steps.tracked {w w' : Slot} {i : Input} (h : w.view.Tracked) (hsteps : Steps w i w') :
    w'.view.Tracked := by
  obtain ⟨htokens, hready, hserving, hrecovering, hpending, hidle⟩ := h
  cases hsteps with
  | updateDevice device _ hphase =>
    exact tracked_updateDevice ⟨htokens, hready, hserving, hrecovering, hpending, hidle⟩ device
      hphase
  | recoveryEvent event rest hphase hevents =>
    exact tracked_recoveryEvent ⟨htokens, hready, hserving, hrecovering, hpending, hidle⟩ hphase
      hevents
  | dequeue command rest task hcommands hstep =>
    refine ⟨htokens, hready, ?_, hrecovering, fun hsteady r hr => ?_, hidle⟩
    · cases steps_of_step hstep with
      | command _ hwaiting => cases command <;> grind -linarith
    · obtain ⟨heq, hlatest, hold⟩ := hpending hsteady r hr
      exact ⟨heq, hlatest, hold.dequeue hcommands hstep⟩
  | recovery input task hmay hstep =>
    refine ⟨htokens, hready, ?_, hrecovering, fun hsteady r hr => ?_, hidle⟩
    · cases steps_of_step hstep with
      | created attempt cleanup result =>
        rcases result with (_ | _) | ⟨session, error | _⟩ <;> grind -linarith
      | installed attempt cleanup session result => cases result <;> grind -linarith
      | _ => grind -linarith [mayAnswer]
    · obtain ⟨heq, hlatest, hold⟩ := hpending hsteady r hr
      exact ⟨heq, hlatest, hold.recovery hlatest.2.2.2.2.1 hmay hstep⟩
  | eventSent event task hphase hroom hstep =>
    cases steps_of_step hstep with
    | sent event' _ hsending => constructor <;> grind -linarith
  | media snapshot hphase =>
    obtain ⟨snapshot', published, hsame, heq⟩ := w.observeMedia_eq snapshot.1
    simp only [heq, view, hsame]
    exact ⟨htokens, hready, hserving, hrecovering, hpending, hidle⟩
  | kernelEvent event hphase => cases event <;> simp <;> constructor <;> grind -linarith
  | recoverSent generation device token failure hphase =>
    cases failure <;> simp <;> constructor <;> grind -linarith
  | recoverRefused generation device token failure hphase hended => grind -linarith
  | _ =>
    simp
    constructor <;> grind -linarith

/-- The event belongs to the latest request, or to the session that is ready. -/
def Current (w : Slot) : DeviceSessionRecoveryEvent → Prop
  | .Ready requestGeneration _ _ _ => requestGeneration = w.handle.requestGeneration
  | .Failed requestGeneration _ _ => requestGeneration = w.handle.requestGeneration
  | .TransportFailed sessionGeneration _ =>
    w.policy.ready = true ∧ sessionGeneration.get = w.policy.sessionGeneration

lemma policy_of_not_current {w : Slot} (h : w.view.Tracked) (hphase : w.phase = .waiting)
    {event : DeviceSessionRecoveryEvent} {rest : List DeviceSessionRecoveryEvent}
    (hevent : ¬ w.Current event) :
    (onRecoveryEvent { w with events := rest } event).policy = w.policy := by
  have hpending := h.pending (.inl hphase)
  cases event <;> simp only [Current] at hevent
  · simp only [onRecoveryEvent, onReady, completeRequest]
    grind -linarith
  · simp only [onRecoveryEvent, onFailed, failRequest]
    grind -linarith
  · simp only [onRecoveryEvent, onTransportFailed, transportFailed]
    grind -linarith

lemma tracked_initial (display : AddedCastDisplay) (observation : KernelDisplayObservation) :
    (initial display observation).view.Tracked := by
  simp only [view, initial, new]
  constructor <;> grind -linarith

end Slot

lemma reach_tracked {display : AddedCastDisplay} {observation : KernelDisplayObservation}
    {w : Slot} (h : slot.Reach (initial display observation) w) : w.view.Tracked :=
  h.invariant (I := fun w => w.view.Tracked) (tracked_initial display observation)
    fun _ _ _ htracked hnext => (steps_of_next hnext).tracked htracked

/-- In every interleaving: a waiting slot with an available device and no ready session
has a request for that device which is outstanding; an event that is not current leaves
the policy state alone; and a ready session is the one accepted last, for the request
issued last. -/
theorem no_recovery_lost_none_stale {display : AddedCastDisplay}
    {observation : KernelDisplayObservation} {w : Slot}
    (h : slot.Reach (initial display observation) w) :
    (w.phase = .waiting → w.snapshot.device.availability = .Available → w.policy.ready = false →
      ∃ generation token,
        w.policy.pendingRequest = some (request generation w.snapshot.device) ∧
        w.view.Outstanding generation w.snapshot.device token) ∧
    (∀ event rest w', w.events = event :: rest → ¬ w.Current event →
      w.next .recoveryEvent = some w' → w'.policy = w.policy) ∧
    (w.policy.ready = true → w.accepted.getLast? =
      some ⟨w.handle.requestGeneration, w.policy.sessionGeneration⟩) := by
  have htracked := reach_tracked h
  refine ⟨fun hphase havailable hready => ?_, fun event rest w' hevents hevent hnext => ?_,
    fun hready => (htracked.ready hready).2⟩
  · have hidle := htracked.idle (.inl hphase)
    cases hpending : w.policy.pendingRequest with
    | none => grind -linarith [view]
    | some r =>
      obtain ⟨rfl, -, houtstanding⟩ := htracked.pending (.inl hphase) r hpending
      exact ⟨_, _, rfl, houtstanding⟩
  · simp only [next, hevents] at hnext
    split at hnext
    · next hphase heq =>
      obtain ⟨rfl, rfl⟩ := List.cons.inj heq
      exact Option.some.inj hnext ▸ policy_of_not_current htracked hphase hevent
    · cases hnext

/-- The transport of the first session fails. -/
theorem no_recovery_lost_none_stale_transport_failure :
    ∃ w, slot.Reach (initial (.new ⟨⟨"cast", "tv", "TV", .Available, 1, 1, 1, []⟩, true⟩
        ⟨"cast", "tv", "TV", .Available, 1, 1, 1, []⟩ ⟨1, by decide⟩)
          ⟨⟨.Attached, none⟩, .Active⟩) w ∧
      w.phase = .waiting ∧ w.policy.ready = false ∧ w.events = [] ∧
      ∃ generation token,
        w.policy.pendingRequest = some (request generation w.snapshot.device) ∧
        w.view.Outstanding generation w.snapshot.device token := by
  let inputs : List Input := [.recovery (.sessionEvent (some ⟨⟨1, by decide⟩, "closed"⟩)),
    .eventSent, .recoveryEvent, .recoverSent, .reported, .dequeue]
  have hrun : ∃ w, slot.run (initial (.new
        ⟨⟨"cast", "tv", "TV", .Available, 1, 1, 1, []⟩, true⟩
        ⟨"cast", "tv", "TV", .Available, 1, 1, 1, []⟩ ⟨1, by decide⟩) ⟨⟨.Attached, none⟩, .Active⟩)
        inputs = some w ∧ w.phase = .waiting ∧ w.snapshot.device.availability = .Available ∧
      w.policy.ready = false ∧ w.events = [] :=
    ⟨_, rfl, rfl, rfl, rfl, rfl⟩
  obtain ⟨w, hw, hphase, havailable, hready, hevents⟩ := hrun
  exact ⟨w, ⟨inputs, hw⟩, hphase, hready, hevents,
    (no_recovery_lost_none_stale ⟨inputs, hw⟩).1 hphase havailable hready⟩

end Pronk.CastDisplay
