import Pronk.CastDisplay.NoLostRecovery

/-!
# When the slot and its coordinator wait for each other

The slot does not read events while it waits for room in the command queue, nor while it
waits for the coordinator to end; the coordinator does not read commands while it waits for
room in the event queue. If both wait, no step is left. This does happen, since the slot may
ask for one recovery after another without reading an event. It is excluded if the slot
counts, before it begins to wait, the events that can still come.
-/
namespace Pronk.DeviceSession

/-- The events that the task may send before it takes another command: the answer of an
attempt, and the failure of a session that it listens to. -/
def RecoveryTask.owed {σ : Type} (t : RecoveryTask σ) : ℕ :=
  match t.phase with
  | .waiting => t.currentEvents.toNat
  | .sending _ => 1 + t.currentEvents.toNat
  | .ended => 0
  | _ => 2

def RecoveryCommand.isRecover : RecoveryCommand → Bool
  | .Recover _ _ _ => true
  | .Shutdown => false

namespace RecoveryTask

variable {σ : Type} {t t' : RecoveryTask σ}

attribute [local grind =] owed RecoveryCommand.isRecover Bool.toNat_true Bool.toNat_false

lemma owed_le_two (t : RecoveryTask σ) : t.owed ≤ 2 := by
  have hle := Bool.toNat_le t.currentEvents
  grind

/-- Taking a command makes at most two more events possible, and none if it is the last. -/
lemma owed_of_command {command : RecoveryCommand}
    (h : t.step (.command (some command)) = some t') :
    t'.owed ≤ t.owed + 2 * command.isRecover.toNat := by
  have hle := owed_le_two t'
  cases steps_of_step h
  cases command <;> grind

lemma owed_of_sent {received : Bool} (h : t.step (.sent received) = some t') :
    t'.owed + 1 ≤ t.owed := by
  cases steps_of_step h with
  | sent event received hphase =>
    cases received <;> cases event <;> simp [owed, onSent, goto, hphase, Nat.add_comm]

/-- No step but the next command makes an event possible. -/
lemma owed_of_step {input : TaskInput σ} (h : t.step input = some t')
    (hcommand : ∀ command, input ≠ .command command) : t'.owed ≤ t.owed := by
  have hle := owed_le_two t'
  cases steps_of_step h with
  | command command => exact absurd rfl (hcommand command)
  | sessionEvent event hphase hevents => simp [owed, onSessionEvent, hphase, hevents]
  | sent => exact Nat.le_of_succ_le (owed_of_sent h)
  | _ => grind

end RecoveryTask

end Pronk.DeviceSession

namespace Pronk.CastDisplay
open Dbus DeviceSession Media Transition RecoveryTask

/-- The slot has begun to wait for its coordinator. -/
def SlotPhase.isBusy : SlotPhase → Bool
  | .recovering _ _ _ _ => true
  | .stopping => true
  | .joining => true
  | _ => false

namespace Slot

/-- The slot waits for room in the command queue, or for the answer to its last command. -/
def AwaitsCoordinator (w : Slot) : Prop :=
  match w.phase with
  | .recovering _ _ _ _ => RECOVERY_COMMAND_CAPACITY ≤ w.commands.length
  | .stopping => RECOVERY_COMMAND_CAPACITY ≤ w.commands.length
  | .joining => True
  | _ => False

/-- The coordinator waits for room in the event queue. -/
def AwaitsSlot (w : Slot) : Prop :=
  (∃ event, w.task.phase = .sending event) ∧ RECOVERY_EVENT_CAPACITY ≤ w.events.length

/-- The events that may come before the coordinator takes another command. -/
def due (w : Slot) : ℕ := w.events.length + w.task.owed

/-- All the events that may come from the commands so far. -/
def dueAll (w : Slot) : ℕ := w.due + 2 * w.commands.countP (·.isRecover)

/-- Whatever the coordinator still sends while the slot waits fits in the event queue. -/
def Roomy (w : Slot) : Prop :=
  match w.phase with
  | .recovering _ _ _ _ =>
    w.commands.length < RECOVERY_COMMAND_CAPACITY ∨ w.due ≤ RECOVERY_EVENT_CAPACITY
  | .stopping => w.task.phase = .ended ∨ w.dueAll ≤ RECOVERY_EVENT_CAPACITY
  | .joining => w.task.phase = .ended ∨ w.dueAll ≤ RECOVERY_EVENT_CAPACITY
  | _ => True

instance decidableRoomy (w : Slot) : Decidable w.Roomy := by
  unfold Roomy
  split <;> infer_instance

/-- The slot begins to wait for its coordinator only if there is room for the events. -/
def Heeds (w : Slot) (i : Input) : Prop :=
  w.phase.isBusy = false → ∀ w' ∈ w.next i, w'.Roomy
deriving Decidable

variable {w w' : Slot} {i : Input}

/-- Nobody moves once both wait. -/
theorem next_of_mutual_wait (hslot : w.AwaitsCoordinator) (htask : w.AwaitsSlot) (i : Input) :
    w.next i = none := by
  obtain ⟨⟨event, hevent⟩, hfull⟩ := htask
  have htask (input : TaskInput Unit) (hinput : ∀ received, input ≠ .sent received) :
      w.task.step input = none := by
    cases input <;> simp_all [step]
  unfold AwaitsCoordinator at hslot
  cases i with
  | recovery input => cases input <;> simp [next, htask, mayAnswer]
  | kernel event => cases event <;> grind [next]
  | _ => grind [next]

lemma Roomy.not_mutual_wait (h : w.Roomy) (hslot : w.AwaitsCoordinator) : ¬ w.AwaitsSlot := by
  rintro ⟨⟨event, hevent⟩, hfull⟩
  unfold Roomy at h
  unfold AwaitsCoordinator at hslot
  grind [dueAll, due, owed]

lemma commands_recoverFailed (w : Slot) (failure : Option String)
    (error : DeviceSessionRecoveryError) :
    (w.recoverFailed failure error).commands = w.commands := by
  cases failure <;> rfl

lemma commands_recover (w : Slot) (device : DeviceInfo) (failure : Option String) :
    (w.recover device failure).commands = w.commands := by
  grind [recover, commands_recoverFailed]

lemma commands_noteDevice (w : Slot) (policy : DeviceSessionPolicyState) (device : DeviceInfo) :
    (w.noteDevice policy device).commands = w.commands := by
  obtain ⟨snapshot, published, input, -, heq⟩ := w.noteDevice_eq policy device
  rw [heq]

lemma commands_onRecoveryEvent (w : Slot) (event : DeviceSessionRecoveryEvent) :
    (w.onRecoveryEvent event).commands = w.commands := by
  cases event with
  | Ready => grind [onRecoveryEvent, onReady, observePolicy]
  | Failed => grind [onRecoveryEvent, onFailed, publishMediaFailure, publish, leave]
  | TransportFailed =>
    grind [onRecoveryEvent, onTransportFailed, observePolicy, publishMediaFailure, publish,
      commands_recover]

lemma Steps.commands_le (hsteps : Steps w i w')
    (h : w.commands.length ≤ RECOVERY_COMMAND_CAPACITY) :
    w'.commands.length ≤ RECOVERY_COMMAND_CAPACITY := by
  cases hsteps with
  | updateDevice device =>
    grind [Slot.updateDevice, commands_noteDevice, commands_recover, cancelPhase]
  | kernelEvent event => cases event <;> exact h
  | media snapshot =>
    obtain ⟨snapshot', published, -, heq⟩ := w.observeMedia_eq snapshot.1
    rwa [heq]
  | recoveryEvent event => rwa [commands_onRecoveryEvent]
  | recoverRefused _ _ _ failure => rwa [commands_recoverFailed]
  | kernelFailed | recoveryStopped | leave => exact h
  | recoverSent _ _ _ failure => cases failure <;> grind [Slot.recoverSent]
  | _ => grind

namespace Roomy

attribute [local grind =] due dueAll RecoveryCommand.isRecover Bool.toNat_true Bool.toNat_false

lemma not_ended {input : TaskInput Unit} {task : RecoveryTask Unit}
    (h : w.task.step input = some task) : w.task.phase ≠ .ended := by
  intro hended
  simp [step, hended] at h

/-- What the slot does while it waits: it gets through, or learns that nobody answers. -/
lemma steps (h : w.Roomy) (hbound : w.commands.length ≤ RECOVERY_COMMAND_CAPACITY)
    (hsteps : Steps w i w') (hheeds : w.phase.isBusy = false → w'.Roomy) : w'.Roomy := by
  have hfree (hphase : w.phase = .waiting) : w'.Roomy := hheeds (by rw [hphase]; rfl)
  cases hsteps with
  | leave terminal hphase =>
    exact hheeds (by rcases hphase with hphase | hphase <;> rw [hphase] <;> rfl)
  | recoverSent requestGeneration device cancellation failure => cases failure <;> trivial
  | recoverRefused requestGeneration device cancellation failure hphase hended =>
    cases failure with
    | none => exact .inl hended
    | some _ => trivial
  | reported hphase => exact hheeds (by rw [hphase]; rfl)
  | dequeue command rest task hcommands hstep =>
    have hlive := not_ended hstep
    have howed := owed_of_command hstep
    unfold Roomy at h ⊢
    grind
  | recovery input task hmay hstep =>
    have hlive := not_ended hstep
    have howed := owed_of_step hstep (by rintro command rfl; cases hmay)
    unfold Roomy at h ⊢
    grind
  | eventSent event task _ _ hstep =>
    have hlive := not_ended hstep
    have howed := owed_of_sent hstep
    unfold Roomy at h ⊢
    grind
  | shutdownSent | ended =>
    unfold Roomy at h ⊢
    grind
  | _ => exact hfree ‹_›

end Roomy

end Slot

/-- In a run in which the slot begins to wait for its coordinator only if whatever the
coordinator can still send fits in the event queue, the two never wait for each other. -/
theorem no_mutual_wait {display : AddedCastDisplay} {observation : KernelDisplayObservation}
    {w : Slot} (h : (slot.guard Slot.Heeds).Reach (Slot.initial display observation) w) :
    ¬ (w.AwaitsCoordinator ∧ w.AwaitsSlot) := by
  have hinv : w.commands.length ≤ RECOVERY_COMMAND_CAPACITY ∧ w.Roomy := by
    refine h.invariant
      (I := fun w => w.commands.length ≤ RECOVERY_COMMAND_CAPACITY ∧ w.Roomy)
      ⟨Nat.zero_le _, trivial⟩ fun w i w' hw hnext => ?_
    obtain ⟨hheeds, hnext⟩ := Machine.guard_next.1 hnext
    have hsteps := Slot.steps_of_next hnext
    exact ⟨hsteps.commands_le hw.1,
      hw.2.steps hw.1 hsteps fun hbusy => hheeds hbusy w' hnext⟩
  rintro ⟨hslot, htask⟩
  exact hinv.2.not_mutual_wait hslot htask

/-- A device whose backend was connected again. -/
def reconnectedDevice : DeviceInfo := ⟨"cast", "tv", "TV", .Available, 2, 1, 2, []⟩

def attachedSlot : Slot :=
  .initial (.new ⟨⟨"cast", "tv", "TV", .Available, 1, 1, 1, []⟩, true⟩
    ⟨"cast", "tv", "TV", .Available, 1, 1, 1, []⟩ 1) ⟨⟨.Attached, none⟩, .Active⟩

/-- The device is reported, and the session for it is recovered; the slot was not told yet. -/
def recoveredInputs : List Input :=
  [.updateDevice reconnectedDevice, .recoverSent, .dequeue, .recovery (.retired (.ok (some ()))),
   .recovery (.retiredStopped none), .recovery (.created (.ok ((), .ok ()))),
   .recovery (.installed (.ok ()))]

/-- The slot reads the event of each recovery before it goes on, and is removed at last. -/
theorem no_mutual_wait_removed : ∃ w, (slot.guard Slot.Heeds).Reach attachedSlot w ∧
    w.phase = .joining ∧ ¬ (w.AwaitsCoordinator ∧ w.AwaitsSlot) := by
  obtain ⟨w, hw, hphase⟩ : ∃ w, (slot.guard Slot.Heeds).Reach attachedSlot w ∧
      w.phase = .joining :=
    Machine.exists_reach (recoveredInputs ++ [.eventSent, .recoveryEvent, .remove, .shutdownSent])
      (by decide +kernel)
  exact ⟨w, hw, hphase, no_mutual_wait hw⟩

/-- Four answers fill the event queue, and the coordinator has the fifth. -/
def overrunInputs : List Input :=
  (List.replicate 4 (recoveredInputs ++ [.eventSent])).flatten ++ recoveredInputs

/-- The slot is removed without having read an event, or goes on asking until the command
queue is full as well: either way both wait for each other, and nothing moves any more. -/
theorem mutual_wait_reached :
    (∃ w, slot.Reach attachedSlot w ∧ w.phase = .joining ∧
      w.AwaitsCoordinator ∧ w.AwaitsSlot ∧ ∀ i, w.next i = none) ∧
    ∃ w, slot.Reach attachedSlot w ∧
      (∃ requestGeneration cancellation, w.phase =
        .recovering requestGeneration reconnectedDevice cancellation none) ∧
      w.AwaitsCoordinator ∧ w.AwaitsSlot ∧ ∀ i, w.next i = none := by
  obtain ⟨w, hw, hphase, hevents, htask⟩ : ∃ w, slot.Reach attachedSlot w ∧ w.phase = .joining ∧
      w.events.length = 4 ∧ w.task.phase = .sending (.Ready 5 reconnectedDevice 6 none) :=
    Machine.exists_reach (overrunInputs ++ [.remove, .shutdownSent]) (by decide +kernel)
  obtain ⟨v, hv, hvphase, hvcommands, hvevents, hvtask⟩ : ∃ w, slot.Reach attachedSlot w ∧
      w.phase = .recovering 10 reconnectedDevice 10 none ∧ w.commands.length = 4 ∧
      w.events.length = 4 ∧ w.task.phase = .sending (.Ready 5 reconnectedDevice 6 none) :=
    Machine.exists_reach (overrunInputs ++
      (List.replicate 4 [.updateDevice reconnectedDevice, .recoverSent]).flatten ++
        [.updateDevice reconnectedDevice]) (by decide +kernel)
  constructor
  · have hslot : w.AwaitsCoordinator := by simp [Slot.AwaitsCoordinator, hphase]
    have hcoordinator : w.AwaitsSlot := ⟨⟨_, htask⟩, hevents.ge⟩
    exact ⟨w, hw, hphase, hslot, hcoordinator, Slot.next_of_mutual_wait hslot hcoordinator⟩
  · have hslot : v.AwaitsCoordinator := by
      simp [Slot.AwaitsCoordinator, hvphase, hvcommands, RECOVERY_COMMAND_CAPACITY]
    have hcoordinator : v.AwaitsSlot := ⟨⟨_, hvtask⟩, hvevents.ge⟩
    exact ⟨v, hv, ⟨_, _, hvphase⟩, hslot, hcoordinator,
      Slot.next_of_mutual_wait hslot hcoordinator⟩

end Pronk.CastDisplay
