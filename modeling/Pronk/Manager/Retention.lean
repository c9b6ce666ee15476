import Mathlib.Data.List.Dedup
import Mathlib.Data.List.Perm.Subperm
import Pronk.Manager.Events

/-!
# Retained setup operations

The record of a setup outlives its task, so that clients can still read how it ended. It
is dropped when the removal of its display is joined, or by the request to forget it that
the public bus sends once, some time after the setup ended. The bus registers an object
for every started setup and watches it until then. A request that comes while the display
is still there is refused and not repeated.
-/
namespace Pronk.Manager
open Dbus Transition

inductive WatcherTask where
  | emitOperationStates
  | retireUnpublishedOperation
  deriving DecidableEq

/-- A task of the bus that waits for the last stage of a setup and then asks the manager
to forget it. -/
structure OperationWatcher where
  displayId : CastDisplayId
  task : WatcherTask
  deriving DecidableEq

/-- `registering` holds the calls of `AddDisplay` that have a handle and have not yet
registered its object. -/
structure PublicBus where
  manager : ManagerState := {}
  registering : List CastDisplayId := []
  objects : List CastDisplayId := []
  watchers : List OperationWatcher := []

/-- `registered` is false if the object server refused the object; a watcher that is
stopped met an error before its request. -/
inductive BusInput where
  | manager (input : Input)
  | addDisplay (selection : DeviceSelection)
      (spawned : Except DisplaySetupStartError CastDisplayId)
  | register (displayId : CastDisplayId) (registered : Bool)
  | forget (watcher : OperationWatcher)
  | stopWatcher (watcher : OperationWatcher)

/-- The commands that only the bus sends. -/
def Input.fromBus : Input → Bool
  | .command (.StartDisplaySetup _ _) => true
  | .command (.ForgetDisplaySetupOperation _) => true
  | _ => false

namespace PublicBus

/-- The path of an operation holds one object, and only the call that adds it starts to
watch. -/
def register (d : PublicBus) (id : CastDisplayId) (registered : Bool) : PublicBus :=
  let called := { d with registering := d.registering.erase id }
  if registered then
    if id ∈ d.objects then called
    else { called with
      objects := id :: d.objects
      watchers := ⟨id, .emitOperationStates⟩ :: d.watchers }
  else { called with
    manager := d.manager.cancelSetup id
    watchers := ⟨id, .retireUnpublishedOperation⟩ :: d.watchers }

/-- The object of a forgotten operation is removed with it. -/
def forgotten (d : PublicBus) (w : OperationWatcher) (m : ManagerState) : PublicBus :=
  { d with
    manager := m
    objects := if w.task = .emitOperationStates ∧ w.displayId ∈ d.manager.operations ∧
        w.displayId ∉ m.operations then d.objects.filter (· ≠ w.displayId) else d.objects
    watchers := d.watchers.erase w }

def next (d : PublicBus) : BusInput → Option PublicBus
  | .manager i =>
    if i.fromBus then none else (d.manager.next i).map fun m => { d with manager := m }
  | .addDisplay selection spawned =>
    match selection.validate with
    | .error _ => some d
    | .ok () =>
      let answer := (d.manager.startManagedDisplaySetup selection spawned).2
      (d.manager.next (.command (.StartDisplaySetup selection spawned))).map fun m =>
        { d with manager := m, registering := answer.toOption.toList ++ d.registering }
  | .register id registered =>
    if id ∈ d.registering then some (d.register id registered) else none
  | .forget w =>
    if w ∈ d.watchers ∧ d.manager.isTerminal w.displayId then
      (d.manager.next (.command (.ForgetDisplaySetupOperation w.displayId))).map (d.forgotten w)
    else none
  | .stopWatcher w =>
    if w ∈ d.watchers then some { d with watchers := d.watchers.erase w } else none

/-- A request to forget the operation is still to come. -/
def Scheduled (d : PublicBus) (id : CastDisplayId) : Prop :=
  id ∈ d.watchers.map (·.displayId) ∨ id ∈ d.registering ∧ id ∉ d.objects
deriving Decidable

/-- The identities whose request is to come and whose display is in no table. -/
def retained (d : PublicBus) : List CastDisplayId :=
  ((d.watchers.map (·.displayId) ++ d.registering).dedup).filter fun id =>
    d.manager.isTerminal id ∧ id ∉ d.manager.setupTasks ∧ id ∉ d.manager.displays ∧
      id ∉ d.manager.removalTasks

/-- Running setups, displays, removals in progress and ended setups whose request is to
come. -/
def occupied (d : PublicBus) : ℕ :=
  d.manager.setupTasks.keys.length + d.manager.displays.keys.length +
    d.manager.removalTasks.keys.length + d.retained.length

/-- A removed display has no record, or one that the request to come will drop; the
records are bounded by what is in progress, and so is the refusal of a start. -/
structure Frugal (d : PublicBus) : Prop where
  removed : ∀ id, .DisplayRemoved id ∈ d.manager.lifecycle id → id ∈ d.manager.operations →
    d.Scheduled id ∧ id ∉ (d.manager.forgetDisplaySetupOperation id).operations
  bounded : d.manager.operations.keys.length ≤ d.occupied
  accepting : d.occupied < MAX_RETAINED_SETUP_OPERATIONS → ∀ selection spawned,
    (d.manager.startManagedDisplaySetup selection spawned).2 ≠ .error .TooManyOperations

/-- When a slot fails the request to forget its operation is still to come, a request is
handled after its setup was joined, no task of a setup is lost, and a watcher stops only
if its display is there, is being removed or has no record. -/
def timely (d : PublicBus) : BusInput → Bool
  | .manager (.slotEvent (.TerminalFailure id)) => id ∈ d.manager.displays → d.Scheduled id
  | .manager (.joinSetup id (.completed _)) =>
    (d.manager.setupTasks.lookup id).all fun task => task.result ≠ some .lost
  | .forget w => w.displayId ∉ d.manager.setupTasks
  | .stopWatcher w => d.manager.closing ∨ w.displayId ∉ d.manager.operations ∨
      w.displayId ∈ d.manager.displays ∨ w.displayId ∈ d.manager.removalTasks
  | _ => true

end PublicBus

def publicBus : Machine PublicBus BusInput := ⟨PublicBus.next⟩

namespace ManagerState

variable {s s' : ManagerState} {id : CastDisplayId} {i : Input}

/-- The setup of a record that is no longer running has published its last stage. -/
structure Concluded (s : ManagerState) : Prop where
  settled : s.Settled
  ended : ∀ id ∈ s.operations, id ∉ s.setupTasks → s.isTerminal id

/-- A record of a display that is neither there nor being removed. -/
def Unplaced (s : ManagerState) (id : CastDisplayId) : Prop :=
  id ∈ s.operations ∧ id ∉ s.displays ∧ id ∉ s.removalTasks

namespace Concluded

attribute [local grind cases eager] Concluded

lemma initial : Concluded {} := ⟨nofun, nofun⟩

lemma steps (h : s.Concluded) (hs' : s.Steps i s')
    (hlost : ∀ id spawned task, i = .joinSetup id (.completed spawned) →
      s.setupTasks.lookup id = some task → task.result ≠ some .lost) : s'.Concluded := by
  cases hs' <;> constructor <;> grind

end Concluded

attribute [local grind] Unplaced

/-- How a display comes to have a record and no place: it had none before, its slot fails,
or its setup starts. -/
lemma Steps.unplaced (hs' : s.Steps i s') (hopen : s'.closing = false) (h : s'.Unplaced id) :
    s.Unplaced id ∨ i = .slotEvent (.TerminalFailure id) ∧ id ∈ s.displays ∨
      id ∉ s.setups ∧ ∃ selection, i = .command (.StartDisplaySetup selection (.ok id)) := by
  cases hs' with
  | @install selection id' =>
    by_cases hid : id = id'
    · subst hid
      grind
    · grind
  | _ => grind

lemma Steps.known (hs' : s.Steps i s') (hid : id ∈ s.setups) : id ∈ s'.setups := by
  cases hs' <;> grind

/-- The displays are handed over for removal only after the loop. -/
lemma Steps.serving (hs' : s.Steps i s') (hopen : s'.closing = false) :
    s.closing = false ∧ s'.shutdownRemovals = s.shutdownRemovals := by
  cases hs' <;> grind

lemma startManagedDisplaySetup_spec (h : s.Owned) (selection : DeviceSelection)
    (spawned : Except DisplaySetupStartError CastDisplayId) :
    (∀ id ∈ (s.startManagedDisplaySetup selection spawned).1.operations,
      id ∈ s.operations ∨ (s.startManagedDisplaySetup selection spawned).2 = .ok id) ∧
    ∀ id, (s.startManagedDisplaySetup selection spawned).2 = .ok id →
      id ∈ (s.startManagedDisplaySetup selection spawned).1.setups := by
  have hknown := @h.known
  unfold startManagedDisplaySetup
  grind

lemma Kept.forget {inputs : List Input} (h : Kept inputs s) (hconcluded : s.Concluded)
    (hserving : s.shutdownRemovals = ∅) (hunplaced : s.Unplaced id) (hjoined : id ∉ s.setupTasks) :
    id ∉ (s.forgetDisplaySetupOperation id).operations := by
  have hwaiters := h.accounted.removing id
  have howner := @h.owned.owner_iff id
  have hterminal := hconcluded.ended id
  unfold forgetDisplaySetupOperation
  cases hrecord : s.operations.lookup id <;> grind

end ManagerState

namespace PublicBus

variable {d d' : PublicBus} {id : CastDisplayId}

structure Retained (d : PublicBus) : Prop where
  kept : ∃ inputs, ManagerState.Kept inputs d.manager
  concluded : d.manager.Concluded
  known : ∀ id, id ∈ d.objects ∨ id ∈ d.registering → id ∈ d.manager.setups
  serving : d.manager.closing = false → d.manager.shutdownRemovals = ∅
  pending : d.manager.closing = false → ∀ id, d.manager.Unplaced id → d.Scheduled id

attribute [local grind] Scheduled ManagerState.Unplaced
attribute [local grind =] register forgotten

lemma scheduled_register (registered : Bool) {id' : CastDisplayId} (h : d.Scheduled id') :
    (d.register id registered).Scheduled id' := by
  by_cases hid : id' = id <;> grind

lemma scheduled_erase {w : OperationWatcher} (hid : id ≠ w.displayId) (h : d.Scheduled id)
    (hwatchers : d'.watchers = d.watchers.erase w) (hregistering : d'.registering = d.registering)
    (hobjects : id ∈ d'.objects → id ∈ d.objects) : d'.Scheduled id := by
  grind

namespace Retained

lemma initial : Retained {} where
  kept := ⟨[], .initial⟩
  concluded := .initial
  known := by simp
  serving _ := rfl
  pending _ _ h := nomatch h.1

lemma step {i : Input} (h : d.Retained) (hs' : d.manager.Steps i d'.manager)
    (hlost : ∀ id spawned task, i = .joinSetup id (.completed spawned) →
      d.manager.setupTasks.lookup id = some task → task.result ≠ some .lost)
    (hknown : ∀ id, id ∈ d'.objects ∨ id ∈ d'.registering →
      id ∈ d.manager.setups ∨ id ∈ d'.manager.setups)
    (hpending : d.manager.closing = false → d'.manager.closing = false →
      ∀ id, d'.manager.Unplaced id → d'.Scheduled id) : d'.Retained where
  kept := by
    obtain ⟨inputs, hkept⟩ := h.kept
    exact ⟨_, hkept.steps hs'⟩
  concluded := h.concluded.steps hs' hlost
  known id hid := (hknown id hid).elim hs'.known fun hid => hid
  serving hopen := by
    obtain ⟨hopen', hsame⟩ := hs'.serving hopen
    rw [hsame, h.serving hopen']
  pending hopen := hpending (hs'.serving hopen).1 hopen

lemma manager {i : Input} {m : ManagerState} (h : d.Retained) (hbus : i.fromBus = false)
    (htimely : d.timely (.manager i)) (hs' : d.manager.next i = some m) :
    Retained { d with manager := m } := by
  have hsteps := ManagerState.steps_of_next hs'
  refine h.step hsteps ?_ (fun id hid => .inl (h.known id hid)) fun hopen hopen' id hid => ?_
  · rintro id spawned task rfl htask
    simpa [timely, htask] using htimely
  · rcases hsteps.unplaced hopen' hid with hold | ⟨rfl, hdisplay⟩ | ⟨-, selection, rfl⟩
    · exact h.pending hopen id hold
    · simpa [timely, hdisplay, Scheduled] using htimely
    · simp [Input.fromBus] at hbus

lemma addDisplay {m : ManagerState} (h : d.Retained) (selection : DeviceSelection)
    (spawned : Except DisplaySetupStartError CastDisplayId)
    (hs' : d.manager.next (.command (.StartDisplaySetup selection spawned)) = some m) :
    Retained { d with
      manager := m
      registering := (d.manager.startManagedDisplaySetup selection spawned).2.toOption.toList ++
        d.registering } := by
  obtain ⟨inputs, hkept⟩ := h.kept
  obtain ⟨hrecorded, hanswered⟩ := ManagerState.startManagedDisplaySetup_spec hkept.owned selection
    spawned
  have hsteps := ManagerState.steps_of_next hs'
  have hm : m = (d.manager.startManagedDisplaySetup selection spawned).1.note
      (.startAnswered (d.manager.startManagedDisplaySetup selection spawned).2) := by
    simp only [ManagerState.next, ManagerState.handleCommand,
      Option.ite_none_left_eq_some] at hs'
    exact (Option.some.inj hs'.2.2).symm
  have hanswer (id : CastDisplayId) :
      id ∈ (d.manager.startManagedDisplaySetup selection spawned).2.toOption.toList ↔
        (d.manager.startManagedDisplaySetup selection spawned).2 = .ok id := by
    cases (d.manager.startManagedDisplaySetup selection spawned).2 <;>
      simp [Except.toOption, eq_comm]
  have hknown := h.known
  refine h.step hsteps (by simp) (fun id hid => ?_) fun hopen hopen' id hid => ?_
  · grind
  · rcases hsteps.unplaced hopen' hid with hold | ⟨hevent, -⟩ | ⟨hfresh, -⟩
    · have := h.pending hopen id hold
      grind
    · simp at hevent
    · -- A fresh identity has no object yet, so its call will add one.
      have hnew : id ∉ d.manager.operations := fun ho => hfresh (hkept.owned.known ho)
      grind

lemma register (h : d.Retained) (hid : id ∈ d.registering) (registered : Bool) :
    (d.register id registered).Retained := by
  have hquiet : d.manager.Quiet (d.register id registered).manager := by
    unfold PublicBus.register
    dsimp only
    split_ifs
    · exact .refl _
    · exact .refl _
    · exact ManagerState.quiet_cancelSetup _ _
  have hknown (id' : CastDisplayId) (hin : id' ∈ (d.register id registered).objects ∨
      id' ∈ (d.register id registered).registering) : id' ∈ d.manager.setups := by
    grind [h.known id']
  refine h.step (.quiet (i := .observe id) rfl hquiet) (by simp)
    (fun id' hin => .inl (hknown id' hin)) fun hopen _ id' hunplaced => ?_
  refine scheduled_register registered (h.pending hopen id' ?_)
  exact ⟨hquiet.operations ▸ hunplaced.1, hquiet.displays ▸ hunplaced.2.1,
    hquiet.removalTasks ▸ hunplaced.2.2⟩

lemma forget {w : OperationWatcher} {m : ManagerState} (h : d.Retained)
    (hjoined : w.displayId ∉ d.manager.setupTasks)
    (hs' : d.manager.next (.command (.ForgetDisplaySetupOperation w.displayId)) = some m) :
    (d.forgotten w m).Retained := by
  obtain ⟨inputs, hkept⟩ := h.kept
  have hsteps := ManagerState.steps_of_next hs'
  have hm : m = d.manager.forgetDisplaySetupOperation w.displayId := by
    simp only [ManagerState.next, ManagerState.handleCommand,
      Option.ite_none_left_eq_some] at hs'
    exact (Option.some.inj hs'.2).symm
  have hobjects (id : CastDisplayId) (hid : id ∈ (d.forgotten w m).objects) : id ∈ d.objects := by
    grind
  refine h.step hsteps (by simp)
    (fun id hid => .inl (h.known id (hid.imp_left (hobjects id)))) fun hopen hopen' id hid => ?_
  have hold : d.manager.Unplaced id := by
    rcases hsteps.unplaced hopen' hid with hold | ⟨hevent, -⟩ | ⟨-, selection, hcommand⟩
    · exact hold
    · simp at hevent
    · simp at hcommand
  by_cases hself : id = w.displayId
  · subst hself
    exact absurd (hm ▸ hid.1) (hkept.forget h.concluded (h.serving hopen) hold hjoined)
  · exact scheduled_erase hself (h.pending hopen id hold) rfl rfl (hobjects id)

lemma stopWatcher {w : OperationWatcher} (h : d.Retained) (htimely : d.timely (.stopWatcher w)) :
    Retained { d with watchers := d.watchers.erase w } := by
  refine ⟨h.kept, h.concluded, h.known, h.serving, fun hopen id hid => ?_⟩
  by_cases hself : id = w.displayId
  · simp only [timely, decide_eq_true_eq] at htimely
    grind
  · exact scheduled_erase hself (h.pending hopen id hid) rfl rfl fun ho => ho

lemma next {i : BusInput} (h : d.Retained) (htimely : d.timely i) (hs' : d.next i = some d') :
    d'.Retained := by
  cases i with
  | manager i =>
    simp only [PublicBus.next, Option.ite_none_left_eq_some, Bool.not_eq_true,
      Option.map_eq_some_iff] at hs'
    obtain ⟨hbus, m, hm, rfl⟩ := hs'
    exact h.manager hbus htimely hm
  | addDisplay selection spawned =>
    simp only [PublicBus.next] at hs'
    split at hs'
    · exact Option.some.inj hs' ▸ h
    · obtain ⟨m, hm, rfl⟩ := Option.map_eq_some_iff.1 hs'
      exact h.addDisplay selection spawned hm
  | register id registered =>
    obtain ⟨hid, he⟩ := Option.ite_none_right_eq_some.1 hs'
    exact Option.some.inj he ▸ h.register hid registered
  | forget w =>
    obtain ⟨-, he⟩ := Option.ite_none_right_eq_some.1 hs'
    obtain ⟨m, hm, rfl⟩ := Option.map_eq_some_iff.1 he
    exact h.forget (by simpa [timely] using htimely) hm
  | stopWatcher w =>
    obtain ⟨-, he⟩ := Option.ite_none_right_eq_some.1 hs'
    exact Option.some.inj he ▸ h.stopWatcher htimely

end Retained

lemma unplaced_of_removed {inputs : List Input} (h : ManagerState.Kept inputs d.manager)
    (hopen : d.manager.closing = false)
    (hremoved : .DisplayRemoved id ∈ d.manager.lifecycle id) (hrecord : id ∈ d.manager.operations) :
    d.manager.Unplaced id ∧ id ∉ d.manager.setupTasks := by
  have hordered := h.ordered id
  have hnot : ¬ Announced id (d.manager.lifecycle id) := by
    rintro ⟨n, hevents⟩
    simp [hevents] at hremoved
  refine ⟨⟨hrecord, fun hd => hnot (hordered.live hopen hd), fun hr => hnot (hordered.removing hr)⟩,
    fun ht => ?_⟩
  simp [hordered.unborn (.inr ht)] at hremoved

/-- Every record is of a setup that runs, a display, a removal or a setup that ended and
is to be forgotten. -/
lemma Retained.bounded (h : d.Retained) (hopen : d.manager.closing = false) :
    d.manager.operations.keys.length ≤ d.occupied := by
  have hplaces : d.manager.operations.keys ⊆ d.manager.setupTasks.keys ++
      d.manager.displays.keys ++ d.manager.removalTasks.keys ++ d.retained := by
    intro id hid
    have hpending := h.pending hopen id
    have hended := h.concluded.ended id
    simp only [List.mem_append, retained, List.mem_filter, List.mem_dedup, decide_eq_true_eq,
      ← AList.mem_keys] at hid ⊢
    grind
  have hlength := (List.subperm_of_subset d.manager.operations.keys_nodup hplaces).length_le
  simpa [occupied, Nat.add_assoc] using hlength

lemma start_ne_tooManyOperations {s : ManagerState} {selection : DeviceSelection}
    {spawned : Except DisplaySetupStartError CastDisplayId}
    (h : s.operations.keys.length < MAX_RETAINED_SETUP_OPERATIONS) :
    (s.startManagedDisplaySetup selection spawned).2 ≠ .error .TooManyOperations := by
  unfold ManagerState.startManagedDisplaySetup
  grind

end PublicBus

/-- In a run whose steps are all timely, removed displays take nothing from the quota of
setups as long as the manager serves. -/
theorem removed_displays_free_the_quota {d : PublicBus}
    (h : (publicBus.guard fun d i => d.timely i = true).Reach {} d)
    (hopen : d.manager.closing = false) : d.Frugal := by
  have hretained : d.Retained := h.invariant .initial fun _ _ _ hr hnext => by
    obtain ⟨htimely, hs'⟩ := Machine.guard_next.1 hnext
    exact hr.next htimely hs'
  obtain ⟨inputs, hkept⟩ := hretained.kept
  have hbounded := hretained.bounded hopen
  refine ⟨fun id hremoved hrecord => ?_, hbounded, fun hquota selection spawned => ?_⟩
  · obtain ⟨hunplaced, hjoined⟩ := PublicBus.unplaced_of_removed hkept hopen hremoved hrecord
    exact ⟨hretained.pending hopen id hunplaced,
      hkept.forget hretained.concluded (hretained.serving hopen) hunplaced hjoined⟩
  · exact PublicBus.start_ne_tooManyOperations (Nat.lt_of_le_of_lt hbounded hquota)

/-- A display is added and registered. -/
def addInputs (id : CastDisplayId) : List BusInput :=
  [.addDisplay sampleSelection (.ok id), .register id true, .manager (.settle id .added),
   .manager (.joinSetup id (.completed true))]

/-- The slot of a display fails within the retention period of its operation. -/
theorem removed_displays_free_the_quota_early_failure :
    ∃ d, (publicBus.guard fun d i => d.timely i = true).Reach {} d ∧
      .DisplayRemoved ⟨0⟩ ∈ d.manager.lifecycle ⟨0⟩ ∧ ⟨0⟩ ∈ d.manager.operations ∧
      d.Scheduled ⟨0⟩ ∧ d.Frugal := by
  obtain ⟨d, hd, hopen, hremoved, hrecord, hscheduled⟩ : ∃ d,
      (publicBus.guard fun d i => d.timely i = true).run {}
        (addInputs ⟨0⟩ ++ [.manager (.slotEvent (.TerminalFailure ⟨0⟩))]) = some d ∧
      d.manager.closing = false ∧ .DisplayRemoved ⟨0⟩ ∈ d.manager.lifecycle ⟨0⟩ ∧
      ⟨0⟩ ∈ d.manager.operations ∧ d.Scheduled ⟨0⟩ :=
    Machine.exists_run (by decide +kernel)
  exact ⟨d, ⟨_, hd⟩, hremoved, hrecord, hscheduled, removed_displays_free_the_quota ⟨_, hd⟩ hopen⟩

/-- The request to forget the operation comes while the display is there, and then the
slot of the display fails. -/
def leakInputs (id : CastDisplayId) : List BusInput :=
  addInputs id ++ [.forget ⟨id, .emitOperationStates⟩,
    .manager (.slotEvent (.TerminalFailure id))]

/-- Nothing in progress: what is left are setups, records, objects and the history. -/
def idle (setups : AList fun _ : CastDisplayId => DisplaySetup)
    (operations : AList fun _ : CastDisplayId => DeviceTarget) (objects : List CastDisplayId)
    (history : List Happening) : PublicBus :=
  { manager := { setups, operations, history }, objects }

lemma leak_round {setups : AList fun _ : CastDisplayId => DisplaySetup}
    {operations : AList fun _ : CastDisplayId => DeviceTarget} {objects : List CastDisplayId}
    (history : List Happening) {id : CastDisplayId} (hfresh : id ∉ setups)
    (hrecord : id ∉ operations) (hobject : id ∉ objects)
    (hquota : operations.keys.length < MAX_RETAINED_SETUP_OPERATIONS) :
    publicBus.run (idle setups operations objects history) (leakInputs id) =
      some (idle (setups.insert id ⟨.Added, false⟩)
        (operations.insert id (.ofSelection sampleSelection)) (id :: objects)
        (history ++ [.startAnswered (.ok id), .published (.DisplayAdded id),
          .forgetAnswered id false, .published (.DisplayRemoved id)])) := by
  have hvalid : sampleSelection.validate = .ok () := by decide +kernel
  simp [-AList.insert_empty, leakInputs, addInputs, Machine.run, publicBus, PublicBus.next,
    PublicBus.register, PublicBus.forgotten, idle, hvalid, Input.fromBus, ManagerState.next,
    ManagerState.handleCommand, ManagerState.startManagedDisplaySetup, ManagerState.installSetup,
    ManagerState.note, ManagerState.settle, ManagerState.handleSetupJoin, ManagerState.send,
    ManagerState.publish, ManagerState.isTerminal, ManagerState.forgetDisplaySetupOperation,
    ManagerState.handleSlotEvent, ManagerState.release, releaseTargetOwner, SetupResult.stage?,
    DisplaySetupStage.isTerminal, Except.toOption, Pairing.erase_insert_empty, hfresh, hrecord,
    hobject, Nat.not_le.2 hquota]

/-- Any number of records up to the quota can be left by displays that were removed. -/
lemma leaks (n : ℕ) (hn : n ≤ MAX_RETAINED_SETUP_OPERATIONS) :
    ∃ setups operations objects history,
      publicBus.Reach {} (idle setups operations objects history) ∧
      operations.keys.length = n ∧
      (∀ id, id ∈ setups ∨ id ∈ operations ∨ id ∈ objects → id.bits.toNat < n) ∧
      ∀ id ∈ operations, .published (.DisplayRemoved id) ∈ history := by
  induction n with
  | zero => exact ⟨∅, ∅, [], [], ⟨[], rfl⟩, rfl, by simp, by simp⟩
  | succ n ih =>
    obtain ⟨setups, operations, objects, history, hreach, hlength, hused, hremoved⟩ := ih (by omega)
    obtain ⟨new, hid⟩ : ∃ new : CastDisplayId, new.bits.toNat = n := by
      unfold MAX_RETAINED_SETUP_OPERATIONS at hn
      refine ⟨⟨BitVec.ofNat 128 n⟩, ?_⟩
      rw [BitVec.toNat_ofNat, Nat.mod_eq_of_lt (by omega)]
    have hnew : ¬ (new ∈ setups ∨ new ∈ operations ∨ new ∈ objects) := by
      intro hin
      have hlt := hused new hin
      omega
    obtain ⟨hfresh, hrecord, hobject⟩ := by simpa only [not_or] using hnew
    have hround := leak_round history hfresh hrecord hobject (by omega)
    refine ⟨_, _, _, _, hreach.run hround, ?_, fun id hin => ?_, fun id hin => ?_⟩
    · rw [AList.keys_insert, List.erase_of_not_mem hrecord, List.length_cons, hlength]
    · grind
    · grind

/-- When 128 displays have outlived their request and failed, nothing is left but their
records, and no further setup can start. -/
theorem failed_displays_exhaust_the_quota :
    ∃ d, publicBus.Reach {} d ∧ d.manager.closing = false ∧ d.occupied = 0 ∧
      d.watchers = [] ∧ d.registering = [] ∧ d.manager.operations.keys.length = 128 ∧
      (∀ id ∈ d.manager.operations, .DisplayRemoved id ∈ d.manager.lifecycle id) ∧
      (d.manager.startManagedDisplaySetup sampleSelection (.ok ⟨128⟩)).2 =
        .error .TooManyOperations ∧
      ¬ d.Frugal := by
  obtain ⟨setups, operations, objects, history, hreach, hlength, -, hremoved⟩ :=
    leaks 128 (by decide)
  have hoccupied : (idle setups operations objects history).occupied = 0 := rfl
  have hvalid : sampleSelection.validate = .ok () := by decide +kernel
  have hstart : ((idle setups operations objects history).manager.startManagedDisplaySetup
      sampleSelection (.ok ⟨128⟩)).2 = .error .TooManyOperations := by
    simp [ManagerState.startManagedDisplaySetup, idle, hvalid, hlength,
      MAX_RETAINED_SETUP_OPERATIONS]
  refine ⟨_, hreach, rfl, hoccupied, rfl, rfl, hlength, fun id hin => ?_, hstart,
    fun hfrugal => hfrugal.accepting (by rw [hoccupied]; decide) _ _ hstart⟩
  exact List.mem_filterMap.2 ⟨_, hremoved id hin, by simp [Happening.eventOf,
    LifecycleEvent.displayId]⟩

end Pronk.Manager
