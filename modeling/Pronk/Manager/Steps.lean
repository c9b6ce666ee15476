import Pronk.Library.Pairing
import Pronk.Manager.Lifecycle

/-!
# What one input does to the manager's tables

Every input either leaves the tables of displays, targets and removals alone or makes
one of eleven changes to them. The history of a quiet input gains entries that neither
publish nor answer a removal.
-/
namespace Pronk.Manager
open Dbus Transition Happening

/-- The removal that an input asks for, with the waiter for its answer. -/
def Input.request : Input → Option (CastDisplayId × ℕ)
  | .command (.RemoveDisplay displayId waiter) => some (displayId, waiter)
  | _ => none

/-- Neither an event nor the answer of a removal. -/
def Happening.isQuiet : Happening → Bool
  | .published _ => false
  | .removeAnswered _ _ _ => false
  | _ => true

/-- The client learned that the setup ended with an added display. -/
def Happening.showsAdded (displayId : CastDisplayId) : Happening → Prop
  | .observed id .Added => id = displayId
  | .cancelAnswered id (some .Added) false => id = displayId
  | _ => False

lemma Happening.shown_of_observed {id id' : CastDisplayId} {stage : DisplaySetupStage}
    (h : (observed id' stage).showsAdded id) : id' = id := by
  cases stage <;> simp_all [showsAdded]

lemma Happening.shown_of_cancelAnswered {id id' : CastDisplayId} {cancelled : Bool}
    {stage : Option DisplaySetupStage}
    (h : (cancelAnswered id' stage cancelled).showsAdded id) :
    id' = id ∧ stage.isSome := by
  rcases stage with _ | stage
  · cases h
  · cases stage <;> cases cancelled <;> simp_all [showsAdded]

namespace ManagerState

/-- The target of a setup whose task has not been joined. -/
def running (s : ManagerState) (displayId : CastDisplayId) : Option DeviceTarget :=
  (s.setupTasks.lookup displayId).map (·.target)

/-- A setup that returned has published its last stage, unless it was lost. -/
def Settled (s : ManagerState) : Prop :=
  ∀ id task result, s.setupTasks.lookup id = some task → task.result = some result →
    result ≠ .lost → s.isTerminal id

/-- The tables of `s'` are those of `s`; setups may be added and may get on, and the
loop may end. -/
structure Quiet (s s' : ManagerState) : Prop where
  known : ∀ id ∈ s.setups, id ∈ s'.setups
  ended : ∀ id ∉ s.setupTasks, s.isTerminal id → s'.isTerminal id
  settled : s.Settled → s'.Settled
  running : ∀ id, s'.running id = s.running id
  operations : s'.operations = s.operations
  targetOwners : s'.targetOwners = s.targetOwners
  displays : s'.displays = s.displays
  removalTasks : s'.removalTasks = s.removalTasks
  removalWaiters : s'.removalWaiters = s.removalWaiters
  shutdownRemovals : s'.shutdownRemovals = s.shutdownRemovals
  closing : s.closing → s'.closing
  history : ∃ l, s'.history = s.history ++ l ∧
    ∀ e ∈ l, e.isQuiet ∧ ∀ id, e.showsAdded id → id ∈ s'.setups

/-- What an input can do, with what the manager checked before it. -/
inductive Steps (s : ManagerState) : Input → ManagerState → Prop
  | quiet {i : Input} {s' : ManagerState} (hrequest : i.request = none) (h : s.Quiet s') :
      Steps s i s'
  | install {selection : DeviceSelection} {id : CastDisplayId}
      (howner : s.targetOwners.lookup (.ofSelection selection) = none) (hfresh : id ∉ s.setups) :
      Steps s (.command (.StartDisplaySetup selection (.ok id)))
        ((s.installSetup (.ofSelection selection) id).note (.startAnswered (.ok id)))
  | forget {id : CastDisplayId} {target : DeviceTarget}
      (hrecord : s.operations.lookup id = some target)
      (howner : s.targetOwners.lookup target ≠ some id) :
      Steps s (.command (.ForgetDisplaySetupOperation id))
        ({ s with operations := s.operations.erase id }.note (.forgetAnswered id true))
  | await {id : CastDisplayId} {waiter : ℕ} {waiters : List ℕ}
      (hwaiters : s.removalWaiters.lookup id = some waiters) :
      Steps s (.command (.RemoveDisplay id waiter))
        { s with removalWaiters := s.removalWaiters.insert id (waiters ++ [waiter]) }
  | remove {id : CastDisplayId} {waiter : ℕ} {target : DeviceTarget} (hopen : s.closing = false)
      (hwaiters : s.removalWaiters.lookup id = none)
      (hdisplay : s.displays.lookup id = some target) :
      Steps s (.command (.RemoveDisplay id waiter))
        { s with
          displays := s.displays.erase id
          removalWaiters := s.removalWaiters.insert id [waiter]
          removalTasks := s.removalTasks.insert id target }
  | absent {id : CastDisplayId} {waiter : ℕ} (hwaiters : s.removalWaiters.lookup id = none)
      (hdisplay : s.displays.lookup id = none) :
      Steps s (.command (.RemoveDisplay id waiter)) (s.note (.removeAnswered waiter id (.ok ())))
  | added {id : CastDisplayId} {task : SetupTask} (htask : s.setupTasks.lookup id = some task)
      (hresult : task.result = some .added) :
      Steps s (.joinSetup id (.completed true))
        ({ s with
          setupTasks := s.setupTasks.erase id
          displays := s.displays.insert id task.target }.send (.DisplayAdded id))
  | ended {id : CastDisplayId} {task : SetupTask} {target : DeviceTarget} {result : SetupResult}
      {spawned : Bool} (htask : s.setupTasks.lookup id = some task)
      (hresult : task.result = some result) (hrecord : s.operations.lookup id = some target)
      (hended : ¬ (result = .added ∧ spawned = true)) :
      Steps s (.joinSetup id (.completed spawned))
        ({ s with setupTasks := s.setupTasks.erase id }.release target id)
  | aborted {id : CastDisplayId} {task : SetupTask} {target : DeviceTarget}
      (htask : s.setupTasks.lookup id = some task)
      (hrecord : s.operations.lookup id = some target) :
      Steps s (.joinSetup id .aborted)
        ({ s with
          setupTasks := s.setupTasks.erase id
          operations := s.operations.erase id }.release target id)
  | unrecorded {id : CastDisplayId} {task : SetupTask} {join : SetupJoin}
      (htask : s.setupTasks.lookup id = some task) (hrecord : s.operations.lookup id = none) :
      Steps s (.joinSetup id join) { s with setupTasks := s.setupTasks.erase id }
  | removed {id : CastDisplayId} {target : DeviceTarget} {result : Except String Unit}
      (htask : s.removalTasks.lookup id = some target) :
      Steps s (.joinRemoval id result) (s.handleRemovalJoin id target result)
  | changed {id : CastDisplayId} (hopen : s.closing = false) (hdisplay : id ∈ s.displays) :
      Steps s (.slotEvent (.StateChanged id)) (s.publish (.DisplayStateChanged id))
  | failed {id : CastDisplayId} {target : DeviceTarget} (hopen : s.closing = false)
      (hdisplay : s.displays.lookup id = some target) :
      Steps s (.slotEvent (.TerminalFailure id))
        (({ s with displays := s.displays.erase id }.release target id).publish
          (.DisplayRemoved id))
  | finish (hclosing : s.closing) (htasks : s.setupTasks.keys = [])
      (hremovals : s.removalTasks.keys = []) (hshutdown : s.shutdownRemovals.keys = []) :
      Steps s .finish { s with displays := ∅, shutdownRemovals := s.displays }

lemma send_eq (s : ManagerState) (event : LifecycleEvent) : s.send event =
    { s with history := if s.closing then s.history else s.history ++ [.published event] } := by
  unfold send
  split_ifs <;> rfl

attribute [grind cases eager] Quiet
attribute [grind =] send_eq running note publish release installSetup handleRemovalJoin
  releaseTargetOwner settle
attribute [grind] Settled isTerminal

section Quiet

variable {s s' s'' : ManagerState} {id : CastDisplayId}

@[grind =] lemma mem_setupTasks_iff : id ∈ s.setupTasks ↔ (s.running id).isSome := by
  simp [running, AList.lookup_isSome]

namespace Quiet

lemma refl (s : ManagerState) : s.Quiet s := by
  constructor
  case history => exact ⟨[], by simp, nofun⟩
  all_goals grind -linarith

/-- A quiet step may be noted with an entry that is no event and no removal's answer. -/
lemma note (h : s.Quiet s') {e : Happening} (he : e.isQuiet)
    (hshown : ∀ id, e.showsAdded id → id ∈ s'.setups) : s.Quiet (s'.note e) := by
  obtain ⟨l, hhistory, hl⟩ := h.history
  refine { h with history := ⟨l ++ [e], by simp [ManagerState.note, hhistory], ?_⟩ }
  grind -linarith

lemma trans (h : s.Quiet s') (h' : s'.Quiet s'') : s.Quiet s'' := by
  obtain ⟨l, hl, hquiet⟩ := h.history
  obtain ⟨l', hl', hquiet'⟩ := h'.history
  have hhistory : s''.history = s.history ++ (l ++ l') := by simp [hl', hl]
  constructor <;> grind -linarith

end Quiet

lemma quiet_writeSetup {setup : DisplaySetup}
    (hstage : id ∉ s.setupTasks → s.isTerminal id → setup.stage.isTerminal)
    (hresult : ∀ task result, s.setupTasks.lookup id = some task → task.result = some result →
      result ≠ .lost → s.isTerminal id → setup.stage.isTerminal) :
    s.Quiet { s with setups := s.setups.insert id setup } := by
  constructor
  case history => exact ⟨[], by simp, nofun⟩
  all_goals grind -linarith

lemma quiet_cancelSetup (s : ManagerState) (id : CastDisplayId) : s.Quiet (s.cancelSetup id) := by
  unfold cancelSetup
  split
  · apply quiet_writeSetup <;> grind -linarith
  · exact .refl s

lemma quiet_shutdown (s : ManagerState) : s.Quiet s.shutdown := by
  have hfold (ids : List CastDisplayId) (s : ManagerState) :
      s.Quiet (ids.foldl cancelSetup s) := by
    induction ids generalizing s with
    | nil => exact .refl s
    | cons id rest ih => exact (quiet_cancelSetup s id).trans (ih _)
  have hcancelled := hfold (s.operations.keys.filter (!s.isTerminal ·)) s
  exact { hcancelled with closing := fun _ => rfl }

lemma quiet_settle {target : DeviceTarget} {setup : DisplaySetup}
    (htask : s.setupTasks.lookup id = some ⟨target, none⟩) (result : SetupResult) :
    s.Quiet (s.settle id ⟨target, none⟩ setup result) := by
  have hterminal (h : result ≠ .lost) : (result.stage?.getD setup.stage).isTerminal := by
    cases result <;> simp_all [SetupResult.stage?, DisplaySetupStage.isTerminal]
  constructor
  case history => exact ⟨[], by simp [settle], nofun⟩
  all_goals grind -linarith

end Quiet

section Inversion

variable {s s' : ManagerState}

lemma steps_startDisplaySetup (selection : DeviceSelection)
    {spawned : Except DisplaySetupStartError CastDisplayId}
    (hfresh : spawned.toOption.any (· ∈ s.setups) = false) :
    s.Steps (.command (.StartDisplaySetup selection spawned))
      ((s.startManagedDisplaySetup selection spawned).1.note
        (.startAnswered (s.startManagedDisplaySetup selection spawned).2)) := by
  have hsame (result : Except StartDisplaySetupError CastDisplayId) :
      s.Steps (.command (.StartDisplaySetup selection spawned))
        (s.note (.startAnswered result)) :=
    .quiet rfl ((Quiet.refl s).note rfl nofun)
  unfold startManagedDisplaySetup
  dsimp only
  split
  · exact hsame _
  · split
    · split_ifs <;> exact hsame _
    case h_2 howner =>
      split_ifs
      · exact hsame _
      · cases spawned with
        | error e => exact hsame _
        | ok id =>
          have hid : id ∉ s.setups := by simpa [Except.toOption] using hfresh
          dsimp only
          split_ifs
          · refine .quiet rfl ((quiet_writeSetup ?_ ?_).note rfl nofun)
            all_goals simp [isTerminal, AList.lookup_eq_none.2 hid]
          · exact .install howner hid

lemma steps_cancelDisplaySetup (id : CastDisplayId) :
    s.Steps (.command (.CancelDisplaySetup id)) (s.cancelDisplaySetup id) := by
  unfold cancelDisplaySetup
  dsimp only
  generalize hstage : (if id ∈ s.operations then (s.setups.lookup id).map (·.stage)
    else none) = stage
  have hnote {t : ManagerState} (hquiet : s.Quiet t) (cancelled : Bool) :
      s.Steps (.command (.CancelDisplaySetup id))
        (t.note (.cancelAnswered id stage cancelled)) := by
    refine .quiet rfl (hquiet.note rfl fun id' hshown => ?_)
    grind -linarith [shown_of_cancelAnswered hshown]
  split_ifs
  · exact hnote (quiet_cancelSetup s id) true
  · exact hnote (.refl s) false

lemma steps_forgetDisplaySetupOperation (id : CastDisplayId) :
    s.Steps (.command (.ForgetDisplaySetupOperation id)) (s.forgetDisplaySetupOperation id) := by
  unfold forgetDisplaySetupOperation
  dsimp only
  split_ifs with hforgettable
  · obtain ⟨target, hrecord, hchecks⟩ := (Option.any_eq_true _ _).1 hforgettable
    simp only [Bool.and_eq_true, decide_eq_true_eq] at hchecks
    exact .forget hrecord hchecks.1.1.2
  · exact .quiet rfl ((Quiet.refl s).note rfl nofun)

lemma steps_removeDisplay (hopen : s.closing = false) (id : CastDisplayId) (waiter : ℕ) :
    s.Steps (.command (.RemoveDisplay id waiter)) (s.removeDisplay id waiter) := by
  unfold removeDisplay
  split
  · next hwaiters => exact .await hwaiters
  · next hwaiters =>
    split
    · next hdisplay => exact .remove hopen hwaiters hdisplay
    · next hdisplay => exact .absent hwaiters hdisplay

lemma steps_joinSetup {id : CastDisplayId} {join : SetupJoin}
    (hs' : s.next (.joinSetup id join) = some s') : s.Steps (.joinSetup id join) s' := by
  cases htask : s.setupTasks.lookup id with
  | none => simp [next, htask] at hs'
  | some task =>
    cases join with
    | completed spawned =>
      simp only [next, htask, Option.map_eq_some_iff] at hs'
      obtain ⟨result, hresult, rfl⟩ := hs'
      unfold handleSetupJoin
      dsimp only
      split
      · next hrecord => exact .unrecorded htask hrecord
      · next target hrecord =>
        split_ifs with hadded
        · obtain ⟨rfl, rfl⟩ := hadded
          exact .added htask hresult
        · exact .ended htask hresult hrecord hadded
    | aborted =>
      simp only [next, htask, Option.some.injEq] at hs'
      obtain rfl := hs'
      unfold handleSetupAbort
      dsimp only
      split
      · next hrecord => exact .unrecorded htask hrecord
      · next hrecord => exact .aborted htask hrecord

lemma steps_handleSlotEvent (hopen : s.closing = false) (event : CastDisplaySlotEvent) :
    s.Steps (.slotEvent event) (s.handleSlotEvent event) := by
  cases event with
  | StateChanged id =>
    rw [handleSlotEvent]
    split_ifs with hdisplay
    · exact .changed hopen hdisplay
    · exact .quiet rfl (.refl s)
  | TerminalFailure id =>
    rw [handleSlotEvent]
    split
    · exact .quiet rfl (.refl s)
    · next hdisplay => exact .failed hopen hdisplay

lemma steps_handleCommand (hopen : s.closing = false) {command : ManagerCommand}
    (hs' : s.handleCommand command = some s') : s.Steps (.command command) s' := by
  cases command with
  | StartDisplaySetup selection spawned =>
    simp only [handleCommand, Option.ite_none_left_eq_some, Bool.not_eq_true] at hs'
    exact Option.some.inj hs'.2 ▸ steps_startDisplaySetup selection hs'.1
  | CancelDisplaySetup id => exact Option.some.inj hs' ▸ steps_cancelDisplaySetup id
  | ForgetDisplaySetupOperation id =>
    exact Option.some.inj hs' ▸ steps_forgetDisplaySetupOperation id
  | RemoveDisplay id waiter => exact Option.some.inj hs' ▸ steps_removeDisplay hopen id waiter
  | Shutdown => exact Option.some.inj hs' ▸ .quiet rfl (quiet_shutdown s)

lemma steps_of_next {i : Input} (hs' : s.next i = some s') : s.Steps i s' := by
  cases i with
  | command command =>
    simp only [next, Option.ite_none_left_eq_some, Bool.not_eq_true] at hs'
    exact steps_handleCommand hs'.1 hs'.2
  | joinSetup id join => exact steps_joinSetup hs'
  | joinRemoval id result =>
    simp only [next, Option.ite_none_left_eq_some, Option.map_eq_some_iff] at hs'
    obtain ⟨-, target, htask, rfl⟩ := hs'
    exact .removed htask
  | slotEvent event =>
    simp only [next, Option.ite_none_left_eq_some, Bool.not_eq_true, Option.some.injEq] at hs'
    exact hs'.2 ▸ steps_handleSlotEvent hs'.1 event
  | finish =>
    simp only [next, Option.ite_none_right_eq_some, Option.some.injEq] at hs'
    obtain ⟨⟨hclosing, htasks, hremovals, hshutdown⟩, rfl⟩ := hs'
    exact .finish hclosing htasks hremovals hshutdown
  | advance id stage =>
    simp only [next] at hs'
    split at hs'
    · next target setup htask _ =>
      split_ifs at hs'
      obtain rfl := Option.some.inj hs'
      refine .quiet rfl (quiet_writeSetup (fun hjoined => ?_) fun task result htask' hr => ?_)
      · exact absurd (AList.lookup_isSome.1 (by simp [htask])) hjoined
      · obtain rfl : ⟨target, none⟩ = task := Option.some.inj (htask.symm.trans htask')
        simp at hr
    · simp at hs'
  | settle id result =>
    simp only [next] at hs'
    split at hs'
    · next htask _ => exact Option.some.inj hs' ▸ .quiet rfl (quiet_settle htask result)
    · simp at hs'
  | observe id =>
    simp only [next, Option.map_eq_some_iff] at hs'
    obtain ⟨setup, hsetup, rfl⟩ := hs'
    refine .quiet rfl ((Quiet.refl s).note rfl fun id' hshown => ?_)
    grind -linarith [shown_of_observed hshown]

end Inversion

end ManagerState

/-- The device that the sample runs select. -/
def sampleSelection : DeviceSelection := ⟨"chromecast", "living-room", 1, 1, 1⟩

end Pronk.Manager
