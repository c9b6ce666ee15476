import Pronk.Manager.Steps

/-!
# A removal that was acknowledged

A display enters the table only when the task of its setup is joined, and a joined
task never comes back. An acknowledged removal is therefore final if the setup had
been joined when the command was handled. A setup publishes its last stage before
it is joined, so a client can see it added and have its removal acknowledged while
the display is still to be installed.
-/
namespace Pronk.Manager
open Dbus Transition List Happening ManagerState

def Happening.acknowledges (displayId : CastDisplayId) : Happening → Prop
  | .removeAnswered _ id (.ok ()) => id = displayId
  | _ => False

/-- A client saw the display added and later had its removal acknowledged. -/
def Gone (history : List Happening) (displayId : CastDisplayId) : Prop :=
  ∃ shown answer : Happening, shown.showsAdded displayId ∧ answer.acknowledges displayId ∧
    [shown, answer] <+ history

/-- The display is not in the table, and it was not announced after it had gone. -/
def StaysRemoved (s : ManagerState) : Prop :=
  ∀ displayId, (Gone s.history displayId → displayId ∉ s.displays) ∧
    ∀ shown answer : Happening, shown.showsAdded displayId → answer.acknowledges displayId →
      ¬ [shown, answer, .published (.DisplayAdded displayId)] <+ s.history

/-- A removal is handled only when the setup of the display has been joined. -/
def JoinedFirst (s : ManagerState) : Input → Prop
  | .command (.RemoveDisplay displayId _) => displayId ∉ s.setupTasks
  | _ => True

instance (s : ManagerState) (i : Input) : Decidable (JoinedFirst s i) := by
  unfold JoinedFirst
  split <;> infer_instance

/-- A spawned display whose setup was joined and that is not in the table: nothing
installs it any more. -/
def ManagerState.Dead (s : ManagerState) (displayId : CastDisplayId) : Prop :=
  displayId ∈ s.setups ∧ displayId ∉ s.setupTasks ∧ displayId ∉ s.displays

/-- A history that agrees with the identities in use and the dead ones. -/
structure Told (used dead : CastDisplayId → Prop) (history : List Happening) : Prop where
  shown : ∀ h ∈ history, ∀ displayId, h.showsAdded displayId → used displayId
  gone : ∀ displayId, Gone history displayId → dead displayId
  never : ∀ displayId (shown answer : Happening), shown.showsAdded displayId →
    answer.acknowledges displayId →
      ¬ [shown, answer, .published (.DisplayAdded displayId)] <+ history

/-- The last entry of a sublist is the appended one, or the sublist was there before. -/
lemma sublist_concat {α : Type} {l r : List α} {a x : α} (h : l ++ [a] <+ r ++ [x]) :
    l ++ [a] <+ r ∨ a = x ∧ l <+ r := by
  have hrev : a :: l.reverse <+ x :: r.reverse := by simpa using h.reverse
  cases hrev with
  | cons _ htail => exact .inl (by simpa using htail.reverse)
  | cons_cons _ htail => exact .inr ⟨rfl, by simpa using htail.reverse⟩

namespace Told

variable {used dead used' dead' : CastDisplayId → Prop} {history : List Happening}

lemma empty : Told used dead [] where
  shown := by simp
  gone := by
    rintro _ ⟨_, _, -, -, h⟩
    cases h
  never := by
    rintro _ _ _ - - h
    cases h

lemma mono (h : Told used dead history) (hu : ∀ id, used id → used' id)
    (hd : ∀ id, dead id → dead' id) : Told used' dead' history :=
  ⟨fun e he id hs => hu id (h.shown e he id hs), fun id hg => hd id (h.gone id hg), h.never⟩

lemma note (h : Told used dead history) {e : Happening}
    (hshown : ∀ id, e.showsAdded id → used id)
    (hanswer : ∀ id, e.acknowledges id → used id → dead id)
    (hadded : ∀ id, e = .published (.DisplayAdded id) → ¬ dead id) :
    Told used dead (history ++ [e]) where
  shown := by
    intro e' he' id hs
    rcases List.mem_append.1 he' with hold | hnew
    · exact h.shown e' hold id hs
    · exact hshown id (List.mem_singleton.1 hnew ▸ hs)
  gone := by
    rintro id ⟨shown, answer, hs, ha, hsub⟩
    rcases sublist_concat (l := [shown]) hsub with hold | ⟨rfl, hold⟩
    · exact h.gone id ⟨shown, answer, hs, ha, hold⟩
    · exact hanswer id ha (h.shown shown (List.singleton_sublist.1 hold) id hs)
  never := by
    intro id shown answer hs ha hsub
    rcases sublist_concat (l := [shown, answer]) hsub with hold | ⟨he, hold⟩
    · exact h.never id shown answer hs ha hold
    · exact hadded id he.symm (h.gone id ⟨shown, answer, hs, ha, hold⟩)

lemma append (h : Told used dead history) {l : List Happening}
    (hshown : ∀ e ∈ l, ∀ id, e.showsAdded id → used id)
    (hanswer : ∀ e ∈ l, ∀ id, e.acknowledges id → used id → dead id)
    (hadded : ∀ e ∈ l, ∀ id, e = .published (.DisplayAdded id) → ¬ dead id) :
    Told used dead (history ++ l) := by
  induction l generalizing history with
  | nil => simpa using h
  | cons e rest ih =>
    have hnoted : Told used dead (history ++ [e]) := by
      apply h.note <;> grind
    simpa using ih hnoted (by grind) (by grind) (by grind)

end Told

/-- Setups keep their record, a display is joined, a removal is under way only for a display
that is dead, and the history announces no dead one. -/
structure Buried (s : ManagerState) : Prop where
  tasks : ∀ id ∈ s.setupTasks, id ∈ s.setups
  displays : ∀ id ∈ s.displays, id ∈ s.setups ∧ id ∉ s.setupTasks
  removing : ∀ id ∈ s.removalWaiters, s.Dead id
  told : Told (· ∈ s.setups) s.Dead s.history

namespace Buried

variable {s s' : ManagerState} {id : CastDisplayId}

attribute [local grind] Dead JoinedFirst

lemma quiet_entry {e : Happening} (he : e.isQuiet) (id : CastDisplayId) :
    ¬ e.acknowledges id ∧ e ≠ .published (.DisplayAdded id) := by
  cases e <;> simp_all [isQuiet, acknowledges]

lemma acknowledges_removeAnswered {id id' : CastDisplayId} {waiter : ℕ}
    {result : Except RemoveManagedDisplayError Unit}
    (h : (removeAnswered waiter id' result).acknowledges id) : id' = id := by
  cases result with
  | ok => exact h
  | error => cases h

lemma entries {i : Input} (hs' : s.Steps i s') : ∃ l, s'.history = s.history ++ l ∧
    ∀ e ∈ l, ∀ id, (e.showsAdded id → id ∈ s'.setups) ∧
      (e.acknowledges id → id ∈ s.removalWaiters ∨
        (JoinedFirst s i → id ∈ s'.setups → s'.Dead id)) ∧
      (e = .published (.DisplayAdded id) → id ∈ s'.displays) := by
  cases hs' with
  | quiet _ hquiet =>
    obtain ⟨l, hl, hquiet'⟩ := hquiet.history
    exact ⟨l, hl, by grind [quiet_entry]⟩
  | install | forget | changed | failed =>
    exact ⟨_, rfl, by simp [showsAdded, acknowledges]⟩
  | absent => exact ⟨_, rfl, by grind [showsAdded, acknowledges_removeAnswered]⟩
  | added =>
    rw [send_eq]
    split_ifs
    · exact ⟨[], (List.append_nil _).symm, by simp⟩
    · exact ⟨_, rfl, by grind [showsAdded, acknowledges]⟩
  | @removed id =>
    have hwaiting (waiter : ℕ) (hw : waiter ∈ (s.removalWaiters.lookup id).getD []) :
        id ∈ s.removalWaiters := by
      cases hlookup : s.removalWaiters.lookup id <;> grind
    rw [handleRemovalJoin, send_eq]
    split_ifs
    · exact ⟨_, rfl, by grind [showsAdded, acknowledges_removeAnswered]⟩
    · refine ⟨_, List.append_assoc .., ?_⟩
      grind [showsAdded, acknowledges_removeAnswered, acknowledges]
  | _ => exact ⟨[], (List.append_nil _).symm, by simp⟩

lemma steps (h : Buried s) {i : Input} (hjoined : JoinedFirst s i) (hs' : s.Steps i s') :
    Buried s' := by
  obtain ⟨l, hl, hentries⟩ := entries hs'
  obtain ⟨htasks, hdisplays, hremoving, htold⟩ := h
  have hdead (id : CastDisplayId) (hd : s.Dead id) : s'.Dead id := by
    cases hs' <;> grind
  have hsetups (id : CastDisplayId) (hid : id ∈ s.setups) : id ∈ s'.setups := by
    cases hs' <;> grind
  refine ⟨?_, ?_, ?_, ?_⟩
  · cases hs' <;> grind
  · cases hs' <;> grind
  · cases hs' <;> grind
  · rw [hl]
    apply (htold.mono hsetups hdead).append <;> grind

end Buried

lemma buried_initial : Buried {} where
  tasks := by simp
  displays := by simp
  removing := by simp
  told := .empty

/-- In a run that handles every removal after the setup of its display was joined,
an acknowledged removal of an added display is final. -/
theorem acknowledged_removal_is_final {s : ManagerState}
    (h : (manager.guard JoinedFirst).Reach {} s) : StaysRemoved s := by
  have hburied : Buried s := h.invariant buried_initial fun s i s' hi hs' => by
    obtain ⟨hjoined, hnext⟩ := Machine.guard_next.1 hs'
    exact hi.steps hjoined (steps_of_next hnext)
  intro id
  exact ⟨fun hgone => (hburied.told.gone id hgone).2.2, hburied.told.never id⟩

def sampleId : CastDisplayId := ⟨7⟩

/-- The setup of one display ends, and a client sees it added. -/
def addedInputs : List Input :=
  [.command (.StartDisplaySetup sampleSelection (.ok sampleId)), .settle sampleId .added,
   .observe sampleId]

/-- The removal is handled after the join. -/
def joinedInputs : List Input :=
  addedInputs ++ [.joinSetup sampleId (.completed true), .command (.RemoveDisplay sampleId 0),
    .joinRemoval sampleId (.ok ())]

theorem acknowledged_removal_is_final_joined :
    ∃ s, (manager.guard JoinedFirst).Reach {} s ∧ Gone s.history sampleId ∧ StaysRemoved s := by
  obtain ⟨s, hs, hhistory⟩ : ∃ s, (manager.guard JoinedFirst).run {} joinedInputs = some s ∧
      [.observed sampleId .Added, .removeAnswered 0 sampleId (.ok ())] <+ s.history :=
    Machine.exists_run (by decide +kernel)
  refine ⟨s, ⟨_, hs⟩, ?_, acknowledged_removal_is_final ⟨_, hs⟩⟩
  exact ⟨.observed sampleId .Added, .removeAnswered 0 sampleId (.ok ()), rfl, rfl, hhistory⟩

/-- The removal is handled before the join. -/
def racingInputs : List Input :=
  addedInputs ++ [.command (.RemoveDisplay sampleId 0), .joinSetup sampleId (.completed true)]

/-- The client sees the display added, its removal is acknowledged, and then the
display is installed and announced. -/
theorem acknowledged_removal_undone :
    ∃ s, manager.Reach {} s ∧ ¬ StaysRemoved s ∧ sampleId ∈ s.displays ∧
      s.history = [.startAnswered (.ok sampleId), .observed sampleId .Added,
        .removeAnswered 0 sampleId (.ok ()), .published (.DisplayAdded sampleId)] := by
  obtain ⟨s, hs, hdisplay, hhistory⟩ : ∃ s, manager.run {} racingInputs = some s ∧
      sampleId ∈ s.displays ∧ s.history = [.startAnswered (.ok sampleId),
        .observed sampleId .Added, .removeAnswered 0 sampleId (.ok ()),
        .published (.DisplayAdded sampleId)] :=
    Machine.exists_run (by decide +kernel)
  refine ⟨s, ⟨racingInputs, hs⟩, fun hstays => ?_, hdisplay, hhistory⟩
  refine (hstays sampleId).2 (.observed sampleId .Added) (.removeAnswered 0 sampleId (.ok ()))
    rfl rfl ?_
  rw [hhistory]
  decide

end Pronk.Manager
