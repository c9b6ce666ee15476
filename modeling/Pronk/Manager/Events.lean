import Pronk.Manager.Ownership

/-!
# Lifecycle events and answered removals

A display is announced when its setup is joined, changes while it is in the table and is
removed once. The waiters of a removal are kept as long as the removal is in progress,
and every command has by then either one answer or one waiter.
-/
namespace Pronk.Manager
open Dbus Transition Happening Input ManagerState List

def LifecycleEvent.displayId : LifecycleEvent → CastDisplayId
  | .DisplayAdded displayId => displayId
  | .DisplayStateChanged displayId => displayId
  | .DisplayRemoved displayId => displayId

/-- The event of one display that an entry publishes. -/
def Happening.eventOf (id : CastDisplayId) : Happening → Option LifecycleEvent
  | .published event => if event.displayId = id then some event else none
  | _ => none

def Happening.answers (id : CastDisplayId) (waiter : ℕ) : Happening → Bool
  | .removeAnswered waiter' id' _ => decide (waiter' = waiter ∧ id' = id)
  | _ => false

/-- Added, and then any number of changes. -/
def Announced (id : CastDisplayId) (events : List LifecycleEvent) : Prop :=
  ∃ n, events = .DisplayAdded id :: replicate n (.DisplayStateChanged id)

/-- Nothing, or added and any number of changes, with at most one removal at the end. -/
def InOrder (id : CastDisplayId) (events : List LifecycleEvent) : Prop :=
  events = [] ∨ Announced id events ∨
    ∃ announced, Announced id announced ∧ events = announced ++ [.DisplayRemoved id]

lemma Announced.start (id : CastDisplayId) : Announced id [.DisplayAdded id] := ⟨0, rfl⟩

lemma Announced.change {id : CastDisplayId} {events : List LifecycleEvent}
    (h : Announced id events) : Announced id (events ++ [.DisplayStateChanged id]) := by
  obtain ⟨n, rfl⟩ := h
  exact ⟨n + 1, by simp [replicate_succ']⟩

namespace ManagerState

/-- The events of one display, in the order they were published. -/
def lifecycle (s : ManagerState) (id : CastDisplayId) : List LifecycleEvent :=
  s.history.filterMap (eventOf id)

/-- How often a waiter was answered for the removal of a display. -/
def answered (s : ManagerState) (id : CastDisplayId) (waiter : ℕ) : ℕ :=
  s.history.countP (answers id waiter)

/-- How often a waiter waits for the removal of a display. -/
def waiting (s : ManagerState) (id : CastDisplayId) (waiter : ℕ) : ℕ :=
  ((s.removalWaiters.lookup id).getD []).count waiter

/-- The events of a display agree with the place it is in. -/
structure Placed (s : ManagerState) (id : CastDisplayId) (events : List LifecycleEvent) : Prop where
  inOrder : InOrder id events
  unborn : id ∉ s.setups ∨ id ∈ s.setupTasks → events = []
  live : s.closing = false → id ∈ s.displays → Announced id events
  removing : id ∈ s.removalTasks → Announced id events

abbrev Ordered (s : ManagerState) (id : CastDisplayId) : Prop := s.Placed id (s.lifecycle id)

/-- Every command of the inputs has an answer or a waiter, and waiters belong to the
removals in progress. -/
structure Accounted (inputs : List Input) (s : ManagerState) : Prop where
  once : ∀ id waiter, inputs.count (.command (.RemoveDisplay id waiter)) =
    s.answered id waiter + s.waiting id waiter
  removing : ∀ id, id ∈ s.removalWaiters ↔ id ∈ s.removalTasks

variable {s s' : ManagerState} {id : CastDisplayId}

section Histories

lemma lifecycle_note (e : Happening) (id : CastDisplayId) :
    (s.note e).lifecycle id = s.lifecycle id ++ (e.eventOf id).toList := by
  cases he : e.eventOf id <;> simp [lifecycle, note, he]

lemma lifecycle_send (event : LifecycleEvent) (id : CastDisplayId) :
    (s.send event).lifecycle id = if s.closing = false ∧ event.displayId = id then
      s.lifecycle id ++ [event] else s.lifecycle id := by
  simp only [lifecycle, send_eq]
  split_ifs <;> simp_all [eventOf]

lemma Quiet.lifecycle_eq (h : s.Quiet s') (id : CastDisplayId) :
    s'.lifecycle id = s.lifecycle id := by
  obtain ⟨l, hl, hquiet⟩ := h.history
  have hnone : l.filterMap (eventOf id) = [] := by
    refine filterMap_eq_nil_iff.2 fun e he => ?_
    have := (hquiet e he).1
    cases e <;> simp_all [isQuiet, eventOf]
  simp [lifecycle, hl, hnone]

lemma Quiet.answered_eq (h : s.Quiet s') (id : CastDisplayId) (waiter : ℕ) :
    s'.answered id waiter = s.answered id waiter := by
  obtain ⟨l, hl, hquiet⟩ := h.history
  have hnone : l.countP (answers id waiter) = 0 := by
    refine countP_eq_zero.2 fun e he => ?_
    have := (hquiet e he).1
    cases e <;> simp_all [isQuiet, answers]
  simp [answered, hl, hnone]

lemma filterMap_answers (id id' : CastDisplayId) (waiters : List ℕ)
    (result : Except RemoveManagedDisplayError Unit) :
    (waiters.map (removeAnswered · id' result)).filterMap
      (eventOf id) = [] := by
  simp [filterMap_map, Function.comp_def, eventOf]

lemma lifecycle_handleRemovalJoin (target : DeviceTarget) (result : Except String Unit)
    (id' : CastDisplayId) : (s.handleRemovalJoin id target result).lifecycle id' =
      if s.closing = false ∧ id = id' then s.lifecycle id' ++ [.DisplayRemoved id]
      else s.lifecycle id' := by
  unfold handleRemovalJoin
  rw [lifecycle_send]
  simp only [lifecycle, release, LifecycleEvent.displayId, filterMap_append,
    filterMap_answers, append_nil]

lemma countP_answers (id id' : CastDisplayId) (waiter : ℕ) (waiters : List ℕ)
    (result : Except RemoveManagedDisplayError Unit) :
    (waiters.map (removeAnswered · id' result)).countP (answers id waiter) =
      if id' = id then waiters.count waiter else 0 := by
  rw [countP_map, count]
  split_ifs with hid
  · refine countP_congr fun w _ => ?_
    simp [answers, hid]
  · simp [answers, hid]

end Histories

section Places

attribute [local grind cases eager] Placed
attribute [local grind] InOrder
attribute [local grind .] Announced.start
attribute [local grind →] Announced.change
attribute [local grind =] LifecycleEvent.displayId

lemma Placed.initial (id : CastDisplayId) : Ordered {} id where
  inOrder := .inl rfl
  unborn _ := rfl
  live _ := nofun
  removing := nofun

/-- Every step keeps the events of every display in order. -/
theorem Placed.steps {i : Input} (h : s.Ordered id) (hids : s.Owned) (hs' : s.Steps i s') :
    s'.Ordered id := by
  have hplaces := hids.placed id
  cases hs' with
  | quiet _ hquiet =>
    rw [Ordered, hquiet.lifecycle_eq id]
    constructor <;> grind -linarith
  | install | forget | absent =>
    rw [Ordered, lifecycle_note]
    change Placed _ id (s.lifecycle id ++ [])
    rw [append_nil]
    constructor <;> grind -linarith
  | added =>
    rw [Ordered, lifecycle_send]
    change Placed _ id (ite (s.closing = false ∧ _ = id) (s.lifecycle id ++ _) (s.lifecycle id))
    split_ifs <;> constructor <;> grind -linarith
  | removed =>
    rw [Ordered, lifecycle_handleRemovalJoin]
    split_ifs <;> constructor <;> grind -linarith
  | changed =>
    rw [Ordered, publish, lifecycle_note, eventOf]
    split_ifs <;> constructor <;> grind -linarith
  | failed =>
    rw [Ordered, publish, lifecycle_note, eventOf]
    change Placed _ id (s.lifecycle id ++ _)
    split_ifs <;> constructor <;> grind -linarith
  | _ =>
    change Placed _ id (s.lifecycle id)
    constructor <;> grind -linarith

end Places

section Answers

lemma request_eq_some {i : Input} {waiter : ℕ} :
    i.request = some (id, waiter) ↔ i = .command (.RemoveDisplay id waiter) := by
  unfold request
  split <;> simp_all

/-- A request is answered at once or waits, and a waiter that goes was answered. -/
lemma Steps.answered_add_waiting {i : Input} (hs' : s.Steps i s') (id : CastDisplayId)
    (waiter : ℕ) : s'.answered id waiter + s'.waiting id waiter =
      s.answered id waiter + s.waiting id waiter +
        if i.request = some (id, waiter) then 1 else 0 := by
  cases hs' with
  | quiet hrequest hquiet =>
    simp [waiting, hquiet.answered_eq, hquiet.removalWaiters, hrequest]
  | await hwaiters =>
    simp only [answered, waiting, request]
    grind -linarith
  | remove _ hwaiters =>
    simp only [answered, waiting, request]
    grind -linarith
  | absent hwaiters =>
    simp only [answered, waiting, request, note, countP_append, countP_singleton,
      answers]
    grind -linarith
  | removed htask =>
    simp only [handleRemovalJoin, send_eq, answered, waiting, request, release]
    split_ifs <;> simp only [countP_append, countP_answers]
    all_goals grind -linarith [answers]
  | added =>
    simp only [send_eq, answered, waiting, request]
    grind -linarith [answers]
  | _ =>
    simp [answered, waiting, request, note, publish, release, installSetup,
      answers]

lemma Accounted.initial : Accounted [] {} where
  once _ _ := rfl
  removing _ := Iff.rfl

lemma Accounted.steps {inputs : List Input} {i : Input} (h : Accounted inputs s)
    (hs' : s.Steps i s') : Accounted (inputs ++ [i]) s' where
  once id waiter := by
    rw [hs'.answered_add_waiting, ← h.once, count_append, count_singleton]
    simp [request_eq_some]
  removing id := by
    have hold := h.removing id
    cases hs' <;> grind -linarith

end Answers

lemma Owned.start_ne_inconsistentTarget (h : s.Owned) (selection : DeviceSelection)
    (spawned : Except DisplaySetupStartError CastDisplayId) :
    (s.startManagedDisplaySetup selection spawned).2 ≠ .error .InconsistentTarget := by
  have hrecorded := @h.recorded
  have howner := @h.owner_iff
  unfold startManagedDisplaySetup
  grind -linarith

/-- What every run keeps, with the inputs it took. -/
structure Kept (inputs : List Input) (s : ManagerState) : Prop where
  owned : s.Owned
  ordered : ∀ id, s.Ordered id
  accounted : Accounted inputs s

namespace Kept

variable {inputs : List Input}

lemma initial : Kept [] {} := ⟨.initial, Placed.initial, .initial⟩

lemma steps {i : Input} (h : Kept inputs s) (hs' : s.Steps i s') : Kept (inputs ++ [i]) s' :=
  ⟨h.owned.steps hs', fun id => (h.ordered id).steps h.owned hs', h.accounted.steps hs'⟩

lemma run (h : manager.run {} inputs = some s) : Kept inputs s := by
  have hkept : Kept ([] ++ inputs) s :=
    Machine.run_invariant_inputs (fun _ _ _ _ hk hnext => hk.steps (steps_of_next hnext)) initial h
  simpa using hkept

end Kept

end ManagerState

/-- In every run, a display is added, changes and is removed in this order; a target is
claimed by one display at most, and its owner has a record and is a running setup, a
display or a removal in progress; a start finds no inconsistent target; and every command
to remove a display has one answer, or waits for a removal in progress. -/
theorem lifecycle_and_ownership {inputs : List Input} {s : ManagerState}
    (h : manager.run {} inputs = some s) :
    (∀ id, InOrder id (s.lifecycle id)) ∧
    (∀ target id id', target ∈ s.claims id → target ∈ s.claims id' → id = id') ∧
    (∀ target owner, s.targetOwners.lookup target = some owner →
      s.operations.lookup owner = some target ∧
        (s.running owner = some target ∨ s.displays.lookup owner = some target ∨
          s.removalTasks.lookup owner = some target ∨
          s.shutdownRemovals.lookup owner = some target)) ∧
    (∀ selection spawned,
      (s.startManagedDisplaySetup selection spawned).2 ≠ .error .InconsistentTarget) ∧
    ∀ id waiter, inputs.count (.command (.RemoveDisplay id waiter)) =
        s.answered id waiter + s.waiting id waiter ∧
      (id ∉ s.removalTasks → s.waiting id waiter = 0) := by
  obtain ⟨howned, hordered, haccounted⟩ := Kept.run h
  refine ⟨fun id => (hordered id).inOrder, fun target id id' ht ht' => ?_,
    fun target owner howner => ?_, howned.start_ne_inconsistentTarget,
    fun id waiter => ⟨haccounted.once id waiter, fun hid => ?_⟩⟩
  · exact Option.some.inj ((howned.owner_iff.2 ht).symm.trans (howned.owner_iff.2 ht'))
  · have hclaim := howned.owner_iff.1 howner
    exact ⟨howned.recorded hclaim, mem_claims.1 hclaim⟩
  · have hnone := AList.lookup_eq_none.2 fun hw => hid ((haccounted.removing id).1 hw)
    simp [waiting, hnone]

/-- A display changes and is removed on the request of two clients, and the next setup of
its target fails. -/
def removedInputs : List Input :=
  [.command (.StartDisplaySetup sampleSelection (.ok ⟨7⟩)), .settle ⟨7⟩ .added,
   .joinSetup ⟨7⟩ (.completed true), .slotEvent (.StateChanged ⟨7⟩),
   .command (.RemoveDisplay ⟨7⟩ 0), .command (.StartDisplaySetup sampleSelection (.ok ⟨8⟩)),
   .command (.RemoveDisplay ⟨7⟩ 1), .joinRemoval ⟨7⟩ (.error "stop timed out"),
   .command (.StartDisplaySetup sampleSelection (.ok ⟨9⟩)), .settle ⟨9⟩ .failed,
   .joinSetup ⟨9⟩ (.completed true)]

theorem lifecycle_and_ownership_removed : ∃ s, manager.run {} removedInputs = some s ∧
    s.lifecycle ⟨7⟩ = [.DisplayAdded ⟨7⟩, .DisplayStateChanged ⟨7⟩, .DisplayRemoved ⟨7⟩] ∧
    InOrder ⟨7⟩ (s.lifecycle ⟨7⟩) ∧ s.answered ⟨7⟩ 0 = 1 ∧ s.answered ⟨7⟩ 1 = 1 ∧
    removedInputs.count (.command (.RemoveDisplay ⟨7⟩ 1)) =
      s.answered ⟨7⟩ 1 + s.waiting ⟨7⟩ 1 := by
  obtain ⟨s, hs, hevents, hfirst, hsecond⟩ : ∃ s, manager.run {} removedInputs = some s ∧
      s.lifecycle ⟨7⟩ = [.DisplayAdded ⟨7⟩, .DisplayStateChanged ⟨7⟩, .DisplayRemoved ⟨7⟩] ∧
      s.answered ⟨7⟩ 0 = 1 ∧ s.answered ⟨7⟩ 1 = 1 :=
    Machine.exists_run (by decide +kernel)
  obtain ⟨hordered, -, -, -, honce⟩ := lifecycle_and_ownership hs
  exact ⟨s, hs, hevents, hordered ⟨7⟩, hfirst, hsecond, (honce ⟨7⟩ 1).1⟩

end Pronk.Manager
