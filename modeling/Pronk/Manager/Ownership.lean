import Pronk.Manager.Steps

/-!
# Owners of device targets

A setup that has not been joined, a display and a removal in progress each claim the
target of their device. The table of owners is the inverse of these claims: every
display makes at most one, every claim has an owner, and every owner claims its target
and has a record of its setup.
-/
namespace Pronk.Manager
open Dbus Transition

namespace ManagerState

/-- The targets that a display claims, from the places it can be in. -/
def claims (s : ManagerState) (id : CastDisplayId) : List DeviceTarget :=
  (s.running id).toList ++ (s.displays.lookup id).toList ++ (s.removalTasks.lookup id).toList ++
    (s.shutdownRemovals.lookup id).toList

variable {s s' : ManagerState} {id : CastDisplayId} {target : DeviceTarget}

@[grind =] lemma mem_claims : target ∈ s.claims id ↔ s.running id = some target ∨
    s.displays.lookup id = some target ∨ s.removalTasks.lookup id = some target ∨
    s.shutdownRemovals.lookup id = some target := by
  simp [claims]

/-- A display is in one place at most. -/
structure Owned (s : ManagerState) : Prop where
  owner_iff : ∀ {id target}, s.targetOwners.lookup target = some id ↔ target ∈ s.claims id
  of_running : ∀ {id target}, s.running id = some target → s.displays.lookup id = none ∧
    s.removalTasks.lookup id = none ∧ s.shutdownRemovals.lookup id = none
  of_displays : ∀ {id target}, s.displays.lookup id = some target →
    s.removalTasks.lookup id = none ∧ s.shutdownRemovals.lookup id = none
  of_removalTasks : ∀ {id target}, s.removalTasks.lookup id = some target →
    s.shutdownRemovals.lookup id = none
  recorded : ∀ {id target}, target ∈ s.claims id → s.operations.lookup id = some target
  known : ∀ {id}, id ∈ s.operations → id ∈ s.setups

namespace Owned

attribute [local grind cases eager] Owned

lemma initial : Owned {} := by
  constructor <;> simp [claims, running]

lemma of_fresh (h : s.Owned) (hfresh : id ∉ s.setups) : s.running id = none ∧
    s.displays.lookup id = none ∧ s.removalTasks.lookup id = none ∧
      s.shutdownRemovals.lookup id = none := by
  have hnone (target : DeviceTarget) : target ∉ s.claims id := by grind
  simp only [Option.eq_none_iff_forall_ne_some]
  grind

lemma placed (h : s.Owned) (id : CastDisplayId) :
    (id ∈ s.setupTasks ∨ id ∈ s.displays ∨ id ∈ s.removalTasks → id ∈ s.setups) ∧
      (id ∈ s.setupTasks → id ∉ s.displays ∧ id ∉ s.removalTasks) ∧
      (id ∈ s.displays → id ∉ s.removalTasks) := by
  have hknown (hfresh : id ∉ s.setups) := h.of_fresh hfresh
  cases hrunning : s.running id <;> cases hdisplay : s.displays.lookup id <;> grind

/-- Every step keeps the owners and the claims in step. -/
theorem steps {i : Input} (h : s.Owned) (hs' : s.Steps i s') : s'.Owned := by
  cases hs' with
  | install _ hfresh =>
    have hnone := h.of_fresh hfresh
    constructor <;> grind
  | _ => constructor <;> grind

end Owned

end ManagerState

end Pronk.Manager
