import Mathlib.Data.List.AList
import Mathlib.Logic.Function.Basic

/-!
# Two maps that invert each other

A table kept in both directions: whatever one map takes to a value, the other takes back.
Tables are association lists, whose lookups the rules below rewrite for `grind`.
-/
namespace Pairing

universe u v

variable {α : Type u} {β : Type v}

/-- Each map takes back what the other one gives. -/
def Mutual (f : α → Option β) (g : β → Option α) : Prop := ∀ a b, f a = some b ↔ g b = some a

section AList

@[grind →] lemma eq_empty_of_keys {l : AList fun _ : α => β} (h : l.keys = []) : l = ∅ := by
  apply AList.ext
  exact List.map_eq_nil_iff.1 h

variable [DecidableEq α]

attribute [grind =] AList.mem_insert AList.mem_erase AList.lookup_empty

/-- Membership is a lookup that finds something. -/
@[grind =] theorem mem_iff_lookup (l : AList fun _ : α => β) (a : α) :
    a ∈ l ↔ (l.lookup a).isSome := AList.lookup_isSome.symm

@[grind =] lemma lookup_insert_eq_ite (l : AList fun _ : α => β) (a x : α) (b : β) :
    (l.insert a b).lookup x = if x = a then some b else l.lookup x := by
  split_ifs with hx
  · subst hx
    simp
  · simp [AList.lookup_insert_ne hx]

@[grind =] lemma lookup_erase_eq_ite (l : AList fun _ : α => β) (a x : α) :
    (l.erase a).lookup x = if x = a then none else l.lookup x := by
  split_ifs with hx
  · subst hx
    simp
  · simp [AList.lookup_erase_ne hx]

lemma erase_insert_empty (a : α) (b : β) :
    ((∅ : AList fun _ : α => β).insert a b).erase a = ∅ := by
  apply AList.ext
  show List.kerase a ((∅ : AList fun _ : α => β).insert a b).entries = []
  rw [AList.entries_insert, AList.empty_entries, List.kerase_nil]
  exact List.kerase_cons_eq rfl

end AList

end Pairing
