import Mathlib.Data.List.Sort
import Mathlib.Data.List.Dedup
import Mathlib.Algebra.BigOperators.Group.List.Basic
import Mathlib.Tactic.Ring

/-!
# Entries of an ordered map

What the sorted list of entries of a map says about the map, beyond single lookups: a sum
over all values, and when a sorted list is the list of values of a map.
-/
namespace OrderedMap
open Std LawfulEqCmp List

universe u v

variable {κ : Type u} {α : Type v} {cmp : κ → κ → Ordering} [TransCmp cmp] [LawfulEqCmp cmp]
  {t : ExtTreeMap κ α cmp} {k : κ} {a : α}

lemma toList_nodup (t : ExtTreeMap κ α cmp) : t.toList.Nodup :=
  t.distinct_keys_toList.imp fun {x y} h (heq : x = y) => h (heq ▸ ReflCmp.compare_self)

lemma toList_insert_perm : (t.insert k a).toList.Perm ((k, a) :: (t.erase k).toList) := by
  have hnew : (k, a) ∉ (t.erase k).toList := by simp
  refine (perm_ext_iff_of_nodup (toList_nodup _)
    (nodup_cons.2 ⟨hnew, toList_nodup _⟩)).2 fun ⟨k', a'⟩ => ?_
  by_cases h : k = k'
  · subst h
    simp [eq_comm]
  · have hcmp : cmp k k' ≠ .eq := fun heq => h (eq_of_compare heq)
    simp [ExtTreeMap.getElem?_insert, ExtTreeMap.getElem?_erase, hcmp, Ne.symm h]

lemma toList_perm_erase (h : t[k]? = some a) : t.toList.Perm ((k, a) :: (t.erase k).toList) := by
  have hsame : t.insert k a = t := by
    refine ExtTreeMap.ext_getElem? fun k' => ?_
    rw [ExtTreeMap.getElem?_insert]
    split_ifs with hk
    · rw [← h, eq_of_compare hk]
    · rfl
  have hperm := toList_insert_perm (t := t) (k := k) (a := a)
  rwa [hsame] at hperm

/-- A sum over the values of a map. -/
def sum (g : α → ℕ) (t : ExtTreeMap κ α cmp) : ℕ := (t.toList.map fun e => g e.2).sum

/-- A new value replaces the summand of its key. -/
theorem sum_insert (g : α → ℕ) :
    sum g (t.insert k a) + (t[k]?.map g).getD 0 = sum g t + g a := by
  have hinsert : sum g (t.insert k a) = g a + sum g (t.erase k) := by
    simpa [sum] using ((toList_insert_perm (t := t) (k := k) (a := a)).map fun e => g e.2).sum_eq
  cases hk : t[k]? with
  | none =>
    have herase : t.erase k = t := by
      refine ExtTreeMap.ext_getElem? fun k' => ?_
      rw [ExtTreeMap.getElem?_erase]
      split_ifs with hcmp
      · rw [← eq_of_compare hcmp, hk]
      · rfl
    simp [hinsert, herase, Nat.add_comm]
  | some b =>
    have hold : sum g t = g b + sum g (t.erase k) := by
      simpa [sum] using ((toList_perm_erase hk).map fun e => g e.2).sum_eq
    simp [hinsert, hold]
    omega

/-- A value may change in place without its summand. -/
theorem sum_modify (g : α → ℕ) {f : α → α} (hf : ∀ a, g (f a) = g a) :
    sum g (t.modify k f) = sum g t := by
  cases hk : t[k]? with
  | none =>
    have hsame : t.modify k f = t := by
      refine ExtTreeMap.ext_getElem? fun k' => ?_
      rw [ExtTreeMap.getElem?_modify]
      split_ifs with hcmp
      · rw [← eq_of_compare hcmp, hk]
        rfl
      · rfl
    rw [hsame]
  | some a =>
    have hinsert : t.modify k f = t.insert k (f a) := by
      refine ExtTreeMap.ext_getElem? fun k' => ?_
      rw [ExtTreeMap.getElem?_modify, ExtTreeMap.getElem?_insert, hk]
      rfl
    have hsum := sum_insert (t := t) (k := k) (a := f a) g
    rw [hk, hf] at hsum
    rw [hinsert]
    exact Nat.add_right_cancel hsum

/-- A list that is sorted by the keys of its members is the list of values of a map that
has the same members. -/
theorem values_eq {l : List α} (key : α → κ) (hkey : ∀ k a, t[k]? = some a → key a = k)
    (hsorted : l.Pairwise fun a b => cmp (key a) (key b) = .lt)
    (hmem : ∀ a, a ∈ l ↔ t[key a]? = some a) : t.toList.map (·.2) = l := by
  have hvalues : (t.toList.map (·.2)).Pairwise fun a b => cmp (key a) (key b) = .lt := by
    refine pairwise_map.2 (t.ordered_keys_toList.imp_of_mem fun {x y} hx hy hlt => ?_)
    rwa [hkey x.1 x.2 (ExtTreeMap.mem_toList_iff_getElem?_eq_some.1 hx),
      hkey y.1 y.2 (ExtTreeMap.mem_toList_iff_getElem?_eq_some.1 hy)]
  have hnodup {l : List α} (h : l.Pairwise fun a b => cmp (key a) (key b) = .lt) : l.Nodup :=
    h.imp fun hlt heq => by simp [heq, ReflCmp.compare_self] at hlt
  have hperm : (t.toList.map (·.2)).Perm l := by
    refine (perm_ext_iff_of_nodup (hnodup hvalues) (hnodup hsorted)).2 fun a => ?_
    rw [hmem, mem_map]
    constructor
    · rintro ⟨⟨k, a'⟩, hin, rfl⟩
      have ha := ExtTreeMap.mem_toList_iff_getElem?_eq_some.1 hin
      rwa [hkey k a' ha]
    · intro ha
      exact ⟨(key a, a), ExtTreeMap.mem_toList_iff_getElem?_eq_some.2 ha, rfl⟩
  refine hperm.eq_of_pairwise (fun a b _ _ hab hba => ?_) hvalues hsorted
  have hswap : cmp (key a) (key b) = (cmp (key b) (key a)).swap := OrientedCmp.eq_swap
  rw [hswap, hba] at hab
  cases hab

section FromValues

variable {key : α → κ} {l : List α}

/-- The map of a list of values by their keys. -/
def insertValues (key : α → κ) (t : ExtTreeMap κ α cmp) (l : List α) : ExtTreeMap κ α cmp :=
  l.foldl (fun t a => t.insert (key a) a) t

lemma getElem?_insertValues_of_notMem (h : k ∉ l.map key) :
    (insertValues key t l)[k]? = t[k]? := by
  induction l generalizing t with
  | nil => rfl
  | cons a rest ih =>
    obtain ⟨hne, hrest⟩ := not_or.1 (mem_cons.not.1 h)
    have hcmp : cmp (key a) k ≠ .eq := fun heq => hne (eq_of_compare heq).symm
    exact (ih hrest).trans (by rw [ExtTreeMap.getElem?_insert, if_neg hcmp])

lemma getElem?_insertValues_of_mem (hnodup : (l.map key).Nodup) (h : a ∈ l) :
    (insertValues key t l)[key a]? = some a := by
  induction l generalizing t with
  | nil => cases h
  | cons b rest ih =>
    obtain ⟨hnew, hrest⟩ := nodup_cons.1 hnodup
    rcases mem_cons.1 h with rfl | h
    · exact (getElem?_insertValues_of_notMem hnew).trans (by simp)
    · exact ih hrest h

/-- What is found is one of the values, or was there before. -/
theorem of_getElem?_insertValues {P : κ → α → Prop} (ht : ∀ k a, t[k]? = some a → P k a)
    (hl : ∀ a ∈ l, P (key a) a) (h : (insertValues key t l)[k]? = some a) : P k a := by
  induction l generalizing t with
  | nil => exact ht k a h
  | cons b rest ih =>
    refine ih (fun k' a' hk' => ?_) (fun a' ha' => hl a' (by simp [ha'])) h
    rw [ExtTreeMap.getElem?_insert] at hk'
    split_ifs at hk' with hcmp
    · cases hk'
      exact eq_of_compare hcmp ▸ hl b (by simp)
    · exact ht k' a' hk'

omit [LawfulEqCmp cmp] in
lemma size_insertValues_le (key : α → κ) (t : ExtTreeMap κ α cmp) (l : List α) :
    (insertValues key t l).size ≤ t.size + l.length := by
  induction l generalizing t with
  | nil => exact Nat.le_refl _
  | cons a rest ih =>
    have hinsert : (t.insert (key a) a).size ≤ t.size + 1 := ExtTreeMap.size_insert_le
    have hrest : (insertValues key (t.insert (key a) a) rest).size ≤
        (t.insert (key a) a).size + rest.length := ih _
    rw [length_cons]
    exact Nat.le_trans hrest (by omega)

lemma map_key_values (hkey : ∀ k a, t[k]? = some a → key a = k) :
    (t.toList.map (·.2)).map key = t.keys := by
  rw [map_map, ← ExtTreeMap.map_fst_toList_eq_keys]
  exact map_congr_left fun e he =>
    hkey e.1 e.2 (ExtTreeMap.mem_toList_iff_getElem?_eq_some.1 he)

lemma nodup_map_key (hkey : ∀ k a, t[k]? = some a → key a = k)
    (hperm : l.Perm (t.toList.map (·.2))) : (l.map key).Nodup :=
  (hperm.map key).nodup_iff.2 (map_key_values hkey ▸ t.nodup_keys)

/-- A map is the map of its values, in whatever order they are listed. -/
theorem insertValues_eq (hkey : ∀ k a, t[k]? = some a → key a = k)
    (hperm : l.Perm (t.toList.map (·.2))) : insertValues key (∅ : ExtTreeMap κ α cmp) l = t := by
  refine ExtTreeMap.ext_getElem? fun k => ?_
  cases hk : t[k]? with
  | some a =>
    have hmem : a ∈ l := hperm.mem_iff.2 (mem_map.2
      ⟨(k, a), ExtTreeMap.mem_toList_iff_getElem?_eq_some.2 hk, rfl⟩)
    rw [← hkey k a hk]
    exact getElem?_insertValues_of_mem (nodup_map_key hkey hperm) hmem
  | none =>
    refine (getElem?_insertValues_of_notMem fun hin => ?_).trans (by simp)
    rw [(hperm.map key).mem_iff, map_key_values hkey, ExtTreeMap.mem_keys,
      ExtTreeMap.mem_iff_isSome_getElem?, hk] at hin
    cases hin

end FromValues

end OrderedMap
