import Mathlib.Data.List.Nodup

/-!
# Records found by a key in a list

`lookup` and `modify` act on the first record with the key, as a search through a
vector does. An update that keeps the keys leaves every other record as it was.
-/
namespace Keyed

universe u v

variable {α : Type u} {κ : Type v} [DecidableEq κ] (key : α → κ)

def lookup (k : κ) (l : List α) : Option α := l.find? fun a => key a = k

def modify (k : κ) (f : α → α) : List α → List α
  | [] => []
  | a :: rest => if key a = k then f a :: rest else a :: modify k f rest

variable {key} {k k' : κ} {f : α → α} {l : List α} {a : α}

lemma mem_of_lookup (h : lookup key k l = some a) : a ∈ l := List.mem_of_find?_eq_some h

lemma key_of_lookup (h : lookup key k l = some a) : key a = k := by
  simpa using List.find?_some h

lemma lookup_isSome : (lookup key k l).isSome ↔ k ∈ l.map key := by
  simp [lookup]

lemma map_key_modify (hf : ∀ a, key (f a) = key a) : (modify key k f l).map key = l.map key := by
  induction l with
  | nil => rfl
  | cons b rest ih =>
    unfold modify
    split_ifs with hb
    · simp [hf]
    · simp [ih]

lemma lookup_modify_self (hf : ∀ a, key (f a) = key a) :
    lookup key k (modify key k f l) = (lookup key k l).map f := by
  induction l with
  | nil => rfl
  | cons b rest ih =>
    unfold modify
    split_ifs with hb
    · simp [lookup, hf, hb]
    · simpa [lookup, hb] using ih

lemma lookup_modify_of_ne (hf : ∀ a, key (f a) = key a) (hk : k' ≠ k) :
    lookup key k' (modify key k f l) = lookup key k' l := by
  induction l with
  | nil => rfl
  | cons b rest ih =>
    unfold modify
    split_ifs with hb
    · have hb' : key b ≠ k' := by
        intro h
        exact hk (h ▸ hb)
      simp [lookup, hf, hb']
    · by_cases hb' : key b = k'
      · simp [lookup, hb']
      · simpa [lookup, hb'] using ih

lemma lookup_of_mem (hl : (l.map key).Nodup) (ha : a ∈ l) : lookup key (key a) l = some a := by
  induction l with
  | nil => cases ha
  | cons b rest ih =>
    rw [List.map_cons, List.nodup_cons] at hl
    rcases List.mem_cons.1 ha with rfl | hrest
    · simp [lookup]
    · have hb : key b ≠ key a := by
        intro h
        exact hl.1 (h ▸ List.mem_map_of_mem hrest)
      simpa [lookup, hb] using ih hl.2 hrest

end Keyed
