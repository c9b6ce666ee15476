import Mathlib.Data.List.Basic
import Mathlib.Tactic.Common

/-!
# Losing elements of a stream whose elements depend on their predecessors

The elements of a stream are numbered, and some of them are of no use without the one just
before. A stage may lose elements as long as no such element passes it after a loss. Two
stages behind each other then keep the same promise.
-/
namespace Dependent
open List

universe u

variable {α : Type u} (serial : α → ℕ) (depends : α → Prop)

/-- The number that follows the last element. -/
def next (n : ℕ) (passed : List α) : ℕ := passed.foldl (fun _ a => serial a + 1) n

/-- What has passed a stage from the number `n` on. -/
def Gapless (n : ℕ) : List α → Prop
  | [] => True
  | a :: rest => n ≤ serial a ∧ (depends a → serial a = n) ∧ Gapless (serial a + 1) rest

/-- No number is missing. -/
def Consecutive (n : ℕ) : List α → Prop
  | [] => True
  | a :: rest => serial a = n ∧ Consecutive (n + 1) rest

/-- Whether the last element was kept. -/
def lastKept (kept : Bool) (handled : List (α × Bool)) : Bool :=
  handled.foldl (fun _ entry => entry.2) kept

/-- A later stage that takes every element and keeps some of them. -/
def Intact (kept : Bool) : List (α × Bool) → Prop
  | [] => True
  | entry :: rest =>
    (entry.2 = true → depends entry.1 → kept = true) ∧ Intact entry.2 rest

def keptOf (handled : List (α × Bool)) : List α := (handled.filter (·.2)).map Prod.fst

variable {serial depends} {n m : ℕ} {kept b : Bool} {a : α} {passed : List α}
  {handled : List (α × Bool)}

@[simp] lemma next_nil : next serial n [] = n := rfl

@[simp] lemma next_concat : next serial n (passed ++ [a]) = serial a + 1 := by
  simp [next]

lemma next_append {later : List α} :
    next serial n (passed ++ later) = next serial (next serial n passed) later :=
  foldl_append

@[simp] lemma lastKept_nil : lastKept kept ([] : List (α × Bool)) = kept := rfl

@[simp] lemma lastKept_concat : lastKept kept (handled ++ [(a, b)]) = b := by
  simp [lastKept]

lemma mem_keptOf : a ∈ keptOf handled ↔ (a, true) ∈ handled := by
  simp [keptOf]

lemma gapless_append {later : List α} :
    Gapless serial depends n (passed ++ later) ↔
      Gapless serial depends n passed ∧ Gapless serial depends (next serial n passed) later := by
  induction passed generalizing n with
  | nil => simp [Gapless]
  | cons a rest ih =>
    simp only [cons_append, Gapless, ih, and_assoc]
    rfl

lemma gapless_concat (h : Gapless serial depends n passed)
    (hle : next serial n passed ≤ serial a)
    (hdep : depends a → serial a = next serial n passed) :
    Gapless serial depends n (passed ++ [a]) :=
  gapless_append.2 ⟨h, hle, hdep, trivial⟩

lemma consecutive_concat (h : Consecutive serial n passed)
    (ha : serial a = n + passed.length) : Consecutive serial n (passed ++ [a]) := by
  induction passed generalizing n with
  | nil => exact ⟨ha, trivial⟩
  | cons b rest ih =>
    obtain ⟨hb, hrest⟩ := h
    refine ⟨hb, ih hrest ?_⟩
    rw [ha, length_cons]
    omega

lemma Gapless.le_next (h : Gapless serial depends n passed) : n ≤ next serial n passed := by
  induction passed generalizing n with
  | nil => exact Nat.le_refl _
  | cons b rest ih =>
    obtain ⟨hle, -, hrest⟩ := h
    have hnext : serial b + 1 ≤ next serial n (b :: rest) := ih hrest
    omega

/-- An element that needs its predecessor has it, unless it is the very first. -/
theorem Gapless.exists_predecessor (h : Gapless serial depends n passed) (ha : a ∈ passed)
    (hdep : depends a) : serial a = n ∨ ∃ b ∈ passed, serial b + 1 = serial a := by
  induction passed generalizing n with
  | nil => cases ha
  | cons c rest ih =>
    obtain ⟨-, hnum, hrest⟩ := h
    rcases mem_cons.1 ha with rfl | ha
    · exact .inl (hnum hdep)
    · right
      rcases ih hrest ha with hserial | ⟨b, hb, hserial⟩
      · exact ⟨c, mem_cons_self, hserial.symm⟩
      · exact ⟨b, mem_cons_of_mem c hb, hserial⟩

lemma intact_append {later : List (α × Bool)} :
    Intact depends kept (handled ++ later) ↔
      Intact depends kept handled ∧ Intact depends (lastKept kept handled) later := by
  induction handled generalizing kept with
  | nil => simp [Intact]
  | cons entry rest ih =>
    simp only [cons_append, Intact, ih, and_assoc]
    rfl

lemma intact_concat (h : Intact depends kept handled)
    (hkept : b = true → depends a → lastKept kept handled = true) :
    Intact depends kept (handled ++ [(a, b)]) :=
  intact_append.2 ⟨h, hkept, trivial⟩

/-- Elements that are lost together leave a gap, which asks nothing of them. -/
theorem intact_lost (h : Intact depends kept handled) (lost : List α) :
    Intact depends kept (handled ++ lost.map (·, false)) := by
  induction lost generalizing handled with
  | nil => simpa using h
  | cons a rest ih =>
    have h' : Intact depends kept (handled ++ [(a, false)]) := by
      apply intact_concat h
      intro hb
      cases hb
    simpa using ih h'

lemma Gapless.le_of_mem (h : Gapless serial depends n passed) (ha : a ∈ passed) :
    n ≤ serial a := by
  induction passed generalizing n with
  | nil => cases ha
  | cons b rest ih =>
    obtain ⟨hle, -, hrest⟩ := h
    rcases mem_cons.1 ha with rfl | ha
    · exact hle
    · have := ih hrest ha
      omega

/-- Elements pass in the order of their numbers. -/
theorem Gapless.pairwise (h : Gapless serial depends n passed) :
    passed.Pairwise fun a b => serial a < serial b := by
  induction passed generalizing n with
  | nil => exact Pairwise.nil
  | cons a rest ih =>
    obtain ⟨-, -, hrest⟩ := h
    apply Pairwise.cons
    · intro b hb
      exact hrest.le_of_mem hb
    · exact ih hrest

lemma Gapless.pairwise_keptOf (h : Gapless serial depends n (handled.map Prod.fst)) :
    (keptOf handled).Pairwise fun a b => serial a < serial b :=
  h.pairwise.sublist (filter_sublist.map Prod.fst)

/-- Behind both stages, an element that needs its predecessor still has it. -/
theorem exists_predecessor (hgapless : Gapless serial depends n (handled.map Prod.fst))
    (hintact : Intact depends kept handled) (ha : a ∈ keptOf handled) (hdep : depends a) :
    (serial a = n ∧ kept = true) ∨ ∃ b ∈ keptOf handled, serial b + 1 = serial a := by
  induction handled generalizing n kept with
  | nil => simp [keptOf] at ha
  | cons entry rest ih =>
    obtain ⟨-, hnum, hgapless⟩ := hgapless
    obtain ⟨hkept, hintact⟩ := hintact
    rcases mem_cons.1 (mem_keptOf.1 ha) with rfl | hrest
    · exact .inl ⟨hnum hdep, hkept rfl hdep⟩
    · right
      rcases ih hgapless hintact (mem_keptOf.2 hrest) with ⟨hserial, hfirst⟩ | ⟨b, hb, hserial⟩
      · refine ⟨entry.1, mem_keptOf.2 ?_, hserial.symm⟩
        rw [← hfirst]
        exact mem_cons_self
      · exact ⟨b, mem_keptOf.2 (mem_cons_of_mem _ (mem_keptOf.1 hb)), hserial⟩

/-- After a loss, an element that needs no other is kept before one that does. -/
theorem exists_between {accepted : List α}
    (h : ∀ a ∈ accepted, depends a →
      serial a = 0 ∨ ∃ b ∈ accepted, serial b + 1 = serial a)
    (ha : a ∈ accepted) (hdep : depends a) (hm : m < serial a)
    (hlost : ∀ b ∈ accepted, serial b ≠ m) :
    ∃ b ∈ accepted, ¬ depends b ∧ m < serial b ∧ serial b < serial a := by
  -- down from `a`, one predecessor at a time
  induction hn : serial a generalizing a with
  | zero => omega
  | succ k ih =>
    rcases h a ha hdep with hzero | ⟨b, hb, hserial⟩
    · omega
    · have hne := hlost b hb
      by_cases hb' : depends b
      · obtain ⟨c, hc, hindep, hmc, hcb⟩ := ih hb hb' (by omega) (by omega)
        exact ⟨c, hc, hindep, hmc, by omega⟩
      · exact ⟨b, hb, hb', by omega, by omega⟩

end Dependent
