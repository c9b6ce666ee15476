import Mathlib.Tactic.Common

/-!
# Runs of an executable transition system

An input either takes a step or is not enabled, so a run is a list of inputs and can
be evaluated. A choice that the system does not make itself is part of the input.
-/
namespace Transition

universe u v

/-- States and the inputs they accept. -/
structure Machine (σ : Type u) (ι : Type v) where
  next : σ → ι → Option σ

namespace Machine

variable {σ : Type u} {ι : Type v} (M : Machine σ ι)

/-- The state after a list of inputs, if every one of them was enabled. -/
def run : σ → List ι → Option σ
  | s, [] => some s
  | s, i :: rest => (M.next s i).bind fun s' => run s' rest

/-- Some inputs lead to the state. -/
def Reach (s₀ s : σ) : Prop := ∃ inputs, M.run s₀ inputs = some s

/-- Only the inputs that meet a condition on the state before the step. -/
def guard (A : σ → ι → Prop) [∀ s i, Decidable (A s i)] : Machine σ ι where
  next s i := if A s i then M.next s i else none

variable {M} {s₀ s s' : σ} {i : ι}

lemma guard_next {A : σ → ι → Prop} [∀ s i, Decidable (A s i)] :
    (M.guard A).next s i = some s' ↔ A s i ∧ M.next s i = some s' := by
  by_cases h : A s i <;> simp [guard, h]

lemma run_invariant {I : σ → Prop} (hstep : ∀ s i s', I s → M.next s i = some s' → I s')
    {inputs : List ι} (h₀ : I s₀) (h : M.run s₀ inputs = some s) : I s := by
  induction inputs generalizing s₀ with
  | nil => exact Option.some.inj h ▸ h₀
  | cons i rest ih =>
    obtain ⟨s₁, hnext, hrest⟩ := Option.bind_eq_some_iff.1 h
    exact ih (hstep s₀ i s₁ h₀ hnext) hrest

/-- A closed run is evaluated. -/
theorem exists_run {P : σ → Prop} [DecidablePred P] {inputs : List ι}
    (h : (M.run s₀ inputs).any (fun s => decide (P s)) = true) :
    ∃ s, M.run s₀ inputs = some s ∧ P s := by
  obtain ⟨s, hs, hp⟩ := (Option.any_eq_true _ _).1 h
  exact ⟨s, hs, of_decide_eq_true hp⟩

lemma exists_reach {P : σ → Prop} [DecidablePred P] (inputs : List ι)
    (h : (M.run s₀ inputs).any (fun s => decide (P s)) = true) : ∃ s, M.Reach s₀ s ∧ P s := by
  obtain ⟨s, hs, hp⟩ := exists_run h
  exact ⟨s, ⟨inputs, hs⟩, hp⟩

/-- The same for a property of the state and the inputs so far. -/
theorem run_invariant_inputs {I : List ι → σ → Prop}
    (hstep : ∀ done s i s', I done s → M.next s i = some s' → I (done ++ [i]) s')
    {done inputs : List ι} (h₀ : I done s₀) (h : M.run s₀ inputs = some s) :
    I (done ++ inputs) s := by
  induction inputs generalizing done s₀ with
  | nil => simpa using Option.some.inj h ▸ h₀
  | cons i rest ih =>
    obtain ⟨s₁, hnext, hrest⟩ := Option.bind_eq_some_iff.1 h
    simpa using ih (hstep done s₀ i s₁ h₀ hnext) hrest

/-- What holds at first and is kept by every step holds in every reachable state. -/
theorem Reach.invariant {I : σ → Prop} (h : M.Reach s₀ s) (h₀ : I s₀)
    (hstep : ∀ s i s', I s → M.next s i = some s' → I s') : I s := by
  obtain ⟨inputs, hrun⟩ := h
  exact run_invariant hstep h₀ hrun

lemma run_append {inputs inputs' : List ι} :
    M.run s₀ (inputs ++ inputs') = (M.run s₀ inputs).bind (M.run · inputs') := by
  induction inputs generalizing s₀ with
  | nil => rfl
  | cons i rest ih =>
    simp only [List.cons_append, run, Option.bind_assoc]
    exact congrArg _ (funext fun _ => ih)

lemma Reach.run {inputs : List ι} (h : M.Reach s₀ s) (hrun : M.run s inputs = some s') :
    M.Reach s₀ s' := by
  obtain ⟨before, hbefore⟩ := h
  exact ⟨before ++ inputs, by simp [run_append, hbefore, hrun]⟩

end Machine

end Transition
