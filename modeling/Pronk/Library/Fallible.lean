import Mathlib.Tactic.Common

/-!
# Inversion of fallible computations

A sequence of checks succeeds exactly if each of them does.
-/
namespace Fallible

universe u v

variable {ε : Type u} {α β : Type v} {x : Except ε α} {f : α → Except ε β} {b : β}

lemma bind_eq_ok : (x >>= f) = .ok b ↔ ∃ a, x = .ok a ∧ f a = .ok b := by
  cases x with
  | error e => simp [bind, Except.bind]
  | ok a => simp [bind, Except.bind]

lemma bind_eq_error {e : ε} :
    (x >>= f) = .error e ↔ x = .error e ∨ ∃ a, x = .ok a ∧ f a = .error e := by
  cases x with
  | error e => simp [bind, Except.bind]
  | ok a => simp [bind, Except.bind]

/-- A check and what follows it. -/
theorem seq_eq_ok {β : Type} {x : Except ε Unit} {f : Unit → Except ε β} {b : β} :
    (x >>= f) = .ok b ↔ x = .ok () ∧ f () = .ok b := by
  cases x with
  | error e => simp [bind, Except.bind]
  | ok a => simp [bind, Except.bind]

@[simp] lemma ok_bind (a : α) (f : α → Except ε β) : (Except.ok a >>= f) = f a := rfl

lemma mapError_eq_error {δ : Type v} {g : ε → δ} {e : δ} :
    x.mapError g = .error e ↔ ∃ e', x = .error e' ∧ g e' = e := by
  cases x <;> simp [Except.mapError]

lemma mapError_eq_ok {δ : Type v} {g : ε → δ} {a : α} : x.mapError g = .ok a ↔ x = .ok a := by
  cases x <;> simp [Except.mapError]

/-- A check that gives what it has checked to the code after it. -/
def require (p : Prop) [Decidable p] (e : ε) : Except ε (PLift p) :=
  if h : p then .ok ⟨h⟩ else .error e

lemma exists_require {p : Prop} [Decidable p] {e : ε} {q : PLift p → Prop} :
    (∃ a, require p e = .ok a ∧ q a) ↔ ∃ h : p, q ⟨h⟩ := by
  constructor
  · rintro ⟨⟨h⟩, -, hq⟩
    exact ⟨h, hq⟩
  · rintro ⟨h, hq⟩
    exact ⟨⟨h⟩, dif_pos h, hq⟩

end Fallible
