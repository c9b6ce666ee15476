import Mathlib.Tactic.Common

/-!
# Laws of a growing record

A record of calls grows at its end. A law says which call may follow which record;
an obligation says that certain entries are answered by a later one. Both are kept
by looking at the one entry that is added.
-/
namespace Trace

universe u

variable {α : Type u}

/-- Every entry is allowed by the entries before it. -/
def Lawful (A : List α → α → Prop) (log : List α) : Prop :=
  ∀ pre e post, log = pre ++ e :: post → A pre e

/-- Every entry in `S` is followed by one that answers it. -/
def Answered (R : α → α → Prop) (S : α → Prop) (log : List α) : Prop :=
  ∀ pre e post, log = pre ++ e :: post → S e → ∃ y ∈ post, R e y

variable {A : List α → α → Prop} {R : α → α → Prop} {S S' : α → Prop} {log : List α} {e : α}

lemma snoc_eq_append_cons {pre post : List α} {x : α} (h : log ++ [e] = pre ++ x :: post) :
    (pre = log ∧ x = e ∧ post = []) ∨ ∃ post', post = post' ++ [e] ∧ log = pre ++ x :: post' := by
  rcases List.eq_nil_or_concat post with rfl | ⟨post', last, rfl⟩
  · obtain ⟨rfl, hlast⟩ := List.append_inj' h rfl
    obtain ⟨rfl, -⟩ := List.cons.inj hlast
    exact .inl ⟨rfl, rfl, rfl⟩
  · have h' : log ++ [e] = (pre ++ x :: post') ++ [last] := by simpa using h
    obtain ⟨rfl, hlast⟩ := List.append_inj' h' rfl
    obtain ⟨rfl, -⟩ := List.cons.inj hlast
    exact .inr ⟨post', List.concat_eq_append, rfl⟩

namespace Lawful

lemma nil : Lawful A [] := by
  intro pre e post h
  simp at h

lemma snoc (h : Lawful A log) (he : A log e) : Lawful A (log ++ [e]) := by
  intro pre x post hsplit
  rcases snoc_eq_append_cons hsplit with ⟨rfl, rfl, -⟩ | ⟨post', -, hlog⟩
  · exact he
  · exact h pre x post' hlog

end Lawful

namespace Answered

lemma nil : Answered R S [] := by
  intro pre e post h
  simp at h

/-- The new entry answers what it has to, and needs no answer itself. -/
theorem snoc (h : Answered R S log) (hold : ∀ x ∈ log, S' x → S x ∨ R x e) (hnew : ¬ S' e) :
    Answered R S' (log ++ [e]) := by
  intro pre x post hsplit hx
  rcases snoc_eq_append_cons hsplit with ⟨-, rfl, -⟩ | ⟨post', rfl, hlog⟩
  · exact absurd hx hnew
  · rcases hold x (by simp [hlog]) hx with hS | hR
    · obtain ⟨y, hy, hR⟩ := h pre x post' hlog hS
      exact ⟨y, List.mem_append_left _ hy, hR⟩
    · exact ⟨e, by simp, hR⟩

lemma mono (h : Answered R S log) (hS : ∀ x ∈ log, S' x → S x) : Answered R S' log := by
  intro pre x post hlog hx
  exact h pre x post hlog (hS x (by simp [hlog]) hx)

end Answered

end Trace
