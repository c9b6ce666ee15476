import Mathlib.Data.List.Induction
import Mathlib.Logic.Function.Basic

/-!
# Replaying a journal of writes

Each entry of a journal writes one key of a map: it sets a value or clears it. The map
that a journal replays to holds at every key what the last entry for that key wrote.
-/
namespace Journal

universe u v w

variable {ε : Type u} {κ : Type v} {α : Type w} [DecidableEq κ] (key : ε → κ)

/-- The last entry for a key. -/
def last (k : κ) (log : List ε) : Option ε := (log.filter (key · = k)).getLast?

/-- The map after all entries, from the empty one. -/
def replay (value : ε → Option α) (log : List ε) : κ → Option α :=
  log.foldl (fun m e => Function.update m (key e) (value e)) fun _ => none

variable {key} {value : ε → Option α} {k : κ} {log log' : List ε} {e : ε}

lemma last_concat : last key k (log ++ [e]) = if key e = k then some e else last key k log := by
  unfold last
  split_ifs with h <;> simp [h]

lemma last_mem (h : last key k log = some e) : e ∈ log ∧ key e = k := by
  simpa using List.mem_of_getLast? h

/-- The last entry of a journal that goes on is in what was added, if that has one. -/
theorem last_append_mem (log : List ε) (he : e ∈ log') (hk : key e = k) :
    ∃ e' ∈ log', last key k (log ++ log') = some e' := by
  have hin : e ∈ log'.filter (key · = k) := by simp [he, hk]
  have hne : log'.filter (key · = k) ≠ [] := List.ne_nil_of_mem hin
  refine ⟨_, (List.mem_filter.1 (List.getLast_mem hne)).1, ?_⟩
  rw [last, List.filter_append, List.getLast?_append, List.getLast?_eq_some_getLast hne]
  rfl

lemma replay_concat : replay key value (log ++ [e]) =
    Function.update (replay key value log) (key e) (value e) := by
  simp [replay]

lemma replay_eq_last : replay key value log k = (last key k log).bind value := by
  induction log using List.reverseRecOn with
  | nil => rfl
  | append_singleton log e ih =>
    rw [replay_concat, last_concat, Function.update_apply]
    by_cases h : k = key e
    · simp [h]
    · simp [h, Ne.symm h, ih]

end Journal
