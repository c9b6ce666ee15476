import Mathlib.Tactic.Common

/-!
# Cutting a stream into records

A framer looks at the start of a stream: it finds a complete record and says how many
elements the record takes, or needs more input, or refuses the stream. More input never
changes an answer it has given, so a stream can be drained in any number of pieces.
-/
namespace Framing
open List

universe u v w

structure Framer (β : Type u) (α : Type v) (ε : Type w) where
  next : List β → Except ε (Option (α × ℕ))
  bounds : ∀ {l a n}, next l = .ok (some (a, n)) → 0 < n ∧ n ≤ l.length
  found : ∀ {l a n} (more : List β), next l = .ok (some (a, n)) →
    next (l ++ more) = .ok (some (a, n))
  refused : ∀ {l e} (more : List β), next l = .error e → next (l ++ more) = .error e

section TopUp

variable {β : Type u} {carry input : List β} {n : ℕ}

/-- Elements move from the input to the carry until it has `n`; here they did not suffice. -/
theorem drop_of_topUp_short (h : (carry ++ input.take (n - carry.length)).length < n) :
    input.drop (n - carry.length) = [] := by
  rw [length_append, length_take] at h
  apply drop_of_length_le
  omega

lemma topUp_eq (hc : carry.length ≤ n)
    (h : ¬ (carry ++ input.take (n - carry.length)).length < n) :
    carry ++ input.take (n - carry.length) = (carry ++ input).take n ∧
      input.drop (n - carry.length) = (carry ++ input).drop n ∧ n ≤ (carry ++ input).length := by
  rw [length_append, length_take] at h
  refine ⟨?_, ?_, ?_⟩
  · rw [take_append, take_of_length_le hc]
  · rw [drop_append, drop_of_length_le hc, nil_append]
  · rw [length_append]
    omega

end TopUp

namespace Framer

variable {β : Type u} {α : Type v} {ε : Type w} (F : Framer β α ε)

/-- The stream ends inside a record. -/
def Pending (l : List β) : Prop := F.next l = .ok none

def drainLoop : ℕ → List β → Except ε (List α × List β)
  | 0, l => .ok ([], l)
  | fuel + 1, l =>
    match F.next l with
    | .error e => .error e
    | .ok none => .ok ([], l)
    | .ok (some (a, n)) => (drainLoop fuel (l.drop n)).map fun r => (a :: r.1, r.2)

/-- The records of a stream and what is left of it. -/
def drain (l : List β) : Except ε (List α × List β) := F.drainLoop (l.length + 1) l

variable {F}

lemma drainLoop_fuel {fuel : ℕ} {l : List β} (h : l.length < fuel) :
    F.drainLoop fuel l = F.drain l := by
  -- Any two sufficient amounts of fuel agree, since a record takes at least one element.
  suffices ∀ fuel fuel' (l : List β), l.length < fuel → l.length < fuel' →
      F.drainLoop fuel l = F.drainLoop fuel' l from this fuel (l.length + 1) l h (by omega)
  intro fuel
  induction fuel with
  | zero => intro fuel' l h; omega
  | succ fuel ih =>
    intro fuel' l h h'
    obtain _ | fuel' := fuel'
    · omega
    · match hnext : F.next l with
      | .error e => simp only [drainLoop, hnext]
      | .ok none => simp only [drainLoop, hnext]
      | .ok (some (a, n)) =>
        have hb := F.bounds hnext
        have hrest : (l.drop n).length < fuel ∧ (l.drop n).length < fuel' := by
          rw [length_drop]
          omega
        simp only [drainLoop, hnext, ih fuel' (l.drop n) hrest.1 hrest.2]

lemma drain_refused {l : List β} {e : ε} (h : F.next l = .error e) : F.drain l = .error e := by
  simp only [drain, drainLoop, h]

lemma drain_pending {l : List β} (h : F.Pending l) : F.drain l = .ok ([], l) := by
  rw [Pending] at h
  simp only [drain, drainLoop, h]

lemma drain_found {l : List β} {a : α} {n : ℕ} (h : F.next l = .ok (some (a, n))) :
    F.drain l = (F.drain (l.drop n)).map fun r => (a :: r.1, r.2) := by
  have hb := F.bounds h
  have hrest : (l.drop n).length < l.length := by
    rw [length_drop]
    omega
  rw [← drainLoop_fuel hrest]
  simp only [drain, drainLoop, h]

lemma drain_found_eq_ok {l : List β} {a : α} {n : ℕ} {records : List α} {rest : List β}
    (h : F.next l = .ok (some (a, n))) :
    F.drain l = .ok (records, rest) ↔
      ∃ more, records = a :: more ∧ F.drain (l.drop n) = .ok (more, rest) := by
  rw [drain_found h]
  match F.drain (l.drop n) with
  | .error e => simp [Except.map]
  | .ok (more, rest') =>
    simp only [Except.map, Except.ok.injEq, Prod.mk.injEq]
    constructor
    · rintro ⟨rfl, rfl⟩
      exact ⟨more, rfl, rfl, rfl⟩
    · rintro ⟨more', rfl, rfl, rfl⟩
      exact ⟨rfl, rfl⟩

@[elab_as_elim]
lemma records_induction {P : List β → Prop} (l : List β)
    (refused : ∀ l e, F.next l = .error e → P l)
    (pending : ∀ l, F.Pending l → P l)
    (found : ∀ l a n, F.next l = .ok (some (a, n)) → P (l.drop n) → P l) : P l := by
  induction hlen : l.length using Nat.strongRecOn generalizing l with
  | ind len ih =>
    match hnext : F.next l with
    | .error e => exact refused l e hnext
    | .ok none => exact pending l hnext
    | .ok (some (a, n)) =>
      have hb := F.bounds hnext
      apply found l a n hnext
      apply ih (l.drop n).length _ _ rfl
      rw [length_drop]
      omega

/-- What is left over is not a whole record. -/
theorem pending_of_drain {l : List β} {records : List α} {rest : List β}
    (h : F.drain l = .ok (records, rest)) : F.Pending rest := by
  induction l using F.records_induction generalizing records with
  | refused l e hnext => simp [drain_refused hnext] at h
  | pending l hnext =>
    rw [drain_pending hnext] at h
    cases h
    exact hnext
  | found l a n hnext ih =>
    obtain ⟨more, -, hrest⟩ := (drain_found_eq_ok hnext).1 h
    exact ih hrest

/-- Draining a stream in two pieces. -/
theorem drain_append (l more : List β) :
    F.drain (l ++ more) =
      F.drain l >>= fun r => (F.drain (r.2 ++ more)).map fun s => (r.1 ++ s.1, s.2) := by
  induction l using F.records_induction with
  | refused l e hnext =>
    rw [drain_refused hnext, drain_refused (F.refused more hnext)]
    rfl
  | pending l hnext =>
    rw [drain_pending hnext]
    match h : F.drain (l ++ more) with
    | .error e => simp [bind, Except.bind, h, Except.map]
    | .ok r => simp [bind, Except.bind, h, Except.map]
  | found l a n hnext ih =>
    have hb := F.bounds hnext
    rw [drain_found hnext, drain_found (F.found more hnext), drop_append_of_le_length hb.2, ih]
    match F.drain (l.drop n) with
    | .error e => rfl
    | .ok (as, rest) =>
      match h : F.drain (rest ++ more) with
      | .error e => simp [bind, Except.bind, h, Except.map]
      | .ok r => simp [bind, Except.bind, h, Except.map]

/-! ## Counted records -/

/-- Records whose header says how many elements follow it. -/
def counted (headerSize : ℕ) (hpos : 0 < headerSize) (count : List β → ℕ) :
    Framer β (List β × List β) Empty where
  next l :=
    if l.length < headerSize + count (l.take headerSize) then .ok none
    else
      .ok (some ((l.take headerSize, (l.drop headerSize).take (count (l.take headerSize))),
        headerSize + count (l.take headerSize)))
  bounds {l a n} h := by
    split_ifs at h with hlen
    · simp at h
    · simp only [Except.ok.injEq, Option.some.injEq, Prod.mk.injEq] at h
      omega
  found {l a n} more h := by
    split_ifs at h with hlen
    · simp at h
    · have hheader : (l ++ more).take headerSize = l.take headerSize :=
        take_append_of_le_length (by omega)
      have hlong : ¬ (l ++ more).length < headerSize + count (l.take headerSize) := by
        rw [length_append]
        omega
      have hpayload : count (l.take headerSize) ≤ (l.drop headerSize).length := by
        rw [length_drop]
        omega
      rw [hheader, if_neg hlong, ← h, drop_append_of_le_length (by omega),
        take_append_of_le_length hpayload]
  refused {l e} _ _ := e.elim

/-- A sequence of records is read back as it is. -/
theorem drain_counted {headerSize : ℕ} {hpos : 0 < headerSize} {count : List β → ℕ}
    {records : List (List β × List β)}
    (h : ∀ r ∈ records, r.1.length = headerSize ∧ count r.1 = r.2.length) :
    (counted headerSize hpos count).drain (records.flatMap fun r => r.1 ++ r.2) =
      .ok (records, []) := by
  induction records with
  | nil =>
    apply drain_pending
    exact if_pos (by simp; omega)
  | cons r rest ih =>
    obtain ⟨⟨hheader, hcount⟩, hrest⟩ := forall_mem_cons.1 h
    have hnext : (counted headerSize hpos count).next
        ((r :: rest).flatMap fun r => r.1 ++ r.2) = .ok (some (r, headerSize + r.2.length)) := by
      have htake : ((r :: rest).flatMap fun r => r.1 ++ r.2).take headerSize = r.1 := by
        rw [flatMap_cons, append_assoc, ← hheader, take_left]
      have hdrop : ((r :: rest).flatMap fun r => r.1 ++ r.2).drop headerSize =
          r.2 ++ rest.flatMap fun r => r.1 ++ r.2 := by
        rw [flatMap_cons, append_assoc, ← hheader, drop_left]
      simp only [counted, htake, hdrop, hcount, take_left]
      rw [if_neg]
      rw [flatMap_cons, length_append, length_append]
      omega
    have hafter : ((r :: rest).flatMap fun r => r.1 ++ r.2).drop (headerSize + r.2.length) =
        rest.flatMap fun r => r.1 ++ r.2 := by
      rw [flatMap_cons, ← hheader, ← length_append, drop_left]
    rw [drain_found hnext, hafter, ih hrest]
    rfl

end Framer

end Framing
