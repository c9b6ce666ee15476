import Mathlib.Data.List.Induction
import Mathlib.Data.List.Nodup
import Pronk.Library.Trace

/-!
# A ledger of resources that are opened and closed

The entries of a record open or close resources. A resource is closed by its key, and
a key may be used again once it was closed. A resource may need another one, which is
then closed after it. In a balanced record every resource was closed exactly once or
is still outstanding.
-/
namespace Ledger
open List

universe u v w

/-- What an entry does to the resources. -/
inductive Change (ρ : Type v) (κ : Type w) where
  | opens (r : ρ)
  | closes (k : κ)
  | none

/-- How entries open and close resources. -/
structure Register (ε : Type u) (ρ : Type v) (κ : Type w) where
  change : ε → Change ρ κ
  key : ρ → κ
  needs : ρ → Option κ

namespace Register

section Needs

variable {ε : Type u} {ρ : Type v} {κ : Type w} {R : Register ε ρ κ} {m m' : List ρ}

/-- Every need of these resources is met by one of them. -/
def Anchored (R : Register ε ρ κ) (m : List ρ) : Prop :=
  ∀ x ∈ m, ∀ k, R.needs x = some k → ∃ y ∈ m, R.key y = k

lemma Anchored.append (h : R.Anchored m) (h' : R.Anchored m') : R.Anchored (m ++ m') := by
  intro x hx k hk
  rcases mem_append.1 hx with hx | hx
  · obtain ⟨y, hy, hkey⟩ := h x hx k hk
    exact ⟨y, mem_append_left _ hy, hkey⟩
  · obtain ⟨y, hy, hkey⟩ := h' x hx k hk
    exact ⟨y, mem_append_right _ hy, hkey⟩

lemma Anchored.cons {r : ρ} (h : R.Anchored m) (hr : R.needs r = none) : R.Anchored (r :: m) := by
  intro x hx k hk
  rcases mem_cons.1 hx with rfl | hx
  · simp [hr] at hk
  · obtain ⟨y, hy, hkey⟩ := h x hx k hk
    exact ⟨y, mem_cons_of_mem _ hy, hkey⟩

lemma anchored_nil : R.Anchored [] := by simp [Anchored]

end Needs

variable {ε : Type u} {ρ : Type v} {κ : Type w} [DecidableEq κ] (R : Register ε ρ κ)

def apply (s : List ρ) : Change ρ κ → List ρ
  | .opens r => r :: s
  | .closes k => s.filter (R.key · ≠ k)
  | .none => s

/-- What was opened and not closed since. -/
def outstanding (log : List ε) : List ρ := log.foldl (fun s e => R.apply s (R.change e)) []

/-- A new key, or a key that is outstanding and that nothing outstanding needs. -/
def Fits (s : List ρ) : Change ρ κ → Prop
  | .opens r => ∀ x ∈ s, R.key x ≠ R.key r
  | .closes k => (∃ x ∈ s, R.key x = k) ∧ ∀ x ∈ s, R.needs x ≠ some k
  | .none => True

def Balanced (log : List ε) : Prop :=
  Trace.Lawful (fun before e => R.Fits (R.outstanding before) (R.change e)) log

def opensKey (k : κ) (e : ε) : Bool :=
  match R.change e with
  | .opens r => R.key r = k
  | _ => false

def closesKey (k : κ) (e : ε) : Bool :=
  match R.change e with
  | .closes k' => k' = k
  | _ => false

variable {k : κ}

lemma closesKey_eq_true {e : ε} (h : R.closesKey k e = true) : R.change e = .closes k := by
  unfold closesKey at h
  split at h
  case h_1 k' hk => rw [hk, of_decide_eq_true h]
  case h_2 => cases h

/-- The entries before a key is used again. -/
def lifetime (k : κ) (after : List ε) : List ε := after.takeWhile (!R.opensKey k ·)

/-- A balanced record with the given resources outstanding. -/
structure Books (log : List ε) (m : List ρ) : Prop where
  balanced : R.Balanced log
  held : (R.outstanding log).Perm m
  distinct : (m.map R.key).Nodup

variable {R} {log : List ε} {m m' : List ρ} {e : ε} {r : ρ}

@[simp] lemma outstanding_snoc :
    R.outstanding (log ++ [e]) = R.apply (R.outstanding log) (R.change e) := by
  simp [outstanding]

namespace Books

lemma nil : R.Books [] [] := ⟨Trace.Lawful.nil, Perm.refl _, nodup_nil⟩

lemma perm (h : R.Books log m) (hm : m.Perm m') : R.Books log m' :=
  ⟨h.balanced, h.held.trans hm, (hm.map R.key).nodup_iff.1 h.distinct⟩

lemma none (h : R.Books log m) (he : R.change e = .none) : R.Books (log ++ [e]) m where
  balanced := h.balanced.snoc (by simp [he, Fits])
  held := by simpa [he, apply] using h.held
  distinct := h.distinct

lemma opens (h : R.Books log m) (he : R.change e = .opens r)
    (hnew : ∀ x ∈ R.outstanding log, R.key x ≠ R.key r) : R.Books (log ++ [e]) (r :: m) where
  balanced := h.balanced.snoc (by simpa [he, Fits] using hnew)
  held := by simpa [he, apply] using h.held
  distinct := by
    rw [map_cons, nodup_cons]
    refine ⟨?_, h.distinct⟩
    intro hmem
    obtain ⟨x, hx, hkey⟩ := mem_map.1 hmem
    exact hnew x (h.held.mem_iff.2 hx) hkey

lemma closes (h : R.Books log (r :: m)) (he : R.change e = .closes (R.key r))
    (hself : R.needs r ≠ some (R.key r)) (hneeds : ∀ x ∈ m, R.needs x ≠ some (R.key r)) :
    R.Books (log ++ [e]) m := by
  have hdistinct := h.distinct
  rw [map_cons, nodup_cons] at hdistinct
  refine ⟨h.balanced.snoc ?_, ?_, hdistinct.2⟩
  · rw [he]
    refine ⟨⟨r, h.held.mem_iff.2 mem_cons_self, rfl⟩, ?_⟩
    intro x hx
    rcases mem_cons.1 (h.held.mem_iff.1 hx) with rfl | hx
    · exact hself
    · exact hneeds x hx
  · have hkeep : m.filter (R.key · ≠ R.key r) = m := by
      rw [filter_eq_self]
      intro x hx
      have hne : R.key x ≠ R.key r := fun hkey =>
        hdistinct.1 (mem_map.2 ⟨x, hx, hkey⟩)
      simpa using hne
    have hfilter := h.held.filter (R.key · ≠ R.key r)
    rw [filter_cons_of_neg (by simp), hkeep] at hfilter
    simpa [he, apply] using hfilter

lemma free_of_anchored (h : R.Books log (r :: m)) (hm : R.Anchored m) :
    ∀ x ∈ m, R.needs x ≠ some (R.key r) := by
  have hdistinct := h.distinct
  rw [map_cons, nodup_cons] at hdistinct
  intro x hx hneeds
  obtain ⟨y, hy, hkey⟩ := hm x hx _ hneeds
  exact hdistinct.1 (mem_map.2 ⟨y, hy, hkey⟩)

end Books

/-- How a resource has fared in the entries after it was opened: it is outstanding, it was
closed, or it was closed and its key was used again. -/
inductive Fate (R : Register ε ρ κ) (log : List ε) (r : ρ) (after : List ε) : Prop
  | outstanding (hkey : R.lifetime (R.key r) after = after)
      (hcount : after.countP (R.closesKey (R.key r)) = 0) (hmem : r ∈ R.outstanding log)
  | closed (hkey : R.lifetime (R.key r) after = after)
      (hcount : after.countP (R.closesKey (R.key r)) = 1)
      (hmem : ∀ x ∈ R.outstanding log, R.key x ≠ R.key r)
  | reused (hkey : R.lifetime (R.key r) after ≠ after)
      (hcount : (R.lifetime (R.key r) after).countP (R.closesKey (R.key r)) = 1)

variable {after : List ε}

lemma lifetime_snoc_of_ne (h : R.lifetime k after ≠ after) :
    R.lifetime k (after ++ [e]) = R.lifetime k after ∧
      R.lifetime k (after ++ [e]) ≠ after ++ [e] := by
  have hpre : R.lifetime k after <+: after := takeWhile_prefix _
  have hshort : (R.lifetime k after).length ≠ after.length := fun heq =>
    h (hpre.eq_of_length heq)
  have hsame : R.lifetime k (after ++ [e]) = R.lifetime k after := by
    unfold lifetime at hshort ⊢
    rw [takeWhile_append, if_neg hshort]
  refine ⟨hsame, fun heq => ?_⟩
  have hlength := congrArg length (hsame.symm.trans heq)
  have hle := hpre.length_le
  rw [length_append, length_singleton] at hlength
  omega

lemma lifetime_snoc_of_eq (h : R.lifetime k after = after) :
    R.lifetime k (after ++ [e]) = if R.opensKey k e then after else after ++ [e] := by
  unfold lifetime at h ⊢
  rw [takeWhile_append, h, if_pos rfl]
  cases hopens : R.opensKey k e <;> simp [hopens]

lemma Balanced.of_append (h : R.Balanced (log ++ after)) : R.Balanced log := by
  intro pre x post hlog
  exact h pre x (post ++ after) (by simp [hlog])

lemma Fate.snoc (h : R.Fate log r after) (hfits : R.Fits (R.outstanding log) (R.change e)) :
    R.Fate (log ++ [e]) r (after ++ [e]) := by
  cases h with
  | outstanding hkey hcount hmem =>
    cases he : R.change e with
    | opens x =>
      rw [he] at hfits
      have hother : R.opensKey (R.key r) e = false := by
        simpa [opensKey, he, eq_comm] using hfits r hmem
      refine .outstanding (by simp [lifetime_snoc_of_eq hkey, hother]) ?_ ?_
      · simp [hcount, closesKey, he]
      · simp [he, apply, hmem]
    | closes k =>
      have hother : R.opensKey (R.key r) e = false := by simp [opensKey, he]
      have hspan : R.lifetime (R.key r) (after ++ [e]) = after ++ [e] := by
        simp [lifetime_snoc_of_eq hkey, hother]
      by_cases hk : k = R.key r
      · refine .closed hspan (by simp [hcount, closesKey, he, hk]) ?_
        intro x hx
        rw [outstanding_snoc, he, apply, hk] at hx
        simpa using (mem_filter.1 hx).2
      · refine .outstanding hspan (by simp [hcount, closesKey, he, hk]) ?_
        rw [outstanding_snoc, he, apply]
        exact mem_filter.2 ⟨hmem, by simpa using fun heq => hk heq.symm⟩
    | none =>
      have hother : R.opensKey (R.key r) e = false := by simp [opensKey, he]
      refine .outstanding (by simp [lifetime_snoc_of_eq hkey, hother]) ?_ ?_
      · simp [hcount, closesKey, he]
      · simpa [he, apply] using hmem
  | closed hkey hcount hmem =>
    cases he : R.change e with
    | opens x =>
      by_cases hx : R.key x = R.key r
      · have hagain : R.opensKey (R.key r) e = true := by simp [opensKey, he, hx]
        have hspan : R.lifetime (R.key r) (after ++ [e]) = after := by
          simp [lifetime_snoc_of_eq hkey, hagain]
        refine .reused (by simp [hspan]) ?_
        rw [hspan]
        exact hcount
      · have hother : R.opensKey (R.key r) e = false := by simp [opensKey, he, hx]
        refine .closed (by simp [lifetime_snoc_of_eq hkey, hother]) ?_ ?_
        · simp [hcount, closesKey, he]
        · intro y hy
          rw [outstanding_snoc, he, apply] at hy
          rcases mem_cons.1 hy with rfl | hy
          · exact hx
          · exact hmem y hy
    | closes k =>
      rw [he] at hfits
      obtain ⟨⟨x, hx, hxk⟩, -⟩ := hfits
      have hk : k ≠ R.key r := fun heq => hmem x hx (hxk.trans heq)
      have hother : R.opensKey (R.key r) e = false := by simp [opensKey, he]
      refine .closed (by simp [lifetime_snoc_of_eq hkey, hother]) ?_ ?_
      · simp [hcount, closesKey, he, hk]
      · intro y hy
        rw [outstanding_snoc, he, apply] at hy
        exact hmem y (mem_filter.1 hy).1
    | none =>
      have hother : R.opensKey (R.key r) e = false := by simp [opensKey, he]
      refine .closed (by simp [lifetime_snoc_of_eq hkey, hother]) ?_ ?_
      · simp [hcount, closesKey, he]
      · simpa [he, apply] using hmem
  | reused hkey hcount =>
    obtain ⟨hsame, hne⟩ := lifetime_snoc_of_ne (e := e) hkey
    exact .reused hne (by rw [hsame]; exact hcount)

/-- In a balanced record every resource that was opened has one of the three fates. -/
theorem Balanced.fate {before : List ε} (h : R.Balanced (before ++ e :: after))
    (he : R.change e = .opens r) : R.Fate (before ++ e :: after) r after := by
  induction after using reverseRecOn with
  | nil =>
    refine .outstanding rfl rfl ?_
    simp [he, apply]
  | append_singleton after x ih =>
    have hsplit : before ++ e :: (after ++ [x]) = (before ++ e :: after) ++ [x] := by simp
    rw [hsplit] at h ⊢
    exact (ih h.of_append).snoc (h _ x [] rfl)

/-- What a resource needs is closed after the resource itself. -/
theorem Balanced.closed_first {before mid post : List ε} {x : ε}
    (h : R.Balanced (before ++ e :: mid ++ x :: post)) (he : R.change e = .opens r)
    (hk : R.needs r = some k) (hx : R.change x = .closes k) :
    ∃ y ∈ mid, R.closesKey (R.key r) y = true := by
  have hfits : R.Fits (R.outstanding (before ++ e :: mid)) (R.change x) := h _ x post rfl
  rw [hx] at hfits
  cases h.of_append.fate he with
  | outstanding _ _ hmem => exact absurd hk (hfits.2 r hmem)
  | closed _ hcount _ =>
    rw [← countP_pos_iff, hcount]
    exact Nat.one_pos
  | reused _ hcount =>
    have hpos : 0 < (R.lifetime (R.key r) mid).countP (R.closesKey (R.key r)) := by omega
    obtain ⟨y, hy, hcloses⟩ := countP_pos_iff.1 hpos
    exact ⟨y, (List.takeWhile_prefix _).subset hy, hcloses⟩

end Register

end Ledger
