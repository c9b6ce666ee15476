import Mathlib.Tactic.Ring

/-!
# Fixed-width values shared by the modelled crates

Nonzero integers carry the proof that they are nonzero, so an identifier or a
timeline point can only be built through `new`, as in the source.
-/
namespace Pronk

structure NonZeroU32 where
  get : UInt32
  ne_zero : get ≠ 0
  deriving DecidableEq

structure NonZeroU64 where
  get : UInt64
  ne_zero : get ≠ 0
  deriving DecidableEq

namespace NonZeroU32

def new (v : UInt32) : Option NonZeroU32 := if h : v ≠ 0 then some ⟨v, h⟩ else none

/-- Literals. A multiple of the range would be zero, and is read as one. -/
instance (n : ℕ) : OfNat NonZeroU32 (n + 1) := ⟨(new (.ofNat (n + 1))).getD ⟨1, by decide⟩⟩

@[ext] lemma ext {a b : NonZeroU32} (h : a.get = b.get) : a = b := by
  cases a; cases b; simp_all

lemma new_eq_some {v : UInt32} {n : NonZeroU32} : new v = some n ↔ n.get = v := by
  unfold new
  split_ifs with h
  · simp only [Option.some.injEq]
    constructor
    · rintro rfl; rfl
    · intro hn; exact ext hn.symm
  · simp only [false_iff]
    rintro rfl
    exact h n.ne_zero

@[simp] lemma new_get (n : NonZeroU32) : new n.get = some n := new_eq_some.2 rfl

end NonZeroU32

namespace NonZeroU64

def new (v : UInt64) : Option NonZeroU64 := if h : v ≠ 0 then some ⟨v, h⟩ else none

/-- Literals. A multiple of the range would be zero, and is read as one. -/
instance (n : ℕ) : OfNat NonZeroU64 (n + 1) := ⟨(new (.ofNat (n + 1))).getD ⟨1, by decide⟩⟩

@[ext] lemma ext {a b : NonZeroU64} (h : a.get = b.get) : a = b := by
  cases a; cases b; simp_all

lemma new_eq_some {v : UInt64} {n : NonZeroU64} : new v = some n ↔ n.get = v := by
  unfold new
  split_ifs with h
  · simp only [Option.some.injEq]
    constructor
    · rintro rfl; rfl
    · intro hn; exact ext hn.symm
  · simp only [false_iff]
    rintro rfl
    exact h n.ne_zero

lemma new_eq_none {v : UInt64} : new v = none ↔ v = 0 := by
  unfold new
  split_ifs with h <;> simp_all

/-- `NonZeroU64::new(v).ok_or(e)`. -/
def newOr {ε : Type} (v : UInt64) (e : ε) : Except ε NonZeroU64 :=
  match new v with
  | some n => .ok n
  | none => .error e

lemma newOr_eq_ok {ε : Type} {v : UInt64} {e : ε} {n : NonZeroU64} :
    newOr v e = .ok n ↔ n.get = v := by
  rw [← new_eq_some]
  unfold newOr
  cases new v <;> simp

end NonZeroU64

/-- `{:?}` of an optional generation. -/
def generationText : Option NonZeroU64 → String
  | none => "None"
  | some generation => "Some(" ++ toString generation.get ++ ")"

/-- `u64::checked_add(1)`. -/
def checkedSucc (v : UInt64) : Option UInt64 := if v + 1 = 0 then none else some (v + 1)

lemma succ_eq_zero_iff (v : UInt64) : v + 1 = 0 ↔ v.toNat = 2 ^ 64 - 1 := by
  have hv := v.toNat_lt
  rw [← UInt64.toNat_inj]
  simp only [UInt64.toNat_add, UInt64.toNat_one, UInt64.toNat_zero]
  omega

lemma checkedSucc_eq_some {v v' : UInt64} :
    checkedSucc v = some v' ↔ v'.toNat = v.toNat + 1 := by
  have hv := v.toNat_lt
  have hv' := v'.toNat_lt
  unfold checkedSucc
  split_ifs with h <;> rw [succ_eq_zero_iff] at h
  · simp only [false_iff]
    omega
  · simp only [Option.some.injEq, ← UInt64.toNat_inj, UInt64.toNat_add, UInt64.toNat_one]
    omega

lemma checkedSucc_eq_none {v : UInt64} : checkedSucc v = none ↔ v.toNat = 2 ^ 64 - 1 := by
  rw [← succ_eq_zero_iff, checkedSucc]
  split_ifs with h <;> simp [h]

@[simp] lemma toNat_max (a b : UInt64) : (max a b).toNat = max a.toNat b.toNat := by
  rw [show max a b = if a ≤ b then b else a from rfl]
  split_ifs with h <;> rw [UInt64.le_iff_toNat_le] at h <;> omega

/-- `u32::saturating_sub`. -/
def saturatingSub (a b : UInt32) : UInt32 := if b ≤ a then a - b else 0

/-- The Linux error numbers that the modelled code tells apart. -/
inductive Errno where
  | ENOENT
  | EAGAIN
  | EBUSY
  | ENOLINK
  | ENOTCONN
  | ESTALE
  | other (code : Int32)
  deriving DecidableEq

namespace Errno

/-- `errno as i32` on Linux. -/
def code : Errno → Int32
  | ENOENT => 2
  | EAGAIN => 11
  | EBUSY => 16
  | ENOLINK => 67
  | ENOTCONN => 107
  | ESTALE => 116
  | other code => code

end Errno

end Pronk
