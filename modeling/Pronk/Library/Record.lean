import Pronk.Library.Bytes

/-!
# Records of fixed-width fields

A record is its fields one after the other. A byte string of the right length is a given
record exactly if each of the fields stands at its offset.
-/
namespace Bytes
open List

/-- The fields of these widths, from `offset` on. -/
def fieldsAt (bytes : List UInt8) : ℕ → List ℕ → List (List UInt8)
  | _, [] => []
  | offset, width :: rest => slice bytes offset width :: fieldsAt bytes (offset + width) rest

variable {bytes : List UInt8} {offset : ℕ}

lemma fieldsAt_append_widths {first second : List ℕ} :
    fieldsAt bytes offset (first ++ second) =
      fieldsAt bytes offset first ++ fieldsAt bytes (offset + first.sum) second := by
  induction first generalizing offset with
  | nil => rfl
  | cons width rest ih =>
    rw [cons_append, fieldsAt, ih, fieldsAt, sum_cons, cons_append, Nat.add_assoc]

@[simp] lemma length_fieldsAt (bytes : List UInt8) (offset : ℕ) (widths : List ℕ) :
    (fieldsAt bytes offset widths).length = widths.length := by
  induction widths generalizing offset with
  | nil => rfl
  | cons width rest ih => rw [fieldsAt, length_cons, ih, length_cons]

lemma drop_eq_slice_append (bytes : List UInt8) (offset width : ℕ) :
    bytes.drop offset = slice bytes offset width ++ bytes.drop (offset + width) := by
  rw [slice, ← drop_drop, take_append_drop]

lemma flatten_fieldsAt {widths : List ℕ} (h : bytes.length = offset + widths.sum) :
    (fieldsAt bytes offset widths).flatten = bytes.drop offset := by
  induction widths generalizing offset with
  | nil =>
    rw [sum_nil] at h
    rw [fieldsAt, flatten_nil, drop_of_length_le (by omega)]
  | cons width rest ih =>
    rw [sum_cons] at h
    rw [fieldsAt, flatten_cons, ih (by omega), ← drop_eq_slice_append]

lemma fieldsAt_append (before after : List UInt8) (fields : List (List UInt8)) :
    fieldsAt (before ++ (fields.flatten ++ after)) before.length (fields.map length) =
      fields := by
  induction fields generalizing before with
  | nil => rfl
  | cons field rest ih =>
    have hrest := ih (before ++ field)
    rw [length_append, append_assoc] at hrest
    rw [map_cons, fieldsAt, flatten_cons, append_assoc, slice_at _ rfl rfl, hrest]

/-- A byte string is a record exactly if it has its length and its fields. -/
theorem eq_flatten_iff {fields : List (List UInt8)} {widths : List ℕ}
    (hwidths : fields.map length = widths) :
    bytes = fields.flatten ↔ bytes.length = widths.sum ∧ fieldsAt bytes 0 widths = fields := by
  subst hwidths
  constructor
  · rintro rfl
    refine ⟨length_flatten, ?_⟩
    simpa using fieldsAt_append [] [] fields
  · rintro ⟨hlength, hfields⟩
    rw [← hfields, flatten_fieldsAt (by omega), drop_zero]

variable {width : ℕ}

lemma slice_eq_toLittle_iff {n : ℕ} (h : offset + width ≤ bytes.length) (hn : n < 256 ^ width) :
    slice bytes offset width = toLittle width n ↔ ofLittle (slice bytes offset width) = n := by
  constructor
  · intro heq
    rw [heq, ofLittle_toLittle hn]
  · intro heq
    rw [← heq]
    have := toLittle_ofLittle (slice bytes offset width)
    rw [length_slice h] at this
    exact this.symm

lemma ofLittle_slice_lt (h : offset + width ≤ bytes.length) :
    ofLittle (slice bytes offset width) < 256 ^ width := by
  have hlt := ofLittle_lt (slice bytes offset width)
  rwa [length_slice h] at hlt

lemma slice_eq_zeros_iff (h : offset + width ≤ bytes.length) :
    slice bytes offset width = replicate width 0 ↔ ∀ b ∈ slice bytes offset width, b = 0 := by
  rw [eq_replicate_iff, and_iff_right (length_slice h)]

lemma slice_succ (h : offset < bytes.length) :
    slice bytes offset (width + 1) = bytes.get ⟨offset, h⟩ :: slice bytes (offset + 1) width := by
  rw [slice, drop_eq_getElem_cons h, take_succ_cons, slice, get_eq_getElem]

lemma ofLittle_append (low high : List UInt8) :
    ofLittle (low ++ high) = ofLittle low + 256 ^ low.length * ofLittle high := by
  induction low with
  | nil => simp [ofLittle]
  | cons b rest ih =>
    rw [cons_append, ofLittle, ih, ofLittle, length_cons, Nat.pow_succ]
    ring

lemma slice_add (bytes : List UInt8) (offset low high : ℕ) :
    slice bytes offset (low + high) =
      slice bytes offset low ++ slice bytes (offset + low) high := by
  rw [slice, take_add, drop_drop, slice, slice]

lemma toLittle_add (low high n : ℕ) :
    toLittle (low + high) n = toLittle low n ++ toLittle high (n / 256 ^ low) := by
  induction low generalizing n with
  | zero => rw [Nat.zero_add, Nat.pow_zero, Nat.div_one, toLittle, nil_append]
  | succ low ih =>
    rw [Nat.succ_add, toLittle, ih, toLittle, cons_append, Nat.div_div_eq_div_mul,
      Nat.pow_succ, Nat.mul_comm 256]

/-- Only the low part of a number is stored. -/
theorem toLittle_mod (width n : ℕ) : toLittle width (n % 256 ^ width) = toLittle width n := by
  induction width generalizing n with
  | zero => rfl
  | succ width ih =>
    have hlow : UInt8.ofNat (n % (256 * 256 ^ width)) = UInt8.ofNat n := by
      rw [← UInt8.toNat_inj, UInt8.toNat_ofNat', UInt8.toNat_ofNat']
      exact Nat.mod_mul_right_mod n 256 _
    rw [Nat.pow_succ', toLittle, hlow, Nat.mod_mul_right_div_self, ih, toLittle]

/-- The high part of a number is put beside its low part. -/
theorem or_shiftLeft {low high : ℕ} (h : low < 2 ^ width) :
    low ||| high <<< width = low + 2 ^ width * high := by
  rw [Nat.or_comm, ← Nat.shiftLeft_add_eq_or_of_lt h, Nat.shiftLeft_eq, Nat.mul_comm, Nat.add_comm]

/-- Two fields that follow each other are written like one. -/
theorem write_write {block first second : List UInt8} {next : ℕ}
    (hnext : next = offset + first.length) :
    (write block offset first).bind (write · next second) =
      write block offset (first ++ second) := by
  subst hnext
  by_cases hfirst : offset + first.length ≤ block.length
  · have hwritten : (block.take offset ++ first).length = offset + first.length := by
      rw [length_append, length_take]
      omega
    have hlength : (block.take offset ++ first ++ block.drop (offset + first.length)).length =
        block.length := by
      rw [length_append, hwritten, length_drop]
      omega
    rw [write, if_pos hfirst, Option.bind_some, write, write, hlength, length_append,
      ← Nat.add_assoc]
    congr 1
    rw [take_left' hwritten, drop_append, hwritten, drop_of_length_le (by omega),
      nil_append, Nat.add_sub_cancel_left, drop_drop, append_assoc _ first]
  · rw [write, if_neg hfirst, write, length_append, if_neg (by omega), Option.bind_none]

end Bytes
