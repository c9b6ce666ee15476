import Mathlib.Tactic.Ring

/-!
# Byte strings

Fixed-width numbers as the machine stores them, the fields of a byte string, writes that
must stay inside a block, and the checksum that makes a block sum to zero.
-/
namespace Bytes
open List

/-- By going through the bytes, not through all values of a byte. -/
instance (priority := high) decidableForallMem {p : UInt8 → Prop} [DecidablePred p]
    (bytes : List UInt8) : Decidable (∀ b ∈ bytes, p b) :=
  decidableBAll p bytes

/-! ## Numbers -/

inductive ByteOrder where
  | little
  | big

/-- The number whose bytes are given from the least significant one on. -/
def ofLittle : List UInt8 → ℕ
  | [] => 0
  | b :: rest => b.toNat + 256 * ofLittle rest

/-- The low `width` bytes of a number, the least significant one first. -/
def toLittle : ℕ → ℕ → List UInt8
  | 0, _ => []
  | width + 1, n => .ofNat n :: toLittle width (n / 256)

lemma ofLittle_zeros (count : ℕ) : ofLittle (replicate count 0) = 0 := by
  induction count with
  | zero => rfl
  | succ count ih =>
    rw [replicate_succ, ofLittle, ih]
    rfl

def ByteOrder.decode : ByteOrder → List UInt8 → ℕ
  | .little, bytes => ofLittle bytes
  | .big, bytes => ofLittle bytes.reverse

@[simp] lemma length_toLittle (width n : ℕ) : (toLittle width n).length = width := by
  induction width generalizing n with
  | zero => rfl
  | succ width ih => rw [toLittle, length_cons, ih]

variable {width : ℕ}

lemma ofLittle_toLittle {n : ℕ} (h : n < 256 ^ width) :
    ofLittle (toLittle width n) = n := by
  induction width generalizing n with
  | zero =>
    rw [Nat.pow_zero] at h
    rw [toLittle, ofLittle]
    omega
  | succ width ih =>
    have hdiv : n / 256 < 256 ^ width := by
      apply Nat.div_lt_of_lt_mul
      rwa [Nat.pow_succ, Nat.mul_comm] at h
    rw [toLittle, ofLittle, ih hdiv, UInt8.toNat_ofNat']
    omega

lemma ofLittle_lt (bytes : List UInt8) : ofLittle bytes < 256 ^ bytes.length := by
  induction bytes with
  | nil => decide
  | cons b rest ih =>
    have hb := b.toNat_lt
    rw [ofLittle, length_cons, Nat.pow_succ]
    omega

lemma toLittle_ofLittle (bytes : List UInt8) : toLittle bytes.length (ofLittle bytes) = bytes := by
  induction bytes with
  | nil => rfl
  | cons b rest ih =>
    have hb := b.toNat_lt
    have hdiv : (b.toNat + 256 * ofLittle rest) / 256 = ofLittle rest := by omega
    have hlow : UInt8.ofNat (b.toNat + 256 * ofLittle rest) = b := by
      apply UInt8.toNat_inj.1
      rw [UInt8.toNat_ofNat']
      omega
    rw [length_cons, toLittle, ofLittle, hdiv, ih, hlow]

/-! ## Fields -/

/-- The field of `width` bytes at `offset`. -/
def slice (bytes : List UInt8) (offset width : ℕ) : List UInt8 := (bytes.drop offset).take width

variable {bytes : List UInt8} {offset : ℕ}

lemma length_slice (h : offset + width ≤ bytes.length) :
    (slice bytes offset width).length = width := by
  rw [slice, length_take, length_drop]
  omega

lemma slice_take {n : ℕ} (h : offset + width ≤ n) :
    slice (bytes.take n) offset width = slice bytes offset width := by
  rw [slice, slice, drop_take, take_take, Nat.min_eq_left (by omega)]

lemma slice_append (more : List UInt8) (h : offset + width ≤ bytes.length) :
    slice (bytes ++ more) offset width = slice bytes offset width := by
  rw [← slice_take h, take_left' rfl]

lemma slice_append_right {before : List UInt8} (bytes : List UInt8) (h : before.length ≤ offset) :
    slice (before ++ bytes) offset width = slice bytes (offset - before.length) width := by
  rw [slice, slice, drop_append, drop_of_length_le h, nil_append]

variable {field : List UInt8}

lemma slice_zero (after : List UInt8) (h : field.length = width) :
    slice (field ++ after) 0 width = field := by
  rw [slice, drop_zero, ← h, take_left]

/-- A field can be read at the length of what stands before it. -/
theorem slice_at {before field : List UInt8} {offset width : ℕ} (after : List UInt8)
    (hoffset : before.length = offset) (hwidth : field.length = width) :
    slice (before ++ (field ++ after)) offset width = field := by
  rw [slice_append_right _ (Nat.le_of_eq hoffset), hoffset, Nat.sub_self, slice_zero after hwidth]

variable {b : UInt8}

lemma getD_of_slice (h : slice bytes offset 1 = [b]) :
    bytes.getD offset 0 = b := by
  rw [slice, take_one, head?_drop] at h
  rw [getD_eq_getElem?_getD]
  match hget : bytes[offset]? with
  | none => simp [hget] at h
  | some b' => simpa [hget] using h

lemma getD_slice {i : ℕ} (h : i < width) :
    (slice bytes offset width).getD i 0 = bytes.getD (offset + i) 0 := by
  rw [slice, getD_eq_getElem?_getD, getD_eq_getElem?_getD, getElem?_take_of_lt h,
    getElem?_drop]

lemma length_flatten_of_forall (size : ℕ) {blocks : List (List UInt8)}
    (h : ∀ block ∈ blocks, block.length = size) : blocks.flatten.length = blocks.length * size := by
  induction blocks with
  | nil => simp
  | cons block rest ih =>
    obtain ⟨hblock, hrest⟩ := forall_mem_cons.1 h
    rw [flatten_cons, length_append, ih hrest, hblock, length_cons, Nat.succ_mul,
      Nat.add_comm]

/-- Pieces of `size` bytes; what is left at the end is dropped. -/
def chunks (size : ℕ) (bytes : List UInt8) : List (List UInt8) :=
  (range (bytes.length / size)).map fun i => slice bytes (i * size) size

variable {size : ℕ}

lemma chunks_append {block : List UInt8} (rest : List UInt8) (hsize : 0 < size)
    (h : block.length = size) : chunks size (block ++ rest) = block :: chunks size rest := by
  have hcount : (block ++ rest).length / size = rest.length / size + 1 := by
    rw [length_append, h, Nat.add_div_left _ hsize]
  have hnext : ∀ i, slice (block ++ rest) ((i + 1) * size) size = slice rest (i * size) size := by
    intro i
    have hle : block.length ≤ (i + 1) * size := by
      rw [h]
      exact Nat.le_mul_of_pos_left _ (Nat.succ_pos i)
    rw [slice_append_right _ hle, h, Nat.succ_mul, Nat.add_sub_cancel]
  rw [chunks, hcount, range_succ_eq_map, map_cons, map_map, Nat.zero_mul,
    slice_zero rest h]
  congr 1
  apply map_congr_left
  intro i _
  exact hnext i

lemma chunks_nil (size : ℕ) : chunks size [] = [] := by
  simp [chunks]

lemma chunks_flatten {blocks : List (List UInt8)} (hsize : 0 < size)
    (h : ∀ block ∈ blocks, block.length = size) : chunks size blocks.flatten = blocks := by
  induction blocks with
  | nil => exact chunks_nil size
  | cons block rest ih =>
    obtain ⟨hblock, hrest⟩ := forall_mem_cons.1 h
    rw [flatten_cons, chunks_append _ hsize hblock, ih hrest]

lemma mem_chunks_zeros {count : ℕ} {chunk : List UInt8}
    (h : chunk ∈ chunks size (replicate count 0)) : ∃ n, chunk = replicate n 0 := by
  obtain ⟨i, -, rfl⟩ := mem_map.1 h
  exact ⟨_, by rw [slice, drop_replicate, take_replicate]⟩

/-! ## Writes -/

/-- The block with a field overwritten, if the field lies inside it. -/
def write (block : List UInt8) (offset : ℕ) (field : List UInt8) : Option (List UInt8) :=
  if offset + field.length ≤ block.length then
    some (block.take offset ++ field ++ block.drop (offset + field.length))
  else none

lemma write_byte {block : List UInt8} (h : offset < block.length) :
    write block offset [b] = some (block.set offset b) := by
  have hfits : offset + [b].length ≤ block.length := h
  rw [write, if_pos hfits, set_eq_take_append_cons_drop, if_pos h, append_assoc,
    singleton_append]
  rfl

/-- A block of which only a first part has been written. -/
def padded (size : ℕ) (written : List UInt8) : List UInt8 :=
  written ++ replicate (size - written.length) 0

variable {written : List UInt8}

lemma length_padded (h : written.length ≤ size) :
    (padded size written).length = size := by
  rw [padded, length_append, length_replicate]
  omega

lemma slice_padded (h : offset + width ≤ written.length) :
    slice (padded size written) offset width = slice written offset width :=
  slice_append _ h

lemma padded_nil (size : ℕ) : padded size [] = replicate size 0 := rfl

/-- The next field goes where the written part ends. -/
theorem write_padded (hoffset : offset = written.length) (h : offset + field.length ≤ size) :
    write (padded size written) offset field = some (padded size (written ++ field)) := by
  subst hoffset
  have hfits : written.length + field.length ≤ (padded size written).length := by
    rw [length_padded (by omega)]
    exact h
  have hdrop : (padded size written).drop (written.length + field.length) =
      replicate (size - (written ++ field).length) 0 := by
    rw [padded, drop_append, drop_of_length_le (by omega), nil_append,
      drop_replicate, length_append]
    congr 1
    omega
  rw [write, if_pos hfits, hdrop, padded, take_left, padded]

/-- Bytes that are skipped stay zero. -/
theorem padded_skip (count : ℕ) (h : written.length + count ≤ size) :
    padded size written = padded size (written ++ replicate count 0) := by
  rw [padded, padded, append_assoc, replicate_append_replicate, length_append,
    length_replicate]
  congr 2
  omega

/-! ## Bits -/

lemma testBit_setBit {bit i : ℕ} (h : bit < 8) :
    (b ||| 1 <<< UInt8.ofNat bit).toNat.testBit i = (b.toNat.testBit i || decide (bit = i)) := by
  have hpow : ((1 : UInt8) <<< UInt8.ofNat bit).toNat = 2 ^ bit := by
    revert bit
    decide
  rw [UInt8.toNat_or, Nat.testBit_or, hpow, Nat.testBit_two_pow]

/-! ## Checksums -/

/-- The sum of the bytes modulo 256. -/
def total (bytes : List UInt8) : UInt8 := bytes.foldl (· + ·) 0

def checksum (bytes : List UInt8) : UInt8 := 0 - total bytes

lemma total_checksum (bytes : List UInt8) : total (bytes ++ [checksum bytes]) = 0 := by
  rw [total, foldl_append, checksum]
  change total bytes + (0 - total bytes) = 0
  rw [UInt8.zero_sub, UInt8.add_right_neg]

end Bytes
