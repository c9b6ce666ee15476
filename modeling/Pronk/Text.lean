import Mathlib.Tactic.Common

/-!
# Characters and texts

The classes of characters that the modelled crates test, the trimming of a text and its
bytes.
-/
namespace Pronk

/-- `char::is_control`: the Unicode category Cc. -/
def isControl (c : Char) : Bool := c.val ≤ 0x1f || (0x7f ≤ c.val && c.val ≤ 0x9f)

/-- `char::is_whitespace`: the Unicode property White_Space. -/
def isWhitespace (c : Char) : Bool :=
  (0x09 ≤ c.val && c.val ≤ 0x0d) || c.val = 0x20 || c.val = 0x85 || c.val = 0xa0 ||
  c.val = 0x1680 || (0x2000 ≤ c.val && c.val ≤ 0x200a) || c.val = 0x2028 || c.val = 0x2029 ||
  c.val = 0x202f || c.val = 0x205f || c.val = 0x3000

/-- `str::trim`. -/
def trim (chars : List Char) : List Char :=
  ((chars.dropWhile isWhitespace).reverse.dropWhile isWhitespace).reverse

lemma trim_subset (chars : List Char) : trim chars ⊆ chars := by
  intro c hc
  have hdropped := (List.dropWhile_sublist isWhitespace).mem (List.mem_reverse.1 hc)
  exact (List.dropWhile_sublist isWhitespace).mem (List.mem_reverse.1 hdropped)

/-- `str::as_bytes`. -/
def utf8 (chars : List Char) : List UInt8 := chars.flatMap String.utf8EncodeChar

/-- The text of bytes that are all ASCII. -/
def ofAscii (bytes : List UInt8) : List Char := bytes.map fun b => Char.ofNat b.toNat

lemma encode_of_ascii {c : Char} (h : ∀ b ∈ String.utf8EncodeChar c, b.toNat ≤ 0x7e) :
    String.utf8EncodeChar c = [c.val.toUInt8] ∧ c.val.toNat ≤ 0x7f := by
  unfold String.utf8EncodeChar at h ⊢
  dsimp only at h ⊢
  split_ifs at h ⊢ with h1 h2 h3
  · exact ⟨rfl, h1⟩
  all_goals
    have hfirst := h _ (List.mem_cons_self ..)
    rw [UInt8.toNat_ofNat'] at hfirst
    omega

lemma ofAscii_utf8 {chars : List Char} (h : ∀ b ∈ utf8 chars, b.toNat ≤ 0x7e) :
    ofAscii (utf8 chars) = chars := by
  induction chars with
  | nil => rfl
  | cons c rest ih =>
    rw [utf8, List.flatMap_cons] at h ⊢
    obtain ⟨hc, hrest⟩ := List.forall_mem_append.1 h
    obtain ⟨hencode, hsmall⟩ := encode_of_ascii hc
    rw [hencode, ofAscii, List.singleton_append, List.map_cons]
    congr 1
    · have hval : c.val.toUInt8.toNat = c.toNat := by
        rw [UInt32.toNat_toUInt8]
        exact Nat.mod_eq_of_lt (by omega)
      rw [hval, Char.ofNat_toNat]
    · exact ih hrest

end Pronk
