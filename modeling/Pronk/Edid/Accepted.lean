import Pronk.Edid.Layout
import Mathlib.Data.List.Nodup
import Mathlib.Data.List.Perm.Subperm

/-!
# Accepted requests

What validation establishes about the modes and the name of a request. From it follows that
the blocks have room for everything that is written to them.
-/
namespace Pronk.Edid
open Bytes Fallible List

/-! ## Modes -/

structure SoundModes (modes : List EdidMode) : Prop where
  supported : ∀ mode ∈ modes, (timingFor mode).isSome
  nodup : modes.Nodup
  nonempty : modes ≠ []

variable {modes : List EdidMode}

lemma validateEachMode_eq_ok {unique : List EdidMode} (h : validateEachMode unique modes = .ok ()) :
    (∀ mode ∈ modes, (timingFor mode).isSome) ∧ modes.Nodup ∧ ∀ mode ∈ modes, mode ∉ unique := by
  fun_induction validateEachMode unique modes <;>
    grind [Option.isNone_iff_eq_none, Option.isSome_iff_ne_none]

lemma soundModes_of_validateModes (h : validateModes modes = .ok ()) :
    SoundModes modes := by
  unfold validateModes at h
  by_cases hempty : modes = []
  · simp [hempty] at h
  by_cases hcount : modes.length > MAX_EDID_MODES
  · simp [hempty, hcount] at h
  rw [if_neg hempty, if_neg hcount] at h
  obtain ⟨heach, -⟩ := seq_eq_ok.1 h
  obtain ⟨hsupported, hnodup, -⟩ := validateEachMode_eq_ok heach
  exact ⟨hsupported, hnodup, hempty⟩

/-- No two modes share a video identification code, and there are five codes. -/
lemma length_videoCodes (h : SoundModes modes) :
    (modes.filterMap videoIdentificationCode).length ≤ 5 := by
  have hinj : ∀ p ∈ videoCodes, ∀ q ∈ videoCodes, p.2 = q.2 → p.1 = q.1 := by decide
  have hnodup : (modes.filterMap videoIdentificationCode).Nodup := by
    refine Nodup.filterMap (fun mode mode' code hcode hcode' => ?_) h.nodup
    exact hinj (mode, code) (mem_of_lookup hcode) (mode', code) (mem_of_lookup hcode') rfl
  have hsubset : modes.filterMap videoIdentificationCode ⊆ videoCodes.map Prod.snd := by
    intro code hcode
    obtain ⟨mode, -, hmode⟩ := mem_filterMap.1 hcode
    exact mem_map.2 ⟨(mode, code), mem_of_lookup hmode, rfl⟩
  exact (hnodup.subperm hsubset).length_le

/-! ## Detailed timings of the base block -/

lemma fillSelected_spec (selected modes : List EdidMode) :
    selected <+: fillSelected selected modes ∧
      fillSelected selected modes ⊆ selected ++ modes ∧
      (selected.length ≤ BASE_DETAILED_TIMING_SLOTS →
        (fillSelected selected modes).length ≤ BASE_DETAILED_TIMING_SLOTS) := by
  induction modes generalizing selected with
  | nil => simp [fillSelected]
  | cons mode rest ih =>
    rw [fillSelected]
    by_cases hfull : selected.length = BASE_DETAILED_TIMING_SLOTS
    · rw [if_pos hfull]
      exact ⟨prefix_refl _, subset_append_left _ _, id⟩
    · rw [if_neg hfull]
      by_cases hmem : mode ∈ selected
      · rw [if_pos hmem]
        obtain ⟨hstarts, hsubset, hlength⟩ := ih selected
        refine ⟨hstarts, fun m hm => ?_, hlength⟩
        obtain hm | hm := mem_append.1 (hsubset hm)
        · exact mem_append_left _ hm
        · exact mem_append_right _ (mem_cons_of_mem _ hm)
      · rw [if_neg hmem]
        obtain ⟨hstarts, hsubset, hlength⟩ := ih (selected ++ [mode])
        refine ⟨(prefix_append ..).trans hstarts, fun m hm => ?_, fun hle => ?_⟩
        · simpa using hsubset hm
        · apply hlength
          rw [length_append, length_singleton]
          omega

/-- The modes of the base descriptors. -/
structure Selection (first : EdidMode) (rest detailed : List EdidMode) : Prop where
  starts : first :: (rest.filter needsDetailedTiming).take 3 <+: detailed
  subset : detailed ⊆ first :: rest
  length_le : detailed.length ≤ 4

lemma selectBaseDetailedModes_eq (first : EdidMode) (rest : List EdidMode) :
    ∃ detailed, selectBaseDetailedModes (first :: rest) = some detailed ∧
      Selection first rest detailed := by
  obtain ⟨hstarts, hsubset, hlength⟩ := fillSelected_spec
    (first :: (rest.filter needsDetailedTiming).take (BASE_DETAILED_TIMING_SLOTS - 1))
    (first :: rest)
  refine ⟨_, rfl, hstarts, fun mode hmode => ?_, hlength ?_⟩
  · obtain hm | hm := mem_append.1 (hsubset hmode)
    · obtain rfl | hm := mem_cons.1 hm
      · exact mem_cons_self ..
      · exact mem_cons_of_mem _ (mem_filter.1 (mem_of_mem_take hm)).1
    · exact hm
  · rw [length_cons, length_take, BASE_DETAILED_TIMING_SLOTS]
    omega

/-- The bytes of the descriptor at an index. -/
def descriptorAt (detailed : List EdidMode) (index : ℕ) : List UInt8 :=
  (baseDescriptor detailed index).getD []

variable {detailed : List EdidMode}

lemma baseDescriptor_eq (h : ∀ mode ∈ detailed, (timingFor mode).isSome) (index : ℕ) :
    baseDescriptor detailed index = some (descriptorAt detailed index) ∧
      (descriptorAt detailed index).length = 18 := by
  unfold descriptorAt baseDescriptor
  match hmode : detailed[index]? with
  | none => exact ⟨rfl, rfl⟩
  | some mode =>
    obtain ⟨timing, htiming⟩ := Option.isSome_iff_exists.1 (h mode (mem_of_getElem? hmode))
    simp [htiming]

lemma mapM_baseDescriptor (h : ∀ mode ∈ detailed, (timingFor mode).isSome) :
    (range 4).mapM (baseDescriptor detailed) =
      some ((range 4).map (descriptorAt detailed)) := by
  have heq : baseDescriptor detailed = fun index => some (descriptorAt detailed index) :=
    funext fun index => (baseDescriptor_eq h index).1
  rw [heq]
  rfl

lemma length_descriptors (h : ∀ mode ∈ detailed, (timingFor mode).isSome) :
    ((range 4).map (descriptorAt detailed)).flatten.length = 72 := by
  apply length_flatten_of_forall 18
  intro block hblock
  obtain ⟨index, -, rfl⟩ := mem_map.1 hblock
  exact (baseDescriptor_eq h index).2

/-! ## Established timings -/

lemma establishedTimingBit_bounds {mode : EdidMode} {byte bit : ℕ}
    (h : establishedTimingBit mode = some (byte, bit)) : byte < 3 ∧ bit < 8 := by
  have hall : ∀ p ∈ establishedBits, p.2.1 < 3 ∧ p.2.2 < 8 := by decide
  exact hall _ (mem_of_lookup h)

lemma writeEstablishedTimings_eq {bytes : List UInt8} (modes : List EdidMode)
    (h : bytes.length = 3) :
    ∃ result, writeEstablishedTimings bytes modes = some result ∧ result.length = 3 ∧
      ∀ byte bit, (result.getD byte 0).toNat.testBit bit = true ↔
        (bytes.getD byte 0).toNat.testBit bit = true ∨
          ∃ mode ∈ modes, establishedTimingBit mode = some (byte, bit) := by
  induction modes generalizing bytes with
  | nil => exact ⟨bytes, rfl, h, by simp⟩
  | cons mode rest ih =>
    rw [writeEstablishedTimings]
    match hmode : establishedTimingBit mode with
    | none =>
      obtain ⟨result, heq, hlength, hbits⟩ := ih h
      exact ⟨result, heq, hlength, by simpa [hmode] using hbits⟩
    | some (byte, bit) =>
      obtain ⟨hbyte, hbit⟩ := establishedTimingBit_bounds hmode
      have hindex : byte < bytes.length := by omega
      obtain ⟨result, heq, hlength, hbits⟩ :=
        @ih (bytes.set byte (bytes[byte] ||| 1 <<< UInt8.ofNat bit)) (by simpa using h)
      refine ⟨result, ?_, hlength, fun byte' bit' => ?_⟩
      · simp only [getElem?_eq_getElem hindex, Option.bind_eq_bind, Option.bind_some,
          write_byte hindex, heq]
      · rw [hbits]
        by_cases hsame : byte = byte'
        · subst hsame
          have hread : (bytes.set byte (bytes[byte] ||| 1 <<< UInt8.ofNat bit)).getD byte 0 =
              bytes[byte] ||| 1 <<< UInt8.ofNat bit := by
            simp [hindex]
          have hold : bytes.getD byte 0 = bytes[byte] := by simp [hindex]
          rw [hread, hold, testBit_setBit hbit]
          simp [hmode, or_assoc]
        · have hread : (bytes.set byte (bytes[byte] ||| 1 <<< UInt8.ofNat bit)).getD byte' 0 =
              bytes.getD byte' 0 := by
            simp [getD_eq_getElem?_getD, getElem?_set_ne hsame]
          rw [hread]
          simp [hmode, hsame]

/-! ## Standard timings -/

lemma length_standardTiming {mode : EdidMode} {code : List UInt8}
    (h : standardTiming mode = some code) : code.length = 2 := by
  unfold standardTiming at h
  dsimp only at h
  split_ifs at h
  obtain ⟨aspect, -, rfl⟩ := Option.map_eq_some_iff.1 h
  rfl

lemma length_standardSlots (values : List (List UInt8)) : (standardSlots values).length = 8 := by
  rw [standardSlots, length_append, length_take, length_drop, length_replicate]
  omega

lemma length_slot {slot : List UInt8} (h : slot ∈ standardSlots (standardTimings modes detailed)) :
    slot.length = 2 := by
  obtain h | h := mem_append.1 h
  · obtain ⟨mode, -, hmode⟩ := mem_filterMap.1 (mem_of_mem_take h)
    exact length_standardTiming hmode
  · rw [eq_of_mem_replicate (mem_of_mem_drop h)]
    rfl

lemma length_slots (modes detailed : List EdidMode) :
    (standardSlots (standardTimings modes detailed)).flatten.length = 16 := by
  rw [length_flatten_of_forall 2 fun slot => length_slot, length_standardSlots]

/-! ## The display name -/

/-- The name that the DisplayID product block carries. -/
def trimmedName (name : Option String) : List Char := trim (name.getD "").toList

lemma validateProductName_eq_ok {value : Option String} {name : Option (List Char)}
    (h : validateProductName value = .ok name) :
    name.getD [] = trimmedName value ∧
      (utf8 (trimmedName value)).length ≤ EDID_PRODUCT_NAME_MAX_BYTES ∧
      ∀ b ∈ utf8 (trimmedName value), b.toNat ≤ 0x7e := by
  unfold validateProductName at h
  cases value with
  | none =>
    cases h
    exact ⟨rfl, by decide, by simp [trimmedName, trim, utf8]⟩
  | some value =>
    dsimp only at h
    have hname : trimmedName (some value) = trim value.toList := rfl
    rw [hname]
    split_ifs at h with hempty hlong hprint
    · cases h
      rw [hempty]
      exact ⟨rfl, by decide, by simp [utf8]⟩
    · cases h
      refine ⟨rfl, Nat.not_lt.1 hlong, ?_⟩
      intro b hb
      simp only [all_eq_true, decide_eq_true_eq] at hprint
      exact UInt8.le_iff_toNat_le.1 (hprint b hb).2

lemma validateRequest_eq_ok {request : CastDisplayEdidRequest} {names : ValidatedNames}
    (h : validateRequest request = .ok names) :
    SoundModes request.modes ∧ validateProductName request.displayName = .ok names.displayName := by
  grind [validateRequest, seq_eq_ok, bind_eq_ok, soundModes_of_validateModes]

lemma validateRequest_ne_framing (request : CastDisplayEdidRequest) (error : EdidError) :
    validateRequest request ≠ .error (.Framing error) := by
  have hid (field value : String) (maximum : ℕ) :
      validateStableId field value maximum ≠ .error (.Framing error) := by
    unfold validateStableId
    split_ifs <;> simp
  have hmanufacturer (value : Option String) :
      validateManufacturerName value ≠ .error (.Framing error) := by
    unfold validateManufacturerName
    cases value with
    | none => simp
    | some value =>
      dsimp only
      split_ifs <;> simp
  have hproduct (value : Option String) :
      validateProductName value ≠ .error (.Framing error) := by
    unfold validateProductName
    cases value with
    | none => simp
    | some value =>
      dsimp only
      split_ifs <;> simp
  have heach (unique modes : List EdidMode) :
      validateEachMode unique modes ≠ .error (.Framing error) := by
    induction modes generalizing unique with
    | nil => simp [validateEachMode]
    | cons mode rest ih =>
      rw [validateEachMode]
      split_ifs
      · simp
      · simp
      · exact ih _
  have hmodes (modes : List EdidMode) : validateModes modes ≠ .error (.Framing error) := by
    unfold validateModes
    split_ifs <;> simp [bind_eq_error, heach]
  have hcec (address : Option UInt16) :
      validateOptionalCecAddress address ≠ .error (.Framing error) := by
    cases address with
    | none => simp [validateOptionalCecAddress]
    | some address =>
      rw [validateOptionalCecAddress, validateCecPhysicalAddress]
      dsimp only
      split_ifs <;> simp
  intro h
  simp only [validateRequest, bind_eq_error, hid, hmanufacturer, hproduct, hmodes, hcec,
    false_or, reduceCtorEq, and_false, exists_false] at h

/-! ## The blocks -/

/-- Everything that the blocks of a list of modes are made of. -/
structure Contents (modes : List EdidMode) where
  first : EdidMode
  rest : List EdidMode
  modes_eq : modes = first :: rest
  timing : DetailedTiming
  timing_eq : timingFor first = some timing
  established : List UInt8
  established_eq : writeEstablishedTimings [0, 0, 0] modes = some established
  established_length : established.length = 3
  established_bits : ∀ byte bit, (established.getD byte 0).toNat.testBit bit = true ↔
    ∃ mode ∈ modes, establishedTimingBit mode = some (byte, bit)
  detailed : List EdidMode
  detailed_eq : selectBaseDetailedModes modes = some detailed
  selection : Selection first rest detailed

lemma SoundModes.exists_contents (h : SoundModes modes) :
    Nonempty (Contents modes) := by
  obtain ⟨first, rest, rfl⟩ := exists_cons_of_ne_nil h.nonempty
  obtain ⟨timing, htiming⟩ :=
    Option.isSome_iff_exists.1 (h.supported first (mem_cons_self ..))
  obtain ⟨established, heq, hlength, hbits⟩ :=
    @writeEstablishedTimings_eq [0, 0, 0] (first :: rest) rfl
  obtain ⟨detailed, hdetailed, hselection⟩ := selectBaseDetailedModes_eq first rest
  refine ⟨first, rest, rfl, timing, htiming, established, heq, hlength, fun byte bit => ?_,
    detailed, hdetailed, hselection⟩
  have hzero : ((([0, 0, 0] : List UInt8).getD byte 0).toNat.testBit bit) = false := by
    match byte with
    | 0 | 1 | 2 | _ + 3 => simp
  rw [hbits, hzero]
  simp

namespace Contents

variable {modes : List EdidMode} (c : Contents modes)

lemma supported (h : SoundModes modes) : ∀ mode ∈ c.detailed, (timingFor mode).isSome :=
  fun mode hmode => h.supported mode (c.modes_eq ▸ c.selection.subset hmode)

def slots : List (List UInt8) := standardSlots (standardTimings modes c.detailed)

def descriptors : List (List UInt8) := (range 4).map (descriptorAt c.detailed)

end Contents

def displayidFields (productType extensionCount : UInt8) (data : List UInt8) : List UInt8 :=
  DISPLAYID_EXTENSION_TAG :: (displayidSection productType extensionCount data ++
    [checksum (displayidSection productType extensionCount data)])

/-- One section if everything fits into it, and otherwise a second one after the product. -/
def displayidParts (product parameters timing : List UInt8) : List (List UInt8) :=
  if product.length + (parameters.length + timing.length) > DISPLAYID_MAX_SECTION_BYTES then
    [displayidFields DISPLAYID_PRODUCT_TYPE_TV 1 product,
      displayidFields 0 0 (parameters ++ timing)]
  else [displayidFields DISPLAYID_PRODUCT_TYPE_TV 0 (product ++ parameters ++ timing)]

/-- A written block with its checksum. -/
def sealedBlock (fields : List UInt8) : List UInt8 :=
  setBlockChecksum (padded EDID_BLOCK_SIZE fields)

@[simp] lemma length_displayidProductBlock (identity : EdidNumericIdentity)
    (name : Option (List Char)) :
    (displayidProductBlock identity name).length = 15 + (utf8 (name.getD [])).length := by
  simp [displayidProductBlock, PnpId.bytes]
  omega

@[simp] lemma length_displayidParametersBlock (mode : EdidMode) (audio : Bool) :
    (displayidParametersBlock mode audio).length = 15 := by
  simp [displayidParametersBlock]

def typeITimingBlock (mode : EdidMode) (timing : DetailedTiming) : List UInt8 :=
  [DISPLAYID_TYPE_I_TIMING_TAG, 1, 20] ++ typeITiming mode timing

@[simp] lemma length_typeITimingBlock (mode : EdidMode) (timing : DetailedTiming) :
    (typeITimingBlock mode timing).length = 23 := by
  simp [typeITimingBlock]

/-- The written parts of all blocks. -/
def blockFields (identity : EdidNumericIdentity) (name : Option (List Char))
    (request : CastDisplayEdidRequest) (c : Contents request.modes) : List (List UInt8) :=
  let displayid := displayidParts (displayidProductBlock identity name)
    (displayidParametersBlock c.first request.audio) (typeITimingBlock c.first c.timing)
  [baseFields identity c.established c.slots.flatten c.descriptors.flatten
      (.ofNat (displayid.length + 1)),
    ctaFields (ctaCollection request.modes request.audio request.cecPhysicalAddress) request.audio
      c.timing] ++ displayid

lemma edidBytes_eq {identity : EdidNumericIdentity} {name : Option (List Char)}
    {request : CastDisplayEdidRequest} (c : Contents request.modes)
    (hmodes : SoundModes request.modes)
    (hname : (utf8 (name.getD [])).length ≤ EDID_PRODUCT_NAME_MAX_BYTES) :
    edidBytes identity name request =
      some ((blockFields identity name request c).map sealedBlock).flatten := by
  have hhead : request.modes.head? = some c.first := congrArg head? c.modes_eq
  have htiming : displayidTypeITimingBlock c.first = some (typeITimingBlock c.first c.timing) := by
    rw [displayidTypeITimingBlock, c.timing_eq]
    rfl
  have hbase (count : UInt8) := @writeBaseBlock_eq identity _ _ count _ _ c.established_eq
    c.established_length c.detailed_eq (length_slots _ _)
    (mapM_baseDescriptor (c.supported hmodes)) (length_descriptors (c.supported hmodes))
  have hcta := @writeCtaExtension_eq request.modes c.first request.audio
    request.cecPhysicalAddress c.timing hhead c.timing_eq (length_videoCodes hmodes)
  rw [EDID_PRODUCT_NAME_MAX_BYTES] at hname
  simp only [edidBytes, hhead, htiming, hbase, hcta, Option.bind_eq_bind, Option.bind_some,
    blockFields, displayidParts]
  by_cases hlong : (displayidProductBlock identity name).length +
      ((displayidParametersBlock c.first request.audio).length +
        (typeITimingBlock c.first c.timing).length) > DISPLAYID_MAX_SECTION_BYTES
  · have hfirst : (displayidProductBlock identity name).length ≤ DISPLAYID_MAX_SECTION_BYTES := by
      rw [length_displayidProductBlock, DISPLAYID_MAX_SECTION_BYTES]
      omega
    have hsecond : (displayidParametersBlock c.first request.audio ++
        typeITimingBlock c.first c.timing).length ≤ DISPLAYID_MAX_SECTION_BYTES := by
      simp [DISPLAYID_MAX_SECTION_BYTES]
    simp only [if_pos hlong, writeDisplayidExtension_eq hfirst,
      writeDisplayidExtension_eq hsecond, Option.bind_some]
    rfl
  · have honly : (displayidProductBlock identity name ++
        displayidParametersBlock c.first request.audio ++
        typeITimingBlock c.first c.timing).length ≤ DISPLAYID_MAX_SECTION_BYTES := by
      rw [length_append, length_append]
      omega
    simp only [if_neg hlong, writeDisplayidExtension_eq honly, Option.bind_some]
    rfl

end Pronk.Edid
