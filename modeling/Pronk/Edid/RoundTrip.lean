import Pronk.Edid.Fields

/-!
# A generated EDID can be read back

Every chain of data blocks ends where its length field says, all checksums hold, and the
reader finds the identity, the name and the capabilities that were asked for.
-/
namespace Pronk.Edid
open Bytes Framing Reader ValidatedEdid List

section Whole

variable (identity : EdidNumericIdentity) (name : Option (List Char))
  (request : CastDisplayEdidRequest) (c : Contents request.modes)

def generatedBytes : List UInt8 := ((blockFields identity name request c).map sealedBlock).flatten

def baseBlock : List UInt8 :=
  baseFields identity c.established c.slots.flatten c.descriptors.flatten
    (.ofNat ((sections identity (name.getD []) c.first request.audio c.timing).length + 1))

def ctaBlock : List UInt8 :=
  ctaFields (ctaCollection request.modes request.audio request.cecPhysicalAddress) request.audio
    c.timing

lemma blockFields_eq :
    blockFields identity name request c = baseBlock identity name request c ::
      ctaBlock request c ::
      (sections identity (name.getD []) c.first request.audio c.timing).map Section.fields := by
  simp only [blockFields, displayidParts_eq, length_map, baseBlock, ctaBlock,
    cons_append, nil_append]

variable {identity name request c} (hmodes : SoundModes request.modes)
  (hname : (utf8 (name.getD [])).length ≤ EDID_PRODUCT_NAME_MAX_BYTES)

include hmodes

lemma length_baseBlock : (baseBlock identity name request c).length = 127 :=
  length_baseFields identity _ c.established_length (length_slots _ _)
    (length_descriptors (c.supported hmodes))

lemma length_ctaBlock : (ctaBlock request c).length ≤ 45 :=
  length_ctaFields _ _ (length_ctaCollection _ _ hmodes)

include hname

lemma length_blockFields : ∀ fields ∈ blockFields identity name request c, fields.length ≤ 127 := by
  intro fields hfields
  rw [blockFields_eq, mem_cons, mem_cons] at hfields
  obtain rfl | rfl | hfields := hfields
  · exact Nat.le_of_eq (length_baseBlock hmodes)
  · exact Nat.le_trans (length_ctaBlock hmodes) (by decide)
  · obtain ⟨s, hs, rfl⟩ := mem_map.1 hfields
    have hvalid := (sections_valid identity c.first request.audio c.timing hname s hs).length_le
    rw [DISPLAYID_MAX_SECTION_BYTES] at hvalid
    rw [Section.fields, length_displayidFields]
    omega

lemma blocks_generatedBytes : blocks (generatedBytes identity name request c) =
    (blockFields identity name request c).map sealedBlock := by
  apply chunks_flatten (by decide)
  intro block hblock
  obtain ⟨fields, hfields, rfl⟩ := mem_map.1 hblock
  exact length_sealedBlock (length_blockFields hmodes hname fields hfields)

lemma length_generatedBytes : (generatedBytes identity name request c).length =
    (2 + (sections identity (name.getD []) c.first request.audio c.timing).length) *
      EDID_BLOCK_SIZE := by
  have hlength : ∀ block ∈ (blockFields identity name request c).map sealedBlock,
      block.length = EDID_BLOCK_SIZE := by
    intro block hblock
    obtain ⟨fields, hfields, rfl⟩ := mem_map.1 hblock
    exact length_sealedBlock (length_blockFields hmodes hname fields hfields)
  rw [generatedBytes, length_flatten_of_forall _ hlength, blockFields_eq]
  simp only [length_map, length_cons]
  congr 1
  omega

lemma extensions_generatedBytes :
    extensions CTA_EXTENSION_TAG (generatedBytes identity name request c) =
        [sealedBlock (ctaBlock request c)] ∧
      extensions DISPLAYID_EXTENSION_TAG (generatedBytes identity name request c) =
        (sections identity (name.getD []) c.first request.audio c.timing).map fun s =>
          sealedBlock s.fields := by
  have hcta : (sealedBlock (ctaBlock request c)).head? = some CTA_EXTENSION_TAG :=
    head_sealedBlock (Nat.le_trans (length_ctaBlock hmodes) (by decide))
  have hsections : ∀ s ∈ sections identity (name.getD []) c.first request.audio c.timing,
      (sealedBlock s.fields).head? = some DISPLAYID_EXTENSION_TAG := by
    intro s hs
    apply head_sealedBlock
    apply length_blockFields (c := c) hmodes hname
    rw [blockFields_eq]
    exact mem_cons_of_mem _ (mem_cons_of_mem _ (mem_map.2 ⟨s, hs, rfl⟩))
  have hne : (DISPLAYID_EXTENSION_TAG : UInt8) ≠ CTA_EXTENSION_TAG := by decide
  rw [extensions, extensions, blocks_generatedBytes hmodes hname, blockFields_eq, map_cons,
    tail_cons, map_cons, map_map]
  constructor
  · rw [filter_cons_of_pos (by simp [hcta]), filter_eq_nil_iff.2]
    intro block hblock
    obtain ⟨s, hs, rfl⟩ := mem_map.1 hblock
    simp [hsections s hs, hne]
  · rw [filter_cons_of_neg (by simp [hcta, hne.symm]), filter_eq_self.2]
    · rfl
    · intro block hblock
      obtain ⟨s, hs, rfl⟩ := mem_map.1 hblock
      simp [hsections s hs]

omit hname in
lemma slice_generatedBytes {offset width : ℕ} (h : offset + width ≤ 127) :
    slice (generatedBytes identity name request c) offset width =
      slice (baseBlock identity name request c) offset width := by
  have hbase : (baseBlock identity name request c).length = 127 := length_baseBlock hmodes
  rw [generatedBytes, blockFields_eq, map_cons, flatten_cons, slice_append,
    slice_sealedBlock (by omega) (by omega)]
  rw [length_sealedBlock (by omega), EDID_BLOCK_SIZE]
  omega

lemma validateEdid_generatedBytes :
    validateEdid (generatedBytes identity name request c) = .ok () := by
  have hlength : (generatedBytes identity name request c).length = _ :=
    length_generatedBytes hmodes hname
  have hcount := count_sections identity (name.getD []) c.first request.audio c.timing
  have hsections : (sections identity (name.getD []) c.first request.audio c.timing).length = 1 ∨
      (sections identity (name.getD []) c.first request.audio c.timing).length = 2 := by
    split_ifs at hcount
    · exact .inl hcount
    · exact .inr hcount
  have hbase := slice_baseFields_modes identity (.ofNat ((sections identity (name.getD []) c.first
    request.audio c.timing).length + 1)) c.established_length
    (length_slots request.modes c.detailed) (length_descriptors (c.supported hmodes))
  have hdeclared : (generatedBytes identity name request c).getD 126 0 = .ofNat _ :=
    getD_of_slice ((slice_generatedBytes hmodes (by decide)).trans hbase.2.2.2)
  have hheader :
      slice (generatedBytes identity name request c) 0 EDID_HEADER.length = EDID_HEADER :=
    (slice_generatedBytes hmodes (by decide)).trans (slice_baseFields_identity identity ..).1
  have hsums : (chunks EDID_BLOCK_SIZE (generatedBytes identity name request c)).findIdx?
      (fun block => total block ≠ 0) = none := by
    rw [findIdx?_eq_none_iff]
    intro block hblock
    change block ∈ blocks _ at hblock
    rw [blocks_generatedBytes hmodes hname] at hblock
    obtain ⟨fields, hfields, rfl⟩ := mem_map.1 hblock
    simp [total_sealedBlock (length_blockFields hmodes hname fields hfields)]
  rw [EDID_BLOCK_SIZE] at hlength
  have hsize : ¬ (generatedBytes identity name request c = [] ∨
      (generatedBytes identity name request c).length > EDID_BLOCK_SIZE * EDID_MAX_BLOCKS ∨
      (generatedBytes identity name request c).length % EDID_BLOCK_SIZE ≠ 0) := by
    rw [← length_eq_zero_iff, hlength, EDID_BLOCK_SIZE, EDID_MAX_BLOCKS]
    omega
  rw [validateEdid, if_neg hsize, if_neg (not_not.2 hheader)]
  dsimp only
  rw [hdeclared, hlength, EDID_BLOCK_SIZE, UInt8.toNat_ofNat', if_neg (by omega)]
  rw [EDID_BLOCK_SIZE] at hsums
  rw [hsums]

omit hname in
/-- The data block collection of the CTA extension ends where the detailed timing starts. -/
lemma ctaBlocks_ctaBlock : timingOffset (sealedBlock (ctaBlock request c)) =
      4 + (ctaCollection request.modes request.audio request.cecPhysicalAddress).length ∧
    ctaBlocks (sealedBlock (ctaBlock request c)) =
      some (ctaRecords request.modes request.audio request.cecPhysicalAddress) := by
  obtain ⟨hoffset, hslice, -⟩ := read_ctaFields request.audio c.timing
    (length_ctaCollection request.audio request.cecPhysicalAddress hmodes)
  refine ⟨hoffset, ?_⟩
  rw [ctaBlocks, ctaBlock, hoffset, Nat.add_sub_cancel_left, hslice,
    drain_ctaCollection _ _ hmodes]
  rfl

lemma decode_generatedBytes (hascii : ∀ b ∈ utf8 (name.getD []), b.toNat ≤ 0x7e) :
    decode (generatedBytes identity name request c) = some
      { pnpId := identity.pnpId.bytes
        productCode := identity.productCode.toNat
        serial := identity.serial.toNat
        displayName := name.getD []
        basicAudio := request.audio
        audioDescriptors := if request.audio then [[0x09, 0x04, 0x01]] else []
        cecPhysicalAddress := request.cecPhysicalAddress.map UInt16.toNat } := by
  obtain ⟨hctas, hdisplayids⟩ :
      extensions CTA_EXTENSION_TAG (generatedBytes identity name request c) = _ ∧ _ :=
    extensions_generatedBytes hmodes hname
  obtain ⟨-, hcta⟩ := ctaBlocks_ctaBlock (c := c) hmodes
  obtain ⟨haudio, -, hvendor⟩ :=
    recordsWith_ctaRecords request.audio request.cecPhysicalAddress hmodes
  obtain ⟨s, rest, records, hsections, hrecords⟩ :=
    sections_head identity (name.getD []) c.first request.audio c.timing
  have hproduct : (displayidPayloads DISPLAYID_PRODUCT_IDENTIFICATION_TAG
      (sealedBlock s.fields)).head? = some (productRecord identity (name.getD [])).2 := by
    have hvalid := sections_valid identity c.first request.audio c.timing hname s
      (hsections ▸ mem_cons_self ..)
    rw [displayidPayloads, displayidBlocks_section hvalid, hrecords]
    rfl
  have hpayloads (tag : ℕ) : ctaPayloads tag (sealedBlock (ctaBlock request c)) =
      recordsWith tag (ctaRecords request.modes request.audio request.cecPhysicalAddress) := by
    rw [ctaPayloads, hcta]
    rfl
  have hflag : (byteAt (sealedBlock (ctaBlock request c)) 3).testBit 6 = request.audio :=
    (read_ctaFields request.audio c.timing (length_ctaCollection _ _ hmodes)).2.2
  have haddress : (request.cecPhysicalAddress.toList.map fun address =>
      (hdmiVendorBlock address).tail).findSome? hdmiAddress =
        request.cecPhysicalAddress.map UInt16.toNat := by
    cases request.cecPhysicalAddress with
    | none => rfl
    | some address => simp [hdmiAddress_vendorBlock]
  obtain ⟨-, hpnp, hcode, hserial⟩ := slice_baseFields_identity identity c.established
    c.slots.flatten c.descriptors.flatten
    (.ofNat ((sections identity (name.getD []) c.first request.audio c.timing).length + 1))
  rw [decode, hctas, hdisplayids, hsections]
  simp only [map_cons, head?_cons, Option.bind_eq_bind, Option.bind_some, hproduct,
    hpayloads, haudio, hvendor, haddress, hflag, productName_productRecord identity hname hascii]
  rw [slice_generatedBytes hmodes (by decide), slice_generatedBytes hmodes (by decide),
    slice_generatedBytes hmodes (by decide), baseBlock, hpnp, hcode, hserial,
    pnpLetters_encodePnpId, ofLittle_toLittle identity.productCode.toNat_lt,
    ofLittle_toLittle identity.serial.toNat_lt]

end Whole

/-! ## Every request -/

/-- All checksums hold, and the data blocks of each extension form a complete chain. -/
structure WellFramed (bytes : List UInt8) : Prop where
  checksums : ∀ block ∈ blocks bytes, total block = 0
  sections : ∀ block ∈ extensions DISPLAYID_EXTENSION_TAG bytes,
    total (sectionBytes block) = 0 ∧ (displayidBlocks block).isSome
  collections : ∀ block ∈ extensions CTA_EXTENSION_TAG bytes,
    (ctaBlocks block).isSome ∧ 4 ≤ timingOffset block ∧ timingOffset block + 18 ≤ 127 ∧
      (readDetailed (slice block (timingOffset block) 18)).isSome

variable {request : CastDisplayEdidRequest}

lemma wellFramed_generatedBytes {identity : EdidNumericIdentity} {name : Option (List Char)}
    {c : Contents request.modes} (hmodes : SoundModes request.modes)
    (hname : (utf8 (name.getD [])).length ≤ EDID_PRODUCT_NAME_MAX_BYTES) :
    WellFramed (generatedBytes identity name request c) := by
  obtain ⟨hctas, hdisplayids⟩ :
      extensions CTA_EXTENSION_TAG (generatedBytes identity name request c) = _ ∧ _ :=
    extensions_generatedBytes hmodes hname
  constructor
  · intro block hblock
    rw [blocks_generatedBytes hmodes hname] at hblock
    obtain ⟨fields, hfields, rfl⟩ := mem_map.1 hblock
    exact total_sealedBlock (length_blockFields hmodes hname fields hfields)
  · intro block hblock
    rw [hdisplayids] at hblock
    obtain ⟨s, hs, rfl⟩ := mem_map.1 hblock
    have hvalid := sections_valid identity c.first request.audio c.timing hname s hs
    refine ⟨(read_displayidFields _ _ hvalid.length_le).2.2, ?_⟩
    rw [displayidBlocks_section hvalid]
    rfl
  · intro block hblock
    rw [hctas, mem_singleton] at hblock
    subst hblock
    obtain ⟨hoffset, hblocks⟩ := ctaBlocks_ctaBlock (c := c) hmodes
    have hlength := length_ctaCollection request.audio request.cecPhysicalAddress hmodes
    refine ⟨by rw [hblocks]; rfl, by omega, by omega, ?_⟩
    rw [hoffset, ctaBlock, timing_ctaFields _ _ hlength, readDetailed_detailedTiming c.timing_eq]
    rfl

lemma ValidatedEdid.new_eq_ok {bytes : List UInt8} (h : validateEdid bytes = .ok ()) :
    new bytes = .ok ⟨bytes, h⟩ := by
  unfold new
  split
  · rfl
  · simp_all

/-- The bytes that the builder returns for a valid request. -/
theorem build_of_valid (env : Primitives) {names : ValidatedNames}
    (h : validateRequest request = .ok names) (c : Contents request.modes) :
    ∃ generated, buildCastDisplayEdid env request = some (.ok generated) ∧
      generated.identity = numericIdentity env request names ∧
      generated.edid.bytes = generatedBytes (numericIdentity env request names) names.displayName
        request c := by
  obtain ⟨hmodes, hdisplay⟩ := validateRequest_eq_ok h
  obtain ⟨htrimmed, hname, -⟩ := validateProductName_eq_ok hdisplay
  rw [← htrimmed] at hname
  have hvalid : validateEdid (generatedBytes (numericIdentity env request names) names.displayName
      request c) = .ok () := validateEdid_generatedBytes hmodes hname
  have hbytes : edidBytes (numericIdentity env request names) names.displayName request =
      some (generatedBytes (numericIdentity env request names) names.displayName request c) :=
    edidBytes_eq c hmodes hname
  refine ⟨⟨numericIdentity env request names, names.displayName, request.modes, request.audio,
    request.cecPhysicalAddress, ⟨_, hvalid⟩⟩, ?_, rfl, rfl⟩
  simp only [buildCastDisplayEdid, h, hbytes, Option.map_some, new_eq_ok hvalid]

lemma build_isSome (env : Primitives) (request : CastDisplayEdidRequest) :
    (buildCastDisplayEdid env request).isSome := by
  match hvalidate : validateRequest request with
  | .error e => simp [buildCastDisplayEdid, hvalidate]
  | .ok names =>
    obtain ⟨c⟩ := (validateRequest_eq_ok hvalidate).1.exists_contents
    obtain ⟨generated, hbuild, -, -⟩ := build_of_valid env hvalidate c
    rw [hbuild]
    rfl

lemma valid_of_build {env : Primitives} {generated : GeneratedCastDisplayEdid}
    (h : buildCastDisplayEdid env request = some (.ok generated)) :
    ∃ names, validateRequest request = .ok names := by
  unfold buildCastDisplayEdid at h
  match hvalidate : validateRequest request with
  | .error e => simp [hvalidate] at h
  | .ok names => exact ⟨names, rfl⟩

/-- The builder neither panics nor fails its own framing check, whatever the request. For a
request that it accepts, the bytes are well framed and give back the identity that the request
asks for or derives, the name and the capabilities. -/
theorem edid_round_trip (env : Primitives) (request : CastDisplayEdidRequest) :
    ∃ result, buildCastDisplayEdid env request = some result ∧
      (∀ e, result ≠ .error (.Framing e)) ∧
      ∀ generated, result = .ok generated →
        (blocks generated.edid.bytes).length =
            (if (utf8 (trimmedName request.displayName)).length ≤ 68 then 3 else 4) ∧
          generated.edid.bytes.length =
            (blocks generated.edid.bytes).length * EDID_BLOCK_SIZE ∧
          WellFramed generated.edid.bytes ∧
          (extensions CTA_EXTENSION_TAG generated.edid.bytes).length = 1 ∧
          generated.identity.pnpId = request.pnpId ∧
          (∃ names, validateRequest request = .ok names ∧
            generated.identity = numericIdentity env request names) ∧
          decode generated.edid.bytes = some
            { pnpId := request.pnpId.bytes
              productCode := generated.identity.productCode.toNat
              serial := generated.identity.serial.toNat
              displayName := trimmedName request.displayName
              basicAudio := request.audio
              audioDescriptors := if request.audio then [[0x09, 0x04, 0x01]] else []
              cecPhysicalAddress := request.cecPhysicalAddress.map UInt16.toNat } := by
  unfold buildCastDisplayEdid
  match hvalidate : validateRequest request with
  | .error e =>
    refine ⟨.error e, rfl, ?_, ?_⟩
    · rintro f ⟨rfl⟩
      exact validateRequest_ne_framing request f hvalidate
    · rintro generated ⟨⟩
  | .ok names =>
    obtain ⟨hmodes, hdisplay⟩ := validateRequest_eq_ok hvalidate
    obtain ⟨htrimmed, hname, hascii⟩ := validateProductName_eq_ok hdisplay
    rw [← htrimmed] at hname hascii ⊢
    obtain ⟨c⟩ := hmodes.exists_contents
    obtain ⟨generated, hbuild, hidentity, hbytes⟩ := build_of_valid env hvalidate c
    rw [buildCastDisplayEdid, hvalidate] at hbuild
    refine ⟨.ok generated, hbuild, by simp, ?_⟩
    rintro _ ⟨rfl⟩
    have hblocks : (blocks (generatedBytes (numericIdentity env request names) names.displayName
        request c)).length = if (utf8 (names.displayName.getD [])).length ≤ 68 then 3 else 4 := by
      rw [blocks_generatedBytes hmodes hname, blockFields_eq, length_map, length_cons,
        length_cons, length_map, count_sections]
      split_ifs <;> rfl
    rw [hbytes, hidentity]
    refine ⟨hblocks, ?_, wellFramed_generatedBytes hmodes hname, ?_, rfl, ⟨names, rfl, rfl⟩,
      decode_generatedBytes hmodes hname hascii⟩
    · rw [length_generatedBytes hmodes hname, hblocks, count_sections]
      split_ifs <;> rfl
    · rw [(extensions_generatedBytes hmodes hname).1]
      rfl

/-- A digest of zeros and texts that are not changed. -/
def plainPrimitives : Primitives := ⟨fun _ => Vector.replicate 32 0, id, fun c => [c]⟩

end Pronk.Edid
