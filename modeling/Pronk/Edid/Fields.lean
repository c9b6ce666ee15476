import Pronk.Edid.Accepted
import Pronk.Edid.Reader

/-!
# Reading written blocks

What the reader finds in a sealed block: the fields of the base block, the data blocks and
the timing of the CTA extension, and the sections of the DisplayID extension.
-/
namespace Pronk.Edid
open Bytes Framing Reader PnpId List

/-! ## Sealed blocks -/

lemma sealedBlock_eq {fields : List UInt8} (h : fields.length ≤ 127) :
    sealedBlock fields = padded 127 fields ++ [checksum (padded 127 fields)] := by
  have htake : (padded EDID_BLOCK_SIZE fields).take (EDID_BLOCK_SIZE - 1) = padded 127 fields := by
    rw [EDID_BLOCK_SIZE, padded, padded, take_append, take_of_length_le h,
      take_replicate]
    congr 2
    omega
  rw [sealedBlock, setBlockChecksum, htake]

lemma length_sealedBlock {fields : List UInt8} (h : fields.length ≤ 127) :
    (sealedBlock fields).length = EDID_BLOCK_SIZE := by
  rw [sealedBlock_eq h, length_append, length_padded h]
  rfl

lemma total_sealedBlock {fields : List UInt8} (h : fields.length ≤ 127) :
    total (sealedBlock fields) = 0 := by
  rw [sealedBlock_eq h, total_checksum]

lemma slice_sealedBlock {fields : List UInt8} {offset width : ℕ} (h : fields.length ≤ 127)
    (hin : offset + width ≤ fields.length) :
    slice (sealedBlock fields) offset width = slice fields offset width := by
  have hpadded : offset + width ≤ (padded 127 fields).length := by
    rw [length_padded h]
    omega
  rw [sealedBlock_eq h, slice_append _ hpadded, slice_padded hin]

lemma byteAt_sealedBlock {fields : List UInt8} {index : ℕ} (h : fields.length ≤ 127)
    (hindex : index < fields.length) :
    byteAt (sealedBlock fields) index = byteAt fields index := by
  have hpadded : index < (padded 127 fields).length := by
    rw [length_padded h]
    omega
  simp only [byteAt, getD_eq_getElem?_getD]
  rw [sealedBlock_eq h, getElem?_append_left hpadded, padded, getElem?_append_left hindex]

lemma head_sealedBlock {tag : UInt8} {fields : List UInt8} (h : (tag :: fields).length ≤ 127) :
    (sealedBlock (tag :: fields)).head? = some tag := by
  rw [sealedBlock_eq h]
  rfl

/-! ## The PNP identifier -/

lemma pnpLetter_toNat {b : UInt8} (h : 0x41 ≤ b ∧ b ≤ 0x5a) :
    (pnpLetter b).toNat = b.toNat - 0x40 := by
  have hlow := UInt8.le_iff_toNat_le.1 h.1
  have hhigh := UInt8.le_iff_toNat_le.1 h.2
  rw [pnpLetter, UInt8.toNat_toUInt16, UInt8.toNat_add, UInt8.toNat_sub_of_le _ _ h.1]
  simp only [UInt8.reduceToNat] at hlow hhigh ⊢
  omega

lemma pack_letters {a b c : UInt16} (ha : a.toNat ≤ 26) (hb : b.toNat ≤ 26) (hc : c.toNat ≤ 26) :
    (a <<< (10 : UInt16) ||| b <<< (5 : UInt16) ||| c).toNat =
      a.toNat * 1024 + b.toNat * 32 + c.toNat := by
  have hfirst : (a <<< (10 : UInt16)).toNat = a.toNat <<< 10 := by
    rw [UInt16.toNat_shiftLeft]
    exact Nat.mod_eq_of_lt (by rw [Nat.shiftLeft_eq]; simp; omega)
  have hsecond : (b <<< (5 : UInt16)).toNat = b.toNat <<< 5 := by
    rw [UInt16.toNat_shiftLeft]
    exact Nat.mod_eq_of_lt (by rw [Nat.shiftLeft_eq]; simp; omega)
  -- Each letter stays below the one before it, so the disjunctions are sums.
  have hlow : b.toNat <<< 5 ||| c.toNat = b.toNat <<< 5 + c.toNat :=
    (Nat.shiftLeft_add_eq_or_of_lt (by omega) _).symm
  have hall : a.toNat <<< 10 ||| (b.toNat <<< 5 + c.toNat) =
      a.toNat <<< 10 + (b.toNat <<< 5 + c.toNat) := by
    refine (Nat.shiftLeft_add_eq_or_of_lt ?_ _).symm
    rw [Nat.shiftLeft_eq]
    omega
  rw [UInt16.toNat_or, UInt16.toNat_or, hfirst, hsecond, Nat.or_assoc, hlow, hall,
    Nat.shiftLeft_eq, Nat.shiftLeft_eq]
  omega

lemma pnpLetters_encodePnpId (id : PnpId) :
    pnpLetters (ofLittle (encodePnpId id).reverse) = id.bytes := by
  obtain ⟨first, second, third, hupper⟩ := id
  simp only [forall_mem_cons] at hupper
  obtain ⟨h1, h2, h3, -⟩ := hupper
  have hbound {b : UInt8} (h : 0x41 ≤ b ∧ b ≤ 0x5a) : 0x41 ≤ b.toNat ∧ b.toNat ≤ 0x5a :=
    ⟨UInt8.le_iff_toNat_le.1 h.1, UInt8.le_iff_toNat_le.1 h.2⟩
  have b1 := hbound h1
  have b2 := hbound h2
  have b3 := hbound h3
  have hletter {b : UInt8} {n : ℕ} (h : n = b.toNat) : UInt8.ofNat n = b := by
    rw [h, UInt8.ofNat_toNat]
  have hvalue := pack_letters (a := pnpLetter first) (b := pnpLetter second) (c := pnpLetter third)
    (by rw [pnpLetter_toNat h1]; omega) (by rw [pnpLetter_toNat h2]; omega)
    (by rw [pnpLetter_toNat h3]; omega)
  rw [pnpLetter_toNat h1, pnpLetter_toNat h2, pnpLetter_toNat h3] at hvalue
  rw [encodePnpId, reverse_reverse, ofLittle_toLittle (by rw [hvalue]; omega), hvalue]
  simp only [pnpLetters, bytes, map_cons, map_nil]
  rw [hletter (b := first) (by omega), hletter (b := second) (by omega),
    hletter (b := third) (by omega)]

/-! ## The base block -/

lemma slice_baseFields_identity (identity : EdidNumericIdentity)
    (established slots descriptors : List UInt8) (count : UInt8) :
    slice (baseFields identity established slots descriptors count) 0 8 = EDID_HEADER ∧
    slice (baseFields identity established slots descriptors count) 8 2 =
      encodePnpId identity.pnpId ∧
    slice (baseFields identity established slots descriptors count) 10 2 =
      toLittle 2 identity.productCode.toNat ∧
    slice (baseFields identity established slots descriptors count) 12 4 =
      toLittle 4 identity.serial.toNat := by
  have hheader : EDID_HEADER.length = 8 := rfl
  simp only [baseFields, append_assoc]
  refine ⟨?_, ?_, ?_, ?_⟩
  all_goals
    simp (disch := simp [hheader]) only [slice_append_right, slice_zero, hheader,
      length_encodePnpId, length_toLittle, Nat.sub_self, Nat.reduceSub]

section Base

variable (identity : EdidNumericIdentity) {established slots descriptors : List UInt8}
  (count : UInt8) (he : established.length = 3) (hs : slots.length = 16)
  (hd : descriptors.length = 72)

include he hs hd

lemma length_baseFields :
    (baseFields identity established slots descriptors count).length = 127 := by
  simp [baseFields, EDID_HEADER, he, hs, hd]

lemma slice_baseFields_modes :
    slice (baseFields identity established slots descriptors count) 35 3 = established ∧
    slice (baseFields identity established slots descriptors count) 38 16 = slots ∧
    slice (baseFields identity established slots descriptors count) 54 72 = descriptors ∧
    slice (baseFields identity established slots descriptors count) 126 1 = [count] := by
  have hbefore : (EDID_HEADER ++ encodePnpId identity.pnpId ++
      toLittle 2 identity.productCode.toNat ++ toLittle 4 identity.serial.toNat ++
      [0, 30, 1, 4, 0x80] ++ replicate 2 0 ++ [120, 0x0e] ++
      [0xee, 0x91, 0xa3, 0x54, 0x4c, 0x99, 0x26, 0x0f, 0x50, 0x54]).length = 35 := by
    simp [EDID_HEADER]
  rw [baseFields]
  generalize EDID_HEADER ++ encodePnpId identity.pnpId ++
      toLittle 2 identity.productCode.toNat ++ toLittle 4 identity.serial.toNat ++
      [0, 30, 1, 4, 0x80] ++ replicate 2 0 ++ [120, 0x0e] ++
      [0xee, 0x91, 0xa3, 0x54, 0x4c, 0x99, 0x26, 0x0f, 0x50, 0x54] = before at hbefore ⊢
  refine ⟨?_, ?_, ?_, ?_⟩
  · rw [append_assoc, append_assoc, append_assoc]
    exact slice_at _ hbefore he
  · rw [append_assoc, append_assoc]
    exact slice_at _ (by simp [hbefore, he]) hs
  · rw [append_assoc]
    exact slice_at _ (by simp [hbefore, he, hs]) hd
  · rw [slice_append_right _ (by simp [hbefore, he, hs, hd])]
    simp [hbefore, he, hs, hd, slice]

end Base

/-! ## The CTA extension -/

lemma readDetailed_detailedTiming {mode : EdidMode} {timing : DetailedTiming}
    (h : timingFor mode = some timing) : readDetailed (detailedTiming timing) = some timing := by
  have hall : ∀ p ∈ timings, readDetailed (detailedTiming p.2) = some p.2 := by decide +kernel
  exact hall (mode, timing) (mem_of_lookup h)

/-- The data blocks, each a header and a payload. -/
def ctaRecords (modes : List EdidMode) (audio : Bool) (cecPhysicalAddress : Option UInt16) :
    List (List UInt8 × List UInt8) :=
  [([0x40 ||| .ofNat (modes.filterMap videoIdentificationCode).length],
      modes.filterMap videoIdentificationCode), ([0xe2], [0x00, 0x4a])] ++
    cecPhysicalAddress.elim [] (fun address => [([0x65], (hdmiVendorBlock address).tail)]) ++
    if audio then [([0x23], [0x09, 0x04, 0x01]), ([0x83], [0x01, 0x00, 0x00])] else []

lemma ctaCollection_eq (modes : List EdidMode) (audio : Bool) (cecPhysicalAddress : Option UInt16) :
    ctaCollection modes audio cecPhysicalAddress =
      (ctaRecords modes audio cecPhysicalAddress).flatMap fun r => r.1 ++ r.2 := by
  cases cecPhysicalAddress with
  | none => cases audio <;> simp [ctaCollection, ctaRecords, hdmiPart, audioPart, audioBlocks]
  | some address =>
    cases audio <;>
      simp [ctaCollection, ctaRecords, hdmiPart, audioPart, audioBlocks, hdmiVendorBlock]

lemma videoHeader {n : ℕ} (h : n ≤ 5) :
    byteAt [0x40 ||| UInt8.ofNat n] 0 % 32 = n ∧ byteAt [0x40 ||| UInt8.ofNat n] 0 / 32 = 2 := by
  have hall : ∀ n < 6, byteAt [0x40 ||| UInt8.ofNat n] 0 % 32 = n ∧
      byteAt [0x40 ||| UInt8.ofNat n] 0 / 32 = 2 := by decide
  exact hall n (by omega)

lemma drain_ctaCollection {modes : List EdidMode} (audio : Bool)
    (cecPhysicalAddress : Option UInt16) (h : SoundModes modes) :
    ctaFramer.drain (ctaCollection modes audio cecPhysicalAddress) =
      .ok (ctaRecords modes audio cecPhysicalAddress, []) := by
  rw [ctaCollection_eq]
  apply Framer.drain_counted
  intro r hr
  simp only [ctaRecords, mem_append, mem_cons, not_mem_nil, or_false] at hr
  obtain ((rfl | rfl) | hr) | hr := hr
  · exact ⟨rfl, (videoHeader (length_videoCodes h)).1⟩
  · exact ⟨rfl, rfl⟩
  · cases cecPhysicalAddress with
    | none => simp at hr
    | some address =>
      obtain rfl := mem_singleton.1 hr
      exact ⟨rfl, by simp [byteAt, hdmiVendorBlock]⟩
  · cases audio with
    | false => simp at hr
    | true =>
      simp only [if_true, mem_cons, not_mem_nil, or_false] at hr
      obtain rfl | rfl := hr
      · exact ⟨rfl, rfl⟩
      · exact ⟨rfl, rfl⟩

lemma length_ctaCollection {modes : List EdidMode} (audio : Bool)
    (cecPhysicalAddress : Option UInt16) (h : SoundModes modes) :
    (ctaCollection modes audio cecPhysicalAddress).length ≤ 23 := by
  have hcodes := length_videoCodes h
  cases cecPhysicalAddress <;> cases audio <;> simp [ctaCollection, hdmiPart, audioPart] <;> omega

section Cta

variable {collection : List UInt8} (audio : Bool) (timing : DetailedTiming)
  (h : collection.length ≤ 23)

include h

lemma length_ctaFields : (ctaFields collection audio timing).length ≤ 45 := by
  simp [ctaFields]
  omega

lemma read_ctaFields :
    timingOffset (sealedBlock (ctaFields collection audio timing)) = 4 + collection.length ∧
    slice (sealedBlock (ctaFields collection audio timing)) 4 collection.length = collection ∧
    (byteAt (sealedBlock (ctaFields collection audio timing)) 3).testBit 6 = audio := by
  have hlength := length_ctaFields audio timing h
  have hshort : (ctaFields collection audio timing).length ≤ 127 := by omega
  have hlong : collection.length + 22 = (ctaFields collection audio timing).length := by
    simp [ctaFields]
  refine ⟨?_, ?_, ?_⟩
  · rw [timingOffset, byteAt_sealedBlock hshort (by omega)]
    change (UInt8.ofNat (4 + collection.length)).toNat = _
    rw [UInt8.toNat_ofNat']
    omega
  · rw [slice_sealedBlock hshort (by omega), ctaFields, append_assoc]
    exact slice_at _ rfl rfl
  · rw [byteAt_sealedBlock hshort (by omega)]
    change (if audio then 0xc1 else 0x81 : UInt8).toNat.testBit 6 = audio
    cases audio <;> decide

lemma timing_ctaFields :
    slice (sealedBlock (ctaFields collection audio timing)) (4 + collection.length) 18 =
      detailedTiming timing := by
  have hlength := length_ctaFields audio timing h
  have hlong : (ctaFields collection audio timing).length = collection.length + 22 := by
    simp [ctaFields]
  rw [slice_sealedBlock (by omega) (by omega), ctaFields, ← append_nil (detailedTiming timing)]
  apply slice_at [] _ (length_detailedTiming timing)
  simp
  omega

/-- Behind the data blocks there is one descriptor, and then nothing. -/
lemma timings_ctaFields :
    (chunks 18 (slice (sealedBlock (ctaFields collection audio timing)) (4 + collection.length)
      (127 - (4 + collection.length)))).filterMap readDetailed =
        (readDetailed (detailedTiming timing)).toList := by
  have hlength := length_ctaFields audio timing h
  have hshort : (ctaFields collection audio timing).length ≤ 127 := by omega
  have hrest : slice (sealedBlock (ctaFields collection audio timing)) (4 + collection.length)
      (127 - (4 + collection.length)) = detailedTiming timing ++
        replicate (127 - (ctaFields collection audio timing).length) 0 := by
    have hpadded := length_padded hshort
    have hbefore : ([CTA_EXTENSION_TAG, CTA_REVISION_3, .ofNat (4 + collection.length),
        if audio then 0xc1 else 0x81] ++ collection).length = 4 + collection.length := by
      simp
      omega
    rw [sealedBlock_eq hshort, slice_append _ (by omega), padded]
    conv_lhs => rw [ctaFields]
    rw [append_assoc, slice_append_right _ (Nat.le_of_eq hbefore), hbefore, Nat.sub_self, slice,
      drop_zero, take_of_length_le]
    · rfl
    · simp
      omega
  have hzeros : (chunks 18 (replicate
      (127 - (ctaFields collection audio timing).length) 0)).filterMap readDetailed = [] := by
    rw [filterMap_eq_nil_iff]
    intro chunk hchunk
    obtain ⟨n, rfl⟩ := mem_chunks_zeros hchunk
    rw [readDetailed, if_pos]
    rw [slice, drop_zero, take_replicate, ofLittle_zeros]
  rw [hrest, chunks_append _ (by decide) (length_detailedTiming timing), filterMap_cons, hzeros]
  cases readDetailed (detailedTiming timing) <;> rfl

end Cta

/-- The payloads with a tag. -/
def recordsWith (tag : ℕ) (records : List (List UInt8 × List UInt8)) : List (List UInt8) :=
  (records.filter fun r => byteAt r.1 0 / 32 = tag).map Prod.snd

lemma recordsWith_ctaRecords {modes : List EdidMode} (audio : Bool)
    (cecPhysicalAddress : Option UInt16) (h : SoundModes modes) :
    recordsWith 1 (ctaRecords modes audio cecPhysicalAddress) =
        (if audio then [[0x09, 0x04, 0x01]] else []) ∧
      recordsWith 2 (ctaRecords modes audio cecPhysicalAddress) =
        [modes.filterMap videoIdentificationCode] ∧
      recordsWith 3 (ctaRecords modes audio cecPhysicalAddress) =
        cecPhysicalAddress.toList.map fun address => (hdmiVendorBlock address).tail := by
  have hvideo := (videoHeader (length_videoCodes h)).2
  have hcapability : byteAt [0xe2] 0 / 32 = 7 := rfl
  have hvendor : byteAt [0x65] 0 / 32 = 3 := rfl
  have haudio : byteAt [0x23] 0 / 32 = 1 := rfl
  have hspeaker : byteAt [0x83] 0 / 32 = 4 := rfl
  cases cecPhysicalAddress <;> cases audio <;>
    simp [recordsWith, ctaRecords, hvideo, hcapability, hvendor, haudio, hspeaker]

lemma hdmiAddress_vendorBlock (address : UInt16) :
    hdmiAddress (hdmiVendorBlock address).tail = some address.toNat := by
  have hlow : address.toUInt8 = .ofNat address.toNat := by
    apply UInt8.toNat_inj.1
    rw [UInt16.toNat_toUInt8, UInt8.toNat_ofNat']
  have hhigh : (address >>> (8 : UInt16)).toUInt8 = .ofNat (address.toNat / 256) := by
    apply UInt8.toNat_inj.1
    rw [UInt16.toNat_toUInt8, UInt8.toNat_ofNat', UInt16.toNat_shiftRight,
      Nat.shiftRight_eq_div_pow]
    rfl
  have hoctets : (slice (hdmiVendorBlock address).tail 3 2).reverse = toLittle 2 address.toNat := by
    change [address.toUInt8, (address >>> (8 : UInt16)).toUInt8] = _
    rw [hlow, hhigh]
    rfl
  have hvendor : slice (hdmiVendorBlock address).tail 0 3 = [0x03, 0x0c, 0x00] := rfl
  rw [hdmiAddress, if_pos hvendor, hoctets, ofLittle_toLittle address.toNat_lt]

/-! ## The DisplayID extension -/

lemma length_displayidFields (productType extensionCount : UInt8) (data : List UInt8) :
    (displayidFields productType extensionCount data).length = data.length + 6 := by
  simp [displayidFields, displayidSection]

lemma read_displayidFields (productType extensionCount : UInt8) {data : List UInt8}
    (h : data.length ≤ DISPLAYID_MAX_SECTION_BYTES) :
    sectionLength (sealedBlock (displayidFields productType extensionCount data)) = data.length ∧
    slice (sealedBlock (displayidFields productType extensionCount data)) 5 data.length = data ∧
    total (sectionBytes (sealedBlock (displayidFields productType extensionCount data))) = 0 := by
  rw [DISPLAYID_MAX_SECTION_BYTES] at h
  have hlength := length_displayidFields productType extensionCount data
  have hshort : (displayidFields productType extensionCount data).length ≤ 127 := by omega
  have hsection : sectionLength (sealedBlock (displayidFields productType extensionCount data)) =
      data.length := by
    rw [sectionLength, byteAt_sealedBlock hshort (by omega)]
    change (UInt8.ofNat data.length).toNat = _
    rw [UInt8.toNat_ofNat']
    omega
  refine ⟨hsection, ?_, ?_⟩
  · rw [slice_sealedBlock hshort (by omega), displayidFields, displayidSection, append_assoc]
    exact @slice_at [DISPLAYID_EXTENSION_TAG, DISPLAYID_VERSION_1_3, .ofNat data.length,
      productType, extensionCount] data 5 data.length _ rfl rfl
  · have hbytes : sectionBytes (sealedBlock (displayidFields productType extensionCount data)) =
        displayidSection productType extensionCount data ++
          [checksum (displayidSection productType extensionCount data)] := by
      rw [sectionBytes, hsection, slice_sealedBlock hshort (by omega), displayidFields, slice,
        drop_one, tail_cons, take_of_length_le]
      simp [displayidSection]
      omega
    rw [hbytes, total_checksum]

/-- A data block with its header of three bytes. -/
def DisplayidRecord (r : List UInt8 × List UInt8) : Prop :=
  r.1.length = 3 ∧ byteAt r.1 2 = r.2.length

lemma blocks_displayidFields (productType extensionCount : UInt8)
    {records : List (List UInt8 × List UInt8)} (hrecords : ∀ r ∈ records, DisplayidRecord r)
    (h : (records.flatMap fun r => r.1 ++ r.2).length ≤ DISPLAYID_MAX_SECTION_BYTES) :
    displayidBlocks (sealedBlock (displayidFields productType extensionCount
      (records.flatMap fun r => r.1 ++ r.2))) = some records := by
  obtain ⟨hsection, hdata, -⟩ := read_displayidFields productType extensionCount h
  rw [displayidBlocks, hsection, hdata, displayidFramer, Framer.drain_counted hrecords]
  rfl

def productRecord (identity : EdidNumericIdentity) (name : List Char) : List UInt8 × List UInt8 :=
  ([DISPLAYID_PRODUCT_IDENTIFICATION_TAG, 0, .ofNat (12 + (utf8 name).length)],
    identity.pnpId.bytes ++ toLittle 2 identity.productCode.toNat ++
      toLittle 4 identity.serial.toNat ++ [0, 0, .ofNat (utf8 name).length] ++ utf8 name)

def parametersRecord (preferred : EdidMode) (audio : Bool) : List UInt8 × List UInt8 :=
  ([DISPLAYID_PARAMETERS_TAG, 0, 12],
    [0, 0, 0, 0] ++ toLittle 2 preferred.width.toUInt16.toNat ++
      toLittle 2 preferred.height.toUInt16.toNat ++
      [if audio then 0x80 else 0, 120, aspectRatioValue preferred, 0x77])

def timingRecord (preferred : EdidMode) (timing : DetailedTiming) : List UInt8 × List UInt8 :=
  ([DISPLAYID_TYPE_I_TIMING_TAG, 1, 20], typeITiming preferred timing)

lemma productRecord_valid (identity : EdidNumericIdentity) {name : List Char}
    (h : (utf8 name).length ≤ EDID_PRODUCT_NAME_MAX_BYTES) :
    DisplayidRecord (productRecord identity name) := by
  rw [EDID_PRODUCT_NAME_MAX_BYTES] at h
  refine ⟨rfl, ?_⟩
  change (UInt8.ofNat (12 + (utf8 name).length)).toNat = _
  rw [UInt8.toNat_ofNat']
  simp [productRecord, bytes]
  omega

lemma parametersRecord_valid (preferred : EdidMode) (audio : Bool) :
    DisplayidRecord (parametersRecord preferred audio) :=
  ⟨rfl, by simp [parametersRecord, byteAt]⟩

lemma timingRecord_valid (preferred : EdidMode) (timing : DetailedTiming) :
    DisplayidRecord (timingRecord preferred timing) :=
  ⟨rfl, by simp [timingRecord, byteAt]⟩

/-- A section with its product type, its extension count and its data blocks. -/
structure Section where
  (productType extensionCount : UInt8)
  records : List (List UInt8 × List UInt8)

namespace Section

def data (s : Section) : List UInt8 := s.records.flatMap fun r => r.1 ++ r.2

def fields (s : Section) : List UInt8 := displayidFields s.productType s.extensionCount s.data

structure Valid (s : Section) : Prop where
  records : ∀ r ∈ s.records, DisplayidRecord r
  length_le : s.data.length ≤ DISPLAYID_MAX_SECTION_BYTES

end Section

def sections (identity : EdidNumericIdentity) (name : List Char) (preferred : EdidMode)
    (audio : Bool) (timing : DetailedTiming) : List Section :=
  if (utf8 name).length ≤ 68 then
    [⟨DISPLAYID_PRODUCT_TYPE_TV, 0, [productRecord identity name, parametersRecord preferred audio,
      timingRecord preferred timing]⟩]
  else
    [⟨DISPLAYID_PRODUCT_TYPE_TV, 1, [productRecord identity name]⟩,
      ⟨0, 0, [parametersRecord preferred audio, timingRecord preferred timing]⟩]

lemma count_sections (identity : EdidNumericIdentity) (name : List Char) (preferred : EdidMode)
    (audio : Bool) (timing : DetailedTiming) :
    (sections identity name preferred audio timing).length =
      if (utf8 name).length ≤ 68 then 1 else 2 := by
  rw [sections]
  split_ifs <;> rfl

lemma displayidParts_eq (identity : EdidNumericIdentity) (name : Option (List Char))
    (preferred : EdidMode) (audio : Bool) (timing : DetailedTiming) :
    displayidParts (displayidProductBlock identity name)
        (displayidParametersBlock preferred audio) (typeITimingBlock preferred timing) =
      (sections identity (name.getD []) preferred audio timing).map Section.fields := by
  have hproduct : displayidProductBlock identity name =
      (productRecord identity (name.getD [])).1 ++ (productRecord identity (name.getD [])).2 := by
    simp [displayidProductBlock, productRecord]
  have hparameters : displayidParametersBlock preferred audio =
      (parametersRecord preferred audio).1 ++ (parametersRecord preferred audio).2 := by
    simp [displayidParametersBlock, parametersRecord]
  have hlength : (displayidProductBlock identity name).length +
      ((displayidParametersBlock preferred audio).length +
        (typeITimingBlock preferred timing).length) > DISPLAYID_MAX_SECTION_BYTES ↔
      ¬ (utf8 (name.getD [])).length ≤ 68 := by
    rw [length_displayidProductBlock, length_displayidParametersBlock, length_typeITimingBlock,
      DISPLAYID_MAX_SECTION_BYTES]
    omega
  rw [displayidParts, sections]
  by_cases hshort : (utf8 (name.getD [])).length ≤ 68
  · rw [if_neg (mt hlength.1 (not_not.2 hshort)), if_pos hshort, hproduct, hparameters]
    simp [Section.fields, Section.data, timingRecord, typeITimingBlock]
  · rw [if_pos (hlength.2 hshort), if_neg hshort, hproduct, hparameters]
    simp [Section.fields, Section.data, timingRecord, typeITimingBlock]

lemma sections_valid (identity : EdidNumericIdentity) {name : List Char} (preferred : EdidMode)
    (audio : Bool) (timing : DetailedTiming)
    (h : (utf8 name).length ≤ EDID_PRODUCT_NAME_MAX_BYTES) :
    ∀ s ∈ sections identity name preferred audio timing, s.Valid := by
  have hproduct := productRecord_valid identity h
  have hparameters := parametersRecord_valid preferred audio
  have htiming := timingRecord_valid preferred timing
  have hlp : ((productRecord identity name).1 ++ (productRecord identity name).2).length =
      15 + (utf8 name).length := by
    simp [productRecord, bytes]
    omega
  have hlq : ((parametersRecord preferred audio).1 ++
      (parametersRecord preferred audio).2).length = 15 := by
    simp [parametersRecord]
  have hlt : ((timingRecord preferred timing).1 ++
      (timingRecord preferred timing).2).length = 23 := by
    simp [timingRecord]
  rw [EDID_PRODUCT_NAME_MAX_BYTES] at h
  intro s hs
  rw [sections] at hs
  split_ifs at hs with hshort
  · obtain rfl := mem_singleton.1 hs
    refine ⟨by simp [hproduct, hparameters, htiming], ?_⟩
    rw [Section.data, flatMap_cons, length_append, hlp, flatMap_cons,
      length_append, hlq, flatMap_singleton, hlt, DISPLAYID_MAX_SECTION_BYTES]
    omega
  · simp only [mem_cons, not_mem_nil, or_false] at hs
    obtain rfl | rfl := hs
    · refine ⟨by simp [hproduct], ?_⟩
      rw [Section.data, flatMap_singleton, hlp, DISPLAYID_MAX_SECTION_BYTES]
      omega
    · refine ⟨by simp [hparameters, htiming], ?_⟩
      rw [Section.data, flatMap_cons, length_append, hlq, flatMap_singleton, hlt,
        DISPLAYID_MAX_SECTION_BYTES]
      omega

lemma displayidBlocks_section {s : Section} (h : s.Valid) :
    displayidBlocks (sealedBlock s.fields) = some s.records :=
  blocks_displayidFields s.productType s.extensionCount h.records h.length_le

lemma sections_head (identity : EdidNumericIdentity) (name : List Char) (preferred : EdidMode)
    (audio : Bool) (timing : DetailedTiming) :
    ∃ s rest records, sections identity name preferred audio timing = s :: rest ∧
      s.records = productRecord identity name :: records := by
  rw [sections]
  split_ifs
  · exact ⟨_, _, _, rfl, rfl⟩
  · exact ⟨_, _, _, rfl, rfl⟩

lemma productName_productRecord (identity : EdidNumericIdentity) {name : List Char}
    (h : (utf8 name).length ≤ EDID_PRODUCT_NAME_MAX_BYTES)
    (hascii : ∀ b ∈ utf8 name, b.toNat ≤ 0x7e) :
    productName (productRecord identity name).2 = name := by
  rw [EDID_PRODUCT_NAME_MAX_BYTES] at h
  have hbefore : (identity.pnpId.bytes ++ toLittle 2 identity.productCode.toNat ++
      toLittle 4 identity.serial.toNat ++ [0, 0]).length = 11 := by
    simp [bytes]
  have hpayload : (productRecord identity name).2 =
      identity.pnpId.bytes ++ toLittle 2 identity.productCode.toNat ++
        toLittle 4 identity.serial.toNat ++ [0, 0] ++
        ([UInt8.ofNat (utf8 name).length] ++ (utf8 name)) := by
    simp [productRecord]
  have hlength : byteAt (productRecord identity name).2 11 = (utf8 name).length := by
    rw [byteAt, getD_of_slice (hpayload ▸ slice_at (utf8 name) hbefore rfl), UInt8.toNat_ofNat']
    omega
  have hname : slice (productRecord identity name).2 12 (utf8 name).length = utf8 name := by
    rw [hpayload, ← append_assoc, slice_append_right _ (by simp [bytes]), slice]
    simp [bytes]
  rw [productName, hlength, hname, ofAscii_utf8 hascii]

end Pronk.Edid
