import Pronk.Edid.Build

/-!
# What the writers leave in their blocks

For the modes of an accepted request no write is out of range, and a block is the sequence
of its fields followed by zeros.
-/
namespace Pronk.Edid
open Bytes List

/-! ## Timings -/

lemma mem_of_lookup [BEq α] [LawfulBEq α] {table : List (α × β)} {key : α} {value : β}
    (h : table.lookup key = some value) : (key, value) ∈ table := by
  obtain ⟨before, after, heq, -⟩ := lookup_eq_some_iff.1 h
  rw [heq]
  simp

@[simp] lemma length_detailedTiming (timing : DetailedTiming) :
    (detailedTiming timing).length = 18 := by
  simp [detailedTiming]

@[simp] lemma length_typeITiming (mode : EdidMode) (timing : DetailedTiming) :
    (typeITiming mode timing).length = 20 := by
  simp [typeITiming, minusOne, minusOneSync]

@[simp] lemma length_encodePnpId (id : PnpId) : (encodePnpId id).length = 2 := by
  simp [encodePnpId]

/-! ## The base block -/

/-- The fields of the base block up to its checksum. -/
def baseFields (identity : EdidNumericIdentity) (established slots descriptors : List UInt8)
    (extensionCount : UInt8) : List UInt8 :=
  EDID_HEADER ++ encodePnpId identity.pnpId ++ toLittle 2 identity.productCode.toNat ++
    toLittle 4 identity.serial.toNat ++ [0, 30, 1, 4, 0x80] ++ replicate 2 0 ++ [120, 0x0e] ++
    [0xee, 0x91, 0xa3, 0x54, 0x4c, 0x99, 0x26, 0x0f, 0x50, 0x54] ++ established ++ slots ++
    descriptors ++ [extensionCount]

lemma writeBaseBlock_eq {identity : EdidNumericIdentity} {modes detailed : List EdidMode}
    {extensionCount : UInt8} {established : List UInt8} {descriptors : List (List UInt8)}
    (hestablished : writeEstablishedTimings [0, 0, 0] modes = some established)
    (hlength : established.length = 3)
    (hdetailed : selectBaseDetailedModes modes = some detailed)
    (hslots : (standardSlots (standardTimings modes detailed)).flatten.length = 16)
    (hdescriptors : (range 4).mapM (baseDescriptor detailed) = some descriptors)
    (hdlength : descriptors.flatten.length = 72) :
    writeBaseBlock (replicate EDID_BLOCK_SIZE 0) identity modes extensionCount =
      some (padded EDID_BLOCK_SIZE (baseFields identity established
        (standardSlots (standardTimings modes detailed)).flatten descriptors.flatten
        extensionCount)) := by
  have hskip (fields : List UInt8) (h : fields.length = 21) :
      write (padded 128 fields) 23 [120, 0x0e] =
        some (padded 128 (fields ++ replicate 2 0 ++ [120, 0x0e])) := by
    rw [padded_skip 2 (by omega), write_padded (by simp [h]) (by simp)]
  rw [writeBaseBlock, EDID_BLOCK_SIZE, ← padded_nil]
  simp (disch := simp [EDID_HEADER, hlength, hslots, hdlength]) only
    [write_padded, hskip, Option.bind_eq_bind, Option.bind_some, nil_append, hestablished,
      hdetailed, hdescriptors, baseFields]

/-! ## The DisplayID extension -/

/-- A section without its checksum. -/
def displayidSection (productType extensionCount : UInt8) (data : List UInt8) : List UInt8 :=
  [DISPLAYID_VERSION_1_3, .ofNat data.length, productType, extensionCount] ++ data

lemma writeDisplayidExtension_eq {productType extensionCount : UInt8} {data : List UInt8}
    (h : data.length ≤ DISPLAYID_MAX_SECTION_BYTES) :
    writeDisplayidExtension (replicate EDID_BLOCK_SIZE 0) productType extensionCount data =
      some (padded EDID_BLOCK_SIZE (DISPLAYID_EXTENSION_TAG ::
        (displayidSection productType extensionCount data ++
          [checksum (displayidSection productType extensionCount data)]))) := by
  have hsection : slice (padded 128 ([DISPLAYID_EXTENSION_TAG, DISPLAYID_VERSION_1_3,
        .ofNat data.length, productType, extensionCount] ++ data)) 1 (4 + data.length) =
      displayidSection productType extensionCount data := by
    rw [slice_padded (by simp; omega), slice, take_of_length_le (by simp; omega)]
    rfl
  rw [DISPLAYID_MAX_SECTION_BYTES] at h
  rw [writeDisplayidExtension, EDID_BLOCK_SIZE, ← padded_nil]
  simp (disch := ((try simp) <;> omega)) only [write_padded, Option.bind_eq_bind, Option.bind_some,
    nil_append, hsection]
  rfl

/-! ## The CTA extension -/

@[simp] lemma length_hdmiVendorBlock (address : UInt16) : (hdmiVendorBlock address).length = 6 :=
  rfl

@[simp] lemma length_audioBlocks : audioBlocks.length = 8 := rfl

def hdmiPart (cecPhysicalAddress : Option UInt16) : List UInt8 :=
  cecPhysicalAddress.elim [] hdmiVendorBlock

def audioPart (audio : Bool) : List UInt8 := if audio then audioBlocks else []

/-- The data block collection. -/
def ctaCollection (modes : List EdidMode) (audio : Bool) (cecPhysicalAddress : Option UInt16) :
    List UInt8 :=
  [0x40 ||| .ofNat (modes.filterMap videoIdentificationCode).length] ++
    modes.filterMap videoIdentificationCode ++ [0xe2, 0x00, 0x4a] ++
    hdmiPart cecPhysicalAddress ++ audioPart audio

def ctaFields (collection : List UInt8) (audio : Bool) (timing : DetailedTiming) : List UInt8 :=
  [CTA_EXTENSION_TAG, CTA_REVISION_3, .ofNat (4 + collection.length), if audio then 0xc1 else 0x81]
    ++ collection ++ detailedTiming timing

lemma setBits_padded (size : ℕ) (a b c d bits : UInt8) (rest : List UInt8) :
    setBits (padded size (a :: b :: c :: d :: rest)) 3 bits =
      some (padded size (a :: b :: c :: (d ||| bits) :: rest)) := by
  simp [setBits, write, padded]

lemma write_offset_padded (size : ℕ) (a b c d : UInt8) (rest : List UInt8) :
    write (padded size (a :: b :: c :: rest)) 2 [d] = some (padded size (a :: b :: d :: rest)) := by
  simp [write, padded]

lemma writeHdmiBlock_eq {fields : List UInt8} {position : ℕ} (cecPhysicalAddress : Option UInt16)
    (hposition : position = fields.length) (hfits : position + 6 ≤ 128) :
    writeHdmiBlock (padded 128 fields) position cecPhysicalAddress =
      some (padded 128 (fields ++ hdmiPart cecPhysicalAddress),
        position + (hdmiPart cecPhysicalAddress).length) := by
  cases cecPhysicalAddress with
  | none => simp [writeHdmiBlock, hdmiPart]
  | some address =>
    rw [writeHdmiBlock, write_padded hposition (by simpa using hfits)]
    rfl

lemma writeAudioBlocks_eq {a b c d : UInt8} {rest : List UInt8} {position : ℕ} (audio : Bool)
    (hposition : position = rest.length + 4) (hfits : position + 8 ≤ 128) :
    writeAudioBlocks (padded 128 (a :: b :: c :: d :: rest)) position audio =
      some (padded 128 (a :: b :: c :: (if audio then d ||| 0x40 else d) ::
        (rest ++ audioPart audio)), position + (audioPart audio).length) := by
  cases audio with
  | false => simp [writeAudioBlocks, audioPart]
  | true =>
    rw [writeAudioBlocks, if_pos rfl, write_padded hposition (by simpa using hfits)]
    simp only [cons_append, Option.bind_eq_bind, Option.bind_some, setBits_padded]
    rfl

lemma writeCtaExtension_eq {modes : List EdidMode} {preferred : EdidMode} {audio : Bool}
    {cecPhysicalAddress : Option UInt16} {timing : DetailedTiming}
    (hpreferred : modes.head? = some preferred) (htiming : timingFor preferred = some timing)
    (hcodes : (modes.filterMap videoIdentificationCode).length ≤ 5) :
    writeCtaExtension (replicate EDID_BLOCK_SIZE 0) modes audio cecPhysicalAddress =
      some (padded EDID_BLOCK_SIZE (ctaFields
        (ctaCollection modes audio cecPhysicalAddress) audio timing)) := by
  have hhdmi : (hdmiPart cecPhysicalAddress).length ≤ 6 := by
    cases cecPhysicalAddress <;> simp [hdmiPart]
  have haudio : (audioPart audio).length ≤ 8 := by
    cases audio <;> simp [audioPart]
  have hflags : (if audio then (0 : UInt8) ||| 0x40 else 0) ||| 0x81 =
      if audio then 0xc1 else 0x81 := by
    cases audio <;> rfl
  generalize hvideo : modes.filterMap videoIdentificationCode = video at hcodes
  have hstart : write (padded 128 []) 0 [CTA_EXTENSION_TAG, CTA_REVISION_3] =
      some (padded 128 [CTA_EXTENSION_TAG, CTA_REVISION_3]) := write_padded rfl (by decide)
  -- The two bytes that are skipped here are filled in at the end.
  have hvideoHeader (header : UInt8) :
      write (padded 128 [CTA_EXTENSION_TAG, CTA_REVISION_3]) 4 [header] =
        some (padded 128 [CTA_EXTENSION_TAG, CTA_REVISION_3, 0, 0, header]) := by
    rw [padded_skip 2 (by decide)]
    exact write_padded rfl (by simp)
  have hcodesWritten (header : UInt8) :
      write (padded 128 [CTA_EXTENSION_TAG, CTA_REVISION_3, 0, 0, header]) (4 + 1) video =
        some (padded 128 ([CTA_EXTENSION_TAG, CTA_REVISION_3, 0, 0, header] ++ video)) :=
    write_padded rfl (by omega)
  have hcapability (header : UInt8) :
      write (padded 128 ([CTA_EXTENSION_TAG, CTA_REVISION_3, 0, 0, header] ++ video))
          (4 + 1 + video.length) [0xe2, 0x00, 0x4a] =
        some (padded 128 ([CTA_EXTENSION_TAG, CTA_REVISION_3, 0, 0, header] ++ video ++
          [0xe2, 0x00, 0x4a])) :=
    write_padded (by simp; omega) (by simp; omega)
  have hend : 4 + 1 + video.length + 3 + (hdmiPart cecPhysicalAddress).length +
      (audioPart audio).length =
        4 + (ctaCollection modes audio cecPhysicalAddress).length := by
    simp only [ctaCollection, hvideo, length_append, length_cons, length_nil]
    omega
  rw [writeCtaExtension, EDID_BLOCK_SIZE, ← padded_nil, hstart, hvideo]
  simp only [Option.bind_eq_bind, Option.bind_some, hvideoHeader, hcodesWritten, hcapability]
  rw [writeHdmiBlock_eq _ (by simp; omega) (by omega)]
  simp only [Option.bind_some, cons_append, nil_append]
  rw [writeAudioBlocks_eq _ (by simp; omega) (by omega)]
  simp only [Option.bind_some, setBits_padded, write_offset_padded, hpreferred, htiming]
  rw [write_padded (by simp; omega) (by simp; omega), hflags, hend, ctaFields, ctaCollection,
    hvideo]
  simp only [cons_append, nil_append, append_assoc]

end Pronk.Edid
