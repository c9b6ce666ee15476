import Pronk.Edid.Timing
import Pronk.Text

/-!
# Blocks of a generated EDID

Every block starts as zeros and is filled by writes at fixed or running offsets. An index
outside of the block panics; such a write is `none`, and so is a missing timing.
-/
namespace Pronk.Edid
open Bytes

def EDID_BLOCK_SIZE : ℕ := 128
def EDID_MAX_BLOCKS : ℕ := 4

def DISPLAYID_EXTENSION_TAG : UInt8 := 0x70
def DISPLAYID_VERSION_1_3 : UInt8 := 0x13
def DISPLAYID_PRODUCT_TYPE_TV : UInt8 := 4
def DISPLAYID_PRODUCT_IDENTIFICATION_TAG : UInt8 := 0x00
def CTA_EXTENSION_TAG : UInt8 := 0x02
def CTA_REVISION_3 : UInt8 := 0x03
def DISPLAYID_MAX_SECTION_BYTES : ℕ := 121
def DISPLAYID_PARAMETERS_TAG : UInt8 := 0x01
def DISPLAYID_TYPE_I_TIMING_TAG : UInt8 := 0x03

/-- A three-letter manufacturer identifier. -/
structure PnpId where
  (first second third : UInt8)
  uppercase : ∀ b ∈ [first, second, third], 0x41 ≤ b ∧ b ≤ 0x5a

def PnpId.bytes (id : PnpId) : List UInt8 := [id.first, id.second, id.third]

structure EdidNumericIdentity where
  pnpId : PnpId
  productCode : UInt16
  serial : UInt32

def pnpLetter (b : UInt8) : UInt16 := (b - 0x41 + 1).toUInt16

def encodePnpId (id : PnpId) : List UInt8 :=
  let value := pnpLetter id.first <<< (10 : UInt16) ||| pnpLetter id.second <<< (5 : UInt16) |||
    pnpLetter id.third
  (toLittle 2 value.toNat).reverse

/-! ## The base block -/

def BASE_DETAILED_TIMING_SLOTS : ℕ := 4

/-- The loop that gives the slots still free to the modes in their order. -/
def fillSelected : List EdidMode → List EdidMode → List EdidMode
  | selected, [] => selected
  | selected, mode :: rest =>
    if selected.length = BASE_DETAILED_TIMING_SLOTS then selected
    else if mode ∈ selected then fillSelected selected rest
    else fillSelected (selected ++ [mode]) rest

/-- A mode that the base block can only show by a detailed timing. -/
def needsDetailedTiming (mode : EdidMode) : Bool :=
  (establishedTimingBit mode).isNone && (standardTiming mode).isNone

def selectBaseDetailedModes : List EdidMode → Option (List EdidMode)
  | [] => none
  | first :: rest =>
    some (fillSelected
      (first :: (rest.filter needsDetailedTiming).take (BASE_DETAILED_TIMING_SLOTS - 1))
      (first :: rest))

def writeEstablishedTimings : List UInt8 → List EdidMode → Option (List UInt8)
  | bytes, [] => some bytes
  | bytes, mode :: rest =>
    match establishedTimingBit mode with
    | none => writeEstablishedTimings bytes rest
    | some (byte, bit) => do
      let old ← bytes[byte]?
      let bytes ← write bytes byte [old ||| 1 <<< UInt8.ofNat bit]
      writeEstablishedTimings bytes rest

/-- The modes that go to the standard-timing slots. -/
def standardTimings (modes detailed : List EdidMode) : List (List UInt8) :=
  ((modes.filter (· ∉ detailed)).filter fun mode => (establishedTimingBit mode).isNone).filterMap
    standardTiming

/-- Eight slots; those that no mode is zipped with stay unused. -/
def standardSlots (values : List (List UInt8)) : List (List UInt8) :=
  values.take 8 ++ (List.replicate 8 [0x01, 0x01]).drop values.length

def baseDescriptor (detailed : List EdidMode) (index : ℕ) : Option (List UInt8) :=
  match detailed[index]? with
  | some mode => (timingFor mode).map detailedTiming
  | none => some dummyDescriptor

def EDID_HEADER : List UInt8 := [0x00, 0xff, 0xff, 0xff, 0xff, 0xff, 0xff, 0x00]

def writeBaseBlock (block : List UInt8) (identity : EdidNumericIdentity) (modes : List EdidMode)
    (extensionCount : UInt8) : Option (List UInt8) := do
  let block ← write block 0 EDID_HEADER
  let block ← write block 8 (encodePnpId identity.pnpId)
  let block ← write block 10 (toLittle 2 identity.productCode.toNat)
  let block ← write block 12 (toLittle 4 identity.serial.toNat)
  -- Week, year, version, revision and input; the image size stays undefined.
  let block ← write block 16 [0, 30, 1, 4, 0x80]
  let block ← write block 23 [120, 0x0e]
  let block ← write block 25 [0xee, 0x91, 0xa3, 0x54, 0x4c, 0x99, 0x26, 0x0f, 0x50, 0x54]
  let established ← writeEstablishedTimings [0, 0, 0] modes
  let block ← write block 35 established
  let detailed ← selectBaseDetailedModes modes
  let block ← write block 38 (standardSlots (standardTimings modes detailed)).flatten
  let descriptors ← (List.range 4).mapM (baseDescriptor detailed)
  let block ← write block 54 descriptors.flatten
  write block 126 [extensionCount]

/-! ## The DisplayID extension -/

def displayidProductBlock (identity : EdidNumericIdentity) (productName : Option (List Char)) :
    List UInt8 :=
  let productName := utf8 (productName.getD [])
  [DISPLAYID_PRODUCT_IDENTIFICATION_TAG, 0, .ofNat (12 + productName.length)] ++
    identity.pnpId.bytes ++ toLittle 2 identity.productCode.toNat ++
    toLittle 4 identity.serial.toNat ++ [0, 0, .ofNat productName.length] ++ productName

def displayidParametersBlock (preferred : EdidMode) (audio : Bool) : List UInt8 :=
  [DISPLAYID_PARAMETERS_TAG, 0, 12, 0, 0, 0, 0] ++ toLittle 2 preferred.width.toUInt16.toNat ++
    toLittle 2 preferred.height.toUInt16.toNat ++
    [if audio then 0x80 else 0, 120, aspectRatioValue preferred, 0x77]

def displayidTypeITimingBlock (preferred : EdidMode) : Option (List UInt8) :=
  (timingFor preferred).map fun timing =>
    [DISPLAYID_TYPE_I_TIMING_TAG, 1, 20] ++ typeITiming preferred timing

def writeDisplayidExtension (block : List UInt8) (productType extensionCount : UInt8)
    (data : List UInt8) : Option (List UInt8) := do
  let block ← write block 0
    [DISPLAYID_EXTENSION_TAG, DISPLAYID_VERSION_1_3, .ofNat data.length, productType,
      extensionCount]
  let block ← write block 5 data
  write block (5 + data.length) [checksum (slice block 1 (4 + data.length))]

/-! ## The CTA extension -/

def hdmiVendorBlock (address : UInt16) : List UInt8 :=
  [0x65, 0x03, 0x0c, 0x00, (address >>> (8 : UInt16)).toUInt8, address.toUInt8]

/-- One short audio descriptor, and the allocation of two speakers. -/
def audioBlocks : List UInt8 := [0x23, 0x09, 0x04, 0x01] ++ [0x83, 0x01, 0x00, 0x00]

/-- `block[index] |= bits`. -/
def setBits (block : List UInt8) (index : ℕ) (bits : UInt8) : Option (List UInt8) := do
  let old ← block[index]?
  write block index [old ||| bits]

def writeHdmiBlock (block : List UInt8) (position : ℕ) :
    Option UInt16 → Option (List UInt8 × ℕ)
  | none => some (block, position)
  | some address => do
    let block ← write block position (hdmiVendorBlock address)
    some (block, position + 6)

def writeAudioBlocks (block : List UInt8) (position : ℕ) (audio : Bool) :
    Option (List UInt8 × ℕ) := do
  if audio then
    let block ← write block position audioBlocks
    let block ← setBits block 3 0x40
    some (block, position + 8)
  else some (block, position)

def writeCtaExtension (block : List UInt8) (modes : List EdidMode) (audio : Bool)
    (cecPhysicalAddress : Option UInt16) : Option (List UInt8) := do
  let block ← write block 0 [CTA_EXTENSION_TAG, CTA_REVISION_3]
  let position := 4
  let videoModes := modes.filterMap videoIdentificationCode
  let block ← write block position [0x40 ||| .ofNat videoModes.length]
  let position := position + 1
  let block ← write block position videoModes
  let position := position + videoModes.length
  let block ← write block position [0xe2, 0x00, 0x4a]
  let position := position + 3
  let (block, position) ← writeHdmiBlock block position cecPhysicalAddress
  let (block, position) ← writeAudioBlocks block position audio
  let block ← setBits block 3 0x81
  let block ← write block 2 [.ofNat position]
  let preferred ← modes.head?
  let timing ← timingFor preferred
  write block position (detailedTiming timing)

/-- `set_block_checksums` on one block. -/
def setBlockChecksum (block : List UInt8) : List UInt8 :=
  block.take (EDID_BLOCK_SIZE - 1) ++ [checksum (block.take (EDID_BLOCK_SIZE - 1))]

end Pronk.Edid
