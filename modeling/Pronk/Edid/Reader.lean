import Pronk.Edid.Build
import Pronk.Library.Framing

/-!
# Reading an EDID

What a display stack takes from the bytes: the identity of the monitor, its name, its audio
and CEC capabilities and the modes it shows. Nothing here refers to how the blocks were
written.
-/
namespace Pronk.Edid.Reader
open Bytes Framing

def byteAt (bytes : List UInt8) (index : ℕ) : ℕ := (bytes.getD index 0).toNat

def blocks (bytes : List UInt8) : List (List UInt8) := chunks EDID_BLOCK_SIZE bytes

/-- The extension blocks with a tag. -/
def extensions (tag : UInt8) (bytes : List UInt8) : List (List UInt8) :=
  (blocks bytes).tail.filter fun block => block.head? = some tag

/-- Records that leave nothing over. -/
def complete : Except Empty (List α × List UInt8) → Option (List α)
  | .ok (records, []) => some records
  | _ => none

/-! ## DisplayID sections -/

def sectionLength (block : List UInt8) : ℕ := byteAt block 2

/-- From the version to the checksum. -/
def sectionBytes (block : List UInt8) : List UInt8 := slice block 1 (4 + sectionLength block + 1)

def displayidFramer : Framer UInt8 (List UInt8 × List UInt8) Empty :=
  .counted 3 (by decide) fun header => byteAt header 2

def displayidBlocks (block : List UInt8) : Option (List (List UInt8 × List UInt8)) :=
  complete (displayidFramer.drain (slice block 5 (sectionLength block)))

/-- The payloads of the data blocks with a tag. -/
def displayidPayloads (tag : UInt8) (block : List UInt8) : List (List UInt8) :=
  (((displayidBlocks block).getD []).filter fun r => r.1.head? = some tag).map Prod.snd

/-! ## CTA data blocks -/

/-- Where the data blocks end and the detailed timings start. -/
def timingOffset (block : List UInt8) : ℕ := byteAt block 2

/-- The first byte of a data block has its tag in the upper three bits. -/
def ctaFramer : Framer UInt8 (List UInt8 × List UInt8) Empty :=
  .counted 1 (by decide) fun header => byteAt header 0 % 32

def ctaBlocks (block : List UInt8) : Option (List (List UInt8 × List UInt8)) :=
  complete (ctaFramer.drain (slice block 4 (timingOffset block - 4)))

def ctaPayloads (tag : ℕ) (block : List UInt8) : List (List UInt8) :=
  (((ctaBlocks block).getD []).filter fun r => byteAt r.1 0 / 32 = tag).map Prod.snd

/-! ## Identity, name and capabilities -/

/-- What a reader finds in an EDID. -/
structure Decoded where
  pnpId : List UInt8
  (productCode serial : ℕ)
  displayName : List Char
  basicAudio : Bool
  audioDescriptors : List (List UInt8)
  cecPhysicalAddress : Option ℕ

/-- Five bits for each letter, the first one uppermost. -/
def pnpLetters (value : ℕ) : List UInt8 :=
  [value / 1024 % 32, value / 32 % 32, value % 32].map fun n => .ofNat (0x40 + n)

/-- The name at the end of a product identification block. -/
def productName (payload : List UInt8) : List Char :=
  ofAscii (slice payload 12 (byteAt payload 11))

/-- The physical address in the block of the HDMI vendor. -/
def hdmiAddress (payload : List UInt8) : Option ℕ :=
  if slice payload 0 3 = [0x03, 0x0c, 0x00] then some (ofLittle (slice payload 3 2).reverse)
  else none

/-- The identity, audio and CEC address of an EDID. -/
def decode (bytes : List UInt8) : Option Decoded := do
  let cta ← (extensions CTA_EXTENSION_TAG bytes).head?
  let displayid ← (extensions DISPLAYID_EXTENSION_TAG bytes).head?
  let product ← (displayidPayloads DISPLAYID_PRODUCT_IDENTIFICATION_TAG displayid).head?
  some
    { pnpId := pnpLetters (ofLittle (slice bytes 8 2).reverse)
      productCode := ofLittle (slice bytes 10 2)
      serial := ofLittle (slice bytes 12 4)
      displayName := productName product
      basicAudio := (byteAt cta 3).testBit 6
      audioDescriptors := ctaPayloads 1 cta
      cecPhysicalAddress := (ctaPayloads 3 cta).findSome? hdmiAddress }

/-! ## Modes -/

/-- A detailed timing has a pixel clock; other descriptors have none. -/
def readDetailed (descriptor : List UInt8) : Option DetailedTiming :=
  let byte := byteAt descriptor
  if ofLittle (slice descriptor 0 2) = 0 then none
  else some
    { clock10khz := .ofNat (ofLittle (slice descriptor 0 2))
      hactive := .ofNat (byte 2 + 256 * (byte 4 / 16))
      hblank := .ofNat (byte 3 + 256 * (byte 4 % 16))
      vactive := .ofNat (byte 5 + 256 * (byte 7 / 16))
      vblank := .ofNat (byte 6 + 256 * (byte 7 % 16))
      hfront := .ofNat (byte 8 + 256 * (byte 11 / 64))
      hsync := .ofNat (byte 9 + 256 * (byte 11 / 16 % 4))
      vfront := .ofNat (byte 10 / 16 + 16 * (byte 11 / 4 % 4))
      vsync := .ofNat (byte 10 % 16 + 16 * (byte 11 % 4))
      features := .ofNat (byte 17) }

/-- A DisplayID Type I timing; its numbers are one less, and the sync pulses carry their
polarity. Digital separate sync is implied. -/
def readTypeI (payload : List UInt8) : DetailedTiming where
  clock10khz := .ofNat (ofLittle (slice payload 0 3) + 1)
  hactive := .ofNat (ofLittle (slice payload 4 2) + 1)
  hblank := .ofNat (ofLittle (slice payload 6 2) + 1)
  hfront := .ofNat (ofLittle (slice payload 8 2) % 0x8000 + 1)
  hsync := .ofNat (ofLittle (slice payload 10 2) + 1)
  vactive := .ofNat (ofLittle (slice payload 12 2) + 1)
  vblank := .ofNat (ofLittle (slice payload 14 2) + 1)
  vfront := .ofNat (ofLittle (slice payload 16 2) % 0x8000 + 1)
  vsync := .ofNat (ofLittle (slice payload 18 2) + 1)
  features := .ofNat (0x18 + 2 * (byteAt payload 9 / 128) + 4 * (byteAt payload 17 / 128))

/-- The mode of a timing; its refresh rate to the nearest hertz. -/
def modeOfTiming (timing : DetailedTiming) : EdidMode :=
  let pixels := (timing.hactive.toNat + timing.hblank.toNat) *
    (timing.vactive.toNat + timing.vblank.toNat)
  ⟨timing.hactive.toUInt32, timing.vactive.toUInt32,
    .ofNat ((2 * 10000 * timing.clock10khz.toNat + pixels) / (2 * pixels) * 1000)⟩

def baseTimings (bytes : List UInt8) : List DetailedTiming :=
  (chunks 18 (slice bytes 54 72)).filterMap readDetailed

def ctaTimings (bytes : List UInt8) : List DetailedTiming :=
  (extensions CTA_EXTENSION_TAG bytes).flatMap fun block =>
    (chunks 18 (slice block (timingOffset block) (127 - timingOffset block))).filterMap readDetailed

def displayidTimings (bytes : List UInt8) : List DetailedTiming :=
  (extensions DISPLAYID_EXTENSION_TAG bytes).flatMap fun block =>
    (displayidPayloads DISPLAYID_TYPE_I_TIMING_TAG block).flatMap fun payload =>
      (chunks 20 payload).map readTypeI

/-- The bits that are set among the established timings. -/
def establishedBits (bytes : List UInt8) : List (ℕ × ℕ) :=
  (List.range 3).flatMap fun byte =>
    ((List.range 8).filter fun bit => (byteAt bytes (35 + byte)).testBit bit).map fun bit =>
      (byte, bit)

/-- The modes of three of these bits; the others stand for modes that are not supported. -/
def modeOfBit (bit : ℕ × ℕ) : Option EdidMode :=
  [((0, 5), ⟨640, 480, 60000⟩), ((0, 0), ⟨800, 600, 60000⟩), ((1, 3), ⟨1024, 768, 60000⟩)].lookup
    bit

def standardCodes (bytes : List UInt8) : List (List UInt8) :=
  (chunks 2 (slice bytes 38 16)).filter (· ≠ [0x01, 0x01])

def modeOfStandard (code : List UInt8) : EdidMode :=
  let width := (byteAt code 0 + 31) * 8
  let height := match byteAt code 1 / 64 with
    | 0 => width * 10 / 16
    | 1 => width * 3 / 4
    | 2 => width * 4 / 5
    | _ => width * 9 / 16
  ⟨.ofNat width, .ofNat height, .ofNat ((byteAt code 1 % 64 + 60) * 1000)⟩

def shortVideoDescriptors (bytes : List UInt8) : List UInt8 :=
  (extensions CTA_EXTENSION_TAG bytes).flatMap fun block => (ctaPayloads 2 block).flatten

/-- The codes of the supported modes among those of the CTA standard. -/
def modeOfCode (code : UInt8) : Option EdidMode :=
  [((1 : UInt8), ⟨640, 480, 60000⟩), (4, ⟨1280, 720, 60000⟩), (16, ⟨1920, 1080, 60000⟩),
   (95, ⟨3840, 2160, 30000⟩), (97, ⟨3840, 2160, 60000⟩)].lookup code

/-- All that the base block and the CTA extension show; `none` is a mode that is not
supported. -/
def advertised (bytes : List UInt8) : List (Option EdidMode) :=
  (baseTimings bytes ++ ctaTimings bytes).map (some ∘ modeOfTiming) ++
    (establishedBits bytes).map modeOfBit ++ (standardCodes bytes).map (some ∘ modeOfStandard) ++
    (shortVideoDescriptors bytes).map modeOfCode

end Pronk.Edid.Reader
