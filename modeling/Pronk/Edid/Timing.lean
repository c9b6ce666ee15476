import Pronk.Library.Bytes

/-!
# Modes and their timings

The modes that a generated EDID can advertise, and the four ways in which one block or
another encodes a mode: a detailed timing, an established-timing bit, a standard timing and
a video identification code.
-/
namespace Pronk.Edid
open Bytes

/-- A mode by its size and rate. -/
structure EdidMode where
  (width height refreshMillihz : UInt32)
  deriving DecidableEq

/-- A timing in pixels and lines. -/
structure DetailedTiming where
  (clock10khz hactive hblank vactive vblank hfront hsync : UInt16)
  (vfront vsync features : UInt8)
  deriving DecidableEq

/-- The rows of `timing_for`. -/
def timings : List (EdidMode × DetailedTiming) :=
  [(⟨640, 480, 60000⟩, ⟨2518, 640, 160, 480, 45, 16, 96, 10, 2, 0x18⟩),
   (⟨1280, 720, 60000⟩, ⟨7425, 1280, 370, 720, 30, 110, 40, 5, 5, 0x1e⟩),
   (⟨800, 600, 60000⟩, ⟨4000, 800, 256, 600, 28, 40, 128, 1, 4, 0x1e⟩),
   (⟨1024, 768, 60000⟩, ⟨6500, 1024, 320, 768, 38, 24, 136, 3, 6, 0x18⟩),
   (⟨1280, 800, 60000⟩, ⟨7100, 1280, 160, 800, 23, 48, 32, 3, 6, 0x1a⟩),
   (⟨1280, 1024, 60000⟩, ⟨10800, 1280, 408, 1024, 42, 48, 112, 1, 3, 0x1e⟩),
   (⟨1366, 768, 60000⟩, ⟨8550, 1366, 426, 768, 30, 70, 143, 3, 3, 0x1e⟩),
   (⟨1440, 900, 60000⟩, ⟨8875, 1440, 160, 900, 26, 48, 32, 3, 6, 0x1a⟩),
   (⟨1600, 900, 60000⟩, ⟨9750, 1600, 160, 900, 26, 48, 32, 3, 5, 0x1a⟩),
   (⟨1680, 1050, 60000⟩, ⟨11900, 1680, 160, 1050, 30, 48, 32, 3, 6, 0x1a⟩),
   (⟨1920, 1080, 60000⟩, ⟨14850, 1920, 280, 1080, 45, 88, 44, 4, 5, 0x1e⟩),
   (⟨1920, 1200, 60000⟩, ⟨15400, 1920, 160, 1200, 35, 48, 32, 3, 6, 0x1a⟩),
   (⟨2560, 1440, 60000⟩, ⟨24150, 2560, 160, 1440, 41, 48, 32, 3, 5, 0x1a⟩),
   (⟨3840, 2160, 30000⟩, ⟨29700, 3840, 560, 2160, 90, 176, 88, 8, 10, 0x1e⟩),
   (⟨3840, 2160, 60000⟩, ⟨59400, 3840, 560, 2160, 90, 176, 88, 8, 10, 0x1e⟩)]

/-- The timing of a supported mode. -/
def timingFor (mode : EdidMode) : Option DetailedTiming := timings.lookup mode

/-- The byte and the bit of a mode among the established timings. -/
def establishedBits : List (EdidMode × ℕ × ℕ) :=
  [(⟨640, 480, 60000⟩, 0, 5), (⟨800, 600, 60000⟩, 0, 0), (⟨1024, 768, 60000⟩, 1, 3)]

def establishedTimingBit (mode : EdidMode) : Option (ℕ × ℕ) := establishedBits.lookup mode

def videoCodes : List (EdidMode × UInt8) :=
  [(⟨640, 480, 60000⟩, 1), (⟨1280, 720, 60000⟩, 4), (⟨1920, 1080, 60000⟩, 16),
   (⟨3840, 2160, 30000⟩, 95), (⟨3840, 2160, 60000⟩, 97)]

def videoIdentificationCode (mode : EdidMode) : Option UInt8 := videoCodes.lookup mode

/-- Euclid's loop. -/
def greatestCommonDivisor (left right : UInt32) : UInt32 := .ofNat (left.toNat.gcd right.toNat)

def reducedAspectRatio (mode : EdidMode) : UInt32 × UInt32 :=
  let divisor := greatestCommonDivisor mode.width mode.height
  (mode.width / divisor, mode.height / divisor)

def aspectRatioCode (mode : EdidMode) : UInt8 :=
  [((5, 4), 1), ((4, 3), 2), ((8, 5), 5)].lookup (reducedAspectRatio mode) |>.getD 4

def aspectRatioValue (mode : EdidMode) : UInt8 :=
  [((5, 4), 25), ((4, 3), 33), ((8, 5), 60)].lookup (reducedAspectRatio mode) |>.getD 78

/-- The aspect ratios of a standard timing. -/
def standardAspect : List ((UInt32 × UInt32) × UInt8) :=
  [((8, 5), 0), ((4, 3), 1), ((5, 4), 2), ((16, 9), 3)]

def standardTiming (mode : EdidMode) : Option (List UInt8) :=
  if mode.refreshMillihz ≠ 60000 ∨ mode.width % 8 ≠ 0 then none
  else
    let horizontal := mode.width / 8
    if ¬ (31 ≤ horizontal ∧ horizontal ≤ 286) then none
    else
      (standardAspect.lookup (reducedAspectRatio mode)).map fun aspect =>
        [(horizontal - 31).toUInt8, aspect <<< (6 : UInt8)]

/-- The upper four bits of two 12-bit numbers. -/
def highNibbles (active blank : UInt16) : UInt8 :=
  ((active >>> (4 : UInt16)).toUInt8 &&& 0xf0) ||| ((blank >>> (8 : UInt16)).toUInt8 &&& 0x0f)

def lowSyncNibbles (timing : DetailedTiming) : UInt8 :=
  (timing.vfront &&& 0x0f) <<< (4 : UInt8) ||| (timing.vsync &&& 0x0f)

def highSyncBits (timing : DetailedTiming) : UInt8 :=
  ((timing.hfront >>> (8 : UInt16)).toUInt8 &&& 0x03) <<< (6 : UInt8) |||
    ((timing.hsync >>> (8 : UInt16)).toUInt8 &&& 0x03) <<< (4 : UInt8) |||
    (timing.vfront >>> (4 : UInt8) &&& 0x03) <<< (2 : UInt8) |||
    (timing.vsync >>> (4 : UInt8) &&& 0x03)

/-- `write_detailed_timing` on a descriptor of zeros. -/
def detailedTiming (timing : DetailedTiming) : List UInt8 :=
  toLittle 2 timing.clock10khz.toNat ++
    [timing.hactive.toUInt8,
     timing.hblank.toUInt8,
     highNibbles timing.hactive timing.hblank,
     timing.vactive.toUInt8,
     timing.vblank.toUInt8,
     highNibbles timing.vactive timing.vblank,
     timing.hfront.toUInt8,
     timing.hsync.toUInt8,
     lowSyncNibbles timing,
     highSyncBits timing,
     0, 0, 0, 0, 0, timing.features]

/-- A descriptor that shows nothing. -/
def dummyDescriptor : List UInt8 := [0, 0, 0, 0x10, 0, 0, 0, 0, 0, 0, 0, 0, 0, 0, 0, 0, 0, 0]

def minusOne (value : UInt16) : List UInt8 := toLittle 2 (value - 1).toNat

def minusOneSync (value : UInt16) (positive : Bool) : List UInt8 :=
  [(value - 1).toUInt8,
   (((value - 1) >>> (8 : UInt16)).toUInt8 &&& 0x7f) ||| (if positive then 0x80 else 0)]

/-- The payload of the DisplayID Type I timing block. -/
def typeITiming (mode : EdidMode) (timing : DetailedTiming) : List UInt8 :=
  toLittle 3 (timing.clock10khz.toNat - 1) ++ [0x80 ||| aspectRatioCode mode] ++
    minusOne timing.hactive ++ minusOne timing.hblank ++
    minusOneSync timing.hfront (timing.features &&& 0x02 ≠ 0) ++ minusOne timing.hsync ++
    minusOne timing.vactive ++ minusOne timing.vblank ++
    minusOneSync timing.vfront.toUInt16 (timing.features &&& 0x04 ≠ 0) ++
    minusOne timing.vsync.toUInt16

end Pronk.Edid
