import Pronk.Edid.Blocks
import Pronk.Library.Fallible

/-!
# Building the EDID of a cast display

The request is validated, its numeric identity is derived by hashing, and the blocks are
assembled and checked as any EDID is before it is given to the driver.
-/
namespace Pronk.Edid
open Bytes

def EDID_PRODUCT_NAME_MAX_BYTES : ℕ := 106
def MAX_EDID_MODES : ℕ := 16

/-- What an EDID is asked to say. -/
structure CastDisplayEdidRequest where
  pnpId : PnpId
  (manufacturerName productName displayName : Option String)
  (backendId deviceId : String)
  modes : List EdidMode
  audio : Bool
  cecPhysicalAddress : Option UInt16

inductive EdidError where
  | InvalidSize (actual : ℕ)
  | InvalidHeader
  | ExtensionCount (declared actual : ℕ)
  | InvalidChecksum (block : ℕ)
  deriving DecidableEq

inductive CastDisplayEdidError where
  | Empty (field : String)
  | TooLong (field : String) (actual maximum : ℕ)
  | ControlCharacter (field : String)
  | NonPrintableProductName
  | NoModes
  | TooManyModes (count : ℕ)
  | InvalidCecPhysicalAddress (address : UInt16)
  | UnsupportedMode (mode : EdidMode)
  | DuplicateMode (mode : EdidMode)
  | MissingRequired640x480
  | Framing (error : EdidError)
  deriving DecidableEq

/-! ## Framing -/

def validateEdid (bytes : List UInt8) : Except EdidError Unit :=
  if bytes = [] ∨ bytes.length > EDID_BLOCK_SIZE * EDID_MAX_BLOCKS ∨
      bytes.length % EDID_BLOCK_SIZE ≠ 0 then .error (.InvalidSize bytes.length)
  else if slice bytes 0 EDID_HEADER.length ≠ EDID_HEADER then .error .InvalidHeader
  else
    let actualExtensions := bytes.length / EDID_BLOCK_SIZE - 1
    let declaredExtensions := (bytes.getD 126 0).toNat
    if declaredExtensions ≠ actualExtensions then
      .error (.ExtensionCount declaredExtensions actualExtensions)
    else
      match (chunks EDID_BLOCK_SIZE bytes).findIdx? fun block => total block ≠ 0 with
      | some block => .error (.InvalidChecksum block)
      | none => .ok ()

structure ValidatedEdid where
  bytes : List UInt8
  valid : validateEdid bytes = .ok ()

def ValidatedEdid.new (bytes : List UInt8) : Except EdidError ValidatedEdid :=
  match h : validateEdid bytes with
  | .ok () => .ok ⟨bytes, h⟩
  | .error e => .error e

/-! ## Validation of a request -/

def validateStableId (field value : String) (maximum : ℕ) : Except CastDisplayEdidError Unit :=
  if value = "" then .error (.Empty field)
  else if (utf8 value.toList).length > maximum then
    .error (.TooLong field (utf8 value.toList).length maximum)
  else if value.toList.any isControl then .error (.ControlCharacter field)
  else .ok ()

def validateManufacturerName (value : Option String) :
    Except CastDisplayEdidError (Option (List Char)) :=
  match value with
  | none => .ok none
  | some value =>
    let value := trim value.toList
    if value = [] then .ok none
    else if (utf8 value).length > 128 then
      .error (.TooLong "manufacturer name" (utf8 value).length 128)
    else if value.any isControl then .error (.ControlCharacter "manufacturer name")
    else .ok (some value)

def validateProductName (value : Option String) :
    Except CastDisplayEdidError (Option (List Char)) :=
  match value with
  | none => .ok none
  | some value =>
    let value := trim value.toList
    if value = [] then .ok none
    else if (utf8 value).length > EDID_PRODUCT_NAME_MAX_BYTES then
      .error (.TooLong "product name" (utf8 value).length EDID_PRODUCT_NAME_MAX_BYTES)
    else if ¬ (utf8 value).all fun byte => 0x20 ≤ byte ∧ byte ≤ 0x7e then
      .error .NonPrintableProductName
    else .ok (some value)

/-- The loop over the modes; `unique` holds those already seen. -/
def validateEachMode : List EdidMode → List EdidMode → Except CastDisplayEdidError Unit
  | _, [] => .ok ()
  | unique, mode :: rest =>
    if (timingFor mode).isNone then .error (.UnsupportedMode mode)
    else if mode ∈ unique then .error (.DuplicateMode mode)
    else validateEachMode (mode :: unique) rest

def validateModes (modes : List EdidMode) : Except CastDisplayEdidError Unit := do
  if modes = [] then .error .NoModes
  else if modes.length > MAX_EDID_MODES then .error (.TooManyModes modes.length)
  else
    validateEachMode [] modes
    if ¬ (⟨640, 480, 60000⟩ : EdidMode) ∈ modes then .error .MissingRequired640x480
    else .ok ()

/-- After the first zero all digits must be zero. -/
def validNibbles : Bool → List UInt16 → Bool
  | _, [] => true
  | zeroSeen, nibble :: rest =>
    if nibble = 0 then validNibbles true rest else !zeroSeen && validNibbles zeroSeen rest

def validateCecPhysicalAddress (address : UInt16) : Except CastDisplayEdidError Unit :=
  if address = 0 ∨ address = 0xffff then .error (.InvalidCecPhysicalAddress address)
  else
    let nibbles := [address >>> (12 : UInt16), address >>> (8 : UInt16) &&& 0x0f,
      address >>> (4 : UInt16) &&& 0x0f, address &&& 0x0f]
    if validNibbles false nibbles then .ok () else .error (.InvalidCecPhysicalAddress address)

def validateOptionalCecAddress : Option UInt16 → Except CastDisplayEdidError Unit
  | none => .ok ()
  | some address => validateCecPhysicalAddress address

structure ValidatedNames where
  (manufacturerName productName displayName : Option (List Char))
  deriving DecidableEq

/-- Every check of a request. -/
def validateRequest (request : CastDisplayEdidRequest) :
    Except CastDisplayEdidError ValidatedNames := do
  validateStableId "backend ID" request.backendId 64
  validateStableId "device ID" request.deviceId 256
  let manufacturerName ← validateManufacturerName request.manufacturerName
  let productName ← validateProductName request.productName
  let displayName ← validateProductName request.displayName
  validateModes request.modes
  validateOptionalCecAddress request.cecPhysicalAddress
  .ok ⟨manufacturerName, productName, displayName⟩

/-! ## The numeric identity -/

/-- What comes from other crates: a digest and the tables of Unicode. -/
structure Primitives where
  sha256 : List UInt8 → Vector UInt8 32
  nfkc : List Char → List Char
  toLowercase : Char → List Char

section Identity

variable (env : Primitives)

/-- A turn of the two normalisation loops: a separator is remembered, and written as one
space before the next character that is kept. -/
def pushSeparated (separator : Bool) (state : List Char × Bool) (c : Char) : List Char × Bool :=
  let (result, pendingSpace) := state
  if separator then (result, !result.isEmpty)
  else if pendingSpace then (result ++ [' ', c], false)
  else (result ++ [c], pendingSpace)

def normalizeManufacturerName (value : List Char) : List Char :=
  (((env.nfkc value).flatMap env.toLowercase).foldl (fun state c =>
    if c = '.' then state else pushSeparated (c = ',' || isWhitespace c) state c) ([], false)).1

def normalizeHashField (value : List Char) : List Char :=
  (((env.nfkc value).flatMap env.toLowercase).foldl (fun state c =>
    pushSeparated (isWhitespace c) state c) ([], false)).1

def deriveHash (domain : List UInt8) (fields : List (List UInt8)) : Vector UInt8 32 :=
  env.sha256 (domain ++ fields.flatMap fun field => toLittle 4 field.length ++ field)

def PRODUCT_CODE_DOMAIN : List UInt8 :=
  utf8 "io.github.pronkproject.Pronk.edid-product-code.v1\x00".toList
def SERIAL_DOMAIN : List UInt8 :=
  utf8 "io.github.pronkproject.Pronk.edid-serial.v1\x00".toList

def nonzeroU16 (hash : Vector UInt8 32) : UInt16 :=
  let value := UInt16.ofNat (ofLittle (hash.toList.take 2))
  if value = 0 then 1 else value

def nonzeroU32 (hash : Vector UInt8 32) : UInt32 :=
  let value := UInt32.ofNat (ofLittle (hash.toList.take 4))
  if value = 0 then 1 else value

def manufacturerKey (pnpId : PnpId) (manufacturerName : Option (List Char)) : List UInt8 :=
  match manufacturerName.map (normalizeManufacturerName env) with
  | some (c :: rest) => utf8 (c :: rest)
  | _ => pnpId.bytes.map (· + 0x20)

/-- The numbers that identify the display. -/
def numericIdentity (request : CastDisplayEdidRequest) (names : ValidatedNames) :
    EdidNumericIdentity where
  pnpId := request.pnpId
  productCode := nonzeroU16 (deriveHash env PRODUCT_CODE_DOMAIN
    [manufacturerKey env request.pnpId names.manufacturerName,
      utf8 ((names.productName.map (normalizeHashField env)).getD [])])
  serial := nonzeroU32 (deriveHash env SERIAL_DOMAIN
    [utf8 request.backendId.toList, utf8 request.deviceId.toList])

end Identity

/-! ## Assembly -/

/-- The bytes of the EDID: each writer has a slice of its own. -/
def edidBytes (identity : EdidNumericIdentity) (displayName : Option (List Char))
    (request : CastDisplayEdidRequest) : Option (List UInt8) := do
  let preferred ← request.modes.head?
  let productBlock := displayidProductBlock identity displayName
  let parametersBlock := displayidParametersBlock preferred request.audio
  let timingBlock ← displayidTypeITimingBlock preferred
  let requiredLength := parametersBlock.length + timingBlock.length
  let needsContinuation := productBlock.length + requiredLength > DISPLAYID_MAX_SECTION_BYTES
  let displayidBlockCount := if needsContinuation then 2 else 1
  let totalBlockCount := 1 + displayidBlockCount + 1
  let zeros := List.replicate EDID_BLOCK_SIZE 0
  let base ← writeBaseBlock zeros identity request.modes (.ofNat (totalBlockCount - 1))
  let cta ← writeCtaExtension zeros request.modes request.audio request.cecPhysicalAddress
  let displayid ← if needsContinuation then do
      let first ← writeDisplayidExtension zeros DISPLAYID_PRODUCT_TYPE_TV 1 productBlock
      let second ← writeDisplayidExtension zeros 0 0 (parametersBlock ++ timingBlock)
      some [first, second]
    else do
      let only ← writeDisplayidExtension zeros DISPLAYID_PRODUCT_TYPE_TV 0
        (productBlock ++ parametersBlock ++ timingBlock)
      some [only]
  some (([base, cta] ++ displayid).map setBlockChecksum).flatten

structure GeneratedCastDisplayEdid where
  identity : EdidNumericIdentity
  displayName : Option (List Char)
  modes : List EdidMode
  audio : Bool
  cecPhysicalAddress : Option UInt16
  edid : ValidatedEdid

/-- `none` is a panic. -/
def buildCastDisplayEdid (env : Primitives) (request : CastDisplayEdidRequest) :
    Option (Except CastDisplayEdidError GeneratedCastDisplayEdid) :=
  match validateRequest request with
  | .error e => some (.error e)
  | .ok names =>
    let identity := numericIdentity env request names
    (edidBytes identity names.displayName request).map fun bytes =>
      match ValidatedEdid.new bytes with
      | .error e => .error (.Framing e)
      | .ok edid =>
        .ok ⟨identity, names.displayName, request.modes, request.audio,
          request.cecPhysicalAddress, edid⟩

end Pronk.Edid
