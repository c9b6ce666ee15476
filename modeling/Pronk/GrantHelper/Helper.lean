import Pronk.GrantHelper.Wire

/-!
# The protocol of the grant helper, as the helper speaks it

The privileged helper has a codec of its own, in another language. It reads and writes single
bytes, checks in another order and knows the three messages only from its own side. A null
pointer is `none`, and so is a store outside of the output array.
-/
namespace Pronk.GrantHelper.Helper
open Bytes Fallible

inductive ProtocolError where
  | LENGTH
  | ALIGNMENT
  | MAGIC
  | MAJOR
  | MINOR
  | MESSAGE_TYPE
  | HEADER_LENGTH
  | DECLARED_LENGTH
  | FLAGS
  | RESERVED
  | REQUEST_ID
  | PROFILE
  | STATUS
  | FAILURE_METADATA
  | SUCCESS_STAGE

def MESSAGE_HELLO : UInt16 := 1
def MESSAGE_CREATE_REQUEST : UInt16 := 2
def MESSAGE_CREATE_RESULT : UInt16 := 3

def GRANT_PROFILE_DISPLAY_V1 : UInt16 := 1
def GRANT_PROFILE_DISPLAY_CEC_V1 : UInt16 := 2
def GRANT_PROFILE_DISPLAY_CEC_AUDIO_V1 : UInt16 := 3

def DIAGNOSTIC_STAGE_NONE : UInt32 := 0

structure HelperHello where
  (buildMajor buildMinor buildPatch pkexecUid helperPid parentPid supportedProfiles : UInt32)
  helperFeatures : UInt32

@[ext] structure CreateRequest where
  requestId : UInt64
  (expectedDaemonPid deviceMajor deviceMinor connectorId : UInt32)
  profile : UInt16

structure CreateResult where
  requestId : UInt64
  status : Int32
  (diagnosticStage grantId connectorId outputIndex actualRights grantFlags : UInt32)
  initialGrantState : UInt32
  (captureUapiMajor captureUapiMinor : UInt16)
  helperFeatures : UInt32

/-! ## Fields -/

section Fields

variable (bytes : List UInt8) (offset : ℕ)

def getU16 (h : offset + 2 ≤ bytes.length) : UInt16 :=
  (bytes.get ⟨offset, by omega⟩).toUInt16 |||
    (bytes.get ⟨offset + 1, by omega⟩).toUInt16 <<< (8 : UInt16)

def getU32 (h : offset + 4 ≤ bytes.length) : UInt32 :=
  (bytes.get ⟨offset, by omega⟩).toUInt32 |||
    (bytes.get ⟨offset + 1, by omega⟩).toUInt32 <<< (8 : UInt32) |||
    (bytes.get ⟨offset + 2, by omega⟩).toUInt32 <<< (16 : UInt32) |||
    (bytes.get ⟨offset + 3, by omega⟩).toUInt32 <<< (24 : UInt32)

def getU64 (h : offset + 8 ≤ bytes.length) : UInt64 :=
  (getU32 bytes offset (by omega)).toUInt64 |||
    (getU32 bytes (offset + 4) (by omega)).toUInt64 <<< (32 : UInt64)

def putU16 (value : UInt16) : Option (List UInt8) := do
  let bytes ← write bytes offset [value.toUInt8]
  write bytes (offset + 1) [(value >>> (8 : UInt16)).toUInt8]

def putU32 (value : UInt32) : Option (List UInt8) := do
  let bytes ← write bytes offset [value.toUInt8]
  let bytes ← write bytes (offset + 1) [(value >>> (8 : UInt32)).toUInt8]
  let bytes ← write bytes (offset + 2) [(value >>> (16 : UInt32)).toUInt8]
  write bytes (offset + 3) [(value >>> (24 : UInt32)).toUInt8]

def putI32 (value : Int32) : Option (List UInt8) := putU32 bytes offset value.toUInt32

def putU64 (value : UInt64) : Option (List UInt8) := do
  let bytes ← putU32 bytes offset value.toUInt32
  putU32 bytes (offset + 4) (value >>> (32 : UInt64)).toUInt32

end Fields

/-! ## Decoding a request -/

/-- The ID of a request whose header was accepted, and its length. -/
structure RequestHeader (input : List UInt8) where
  requestId : UInt64
  length_eq : input.length = CREATE_REQUEST_LENGTH

/-- The helper accepts requests only. -/
def decodeRequestHeader (input : List UInt8) : Except ProtocolError (RequestHeader input) := do
  let length := input.length
  let sized ← require (¬ (length < HEADER_LENGTH ∨ length > MAX_MESSAGE_LENGTH ∨
    length ≠ CREATE_REQUEST_LENGTH)) .LENGTH
  have hlength : input.length = 64 := not_not.1 fun hne => sized.down (.inr (.inr hne))
  let _ ← require (length % 8 = 0) .ALIGNMENT
  let _ ← require (slice input 0 4 = MAGIC) .MAGIC
  let _ ← require (getU16 input 4 (by omega) = PROTOCOL_MAJOR) .MAJOR
  let _ ← require (getU16 input 6 (by omega) = PROTOCOL_MINOR) .MINOR
  let _ ← require (getU16 input 8 (by omega) = MESSAGE_CREATE_REQUEST) .MESSAGE_TYPE
  let _ ← require ((getU16 input 10 (by omega)).toNat = HEADER_LENGTH) .HEADER_LENGTH
  let _ ← require ((getU32 input 12 (by omega)).toNat = length) .DECLARED_LENGTH
  let _ ← require (getU32 input 24 (by omega) = 0) .FLAGS
  let _ ← require (getU32 input 28 (by omega) = 0) .RESERVED
  let requestId := getU64 input 16 (by omega)
  let _ ← require (requestId ≠ 0) .REQUEST_ID
  .ok ⟨requestId, hlength⟩

/-- The fields that the request had before are all overwritten. -/
def decodeCreateRequest (input : Option (List UInt8)) (request : Option CreateRequest) :
    Except ProtocolError CreateRequest :=
  match input, request with
  | some input, some _ => do
    let header ← decodeRequestHeader input
    have hlength : input.length = 64 := header.length_eq
    let profile := getU16 input 48 (by rw [hlength]; decide)
    let _ ← require (¬ (profile ≠ GRANT_PROFILE_DISPLAY_V1 ∧
      profile ≠ GRANT_PROFILE_DISPLAY_CEC_V1 ∧
      profile ≠ GRANT_PROFILE_DISPLAY_CEC_AUDIO_V1)) .PROFILE
    let _ ← require (∀ byte ∈ input.drop 50, byte = 0) .RESERVED
    .ok
      { requestId := header.requestId
        expectedDaemonPid := getU32 input 32 (by rw [hlength]; decide)
        deviceMajor := getU32 input 36 (by rw [hlength]; decide)
        deviceMinor := getU32 input 40 (by rw [hlength]; decide)
        connectorId := getU32 input 44 (by rw [hlength]; decide)
        profile }
  | _, _ => .error .LENGTH

/-! ## Encoding -/

def encodeHeader (output : List UInt8) (messageType : UInt16) (totalLength : UInt32)
    (requestId : UInt64) : Option (List UInt8) := do
  let output ← write output 0 (List.replicate totalLength.toNat 0)
  let output ← write output 0 MAGIC
  let output ← putU16 output 4 PROTOCOL_MAJOR
  let output ← putU16 output 6 PROTOCOL_MINOR
  let output ← putU16 output 8 messageType
  let output ← putU16 output 10 (.ofNat HEADER_LENGTH)
  let output ← putU32 output 12 totalLength
  putU64 output 16 requestId

def putHello (output : List UInt8) (hello : HelperHello) : Option (List UInt8) := do
  let output ← encodeHeader output MESSAGE_HELLO (.ofNat HELLO_LENGTH) 0
  let output ← putU32 output 32 hello.buildMajor
  let output ← putU32 output 36 hello.buildMinor
  let output ← putU32 output 40 hello.buildPatch
  let output ← putU32 output 44 hello.pkexecUid
  let output ← putU32 output 48 hello.helperPid
  let output ← putU32 output 52 hello.parentPid
  let output ← putU32 output 56 hello.supportedProfiles
  putU32 output 60 hello.helperFeatures

def encodeHello (output : Option (Vector UInt8 HELLO_LENGTH)) (hello : Option HelperHello) :
    Option (Except ProtocolError (List UInt8)) :=
  match output, hello with
  | some output, some hello => (putHello output.toList hello).map .ok
  | _, _ => some (.error .LENGTH)

def checkCreateResult (result : CreateResult) : Except ProtocolError Unit :=
  if result.requestId = 0 then .error .REQUEST_ID
  else if result.status > 0 then .error .STATUS
  else if result.status = 0 ∧ result.diagnosticStage ≠ DIAGNOSTIC_STAGE_NONE then
    .error .SUCCESS_STAGE
  else if result.status < 0 ∧ (result.grantId ≠ 0 ∨ result.connectorId ≠ 0 ∨
      result.outputIndex ≠ 0 ∨ result.actualRights ≠ 0 ∨ result.grantFlags ≠ 0 ∨
      result.initialGrantState ≠ 0) then
    .error .FAILURE_METADATA
  else .ok ()

def putCreateResult (output : List UInt8) (result : CreateResult) : Option (List UInt8) := do
  let output ← encodeHeader output MESSAGE_CREATE_RESULT (.ofNat CREATE_RESULT_LENGTH)
    result.requestId
  let output ← putI32 output 32 result.status
  let output ← putU32 output 36 result.diagnosticStage
  let output ← putU32 output 40 result.grantId
  let output ← putU32 output 44 result.connectorId
  let output ← putU32 output 48 result.outputIndex
  let output ← putU32 output 52 result.actualRights
  let output ← putU32 output 56 result.grantFlags
  let output ← putU32 output 60 result.initialGrantState
  let output ← putU16 output 64 result.captureUapiMajor
  let output ← putU16 output 66 result.captureUapiMinor
  putU32 output 68 result.helperFeatures

/-- The answer of the helper. -/
def encodeCreateResult (output : Option (Vector UInt8 CREATE_RESULT_LENGTH))
    (result : Option CreateResult) : Option (Except ProtocolError (List UInt8)) :=
  match output, result with
  | some output, some result =>
    match checkCreateResult result with
    | .error e => some (.error e)
    | .ok () => (putCreateResult output.toList result).map .ok
  | _, _ => some (.error .LENGTH)

end Pronk.GrantHelper.Helper
