import Pronk.Library.Bytes
import Pronk.Library.Fallible
import Pronk.Machine

/-!
# The protocol of the grant helper, as the daemon speaks it

One datagram is one message: a header of 32 bytes and the fields of the message at fixed
offsets, all of them little-endian. A read needs the proof that its field lies inside the
datagram. A write outside of the buffer would panic and is `none`.
-/
namespace Pronk.GrantHelper
open Bytes Fallible

/-- `PRNK`. -/
def MAGIC : List UInt8 := [0x50, 0x52, 0x4e, 0x4b]
def PROTOCOL_MAJOR : UInt16 := 2
def PROTOCOL_MINOR : UInt16 := 0
def HEADER_LENGTH : ℕ := 32
def MAX_MESSAGE_LENGTH : ℕ := 128
def HELLO_LENGTH : ℕ := 64
def CREATE_REQUEST_LENGTH : ℕ := 64
def CREATE_RESULT_LENGTH : ℕ := 80

inductive MessageType where
  | Hello
  | CreateRequest
  | CreateResult

def MessageType.toU16 : MessageType → UInt16
  | .Hello => 1
  | .CreateRequest => 2
  | .CreateResult => 3

inductive GrantProfile where
  | DisplayV1
  | DisplayCecV1
  | DisplayCecAudioV1

def GrantProfile.toU16 : GrantProfile → UInt16
  | .DisplayV1 => 1
  | .DisplayCecV1 => 2
  | .DisplayCecAudioV1 => 3

inductive DiagnosticStage where
  | None
  | Protocol
  | Caller
  | Device
  | Connector
  | CreateGrant
  | VerifyGrant
  | DropMaster
  | SendResult
  deriving DecidableEq

def DiagnosticStage.toU32 : DiagnosticStage → UInt32
  | .None => 0
  | .Protocol => 1
  | .Caller => 2
  | .Device => 3
  | .Connector => 4
  | .CreateGrant => 5
  | .VerifyGrant => 6
  | .DropMaster => 7
  | .SendResult => 8

inductive ProtocolError where
  | HeaderTooShort
  | MessageTooLong
  | MisalignedLength
  | InvalidMagic
  | UnsupportedMajor (major : UInt16)
  | UnsupportedMinor (minor : UInt16)
  | UnknownMessageType (value : UInt16)
  | InvalidHeaderLength (length : UInt16)
  | DeclaredLengthMismatch (declared actual : ℕ)
  | WrongMessageLength (messageType : MessageType) (expected actual : ℕ)
  | UnknownHeaderFlags (flags : UInt32)
  | NonzeroReserved
  | HelloRequestIdNotZero
  | ZeroRequestId
  | UnknownGrantProfile (value : UInt16)
  | UnknownDiagnosticStage (value : UInt32)
  | PositiveResultStatus
  | FailureContainsGrantMetadata
  | SuccessContainsDiagnosticStage

def MessageType.tryFrom (value : UInt16) : Except ProtocolError MessageType :=
  match value with
  | 1 => .ok .Hello
  | 2 => .ok .CreateRequest
  | 3 => .ok .CreateResult
  | _ => .error (.UnknownMessageType value)

def GrantProfile.tryFrom (value : UInt16) : Except ProtocolError GrantProfile :=
  match value with
  | 1 => .ok .DisplayV1
  | 2 => .ok .DisplayCecV1
  | 3 => .ok .DisplayCecAudioV1
  | _ => .error (.UnknownGrantProfile value)

def DiagnosticStage.tryFrom (value : UInt32) : Except ProtocolError DiagnosticStage :=
  match value with
  | 0 => .ok .None
  | 1 => .ok .Protocol
  | 2 => .ok .Caller
  | 3 => .ok .Device
  | 4 => .ok .Connector
  | 5 => .ok .CreateGrant
  | 6 => .ok .VerifyGrant
  | 7 => .ok .DropMaster
  | 8 => .ok .SendResult
  | _ => .error (.UnknownDiagnosticStage value)

@[ext] structure BuildVersion where
  (major minor patch : UInt32)

@[ext] structure Hello where
  build : BuildVersion
  (pkexecUid helperPid parentPid supportedProfiles helperFeatures : UInt32)

@[ext] structure CreateRequest where
  (expectedDaemonPid deviceMajor deviceMinor connectorId : UInt32)
  profile : GrantProfile

@[ext] structure CreateResult where
  status : Int32
  diagnosticStage : DiagnosticStage
  (grantId connectorId outputIndex actualRights grantFlags initialGrantState : UInt32)
  (captureUapiMajor captureUapiMinor : UInt16)
  helperFeatures : UInt32

/-- The messages of the protocol. -/
inductive Message where
  | Hello (hello : Hello)
  | CreateRequest (requestId : UInt64) (request : CreateRequest)
  | CreateResult (requestId : UInt64) (result : CreateResult)

def expectedMessageLength : MessageType → ℕ
  | .Hello => HELLO_LENGTH
  | .CreateRequest => CREATE_REQUEST_LENGTH
  | .CreateResult => CREATE_RESULT_LENGTH

/-! ## Fields -/

section Fields

variable (bytes : List UInt8) (offset : ℕ)

def getU16 (_ : offset + 2 ≤ bytes.length) : UInt16 := .ofNat (ofLittle (slice bytes offset 2))
def getU32 (_ : offset + 4 ≤ bytes.length) : UInt32 := .ofNat (ofLittle (slice bytes offset 4))
def getI32 (h : offset + 4 ≤ bytes.length) : Int32 := (getU32 bytes offset h).toInt32
def getU64 (_ : offset + 8 ≤ bytes.length) : UInt64 := .ofNat (ofLittle (slice bytes offset 8))

def putU16 (value : UInt16) : Option (List UInt8) := write bytes offset (toLittle 2 value.toNat)
def putU32 (value : UInt32) : Option (List UInt8) := write bytes offset (toLittle 4 value.toNat)
def putI32 (value : Int32) : Option (List UInt8) := putU32 bytes offset value.toUInt32
def putU64 (value : UInt64) : Option (List UInt8) := write bytes offset (toLittle 8 value.toNat)

end Fields

/-! ## Decoding -/

/-- What the header of a datagram says; the datagram has the length of its type. -/
structure Header (bytes : List UInt8) where
  messageType : MessageType
  requestId : UInt64
  length_eq : bytes.length = expectedMessageLength messageType

/-- The request ID is zero in a greeting, and only there. -/
def requireRequestId (messageType : MessageType) (requestId : UInt64) :
    Except ProtocolError Unit :=
  match messageType with
  | .Hello => if requestId ≠ 0 then .error .HelloRequestIdNotZero else .ok ()
  | .CreateRequest | .CreateResult => if requestId = 0 then .error .ZeroRequestId else .ok ()

def decodeHeader (bytes : List UInt8) : Except ProtocolError (Header bytes) := do
  let long ← require (HEADER_LENGTH ≤ bytes.length) .HeaderTooShort
  have hlong : 32 ≤ bytes.length := long.down
  let _ ← require (bytes.length ≤ MAX_MESSAGE_LENGTH) .MessageTooLong
  let _ ← require (bytes.length % 8 = 0) .MisalignedLength
  let _ ← require (slice bytes 0 4 = MAGIC) .InvalidMagic
  let major := getU16 bytes 4 (by omega)
  let _ ← require (major = PROTOCOL_MAJOR) (.UnsupportedMajor major)
  let minor := getU16 bytes 6 (by omega)
  let _ ← require (minor = PROTOCOL_MINOR) (.UnsupportedMinor minor)
  let messageType ← MessageType.tryFrom (getU16 bytes 8 (by omega))
  let headerLength := getU16 bytes 10 (by omega)
  let _ ← require (headerLength.toNat = HEADER_LENGTH) (.InvalidHeaderLength headerLength)
  let declared := (getU32 bytes 12 (by omega)).toNat
  let _ ← require (declared = bytes.length) (.DeclaredLengthMismatch declared bytes.length)
  let expected := expectedMessageLength messageType
  let sized ← require (bytes.length = expected)
    (.WrongMessageLength messageType expected bytes.length)
  let flags := getU32 bytes 24 (by omega)
  let _ ← require (flags = 0) (.UnknownHeaderFlags flags)
  let _ ← require (getU32 bytes 28 (by omega) = 0) .NonzeroReserved
  let requestId := getU64 bytes 16 (by omega)
  requireRequestId messageType requestId
  .ok ⟨messageType, requestId, sized.down⟩

def decodeHello (bytes : List UInt8) (h : bytes.length = HELLO_LENGTH) : Message :=
  have h : bytes.length = 64 := h
  .Hello
    { build :=
        { major := getU32 bytes 32 (by omega)
          minor := getU32 bytes 36 (by omega)
          patch := getU32 bytes 40 (by omega) }
      pkexecUid := getU32 bytes 44 (by omega)
      helperPid := getU32 bytes 48 (by omega)
      parentPid := getU32 bytes 52 (by omega)
      supportedProfiles := getU32 bytes 56 (by omega)
      helperFeatures := getU32 bytes 60 (by omega) }

def decodeCreateRequest (bytes : List UInt8) (requestId : UInt64)
    (h : bytes.length = CREATE_REQUEST_LENGTH) : Except ProtocolError Message := do
  have h : bytes.length = 64 := h
  let _ ← require (∀ value ∈ slice bytes 50 14, value = 0) .NonzeroReserved
  let profile ← GrantProfile.tryFrom (getU16 bytes 48 (by omega))
  .ok (.CreateRequest requestId
    { expectedDaemonPid := getU32 bytes 32 (by omega)
      deviceMajor := getU32 bytes 36 (by omega)
      deviceMinor := getU32 bytes 40 (by omega)
      connectorId := getU32 bytes 44 (by omega)
      profile })

/-- One of the fields that describe a grant is set. -/
def CreateResult.HasGrantMetadata (result : CreateResult) : Prop :=
  result.grantId ≠ 0 ∨ result.connectorId ≠ 0 ∨ result.outputIndex ≠ 0 ∨
    result.actualRights ≠ 0 ∨ result.grantFlags ≠ 0 ∨ result.initialGrantState ≠ 0
deriving Decidable

def validateCreateResult (result : CreateResult) : Except ProtocolError Unit :=
  if result.status > 0 then .error .PositiveResultStatus
  else if result.status = 0 ∧ result.diagnosticStage ≠ .None then
    .error .SuccessContainsDiagnosticStage
  else if result.status < 0 ∧ result.HasGrantMetadata then
    .error .FailureContainsGrantMetadata
  else .ok ()

def createResultFields (bytes : List UInt8) (diagnosticStage : DiagnosticStage)
    (h : bytes.length = CREATE_RESULT_LENGTH) : CreateResult :=
  have h : bytes.length = 80 := h
  { status := getI32 bytes 32 (by omega)
    diagnosticStage
    grantId := getU32 bytes 40 (by omega)
    connectorId := getU32 bytes 44 (by omega)
    outputIndex := getU32 bytes 48 (by omega)
    actualRights := getU32 bytes 52 (by omega)
    grantFlags := getU32 bytes 56 (by omega)
    initialGrantState := getU32 bytes 60 (by omega)
    captureUapiMajor := getU16 bytes 64 (by omega)
    captureUapiMinor := getU16 bytes 66 (by omega)
    helperFeatures := getU32 bytes 68 (by omega) }

def decodeCreateResult (bytes : List UInt8) (requestId : UInt64)
    (h : bytes.length = CREATE_RESULT_LENGTH) : Except ProtocolError Message := do
  have hlength : bytes.length = 80 := h
  let _ ← require (∀ value ∈ slice bytes 72 8, value = 0) .NonzeroReserved
  let diagnosticStage ← DiagnosticStage.tryFrom (getU32 bytes 36 (by omega))
  let result := createResultFields bytes diagnosticStage h
  validateCreateResult result
  .ok (.CreateResult requestId result)

def decodeBody (bytes : List UInt8) : Header bytes → Except ProtocolError Message
  | ⟨.Hello, _, h⟩ => .ok (decodeHello bytes h)
  | ⟨.CreateRequest, requestId, h⟩ => decodeCreateRequest bytes requestId h
  | ⟨.CreateResult, requestId, h⟩ => decodeCreateResult bytes requestId h

/-- A whole datagram. -/
def Message.decode (bytes : List UInt8) : Except ProtocolError Message := do
  let header ← decodeHeader bytes
  decodeBody bytes header

/-! ## Encoding -/

def requireNonzeroRequestId (requestId : UInt64) : Except ProtocolError Unit :=
  if requestId = 0 then .error .ZeroRequestId else .ok ()

/-- The type, the request ID and the length of a message. -/
def Message.envelope : Message → Except ProtocolError (MessageType × UInt64 × ℕ)
  | .Hello _ => .ok (.Hello, 0, HELLO_LENGTH)
  | .CreateRequest requestId _ => do
    requireNonzeroRequestId requestId
    .ok (.CreateRequest, requestId, CREATE_REQUEST_LENGTH)
  | .CreateResult requestId _ => do
    requireNonzeroRequestId requestId
    .ok (.CreateResult, requestId, CREATE_RESULT_LENGTH)

def encodeHello (bytes : List UInt8) (hello : Hello) : Option (List UInt8) := do
  let bytes ← putU32 bytes 32 hello.build.major
  let bytes ← putU32 bytes 36 hello.build.minor
  let bytes ← putU32 bytes 40 hello.build.patch
  let bytes ← putU32 bytes 44 hello.pkexecUid
  let bytes ← putU32 bytes 48 hello.helperPid
  let bytes ← putU32 bytes 52 hello.parentPid
  let bytes ← putU32 bytes 56 hello.supportedProfiles
  putU32 bytes 60 hello.helperFeatures

def encodeCreateRequest (bytes : List UInt8) (request : CreateRequest) :
    Option (List UInt8) := do
  let bytes ← putU32 bytes 32 request.expectedDaemonPid
  let bytes ← putU32 bytes 36 request.deviceMajor
  let bytes ← putU32 bytes 40 request.deviceMinor
  let bytes ← putU32 bytes 44 request.connectorId
  putU16 bytes 48 request.profile.toU16

def putCreateResult (bytes : List UInt8) (result : CreateResult) : Option (List UInt8) := do
  let bytes ← putI32 bytes 32 result.status
  let bytes ← putU32 bytes 36 result.diagnosticStage.toU32
  let bytes ← putU32 bytes 40 result.grantId
  let bytes ← putU32 bytes 44 result.connectorId
  let bytes ← putU32 bytes 48 result.outputIndex
  let bytes ← putU32 bytes 52 result.actualRights
  let bytes ← putU32 bytes 56 result.grantFlags
  let bytes ← putU32 bytes 60 result.initialGrantState
  let bytes ← putU16 bytes 64 result.captureUapiMajor
  let bytes ← putU16 bytes 66 result.captureUapiMinor
  putU32 bytes 68 result.helperFeatures

def encodeCreateResult (bytes : List UInt8) (result : CreateResult) :
    Option (Except ProtocolError (List UInt8)) :=
  match validateCreateResult result with
  | .error e => some (.error e)
  | .ok () => (putCreateResult bytes result).map .ok

def putHeader (messageType : MessageType) (requestId : UInt64) (totalLength : ℕ) :
    Option (List UInt8) := do
  let bytes := List.replicate totalLength 0
  let bytes ← write bytes 0 MAGIC
  let bytes ← putU16 bytes 4 PROTOCOL_MAJOR
  let bytes ← putU16 bytes 6 PROTOCOL_MINOR
  let bytes ← putU16 bytes 8 messageType.toU16
  let bytes ← putU16 bytes 10 (.ofNat HEADER_LENGTH)
  let bytes ← putU32 bytes 12 (.ofNat totalLength)
  putU64 bytes 16 requestId

def Message.encodeBody (bytes : List UInt8) :
    Message → Option (Except ProtocolError (List UInt8))
  | .Hello hello => (encodeHello bytes hello).map .ok
  | .CreateRequest _ request => (encodeCreateRequest bytes request).map .ok
  | .CreateResult _ result => encodeCreateResult bytes result

/-- A whole datagram, with its header. -/
def Message.encode (message : Message) : Option (Except ProtocolError (List UInt8)) :=
  match message.envelope with
  | .error e => some (.error e)
  | .ok (messageType, requestId, totalLength) => do
    let bytes ← putHeader messageType requestId totalLength
    message.encodeBody bytes

end Pronk.GrantHelper
