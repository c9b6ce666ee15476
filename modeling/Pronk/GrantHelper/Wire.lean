import Pronk.GrantHelper.Protocol
import Pronk.Library.Record

/-!
# The wire format of the grant helper

A message has one datagram, the sequence of its fields. The encoder writes that datagram and
the decoder accepts nothing else, so the two are inverse to each other.
-/
namespace Pronk.GrantHelper
open Bytes Fallible DiagnosticStage List

/-! ## Messages as sequences of fields -/

def headerWidths : List ℕ := [4, 2, 2, 2, 2, 4, 8, 4, 4]

def headerFields (messageType : MessageType) (requestId : UInt64) : List (List UInt8) :=
  [MAGIC, toLittle 2 PROTOCOL_MAJOR.toNat, toLittle 2 PROTOCOL_MINOR.toNat,
    toLittle 2 messageType.toU16.toNat, toLittle 2 HEADER_LENGTH,
    toLittle 4 (expectedMessageLength messageType), toLittle 8 requestId.toNat,
    toLittle 4 0, toLittle 4 0]

namespace Message

def messageType : Message → MessageType
  | .Hello _ => .Hello
  | .CreateRequest .. => .CreateRequest
  | .CreateResult .. => .CreateResult

def requestId : Message → UInt64
  | .Hello _ => 0
  | .CreateRequest requestId _ => requestId
  | .CreateResult requestId _ => requestId

def bodyWidths : MessageType → List ℕ
  | .Hello => [4, 4, 4, 4, 4, 4, 4, 4]
  | .CreateRequest => [4, 4, 4, 4, 2, 14]
  | .CreateResult => [4, 4, 4, 4, 4, 4, 4, 4, 2, 2, 4, 8]

def bodyFields : Message → List (List UInt8)
  | .Hello hello =>
    [toLittle 4 hello.build.major.toNat, toLittle 4 hello.build.minor.toNat,
      toLittle 4 hello.build.patch.toNat, toLittle 4 hello.pkexecUid.toNat,
      toLittle 4 hello.helperPid.toNat, toLittle 4 hello.parentPid.toNat,
      toLittle 4 hello.supportedProfiles.toNat, toLittle 4 hello.helperFeatures.toNat]
  | .CreateRequest _ request =>
    [toLittle 4 request.expectedDaemonPid.toNat, toLittle 4 request.deviceMajor.toNat,
      toLittle 4 request.deviceMinor.toNat, toLittle 4 request.connectorId.toNat,
      toLittle 2 request.profile.toU16.toNat, replicate 14 0]
  | .CreateResult _ result =>
    [toLittle 4 result.status.toUInt32.toNat, toLittle 4 result.diagnosticStage.toU32.toNat,
      toLittle 4 result.grantId.toNat, toLittle 4 result.connectorId.toNat,
      toLittle 4 result.outputIndex.toNat, toLittle 4 result.actualRights.toNat,
      toLittle 4 result.grantFlags.toNat, toLittle 4 result.initialGrantState.toNat,
      toLittle 2 result.captureUapiMajor.toNat, toLittle 2 result.captureUapiMinor.toNat,
      toLittle 4 result.helperFeatures.toNat, replicate 8 0]

/-- The bytes that stand for a message. -/
def datagram (message : Message) : List UInt8 :=
  (headerFields message.messageType message.requestId ++ message.bodyFields).flatten

/-- A message that must not be sent. -/
def Refused : Message → Prop
  | .Hello _ => False
  | .CreateRequest requestId _ => requestId = 0
  | .CreateResult requestId result =>
    requestId = 0 ∨ 0 < result.status ∨
      (result.status = 0 ∧ result.diagnosticStage ≠ .None) ∨
      (result.status < 0 ∧ result.HasGrantMetadata)

lemma length_bodyFields (message : Message) :
    message.bodyFields.map length = bodyWidths message.messageType := by
  cases message <;> rfl

lemma sum_widths (messageType : MessageType) :
    (headerWidths ++ bodyWidths messageType).sum = expectedMessageLength messageType := by
  cases messageType <;> rfl

/-- Header and body can be looked at separately. -/
theorem eq_datagram_iff {bytes : List UInt8} {message : Message} :
    bytes = message.datagram ↔
      bytes.length = expectedMessageLength message.messageType ∧
      fieldsAt bytes 0 headerWidths = headerFields message.messageType message.requestId ∧
      fieldsAt bytes 32 (bodyWidths message.messageType) = message.bodyFields := by
  have hwidths : (headerFields message.messageType message.requestId ++
      message.bodyFields).map length = headerWidths ++ bodyWidths message.messageType := by
    rw [map_append, length_bodyFields]
    rfl
  rw [datagram, eq_flatten_iff hwidths, sum_widths, fieldsAt_append_widths]
  constructor
  · rintro ⟨hlength, hfields⟩
    exact ⟨hlength, append_inj hfields (length_fieldsAt _ _ _)⟩
  · rintro ⟨hlength, hheader, hbody⟩
    exact ⟨hlength, congrArg₂ _ hheader hbody⟩

end Message

/-! ## Decoding -/

section Fields

variable {bytes : List UInt8} {offset : ℕ}

lemma toNat_getU16 {h : offset + 2 ≤ bytes.length} :
    (getU16 bytes offset h).toNat = ofLittle (slice bytes offset 2) := by
  rw [getU16, UInt16.toNat_ofNat']
  exact Nat.mod_eq_of_lt (ofLittle_slice_lt h)

lemma getU16_eq_iff {h : offset + 2 ≤ bytes.length} {value : UInt16} :
    getU16 bytes offset h = value ↔ slice bytes offset 2 = toLittle 2 value.toNat := by
  rw [slice_eq_toLittle_iff h value.toNat_lt, ← UInt16.toNat_inj, toNat_getU16]

lemma toNat_getU32 {h : offset + 4 ≤ bytes.length} :
    (getU32 bytes offset h).toNat = ofLittle (slice bytes offset 4) := by
  rw [getU32, UInt32.toNat_ofNat']
  exact Nat.mod_eq_of_lt (ofLittle_slice_lt h)

lemma getU32_eq_iff {h : offset + 4 ≤ bytes.length} {value : UInt32} :
    getU32 bytes offset h = value ↔ slice bytes offset 4 = toLittle 4 value.toNat := by
  rw [slice_eq_toLittle_iff h value.toNat_lt, ← UInt32.toNat_inj, toNat_getU32]

lemma toNat_getU64 {h : offset + 8 ≤ bytes.length} :
    (getU64 bytes offset h).toNat = ofLittle (slice bytes offset 8) := by
  rw [getU64, UInt64.toNat_ofNat']
  exact Nat.mod_eq_of_lt (ofLittle_slice_lt h)

lemma getU64_eq_iff {h : offset + 8 ≤ bytes.length} {value : UInt64} :
    getU64 bytes offset h = value ↔ slice bytes offset 8 = toLittle 8 value.toNat := by
  rw [slice_eq_toLittle_iff h value.toNat_lt, ← UInt64.toNat_inj, toNat_getU64]

lemma getI32_eq_iff {h : offset + 4 ≤ bytes.length} {value : Int32} :
    getI32 bytes offset h = value ↔ slice bytes offset 4 = toLittle 4 value.toUInt32.toNat := by
  rw [← getU32_eq_iff (h := h), getI32]
  constructor
  · rintro rfl
    rfl
  · intro heq
    rw [heq]
    rfl

end Fields

lemma MessageType.tryFrom_eq_ok {value : UInt16} {messageType : MessageType} :
    MessageType.tryFrom value = .ok messageType ↔ value = messageType.toU16 := by
  constructor
  · intro h
    unfold MessageType.tryFrom at h
    split at h <;> cases h <;> rfl
  · rintro rfl
    cases messageType <;> rfl

lemma GrantProfile.tryFrom_eq_ok {value : UInt16} {profile : GrantProfile} :
    GrantProfile.tryFrom value = .ok profile ↔ value = profile.toU16 := by
  constructor
  · intro h
    unfold GrantProfile.tryFrom at h
    split at h <;> cases h <;> rfl
  · rintro rfl
    cases profile <;> rfl

lemma DiagnosticStage.tryFrom_eq_ok {value : UInt32} {stage : DiagnosticStage} :
    tryFrom value = .ok stage ↔ value = stage.toU32 := by
  constructor
  · intro h
    unfold tryFrom at h
    split at h <;> cases h <;> rfl
  · rintro rfl
    cases stage <;> rfl

lemma requireRequestId_eq_ok {messageType : MessageType} {requestId : UInt64} :
    requireRequestId messageType requestId = .ok () ↔ (messageType = .Hello ↔ requestId = 0) := by
  by_cases h : requestId = 0 <;> cases messageType <;> simp [requireRequestId, h]

lemma expectedMessageLength_lt (messageType : MessageType) :
    expectedMessageLength messageType < 256 ^ 4 := by
  cases messageType <;> decide

/-- The header is accepted exactly if its fields are those of a message. -/
theorem decodeHeader_eq_ok {bytes : List UInt8} {header : Header bytes} :
    decodeHeader bytes = .ok header ↔
      fieldsAt bytes 0 headerWidths = headerFields header.messageType header.requestId ∧
      (header.messageType = .Hello ↔ header.requestId = 0) := by
  obtain ⟨messageType, requestId, hlength⟩ := header
  have hlong : 32 ≤ bytes.length := by
    rw [hlength]
    cases messageType <;> decide
  have hshort : bytes.length ≤ MAX_MESSAGE_LENGTH ∧ bytes.length % 8 = 0 := by
    rw [hlength]
    cases messageType <;> decide
  simp only [decodeHeader, bind_eq_ok, exists_require, MessageType.tryFrom_eq_ok, getU16_eq_iff,
    getU32_eq_iff, headerWidths, headerFields, fieldsAt, cons.injEq, Nat.zero_add,
    Nat.reduceAdd, and_true]
  constructor
  · rintro ⟨_, _, _, hmagic, hmajor, hminor, messageType', htype, hheader, hdeclared, _, hflags,
      hreserved, _, hrequest, heq⟩
    have heq := Except.ok.inj heq
    simp only [Header.mk.injEq] at heq
    obtain ⟨rfl, hid⟩ := heq
    rw [toNat_getU16] at hheader
    rw [toNat_getU32] at hdeclared
    refine ⟨⟨hmagic, hmajor, hminor, htype, ?_, ?_, getU64_eq_iff.1 hid, hflags,
      getU32_eq_iff.1 hreserved⟩, ?_⟩
    · exact (slice_eq_toLittle_iff (by omega) (by decide)).2 hheader
    · rw [← hlength]
      exact (slice_eq_toLittle_iff (by omega) (hlength ▸ expectedMessageLength_lt _)).2 hdeclared
    · rw [← hid]
      exact requireRequestId_eq_ok.1 hrequest
  · rintro ⟨⟨hmagic, hmajor, hminor, htype, hheader, hdeclared, hid, hflags, hreserved⟩, hrequest⟩
    have hid' : getU64 bytes 16 (by omega) = requestId := getU64_eq_iff.2 hid
    rw [slice_eq_toLittle_iff (by omega) (by decide)] at hheader
    rw [slice_eq_toLittle_iff (by omega) (expectedMessageLength_lt _), ← hlength] at hdeclared
    refine ⟨hlong, hshort.1, hshort.2, hmagic, hmajor, hminor, messageType, htype,
      toNat_getU16.trans hheader, toNat_getU32.trans hdeclared, hlength, hflags,
      getU32_eq_iff.2 hreserved, (), ?_, ?_⟩
    · rw [hid']
      exact requireRequestId_eq_ok.2 hrequest
    · simp only [hid']

lemma decodeHello_eq_iff {bytes : List UInt8} {h : bytes.length = HELLO_LENGTH}
    {hello : Hello} :
    decodeHello bytes h = .Hello hello ↔
      fieldsAt bytes 32 (Message.bodyWidths .Hello) = (Message.Hello hello).bodyFields := by
  simp only [decodeHello, Message.Hello.injEq, Hello.ext_iff, BuildVersion.ext_iff, getU32_eq_iff,
    Message.bodyWidths, Message.bodyFields, fieldsAt, cons.injEq, Nat.reduceAdd, and_true,
    and_assoc]

lemma decodeCreateRequest_eq_ok {bytes : List UInt8} {requestId requestId' : UInt64}
    (h : bytes.length = CREATE_REQUEST_LENGTH) {request : CreateRequest} :
    decodeCreateRequest bytes requestId h = .ok (.CreateRequest requestId' request) ↔
      requestId = requestId' ∧
      fieldsAt bytes 32 (Message.bodyWidths .CreateRequest) =
        (Message.CreateRequest requestId' request).bodyFields := by
  have hlength : bytes.length = 64 := h
  simp only [decodeCreateRequest, bind_eq_ok, exists_require, GrantProfile.tryFrom_eq_ok,
    Except.ok.injEq, Message.CreateRequest.injEq, CreateRequest.ext_iff, getU32_eq_iff,
    getU16_eq_iff, Message.bodyWidths, Message.bodyFields, fieldsAt, cons.injEq,
    Nat.reduceAdd, and_true]
  rw [slice_eq_zeros_iff (by omega)]
  constructor
  · rintro ⟨hreserved, profile, hprofile, hid, hpid, hmajor, hminor, hconnector, rfl⟩
    exact ⟨hid, hpid, hmajor, hminor, hconnector, hprofile, hreserved⟩
  · rintro ⟨hid, hpid, hmajor, hminor, hconnector, hprofile, hreserved⟩
    exact ⟨hreserved, _, hprofile, hid, hpid, hmajor, hminor, hconnector, rfl⟩

lemma bodyFields_createResult_iff {bytes : List UInt8} {requestId : UInt64}
    {h : bytes.length = CREATE_RESULT_LENGTH} {result : CreateResult} :
    fieldsAt bytes 32 (Message.bodyWidths .CreateResult) =
        (Message.CreateResult requestId result).bodyFields ↔
      (∀ value ∈ slice bytes 72 8, value = 0) ∧
      slice bytes 36 4 = toLittle 4 result.diagnosticStage.toU32.toNat ∧
      createResultFields bytes result.diagnosticStage h = result := by
  have hlength : bytes.length = 80 := h
  simp only [createResultFields, CreateResult.ext_iff, getU32_eq_iff, getU16_eq_iff, getI32_eq_iff,
    Message.bodyWidths, Message.bodyFields, fieldsAt, cons.injEq, Nat.reduceAdd, and_true,
    true_and]
  rw [slice_eq_zeros_iff (by omega)]
  constructor
  · rintro ⟨hstatus, hstage, hgrant, hconnector, houtput, hrights, hflags, hstate, hmajor, hminor,
      hfeatures, hreserved⟩
    exact ⟨hreserved, hstage, hstatus, hgrant, hconnector, houtput, hrights, hflags, hstate,
      hmajor, hminor, hfeatures⟩
  · rintro ⟨hreserved, hstage, hstatus, hgrant, hconnector, houtput, hrights, hflags, hstate,
      hmajor, hminor, hfeatures⟩
    exact ⟨hstatus, hstage, hgrant, hconnector, houtput, hrights, hflags, hstate, hmajor, hminor,
      hfeatures, hreserved⟩

lemma decodeCreateResult_eq_ok {bytes : List UInt8} {requestId requestId' : UInt64}
    (h : bytes.length = CREATE_RESULT_LENGTH) {result : CreateResult} :
    decodeCreateResult bytes requestId h = .ok (.CreateResult requestId' result) ↔
      requestId = requestId' ∧ validateCreateResult result = .ok () ∧
      fieldsAt bytes 32 (Message.bodyWidths .CreateResult) =
        (Message.CreateResult requestId' result).bodyFields := by
  rw [bodyFields_createResult_iff (h := h)]
  simp only [decodeCreateResult, bind_eq_ok, exists_require, tryFrom_eq_ok,
    Except.ok.injEq, Message.CreateResult.injEq, getU32_eq_iff]
  constructor
  · rintro ⟨hreserved, stage, hstage, _, hvalid, hid, hresult⟩
    have hsame : stage = result.diagnosticStage := congrArg CreateResult.diagnosticStage hresult
    subst hsame
    rw [hresult] at hvalid
    exact ⟨hid, hvalid, hreserved, hstage, hresult⟩
  · rintro ⟨hid, hvalid, hreserved, hstage, hresult⟩
    refine ⟨hreserved, result.diagnosticStage, hstage, (), ?_, hid, hresult⟩
    rw [hresult]
    exact hvalid

lemma validateCreateResult_eq_ok {result : CreateResult} :
    validateCreateResult result = .ok () ↔
      ¬ (0 < result.status ∨ (result.status = 0 ∧ result.diagnosticStage ≠ .None) ∨
        (result.status < 0 ∧ result.HasGrantMetadata)) := by
  rw [validateCreateResult]
  split_ifs with hpositive hsuccess hfailure
  · simp [hpositive]
  · simp [hsuccess]
  · simp [hfailure]
  · simp only [true_iff, not_or]
    exact ⟨hpositive, hsuccess, hfailure⟩

namespace Message

lemma decodeBody_messageType {bytes : List UInt8} {header : Header bytes} {message : Message}
    (h : decodeBody bytes header = .ok message) :
    header.messageType = message.messageType := by
  obtain ⟨messageType, requestId, hlength⟩ := header
  cases messageType with
  | Hello => 
    obtain rfl := Except.ok.inj h
    rfl
  | CreateRequest =>
    simp only [decodeBody, decodeCreateRequest, bind_eq_ok, Except.ok.injEq] at h
    obtain ⟨_, _, _, _, rfl⟩ := h
    rfl
  | CreateResult =>
    simp only [decodeBody, decodeCreateResult, bind_eq_ok, Except.ok.injEq] at h
    obtain ⟨_, _, _, _, _, _, rfl⟩ := h
    rfl

/-- The decoder accepts the datagrams of the messages that may be sent, and nothing else. -/
theorem decode_eq_ok {bytes : List UInt8} {message : Message} :
    decode bytes = .ok message ↔ ¬ message.Refused ∧ bytes = message.datagram := by
  rw [decode, bind_eq_ok, eq_datagram_iff]
  cases message with
  | Hello hello =>
    constructor
    · rintro ⟨⟨messageType, requestId, hlength⟩, hheader, hbody⟩
      obtain rfl : messageType = .Hello := decodeBody_messageType hbody
      obtain ⟨hfields, hid⟩ := decodeHeader_eq_ok.1 hheader
      obtain rfl : requestId = 0 := hid.1 rfl
      exact ⟨not_false, hlength, hfields, decodeHello_eq_iff.1 (Except.ok.inj hbody)⟩
    · rintro ⟨-, hlength, hfields, hbody⟩
      exact ⟨⟨.Hello, 0, hlength⟩, decodeHeader_eq_ok.2 ⟨hfields, by simp⟩,
        congrArg _ (decodeHello_eq_iff.2 hbody)⟩
  | CreateRequest id request =>
    constructor
    · rintro ⟨⟨messageType, requestId, hlength⟩, hheader, hbody⟩
      obtain rfl : messageType = .CreateRequest := decodeBody_messageType hbody
      obtain ⟨hfields, hid⟩ := decodeHeader_eq_ok.1 hheader
      obtain ⟨rfl, hbody⟩ := (decodeCreateRequest_eq_ok hlength).1 hbody
      exact ⟨fun hzero => by simpa using hid.2 hzero, hlength, hfields, hbody⟩
    · rintro ⟨hid, hlength, hfields, hbody⟩
      have hnonzero : ¬ id = 0 := hid
      exact ⟨⟨.CreateRequest, id, hlength⟩, decodeHeader_eq_ok.2 ⟨hfields, by simp [hnonzero]⟩,
        (decodeCreateRequest_eq_ok hlength).2 ⟨rfl, hbody⟩⟩
  | CreateResult id result =>
    have hrefused : ¬ (CreateResult id result).Refused ↔
        id ≠ 0 ∧ validateCreateResult result = .ok () := by
      rw [validateCreateResult_eq_ok, Refused, not_or]
    rw [hrefused]
    constructor
    · rintro ⟨⟨messageType, requestId, hlength⟩, hheader, hbody⟩
      obtain rfl : messageType = .CreateResult := decodeBody_messageType hbody
      obtain ⟨hfields, hid⟩ := decodeHeader_eq_ok.1 hheader
      obtain ⟨rfl, hvalid, hbody⟩ := (decodeCreateResult_eq_ok hlength).1 hbody
      exact ⟨⟨fun hzero => by simpa using hid.2 hzero, hvalid⟩, hlength, hfields, hbody⟩
    · rintro ⟨⟨hid, hvalid⟩, hlength, hfields, hbody⟩
      exact ⟨⟨.CreateResult, id, hlength⟩, decodeHeader_eq_ok.2 ⟨hfields, by simp [hid]⟩,
        (decodeCreateResult_eq_ok hlength).2 ⟨rfl, hvalid, hbody⟩⟩

end Message

/-! ## Encoding -/

lemma padded_of_length {size : ℕ} {fields : List UInt8} (h : fields.length = size) :
    padded size fields = fields := by
  rw [padded, h, Nat.sub_self, replicate_zero, append_nil]

lemma length_headerFields (messageType : MessageType) (requestId : UInt64) :
    (headerFields messageType requestId).flatten.length = 32 := rfl

/-- The writes fill the header up to its last two fields, which stay zero. -/
theorem putHeader_eq {messageType : MessageType} {requestId : UInt64} :
    putHeader messageType requestId (expectedMessageLength messageType) =
      some (padded (expectedMessageLength messageType)
        (headerFields messageType requestId).flatten) := by
  have hlong : 32 ≤ expectedMessageLength messageType := by
    cases messageType <;> decide
  have hlength : (UInt32.ofNat (expectedMessageLength messageType)).toNat =
      expectedMessageLength messageType := by
    cases messageType <;> rfl
  rw [headerFields]
  generalize expectedMessageLength messageType = size at *
  rw [putHeader, ← padded_nil]
  simp (disch := (simp [MAGIC] <;> omega)) only [putU16, putU32, putU64, write_padded,
    Option.bind_eq_bind, Option.bind_some, nil_append]
  rw [hlength, padded_skip 8 (by simp [MAGIC]; omega)]
  simp only [flatten_cons, flatten_nil, append_assoc]
  rfl

lemma encodeHello_eq {fields : List UInt8} {hello : Hello} (h : fields.length = 32) :
    encodeHello (padded HELLO_LENGTH fields) hello =
      some (fields ++ (Message.Hello hello).bodyFields.flatten) := by
  have hfull : (fields ++ (Message.Hello hello).bodyFields.flatten).length = 64 := by
    simp [Message.bodyFields, h]
  rw [encodeHello, HELLO_LENGTH, ← padded_of_length hfull]
  simp (disch := simp [h]) only [putU32, write_padded, Option.bind_eq_bind, Option.bind_some,
    Message.bodyFields]
  simp

lemma encodeCreateRequest_eq {fields : List UInt8} {requestId : UInt64}
    {request : CreateRequest} (h : fields.length = 32) :
    encodeCreateRequest (padded CREATE_REQUEST_LENGTH fields) request =
      some (fields ++ (Message.CreateRequest requestId request).bodyFields.flatten) := by
  have hfull : (fields ++ (Message.CreateRequest requestId request).bodyFields.flatten).length =
      64 := by
    simp [Message.bodyFields, h]
  rw [encodeCreateRequest, CREATE_REQUEST_LENGTH, ← padded_of_length hfull]
  simp (disch := simp [h]) only [putU16, putU32, write_padded, Option.bind_eq_bind,
    Option.bind_some, Message.bodyFields]
  rw [padded_skip 14 (by simp [h])]
  simp

lemma putCreateResult_eq {fields : List UInt8} {requestId : UInt64} {result : CreateResult}
    (h : fields.length = 32) :
    putCreateResult (padded CREATE_RESULT_LENGTH fields) result =
      some (fields ++ (Message.CreateResult requestId result).bodyFields.flatten) := by
  have hfull : (fields ++ (Message.CreateResult requestId result).bodyFields.flatten).length =
      80 := by
    simp [Message.bodyFields, h]
  rw [putCreateResult, CREATE_RESULT_LENGTH, ← padded_of_length hfull]
  simp (disch := simp [h]) only [putU16, putU32, putI32, write_padded, Option.bind_eq_bind,
    Option.bind_some, Message.bodyFields]
  rw [padded_skip 8 (by simp [h])]
  simp

namespace Message

lemma encode_eq_encodeBody {message : Message}
    (h : message.messageType = .Hello ∨ message.requestId ≠ 0) :
    message.encode = message.encodeBody (padded (expectedMessageLength message.messageType)
      (headerFields message.messageType message.requestId).flatten) := by
  have henvelope : message.envelope =
      .ok (message.messageType, message.requestId, expectedMessageLength message.messageType) := by
    cases message with
    | Hello hello => rfl
    | CreateRequest id request =>
      have hid : id ≠ 0 := h.resolve_left (by simp [messageType])
      simp [envelope, requireNonzeroRequestId, hid, messageType, requestId, expectedMessageLength]
    | CreateResult id result =>
      have hid : id ≠ 0 := h.resolve_left (by simp [messageType])
      simp [envelope, requireNonzeroRequestId, hid, messageType, requestId, expectedMessageLength]
  simp only [encode, henvelope, putHeader_eq, Option.bind_eq_bind, Option.bind_some]

/-- A message that may be sent is written as its datagram. -/
theorem encode_of_not_refused {message : Message} (h : ¬ message.Refused) :
    message.encode = some (.ok message.datagram) := by
  rw [datagram, flatten_append]
  cases message with
  | Hello hello =>
    rw [encode_eq_encodeBody (.inl rfl), encodeBody, messageType, expectedMessageLength,
      encodeHello_eq (length_headerFields _ _), Option.map_some]
  | CreateRequest id request =>
    have hid : (CreateRequest id request).requestId ≠ 0 := h
    rw [encode_eq_encodeBody (.inr hid), encodeBody, messageType, expectedMessageLength,
      encodeCreateRequest_eq (length_headerFields _ _), Option.map_some]
  | CreateResult id result =>
    have hid : (CreateResult id result).requestId ≠ 0 := (not_or.1 h).1
    rw [encode_eq_encodeBody (.inr hid), encodeBody, encodeCreateResult,
      validateCreateResult_eq_ok.2 (not_or.1 h).2, messageType, expectedMessageLength]
    show (putCreateResult _ result).map _ = _
    rw [putCreateResult_eq (length_headerFields _ _), Option.map_some]

lemma encode_of_refused {message : Message} (h : message.Refused) :
    ∃ e, message.encode = some (.error e) := by
  cases message with
  | Hello hello => exact h.elim
  | CreateRequest id request =>
    obtain rfl : id = 0 := h
    exact ⟨.ZeroRequestId, rfl⟩
  | CreateResult id result =>
    by_cases hid : id = 0
    · subst hid
      exact ⟨.ZeroRequestId, rfl⟩
    · have hinvalid := mt validateCreateResult_eq_ok.1 (not_not_intro (h.resolve_left hid))
      have hnonzero : (CreateResult id result).requestId ≠ 0 := hid
      rw [encode_eq_encodeBody (.inr hnonzero), encodeBody, encodeCreateResult]
      match hvalidate : validateCreateResult result with
      | .error e => exact ⟨e, rfl⟩
      | .ok () => exact absurd hvalidate hinvalid

/-- Encoding and decoding are inverse to each other, and only a message that must not be sent
is not encoded. -/
theorem codec_bijective :
    (∀ (message : Message) (bytes : List UInt8),
      message.encode = some (.ok bytes) ↔ decode bytes = .ok message) ∧
    (∀ message : Message, (∃ e, message.encode = some (.error e)) ↔ message.Refused) ∧
    ∀ message : Message, message.encode ≠ none := by
  have hencode (message : Message) : message.encode = some (.ok message.datagram) ∧
      ¬ message.Refused ∨ (∃ e, message.encode = some (.error e)) ∧ message.Refused := by
    by_cases h : message.Refused
    · exact .inr ⟨encode_of_refused h, h⟩
    · exact .inl ⟨encode_of_not_refused h, h⟩
  refine ⟨?_, ?_, ?_⟩
  · intro message bytes
    rw [decode_eq_ok]
    rcases hencode message with ⟨heq, h⟩ | ⟨⟨e, heq⟩, h⟩
    · simp [heq, h, eq_comm]
    · simp [heq, h]
  · intro message
    rcases hencode message with ⟨heq, h⟩ | ⟨⟨e, heq⟩, h⟩
    · simp [heq, h]
    · simp [heq, h]
  · intro message
    rcases hencode message with ⟨heq, -⟩ | ⟨⟨e, heq⟩, -⟩
    · simp [heq]
    · simp [heq]

end Message

end Pronk.GrantHelper
