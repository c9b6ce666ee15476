import Pronk.GrantHelper.Helper

/-!
# The two codecs of the grant helper agree

Each field is read and written alike on both sides. So the helper accepts the requests that
the daemon would, and the daemon decodes what the helper encodes.
-/
namespace Pronk.GrantHelper.Helper
open Bytes Fallible

/-! ## Fields -/

section Fields

variable {bytes : List UInt8} {offset : ℕ}

lemma getU16_eq (h : offset + 2 ≤ bytes.length) :
    getU16 bytes offset h = GrantHelper.getU16 bytes offset h := by
  rw [← UInt16.toNat_inj, toNat_getU16, slice_succ (by omega), slice_succ (by omega), getU16]
  generalize bytes.get _ = low
  generalize bytes.get _ = high
  have hlow := low.toNat_lt
  have hhigh := high.toNat_lt
  have hshift : high.toNat <<< 8 < 2 ^ 16 := by
    rw [Nat.shiftLeft_eq]
    omega
  simp only [UInt16.toNat_or, UInt8.toNat_toUInt16, UInt16.toNat_shiftLeft, UInt16.toNat_ofNat,
    Nat.mod_eq_of_lt hshift, or_shiftLeft hlow]
  simp [slice, ofLittle]

/-- One more byte above those that were read already. -/
lemma toNat_or_byte (low : UInt32) (byte : UInt8) (width : ℕ) (hwidth : width ≤ 24)
    (hlow : low.toNat < 2 ^ width) :
    (low ||| byte.toUInt32 <<< UInt32.ofNat width).toNat = low.toNat + 2 ^ width * byte.toNat := by
  have hbyte := byte.toNat_lt
  have hsmall : width % 4294967296 % 32 = width := by omega
  have hshift : byte.toNat <<< width < 2 ^ 32 := by
    rw [Nat.shiftLeft_eq]
    calc byte.toNat * 2 ^ width < 2 ^ 8 * 2 ^ width := by
          exact Nat.mul_lt_mul_of_pos_right hbyte (Nat.two_pow_pos width)
      _ = 2 ^ (8 + width) := (Nat.pow_add 2 8 width).symm
      _ ≤ 2 ^ 32 := Nat.pow_le_pow_right (by decide) (by omega)
  rw [UInt32.toNat_or, UInt32.toNat_shiftLeft, UInt8.toNat_toUInt32, UInt32.toNat_ofNat', hsmall,
    Nat.mod_eq_of_lt hshift, or_shiftLeft hlow]

lemma getU32_eq (h : offset + 4 ≤ bytes.length) :
    getU32 bytes offset h = GrantHelper.getU32 bytes offset h := by
  rw [← UInt32.toNat_inj, toNat_getU32, slice_succ (by omega), slice_succ (by omega),
    slice_succ (by omega), slice_succ (by omega), getU32]
  generalize bytes.get _ = b₀
  generalize bytes.get _ = b₁
  generalize bytes.get _ = b₂
  generalize bytes.get _ = b₃
  have h₀ : b₀.toUInt32.toNat < 2 ^ 8 := b₀.toNat_lt
  have h₁ := b₁.toNat_lt
  have h₂ := b₂.toNat_lt
  have htwo := toNat_or_byte b₀.toUInt32 b₁ 8 (by decide) h₀
  have hthree := toNat_or_byte _ b₂ 16 (by decide) (by rw [htwo]; omega)
  have hfour := toNat_or_byte _ b₃ 24 (by decide) (by rw [hthree, htwo]; omega)
  rw [hthree, htwo, UInt8.toNat_toUInt32] at hfour
  simp only [slice, List.take_zero, ofLittle]
  refine hfour.trans ?_
  omega

lemma getU64_eq (h : offset + 8 ≤ bytes.length) :
    getU64 bytes offset h = GrantHelper.getU64 bytes offset h := by
  have hlow := (getU32 bytes offset (by omega)).toNat_lt
  have hhigh := (getU32 bytes (offset + 4) (by omega)).toNat_lt
  have hshift : (getU32 bytes (offset + 4) (by omega)).toNat <<< 32 < 2 ^ 64 := by
    rw [Nat.shiftLeft_eq]
    omega
  rw [← UInt64.toNat_inj, toNat_getU64, getU64]
  simp only [UInt64.toNat_or, UInt32.toNat_toUInt64, UInt64.toNat_shiftLeft, UInt64.toNat_ofNat,
    Nat.mod_eq_of_lt hshift, or_shiftLeft hlow]
  have hslice : slice bytes offset 8 = slice bytes offset 4 ++ slice bytes (offset + 4) 4 :=
    slice_add bytes offset 4 4
  rw [getU32_eq, getU32_eq, toNat_getU32, toNat_getU32, hslice, ofLittle_append,
    length_slice (by omega)]
  rfl

lemma putU16_eq (value : UInt16) :
    putU16 bytes offset value = GrantHelper.putU16 bytes offset value := by
  have hbytes : [value.toUInt8] ++ [(value >>> (8 : UInt16)).toUInt8] =
      toLittle 2 value.toNat := by
    simp only [toLittle, List.singleton_append, List.cons.injEq, and_true, ← UInt8.toNat_inj]
    constructor
    · simp
    · simp [Nat.shiftRight_eq_div_pow]
  rw [putU16, GrantHelper.putU16, ← hbytes]
  exact write_write rfl

lemma write_four (a b c d : UInt8) :
    (do
      let bytes ← write bytes offset [a]
      let bytes ← write bytes (offset + 1) [b]
      let bytes ← write bytes (offset + 2) [c]
      write bytes (offset + 3) [d]) = write bytes offset [a, b, c, d] := by
  have htwo (bytes : List UInt8) :
      (write bytes (offset + 2) [c] >>= fun bytes => write bytes (offset + 3) [d]) =
        write bytes (offset + 2) [c, d] := write_write rfl
  have hthree (bytes : List UInt8) :
      (write bytes (offset + 1) [b] >>= fun bytes => write bytes (offset + 2) [c, d]) =
        write bytes (offset + 1) [b, c, d] := write_write rfl
  simp only [htwo, hthree]
  exact write_write rfl

lemma putU32_eq (value : UInt32) :
    putU32 bytes offset value = GrantHelper.putU32 bytes offset value := by
  have hbytes : [value.toUInt8, (value >>> (8 : UInt32)).toUInt8,
      (value >>> (16 : UInt32)).toUInt8, (value >>> (24 : UInt32)).toUInt8] =
      toLittle 4 value.toNat := by
    simp only [toLittle, List.cons.injEq, and_true, ← UInt8.toNat_inj, Nat.div_div_eq_div_mul]
    refine ⟨?_, ?_, ?_, ?_⟩
    · simp
    · simp [Nat.shiftRight_eq_div_pow]
    · simp [Nat.shiftRight_eq_div_pow]
    · simp [Nat.shiftRight_eq_div_pow]
  rw [putU32, write_four, hbytes, GrantHelper.putU32]

lemma putI32_eq (value : Int32) :
    putI32 bytes offset value = GrantHelper.putI32 bytes offset value := putU32_eq _

lemma putU64_eq (value : UInt64) :
    putU64 bytes offset value = GrantHelper.putU64 bytes offset value := by
  have hlow : toLittle 4 value.toUInt32.toNat = toLittle 4 value.toNat := by
    rw [← toLittle_mod 4 value.toNat, UInt64.toNat_toUInt32]
    rfl
  have hhigh : (value >>> (32 : UInt64)).toUInt32.toNat = value.toNat / 256 ^ 4 := by
    have := value.toNat_lt
    simp [Nat.shiftRight_eq_div_pow]
    omega
  have hbytes : toLittle 8 value.toNat =
      toLittle 4 value.toNat ++ toLittle 4 (value.toNat / 256 ^ 4) := toLittle_add 4 4 _
  simp only [putU64, putU32_eq, GrantHelper.putU32, GrantHelper.putU64]
  rw [hbytes, hlow, hhigh]
  exact write_write rfl

end Fields

/-! ## What the helper sends -/

def HelperHello.toHello (hello : HelperHello) : GrantHelper.Hello where
  build := ⟨hello.buildMajor, hello.buildMinor, hello.buildPatch⟩
  pkexecUid := hello.pkexecUid
  helperPid := hello.helperPid
  parentPid := hello.parentPid
  supportedProfiles := hello.supportedProfiles
  helperFeatures := hello.helperFeatures

/-- The fields of a result whose stage is a declared one. -/
def CreateResult.toCreateResult (result : CreateResult) (stage : DiagnosticStage) :
    GrantHelper.CreateResult where
  status := result.status
  diagnosticStage := stage
  grantId := result.grantId
  connectorId := result.connectorId
  outputIndex := result.outputIndex
  actualRights := result.actualRights
  grantFlags := result.grantFlags
  initialGrantState := result.initialGrantState
  captureUapiMajor := result.captureUapiMajor
  captureUapiMinor := result.captureUapiMinor
  helperFeatures := result.helperFeatures

variable {output : List UInt8}

lemma encodeHeader_eq (messageType : MessageType) (requestId : UInt64)
    (h : output.length = expectedMessageLength messageType) :
    encodeHeader output messageType.toU16 (.ofNat (expectedMessageLength messageType)) requestId =
      some (padded (expectedMessageLength messageType)
        (headerFields messageType requestId).flatten) := by
  have hlength : (UInt32.ofNat (expectedMessageLength messageType)).toNat =
      expectedMessageLength messageType := by
    cases messageType <;> rfl
  have hclear : write output 0 (List.replicate (expectedMessageLength messageType) 0) =
      some (List.replicate (expectedMessageLength messageType) 0) := by
    simp [write, h]
  rw [← putHeader_eq, encodeHeader, hlength, hclear]
  simp only [putU16_eq, putU32_eq, putU64_eq, putHeader, Option.bind_eq_bind, Option.bind_some]

lemma putHello_eq (hello : HelperHello) (h : output.length = HELLO_LENGTH) :
    putHello output hello = some (Message.Hello hello.toHello).datagram := by
  have hheader : encodeHeader output MESSAGE_HELLO (.ofNat HELLO_LENGTH) 0 =
      some (padded HELLO_LENGTH (headerFields .Hello 0).flatten) := encodeHeader_eq .Hello 0 h
  rw [Message.datagram, List.flatten_append, Message.messageType, Message.requestId,
    ← GrantHelper.encodeHello_eq (length_headerFields _ _), putHello, hheader]
  simp only [putU32_eq, GrantHelper.encodeHello, HelperHello.toHello, Option.bind_eq_bind,
    Option.bind_some]

lemma putCreateResult_eq {result : CreateResult} {stage : DiagnosticStage}
    (h : output.length = CREATE_RESULT_LENGTH) (hstage : result.diagnosticStage = stage.toU32) :
    putCreateResult output result =
      some (Message.CreateResult result.requestId (result.toCreateResult stage)).datagram := by
  have hheader : encodeHeader output MESSAGE_CREATE_RESULT (.ofNat CREATE_RESULT_LENGTH)
      result.requestId = some (padded CREATE_RESULT_LENGTH
        (headerFields .CreateResult result.requestId).flatten) :=
    encodeHeader_eq .CreateResult result.requestId h
  rw [Message.datagram, List.flatten_append, Message.messageType, Message.requestId,
    ← GrantHelper.putCreateResult_eq (length_headerFields _ _), putCreateResult, hheader]
  simp only [putU16_eq, putU32_eq, putI32_eq, GrantHelper.putCreateResult,
    CreateResult.toCreateResult, hstage, Option.bind_eq_bind, Option.bind_some]

lemma checkCreateResult_eq_ok {result : CreateResult} {stage : DiagnosticStage}
    (hstage : result.diagnosticStage = stage.toU32) :
    checkCreateResult result = .ok () ↔
      ¬ (Message.CreateResult result.requestId (result.toCreateResult stage)).Refused := by
  have hnone : result.diagnosticStage = DIAGNOSTIC_STAGE_NONE ↔ stage = .None := by
    rw [hstage]
    cases stage <;> decide
  simp only [checkCreateResult, ne_eq, hnone, Message.Refused, CreateResult.toCreateResult,
    GrantHelper.CreateResult.HasGrantMetadata]
  split_ifs with hid hpositive hsuccess hfailure
  · simp [hid]
  · simp [hpositive]
  · simp [hsuccess]
  · simp only [false_iff, not_not]
    exact .inr (.inr (.inr hfailure))
  · simp only [true_iff]
    rintro (h | h | h | h)
    · exact hid h
    · exact hpositive h
    · exact hsuccess h
    · exact hfailure h

/-! ## What the helper accepts -/

/-- The fields of a request, with the number of its profile. -/
def CreateRequest.ofRequest (requestId : UInt64) (request : GrantHelper.CreateRequest) :
    CreateRequest where
  requestId
  expectedDaemonPid := request.expectedDaemonPid
  deviceMajor := request.deviceMajor
  deviceMinor := request.deviceMinor
  connectorId := request.connectorId
  profile := request.profile.toU16

variable {input : List UInt8}

/-- The header is accepted exactly if its fields are those of a request. -/
lemma decodeRequestHeader_eq_ok {header : RequestHeader input} :
    decodeRequestHeader input = .ok header ↔
      fieldsAt input 0 headerWidths = headerFields .CreateRequest header.requestId ∧
      header.requestId ≠ 0 := by
  obtain ⟨requestId, hlength⟩ := header
  have hlength' : input.length = 64 := hlength
  simp only [decodeRequestHeader, bind_eq_ok, exists_require, getU16_eq, getU32_eq, getU64_eq,
    getU16_eq_iff, headerWidths, headerFields, fieldsAt, List.cons.injEq, Nat.zero_add,
    Nat.reduceAdd, and_true, Except.ok.injEq]
  constructor
  · rintro ⟨_, _, hmagic, hmajor, hminor, htype, hheader, hdeclared, hflags, hreserved, hnonzero,
      heq⟩
    have hid : GrantHelper.getU64 input 16 (by omega) = requestId :=
      congrArg RequestHeader.requestId heq
    rw [toNat_getU16] at hheader
    rw [toNat_getU32, hlength] at hdeclared
    refine ⟨⟨hmagic, hmajor, hminor, htype, ?_, ?_, getU64_eq_iff.1 hid, getU32_eq_iff.1 hflags,
      getU32_eq_iff.1 hreserved⟩, ?_⟩
    · exact (slice_eq_toLittle_iff (by omega) (by decide)).2 hheader
    · exact (slice_eq_toLittle_iff (by omega) (by decide)).2 hdeclared
    · exact hid ▸ hnonzero
  · rintro ⟨⟨hmagic, hmajor, hminor, htype, hheader, hdeclared, hid, hflags, hreserved⟩, hnonzero⟩
    have hid' : GrantHelper.getU64 input 16 (by omega) = requestId := getU64_eq_iff.2 hid
    rw [slice_eq_toLittle_iff (by omega) (by decide)] at hheader hdeclared
    refine ⟨?_, ?_, hmagic, hmajor, hminor, htype, toNat_getU16.trans hheader, ?_,
      getU32_eq_iff.2 hflags, getU32_eq_iff.2 hreserved, ?_, ?_⟩
    · simp [hlength', HEADER_LENGTH, MAX_MESSAGE_LENGTH, CREATE_REQUEST_LENGTH]
    · omega
    · rw [toNat_getU32, hdeclared, hlength]
      rfl
    · rw [hid']
      exact hnonzero
    · simp only [hid']

lemma profile_declared_iff {profile : UInt16} :
    ¬ (profile ≠ GRANT_PROFILE_DISPLAY_V1 ∧ profile ≠ GRANT_PROFILE_DISPLAY_CEC_V1 ∧
      profile ≠ GRANT_PROFILE_DISPLAY_CEC_AUDIO_V1) ↔
    ∃ known : GrantProfile, profile = known.toU16 := by
  constructor
  · intro h
    by_contra hunknown
    rw [not_exists] at hunknown
    exact h ⟨hunknown .DisplayV1, hunknown .DisplayCecV1, hunknown .DisplayCecAudioV1⟩
  · rintro ⟨known, rfl⟩
    cases known <;> decide

lemma drop_eq_slice (h : input.length = CREATE_REQUEST_LENGTH) :
    input.drop 50 = slice input 50 14 := by
  rw [slice, List.take_of_length_le]
  rw [List.length_drop, h]
  decide

/-- The helper accepts exactly the requests that the daemon would decode. -/
theorem decodeCreateRequest_eq_ok {old request : CreateRequest} :
    decodeCreateRequest (some input) (some old) = .ok request ↔
      ∃ message, Message.decode input = .ok (.CreateRequest request.requestId message) ∧
        request = .ofRequest request.requestId message := by
  simp only [decodeCreateRequest, bind_eq_ok, exists_require, getU16_eq, getU32_eq,
    profile_declared_iff, Except.ok.injEq, CreateRequest.ext_iff, getU16_eq_iff, getU32_eq_iff,
    Message.decode_eq_ok, Message.eq_datagram_iff, Message.Refused, Message.messageType,
    Message.requestId, expectedMessageLength, CreateRequest.ofRequest, Message.bodyWidths,
    Message.bodyFields, fieldsAt, List.cons.injEq, Nat.reduceAdd, and_true, true_and]
  constructor
  · rintro ⟨header, hheader, ⟨known, hknown⟩, hreserved, hid, hpid, hmajor, hminor, hconnector,
      hprofile⟩
    obtain ⟨hfields, hnonzero⟩ := decodeRequestHeader_eq_ok.1 hheader
    have hlength : input.length = 64 := header.length_eq
    have hsame : request.profile = known.toU16 := by
      rw [← getU16_eq_iff (h := by omega)] at hprofile hknown
      exact hprofile.symm.trans hknown
    rw [hid] at hfields hnonzero
    rw [hsame] at hprofile
    rw [drop_eq_slice header.length_eq, ← slice_eq_zeros_iff (by omega)] at hreserved
    exact ⟨⟨_, _, _, _, known⟩, ⟨hnonzero, header.length_eq, hfields, hpid, hmajor, hminor,
      hconnector, hprofile, hreserved⟩, rfl, rfl, rfl, rfl, hsame⟩
  · rintro ⟨message, ⟨hnonzero, hlength, hfields, hpid, hmajor, hminor, hconnector, hprofile,
      hreserved⟩, hpid', hmajor', hminor', hconnector', hprofile'⟩
    have hlength' : input.length = 64 := hlength
    rw [slice_eq_zeros_iff (by omega), ← drop_eq_slice hlength] at hreserved
    rw [hpid', hmajor', hminor', hconnector', hprofile']
    exact ⟨⟨request.requestId, hlength⟩, decodeRequestHeader_eq_ok.2 ⟨hfields, hnonzero⟩,
      ⟨message.profile, hprofile⟩, hreserved, rfl, hpid, hmajor, hminor, hconnector, hprofile⟩

/-- The daemon decodes what the helper encodes, and both accept the same requests and refuse
the same results. -/
theorem codecs_agree :
    (∀ (input : List UInt8) (old request : CreateRequest),
      decodeCreateRequest (some input) (some old) = .ok request ↔
        ∃ message, Message.decode input = .ok (.CreateRequest request.requestId message) ∧
          request = .ofRequest request.requestId message) ∧
    (∀ (output : Vector UInt8 HELLO_LENGTH) (hello : HelperHello),
      ∃ bytes, encodeHello (some output) (some hello) = some (.ok bytes) ∧
        Message.decode bytes = .ok (.Hello hello.toHello)) ∧
    ∀ (output : Vector UInt8 CREATE_RESULT_LENGTH) (result : CreateResult)
      (stage : DiagnosticStage), result.diagnosticStage = stage.toU32 →
      let message := Message.CreateResult result.requestId (result.toCreateResult stage)
      (∃ bytes, encodeCreateResult (some output) (some result) = some (.ok bytes) ∧
        message.encode = some (.ok bytes) ∧ Message.decode bytes = .ok message) ∨
      (∃ e e', encodeCreateResult (some output) (some result) = some (.error e) ∧
        message.encode = some (.error e')) := by
  refine ⟨fun input old request => decodeCreateRequest_eq_ok, ?_, ?_⟩
  · intro output hello
    refine ⟨(Message.Hello hello.toHello).datagram, ?_, Message.decode_eq_ok.2 ⟨not_false, rfl⟩⟩
    rw [encodeHello, putHello_eq hello output.length_toList, Option.map_some]
  · intro output result stage hstage message
    by_cases hrefused : message.Refused
    · obtain ⟨e', he'⟩ := Message.encode_of_refused hrefused
      have hcheck := mt (checkCreateResult_eq_ok hstage).1 (not_not_intro hrefused)
      match hresult : checkCreateResult result with
      | .error e => exact .inr ⟨e, e', by simp [encodeCreateResult, hresult], he'⟩
      | .ok () => exact absurd hresult hcheck
    · refine .inl ⟨message.datagram, ?_, Message.encode_of_not_refused hrefused,
        Message.decode_eq_ok.2 ⟨hrefused, rfl⟩⟩
      simp only [encodeCreateResult, (checkCreateResult_eq_ok hstage).2 hrefused,
        putCreateResult_eq output.length_toList hstage, Option.map_some]
      rfl

/-- A device that could not be opened. -/
def failedResult : CreateResult where
  requestId := 0x0123456789abcdef
  status := -13
  diagnosticStage := 3
  grantId := 0
  connectorId := 0
  outputIndex := 0
  actualRights := 0
  grantFlags := 0
  initialGrantState := 0
  captureUapiMajor := 0
  captureUapiMinor := 0
  helperFeatures := 1

theorem codecs_agree_failed :
    failedResult.diagnosticStage = DiagnosticStage.Device.toU32 ∧
    let message := Message.CreateResult failedResult.requestId
      (failedResult.toCreateResult .Device)
    (∃ bytes, encodeCreateResult (some (Vector.replicate _ 0xff)) (some failedResult) =
        some (.ok bytes) ∧
      message.encode = some (.ok bytes) ∧ Message.decode bytes = .ok message) ∨
    (∃ e e', encodeCreateResult (some (Vector.replicate _ 0xff)) (some failedResult) =
        some (.error e) ∧
      message.encode = some (.error e')) :=
  ⟨rfl, codecs_agree.2.2 _ failedResult .Device rfl⟩

end Pronk.GrantHelper.Helper
