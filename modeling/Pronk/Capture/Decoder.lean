import Pronk.Capture.Event
import Pronk.Library.Bytes
import Pronk.Library.Fallible
import Pronk.Library.Framing

/-!
# Decoding the event stream

A holder reads records in chunks that need not end where a record does. The decoder
carries the incomplete record over to the next chunk. Numbers stand in the machine's
own byte order, so every function here takes it.
-/
namespace Pronk.Capture
open CastKms Bytes Framing

def DRM_EVENT_HEADER_SIZE : ℕ := 8
def DRM_EVENT_READ_SIZE : ℕ := 4096
def MAX_DRM_EVENT_SIZE : ℕ := 4096

def GRANT_REVOKED_EVENT_SIZE : ℕ := 24
def GRANT_STATE_EVENT_SIZE : ℕ := 32
def CAPTURE_FRAME_EVENT_SIZE : ℕ := 112
def CEC_TRANSMIT_EVENT_SIZE : ℕ := 72

def CAPTURE_EVENT_FRAME : UInt32 := 0x80000000
def CEC_EVENT_TX : UInt32 := 0x80000001
def CAPTURE_EVENT_GRANT_REVOKED : UInt32 := 0x80000003
def CAPTURE_EVENT_GRANT_STATE : UInt32 := 0x80000004

section Records

variable (order : ByteOrder) (bytes : List UInt8) (offset : ℕ)

def readU16 : UInt16 := .ofNat (order.decode (slice bytes offset 2))
def readU32 : UInt32 := .ofNat (order.decode (slice bytes offset 4))
def readU64 : UInt64 := .ofNat (order.decode (slice bytes offset 8))
def readI32 : Int32 := (readU32 order bytes offset).toInt32
def readI64 : Int64 := (readU64 order bytes offset).toInt64

def validateDeclaredLength (eventType declaredLength : UInt32) : Except EventDecodeError ℕ :=
  if declaredLength.toNat < DRM_EVENT_HEADER_SIZE then
    .error (.LengthTooSmall eventType declaredLength)
  else if declaredLength.toNat > MAX_DRM_EVENT_SIZE then
    .error (.LengthTooLarge eventType declaredLength MAX_DRM_EVENT_SIZE)
  else .ok declaredLength.toNat

def requireKnownPrefix (eventType actual : UInt32) (minimum : ℕ) : Except EventDecodeError Unit :=
  if minimum ≤ actual.toNat then .ok () else .error (.KnownEventTooShort eventType actual minimum)

def requireZeroReserved (eventType value : UInt32) : Except EventDecodeError Unit :=
  if value = 0 then .ok () else .error (.NonZeroReserved eventType value)

/-- The first check that fails names the field. -/
def requireValidFields (checks : List (Bool × String)) : Except EventDecodeError Unit :=
  match checks.find? (!·.1) with
  | some (_, field) => .error (.InvalidCecTransmit field)
  | none => .ok ()

def decodeGrantRevoked : GrantRevokedEvent :=
  ⟨readU32 order bytes 8, readI32 order bytes 12, readU64 order bytes 16⟩

def decodeGrantState (eventType : UInt32) : Except EventDecodeError GrantStateEvent := do
  let rawState := readU32 order bytes 12
  let state ← (GrantState.tryFrom rawState).mapError fun _ => .UnknownGrantState rawState
  requireZeroReserved eventType (readU32 order bytes 20)
  .ok ⟨readU32 order bytes 8, state, readI32 order bytes 16, readU64 order bytes 24⟩

def decodeCaptureFrame (eventType : UInt32) : Except EventDecodeError CaptureFrameEvent := do
  requireZeroReserved eventType (readU32 order bytes 108)
  .ok { userData := readU64 order bytes 8
        sequence := readU64 order bytes 16
        timestampNs := readI64 order bytes 24
        modeGeneration := readU64 order bytes 32
        streamId := readU32 order bytes 40
        bufferId := readU32 order bytes 44
        status := readI32 order bytes 48
        flags := readU32 order bytes 52
        droppedFrames := readU32 order bytes 56
        damageX := readI32 order bytes 60
        damageY := readI32 order bytes 64
        damageWidth := readU32 order bytes 68
        damageHeight := readU32 order bytes 72
        cursorSerial := readU32 order bytes 76
        cursorFlags := readU32 order bytes 80
        cursorX := readI32 order bytes 84
        cursorY := readI32 order bytes 88
        cursorHotspotX := readU32 order bytes 92
        cursorHotspotY := readU32 order bytes 96
        cursorWidth := readU32 order bytes 100
        cursorHeight := readU32 order bytes 104 }

def decodeCecTransmit (eventType : UInt32) : Except EventDecodeError CecTransmitEvent := do
  requireZeroReserved eventType (readU32 order bytes 12)
  requireZeroReserved eventType (readU16 order bytes 66).toUInt32
  let event : CecTransmitEvent :=
    { transportId := readU32 order bytes 8
      transportGeneration := readU64 order bytes 16
      stateGeneration := readU64 order bytes 24
      cookie := readU64 order bytes 32
      connectorId := readU32 order bytes 40
      outputIndex := readU32 order bytes 44
      attempts := bytes.getD 48 0
      signalFreeTime := readU32 order bytes 68
      messageLength := bytes.getD 49 0
      messageBuffer := .ofFn fun i => bytes.getD (50 + i) 0 }
  requireValidFields
    [(event.transportId ≠ 0, "transport ID"),
     (event.transportGeneration ≠ 0, "transport generation"),
     (event.stateGeneration ≠ 0, "state generation"),
     (event.cookie ≠ 0, "transaction cookie"),
     (event.connectorId ≠ 0, "connector ID"),
     (event.attempts ≠ 0, "attempt count"),
     (1 ≤ event.messageLength ∧ event.messageLength ≤ 16, "message length")]
  .ok event

/-- `bytes` is a whole record. -/
def decodeEvent (eventType declaredLength : UInt32) : Except EventDecodeError CastKmsEvent := do
  if eventType = CAPTURE_EVENT_GRANT_REVOKED then
    requireKnownPrefix eventType declaredLength GRANT_REVOKED_EVENT_SIZE
    .ok (.GrantRevoked (decodeGrantRevoked order bytes))
  else if eventType = CAPTURE_EVENT_GRANT_STATE then
    requireKnownPrefix eventType declaredLength GRANT_STATE_EVENT_SIZE
    .GrantState <$> decodeGrantState order bytes eventType
  else if eventType = CAPTURE_EVENT_FRAME then
    requireKnownPrefix eventType declaredLength CAPTURE_FRAME_EVENT_SIZE
    .CaptureFrame <$> decodeCaptureFrame order bytes eventType
  else if eventType = CEC_EVENT_TX then
    requireKnownPrefix eventType declaredLength CEC_TRANSMIT_EVENT_SIZE
    .CecTransmit <$> decodeCecTransmit order bytes eventType
  else .ok (.Unknown ⟨eventType, declaredLength⟩)

end Records

/-- The bytes of an event that is not complete. -/
structure EventDecoder where
  carry : List UInt8 := []
  deriving DecidableEq

namespace EventDecoder

/-- How a turn of the loop of `push` ends: it breaks, returns an error or goes on with
the rest of the input and an empty carry. -/
inductive Turn where
  | stopped (carry : List UInt8)
  | failed (carry : List UInt8) (error : EventDecodeError)
  | decoded (event : CastKmsEvent) (input : List UInt8)

/-- The second half of a turn: the carry has its header and is filled up to the declared
length. -/
def takeRecord (order : ByteOrder) (carry input : List UInt8) : Turn :=
  let eventType := readU32 order carry 0
  let declaredLength := readU32 order carry 4
  match validateDeclaredLength eventType declaredLength with
  | .error e => .failed carry e
  | .ok eventLength =>
    let count := eventLength - carry.length
    let carry := carry ++ input.take count
    let input := input.drop count
    if carry.length < eventLength then .stopped carry
    else
      match decodeEvent order carry eventType declaredLength with
      | .error e => .failed carry e
      | .ok event => .decoded event input

def turn (order : ByteOrder) (carry input : List UInt8) : Turn :=
  -- Nothing is added to a carry that has its header.
  let count := DRM_EVENT_HEADER_SIZE - carry.length
  let carry := carry ++ input.take count
  let input := input.drop count
  if carry.length < DRM_EVENT_HEADER_SIZE then .stopped carry
  else takeRecord order carry input

/-- The loop of `push`. Every turn that goes on has taken at least one byte. -/
def pushLoop (order : ByteOrder) :
    ℕ → List UInt8 → List UInt8 → List CastKmsEvent →
      EventDecoder × Except EventDecodeError (List CastKmsEvent)
  | 0, carry, _, events => (⟨carry⟩, .ok events)
  | fuel + 1, carry, input, events =>
    if input = [] then (⟨carry⟩, .ok events)
    else
      match turn order carry input with
      | .stopped carry => (⟨carry⟩, .ok events)
      | .failed carry e => (⟨carry⟩, .error e)
      | .decoded event input => pushLoop order fuel [] input (events ++ [event])

/-- Decode what the bytes complete. -/
def push (order : ByteOrder) (decoder : EventDecoder) (bytes : List UInt8) :
    EventDecoder × Except EventDecodeError (List CastKmsEvent) :=
  if bytes.length > DRM_EVENT_READ_SIZE then
    (decoder, .error (.InputTooLarge bytes.length DRM_EVENT_READ_SIZE))
  else pushLoop order (bytes.length + 1) decoder.carry bytes []

/-- The stream must not end within an event. -/
def finish (order : ByteOrder) (decoder : EventDecoder) : Except EventDecodeError Unit :=
  if decoder.carry = [] then .ok ()
  else
    .error (.Truncated decoder.carry.length
      (if DRM_EVENT_HEADER_SIZE ≤ decoder.carry.length then
        some (readU32 order decoder.carry 4).toNat else none))

/-- The chunks of a stream one after the other, up to the first error. -/
def pushAll (order : ByteOrder) :
    EventDecoder → List (List UInt8) → Except EventDecodeError (List CastKmsEvent × EventDecoder)
  | decoder, [] => .ok ([], decoder)
  | decoder, chunk :: rest =>
    match decoder.push order chunk with
    | (_, .error e) => .error e
    | (decoder, .ok events) => (pushAll order decoder rest).map fun r => (events ++ r.1, r.2)

end EventDecoder

/-! ## The batch parser -/

/-- The record at the start of a stream: a header of eight bytes, whose length field says
how many bytes the record takes with it. -/
def nextRecord (order : ByteOrder) (stream : List UInt8) :
    Except EventDecodeError (Option (CastKmsEvent × ℕ)) :=
  if stream.length < DRM_EVENT_HEADER_SIZE then .ok none
  else
    match validateDeclaredLength (readU32 order stream 0) (readU32 order stream 4) with
    | .error e => .error e
    | .ok eventLength =>
      if stream.length < eventLength then .ok none
      else
        (decodeEvent order (stream.take eventLength) (readU32 order stream 0)
          (readU32 order stream 4)).map fun event => some (event, eventLength)

section NextRecord

variable {order : ByteOrder} {stream : List UInt8}

lemma readU32_append {offset : ℕ} (more : List UInt8) (h : offset + 4 ≤ stream.length) :
    readU32 order (stream ++ more) offset = readU32 order stream offset := by
  rw [readU32, readU32, slice_append more h]

lemma validateDeclaredLength_eq_ok {eventType declaredLength : UInt32} {n : ℕ} :
    validateDeclaredLength eventType declaredLength = .ok n ↔
      n = declaredLength.toNat ∧ DRM_EVENT_HEADER_SIZE ≤ n ∧ n ≤ MAX_DRM_EVENT_SIZE := by
  unfold validateDeclaredLength
  split_ifs with hsmall hlarge
  · simp only [false_iff]
    omega
  · simp only [false_iff]
    omega
  · simp only [Except.ok.injEq]
    omega

lemma nextRecord_short (h : stream.length < DRM_EVENT_HEADER_SIZE) :
    nextRecord order stream = .ok none := by
  rw [nextRecord, if_pos h]

lemma nextRecord_invalid {e : EventDecodeError} (h : DRM_EVENT_HEADER_SIZE ≤ stream.length)
    (hlength : validateDeclaredLength (readU32 order stream 0) (readU32 order stream 4) =
      .error e) : nextRecord order stream = .error e := by
  simp only [nextRecord, if_neg (Nat.not_lt.2 h), hlength]

lemma nextRecord_valid {n : ℕ} (h : DRM_EVENT_HEADER_SIZE ≤ stream.length)
    (hlength : validateDeclaredLength (readU32 order stream 0) (readU32 order stream 4) = .ok n) :
    nextRecord order stream =
      if stream.length < n then .ok none
      else
        (decodeEvent order (stream.take n) (readU32 order stream 0)
          (readU32 order stream 4)).map fun event => some (event, n) := by
  simp only [nextRecord, if_neg (Nat.not_lt.2 h), hlength]

lemma nextRecord_cases (order : ByteOrder) (stream : List UInt8) :
    nextRecord order stream = .ok none ∨
      DRM_EVENT_HEADER_SIZE ≤ stream.length ∧
        ((∃ e, validateDeclaredLength (readU32 order stream 0) (readU32 order stream 4) = .error e ∧
            nextRecord order stream = .error e) ∨
          ∃ n, validateDeclaredLength (readU32 order stream 0) (readU32 order stream 4) = .ok n ∧
            n ≤ stream.length ∧
            nextRecord order stream =
              (decodeEvent order (stream.take n) (readU32 order stream 0)
                (readU32 order stream 4)).map fun event => some (event, n)) := by
  by_cases hshort : stream.length < DRM_EVENT_HEADER_SIZE
  · exact .inl (nextRecord_short hshort)
  · have hheader := Nat.not_lt.1 hshort
    match hlength : validateDeclaredLength (readU32 order stream 0) (readU32 order stream 4) with
    | .error e => exact .inr ⟨hheader, .inl ⟨e, rfl, nextRecord_invalid hheader hlength⟩⟩
    | .ok n =>
      have hvalid := nextRecord_valid hheader hlength
      by_cases hn : stream.length < n
      · rw [if_pos hn] at hvalid
        exact .inl hvalid
      · rw [if_neg hn] at hvalid
        exact .inr ⟨hheader, .inr ⟨n, rfl, Nat.not_lt.1 hn, hvalid⟩⟩

lemma nextRecord_found {event : CastKmsEvent} {n : ℕ}
    (h : nextRecord order stream = .ok (some (event, n))) :
    DRM_EVENT_HEADER_SIZE ≤ stream.length ∧ n ≤ stream.length ∧
      validateDeclaredLength (readU32 order stream 0) (readU32 order stream 4) = .ok n := by
  obtain hnone | ⟨hheader, ⟨e, -, he⟩ | ⟨m, hm, hle, heq⟩⟩ := nextRecord_cases order stream
  · simp [hnone] at h
  · simp [he] at h
  · rw [heq] at h
    match hdecode : decodeEvent order (stream.take m) (readU32 order stream 0)
        (readU32 order stream 4) with
    | .error e => simp [hdecode, Except.map] at h
    | .ok event' =>
      simp only [hdecode, Except.map, Except.ok.injEq, Option.some.injEq, Prod.mk.injEq] at h
      exact h.2 ▸ ⟨hheader, hle, hm⟩

lemma nextRecord_bounds {event : CastKmsEvent} {n : ℕ}
    (h : nextRecord order stream = .ok (some (event, n))) : 0 < n ∧ n ≤ stream.length := by
  obtain ⟨-, hle, hlength⟩ := nextRecord_found h
  have hmin := (validateDeclaredLength_eq_ok.1 hlength).2.1
  exact ⟨Nat.lt_of_lt_of_le (by decide) hmin, hle⟩

/-- An answer other than "more input" stays the same on a longer stream. -/
lemma nextRecord_append (more : List UInt8) (h : nextRecord order stream ≠ .ok none) :
    nextRecord order (stream ++ more) = nextRecord order stream := by
  obtain hnone | ⟨hheader, hrest⟩ := nextRecord_cases order stream
  · exact absurd hnone h
  · have hlong : DRM_EVENT_HEADER_SIZE ≤ (stream ++ more).length := by
      rw [List.length_append]
      omega
    have h0 : readU32 order (stream ++ more) 0 = readU32 order stream 0 :=
      readU32_append more (Nat.le_trans (by decide) hheader)
    have h4 : readU32 order (stream ++ more) 4 = readU32 order stream 4 :=
      readU32_append more hheader
    obtain ⟨e, hlength, he⟩ | ⟨n, hlength, hle, heq⟩ := hrest
    · rw [he]
      exact nextRecord_invalid hlong (by rw [h0, h4, hlength])
    · rw [heq, nextRecord_valid hlong (by rw [h0, h4, hlength]), h0, h4, if_neg,
        List.take_append_of_le_length hle]
      rw [List.length_append]
      omega

end NextRecord

def recordFramer (order : ByteOrder) : Framer UInt8 CastKmsEvent EventDecodeError where
  next := nextRecord order
  bounds := nextRecord_bounds
  found more h := by rw [nextRecord_append more (by simp [h]), h]
  refused more h := by rw [nextRecord_append more (by simp [h]), h]

/-- The events of a stream that is there as a whole, and the bytes of its last,
incomplete record. -/
def batchParse (order : ByteOrder) (stream : List UInt8) :
    Except EventDecodeError (List CastKmsEvent × List UInt8) :=
  (recordFramer order).drain stream

end Pronk.Capture
