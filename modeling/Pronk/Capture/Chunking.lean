import Pronk.Capture.Decoder

/-!
# How the stream is cut does not matter

Pushing the chunks of a stream gives the events and the carry that the batch parser
gives on the whole stream. Between two chunks the carry is the start of a record, and
the loop of `push` restores this when it stops without an error.
-/
namespace Pronk.Capture
open CastKms Bytes Framing Framer EventDecoder List

variable {order : ByteOrder}

lemma nextRecord_nil (order : ByteOrder) : nextRecord order [] = .ok none :=
  nextRecord_short (by decide)

namespace EventDecoder

variable {carry : List UInt8}

/-- A carry that has its header is shorter than the record it starts. -/
lemma length_lt_of_pending {n : ℕ} (h : nextRecord order carry = .ok none)
    (hheader : DRM_EVENT_HEADER_SIZE ≤ carry.length)
    (hlength : validateDeclaredLength (readU32 order carry 0) (readU32 order carry 4) = .ok n) :
    carry.length < n := by
  rw [nextRecord_valid hheader hlength] at h
  by_contra hn
  rw [if_neg hn] at h
  match hdecode : decodeEvent order (carry.take n) (readU32 order carry 0)
      (readU32 order carry 4) with
  | .error e => simp [hdecode, Except.map] at h
  | .ok event => simp [hdecode, Except.map] at h

/-- What a turn says of the stream it looked at. -/
def Turn.Fits (order : ByteOrder) (stream : List UInt8) : Turn → Prop
  | .stopped carry => carry = stream ∧ nextRecord order stream = .ok none
  | .failed _ e => nextRecord order stream = .error e
  | .decoded event input =>
    ∃ n, nextRecord order stream = .ok (some (event, n)) ∧ input = stream.drop n

variable {input : List UInt8}

lemma takeRecord_fits (hheader : DRM_EVENT_HEADER_SIZE ≤ carry.length) (hfit : ∀ n,
      validateDeclaredLength (readU32 order carry 0) (readU32 order carry 4) = .ok n → carry.length
      ≤ n) :
    (takeRecord order carry input).Fits order (carry ++ input) := by
  have hlong : DRM_EVENT_HEADER_SIZE ≤ (carry ++ input).length := by
    rw [length_append]
    omega
  have h0 : readU32 order (carry ++ input) 0 = readU32 order carry 0 :=
    readU32_append input (Nat.le_trans (by decide) hheader)
  have h4 : readU32 order (carry ++ input) 4 = readU32 order carry 4 :=
    readU32_append input hheader
  unfold takeRecord
  dsimp only
  match hlength : validateDeclaredLength (readU32 order carry 0) (readU32 order carry 4) with
  | .error e => exact nextRecord_invalid hlong (by rw [h0, h4, hlength])
  | .ok n =>
    have hnext := nextRecord_valid hlong (by rw [h0, h4, hlength])
    dsimp only
    by_cases hn : (carry ++ input.take (n - carry.length)).length < n
    · have hall : carry ++ input.take (n - carry.length) = carry ++ input := by
        conv_rhs => rw [← take_append_drop (n - carry.length) input]
        rw [drop_of_topUp_short hn, append_nil]
      rw [if_pos hn, hall]
      rw [hall] at hn
      rw [if_pos hn] at hnext
      exact ⟨rfl, hnext⟩
    · obtain ⟨htake, hdrop, hle⟩ := topUp_eq (hfit n hlength) hn
      rw [if_neg (Nat.not_lt.2 hle), h0, h4] at hnext
      rw [if_neg hn, htake, hdrop]
      match hdecode : decodeEvent order ((carry ++ input).take n) (readU32 order carry 0)
          (readU32 order carry 4) with
      | .error e => simp [Turn.Fits, hnext, hdecode, Except.map]
      | .ok event => simp [Turn.Fits, hnext, hdecode, Except.map]

lemma turn_fits (input : List UInt8) (hpending : nextRecord order carry = .ok none) :
    (turn order carry input).Fits order (carry ++ input) := by
  unfold turn
  dsimp only
  by_cases hshort :
      (carry ++ input.take (DRM_EVENT_HEADER_SIZE - carry.length)).length < DRM_EVENT_HEADER_SIZE
  · have hall : carry ++ input.take (DRM_EVENT_HEADER_SIZE - carry.length) = carry ++ input := by
      conv_rhs => rw [← take_append_drop (DRM_EVENT_HEADER_SIZE - carry.length) input]
      rw [drop_of_topUp_short hshort, append_nil]
    rw [if_pos hshort, hall]
    rw [hall] at hshort
    exact ⟨rfl, nextRecord_short hshort⟩
  · rw [if_neg hshort]
    have hstream : carry ++ input =
        carry ++ input.take (DRM_EVENT_HEADER_SIZE - carry.length) ++
          input.drop (DRM_EVENT_HEADER_SIZE - carry.length) := by
      rw [append_assoc, take_append_drop]
    rw [hstream]
    apply takeRecord_fits (Nat.not_lt.1 hshort)
    intro n hlength
    by_cases hheader : DRM_EVENT_HEADER_SIZE ≤ carry.length
    · rw [Nat.sub_eq_zero_of_le hheader, take_zero, append_nil] at hlength ⊢
      exact Nat.le_of_lt (length_lt_of_pending hpending hheader hlength)
    · have hmin := (validateDeclaredLength_eq_ok.1 hlength).2.1
      rw [length_append, length_take]
      omega

/-- The record that starts with the carry takes more than the carry. -/
lemma length_lt_of_found {event : CastKmsEvent} {n : ℕ}
    (hpending : nextRecord order carry = .ok none)
    (h : nextRecord order (carry ++ input) = .ok (some (event, n))) : carry.length < n := by
  obtain ⟨-, -, hlength⟩ := nextRecord_found h
  by_contra hle
  have hheader : DRM_EVENT_HEADER_SIZE ≤ carry.length := by
    have := (validateDeclaredLength_eq_ok.1 hlength).2.1
    omega
  rw [readU32_append input (Nat.le_trans (by decide) hheader), readU32_append input hheader]
    at hlength
  exact hle (length_lt_of_pending hpending hheader hlength)

/-- The loop ends as the batch parser does, after the events it already had. -/
def Ends (events : List CastKmsEvent)
    (result : EventDecoder × Except EventDecodeError (List CastKmsEvent)) :
    Except EventDecodeError (List CastKmsEvent × List UInt8) → Prop
  | .error e => result.2 = .error e
  | .ok (more, rest) => result = (⟨rest⟩, .ok (events ++ more))

lemma Ends.cons {events : List CastKmsEvent} {event : CastKmsEvent}
    {result : EventDecoder × Except EventDecodeError (List CastKmsEvent)}
    {parsed : Except EventDecodeError (List CastKmsEvent × List UInt8)}
    (h : Ends (events ++ [event]) result parsed) :
    Ends events result (parsed.map fun r => (event :: r.1, r.2)) := by
  match parsed, h with
  | .error e, h => exact h
  | .ok (more, rest), h => simpa [Ends, Except.map] using h

lemma pushLoop_ends {fuel : ℕ} (events : List CastKmsEvent)
    (hpending : nextRecord order carry = .ok none) (hfuel : input.length < fuel) :
    Ends events (pushLoop order fuel carry input events) (batchParse order (carry ++ input)) := by
  induction fuel generalizing carry input events with
  | zero => omega
  | succ fuel ih =>
    rw [pushLoop]
    by_cases hempty : input = []
    · have hparse : batchParse order carry = .ok ([], carry) := drain_pending hpending
      rw [if_pos hempty, hempty, append_nil, hparse, Ends, append_nil]
    · rw [if_neg hempty]
      have hfits := turn_fits input hpending
      match hturn : turn order carry input with
      | .stopped carry' =>
        rw [hturn] at hfits
        obtain ⟨rfl, hnext⟩ := hfits
        have hparse : batchParse order (carry ++ input) = .ok ([], carry ++ input) :=
          drain_pending hnext
        rw [hparse, Ends, append_nil]
      | .failed carry' e =>
        rw [hturn] at hfits
        have hparse : batchParse order (carry ++ input) = .error e := drain_refused hfits
        rw [hparse, Ends]
      | .decoded event input' =>
        rw [hturn] at hfits
        obtain ⟨n, hnext, rfl⟩ := hfits
        have hparse : batchParse order (carry ++ input) =
            (batchParse order ((carry ++ input).drop n)).map fun r => (event :: r.1, r.2) :=
          drain_found hnext
        rw [hparse]
        apply Ends.cons
        apply ih _ (nextRecord_nil order)
        have hn := length_lt_of_found hpending hnext
        have hle := (nextRecord_bounds hnext).2
        rw [length_drop, length_append] at *
        omega

/-- Chunks of the allowed size, pushed after a carry that is the start of a record. -/
theorem pushAll_eq {chunks : List (List UInt8)} (hpending : nextRecord order carry = .ok none)
    (hsize : ∀ chunk ∈ chunks, chunk.length ≤ DRM_EVENT_READ_SIZE) :
    pushAll order ⟨carry⟩ chunks =
      (batchParse order (carry ++ chunks.flatten)).map fun r => (r.1, ⟨r.2⟩) := by
  induction chunks generalizing carry with
  | nil =>
    have hparse : batchParse order carry = .ok ([], carry) := drain_pending hpending
    rw [flatten_nil, append_nil, hparse]
    rfl
  | cons chunk rest ih =>
    obtain ⟨hchunk, hrest⟩ := forall_mem_cons.1 hsize
    have hends := pushLoop_ends [] hpending (Nat.lt_succ_self chunk.length)
    have happend : batchParse order (carry ++ chunk ++ rest.flatten) =
        batchParse order (carry ++ chunk) >>= fun r =>
          (batchParse order (r.2 ++ rest.flatten)).map fun s => (r.1 ++ s.1, s.2) :=
      drain_append _ _
    rw [pushAll, push, if_neg (Nat.not_lt.2 hchunk), flatten_cons, ← append_assoc,
      happend]
    match hparse : batchParse order (carry ++ chunk) with
    | .error e =>
      rw [hparse] at hends
      rw [show pushLoop order (chunk.length + 1) carry chunk [] = (_, .error e) from
        Prod.ext rfl hends]
      rfl
    | .ok (events, carry') =>
      rw [hparse] at hends
      have hnext : nextRecord order carry' = .ok none := pending_of_drain hparse
      rw [show pushLoop order (chunk.length + 1) carry chunk [] = (⟨carry'⟩, .ok events) from
        hends]
      simp only [ih hnext hrest, Fallible.ok_bind]
      cases batchParse order (carry' ++ rest.flatten) <;> rfl

end EventDecoder

/-! ## Record boundaries -/

/-- One complete record: its length field says how long it is. -/
def IsRecord (order : ByteOrder) (record : List UInt8) : Prop :=
  DRM_EVENT_HEADER_SIZE ≤ record.length ∧ (readU32 order record 4).toNat = record.length

def EndsOnBoundary (order : ByteOrder) (stream : List UInt8) : Prop :=
  ∃ records : List (List UInt8), stream = records.flatten ∧ ∀ r ∈ records, IsRecord order r

variable {stream : List UInt8}

lemma isRecord_take {event : CastKmsEvent} {n : ℕ}
    (h : nextRecord order stream = .ok (some (event, n))) : IsRecord order (stream.take n) := by
  obtain ⟨-, hle, hlength⟩ := nextRecord_found h
  obtain ⟨hn, hmin, -⟩ := validateDeclaredLength_eq_ok.1 hlength
  have hlen : (stream.take n).length = n := length_take_of_le hle
  constructor
  · rw [hlen]
    exact hmin
  · rw [hlen, readU32, slice_take hmin, hn, readU32]

/-- A stream that starts with a complete record and is not refused. -/
lemma nextRecord_of_isRecord {record rest : List UInt8} (h : IsRecord order record)
    (hok : ∀ e, nextRecord order (record ++ rest) ≠ .error e) :
    ∃ event, nextRecord order (record ++ rest) = .ok (some (event, record.length)) := by
  obtain ⟨hheader, hlength⟩ := h
  have hlong : DRM_EVENT_HEADER_SIZE ≤ (record ++ rest).length := by
    rw [length_append]
    omega
  match hvalid : validateDeclaredLength (readU32 order (record ++ rest) 0)
      (readU32 order (record ++ rest) 4) with
  | .error e => exact absurd (nextRecord_invalid hlong hvalid) (hok e)
  | .ok n =>
    have hn : n = record.length := by
      rw [(validateDeclaredLength_eq_ok.1 hvalid).1, readU32_append rest hheader, hlength]
    subst hn
    have hnext := nextRecord_valid hlong hvalid
    rw [if_neg (by rw [length_append]; omega)] at hnext
    match hdecode : decodeEvent order ((record ++ rest).take record.length)
        (readU32 order (record ++ rest) 0) (readU32 order (record ++ rest) 4) with
    | .error e =>
      rw [hdecode] at hnext
      exact absurd hnext (hok e)
    | .ok event =>
      rw [hdecode] at hnext
      exact ⟨event, hnext⟩

lemma endsOnBoundary_of_parsed {events : List CastKmsEvent}
    (h : batchParse order stream = .ok (events, [])) : EndsOnBoundary order stream := by
  induction stream using (recordFramer order).records_induction generalizing events with
  | refused stream e hnext => simp [batchParse, drain_refused hnext] at h
  | pending stream hnext =>
    rw [batchParse, drain_pending hnext] at h
    simp only [Except.ok.injEq, Prod.mk.injEq] at h
    exact ⟨[], by simp [h.2], by simp⟩
  | found stream event n hnext ih =>
    obtain ⟨more, -, hrest⟩ := (drain_found_eq_ok hnext).1 h
    obtain ⟨records, hflat, hrecords⟩ := ih hrest
    refine ⟨stream.take n :: records, ?_, ?_⟩
    · rw [flatten_cons, ← hflat, take_append_drop]
    · exact forall_mem_cons.2 ⟨isRecord_take hnext, hrecords⟩

lemma rest_of_endsOnBoundary {rest : List UInt8} {events : List CastKmsEvent}
    (h : batchParse order stream = .ok (events, rest)) (hb : EndsOnBoundary order stream) :
    rest = [] := by
  obtain ⟨records, rfl, hrecords⟩ := hb
  induction records generalizing events with
  | nil =>
    have hparse : batchParse order [] = .ok ([], []) := drain_pending (nextRecord_nil order)
    rw [flatten_nil, hparse] at h
    simp only [Except.ok.injEq, Prod.mk.injEq] at h
    exact h.2.symm
  | cons record records ih =>
    obtain ⟨hrecord, hmore⟩ := forall_mem_cons.1 hrecords
    rw [flatten_cons] at h
    have hok : ∀ e, nextRecord order (record ++ records.flatten) ≠ .error e := by
      intro e he
      rw [batchParse, drain_refused he] at h
      cases h
    obtain ⟨event, hnext⟩ := nextRecord_of_isRecord hrecord hok
    obtain ⟨more, -, hrest⟩ := (drain_found_eq_ok hnext).1 h
    rw [drop_left] at hrest
    exact ih hmore hrest

lemma EventDecoder.finish_eq_ok {decoder : EventDecoder} :
    decoder.finish order = .ok () ↔ decoder.carry = [] := by
  unfold finish
  by_cases h : decoder.carry = []
  · rw [if_pos h]
    exact iff_of_true rfl h
  · rw [if_neg h]
    exact iff_of_false (by simp) h

/-- However a stream is cut into chunks, the decoder gives what the batch parser gives on
the whole stream; so one cut is accepted if another one is, with the same events and the
same carry. The decoder can be finished exactly if no record is cut short. -/
theorem EventDecoder.chunking_independent (order : ByteOrder) (stream : List UInt8)
    (cut cut' : List (List UInt8)) (hcut : cut.flatten = stream) (hcut' : cut'.flatten = stream)
    (hsize : ∀ chunk ∈ cut, chunk.length ≤ DRM_EVENT_READ_SIZE)
    (hsize' : ∀ chunk ∈ cut', chunk.length ≤ DRM_EVENT_READ_SIZE) :
    (∀ events decoder, pushAll order {} cut = .ok (events, decoder) →
      pushAll order {} cut' = .ok (events, decoder) ∧
        batchParse order stream = .ok (events, decoder.carry) ∧
        (decoder.finish order = .ok () ↔ EndsOnBoundary order stream)) ∧
    (∀ e, pushAll order {} cut = .error e ↔ batchParse order stream = .error e) := by
  have hall := pushAll_eq (nextRecord_nil order) hsize
  have hall' := pushAll_eq (nextRecord_nil order) hsize'
  rw [nil_append, hcut] at hall
  rw [nil_append, hcut', ← hall] at hall'
  constructor
  · intro events decoder hpush
    rw [hpush] at hall hall'
    match hparse : batchParse order stream with
    | .error e => simp [hparse, Except.map] at hall
    | .ok (events', rest) =>
      simp only [hparse, Except.map, Except.ok.injEq, Prod.mk.injEq] at hall
      obtain ⟨rfl, rfl⟩ := hall
      refine ⟨hall', rfl, ?_⟩
      rw [finish_eq_ok]
      constructor
      · rintro rfl
        exact endsOnBoundary_of_parsed hparse
      · exact rest_of_endsOnBoundary hparse
  · intro e
    rw [hall]
    cases batchParse order stream <;> simp [Except.map]

/-- Two short records of unknown types; the first is cut inside its body, the second inside
its header. -/
def sampleChunks : List (List UInt8) :=
  [[9, 0, 0, 0, 10, 0, 0, 0, 1], [2, 7, 0, 0], [0, 8, 0, 0, 0]]

theorem EventDecoder.chunking_independent_sample :
    pushAll .little {} sampleChunks = .ok ([.Unknown ⟨9, 10⟩, .Unknown ⟨7, 8⟩], {}) ∧
      pushAll .little {} [sampleChunks.flatten] =
        .ok ([.Unknown ⟨9, 10⟩, .Unknown ⟨7, 8⟩], {}) ∧
      EndsOnBoundary .little sampleChunks.flatten := by
  have hpush : pushAll .little {} sampleChunks =
      .ok ([.Unknown ⟨9, 10⟩, .Unknown ⟨7, 8⟩], {}) := by decide +kernel
  have h := (chunking_independent .little sampleChunks.flatten sampleChunks
    [sampleChunks.flatten] rfl (by simp) (by decide) (by decide)).1 _ _ hpush
  exact ⟨hpush, h.1, h.2.2.1 rfl⟩

end Pronk.Capture
