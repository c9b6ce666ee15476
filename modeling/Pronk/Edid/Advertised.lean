import Pronk.Edid.RoundTrip

/-!
# The modes that a generated EDID shows

The base block has four descriptors, three established-timing bits and eight standard
timings, and the CTA extension lists the modes that have a video identification code. All
of them show requested modes only. Four supported modes need a descriptor, and two of these
have no code, so that one of them can be left out.
-/
namespace Pronk.Edid
open Bytes Framing Reader List

/-! ## Finite checks over the supported modes -/

variable {mode : EdidMode}

lemma modeOfTiming_eq {timing : DetailedTiming} (h : timingFor mode = some timing) :
    modeOfTiming timing = mode := by
  have hall : ∀ p ∈ timings, modeOfTiming p.2 = p.1 := by decide +kernel
  exact hall (mode, timing) (mem_of_lookup h)

lemma readTypeI_typeITiming {timing : DetailedTiming} (h : timingFor mode = some timing) :
    readTypeI (typeITiming mode timing) = timing := by
  have hall : ∀ p ∈ timings, readTypeI (typeITiming p.1 p.2) = p.2 := by decide +kernel
  exact hall (mode, timing) (mem_of_lookup h)

lemma modeOfBit_eq {bit : ℕ × ℕ} (h : establishedTimingBit mode = some bit) :
    modeOfBit bit = some mode := by
  have hall : ∀ p ∈ establishedBits, modeOfBit p.2 = some p.1 := by decide
  exact hall _ (mem_of_lookup h)

lemma modeOfCode_eq {code : UInt8} (h : videoIdentificationCode mode = some code) :
    modeOfCode code = some mode := by
  have hall : ∀ p ∈ videoCodes, modeOfCode p.2 = some p.1 := by decide
  exact hall _ (mem_of_lookup h)

lemma modeOfStandard_eq {code : List UInt8} (hmode : (timingFor mode).isSome)
    (h : standardTiming mode = some code) : modeOfStandard code = mode ∧ code ≠ [0x01, 0x01] := by
  have hall : ∀ p ∈ timings, ∀ code ∈ standardTiming p.1,
      modeOfStandard code = p.1 ∧ code ≠ [0x01, 0x01] := by decide +kernel
  obtain ⟨timing, htiming⟩ := Option.isSome_iff_exists.1 hmode
  exact hall _ (mem_of_lookup htiming) code h

/-- The modes that compete for the standard timings are as many as these. -/
def standardModes : List EdidMode :=
  (timings.map Prod.fst).filter fun mode =>
    (establishedTimingBit mode).isNone && (standardTiming mode).isSome

lemma length_standardModes : standardModes.length = 8 := by decide +kernel

variable {modes : List EdidMode}

lemma length_standardTimings (h : SoundModes modes) (detailed : List EdidMode) :
    (standardTimings modes detailed).length ≤ 8 := by
  have hcount : (standardTimings modes detailed).length =
      (((modes.filter (· ∉ detailed)).filter fun mode => (establishedTimingBit mode).isNone).filter
        fun mode => (standardTiming mode).isSome).length := by
    rw [standardTimings, length_filterMap_eq_countP, countP_eq_length_filter]
  have hnodup : (((modes.filter (· ∉ detailed)).filter fun mode =>
      (establishedTimingBit mode).isNone).filter fun mode => (standardTiming mode).isSome).Nodup :=
    ((h.nodup.filter _).filter _).filter _
  have hsubset : ((modes.filter (· ∉ detailed)).filter fun mode =>
      (establishedTimingBit mode).isNone).filter (fun mode => (standardTiming mode).isSome) ⊆
        standardModes := by
    intro mode hmode
    simp only [mem_filter] at hmode
    obtain ⟨timing, htiming⟩ := Option.isSome_iff_exists.1 (h.supported mode hmode.1.1.1)
    refine mem_filter.2 ⟨mem_map.2 ⟨(mode, timing), mem_of_lookup htiming, rfl⟩, ?_⟩
    simp [hmode.1.2, hmode.2]
  rw [hcount, ← length_standardModes]
  exact (hnodup.subperm hsubset).length_le

/-! ## Reading each kind of entry -/

lemma readDetailed_descriptorAt {detailed : List EdidMode}
    (h : ∀ mode ∈ detailed, (timingFor mode).isSome) (index : ℕ) :
    readDetailed (descriptorAt detailed index) = detailed[index]?.bind timingFor := by
  unfold descriptorAt baseDescriptor
  match hmode : detailed[index]? with
  | none => decide
  | some mode =>
    obtain ⟨timing, htiming⟩ := Option.isSome_iff_exists.1 (h mode (mem_of_getElem? hmode))
    simp [htiming, readDetailed_detailedTiming htiming]

lemma filterMap_descriptors {detailed : List EdidMode}
    (h : ∀ mode ∈ detailed, (timingFor mode).isSome) (count : ℕ) :
    ((range count).map (descriptorAt detailed)).filterMap readDetailed =
      (detailed.take count).filterMap timingFor := by
  induction count with
  | zero => simp
  | succ count ih =>
    rw [range_succ, map_append, filterMap_append, ih, take_add_one,
      filterMap_append]
    congr 1
    rw [map_singleton, filterMap_cons, filterMap_nil,
      readDetailed_descriptorAt h count]
    cases detailed[count]? with
    | none => rfl
    | some mode => cases hmode : timingFor mode <;> simp [hmode]

section Reading

variable {identity : EdidNumericIdentity} {name : Option (List Char)}
  {request : CastDisplayEdidRequest} {c : Contents request.modes}
  (hmodes : SoundModes request.modes)
  (hname : (utf8 (name.getD [])).length ≤ EDID_PRODUCT_NAME_MAX_BYTES)

include hmodes

lemma slice_modes : slice (generatedBytes identity name request c) 35 3 = c.established ∧
    slice (generatedBytes identity name request c) 38 16 = c.slots.flatten ∧
    slice (generatedBytes identity name request c) 54 72 = c.descriptors.flatten := by
  obtain ⟨hestablished, hslots, hdescriptors, -⟩ := slice_baseFields_modes identity
    (.ofNat ((sections identity (name.getD []) c.first request.audio c.timing).length + 1))
    c.established_length (length_slots request.modes c.detailed)
    (length_descriptors (c.supported hmodes))
  exact ⟨(slice_generatedBytes hmodes (by decide)).trans hestablished,
    (slice_generatedBytes hmodes (by decide)).trans hslots,
    (slice_generatedBytes hmodes (by decide)).trans hdescriptors⟩

lemma baseTimings_eq : baseTimings (generatedBytes identity name request c) =
    c.detailed.filterMap timingFor := by
  have hchunks : chunks 18 c.descriptors.flatten = c.descriptors := by
    apply chunks_flatten (by decide)
    intro block hblock
    obtain ⟨index, -, rfl⟩ := mem_map.1 hblock
    exact (baseDescriptor_eq (c.supported hmodes) index).2
  rw [baseTimings, (slice_modes hmodes).2.2, hchunks, Contents.descriptors,
    filterMap_descriptors (c.supported hmodes), take_of_length_le c.selection.length_le]

lemma mem_establishedBits {byte bit : ℕ} :
    (byte, bit) ∈ Reader.establishedBits (generatedBytes identity name request c) ↔
      ∃ mode ∈ request.modes, establishedTimingBit mode = some (byte, bit) := by
  have hread : ∀ byte < 3, byteAt (generatedBytes identity name request c) (35 + byte) =
      (c.established.getD byte 0).toNat := by
    intro byte hbyte
    rw [byteAt, ← getD_slice hbyte, (slice_modes hmodes).1]
  simp only [Reader.establishedBits, mem_flatMap, mem_map, mem_filter,
    mem_range, Prod.mk.injEq]
  constructor
  · rintro ⟨byte', hbyte, bit', ⟨-, hset⟩, rfl, rfl⟩
    rw [hread byte' hbyte] at hset
    exact (c.established_bits byte' bit').1 hset
  · rintro ⟨mode, hmode, hbits⟩
    obtain ⟨hbyte, hbit⟩ := establishedTimingBit_bounds hbits
    refine ⟨byte, hbyte, bit, ⟨hbit, ?_⟩, rfl, rfl⟩
    rw [hread byte hbyte]
    exact (c.established_bits byte bit).2 ⟨mode, hmode, hbits⟩

lemma standardCodes_eq : standardCodes (generatedBytes identity name request c) =
    standardTimings request.modes c.detailed := by
  have hlength := length_standardTimings hmodes c.detailed
  have hchunks : chunks 2 c.slots.flatten = c.slots :=
    chunks_flatten (by decide) fun slot => length_slot
  rw [standardCodes, (slice_modes hmodes).2.1, hchunks, Contents.slots, standardSlots,
    take_of_length_le hlength, filter_append, filter_eq_self.2,
    filter_eq_nil_iff.2, append_nil]
  · intro slot hslot
    rw [eq_of_mem_replicate (mem_of_mem_drop hslot)]
    decide
  · intro code hcode
    obtain ⟨mode, hmode, hstandard⟩ := mem_filterMap.1 hcode
    have hsupported := hmodes.supported mode
      (mem_filter.1 (mem_filter.1 hmode).1).1
    simpa using (modeOfStandard_eq hsupported hstandard).2

include hname

lemma ctaTimings_eq : ctaTimings (generatedBytes identity name request c) = [c.timing] := by
  rw [ctaTimings, (extensions_generatedBytes hmodes hname).1, flatMap_singleton,
    (ctaBlocks_ctaBlock hmodes).1, ctaBlock,
    timings_ctaFields _ _ (length_ctaCollection _ _ hmodes),
    readDetailed_detailedTiming c.timing_eq]
  rfl

lemma shortVideoDescriptors_eq : shortVideoDescriptors (generatedBytes identity name request c) =
    request.modes.filterMap videoIdentificationCode := by
  have hpayloads : ctaPayloads 2 (sealedBlock (ctaBlock request c)) =
      recordsWith 2 (ctaRecords request.modes request.audio request.cecPhysicalAddress) := by
    rw [ctaPayloads, (ctaBlocks_ctaBlock hmodes).2]
    rfl
  rw [shortVideoDescriptors, (extensions_generatedBytes hmodes hname).1, flatMap_singleton,
    hpayloads, (recordsWith_ctaRecords _ _ hmodes).2.1]
  simp

lemma displayidTimings_eq : displayidTimings (generatedBytes identity name request c) =
    [c.timing] := by
  have hchunk : (chunks 20 (typeITiming c.first c.timing)).map readTypeI = [c.timing] := by
    have happend := chunks_append [] (by decide) (length_typeITiming c.first c.timing)
    rw [append_nil, chunks_nil] at happend
    rw [happend, map_singleton, readTypeI_typeITiming c.timing_eq]
  have hpayloads : ∀ s ∈ sections identity (name.getD []) c.first request.audio c.timing,
      displayidPayloads DISPLAYID_TYPE_I_TIMING_TAG (sealedBlock s.fields) =
        (s.records.filter fun r => r.1.head? = some DISPLAYID_TYPE_I_TIMING_TAG).map Prod.snd := by
    intro s hs
    have hvalid := sections_valid identity c.first request.audio c.timing hname s hs
    rw [displayidPayloads, displayidBlocks_section hvalid]
    rfl
  rw [displayidTimings, (extensions_generatedBytes hmodes hname).2, flatMap_map]
  rw [sections] at hpayloads ⊢
  split_ifs at hpayloads ⊢
  · rw [flatMap_singleton, hpayloads _ (mem_singleton_self _)]
    exact (flatMap_singleton ..).trans hchunk
  · rw [flatMap_cons, flatMap_singleton, hpayloads _ (mem_cons_self ..),
      hpayloads _ (mem_cons_of_mem _ (mem_singleton_self _))]
    exact (flatMap_singleton ..).trans hchunk

/-- An entry shows a requested mode that has a descriptor or a code of some kind. -/
lemma mem_advertised {shown : Option EdidMode} :
    shown ∈ advertised (generatedBytes identity name request c) ↔
      ∃ mode ∈ request.modes, shown = some mode ∧
        (mode ∈ c.detailed ∨ (establishedTimingBit mode).isSome ∨ (standardTiming mode).isSome ∨
          (videoIdentificationCode mode).isSome) := by
  have hdetailed {mode : EdidMode} (h : mode ∈ c.detailed) : mode ∈ request.modes :=
    c.modes_eq ▸ c.selection.subset h
  have hfirst : c.first ∈ c.detailed := c.selection.starts.subset (mem_cons_self ..)
  rw [advertised, baseTimings_eq hmodes, ctaTimings_eq hmodes hname, standardCodes_eq hmodes,
    shortVideoDescriptors_eq hmodes hname]
  simp only [mem_append, mem_map, mem_filterMap, mem_singleton,
    Function.comp_apply]
  constructor
  · rintro (((⟨timing, ⟨mode, hmode, htiming⟩ | rfl, rfl⟩ | ⟨⟨byte, bit⟩, hbit, rfl⟩) |
      ⟨code, hcode, rfl⟩) | ⟨code, ⟨mode, hmode, hcode⟩, rfl⟩)
    · exact ⟨mode, hdetailed hmode, by rw [modeOfTiming_eq htiming], .inl hmode⟩
    · exact ⟨c.first, hdetailed hfirst, by rw [modeOfTiming_eq c.timing_eq], .inl hfirst⟩
    · obtain ⟨mode, hmode, hbit⟩ := (mem_establishedBits hmodes).1 hbit
      exact ⟨mode, hmode, modeOfBit_eq hbit, .inr (.inl (by simp [hbit]))⟩
    · obtain ⟨mode, hmode, hstandard⟩ := mem_filterMap.1 hcode
      have hmem := (mem_filter.1 (mem_filter.1 hmode).1).1
      refine ⟨mode, hmem, ?_, .inr (.inr (.inl (by simp [hstandard])))⟩
      rw [(modeOfStandard_eq (hmodes.supported mode hmem) hstandard).1]
    · exact ⟨mode, hmode, modeOfCode_eq hcode, .inr (.inr (.inr (by simp [hcode])))⟩
  · rintro ⟨mode, hmode, rfl, hkind⟩
    by_cases hin : mode ∈ c.detailed
    · obtain ⟨timing, htiming⟩ := Option.isSome_iff_exists.1 (hmodes.supported mode hmode)
      exact .inl (.inl (.inl ⟨timing, .inl ⟨mode, hin, htiming⟩, by
        rw [modeOfTiming_eq htiming]⟩))
    · cases hbit : establishedTimingBit mode with
      | some bit =>
        exact .inl (.inl (.inr ⟨bit, (mem_establishedBits hmodes).2 ⟨mode, hmode, hbit⟩,
          modeOfBit_eq hbit⟩))
      | none =>
        cases hstandard : standardTiming mode with
        | some code =>
          refine .inl (.inr ⟨code, mem_filterMap.2 ⟨mode, ?_, hstandard⟩, ?_⟩)
          · simp [hmode, hin, hbit]
          · rw [(modeOfStandard_eq (hmodes.supported mode hmode) hstandard).1]
        | none =>
          obtain h | h | h | h := hkind
          · exact absurd h hin
          · simp [hbit] at h
          · simp [hstandard] at h
          · obtain ⟨code, hcode⟩ := Option.isSome_iff_exists.1 h
            exact .inr ⟨code, ⟨mode, hmode, hcode⟩, modeOfCode_eq hcode⟩

end Reading

/-! ## Coverage -/

/-- After the first mode, at most three modes need a descriptor, or those beyond the third
have a video identification code. -/
def Roomy (modes : List EdidMode) : Prop :=
  ∀ mode ∈ (modes.tail.filter needsDetailedTiming).drop 3, (videoIdentificationCode mode).isSome

lemma needsDetailedTiming_iff : needsDetailedTiming mode = true ↔
    ¬ (establishedTimingBit mode).isSome ∧ ¬ (standardTiming mode).isSome := by
  simp [needsDetailedTiming]

/-- A mode beyond the third that needs a descriptor gets none. -/
lemma not_mem_detailed (c : Contents modes) (h : modes.Nodup)
    (hmode : mode ∈ (c.rest.filter needsDetailedTiming).drop 3) :
    mode ∉ c.detailed := by
  rw [c.modes_eq, nodup_cons] at h
  have hlong : 3 ≤ (c.rest.filter needsDetailedTiming).length := by
    have := length_pos_of_mem hmode
    rw [length_drop] at this
    omega
  -- The first mode and the first three of the others fill all four descriptors.
  have hfull : c.first :: (c.rest.filter needsDetailedTiming).take 3 = c.detailed := by
    apply c.selection.starts.eq_of_length_le
    rw [length_cons, length_take, Nat.min_eq_left hlong]
    exact c.selection.length_le
  rw [← hfull, mem_cons, not_or]
  constructor
  · rintro rfl
    exact h.1 (mem_filter.1 (mem_of_mem_drop hmode)).1
  · intro htake
    exact disjoint_take_drop (h.2.filter _) (Nat.le_refl 3) htake hmode

lemma covered_iff (c : Contents modes) (h : modes.Nodup) :
    (∀ mode ∈ modes, mode ∈ c.detailed ∨ (establishedTimingBit mode).isSome ∨
      (standardTiming mode).isSome ∨ (videoIdentificationCode mode).isSome) ↔ Roomy modes := by
  have htail : modes.tail = c.rest := congrArg tail c.modes_eq
  constructor
  · intro hall mode hmode
    rw [htail] at hmode
    obtain ⟨hrest, hneeds⟩ := mem_filter.1 (mem_of_mem_drop hmode)
    obtain ⟨hbit, hstandard⟩ := needsDetailedTiming_iff.1 hneeds
    obtain hin | hin | hin | hin := hall mode (c.modes_eq ▸ mem_cons_of_mem _ hrest)
    · exact absurd hin (not_mem_detailed c h hmode)
    · exact absurd hin hbit
    · exact absurd hin hstandard
    · exact hin
  · intro hroomy mode hmode
    by_cases hneeds : needsDetailedTiming mode
    · rw [c.modes_eq, mem_cons] at hmode
      obtain rfl | hrest := hmode
      · exact .inl (c.selection.starts.subset (mem_cons_self ..))
      · have hfiltered : mode ∈ c.rest.filter needsDetailedTiming :=
          mem_filter.2 ⟨hrest, hneeds⟩
        rw [← take_append_drop 3 (c.rest.filter _), mem_append] at hfiltered
        obtain htake | hdrop := hfiltered
        · exact .inl (c.selection.starts.subset (mem_cons_of_mem _ htake))
        · exact .inr (.inr (.inr (hroomy mode (htail ▸ hdrop))))
    · by_cases hbit : (establishedTimingBit mode).isSome
      · exact .inr (.inl hbit)
      · by_cases hstandard : (standardTiming mode).isSome
        · exact .inr (.inr (.inl hstandard))
        · exact absurd (needsDetailedTiming_iff.2 ⟨hbit, hstandard⟩) hneeds

/-- The bytes of an accepted request show all of its modes exactly if there is room for those
that need a descriptor. The preferred mode is the first one everywhere, and no other modes
are shown. -/
theorem modes_advertised_iff_roomy (env : Primitives) (request : CastDisplayEdidRequest)
    (generated : GeneratedCastDisplayEdid)
    (h : buildCastDisplayEdid env request = some (.ok generated)) :
    ((∀ mode ∈ request.modes, some mode ∈ advertised generated.edid.bytes) ↔
        Roomy request.modes) ∧
      (∃ first timing, request.modes.head? = some first ∧ timingFor first = some timing ∧
        (baseTimings generated.edid.bytes).head? = some timing ∧
        ctaTimings generated.edid.bytes = [timing] ∧
        displayidTimings generated.edid.bytes = [timing]) ∧
      ∀ shown ∈ advertised generated.edid.bytes ++
          (displayidTimings generated.edid.bytes).map (some ∘ modeOfTiming),
        ∃ mode ∈ request.modes, shown = some mode := by
  obtain ⟨names, hvalidate⟩ := valid_of_build h
  obtain ⟨hmodes, hdisplay⟩ := validateRequest_eq_ok hvalidate
  obtain ⟨htrimmed, hname, -⟩ := validateProductName_eq_ok hdisplay
  rw [← htrimmed] at hname
  obtain ⟨c⟩ := hmodes.exists_contents
  obtain ⟨generated', hbuild, -, hbytes⟩ := build_of_valid env hvalidate c
  obtain rfl : generated = generated' := by
    rw [h] at hbuild
    exact Except.ok.inj (Option.some.inj hbuild)
  have hfirst : request.modes.head? = some c.first := congrArg head? c.modes_eq
  rw [hbytes, displayidTimings_eq hmodes hname]
  refine ⟨?_, ⟨c.first, c.timing, hfirst, c.timing_eq, ?_, ctaTimings_eq hmodes hname, rfl⟩, ?_⟩
  · rw [← covered_iff c hmodes.nodup]
    constructor
    · intro hall mode hmode
      obtain ⟨mode', -, heq, hkind⟩ := (mem_advertised hmodes hname).1 (hall mode hmode)
      obtain rfl := Option.some.inj heq
      exact hkind
    · intro hall mode hmode
      exact (mem_advertised hmodes hname).2 ⟨mode, hmode, rfl, hall mode hmode⟩
  · obtain ⟨more, hmore⟩ := c.selection.starts
    rw [baseTimings_eq hmodes, ← hmore, cons_append, filterMap_cons, c.timing_eq]
    rfl
  · intro shown hshown
    obtain hshown | hshown := mem_append.1 hshown
    · obtain ⟨mode, hmode, heq, -⟩ := (mem_advertised hmodes hname).1 hshown
      exact ⟨mode, hmode, heq⟩
    · refine ⟨c.first, mem_of_mem_head? hfirst, ?_⟩
      rw [map_singleton, mem_singleton] at hshown
      rw [hshown, Function.comp_apply, modeOfTiming_eq c.timing_eq]

/-- A request for these modes, with audio and a CEC address. -/
def requestWith (modes : List EdidMode) : CastDisplayEdidRequest :=
  ⟨⟨0x47, 0x47, 0x4c, by decide +kernel⟩, none, none, some "Living Room", "chromiacast",
    "device-1", modes, true, some 0x1000⟩

/-- The required mode first, and then all four modes that need a descriptor. -/
def crowdedModes : List EdidMode :=
  [⟨640, 480, 60000⟩, ⟨3840, 2160, 30000⟩, ⟨3840, 2160, 60000⟩, ⟨1366, 768, 60000⟩,
   ⟨2560, 1440, 60000⟩]

/-- The last of these modes is requested and accepted, and shown nowhere. -/
theorem crowded_mode_dropped :
    ∃ generated, buildCastDisplayEdid plainPrimitives (requestWith crowdedModes) =
        some (.ok generated) ∧
      ⟨2560, 1440, 60000⟩ ∈ crowdedModes ∧
      some ⟨2560, 1440, 60000⟩ ∉ advertised generated.edid.bytes := by
  have hvalid : validateRequest (requestWith crowdedModes) =
      .ok ⟨none, none, some "Living Room".toList⟩ := by decide +kernel
  obtain ⟨hmodes, hdisplay⟩ := validateRequest_eq_ok hvalid
  obtain ⟨htrimmed, hname, -⟩ := validateProductName_eq_ok hdisplay
  rw [← htrimmed] at hname
  obtain ⟨c⟩ := hmodes.exists_contents
  obtain ⟨generated, hbuild, -, hbytes⟩ := build_of_valid plainPrimitives hvalid c
  refine ⟨generated, hbuild, by decide, fun hshown => ?_⟩
  rw [hbytes] at hshown
  obtain ⟨mode, -, heq, hkind⟩ := (mem_advertised hmodes hname).1 hshown
  obtain rfl := Option.some.inj heq
  have hrest : c.rest = crowdedModes.tail := (congrArg tail c.modes_eq).symm
  have hlast : ⟨2560, 1440, 60000⟩ ∈ (c.rest.filter needsDetailedTiming).drop 3 := by
    rw [hrest]
    decide +kernel
  have hnone : ¬ ((establishedTimingBit ⟨2560, 1440, 60000⟩).isSome ∨
      (standardTiming ⟨2560, 1440, 60000⟩).isSome ∨
      (videoIdentificationCode ⟨2560, 1440, 60000⟩).isSome) := by decide +kernel
  exact hkind.elim (not_mem_detailed c hmodes.nodup hlast) hnone

/-- The four modes that need a descriptor, the two that have a code last. -/
def roomyModes : List EdidMode :=
  [⟨640, 480, 60000⟩, ⟨1366, 768, 60000⟩, ⟨2560, 1440, 60000⟩, ⟨3840, 2160, 30000⟩,
   ⟨3840, 2160, 60000⟩]

theorem modes_advertised_iff_roomy_ordered :
    ∃ generated, buildCastDisplayEdid plainPrimitives (requestWith roomyModes) =
        some (.ok generated) ∧
      ∀ mode ∈ roomyModes, some mode ∈ advertised generated.edid.bytes := by
  have hvalid : validateRequest (requestWith roomyModes) =
      .ok ⟨none, none, some "Living Room".toList⟩ := by decide +kernel
  obtain ⟨c⟩ := (validateRequest_eq_ok hvalid).1.exists_contents
  obtain ⟨generated, hbuild, -, -⟩ := build_of_valid plainPrimitives hvalid c
  have hroomy : Roomy (requestWith roomyModes).modes := by
    unfold Roomy
    decide +kernel
  exact ⟨generated, hbuild, (modes_advertised_iff_roomy _ _ generated hbuild).1.2 hroomy⟩

end Pronk.Edid
