import Pronk.BackendHost.Offer
import Pronk.Chromiacast.MediaSession

/-!
# Negotiation of a session

The backend narrows the offer of the host to what the sender and the receiver can do. When
the media are configured later, the request is held against the answer.
-/
namespace Pronk.Chromiacast
open BackendProtocol BackendHost Fallible List

def OPUS_SAMPLE_RATE : UInt32 := 48000
def OPUS_CHANNELS : UInt32 := 2
def OPUS_BITRATE : UInt32 := 128000
def VIDEO_FRAME_RATE : UInt32 := 30

/-- In milliseconds. -/
def OPUS_FRAME_DURATION : ℕ := 20
def INITIAL_PLAYOUT_DELAY : ℕ := 66

inductive DeviceActorError where
  | NoSupportedMode
  | NoSupportedVideoProfile
  | NoSupportedAudioProfile
  | InvalidRequest (error : ValidationError)
  deriving DecidableEq

def narrowOpusProfile (profile : AudioProfile) : Option AudioProfile :=
  if profile.codec ≠ "opus" ∨ profile.maxChannels < 2 ∨ OPUS_SAMPLE_RATE ∉ profile.sampleRates then
    none
  else
    some
      { profileId := "opus-stereo"
        codec := "opus"
        maxChannels := 2
        sampleRates := [OPUS_SAMPLE_RATE] }

def narrowH264Profile (profile : VideoProfile) : Option VideoProfile :=
  if profile.codec ≠ "h264" then none
  else
    some { profile with
      maxWidth := min profile.maxWidth 3840
      maxHeight := min profile.maxHeight 2160
      maxRefreshMillihz := min profile.maxRefreshMillihz 60000 }

def senderModes : List (UInt32 × UInt32 × UInt32) :=
  [(3840, 2160, 30000), (2560, 1440, 60000), (1920, 1080, 60000), (1600, 900, 60000),
   (1366, 768, 60000), (1280, 720, 60000), (640, 480, 60000)]

def supportedSenderMode (mode : DisplayMode) : Bool :=
  mode.flags = 0 ∧ (mode.width, mode.height, mode.refreshMillihz) ∈ senderModes

def requests (request : PreparationRequest) (feature : UInt64) : Bool :=
  request.requestedFeatures &&& feature ≠ 0

def narrowedAudioProfiles (request : PreparationRequest) : List AudioProfile :=
  if requests request SESSION_FEATURE_AUDIO then
    (request.audioProfiles.filterMap narrowOpusProfile).take 1
  else []

def grantedFeatures (request : PreparationRequest) : UInt64 :=
  (if requests request SESSION_FEATURE_AUDIO then SESSION_FEATURE_AUDIO else 0) |||
    (if requests request SESSION_FEATURE_CONTROL then SESSION_FEATURE_CONTROL else 0)

/-- Narrow the offer to what the sender supports. -/
def negotiateCapabilities (request : PreparationRequest) (displayIdentity : DisplayIdentity) :
    Except DeviceActorError DeviceCapabilities :=
  let modes := request.candidateModes.filter supportedSenderMode
  let videoProfiles := (request.videoProfiles.filterMap narrowH264Profile).take 1
  let audioProfiles := narrowedAudioProfiles request
  if modes = [] then .error .NoSupportedMode
  else if videoProfiles = [] then .error .NoSupportedVideoProfile
  else if requests request SESSION_FEATURE_AUDIO ∧ audioProfiles = [] then
    .error .NoSupportedAudioProfile
  else
    let capabilities : DeviceCapabilities :=
      { preparationGeneration := request.preparationGeneration
        displayIdentity
        modes
        videoProfiles
        audioProfiles
        features := grantedFeatures request }
    match capabilities.validate with
    | .error e => .error (.InvalidRequest e)
    | .ok () => .ok capabilities

structure ValidatedVideoCaps where
  (width height framerateNumerator framerateDenominator : UInt32)

structure ValidatedAudioCaps where
  (sampleRate channels : UInt32)

/-- The parsers of the media library. -/
structure CapsParser where
  video : String → Except String ValidatedVideoCaps
  audio : String → Except String ValidatedAudioCaps

structure AudioTransportConfiguration where
  (sampleRate channels bitrate : UInt32)

structure VideoTransportConfiguration where
  (width height framerateNumerator framerateDenominator bitrate : UInt32)
  targetPlayoutDelay : ℕ
  audio : Option AudioTransportConfiguration

/-- The source of a stream; its remote is a file descriptor. -/
structure PipeWireInput where
  remote : ℕ
  nodeName : String
  objectSerial : UInt64
  caps : String

structure PendingMediaGraphConfiguration where
  mediaGeneration : NonZeroU64
  video : PipeWireInput
  audio : Option PipeWireInput
  videoBitrate : UInt64

def minimumPlayoutDelay (framerateNumerator framerateDenominator : ℕ) (audioEnabled : Bool) : ℕ :=
  max (max ((framerateDenominator * 1000 + framerateNumerator - 1) / framerateNumerator) 1)
    (if audioEnabled then OPUS_FRAME_DURATION else 0)

/-- The profile of the audio, if it is configured. -/
def configuredAudioProfile (capabilities : DeviceCapabilities)
    (configuration : MediaConfiguration) : Except MediaSessionError (Option AudioProfile) :=
  match configuration.audioProfileId with
  | none => .ok none
  | some profileId =>
    if capabilities.features &&& SESSION_FEATURE_AUDIO = 0 then
      .error (.InvalidRequest "audio was configured without a negotiated audio capability")
    else
      match capabilities.audioProfiles.find? (·.profileId = profileId) with
      | none =>
        .error (.InvalidRequest "configured audio profile was not negotiated by Prepare")
      | some profile =>
        if profile.codec ≠ "opus" ∨ profile.maxChannels < OPUS_CHANNELS.toUInt8 ∨
            OPUS_SAMPLE_RATE ∉ profile.sampleRates then
          .error (.InvalidRequest "negotiated audio profile cannot carry 48 kHz stereo Opus")
        else .ok (some profile)

def configuredVideoProfile (capabilities : DeviceCapabilities)
    (configuration : MediaConfiguration) : Except MediaSessionError VideoProfile :=
  if configuration.mode ∉ capabilities.modes then
    .error (.InvalidRequest "configured mode was not negotiated by Prepare")
  else
    match capabilities.videoProfiles.find? (·.profileId = configuration.videoProfileId) with
    | none => .error (.InvalidRequest "configured video profile was not negotiated by Prepare")
    | some profile =>
      if profile.maxWidth < configuration.mode.width ∨
          profile.maxHeight < configuration.mode.height ∨
          profile.maxRefreshMillihz < configuration.mode.refreshMillihz then
        .error (.InvalidRequest "configured mode exceeds the negotiated video profile")
      else .ok profile

/-- The checks of the mode and of the profiles, which come before those of the targets. -/
def configuredProfiles (capabilities : DeviceCapabilities) (configuration : MediaConfiguration) :
    Except MediaSessionError (Option AudioProfile × VideoProfile) := do
  let audio ← configuredAudioProfile capabilities configuration
  let video ← configuredVideoProfile capabilities configuration
  pure (audio, video)

/-- The products fit into 64 bits, so that neither multiplication overflows. -/
def videoCaps (parser : CapsParser) (sessionId : String) (configuration : MediaConfiguration)
    (target : PipeWireTarget) : Except MediaSessionError ValidatedVideoCaps :=
  if target.kind ≠ .Video then
    .error (.InvalidRequest "the first PipeWire target is not video")
  else if target.sessionId ≠ sessionId then
    .error (.InvalidRequest "PipeWire target belongs to another session")
  else
    match parser.video target.caps with
    | .error text => .error (.Graph text)
    | .ok caps =>
      if caps.width ≠ configuration.mode.width ∨ caps.height ≠ configuration.mode.height then
        .error (.InvalidRequest ("video caps are " ++ toString caps.width ++ "x" ++
          toString caps.height ++ " but configured mode is " ++
          toString configuration.mode.width ++ "x" ++ toString configuration.mode.height))
      else if caps.framerateNumerator.toNat * 1000 ≠
          configuration.mode.refreshMillihz.toNat * caps.framerateDenominator.toNat then
        .error (.InvalidRequest "video caps refresh differs from the configured mode")
      else .ok caps

def audioCaps (parser : CapsParser) (video target : PipeWireTarget) :
    Except MediaSessionError ValidatedAudioCaps :=
  if target.kind ≠ .Audio then
    .error (.InvalidRequest "the second PipeWire target is not audio")
  else if target.sessionId ≠ video.sessionId ∨ target.deviceInstance ≠ video.deviceInstance ∨
      target.connectorId ≠ video.connectorId ∨ target.outputIndex ≠ video.outputIndex ∨
      target.mediaGeneration ≠ video.mediaGeneration then
    .error (.InvalidRequest "audio target is not paired with the configured video output")
  else (parser.audio target.caps).mapError .Graph

/-- The wire checks that come before have counted remotes and targets; without one of them
there is nothing to configure. -/
def nextStream (wanted : String) :
    List ℕ × List PipeWireTarget → Except MediaSessionError (ℕ × PipeWireTarget)
  | (remote :: _, target :: _) => .ok (remote, target)
  | _ => .error (.InvalidRequest ("wire validation requires " ++ wanted))

def configuredAudio (parser : CapsParser) (video : PipeWireTarget)
    (streams : List ℕ × List PipeWireTarget) : Option AudioProfile →
      Except MediaSessionError (Option (PipeWireInput × AudioTransportConfiguration))
  | none => .ok none
  | some _ => do
    let (remote, target) ← nextStream "audio" streams
    let caps ← audioCaps parser video target
    pure (some (⟨remote, target.nodeName, target.objectSerial, target.caps⟩,
      ⟨caps.sampleRate, caps.channels, OPUS_BITRATE⟩))

def videoBitrate (configuration : MediaConfiguration) : Except MediaSessionError UInt32 :=
  if configuration.videoBitrate.toNat < 2 ^ 32 then .ok configuration.videoBitrate.toUInt32
  else .error (.InvalidRequest "video bitrate exceeds Cast's u32 range")

/-- What the media graph is configured with. -/
def graphConfiguration (parser : CapsParser) (sessionId : String)
    (capabilities : DeviceCapabilities) (remotes : List ℕ) (targets : List PipeWireTarget)
    (configuration : MediaConfiguration) (generation : NonZeroU64) :
    Except MediaSessionError (PendingMediaGraphConfiguration × VideoTransportConfiguration) := do
  let (audioProfile, _) ← configuredProfiles capabilities configuration
  let (remote, target) ← nextStream "video" (remotes, targets)
  let caps ← videoCaps parser sessionId configuration target
  let audio ← configuredAudio parser target (remotes.tail, targets.tail) audioProfile
  let bitrate ← videoBitrate configuration
  pure
    ({ mediaGeneration := generation
       video := ⟨remote, target.nodeName, target.objectSerial, target.caps⟩
       audio := audio.map (·.1)
       videoBitrate := configuration.videoBitrate },
     { width := caps.width
       height := caps.height
       framerateNumerator := VIDEO_FRAME_RATE
       framerateDenominator := 1
       bitrate
       targetPlayoutDelay := max INITIAL_PLAYOUT_DELAY
         (minimumPlayoutDelay VIDEO_FRAME_RATE.toNat 1 audio.isSome)
       audio := audio.map (·.2) })

/-- An offer whose answer the host takes and that can be configured as it stands: audio is
offered under the name that the backend gives it, and the first H.264 profile covers every
mode that the sender supports. -/
structure Fits (request : PreparationRequest) : Prop where
  audio : requests request SESSION_FEATURE_AUDIO →
    ∃ offered ∈ request.audioProfiles, offered.profileId = "opus-stereo" ∧
      offered.codec = "opus" ∧ 2 ≤ offered.maxChannels ∧ OPUS_SAMPLE_RATE ∈ offered.sampleRates
  video : ∀ profile ∈ request.videoProfiles.find? (·.codec = "h264"),
    ∀ mode ∈ request.candidateModes, supportedSenderMode mode →
      mode.width ≤ profile.maxWidth ∧ mode.height ≤ profile.maxHeight ∧
        mode.refreshMillihz ≤ profile.maxRefreshMillihz

/-- A configuration made of what the capabilities advertise. -/
structure Advertised (capabilities : DeviceCapabilities) (configuration : MediaConfiguration) :
    Prop where
  mode : configuration.mode ∈ capabilities.modes
  video : ∃ profile ∈ capabilities.videoProfiles,
    profile.profileId = configuration.videoProfileId
  audio : ∀ profileId ∈ configuration.audioProfileId,
    ∃ profile ∈ capabilities.audioProfiles, profile.profileId = profileId

/-- Targets that belong to the session and carry what is configured. -/
structure Matching (parser : CapsParser) (sessionId : String)
    (configuration : MediaConfiguration) (video : PipeWireTarget)
    (audio : Option PipeWireTarget) : Prop where
  layout : audio.isSome = configuration.audioProfileId.isSome
  kind : video.kind = .Video
  session : video.sessionId = sessionId
  caps : ∃ caps, parser.video video.caps = .ok caps ∧ caps.width = configuration.mode.width ∧
    caps.height = configuration.mode.height ∧ caps.framerateNumerator.toNat * 1000 =
      configuration.mode.refreshMillihz.toNat * caps.framerateDenominator.toNat
  paired : ∀ target ∈ audio, target.kind = .Audio ∧ target.sessionId = video.sessionId ∧
    target.deviceInstance = video.deviceInstance ∧ target.connectorId = video.connectorId ∧
    target.outputIndex = video.outputIndex ∧ target.mediaGeneration = video.mediaGeneration ∧
    ∃ caps, parser.audio target.caps = .ok caps
  bitrate : configuration.videoBitrate.toNat < 2 ^ 32

def opusStereo : AudioProfile := ⟨"opus-stereo", "opus", 2, [OPUS_SAMPLE_RATE]⟩

/-- What an answer is made of. -/
structure Negotiates (request : PreparationRequest) (capabilities : DeviceCapabilities) :
    Prop where
  modes : capabilities.modes = request.candidateModes.filter supportedSenderMode
  video : ∃ profile, request.videoProfiles.find? (·.codec = "h264") = some profile ∧
    capabilities.videoProfiles = [{ profile with
      maxWidth := min profile.maxWidth 3840
      maxHeight := min profile.maxHeight 2160
      maxRefreshMillihz := min profile.maxRefreshMillihz 60000 }]
  audio : capabilities.audioProfiles =
    if requests request SESSION_FEATURE_AUDIO then [opusStereo] else []
  features : capabilities.features = grantedFeatures request

lemma take_one_narrowH264 (profiles : List VideoProfile) :
    (profiles.filterMap narrowH264Profile).take 1 =
      ((profiles.find? (·.codec = "h264")).bind narrowH264Profile).toList := by
  induction profiles with
  | nil => rfl
  | cons profile rest ih =>
    by_cases hcodec : profile.codec = "h264"
    · simp [narrowH264Profile, hcodec]
    · simp only [narrowH264Profile, hcodec, filterMap_cons, find?_cons, ne_eq,
        not_false_eq_true, if_true, decide_false]
      exact ih

lemma narrowOpusProfile_eq_some {profile narrowed : AudioProfile}
    (h : narrowOpusProfile profile = some narrowed) : narrowed = opusStereo := by
  unfold narrowOpusProfile at h
  split_ifs at h
  exact (Option.some.inj h).symm

lemma take_one_narrowOpus {profiles : List AudioProfile}
    (h : (profiles.filterMap narrowOpusProfile).take 1 ≠ []) :
    (profiles.filterMap narrowOpusProfile).take 1 = [opusStereo] := by
  cases hnarrowed : profiles.filterMap narrowOpusProfile with
  | nil => simp [hnarrowed] at h
  | cons narrowed rest =>
    have hin : narrowed ∈ profiles.filterMap narrowOpusProfile := by simp [hnarrowed]
    obtain ⟨profile, -, hprofile⟩ := mem_filterMap.1 hin
    rw [narrowOpusProfile_eq_some hprofile]
    rfl

lemma first_h264 {profiles : List VideoProfile}
    (h : (profiles.filterMap narrowH264Profile).take 1 ≠ []) :
    ∃ profile, profiles.find? (·.codec = "h264") = some profile ∧
      (profiles.filterMap narrowH264Profile).take 1 = [{ profile with
        maxWidth := min profile.maxWidth 3840
        maxHeight := min profile.maxHeight 2160
        maxRefreshMillihz := min profile.maxRefreshMillihz 60000 }] := by
  rw [take_one_narrowH264] at h ⊢
  cases hfirst : profiles.find? (·.codec = "h264") with
  | none => simp [hfirst] at h
  | some profile =>
    have hcodec : profile.codec = "h264" := by simpa using find?_some hfirst
    exact ⟨profile, rfl, by simp [narrowH264Profile, hcodec]⟩

lemma negotiates_of_ok {request : PreparationRequest} {identity : DisplayIdentity}
    {capabilities : DeviceCapabilities}
    (h : negotiateCapabilities request identity = .ok capabilities) :
    Negotiates request capabilities := by
  simp only [negotiateCapabilities] at h
  split_ifs at h with hmodes hvideo haudio
  split at h
  · cases h
  · cases h
    refine ⟨rfl, first_h264 hvideo, ?_, rfl⟩
    by_cases hrequested : requests request SESSION_FEATURE_AUDIO
    · rw [if_pos hrequested]
      simp only [narrowedAudioProfiles, if_pos hrequested] at haudio ⊢
      exact take_one_narrowOpus fun hnil => haudio ⟨hrequested, hnil⟩
    · simp only [narrowedAudioProfiles, if_neg hrequested]

section Answer

variable {request : PreparationRequest} {capabilities : DeviceCapabilities}

lemma supportedSenderMode_le {mode : DisplayMode} (h : supportedSenderMode mode = true) :
    mode.width ≤ 3840 ∧ mode.height ≤ 2160 ∧ mode.refreshMillihz ≤ 60000 := by
  have hall : senderModes.all (fun size =>
      size.1 ≤ 3840 ∧ size.2.1 ≤ 2160 ∧ size.2.2 ≤ 60000) = true := by
    decide
  simp only [supportedSenderMode, decide_eq_true_eq] at h
  exact of_decide_eq_true (all_eq_true.1 hall _ h.2)

lemma find?_profileId {α : Type} {profiles : List α} {identifier : α → String} {profile : α}
    (hunique : (profiles.map identifier).Nodup) (h : profile ∈ profiles) :
    profiles.find? (identifier · = identifier profile) = some profile := by
  induction profiles with
  | nil => cases h
  | cons first rest ih =>
    obtain ⟨hnew, hrest⟩ := nodup_cons.1 hunique
    rcases mem_cons.1 h with rfl | hin
    · simp
    · have hne : identifier first ≠ identifier profile := fun heq =>
        hnew (mem_map.2 ⟨profile, hin, heq.symm⟩)
      simp only [find?_cons, hne, decide_false]
      exact ih hrest hin

/-- A single bit that is granted only if it was requested. -/
lemma granted_bit {feature : UInt64} {k : ℕ} (hbit : feature.toBitVec = BitVec.twoPow 64 k) :
    (if requests request feature then feature else 0) &&& ~~~request.requestedFeatures = 0 := by
  split_ifs with h
  · simp only [requests, ne_eq, decide_eq_true_eq, ← UInt64.toBitVec_inj, UInt64.toBitVec_and,
      hbit, BitVec.and_twoPow] at h
    rw [← UInt64.toBitVec_inj, UInt64.toBitVec_and, UInt64.toBitVec_not, hbit, BitVec.and_comm,
      BitVec.and_twoPow]
    by_cases hk : request.requestedFeatures.toBitVec.getLsbD k
    · simp [hk]
    · simp [hk] at h
  · simp

lemma grantedFeatures_offered :
    grantedFeatures request &&& ~~~request.requestedFeatures = 0 := by
  have haudio : SESSION_FEATURE_AUDIO.toBitVec = BitVec.twoPow 64 0 := by decide
  have hcontrol : SESSION_FEATURE_CONTROL.toBitVec = BitVec.twoPow 64 1 := by decide
  have hdistrib (a b n : UInt64) : (a ||| b) &&& n = (a &&& n) ||| (b &&& n) := by
    rw [← UInt64.toBitVec_inj]
    ext i
    simp [Bool.and_or_distrib_right]
  rw [grantedFeatures, hdistrib, granted_bit haudio, granted_bit hcontrol]
  rfl

lemma validateVideoProfile_narrowed {profile : VideoProfile}
    (hunique : (request.videoProfiles.map (·.profileId)).Nodup)
    (hin : profile ∈ request.videoProfiles) (width height refreshMillihz : UInt32) :
    validateVideoProfile request { profile with
      maxWidth := min profile.maxWidth width
      maxHeight := min profile.maxHeight height
      maxRefreshMillihz := min profile.maxRefreshMillihz refreshMillihz } = .ok () := by
  have hfind := find?_profileId hunique hin
  simp only [validateVideoProfile, hfind]
  rw [if_neg]
  simp [UInt32.not_lt, Std.min_le_left]

lemma validateAudioProfile_opusStereo :
    validateAudioProfile request opusStereo = .ok () ↔
      ∃ offered, request.audioProfiles.find? (·.profileId = "opus-stereo") = some offered ∧
        offered.codec = "opus" ∧ 2 ≤ offered.maxChannels ∧
        OPUS_SAMPLE_RATE ∈ offered.sampleRates := by
  unfold validateAudioProfile
  cases hfind : request.audioProfiles.find? (·.profileId = opusStereo.profileId) with
  | none =>
    have hnone : request.audioProfiles.find? (·.profileId = "opus-stereo") = none := hfind
    simp [hnone]
  | some offered =>
    have hsome : request.audioProfiles.find? (·.profileId = "opus-stereo") = some offered := hfind
    simp only [hsome, Option.some.injEq, exists_eq_left', opusStereo]
    by_cases hcodec : offered.codec = "opus"
    · simp [hcodec]
    · simp [hcodec, Ne.symm hcodec]

/-- The host takes the answer exactly if audio was offered under the name it is given. -/
theorem answer_accepted (h : Negotiates request capabilities)
    (hvalid : request.validate = .ok ()) :
    validateCapabilitiesAgainstOffer request capabilities = .ok () ↔
      (requests request SESSION_FEATURE_AUDIO → ∃ offered ∈ request.audioProfiles,
        offered.profileId = "opus-stereo" ∧ offered.codec = "opus" ∧ 2 ≤ offered.maxChannels ∧
        OPUS_SAMPLE_RATE ∈ offered.sampleRates) := by
  obtain ⟨hvideoUnique, haudioUnique⟩ := PreparationRequest.validate_unique hvalid
  obtain ⟨profile, hfirst, hvideo⟩ := h.video
  have hmodes : ∀ mode ∈ capabilities.modes, mode ∈ request.candidateModes := by
    rw [h.modes]
    exact fun mode hin => (mem_filter.1 hin).1
  have hprofile : ∀ returned ∈ capabilities.videoProfiles,
      validateVideoProfile request returned = .ok () := by
    rw [hvideo]
    intro returned hin
    cases mem_singleton.1 hin
    exact validateVideoProfile_narrowed hvideoUnique (mem_of_find?_eq_some hfirst) _ _ _
  have hoffered : (∃ offered, request.audioProfiles.find? (·.profileId = "opus-stereo") =
        some offered ∧ offered.codec = "opus" ∧ 2 ≤ offered.maxChannels ∧
        OPUS_SAMPLE_RATE ∈ offered.sampleRates) ↔
      ∃ offered ∈ request.audioProfiles, offered.profileId = "opus-stereo" ∧
        offered.codec = "opus" ∧ 2 ≤ offered.maxChannels ∧
        OPUS_SAMPLE_RATE ∈ offered.sampleRates := by
    constructor
    · rintro ⟨offered, hfind, hlimits⟩
      exact ⟨offered, mem_of_find?_eq_some hfind, by simpa using find?_some hfind,
        hlimits⟩
    · rintro ⟨offered, hin, hid, hlimits⟩
      exact ⟨offered, hid ▸ find?_profileId haudioUnique hin, hlimits⟩
  rw [validateCapabilitiesAgainstOffer_eq_ok, h.features, h.audio]
  simp only [grantedFeatures_offered, true_and]
  constructor
  · rintro ⟨-, -, haudio⟩ hrequested
    rw [if_pos hrequested] at haudio
    exact hoffered.1 (validateAudioProfile_opusStereo.1 (haudio opusStereo (by simp)))
  · intro haudio
    refine ⟨hmodes, hprofile, fun returned hin => ?_⟩
    split_ifs at hin with hrequested
    · cases mem_singleton.1 hin
      exact validateAudioProfile_opusStereo.2 (hoffered.2 (haudio hrequested))
    · cases hin

lemma grantedFeatures_audio (h : requests request SESSION_FEATURE_AUDIO) :
    grantedFeatures request &&& SESSION_FEATURE_AUDIO ≠ 0 := by
  simp only [grantedFeatures, h, if_true]
  split_ifs <;> decide

variable {configuration : MediaConfiguration}

/-- The audio that is advertised can be configured. -/
theorem configuredAudioProfile_ok (h : Negotiates request capabilities)
    (hadvertised : Advertised capabilities configuration) :
    ∃ profile, configuredAudioProfile capabilities configuration = .ok profile ∧
      profile.isSome = configuration.audioProfileId.isSome := by
  unfold configuredAudioProfile
  cases hid : configuration.audioProfileId with
  | none => exact ⟨none, rfl, rfl⟩
  | some profileId =>
    obtain ⟨profile, hin, rfl⟩ := hadvertised.audio profileId hid
    have haudio := h.audio
    split_ifs at haudio with hrequested
    · rw [haudio, mem_singleton] at hin
      subst hin
      have hfeature : capabilities.features &&& SESSION_FEATURE_AUDIO ≠ 0 :=
        h.features ▸ grantedFeatures_audio hrequested
      rw [haudio]
      refine ⟨some opusStereo, ?_, rfl⟩
      simp only [if_neg hfeature]
      decide
    · rw [haudio] at hin
      cases hin

/-- A mode that is advertised can be configured exactly if it is within the profile. -/
theorem configuredVideoProfile_ok {profile : VideoProfile}
    (hmode : configuration.mode ∈ capabilities.modes)
    (hvideo : capabilities.videoProfiles = [profile])
    (hid : profile.profileId = configuration.videoProfileId) :
    (∃ video, configuredVideoProfile capabilities configuration = .ok video) ↔
      configuration.mode.width ≤ profile.maxWidth ∧
      configuration.mode.height ≤ profile.maxHeight ∧
      configuration.mode.refreshMillihz ≤ profile.maxRefreshMillihz := by
  have hfind : capabilities.videoProfiles.find? (·.profileId = configuration.videoProfileId) =
      some profile := by
    simp [hvideo, hid]
  simp only [configuredVideoProfile, hmode, not_true, if_false, hfind]
  by_cases hlimits : profile.maxWidth < configuration.mode.width ∨
      profile.maxHeight < configuration.mode.height ∨
      profile.maxRefreshMillihz < configuration.mode.refreshMillihz
  · rw [if_pos hlimits]
    constructor
    · rintro ⟨video, hok⟩
      cases hok
    · rintro ⟨hwidth, hheight, hrefresh⟩
      rcases hlimits with hlt | hlt | hlt
      · exact absurd hlt (UInt32.not_lt.2 hwidth)
      · exact absurd hlt (UInt32.not_lt.2 hheight)
      · exact absurd hlt (UInt32.not_lt.2 hrefresh)
  · rw [if_neg hlimits]
    simp only [not_or, UInt32.not_lt] at hlimits
    exact ⟨fun _ => hlimits, fun _ => ⟨profile, rfl⟩⟩

/-- Targets that match what is configured pass all other checks. -/
theorem graphConfiguration_ok {parser : CapsParser} {sessionId : String}
    {audioProfile : Option AudioProfile} {videoProfile : VideoProfile} {video : PipeWireTarget}
    {audio : Option PipeWireTarget} {remotes : List ℕ} (hprofiles : configuredProfiles capabilities
      configuration = .ok (audioProfile, videoProfile))
    (hsome : audioProfile.isSome = configuration.audioProfileId.isSome)
    (h : Matching parser sessionId configuration video audio)
    (hremotes : remotes.length = (video :: audio.toList).length) (generation : NonZeroU64) :
    ∃ result, graphConfiguration parser sessionId capabilities remotes (video :: audio.toList)
      configuration generation = .ok result := by
  obtain ⟨caps, hcaps, hwidth, hheight, hrefresh⟩ := h.caps
  have hvideo : videoCaps parser sessionId configuration video = .ok caps := by
    simp [videoCaps, h.kind, h.session, hcaps, hwidth, hheight, hrefresh]
  have hbitrate : videoBitrate configuration = .ok configuration.videoBitrate.toUInt32 :=
    if_pos h.bitrate
  obtain ⟨remote, rest, rfl⟩ : ∃ remote rest, remotes = remote :: rest := by
    cases remotes with
    | nil => cases hremotes
    | cons remote rest => exact ⟨remote, rest, rfl⟩
  have hlayout := h.layout
  have haudio : ∃ result, configuredAudio parser video (rest, audio.toList) audioProfile =
      .ok result := by
    cases audioProfile with
    | none => exact ⟨none, rfl⟩
    | some profile =>
      rw [← hsome] at hlayout
      obtain ⟨target, rfl⟩ := Option.isSome_iff_exists.1 hlayout
      obtain ⟨remote', rest', rfl⟩ : ∃ remote' rest', rest = remote' :: rest' := by
        cases rest with
        | nil => cases hremotes
        | cons remote' rest' => exact ⟨remote', rest', rfl⟩
      obtain ⟨hkind, hsession, hinstance, hconnector, houtput, hmedia, caps', hcaps'⟩ :=
        h.paired target rfl
      have hpaired : audioCaps parser video target = .ok caps' := by
        simp [audioCaps, hkind, hsession, hinstance, hconnector, houtput, hmedia, hcaps',
          Except.mapError]
      simp only [configuredAudio, nextStream, Option.toList_some, ok_bind, hpaired]
      exact ⟨_, rfl⟩
  obtain ⟨audioResult, haudio⟩ := haudio
  simp only [graphConfiguration, hprofiles, nextStream, ok_bind, hvideo, tail_cons,
    haudio, hbitrate]
  exact ⟨_, rfl⟩

end Answer

/-- The answer stays within a valid offer, and all it advertises can be configured, exactly if
the offer fits what the sender is fixed to. -/
theorem negotiated_answer_usable {request : PreparationRequest} {identity : DisplayIdentity}
    {capabilities : DeviceCapabilities} (hvalid : request.validate = .ok ())
    (h : negotiateCapabilities request identity = .ok capabilities) :
    (validateCapabilitiesAgainstOffer request capabilities = .ok () ∧
      ∀ configuration, Advertised capabilities configuration →
        (∃ profiles, configuredProfiles capabilities configuration = .ok profiles) ∧
        ∀ parser sessionId remotes video audio generation,
          Matching parser sessionId configuration video audio →
          remotes.length = (video :: audio.toList).length →
          ∃ result, graphConfiguration parser sessionId capabilities remotes
            (video :: audio.toList) configuration generation = .ok result) ↔
    Fits request := by
  have hnegotiates := negotiates_of_ok h
  obtain ⟨profile, hfirst, hvideo⟩ := hnegotiates.video
  have hmodes (mode : DisplayMode) : mode ∈ capabilities.modes ↔
      mode ∈ request.candidateModes ∧ supportedSenderMode mode = true := by
    rw [hnegotiates.modes, mem_filter]
  rw [answer_accepted hnegotiates hvalid]
  constructor
  · rintro ⟨haudio, hconfigured⟩
    refine ⟨haudio, fun first hsome mode hin hsupported => ?_⟩
    obtain rfl : profile = first := Option.some.inj (hfirst.symm.trans hsome)
    have hmode : mode ∈ capabilities.modes := (hmodes mode).2 ⟨hin, hsupported⟩
    let configuration : MediaConfiguration := ⟨profile.profileId, none, mode, 1⟩
    have hadvertised : Advertised capabilities configuration :=
      ⟨hmode, by rw [hvideo]; exact ⟨_, mem_singleton.2 rfl, rfl⟩, nofun⟩
    obtain ⟨⟨profiles, hprofiles⟩, -⟩ := hconfigured configuration hadvertised
    obtain ⟨_, -, hprofiles⟩ := bind_eq_ok.1 hprofiles
    obtain ⟨video, hok, -⟩ := bind_eq_ok.1 hprofiles
    obtain ⟨hwidth, hheight, hrefresh⟩ :=
      (configuredVideoProfile_ok hmode hvideo rfl).1 ⟨video, hok⟩
    exact ⟨UInt32.le_trans hwidth Std.min_le_left, UInt32.le_trans hheight Std.min_le_left,
      UInt32.le_trans hrefresh Std.min_le_left⟩
  · intro hfits
    refine ⟨hfits.audio, fun configuration hadvertised => ?_⟩
    obtain ⟨hin, hsupported⟩ := (hmodes _).1 hadvertised.mode
    obtain ⟨hwidth, hheight, hrefresh⟩ := hfits.video profile hfirst _ hin hsupported
    obtain ⟨hwidth', hheight', hrefresh'⟩ := supportedSenderMode_le hsupported
    obtain ⟨advertised, hadvertisedIn, hid⟩ := hadvertised.video
    rw [hvideo, mem_singleton] at hadvertisedIn
    subst hadvertisedIn
    obtain ⟨video, hok⟩ := (configuredVideoProfile_ok hadvertised.mode hvideo hid).2
      ⟨Std.le_min_iff.2 ⟨hwidth, hwidth'⟩, Std.le_min_iff.2 ⟨hheight, hheight'⟩,
        Std.le_min_iff.2 ⟨hrefresh, hrefresh'⟩⟩
    obtain ⟨audio, haudio, hsome⟩ := configuredAudioProfile_ok hnegotiates hadvertised
    have hprofiles : configuredProfiles capabilities configuration = .ok (audio, video) := by
      simp only [configuredProfiles, haudio, hok, ok_bind]
      rfl
    exact ⟨⟨_, hprofiles⟩, fun _ _ _ _ _ generation hmatching hremotes =>
      graphConfiguration_ok hprofiles hsome hmatching hremotes generation⟩

/-- The offer of the daemon, with two of its modes. -/
def daemonOffer : PreparationRequest where
  preparationGeneration := 1
  candidateModes := [⟨3840, 2160, 30000, 0⟩, ⟨640, 480, 60000, 0⟩]
  videoProfiles := [⟨"h264-high", "h264", 3840, 2160, 60000⟩]
  audioProfiles := [⟨"opus-stereo", "opus", 2, [48000]⟩]
  requestedFeatures := 3

def unnamed : DisplayIdentity := ⟨none, .Absent, none, .Absent, none⟩

theorem negotiated_answer_usable_daemon : ∃ capabilities,
    negotiateCapabilities daemonOffer unnamed = .ok capabilities ∧
    validateCapabilitiesAgainstOffer daemonOffer capabilities = .ok () := by
  have hvalid : daemonOffer.validate = .ok () := by decide +kernel
  have hok : (negotiateCapabilities daemonOffer unnamed).isOk = true := by decide +kernel
  have hfits : Fits daemonOffer := by
    refine ⟨fun _ => ⟨⟨"opus-stereo", "opus", 2, [48000]⟩, by decide, rfl, rfl, by decide,
      by decide⟩, fun profile hprofile => ?_⟩
    have hfirst : profile = ⟨"h264-high", "h264", 3840, 2160, 60000⟩ := by
      simpa [daemonOffer, eq_comm] using hprofile
    rw [hfirst]
    decide
  cases hresult : negotiateCapabilities daemonOffer unnamed with
  | error e => rw [hresult] at hok; cases hok
  | ok capabilities =>
    exact ⟨capabilities, rfl, ((negotiated_answer_usable hvalid hresult).2 hfits).1⟩

/-- Audio is offered under another name, and the profile is too small for the mode. -/
def otherOffer : PreparationRequest where
  preparationGeneration := 1
  candidateModes := [⟨3840, 2160, 30000, 0⟩]
  videoProfiles := [⟨"h264-main", "h264", 1920, 1080, 60000⟩]
  audioProfiles := [⟨"opus-flexible", "opus", 6, [44100, 48000]⟩]
  requestedFeatures := 1

def otherAnswer : DeviceCapabilities where
  preparationGeneration := 1
  displayIdentity := unnamed
  modes := [⟨3840, 2160, 30000, 0⟩]
  videoProfiles := [⟨"h264-main", "h264", 1920, 1080, 60000⟩]
  audioProfiles := [opusStereo]
  features := 1

/-- The answer names an audio profile that was not offered, and its mode exceeds its profile. -/
theorem answer_outside_offer :
    otherOffer.validate = .ok () ∧ unnamed.validate = .ok () ∧
      negotiateCapabilities otherOffer unnamed = .ok otherAnswer ∧
      validateCapabilitiesAgainstOffer otherOffer otherAnswer =
        .error (.CapabilitiesOutsideOffer "audio profile ID") ∧
      Advertised otherAnswer ⟨"h264-main", none, ⟨3840, 2160, 30000, 0⟩, 8000000⟩ ∧
      configuredProfiles otherAnswer ⟨"h264-main", none, ⟨3840, 2160, 30000, 0⟩, 8000000⟩ =
        .error (.InvalidRequest "configured mode exceeds the negotiated video profile") := by
  refine ⟨by decide +kernel, by decide +kernel, by decide +kernel, by decide +kernel, ?_,
    by decide +kernel⟩
  exact ⟨by decide, ⟨_, mem_singleton.2 rfl, rfl⟩, nofun⟩

end Pronk.Chromiacast
