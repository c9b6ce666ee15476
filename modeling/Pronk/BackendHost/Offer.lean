import Pronk.BackendProtocol.Session

/-!
# The answer to an offer

The host takes the capabilities of a device only if they lie within what it has offered.
-/
namespace Pronk.BackendHost
open BackendProtocol

inductive BackendSessionError where
  | CapabilitiesOutsideOffer (what : String)
  deriving DecidableEq

def validateVideoProfile (offer : PreparationRequest) (returned : VideoProfile) :
    Except BackendSessionError Unit :=
  match offer.videoProfiles.find? (·.profileId = returned.profileId) with
  | none => .error (.CapabilitiesOutsideOffer "video profile ID")
  | some offered =>
    if returned.codec ≠ offered.codec ∨ offered.maxWidth < returned.maxWidth ∨
        offered.maxHeight < returned.maxHeight ∨
        offered.maxRefreshMillihz < returned.maxRefreshMillihz then
      .error (.CapabilitiesOutsideOffer "video profile limits")
    else .ok ()

def validateAudioProfile (offer : PreparationRequest) (returned : AudioProfile) :
    Except BackendSessionError Unit :=
  match offer.audioProfiles.find? (·.profileId = returned.profileId) with
  | none => .error (.CapabilitiesOutsideOffer "audio profile ID")
  | some offered =>
    if returned.codec ≠ offered.codec ∨ offered.maxChannels < returned.maxChannels ∨
        ∃ rate ∈ returned.sampleRates, rate ∉ offered.sampleRates then
      .error (.CapabilitiesOutsideOffer "audio profile limits")
    else .ok ()

/-- The loop over the profiles of one kind. -/
def validateProfiles {α : Type} (validate : α → Except BackendSessionError Unit) :
    List α → Except BackendSessionError Unit
  | [] => .ok ()
  | returned :: rest => do
    validate returned
    validateProfiles validate rest

/-- The capabilities stay within what was offered. -/
def validateCapabilitiesAgainstOffer (offer : PreparationRequest)
    (capabilities : DeviceCapabilities) : Except BackendSessionError Unit :=
  if capabilities.features &&& ~~~offer.requestedFeatures ≠ 0 then
    .error (.CapabilitiesOutsideOffer "feature bits")
  else if ∃ mode ∈ capabilities.modes, mode ∉ offer.candidateModes then
    .error (.CapabilitiesOutsideOffer "display mode")
  else do
    validateProfiles (validateVideoProfile offer) capabilities.videoProfiles
    validateProfiles (validateAudioProfile offer) capabilities.audioProfiles

lemma validateProfiles_eq_ok {α : Type} {validate : α → Except BackendSessionError Unit}
    {returned : List α} :
    validateProfiles validate returned = .ok () ↔ ∀ a ∈ returned, validate a = .ok () := by
  induction returned with
  | nil => simp [validateProfiles]
  | cons a rest ih => rw [validateProfiles, Fallible.seq_eq_ok, ih, List.forall_mem_cons]

lemma validateCapabilitiesAgainstOffer_eq_ok {offer : PreparationRequest}
    {capabilities : DeviceCapabilities} :
    validateCapabilitiesAgainstOffer offer capabilities = .ok () ↔
      capabilities.features &&& ~~~offer.requestedFeatures = 0 ∧
      (∀ mode ∈ capabilities.modes, mode ∈ offer.candidateModes) ∧
      (∀ profile ∈ capabilities.videoProfiles, validateVideoProfile offer profile = .ok ()) ∧
      ∀ profile ∈ capabilities.audioProfiles, validateAudioProfile offer profile = .ok () := by
  unfold validateCapabilitiesAgainstOffer
  by_cases hfeatures : capabilities.features &&& ~~~offer.requestedFeatures = 0
  · by_cases hmodes : ∃ mode ∈ capabilities.modes, mode ∉ offer.candidateModes
    · rw [if_neg (not_not.2 hfeatures), if_pos hmodes]
      constructor
      · intro h
        cases h
      · rintro ⟨-, hall, -⟩
        obtain ⟨mode, hin, hout⟩ := hmodes
        exact absurd (hall mode hin) hout
    · rw [if_neg (not_not.2 hfeatures), if_neg hmodes, Fallible.seq_eq_ok,
        validateProfiles_eq_ok, validateProfiles_eq_ok]
      have hall : ∀ mode ∈ capabilities.modes, mode ∈ offer.candidateModes := by
        intro mode hin
        by_contra hout
        exact hmodes ⟨mode, hin, hout⟩
      exact ⟨fun h => ⟨hfeatures, hall, h⟩, fun h => h.2.2⟩
  · simp [hfeatures]

end Pronk.BackendHost
