import Pronk.Library.Pairing
import Pronk.Library.Transition
import Pronk.OutputSlot.Pool

/-!
# A release frees its own reservation, once

The pool over any sequence of reservations and releases. A reservation holds its output
from the moment it is made until its first release; tokens tell it apart from every
other reservation of the same output or the same device.
-/
namespace Pronk.OutputSlot
open Dbus Pairing Transition OutputClaim List

lemma leastOutput_spec {outputs : List CastKmsOutput} {least : CastKmsOutput}
    (h : leastOutput outputs = some least) :
    least ∈ outputs ∧ ∀ output ∈ outputs, least.id ≤ output.id := by
  induction outputs generalizing least with
  | nil => cases h
  | cons output rest ih =>
    simp only [leastOutput] at h
    cases hrest : leastOutput rest with
    | none =>
      have hnil : rest = [] := by
        cases rest with
        | nil => rfl
        | cons output' rest' => grind [leastOutput]
      simp_all
    | some least' =>
      obtain ⟨hmem, hle⟩ := ih hrest
      rw [hrest] at h
      dsimp only at h
      split_ifs at h with hlt <;> obtain rfl := Option.some.inj h
      · refine ⟨mem_cons_of_mem _ hmem, fun o ho => ?_⟩
        rcases mem_cons.1 ho with rfl | ho
        · exact hlt.le
        · exact hle o ho
      · refine ⟨mem_cons_self, fun o ho => ?_⟩
        rcases mem_cons.1 ho with rfl | ho
        · exact le_refl _
        · exact (not_lt.1 hlt).trans (hle o ho)

namespace OutputSlotPool

/-- The device that an output is claimed for. -/
def claimant (pool : OutputSlotPool) (id : CastKmsOutputId) : Option DeviceKey :=
  (pool.claims.lookup id).map device

/-- The output that a device has. -/
def outputOf (pool : OutputSlotPool) (device : DeviceKey) : Option CastKmsOutputId :=
  pool.devices.lookup device

attribute [local grind =] claimant outputOf claim free Option.some.injEq mk.injEq
  OutputReservation.release OutputReservationRelease.mk.injEq OutputReservation.mk.injEq

/-- The output was disconnected and nobody has claimed it. -/
def Qualifies (pool : OutputSlotPool) (output : CastKmsOutput) : Prop :=
  output.connection = .Disconnected ∧ pool.claims.lookup output.id = none

lemma available_iff {pool : OutputSlotPool} {output : CastKmsOutput} :
    pool.available output = true ↔ pool.Qualifies output := by
  simp [available, Qualifies, CastKmsOutput.isAvailable]

variable {pool : OutputSlotPool} {device : DeviceInfo} {outputs : List CastKmsOutput}
  {preferred : Option CastKmsOutputId} {selected : CastKmsOutput}

/-- The preferred output is taken if it qualifies, and else the least one that does. -/
lemma select_spec (h : pool.select outputs preferred = some selected) :
    selected ∈ outputs ∧ pool.Qualifies selected ∧
    ((∃ output ∈ outputs, preferred = some output.id ∧ pool.Qualifies output) →
      preferred = some selected.id) ∧
    ((¬ ∃ output ∈ outputs, preferred = some output.id ∧ pool.Qualifies output) →
      ∀ output ∈ outputs, pool.Qualifies output → selected.id ≤ output.id) := by
  simp only [select, Option.or_eq_some_iff] at h
  rcases h with h | ⟨hnone, hleast⟩
  · obtain ⟨id, rfl, hfind⟩ := Option.bind_eq_some_iff.1 h
    have hmem := mem_of_find?_eq_some hfind
    have hselected := find?_some hfind
    simp only [Bool.and_eq_true, decide_eq_true_eq, available_iff] at hselected
    refine ⟨hmem, hselected.2, fun _ => by rw [hselected.1], fun hother => ?_⟩
    exact absurd ⟨selected, hmem, by rw [hselected.1], hselected.2⟩ hother
  · obtain ⟨hmem, hle⟩ := leastOutput_spec hleast
    obtain ⟨hmem, havailable⟩ := mem_filter.1 hmem
    refine ⟨hmem, available_iff.1 havailable, fun hpreferred => ?_, fun _ output ho hq => ?_⟩
    · obtain ⟨output, ho, rfl, hq⟩ := hpreferred
      rw [Option.bind_some, find?_eq_none] at hnone
      exact absurd (by simp [available_iff.2 hq]) (hnone output ho)
    · exact hle output (mem_filter.2 ⟨ho, available_iff.2 hq⟩)

lemma reserve_cases (pool : OutputSlotPool) (device : DeviceInfo) (outputs : List CastKmsOutput)
    (preferred : Option CastKmsOutputId) :
    (∃ error, pool.reserve device outputs preferred = (.error error, pool)) ∨
    ∃ token selected, pool.devices.lookup (.fromDevice device) = none ∧
      pool.select outputs preferred = some selected ∧
      token.toNat = pool.nextToken.toNat + 1 ∧
      pool.reserve device outputs preferred = (.ok ⟨token, .fromDevice device, selected⟩,
        pool.claim token (.fromDevice device) selected) := by
  unfold reserve
  dsimp only
  split_ifs with hclaimed
  · exact .inl ⟨_, rfl⟩
  cases validateInventory outputs with
  | error error => exact .inl ⟨_, rfl⟩
  | ok _ =>
    cases hselect : pool.select outputs preferred with
    | none => exact .inl ⟨_, rfl⟩
    | some selected =>
      cases htoken : checkedSucc pool.nextToken with
      | none => exact .inl ⟨_, rfl⟩
      | some token =>
        exact .inr ⟨token, selected, by simpa using hclaimed, rfl,
          checkedSucc_eq_some.1 htoken, rfl⟩

lemma validateOutputs_error {identities : List CastKmsOutputId}
    {connectors : List (PathBuf × UInt32)} {error : OutputReservationError}
    (h : validateOutputs identities connectors outputs = .error error) :
    error = .InvalidInventory := by
  induction outputs generalizing identities connectors with
  | nil => cases h
  | cons output rest ih =>
    grind [validateOutputs]

lemma claimed_of_reserve {backendId deviceId : String}
    (h : (pool.reserve device outputs preferred).1 =
      .error (.DeviceAlreadyClaimed backendId deviceId)) :
    (pool.outputOf (.fromDevice device)).isSome := by
  cases hvalid : validateInventory outputs with
  | error error =>
    obtain rfl := validateOutputs_error hvalid
    grind [reserve]
  | ok _ =>
    cases hselect : pool.select outputs preferred <;>
      cases htoken : checkedSucc pool.nextToken <;> grind [reserve]

lemma mutual_claim (h : Mutual pool.claimant pool.outputOf) {key : DeviceKey}
    (hdevice : pool.devices.lookup key = none) (houtput : pool.claims.lookup selected.id = none)
    (token : UInt64) :
    Mutual (pool.claim token key selected).claimant (pool.claim token key selected).outputOf := by
  intro id key'
  have hother := h id key'
  have hkey := h id key
  have hid := h selected.id key'
  grind

lemma mutual_free (h : Mutual pool.claimant pool.outputOf) {release : OutputReservationRelease}
    (hclaim : pool.claims.lookup release.outputId = some ⟨release.token, release.device⟩) :
    Mutual (pool.free release).claimant (pool.free release).outputOf := by
  intro id key
  have hother := h id key
  have hkey := h id release.device
  have hid := h release.outputId key
  grind

lemma mutual_release (h : Mutual pool.claimant pool.outputOf)
    (release : OutputReservationRelease) :
    Mutual (pool.release release).2.claimant (pool.release release).2.outputOf := by
  unfold OutputSlotPool.release
  split_ifs with hclaim
  · exact mutual_free h hclaim
  · exact h

lemma lookup_release {release : OutputReservationRelease} {id : CastKmsOutputId}
    {claim : OutputClaim} : (pool.release release).2.claims.lookup id = some claim ↔
      pool.claims.lookup id = some claim ∧ release ≠ ⟨claim.token, claim.device, id⟩ := by
  obtain ⟨token, device, outputId⟩ := release
  obtain ⟨token', device'⟩ := claim
  unfold OutputSlotPool.release
  split_ifs with hclaim
  · by_cases hid : id = outputId <;> grind
  · grind

end OutputSlotPool

open OutputSlotPool

/-- The pool with the reservations it has made and the releases it has been sent. -/
structure Registry where
  pool : OutputSlotPool := {}
  reservations : List OutputReservation := []
  releases : List OutputReservationRelease := []

inductive Input where
  | reserve (device : DeviceInfo) (outputs : List CastKmsOutput)
      (preferred : Option CastKmsOutputId)
  | release (release : OutputReservationRelease)

/-- Only a reservation makes a release. -/
def Registry.next (w : Registry) : Input → Option Registry
  | .reserve device outputs preferred =>
    match w.pool.reserve device outputs preferred with
    | (.ok reservation, pool) =>
      some { w with pool := pool, reservations := w.reservations ++ [reservation] }
    | (.error _, pool) => some { w with pool := pool }
  | .release release =>
    if release ∈ w.reservations.map OutputReservation.release then
      some { w with pool := (w.pool.release release).2, releases := w.releases ++ [release] }
    else none

def registry : Machine Registry Input := ⟨Registry.next⟩

/-- The reservation holds its output. -/
def Registry.Live (w : Registry) (reservation : OutputReservation) : Prop :=
  reservation ∈ w.reservations ∧ reservation.release ∉ w.releases

structure Registry.Sound (w : Registry) : Prop where
  inverse : Mutual w.pool.claimant w.pool.outputOf
  bound : ∀ r ∈ w.reservations, r.token.toNat ≤ w.pool.nextToken.toNat
  tokens : ∀ r ∈ w.reservations, ∀ r' ∈ w.reservations, r.token = r'.token → r = r'
  released : ∀ release ∈ w.releases, release ∈ w.reservations.map OutputReservation.release
  held : ∀ r ∈ w.reservations, r.release ∉ w.releases →
    w.pool.claims.lookup r.output.id = some ⟨r.token, r.device⟩
  owned : ∀ id claim, w.pool.claims.lookup id = some claim →
    ⟨claim.token, claim.device, id⟩ ∈ w.reservations.map OutputReservation.release ∧
      ⟨claim.token, claim.device, id⟩ ∉ w.releases

namespace Registry.Sound

variable {w : Registry}

attribute [local grind =] claim free Option.some.injEq
  mk.injEq OutputReservation.release OutputReservationRelease.mk.injEq
  OutputReservation.mk.injEq

lemma initial : Sound {} := by
  constructor <;> simp [Mutual, claimant, outputOf]

/-- The token of a new reservation is past all others, so no old release names it. -/
theorem reserve (h : w.Sound) {token : UInt64} {device : DeviceKey} {output : CastKmsOutput}
    (hdevice : w.pool.devices.lookup device = none)
    (houtput : w.pool.claims.lookup output.id = none)
    (htoken : token.toNat = w.pool.nextToken.toNat + 1) :
    Sound { w with
      pool := w.pool.claim token device output
      reservations := w.reservations ++ [⟨token, device, output⟩] } := by
  have hinverse := mutual_claim h.inverse hdevice houtput token
  obtain ⟨-, hbound, htokens, hreleased, hheld, howned⟩ := h
  have hfresh : ∀ r ∈ w.reservations, r.token ≠ token := by grind
  refine ⟨hinverse, ?_, ?_, ?_, ?_, ?_⟩ <;> grind

lemma lookup_of_live (h : w.Sound) {r : OutputReservation} (hlive : w.Live r) :
    w.pool.claims.lookup r.output.id = some ⟨r.token, r.device⟩ :=
  h.held r hlive.1 hlive.2

/-- A release frees the slot exactly if it is the first one of its reservation. -/
theorem release_eq (h : w.Sound) {r : OutputReservation} (hr : r ∈ w.reservations) :
    w.pool.release r.release = if r.release ∈ w.releases then (false, w.pool)
      else (true, w.pool.free r.release) := by
  split_ifs with hreleased
  · exact if_neg fun hlookup => (h.owned _ _ hlookup).2 hreleased
  · exact if_pos (h.lookup_of_live ⟨hr, hreleased⟩)

lemma repeated (h : w.Sound) {release : OutputReservationRelease} (hmem : release ∈ w.releases) :
    Sound { w with releases := w.releases ++ [release] } := by
  obtain ⟨hinverse, hbound, htokens, hreleased, hheld, howned⟩ := h
  refine ⟨hinverse, hbound, htokens, ?_, ?_, ?_⟩ <;> grind

/-- Two live reservations of one output are the same. -/
theorem free (h : w.Sound) {r : OutputReservation} (hlive : w.Live r) :
    Sound { w with pool := w.pool.free r.release, releases := w.releases ++ [r.release] } := by
  have hlookup := h.lookup_of_live hlive
  have hinverse : Mutual (w.pool.free r.release).claimant (w.pool.free r.release).outputOf :=
    mutual_free h.inverse hlookup
  obtain ⟨hr, hlive⟩ := hlive
  obtain ⟨-, hbound, htokens, hreleased, hheld, howned⟩ := h
  refine ⟨hinverse, hbound, htokens, ?_, ?_, ?_⟩
  · grind
  · intro r' hr' hlive'
    have hheld := hheld r' hr'
    have htoken := htokens r hr r' hr'
    grind
  · grind

lemma next (h : w.Sound) {w' : Registry} {i : Input} (hnext : w.next i = some w') :
    w'.Sound := by
  cases i with
  | reserve device outputs preferred =>
    simp only [Registry.next] at hnext
    rcases w.pool.reserve_cases device outputs preferred with
      ⟨error, heq⟩ | ⟨token, selected, hdevice, hselect, htoken, heq⟩
    · rw [heq] at hnext
      exact Option.some.inj hnext ▸ h
    · rw [heq] at hnext
      exact Option.some.inj hnext ▸
        h.reserve hdevice (select_spec hselect).2.1.2 htoken
  | release release =>
    obtain ⟨hmem, hw⟩ := Option.ite_none_right_eq_some.1 hnext
    obtain ⟨r, hr, rfl⟩ := mem_map.1 hmem
    obtain rfl := Option.some.inj hw
    rw [h.release_eq hr]
    split_ifs with hreleased
    · exact h.repeated hreleased
    · exact h.free ⟨hr, hreleased⟩

end Registry.Sound

lemma reach_sound {w : Registry} (h : registry.Reach {} w) : w.Sound :=
  h.invariant (I := Registry.Sound) .initial fun _ _ _ hsound hnext => hsound.next hnext

/-- In every history: the two maps invert each other; live claims have different tokens; a
release frees the slot of its reservation if it is the first, and else changes nothing; a
reservation that fails changes nothing, and one that succeeds returns an output that
qualified, by preference or the least one. -/
theorem output_reservations {w : Registry} (h : registry.Reach {} w) :
    Mutual w.pool.claimant w.pool.outputOf ∧
    (∀ id id' claim claim', w.pool.claims.lookup id = some claim →
      w.pool.claims.lookup id' = some claim' → claim.token = claim'.token → id = id') ∧
    (∀ r ∈ w.reservations, w.pool.release r.release =
      if r.release ∈ w.releases then (false, w.pool) else (true, w.pool.free r.release)) ∧
    (∀ r ∈ w.reservations, r.release ∉ w.releases →
      w.pool.claims.lookup r.output.id = some ⟨r.token, r.device⟩) ∧
    ∀ device outputs preferred,
      (∀ error pool', w.pool.reserve device outputs preferred = (.error error, pool') →
        pool' = w.pool) ∧
      ∀ r pool', w.pool.reserve device outputs preferred = (.ok r, pool') →
        pool' = w.pool.claim r.token r.device r.output ∧
        r.output ∈ outputs ∧ w.pool.Qualifies r.output ∧
        ((∃ output ∈ outputs, preferred = some output.id ∧ w.pool.Qualifies output) →
          preferred = some r.output.id) ∧
        ((¬ ∃ output ∈ outputs, preferred = some output.id ∧ w.pool.Qualifies output) →
          ∀ output ∈ outputs, w.pool.Qualifies output → r.output.id ≤ output.id) := by
  have hsound := reach_sound h
  refine ⟨hsound.inverse, ?_, fun r hr => hsound.release_eq hr,
    fun r hr hlive => hsound.lookup_of_live ⟨hr, hlive⟩, fun device outputs preferred => ?_⟩
  · intro id id' claim claim' hid hid' htoken
    obtain ⟨r, hr, hrelease⟩ := mem_map.1 (hsound.owned id claim hid).1
    obtain ⟨r', hr', hrelease'⟩ := mem_map.1 (hsound.owned id' claim' hid').1
    have hsame := hsound.tokens r hr r' hr'
    grind [OutputReservation.release]
  · rcases w.pool.reserve_cases device outputs preferred with
      ⟨error, heq⟩ | ⟨token, selected, -, hselect, -, heq⟩
    · rw [heq]
      refine ⟨fun error' pool' heq' => (Prod.mk.inj heq').2.symm, fun r pool' heq' => ?_⟩
      cases (Prod.mk.inj heq').1
    · rw [heq]
      refine ⟨fun error pool' heq' => ?_, fun r pool' heq' => ?_⟩
      · cases (Prod.mk.inj heq').1
      · obtain ⟨hr, rfl⟩ := Prod.mk.inj heq'
        obtain rfl := Except.ok.inj hr
        exact ⟨rfl, select_spec hselect⟩

/-- A release that is delivered a second time, after the output was reserved again. -/
theorem output_reservations_repeated_release :
    ∃ w, registry.Reach {} w ∧ w.reservations.map OutputReservation.token = [1, 2] ∧
      w.releases.length = 1 ∧ ∀ r ∈ w.reservations, r.token = 1 →
        w.pool.release r.release = (false, w.pool) := by
  let device : DeviceInfo := ⟨"cast", "tv", "TV", .Available, 1, 1, 1, []⟩
  let output : CastKmsOutput := ⟨⟨[.RootDir, .Normal "sys"], 0⟩,
    [.RootDir, .Normal "dev"], 226, 0, 31,
    "Virtual-1", .Disconnected⟩
  let inputs : List Input := [.reserve device [output] none,
    .release ⟨1, ⟨"cast", "tv"⟩, output.id⟩, .reserve device [output] (some output.id)]
  obtain ⟨w, hw, htokens, hlength, hreleased⟩ : ∃ w, registry.Reach {} w ∧
      w.reservations.map OutputReservation.token = [1, 2] ∧ w.releases.length = 1 ∧
      ∀ r ∈ w.reservations, r.token = 1 → r.release ∈ w.releases :=
    Machine.exists_reach inputs (by decide +kernel)
  refine ⟨w, hw, htokens, hlength, fun r hr htoken => ?_⟩
  rw [(output_reservations hw).2.2.1 r hr, if_pos (hreleased r hr htoken)]

end Pronk.OutputSlot
