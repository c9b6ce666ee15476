import Pronk.CastDisplay.Slot

/-!
# Every change of a display has a new revision

Each handler of the slot leads from one snapshot to one that follows it: its revision is
not smaller, and it is the same only if nothing changed. Following is transitive, so it
relates any two published snapshots.
-/
namespace Pronk.CastDisplay
open Dbus Media DeviceSession Transition DisplayRuntimeState
open MediaSession (saturatingSucc startedStates)

lemma toNat_saturatingSucc (v : UInt64) :
    (saturatingSucc v).toNat = min (v.toNat + 1) (2 ^ 64 - 1) := by
  have hv := v.toNat_lt
  unfold saturatingSucc
  cases hnext : checkedSucc v with
  | none => grind [checkedSucc_eq_none]
  | some v' => grind [checkedSucc_eq_some, v'.toNat_lt]

namespace DisplayRuntimeState

/-- A route has a generation of its own and is not kept by a detached connector. -/
structure Sound (state : DisplayRuntimeState) : Prop where
  generation : state.routeGeneration.toNat < state.revision.toNat
  detached : state.attachment ≠ .Attached → state.route = .Disabled
  numbered : state.mediaGeneration = 0 → state.media ∉ startedStates

structure Advances (a b : DisplayRuntimeState) : Prop where
  revision : a.revision.toNat ≤ b.revision.toNat
  same : a.revision.toNat = b.revision.toNat → a = b
  routeGeneration : a.routeGeneration.toNat ≤ b.routeGeneration.toNat
  route : a.routeGeneration.toNat = b.routeGeneration.toNat → a.route = b.route

variable {a b c : DisplayRuntimeState}

attribute [local grind cases eager] Sound Advances

lemma Advances.refl (a : DisplayRuntimeState) : Advances a a := by
  constructor <;> grind

lemma Advances.trans (hab : Advances a b) (hbc : Advances b c) : Advances a c := by
  constructor <;> grind

lemma Advances.of_advance (hab : Advances a b) (hmax : a.revision.toNat < 2 ^ 64 - 1)
    (hrevision : c.revision = saturatingSucc b.revision)
    (hgeneration : c.routeGeneration = b.routeGeneration) (hroute : c.route = b.route) :
    Advances a c := by
  have hsucc := toNat_saturatingSucc b.revision
  constructor <;> grind

lemma Sound.advance (h : b.Sound) (hrevision : c.revision = saturatingSucc b.revision)
    (hgeneration : c.routeGeneration = b.routeGeneration) (hroute : c.route = b.route)
    (hattachment : c.attachment = b.attachment)
    (hnumbered : c.mediaGeneration = 0 → c.media ∉ startedStates) : c.Sound := by
  have hsucc := toNat_saturatingSucc b.revision
  have hmax := b.revision.toNat_lt
  constructor <;> grind

lemma revision_le_observeTopology (a : DisplayRuntimeState) (topology : DisplayTopology) :
    a.revision.toNat ≤ (a.observeTopology topology).2.revision.toNat := by
  have hlt := a.revision.toNat_lt
  grind [observeTopology, advance, toNat_saturatingSucc]

lemma observeTopology_spec (h : a.Sound) (hmax : a.revision.toNat < 2 ^ 64 - 1)
    (topology : DisplayTopology) :
    (a.observeTopology topology).2.Sound ∧ Advances a (a.observeTopology topology).2 := by
  -- the route generation stays behind the revision, so it cannot be exhausted first
  have hrevision := toNat_saturatingSucc a.revision
  have hroutes := toNat_saturatingSucc a.routeGeneration
  unfold observeTopology
  dsimp only
  split_ifs with hsame hroute
  · exact ⟨h, .refl a⟩
  all_goals constructor <;> constructor <;> grind [advance, routeOf]

lemma observeMedia_spec (hb : b.Sound) (hab : Advances a b) (hmax : a.revision.toNat < 2 ^ 64 - 1)
    {generation : UInt64} {media : MediaState} (lastError : Option String)
    (hmedia : generation = 0 → media ∉ startedStates) :
    (b.observeMedia generation media lastError).2.Sound ∧
    Advances a (b.observeMedia generation media lastError).2 := by
  unfold observeMedia
  split_ifs
  · exact ⟨hb, hab⟩
  · exact ⟨hb.advance rfl rfl rfl rfl hmedia, hab.of_advance hmax rfl rfl rfl⟩

lemma failMedia_spec (hb : b.Sound) (hab : Advances a b) (hmax : a.revision.toNat < 2 ^ 64 - 1)
    (diagnostic : String) :
    (b.failMedia diagnostic).Sound ∧ Advances a (b.failMedia diagnostic) :=
  observeMedia_spec hb hab hmax _ fun _ => by decide

end DisplayRuntimeState

namespace AddedCastDisplaySnapshot

structure Sound (s : AddedCastDisplaySnapshot) : Prop where
  revision : s.stateRevision = s.runtime.revision
  runtime : s.runtime.Sound
  device : s.device.deviceRevision.toNat ≤ s.runtime.revision.toNat

structure Follows (a b : AddedCastDisplaySnapshot) : Prop where
  runtime : a.runtime.Advances b.runtime
  device : a.runtime.revision.toNat = b.runtime.revision.toNat → a.device = b.device
  prepared : a.prepared = b.prepared

variable {a b c : AddedCastDisplaySnapshot}

attribute [local grind cases eager] Advances Follows

lemma Follows.refl (a : AddedCastDisplaySnapshot) : Follows a a :=
  ⟨.refl _, fun _ => rfl, rfl⟩

lemma Follows.trans (hab : Follows a b) (hbc : Follows b c) : Follows a c := by
  have hruntime := hab.runtime.trans hbc.runtime
  constructor <;> grind

/-- What a handler makes of a sound snapshot whose revision can still grow. -/
def Change (a b : AddedCastDisplaySnapshot) : Prop :=
  a.Sound → a.runtime.revision.toNat < 2 ^ 64 - 1 → b.Sound ∧ Follows a b

lemma change_of_runtime {runtime : DisplayRuntimeState} {grantState : DisplayGrantState}
    (h : a.runtime.Sound → a.runtime.revision.toNat < 2 ^ 64 - 1 →
      runtime.Sound ∧ a.runtime.Advances runtime) :
    Change a { a.withRuntime runtime with grantState := grantState } := by
  intro hsound hmax
  obtain ⟨hruntime, hadvances⟩ := h hsound.runtime hmax
  exact ⟨⟨rfl, hruntime, Nat.le_trans hsound.device hadvances.revision⟩, hadvances,
    fun _ => rfl, rfl⟩

lemma change_failMedia (a : AddedCastDisplaySnapshot) (diagnostic : String) :
    Change a (a.failMedia diagnostic) :=
  change_of_runtime fun h hmax => failMedia_spec h (.refl _) hmax diagnostic

lemma failed_spec {runtime : DisplayRuntimeState} (h : runtime.Sound)
    (hmax : runtime.revision.toNat < 2 ^ 64 - 1) (topology : DisplayTopology)
    (diagnostic : String) :
    ((runtime.observeTopology topology).2.failMedia diagnostic).Sound ∧
    runtime.Advances ((runtime.observeTopology topology).2.failMedia diagnostic) :=
  have hspec := observeTopology_spec h hmax topology
  failMedia_spec hspec.1 hspec.2 hmax diagnostic

lemma change_failKernel (a : AddedCastDisplaySnapshot) (diagnostic : String) :
    Change a (a.failKernel diagnostic) :=
  change_of_runtime fun h hmax => failed_spec h hmax _ diagnostic

lemma change_observeKernel (a : AddedCastDisplaySnapshot) (observation : KernelDisplayObservation) :
    Change a (a.observeKernel observation) := by
  refine change_of_runtime fun h hmax => ?_
  obtain ⟨hsound, hadvances⟩ :=
    observeTopology_spec h hmax observation.topology
  split_ifs
  · exact ⟨hsound.advance rfl rfl rfl rfl hsound.numbered, hadvances.of_advance hmax rfl rfl rfl⟩
  · exact ⟨hsound, hadvances⟩

lemma change_applyKernelEvent (a : AddedCastDisplaySnapshot) (event : KernelDisplayEvent) :
    Change a (a.applyKernelEvent event) := by
  cases event with
  | Changed observation => exact change_observeKernel a observation
  | Revoked => exact change_of_runtime fun h hmax => failed_spec h hmax _ _
  | MediaFailed error => exact change_failMedia a error

lemma change_observeMedia (a : AddedCastDisplaySnapshot)
    (media : MediaSession.PublishedSnapshot) : Change a (a.withRuntime
      (a.runtime.observeMedia media.1.mediaGeneration media.1.state media.1.lastError).2) :=
  change_of_runtime fun h hmax =>
    observeMedia_spec h (.refl _) hmax _ media.2

lemma change_updateDevice (a : AddedCastDisplaySnapshot) (device : DeviceInfo) :
    Change a { a.withRuntime { a.runtime with
      revision := max (saturatingSucc a.runtime.revision) device.deviceRevision } with
      device := device } := by
  intro hsound hmax
  have hgeneration := hsound.runtime.generation
  have hsucc := toNat_saturatingSucc a.runtime.revision
  have hmaximum := toNat_max (saturatingSucc a.runtime.revision) device.deviceRevision
  refine ⟨⟨rfl, ⟨?_, hsound.runtime.detached, hsound.runtime.numbered⟩, ?_⟩,
    ⟨?_, ?_, Nat.le_refl _, fun _ => rfl⟩, ?_, rfl⟩
  all_goals
    simp only [withRuntime, hmaximum]
    omega

lemma initial_sound (display : AddedCastDisplay) (observation : KernelDisplayObservation)
    (hmax : (initial display observation).runtime.revision.toNat < 2 ^ 64 - 1) :
    (initial display observation).Sound := by
  have hcurrent := UInt64.le_iff_toNat_le.1 display.current
  have hattached : (attached display.stateRevision).revision.toNat =
      max display.stateRevision.toNat 1 := toNat_max _ 1
  have hsound : (attached display.stateRevision).Sound := by
    refine ⟨?_, fun _ => rfl, fun _ => by simp [attached, startedStates]⟩
    rw [hattached]
    exact Nat.le_max_right _ 1
  have hle := revision_le_observeTopology
    (.attached display.stateRevision) observation.topology
  obtain ⟨hruntime, hadvances⟩ :=
    observeTopology_spec hsound (Nat.lt_of_le_of_lt hle hmax)
      observation.topology
  exact ⟨rfl, hruntime, by
    refine Nat.le_trans ?_ hadvances.revision
    rw [hattached]
    exact Nat.le_trans hcurrent (Nat.le_max_left _ _)⟩

end AddedCastDisplaySnapshot

open AddedCastDisplaySnapshot

/-- The published snapshots, and the current one, which is the last of them. -/
structure Chronicle (snapshot : AddedCastDisplaySnapshot)
    (published : List AddedCastDisplaySnapshot) : Prop where
  mem : snapshot ∈ published
  sound : ∀ s ∈ published, s.Sound
  ordered : published.Pairwise Follows
  last : ∀ s ∈ published, s.Follows snapshot

lemma Chronicle.publish {snapshot s' : AddedCastDisplaySnapshot}
    {published : List AddedCastDisplaySnapshot} (h : Chronicle snapshot published)
    (hsound : s'.Sound) (hfollows : snapshot.Follows s') :
    Chronicle s' (published ++ [s']) := by
  obtain ⟨hmem, hold, hordered, hlast⟩ := h
  have htrans (s) (hs : s ∈ published) : s.Follows s' := (hlast s hs).trans hfollows
  have hrefl := Follows.refl s'
  constructor <;> grind

/-- What follows `s₀` and the snapshots `p₀`: changes that are published one after the other.
A device that is not the last one is in `Q`. -/
inductive Trail (Q : DeviceInfo → Prop) (s₀ : AddedCastDisplaySnapshot)
    (p₀ : List AddedCastDisplaySnapshot) :
    AddedCastDisplaySnapshot → List AddedCastDisplaySnapshot → Prop
  | refl : Trail Q s₀ p₀ s₀ p₀
  | publish {s s' : AddedCastDisplaySnapshot} {p : List AddedCastDisplaySnapshot}
      (h : Trail Q s₀ p₀ s p) (hchange : Change s s')
      (hdevice : s'.device = s.device ∨ Q s'.device) : Trail Q s₀ p₀ s' (p ++ [s'])

namespace Trail

variable {Q P : DeviceInfo → Prop} {s₀ s : AddedCastDisplaySnapshot}
  {p₀ p : List AddedCastDisplaySnapshot}

/-- The chronicle is kept as long as no published revision is the largest one. -/
theorem chronicle (h : Trail Q s₀ p₀ s p)
    (h₀ : (∀ s ∈ p₀, s.runtime.revision.toNat < 2 ^ 64 - 1) → Chronicle s₀ p₀)
    (hmax : ∀ s ∈ p, s.runtime.revision.toNat < 2 ^ 64 - 1) : Chronicle s p := by
  induction h with
  | refl => exact h₀ hmax
  | publish _ hchange _ ih =>
    have hchronicle := ih fun s hs => hmax s (List.mem_append_left _ hs)
    obtain ⟨hsound, hfollows⟩ := hchange (hchronicle.sound _ hchronicle.mem)
      (hmax _ (List.mem_append_left _ hchronicle.mem))
    exact hchronicle.publish hsound hfollows

/-- Only devices in `P` are shown if the new ones are in `P`. -/
theorem devices (h : Trail Q s₀ p₀ s p) (hQ : ∀ device, Q device → P device)
    (h₀ : P s₀.device ∧ ∀ s ∈ p₀, P s.device) : P s.device ∧ ∀ s ∈ p, P s.device := by
  induction h with
  | refl => exact h₀
  | @publish s s' p _ _ hdevice ih =>
    have hnew : P s'.device := hdevice.elim (fun heq => heq ▸ ih.1) (hQ _)
    refine ⟨hnew, fun x hx => ?_⟩
    rcases List.mem_append.1 hx with hx | hx
    · exact ih.2 x hx
    · exact List.mem_singleton.1 hx ▸ hnew

end Trail

namespace Slot

variable {Q : DeviceInfo → Prop} {w₀ w w' : Slot}

/-- The snapshots that are published between two states of a slot. -/
def Trails (Q : DeviceInfo → Prop) (w₀ w : Slot) : Prop :=
  Trail Q w₀.snapshot w₀.published w.snapshot w.published

namespace Trails

lemma publish (h : Trails Q w₀ w) {s' : AddedCastDisplaySnapshot} (hchange : Change w.snapshot s')
    (hdevice : s'.device = w.snapshot.device) : Trails Q w₀ (w.publish s') :=
  Trail.publish h hchange (.inl hdevice)

lemma publishMediaFailure (h : Trails Q w₀ w) (diagnostic : String) :
    Trails Q w₀ (w.publishMediaFailure diagnostic) :=
  h.publish (change_failMedia _ _) rfl

lemma recoverFailed (h : Trails Q w₀ w) (failure : Option String)
    (error : DeviceSessionRecoveryError) : Trails Q w₀ (w.recoverFailed failure error) := by
  cases failure with
  | none => exact h.publishMediaFailure _
  | some diagnostic => exact h

lemma recover (h : Trails Q w₀ w) (device : DeviceInfo) (failure : Option String) :
    Trails Q w₀ (w.recover device failure) := by
  unfold Slot.recover
  split
  · exact h.recoverFailed failure _
  · exact h

lemma noteDevice (h : Trails Q w₀ w) (policy : DeviceSessionPolicyState) {device : DeviceInfo}
    (hdevice : Q device) : Trails Q w₀ (w.noteDevice policy device) := by
  simp only [Slot.noteDevice, refreshDevice, AddedCastDisplaySnapshot.updateDevice]
  split_ifs
  · exact h
  · exact Trail.publish h (change_updateDevice _ device) (.inr hdevice)

end Trails

/-- Every step publishes changes only, and a new device only if that is its input. -/
theorem Steps.trails {i : Input} (hsteps : Steps w i w') :
    Trails (fun device => i = .updateDevice device) w w' := by
  have h : Trails (fun device => i = .updateDevice device) w w := .refl
  cases hsteps with
  | updateDevice device hinput hphase =>
    rcases w.policy.observeDevice_cases device with ⟨-, heq⟩ | ⟨-, heq⟩ | ⟨-, heq⟩ <;>
      simp only [Slot.updateDevice, heq]
    · split_ifs
      · exact h
      · exact h.noteDevice _ hinput
    · exact h.noteDevice _ hinput
    · exact (h.noteDevice _ hinput).recover _ _
  | kernelEvent event hphase =>
    have hpublished := h.publish (change_applyKernelEvent w.snapshot event) (by cases event <;> rfl)
    cases event <;> exact hpublished
  | kernelFailed error hphase => exact h.publish (change_failKernel _ _) rfl
  | media snapshot hphase =>
    simp only [Slot.observeMedia, AddedCastDisplaySnapshot.observeMedia]
    split_ifs
    · exact h.publish (change_observeMedia _ snapshot) rfl
    · exact h
  | recoveryEvent event rest hphase hevents =>
    have hfailed (policy : DeviceSessionPolicyState) := Trails.publishMediaFailure
      (w := { w with events := rest, policy := policy }) h
    cases event with
    | Ready generation device sessionGeneration cleanup =>
      simp only [Slot.onRecoveryEvent, onReady]
      split <;> exact h
    | Failed generation device error =>
      simp only [Slot.onRecoveryEvent, onFailed]
      split
      · exact h
      · exact hfailed _ _
    | TransportFailed sessionGeneration error =>
      simp only [Slot.onRecoveryEvent, onTransportFailed]
      split
      · exact h
      split_ifs
      · refine Trails.recover ?_ _ _
        exact hfailed _ _
      · exact hfailed _ _
  | recoveryStopped hphase hended => exact h.publishMediaFailure _
  | recoverRefused generation device token failure hphase hended => exact h.recoverFailed failure _
  | _ => exact h

end Slot

section Reach

variable {display : AddedCastDisplay} {observation : KernelDisplayObservation} {w : Slot}

lemma reach_chronicle (h : slot.Reach (Slot.initial display observation) w)
    (hmax : ∀ s ∈ w.published, s.runtime.revision.toNat < 2 ^ 64 - 1) :
    Chronicle w.snapshot w.published := by
  revert hmax
  refine h.invariant (I := fun w => (∀ s ∈ w.published, s.runtime.revision.toNat < 2 ^ 64 - 1) →
    Chronicle w.snapshot w.published) (fun hmax => ?_) fun _ _ _ hinv hnext =>
    (Slot.steps_of_next hnext).trails.chronicle hinv
  have hsound := initial_sound display observation (hmax _ List.mem_cons_self)
  exact ⟨by simp [Slot.initial], by simpa [Slot.initial] using hsound, by simp [Slot.initial],
    by simpa [Slot.initial] using Follows.refl _⟩

/-- A slot shows the device that it was started with and those that it was given. -/
theorem run_devices {P : DeviceInfo → Prop} {inputs : List Input}
    (h : slot.run (Slot.initial display observation) inputs = some w) (hdisplay : P display.device)
    (hinputs : ∀ device, .updateDevice device ∈ inputs → P device) :
    ∀ s ∈ w.published, P s.device := by
  let I (done : List Input) (w : Slot) : Prop :=
    (∀ device, .updateDevice device ∈ done → P device) →
      P w.snapshot.device ∧ ∀ s ∈ w.published, P s.device
  have hinitial : I [] (Slot.initial display observation) := fun _ =>
    ⟨hdisplay, by simpa [Slot.initial, AddedCastDisplaySnapshot.initial]⟩
  have hstep (done : List Input) (w : Slot) (i : Input) (w' : Slot) (hinv : I done w)
      (hnext : slot.next w i = some w') : I (done ++ [i]) w' := by
    intro hdone
    refine (Slot.steps_of_next hnext).trails.devices (fun device hdevice => hdone device ?_)
      (hinv fun device hdevice => hdone device (by simp [hdevice]))
    simp [hdevice]
  exact (Machine.run_invariant_inputs hstep hinitial h hinputs).2

end Reach

end Pronk.CastDisplay
