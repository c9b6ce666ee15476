import Pronk.CastDisplay.Revisions
import Pronk.Dbus.Display
import Pronk.Manager.Replay

/-!
# What clients see of a display

The projections of a snapshot to the public records. Clients drop a state whose revision
is not newer than the last one they have seen, so what a snapshot shows may change only
together with its revision.
-/
namespace Pronk.CastDisplay
open Dbus Media Transition Manager
open MediaSession (boundedText boundedText_spec startedStates)

def publicAttachmentState : AttachmentState → DisplayAttachmentState
  | .Attached => .Attached
  | .Detached => .Detached
  | .Unknown => .Unknown

def publicMode (mode : RoutedMode) : RoutedDisplayMode :=
  ⟨mode.width, mode.height, mode.refreshMillihz, mode.flags⟩

/-- The mode of the route is one that clients accept. -/
def RouteState.withinBounds : RouteState → Bool
  | .Disabled => true
  | .Active route => (publicMode route.mode).isValid

/-- The state that the public bus shows. -/
def publicDisplayState (display : AddedCastDisplaySnapshot) : CastDisplayState where
  revision := display.stateRevision
  device := display.device
  attachmentState := publicAttachmentState display.runtime.attachment
  routeState := match display.runtime.route with
    | .Disabled => .Disabled
    | .Active _ => .Active
  routedMode := match display.runtime.route with
    | .Disabled => none
    | .Active route => some (publicMode route.mode)

def MISSING_DIAGNOSTIC : String := "media session failed without diagnostic detail"

def publicMediaError (error : Option String) : String :=
  let chars := (error.getD MISSING_DIAGNOSTIC).toList.map fun c => if isControl c then ' ' else c
  if trim chars = [] then MISSING_DIAGNOSTIC
  else boundedText (String.ofList (trim chars)) MAX_MEDIA_ERROR_BYTES

def publicPhase : MediaState → MediaSessionPhase
  | .Idle => .Inactive
  | .StartingCapture => .Starting
  | .StartingMedia => .Starting
  | .Running => .Running
  | .Suspended => .Suspended
  | .Reconfiguring => .Recovering
  | .Reconnecting => .Recovering
  | .Stopping => .Stopping
  | .Failed => .Failed

/-- The media state that the public bus shows. -/
def publicMediaSessionState (display : AddedCastDisplaySnapshot) : MediaSessionState where
  revision := display.stateRevision
  phase := publicPhase display.runtime.media
  mediaGeneration := display.runtime.mediaGeneration
  audioEnabled := display.prepared.audioEnabled
  error := if publicPhase display.runtime.media = .Failed then
    publicMediaError display.runtime.lastError else ""

lemma validate_boundedText {field value : String} {limit : ℕ} (hlimit : 4 ≤ limit)
    (hvalue : value ≠ "") (hchars : ∀ c ∈ value.toList, isControl c = false) :
    boundedText value limit ≠ "" ∧ validateText field (boundedText value limit) limit = .ok () := by
  obtain ⟨hsize, hnonempty, hsubset⟩ := boundedText_spec value hlimit
  have hne : boundedText value limit ≠ "" := fun hempty => hvalue (hnonempty hempty)
  have hcontrol : (boundedText value limit).toList.any isControl = false := by
    rw [List.any_eq_false]
    intro c hc
    rw [hchars c (hsubset hc)]
    exact Bool.false_ne_true
  refine ⟨hne, ?_⟩
  rw [validateText, if_neg hne, if_neg (Nat.not_lt.2 hsize), if_neg (by simp [hcontrol])]

/-- A published diagnostic is a valid text and not empty. -/
theorem publicMediaError_valid (error : Option String) :
    publicMediaError error ≠ "" ∧ validateText "media-session error" (publicMediaError error)
      MAX_MEDIA_ERROR_BYTES = .ok () := by
  unfold publicMediaError
  dsimp only
  split_ifs with hempty
  · decide +kernel
  · refine validate_boundedText (by decide) (mt String.ofList_eq_empty_iff.1 hempty) fun c hc => ?_
    rw [String.toList_ofList] at hc
    obtain ⟨c', -, rfl⟩ := List.mem_map.1 (trim_subset _ hc)
    cases hcontrol : isControl c' with
    | true => rfl
    | false => simpa using hcontrol

lemma publicPhase_started {media : MediaState} (h : publicPhase media = .Starting ∨
    publicPhase media = .Running ∨ publicPhase media = .Suspended) : media ∈ startedStates := by
  cases media <;> simp_all [publicPhase, startedStates]

open AddedCastDisplaySnapshot

lemma stateRevision_ne_zero {s : AddedCastDisplaySnapshot} (h : s.Sound) :
    s.stateRevision ≠ 0 := by
  have hlt := h.runtime.generation
  rw [h.revision]
  intro hzero
  simp [hzero] at hlt

lemma publicMediaSessionState_valid {s : AddedCastDisplaySnapshot} (h : s.Sound) :
    (publicMediaSessionState s).validate = .ok () := by
  have hrevision := stateRevision_ne_zero h
  have hgeneration : ¬ (s.runtime.mediaGeneration = 0 ∧ (publicPhase s.runtime.media = .Starting ∨
      publicPhase s.runtime.media = .Running ∨ publicPhase s.runtime.media = .Suspended)) :=
    fun hzero => h.runtime.numbered hzero.1 (publicPhase_started hzero.2)
  obtain ⟨hne, hvalid⟩ := publicMediaError_valid s.runtime.lastError
  by_cases hfailed : publicPhase s.runtime.media = .Failed
  · simp [MediaSessionState.validate, publicMediaSessionState, validateNonzero, hrevision,
      validateOptionalText, hfailed, hne, hvalid]
  · simp [MediaSessionState.validate, publicMediaSessionState, validateNonzero, hrevision,
      validateOptionalText, hfailed, hgeneration]

/-- A device record that is valid on its own is valid in the state of its display. -/
theorem publicDisplayState_valid {s : AddedCastDisplaySnapshot} (h : s.Sound)
    (hdevice : s.device.validate = .ok ())
    (hmode : s.runtime.route.withinBounds = true) : (publicDisplayState s).validate = .ok () := by
  have hrevision := stateRevision_ne_zero h
  have hcurrent : ¬ s.stateRevision < s.device.deviceRevision := by
    rw [UInt64.lt_iff_toNat_lt, h.revision]
    exact Nat.not_lt.2 h.device
  have hattached : ∀ route, s.runtime.route = .Active route → s.runtime.attachment = .Attached := by
    intro route hroute
    by_contra hdetached
    cases hroute.symm.trans (h.runtime.detached hdetached)
  cases hroute : s.runtime.route with
  | Disabled =>
    simp [CastDisplayState.validate, publicDisplayState, validateNonzero, hrevision, hdevice,
      hcurrent, hroute]
  | Active route =>
    have hvalid : (publicMode route.mode).isValid = true := by
      rwa [hroute] at hmode
    simp [CastDisplayState.validate, publicDisplayState, validateNonzero, hrevision, hdevice,
      hcurrent, hroute, hvalid, hattached route hroute, publicAttachmentState]

/-- The public states of a snapshot differ from those of another, revisions apart. -/
def ShowsOther (a b : AddedCastDisplaySnapshot) : Prop :=
  { publicDisplayState a with revision := b.stateRevision } ≠ publicDisplayState b ∨
  { publicMediaSessionState a with revision := b.stateRevision } ≠ publicMediaSessionState b

lemma lt_of_showsOther {a b : AddedCastDisplaySnapshot} (ha : a.Sound) (hb : b.Sound)
    (hfollows : a.Follows b) (hother : ShowsOther a b) : a.stateRevision < b.stateRevision := by
  rw [UInt64.lt_iff_toNat_lt, ha.revision, hb.revision]
  refine Nat.lt_of_le_of_ne hfollows.runtime.revision fun heq => ?_
  have hruntime := hfollows.runtime.same heq
  have hdevice := hfollows.device heq
  rcases hother with hother | hother
  · exact hother (by simp [publicDisplayState, hruntime, hdevice])
  · exact hother (by simp [publicMediaSessionState, hruntime, hfollows.prepared])

/-- In every run whose published revisions stay below the largest one: the revision of a
snapshot is that of its runtime state and does not decrease; a snapshot that shows something
else than an earlier one has a larger revision; the route generation identifies the route; a
display that is not attached has no route; and the public states are valid, as long as the
manager supplies the devices and the route of the kernel is within the public bounds. -/
theorem public_state_revisions {display : AddedCastDisplay} {observation : KernelDisplayObservation}
    {inputs : List Input} {w : Slot}
    (h : slot.run (Slot.initial display observation) inputs = some w)
    (hmax : ∀ s ∈ w.published, s.runtime.revision.toNat < 2 ^ 64 - 1) :
    (w.published.Pairwise fun a b => a.stateRevision ≤ b.stateRevision ∧
      (ShowsOther a b → a.stateRevision < b.stateRevision) ∧
      (a.runtime.routeGeneration = b.runtime.routeGeneration → a.runtime.route = b.runtime.route)) ∧
    (∀ s ∈ w.published, s.stateRevision = s.runtime.revision ∧
      (s.runtime.attachment ≠ .Attached → s.runtime.route = .Disabled) ∧
      (publicMediaSessionState s).validate = .ok ()) ∧
    (Configured display.device →
      (∀ device, .updateDevice device ∈ inputs → Configured device) →
      ∀ s ∈ w.published, s.runtime.route.withinBounds = true →
        (publicDisplayState s).validate = .ok ()) := by
  have hchronicle := reach_chronicle ⟨inputs, h⟩ hmax
  refine ⟨?_, fun s hs => ?_, fun hdisplay hinputs s hs hmode => ?_⟩
  · refine hchronicle.ordered.imp_of_mem fun {a b} ha hb hfollows => ?_
    have hsoundA := hchronicle.sound a ha
    have hsoundB := hchronicle.sound b hb
    refine ⟨?_, lt_of_showsOther hsoundA hsoundB hfollows, fun heq => ?_⟩
    · rw [UInt64.le_iff_toNat_le, hsoundA.revision, hsoundB.revision]
      exact hfollows.runtime.revision
    · exact hfollows.runtime.route (congrArg UInt64.toNat heq)
  · have hsound := hchronicle.sound s hs
    exact ⟨hsound.revision, hsound.runtime.detached, publicMediaSessionState_valid hsound⟩
  · have hdevice := run_devices h hdisplay hinputs s hs
    exact publicDisplayState_valid (hchronicle.sound s hs) hdevice.validate hmode

/-- A device of the sample inventory, before and after it is renamed. -/
def hallDevice : DeviceInfo := ⟨"chromecast", "a", "Hall", .Available, 1, 1, 1, []⟩

def loftDevice : DeviceInfo := ⟨"chromecast", "a", "Loft", .Available, 1, 1, 4, []⟩

lemma configured_hallDevice : Configured hallDevice := by
  have hlisted : ∃ h, aggregate.Reach {} h ∧
      h.inventory.resolveDevice (.fromDevice hallDevice) = .ok hallDevice :=
    Machine.exists_reach (reconnectInputs.take 2) (by decide +kernel)
  obtain ⟨h, hreach, hselected⟩ := hlisted
  exact .selected hreach hselected

lemma configured_loftDevice : Configured loftDevice := by
  have hlisted : ∃ h, aggregate.Reach {} h ∧ .DeviceChanged 4 loftDevice ∈ h.events :=
    Machine.exists_reach reconnectInputs (by decide +kernel)
  obtain ⟨h, hreach, hevent⟩ := hlisted
  exact .updated hreach configured_hallDevice hevent (by decide)

/-- The device is renamed and then the kernel reports a route. -/
theorem public_state_revisions_renamed :
    ∃ w, slot.Reach (Slot.initial (.new ⟨hallDevice, true⟩ hallDevice 1)
        ⟨⟨.Attached, none⟩, .Active⟩) w ∧
      w.published.map AddedCastDisplaySnapshot.stateRevision = [1, 4, 5] ∧
      ∀ s ∈ w.published, (publicDisplayState s).validate = .ok () := by
  let inputs : List Input := [.updateDevice loftDevice,
    .kernel (.ok (.Changed ⟨⟨.Attached, some ⟨⟨3⟩, ⟨1920, 1080, 60000, 0⟩⟩⟩, .Active⟩))]
  have hrun : ∃ w, slot.run (Slot.initial (.new ⟨hallDevice, true⟩ hallDevice 1)
        ⟨⟨.Attached, none⟩, .Active⟩) inputs = some w ∧
      w.published.map AddedCastDisplaySnapshot.stateRevision = [1, 4, 5] ∧
      (∀ s ∈ w.published, s.runtime.revision.toNat < 2 ^ 64 - 1) ∧
      ∀ s ∈ w.published, s.runtime.route.withinBounds = true :=
    ⟨_, rfl, by decide +kernel, by decide +kernel, by decide +kernel⟩
  obtain ⟨w, hw, hrevisions, hmax, hmodes⟩ := hrun
  refine ⟨w, ⟨inputs, hw⟩, hrevisions, fun s hs => ?_⟩
  refine (public_state_revisions hw hmax).2.2 configured_hallDevice ?_ s hs (hmodes s hs)
  intro device hdevice
  obtain rfl : device = loftDevice := by simpa [inputs] using hdevice
  exact configured_loftDevice

end Pronk.CastDisplay
