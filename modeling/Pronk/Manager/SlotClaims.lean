import Pronk.Manager.Removal
import Pronk.Manager.Slots

/-!
# Claims of the pool and owners of the targets

A claim of the pool belongs to a slot that is held or to a release that has not been
received. As long as no display gives up its target before its release was received, and
no request of a setup that lost its target is answered, every such slot and release
belongs to the owner of its target. A target without an owner then has no claim, and a
new setup finds its device free.
-/
namespace Pronk.Manager
open Dbus OutputSlot Transition OutputSlotPool

namespace ManagerState

/-- The display that gives up its target with the input. -/
def leaving (s : ManagerState) : Input → Option CastDisplayId
  | .joinSetup id (.completed true) =>
    if (s.setupTasks.lookup id).bind (·.result) = some .added then none else some id
  | .joinSetup id _ => some id
  | .joinRemoval id _ => some id
  | .slotEvent (.TerminalFailure id) => if id ∈ s.displays then some id else none
  | _ => none

variable {s s' : ManagerState} {i : Input}

/-- A target gets its owner from a start and loses it to the display that leaves. -/
lemma Steps.owners (hs' : s.Steps i s') :
    s'.targetOwners = s.targetOwners ∨
    (∃ selection id, i = .command (.StartDisplaySetup selection (.ok id)) ∧
      s.targetOwners.lookup (.ofSelection selection) = none ∧
      s'.targetOwners = s.targetOwners.insert (.ofSelection selection) id) ∨
    ∃ target, ∃ id ∈ s.leaving i,
      s'.targetOwners = releaseTargetOwner s.targetOwners target id := by
  cases hs' with
  | install howner => exact .inr (.inl ⟨_, _, rfl, howner, rfl⟩)
  | @ended id _ _ _ spawned htask hresult _ hended =>
    refine .inr (.inr ⟨_, id, ?_, rfl⟩)
    cases spawned with
    | false => rfl
    | true => simpa [leaving, htask, hresult] using hended
  | aborted => exact .inr (.inr ⟨_, _, rfl, rfl⟩)
  | @removed id target => exact .inr (.inr ⟨target, id, rfl, by grind⟩)
  | failed _ hdisplay => exact .inr (.inr ⟨_, _, if_pos (by grind), rfl⟩)
  | _ => exact .inl (by grind)

end ManagerState

/-- The device that a request is for. -/
def SlotRequest.device (request : SlotRequest) : DeviceKey :=
  ⟨request.selection.backendId, request.selection.deviceId⟩

namespace SlotState

/-- The owner of the target of a device. -/
def owner (s : SlotState) (device : DeviceKey) : Option CastDisplayId :=
  s.lifecycle.targetOwners.lookup (.ofKey device)

/-- A display leaves its target after it dropped its slot and after the loop received the
release, and a request is answered while its setup owns the target. -/
def Orderly (s : SlotState) : SlotInput → Prop
  | .reserve => ∀ request ∈ s.requests.head?,
    s.lifecycle.targetOwners.lookup (.ofSelection request.selection) = some request.displayId
  | .lifecycle input => s.lifecycle.closing = false → ∀ id ∈ s.lifecycle.leaving input,
    (s.phases.lookup id).any (·.isReserved) = false ∧
      ∀ release ∈ s.releases, s.owner release.device ≠ some id
  | _ => True

instance decidableOrderly (s : SlotState) (i : SlotInput) : Decidable (s.Orderly i) := by
  unfold Orderly
  split <;> infer_instance

/-- The release of a slot that is held or that is on its way. -/
def Outstanding (s : SlotState) (release : OutputReservationRelease) : Prop :=
  release ∈ s.releases ∨
    ∃ id r, s.phases.lookup id = some (.reserved r) ∧ release = r.release

/-- A setup asks once. A slot belongs to the owner of its target, and the release of one
to an owner that will not ask for another. -/
structure Sound (s : SlotState) : Prop where
  owned : s.lifecycle.Owned
  consistent : s.devices.inventory.Consistent s.devices.events
  paired : Pairing.Mutual s.pool.claimant s.pool.outputOf
  known : ∀ id ∈ s.phases, id ∈ s.lifecycle.setups
  asked : ∀ request ∈ s.requests, s.phases.lookup request.displayId = some .awaiting ∨
    s.phases.lookup request.displayId = some .dropped
  once : (s.requests.map (·.displayId)).Nodup
  claimed : ∀ output claim, s.pool.claims.lookup output = some claim →
    s.Outstanding ⟨claim.token, claim.device, output⟩
  held : ∀ id r, s.phases.lookup id = some (.reserved r) → s.owner r.device = some id
  released : ∀ release ∈ s.releases, ∃ id, s.owner release.device = some id ∧
    s.phases.lookup id = some .dropped ∧ id ∉ s.requests.map (·.displayId)

variable {s : SlotState} {id : CastDisplayId}

attribute [local grind cases eager] Sound
attribute [local grind] Outstanding SlotPhase.isReserved owner
attribute [local grind =] OutputReservation.release claim

/-- A request fails and changes nothing, or claims a free output for its device. -/
lemma reserveDisplaySlot_cases (hc : s.devices.inventory.Consistent s.devices.events)
    (request : SlotRequest) :
    (∃ error, s.reserveDisplaySlot request = (.error error, s.pool) ∧
      ∀ backendId deviceId, error = .Output (.DeviceAlreadyClaimed backendId deviceId) →
        (s.pool.outputOf request.device).isSome) ∨
    ∃ token selected, s.pool.devices.lookup request.device = none ∧
      s.pool.claims.lookup selected.id = none ∧
      s.reserveDisplaySlot request = (.ok ⟨token, request.device, selected⟩,
        s.pool.claim token request.device selected) := by
  unfold reserveDisplaySlot
  cases hresolve : s.devices.inventory.resolveDevice request.selection with
  | error error => exact .inl ⟨.Device error, rfl, nofun⟩
  | ok device =>
    have hlookup := (AggregateInventory.resolveDevice_ok hresolve).1
    have hdevice : DeviceKey.fromDevice device = request.device := by
      obtain ⟨_, -, -, hidentity, -⟩ := hc.recorded.last hlookup
      obtain ⟨hbackend, hid⟩ := Prod.mk.inj hidentity
      simp [DeviceKey.fromDevice, SlotRequest.device, hbackend, hid]
    dsimp only
    split_ifs
    · rcases s.pool.reserve_cases device request.outputs request.preferredOutput with
        ⟨error, heq⟩ | ⟨token, selected, hfree, hselect, -, heq⟩
      · refine .inl ⟨.Output error, by simp [heq, Except.mapError], fun _ _ herror => ?_⟩
        obtain rfl := ReserveDisplaySlotError.Output.inj herror
        rw [← hdevice]
        exact claimed_of_reserve (congrArg Prod.fst heq)
      · rw [hdevice] at hfree heq
        exact .inr ⟨token, selected, hfree, (select_spec hselect).2.1.2,
          by simp [heq, Except.mapError]⟩
    · exact .inl ⟨_, rfl, nofun⟩

lemma Outstanding.mono {s' : SlotState} {release : OutputReservationRelease}
    (h : s.Outstanding release) (hreleases : ∀ x ∈ s.releases, s'.Outstanding x)
    (hheld : ∀ id r, s.phases.lookup id = some (.reserved r) → s'.Outstanding r.release) :
    s'.Outstanding release := by
  grind

namespace Sound

lemma initial (workers : List String) : Sound { workers } where
  owned := .initial
  consistent := ⟨.initial,
    show ({} : AggregateInventory).deviceCount ≤ MAX_PUBLIC_DEVICES by decide⟩
  paired := by simp [Pairing.Mutual, claimant, outputOf]
  known := nofun
  asked := nofun
  once := List.nodup_nil
  claimed := by simp
  held := by simp
  released := nofun

lemma advance (h : s.Sound) {phase phase' : SlotPhase} {requests : List SlotRequest}
    (hphase : s.phases.lookup id = some phase) (hopen : phase ≠ .dropped)
    (hheld : phase.isReserved = false) (hnext : phase' = .awaiting ∨ phase' = .dropped)
    (hrequests : ∀ request ∈ requests, request.displayId = id ∨ request ∈ s.requests)
    (honce : (requests.map (·.displayId)).Nodup) :
    Sound { s with phases := s.phases.insert id phase', requests } := by
  refine { h with
    known := by grind
    asked := by grind
    once := honce
    claimed := fun output claim hclaim => ?_
    held := by grind
    released := by grind }
  refine (h.claimed output claim hclaim).mono (fun _ hmem => .inl hmem) fun id' r hid' => ?_
  exact .inr ⟨id', r, by grind, rfl⟩

lemma request (h : s.Sound) {selection : DeviceSelection} {preferred : Option CastKmsOutputId}
    (hphase : s.phases.lookup id = some (.pending selection preferred))
    (outputs : List CastKmsOutput) :
    Sound { s with
      phases := s.phases.insert id .awaiting
      requests := s.requests ++ [⟨id, selection, outputs, preferred⟩] } := by
  apply h.advance hphase (by simp) rfl (.inl rfl)
  · grind
  · have hasked := h.asked
    have honce := h.once
    grind

lemma dropSlot (h : s.Sound) (id : CastDisplayId) : (s.dropSlot id).Sound := by
  unfold SlotState.dropSlot
  split
  · next r hphase =>
    refine { h with
      known := by grind
      asked := by grind
      claimed := fun output claim hclaim => ?_
      held := by grind
      released := by grind }
    refine (h.claimed output claim hclaim).mono (by grind) fun id' r' hid' => ?_
    by_cases hid : id' = id
    · exact .inl (by grind)
    · exact .inr ⟨id', r', by grind, rfl⟩
  · exact h

lemma release (h : s.Sound) {release : OutputReservationRelease}
    {rest : List OutputReservationRelease} (hreleases : s.releases = release :: rest) :
    Sound { s with pool := (s.pool.release release).2, releases := rest } := by
  refine { h with
    paired := mutual_release h.paired release
    claimed := fun output claim hclaim => ?_
    released := fun x hx => h.released x (hreleases ▸ List.mem_cons_of_mem _ hx) }
  obtain ⟨hclaim, hne⟩ := lookup_release.1 hclaim
  rcases h.claimed output claim hclaim with hmem | hheld
  · exact .inl (by grind)
  · exact .inr hheld

/-- A device with an output has an owner, who is not waiting for a slot. -/
lemma owner_of_claimed (h : s.Sound) {device : DeviceKey}
    (hclaimed : (s.pool.outputOf device).isSome) :
    ∃ id, s.owner device = some id ∧ id ∉ s.requests.map (·.displayId) := by
  obtain ⟨output, houtput⟩ := Option.isSome_iff_exists.1 hclaimed
  obtain ⟨claim, hclaim, rfl⟩ := Option.map_eq_some_iff.1 ((h.paired output device).2 houtput)
  rcases h.claimed output claim hclaim with hmem | ⟨id, r, hphase, hrelease⟩
  · obtain ⟨id, howner, -, hsilent⟩ := h.released _ hmem
    exact ⟨id, howner, hsilent⟩
  · exact ⟨id, by grind, by grind⟩

section Answer

variable {request : SlotRequest} {rest : List SlotRequest} {token : UInt64}
  {selected : CastKmsOutput}

lemma forget (h : s.Sound) (hrequests : s.requests = request :: rest) :
    Sound { s with requests := rest } := by
  refine { h with asked := ?_, once := ?_, released := ?_ } <;> grind

lemma grant (h : s.Sound) (hphase : s.phases.lookup id = some .awaiting)
    (hsilent : id ∉ s.requests.map (·.displayId)) {device : DeviceKey}
    (howner : s.owner device = some id) (hdevice : s.pool.devices.lookup device = none)
    (houtput : s.pool.claims.lookup selected.id = none) :
    Sound { s with
      pool := s.pool.claim token device selected
      phases := s.phases.insert id (.reserved ⟨token, device, selected⟩) } := by
  refine { h with
    paired := mutual_claim h.paired hdevice houtput token
    known := by grind
    asked := by grind
    claimed := fun output claim hclaim => ?_
    held := by grind
    released := by grind }
  by_cases hid : output = selected.id
  · exact .inr ⟨id, ⟨token, device, selected⟩, by grind, by grind⟩
  · refine (h.claimed output claim (by grind)).mono (fun _ hx => .inl hx) fun id' r hid' => ?_
    exact .inr ⟨id', r, by grind, rfl⟩

lemma discard (h : s.Sound) (hphase : s.phases.lookup id = some .dropped)
    (hsilent : id ∉ s.requests.map (·.displayId)) {device : DeviceKey}
    (howner : s.owner device = some id) (hdevice : s.pool.devices.lookup device = none)
    (houtput : s.pool.claims.lookup selected.id = none) :
    Sound { s with
      pool := s.pool.claim token device selected
      releases := s.releases ++ [⟨token, device, selected.id⟩] } := by
  refine { h with
    paired := mutual_claim h.paired hdevice houtput token
    claimed := fun output claim hclaim => ?_
    released := by grind }
  by_cases hid : output = selected.id
  · exact .inl (by grind)
  · exact (h.claimed output claim (by grind)).mono (by grind)
      fun id' r hid' => .inr ⟨id', r, hid', rfl⟩

lemma answer (h : s.Sound) (hrequests : s.requests = request :: rest)
    (howner : s.owner request.device = some request.displayId) :
    (SlotState.answer { s with requests := rest } request).Sound := by
  have hrest := h.forget hrequests
  have honce := h.once
  rw [hrequests] at honce
  have hsilent : request.displayId ∉ rest.map (·.displayId) := (List.nodup_cons.1 honce).1
  have hasked := h.asked request (hrequests ▸ List.mem_cons_self)
  unfold SlotState.answer
  rcases reserveDisplaySlot_cases hrest.consistent request with
    ⟨error, heq, -⟩ | ⟨token, selected, hdevice, houtput, heq⟩
  · rcases hasked with hphase | hphase
    · simp only [heq, hphase]
      exact { hrest.advance hphase (by simp) rfl (.inr rfl) (fun _ hx => .inr hx) hrest.once with }
    · simp only [heq, hphase]
      exact { hrest with }
  · rcases hasked with hphase | hphase
    · simp only [heq, hphase]
      exact { hrest.grant hphase hsilent howner hdevice houtput with }
    · simp only [heq, hphase]
      exact { hrest.discard hphase hsilent howner hdevice houtput with }

end Answer

section Lifecycle

variable {lifecycle : ManagerState}

lemma move (h : s.Sound) (howned : lifecycle.Owned)
    (hknown : ∀ id ∈ s.lifecycle.setups, id ∈ lifecycle.setups)
    (howner : ∀ release id, s.Outstanding release → s.owner release.device = some id →
      lifecycle.targetOwners.lookup (.ofKey release.device) = some id) :
    Sound { s with lifecycle } := by
  refine { h with
    owned := howned
    known := fun id hid => hknown id (h.known id hid)
    held := fun id r hid => ?_
    released := fun release hrelease => ?_ }
  · exact howner r.release id (.inr ⟨id, r, hid, rfl⟩) (h.held id r hid)
  · obtain ⟨id, hid, hrest⟩ := h.released release hrelease
    exact ⟨id, howner release id (.inl hrelease) hid, hrest⟩

lemma enter (h : s.Sound) (hid : id ∉ s.phases) (hknown : id ∈ s.lifecycle.setups)
    (selection : DeviceSelection) (preferred : Option CastKmsOutputId) :
    Sound { s with phases := s.phases.insert id (.pending selection preferred) } := by
  refine { h with
    known := by grind
    asked := by grind
    claimed := fun output claim hclaim => ?_
    held := by grind
    released := by grind }
  refine (h.claimed output claim hclaim).mono (fun _ hx => .inl hx) fun id' r hid' => ?_
  exact .inr ⟨id', r, by grind, rfl⟩

section Start

variable {selection : DeviceSelection} {spawned : Except DisplaySetupStartError CastDisplayId}

lemma install (h : s.Sound) (hnext : s.lifecycle.next
    (.command (.StartDisplaySetup selection spawned)) = some lifecycle) :
    Sound { s with lifecycle } := by
  have hsteps := ManagerState.steps_of_next hnext
  refine h.move (h.owned.steps hsteps) (fun _ => hsteps.known) fun release id _ hid => ?_
  rcases hsteps.owners with hsame | ⟨_, _, hinput, hnone, howners⟩ | ⟨_, _, hleft, -⟩
  · rw [hsame]
    exact hid
  · cases hinput
    have hne : DeviceTarget.ofKey release.device ≠ .ofSelection selection := by
      intro heq
      rw [owner, heq, hnone] at hid
      cases hid
    rw [howners, AList.lookup_insert_ne hne]
    exact hid
  · cases hleft

lemma started (h : s.Sound) (hnext : s.lifecycle.next
    (.command (.StartDisplaySetup selection (.ok id))) = some lifecycle)
    (htask : id ∈ lifecycle.setupTasks) (preferred : Option CastKmsOutputId) :
    Sound { s with lifecycle, phases := s.phases.insert id (.pending selection preferred) } := by
  have hinstalled := h.install hnext
  have hfresh : id ∉ s.lifecycle.setups := by
    simp only [ManagerState.next, ManagerState.handleCommand,
      Option.ite_none_left_eq_some] at hnext
    simpa [Except.toOption] using hnext.2.1
  have hknown := (hinstalled.owned.placed id).1 (.inl htask)
  exact hinstalled.enter (fun hid => hfresh (h.known id hid)) hknown selection preferred

end Start

lemma handle (h : s.Sound) {i : Input} (hsteps : s.lifecycle.Steps i lifecycle)
    (hstart : s.permits i) (horderly : s.Orderly (.lifecycle i))
    (hopen : s.lifecycle.closing = false) : Sound { s with lifecycle } := by
  refine h.move (h.owned.steps hsteps) (fun _ => hsteps.known) fun release id houtstanding hid => ?_
  rcases hsteps.owners with hsame | ⟨_, _, rfl, -⟩ | ⟨target, id', hleft, howners⟩
  · rw [hsame]
    exact hid
  · cases hstart
  · obtain ⟨hempty, hreceived⟩ := horderly hopen id' hleft
    have hheld := h.held
    grind

end Lifecycle

lemma steps (h : s.Sound) {i : SlotInput} {s' : SlotState} (horderly : s.Orderly i)
    (hopen : s.lifecycle.closing = false) (hs' : s.Steps i s') : s'.Sound := by
  cases hs' with
  | refused hnext => exact h.install hnext
  | started hnext htask => exact h.started hnext htask _
  | request hphase => exact h.request hphase _
  | @reserve request _ _ hrequests =>
    exact h.answer hrequests (horderly request (by simp [hrequests]))
  | abandon hphase hheld hdropped =>
    exact h.advance hphase hdropped hheld (.inr rfl) (fun _ hx => .inr hx) h.once
  | drop => exact h.dropSlot _
  | release hreleases => exact h.release hreleases
  | inventory => exact { h with consistent := InventoryHistory.consistent_next h.consistent _ }
  | lifecycle hpermits hnext =>
    have hmoved := h.handle (ManagerState.steps_of_next hnext) hpermits horderly hopen
    unfold SlotState.joined
    split
    · split_ifs
      · exact hmoved
      · exact hmoved.dropSlot _
    · exact hmoved

end Sound

section Steps

variable {s' : SlotState} {i : SlotInput}

lemma dropSlot_frame (s : SlotState) (id : CastDisplayId) :
    (s.dropSlot id).lifecycle = s.lifecycle ∧ (s.dropSlot id).answers = s.answers := by
  unfold dropSlot
  split <;> exact ⟨rfl, rfl⟩

lemma joined_frame (s : SlotState) (lifecycle : ManagerState) (i : Manager.Input) :
    (s.joined lifecycle i).lifecycle = lifecycle ∧
      (s.joined lifecycle i).answers = s.answers := by
  unfold joined
  split
  · split_ifs
    · exact ⟨rfl, rfl⟩
    · exact dropSlot_frame _ _
  · exact ⟨rfl, rfl⟩

lemma answer_frame (s : SlotState) (request : SlotRequest) :
    (s.answer request).lifecycle = s.lifecycle ∧ (s.answer request).answers =
      s.answers ++ [(request.displayId, (s.reserveDisplaySlot request).1)] := by
  unfold answer
  dsimp only
  split <;> simp_all

lemma Steps.serving (hs' : s.Steps i s') (hopen : s'.lifecycle.closing = false) :
    s.lifecycle.closing = false := by
  cases hs' with
  | refused hnext => exact ((ManagerState.steps_of_next hnext).serving hopen).1
  | started hnext => exact ((ManagerState.steps_of_next hnext).serving hopen).1
  | reserve hopen' => exact hopen'
  | drop => rwa [(dropSlot_frame s _).1] at hopen
  | lifecycle _ hnext =>
    rw [(joined_frame s _ _).1] at hopen
    exact ((ManagerState.steps_of_next hnext).serving hopen).1
  | _ => exact hopen

end Steps

/-- No setup was told that its device is claimed. -/
def Unrefused (s : SlotState) : Prop :=
  ∀ answer ∈ s.answers, ∀ backendId deviceId,
    answer.2 ≠ .error (.Output (.DeviceAlreadyClaimed backendId deviceId))

/-- A setup that owns its target finds its device free. -/
lemma Unrefused.steps (h : s.Unrefused) {s' : SlotState} {i : SlotInput}
    (hsound : s.lifecycle.closing = false → s.Sound) (horderly : s.Orderly i)
    (hs' : s.Steps i s') : s'.Unrefused := by
  cases hs' with
  | @reserve request rest hopen hrequests =>
    intro answer hanswer
    rw [(answer_frame _ _).2] at hanswer
    rcases List.mem_append.1 hanswer with hanswer | hanswer
    · exact h answer hanswer
    · obtain rfl := List.mem_singleton.1 hanswer
      intro backendId deviceId hrefused
      have hs := hsound hopen
      rcases reserveDisplaySlot_cases (s := { s with requests := rest }) hs.consistent request with
        ⟨error, heq, hclaimed⟩ | ⟨_, _, -, -, heq⟩
      · rw [heq] at hrefused
        obtain ⟨id, howner, hsilent⟩ :=
          hs.owner_of_claimed (hclaimed backendId deviceId (Except.error.inj hrefused))
        have hasking := horderly request (by simp [hrequests])
        obtain rfl : id = request.displayId := Option.some.inj (howner.symm.trans hasking)
        exact hsilent (by simp [hrequests])
      · rw [heq] at hrefused
        cases hrefused
  | drop =>
    unfold Unrefused
    rwa [(dropSlot_frame s _).2]
  | lifecycle =>
    unfold Unrefused
    rwa [(joined_frame s _ _).2]
  | _ => exact h

end SlotState

/-- In a run in which every display leaves its target after its slot was released, and every
request is answered while its setup owns the target: a target without an owner has no claim,
and no setup fails because its device is claimed. -/
theorem claims_follow_owners {workers : List String} {s : SlotState}
    (h : (slots.guard SlotState.Orderly).Reach { workers } s) :
    (s.lifecycle.closing = false → ∀ device : DeviceKey,
      s.lifecycle.targetOwners.lookup (.ofKey device) = none →
      s.pool.devices.lookup device = none ∧
        ∀ output claim, s.pool.claims.lookup output = some claim → claim.device ≠ device) ∧
    s.Unrefused := by
  have hinv : (s.lifecycle.closing = false → s.Sound) ∧ s.Unrefused := by
    refine h.invariant (I := fun s => (s.lifecycle.closing = false → s.Sound) ∧ s.Unrefused)
      ⟨fun _ => .initial workers, nofun⟩ fun s i s' hs hnext => ?_
    obtain ⟨horderly, hnext⟩ := Machine.guard_next.1 hnext
    have hsteps := SlotState.steps_of_next hnext
    refine ⟨fun hopen => ?_, hs.2.steps hs.1 horderly hsteps⟩
    have hserving := hsteps.serving hopen
    exact (hs.1 hserving).steps horderly hserving hsteps
  refine ⟨fun hopen device hnone => ?_, hinv.2⟩
  have hsound := hinv.1 hopen
  have hfree : s.pool.outputOf device = none := by
    by_contra hclaimed
    obtain ⟨id, howner, -⟩ := hsound.owner_of_claimed (Option.ne_none_iff_isSome.1 hclaimed)
    rw [SlotState.owner, hnone] at howner
    cases howner
  refine ⟨hfree, fun output claim hclaim hdevice => ?_⟩
  have houtput := (hsound.paired output device).1 (by
    simp [claimant, hclaim, hdevice])
  rw [hfree] at houtput
  cases houtput

def sampleOutput : CastKmsOutput where
  id := ⟨[.RootDir, .Normal "sys", .Normal "castkms"], 0⟩
  nodePath := [.RootDir, .Normal "dev", .Normal "dri", .Normal "card1"]
  deviceMajor := 226
  deviceMinor := 1
  connectorId := 31
  connectorName := "Cast-1"
  connection := .Disconnected

def laterId : CastDisplayId := ⟨8⟩

/-- A display is added and its removal is requested; its actor has dropped the slot. -/
def droppedInputs : List SlotInput :=
  [.inventory (.supervisor "chromecast" (.Connecting 1)),
   .inventory (.supervisor "chromecast" (.Connected 1 ⟨1, 1, [chromecast "living-room" "TV"]⟩)),
   .start sampleSelection none (.ok sampleId), .request sampleId [sampleOutput], .reserve,
   .lifecycle (.settle sampleId .added), .lifecycle (.joinSetup sampleId (.completed true)),
   .lifecycle (.command (.RemoveDisplay sampleId 0)), .drop sampleId]

/-- Another setup of the same device. -/
def againInputs : List SlotInput :=
  [.start sampleSelection none (.ok laterId), .request laterId [sampleOutput], .reserve]

/-- The release is received before the removal is joined. -/
theorem claims_follow_owners_released : ∃ s,
    (slots.guard SlotState.Orderly).Reach { workers := ["chromecast"] } s ∧
    s.lifecycle.closing = false ∧
    .published (.DisplayRemoved sampleId) ∈ s.lifecycle.history ∧
    s.answers.map (·.1) = [sampleId, laterId] ∧ s.Unrefused := by
  obtain ⟨s, hs, hopen, hremoved, hanswers⟩ : ∃ s,
      (slots.guard SlotState.Orderly).run { workers := ["chromecast"] }
        (droppedInputs ++ [.release, .lifecycle (.joinRemoval sampleId (.ok ()))] ++
          againInputs) = some s ∧
      s.lifecycle.closing = false ∧
      .published (.DisplayRemoved sampleId) ∈ s.lifecycle.history ∧
      s.answers.map (·.1) = [sampleId, laterId] :=
    Machine.exists_run (by decide +kernel)
  exact ⟨s, ⟨_, hs⟩, hopen, hremoved, hanswers, (claims_follow_owners ⟨_, hs⟩).2⟩

/-- The removal is joined first: the display is gone and its target has no owner, but the
claim is there, and the next setup of the device is refused. -/
theorem claim_outlives_owner :
    (∃ s, slots.Reach { workers := ["chromecast"] } s ∧ s.lifecycle.closing = false ∧
      .published (.DisplayRemoved sampleId) ∈ s.lifecycle.history ∧
      s.lifecycle.targetOwners.lookup (.ofSelection sampleSelection) = none ∧
      s.pool.devices.lookup ⟨"chromecast", "living-room"⟩ = some sampleOutput.id) ∧
    ∃ s, slots.Reach { workers := ["chromecast"] } s ∧
      s.lifecycle.history = [.startAnswered (.ok sampleId), .published (.DisplayAdded sampleId),
        .removeAnswered 0 sampleId (.ok ()), .published (.DisplayRemoved sampleId),
        .startAnswered (.ok laterId)] ∧
      s.answers.getLast? = some (laterId,
        .error (.Output (.DeviceAlreadyClaimed "chromecast" "living-room"))) := by
  constructor
  · exact Machine.exists_reach
      (droppedInputs ++ [.lifecycle (.joinRemoval sampleId (.ok ()))]) (by decide +kernel)
  · exact Machine.exists_reach
      (droppedInputs ++ [.lifecycle (.joinRemoval sampleId (.ok ()))] ++ againInputs)
      (by decide +kernel)

end Pronk.Manager
