import Pronk.BackendHost.Discovery

/-!
# Discovery under reordering

An honest backend goes through a history of device sets, one step a revision, and sends one
signal for each step. Whatever the order in which the loop polls the three streams, what it
holds and publishes is the device set of the backend at that revision, and once the streams
are empty it is the last one.
-/
namespace Pronk.BackendHost
open BackendProtocol DiscoveryState Std Transition DeviceEvent

/-- The devices of a backend at some revision and the steps that follow, each at the next
revision. Whether a step fits the devices that it meets does not matter here. -/
structure History where
  backendId : String
  (discoveryGeneration baseline : UInt64)
  devices : Devices
  steps : List DeviceEvent
  filed : ∀ key (device : DeviceInfo), devices[key]? = some device → device.identity = key
  consecutive : ∀ k event, steps[k]? = some event →
    event.revision.toNat = baseline.toNat + k + 1
  generation : ∀ event ∈ steps, event.discoveryGeneration = discoveryGeneration
  valid : ∀ event ∈ steps, validateEvent backendId event = .ok ()

namespace History

variable (history : History)

/-- The devices at a revision from the baseline on. -/
def devicesAt (revision : ℕ) : Devices :=
  (history.steps.take (revision - history.baseline.toNat)).foldl effect
    history.devices

def finalRevision : ℕ := history.baseline.toNat + history.steps.length

/-- An honest answer of `ListDevices`, no older than the signals that were delivered. -/
def Lists (signals : List DeviceEvent) (snapshot : DeviceSnapshot) : Prop :=
  snapshot.discoveryGeneration = history.discoveryGeneration ∧
    history.baseline ≤ snapshot.revision ∧ snapshot.revision.toNat ≤ history.finalRevision ∧
    (∀ event ∈ signals, event.revision ≤ snapshot.revision) ∧
    snapshot.devices.Perm ((history.devicesAt snapshot.revision.toNat).toList.map (·.2))

instance (signals : List DeviceEvent) (snapshot : DeviceSnapshot) :
    Decidable (history.Lists signals snapshot) :=
  inferInstanceAs (Decidable (_ ∧ _))

/-- If `ListDevices` returns, it does so honestly. -/
def Honest (s : DiscoveryState) : DiscoveryInput → Prop
  | .start (.returned snapshot) _ => history.Lists [] snapshot
  | .signal kind (.returned snapshot) _ =>
    history.Lists (s.consumed ++ (s.streams kind).head?.toList) snapshot
  | _ => True

instance (s : DiscoveryState) : (input : DiscoveryInput) → Decidable (history.Honest s input)
  | .start (.returned _) _ => inferInstanceAs (Decidable (history.Lists _ _))
  | .signal _ (.returned _) _ => inferInstanceAs (Decidable (history.Lists _ _))
  | .start .failed _ | .start .timedOut _ | .signal _ .failed _ | .signal _ .timedOut _
  | .fatal .. | .undecodable _ | .closed _ | .command => isTrue trivial

/-- The loop over the signals of the history, each in the stream of its kind. -/
def discovery (connectionGeneration : UInt64) : Machine DiscoveryState DiscoveryInput :=
  (runDiscovery history.backendId connectionGeneration history.discoveryGeneration).guard
    history.Honest

def subscribed : DiscoveryState where
  streams kind := history.steps.filter (·.kind = kind)

/-- Every set of devices of the history can be listed. -/
structure Listable : Prop where
  generation : history.discoveryGeneration ≠ 0
  count : ∀ revision, (history.devicesAt revision).size ≤ MAX_DEVICES
  devices : ∀ (key : String × String) (device : DeviceInfo),
    history.devices[key]? = some device →
      device.validate = .ok () ∧ device.backendId = history.backendId

variable {history}

/-- What holds of the devices at first and of the device of every step holds of all devices
of the history. -/
lemma devicesAt_forall {P : String × String → DeviceInfo → Prop}
    (hdevices : ∀ key device, history.devices[key]? = some device → P key device)
    (hsteps : ∀ event ∈ history.steps, ∀ device, event.device? = some device →
      P device.identity device) (revision : ℕ) :
    ∀ key device, (history.devicesAt revision)[key]? = some device → P key device := by
  refine List.foldlRecOn (motive := fun devices => ∀ key device,
    devices[key]? = some device → P key device) _ _ hdevices fun devices ih event hevent => ?_
  exact effect_forall ih (hsteps event (List.mem_of_mem_take hevent))

lemma filed_devicesAt (revision : ℕ) : ∀ key (device : DeviceInfo),
    (history.devicesAt revision)[key]? = some device → device.identity = key :=
  devicesAt_forall history.filed (fun _ _ _ _ => rfl) revision

lemma step_at {event : DeviceEvent} (h : event ∈ history.steps) :
    ∃ k, history.steps[k]? = some event ∧ k < history.steps.length ∧
      event.revision.toNat = history.baseline.toNat + k + 1 := by
  obtain ⟨k, hk⟩ := List.mem_iff_getElem?.1 h
  exact ⟨k, hk, (List.getElem?_eq_some_iff.1 hk).1, history.consecutive k event hk⟩

lemma devicesAt_step {event : DeviceEvent} {revision : ℕ} (h : event ∈ history.steps)
    (hlower : history.baseline.toNat ≤ revision) (hnext : event.revision.toNat = revision + 1) :
    history.devicesAt event.revision.toNat = event.effect (history.devicesAt revision) := by
  obtain ⟨k, hk, -, hrevision⟩ := step_at h
  have hafter : event.revision.toNat - history.baseline.toNat = k + 1 := by omega
  have hbefore : revision - history.baseline.toNat = k := by omega
  simp only [devicesAt, hafter, hbefore, List.take_add_one, hk, Option.toList_some,
    List.foldl_append, List.foldl_cons, List.foldl_nil]

end History

open History

/-- An inventory that is the device set of the backend at its revision. -/
structure Faithful (history : History) (inv : DeviceInventory) : Prop where
  backend : inv.expectedBackendId = history.backendId
  generation : inv.discoveryGeneration = history.discoveryGeneration
  lower : history.baseline.toNat ≤ inv.revision.toNat
  upper : inv.revision.toNat ≤ history.finalRevision
  baseline : inv.baselineRevision ≤ inv.revision
  devices : inv.devices = history.devicesAt inv.revision.toNat

section Fetch

variable {history : History} {signals : List DeviceEvent} {snapshot : DeviceSnapshot}
  {inv : DeviceInventory}

lemma fetchSnapshot_returned (hlists : history.Lists signals snapshot) :
    fetchSnapshot (.returned snapshot) history.backendId history.discoveryGeneration =
      (DeviceInventory.fromSnapshot history.backendId snapshot).mapError .Inventory :=
  if_neg (not_not.2 hlists.1)

lemma faithful_fetchSnapshot (hlists : history.Lists signals snapshot)
    (h : fetchSnapshot (.returned snapshot) history.backendId history.discoveryGeneration =
      .ok inv) :
    Faithful history inv ∧ inv.revision = snapshot.revision := by
  rw [fetchSnapshot_returned hlists] at h
  cases hfrom : DeviceInventory.fromSnapshot history.backendId snapshot with
  | error e => rw [hfrom] at h; cases h
  | ok inv' =>
    rw [hfrom] at h
    cases h
    obtain ⟨_, -, h⟩ := Fallible.bind_eq_ok.1 hfrom
    obtain ⟨devices, hdevices, h⟩ := Fallible.bind_eq_ok.1 h
    cases h
    obtain ⟨hgeneration, hlower, hupper, -, hperm⟩ := hlists
    refine ⟨⟨rfl, hgeneration, UInt64.le_iff_toNat_le.1 hlower, hupper, UInt64.le_refl _, ?_⟩, rfl⟩
    rw [insertDevices_eq hdevices]
    exact OrderedMap.insertValues_eq (filed_devicesAt _) hperm

lemma History.Listable.devicesAt (h : history.Listable) (revision : ℕ) :
    ∀ (key : String × String) (device : DeviceInfo),
      (history.devicesAt revision)[key]? = some device →
        device.validate = .ok () ∧ device.backendId = history.backendId :=
  devicesAt_forall h.devices
    (fun event hin _ => validateEvent_device (history.valid event hin)) revision

/-- An honest answer is accepted, if the devices of the history can be listed. -/
lemma fetchSnapshot_ok (hlistable : history.Listable) (hlists : history.Lists signals snapshot) :
    ∃ inv, fetchSnapshot (.returned snapshot) history.backendId history.discoveryGeneration =
      .ok inv := by
  rw [fetchSnapshot_returned hlists]
  obtain ⟨hgeneration, -, -, -, hperm⟩ := hlists
  have hdevice : ∀ device ∈ snapshot.devices,
      device.validate = .ok () ∧ device.backendId = history.backendId := by
    intro device hin
    obtain ⟨⟨key, device⟩, hentry, rfl⟩ := List.mem_map.1 (hperm.mem_iff.1 hin)
    exact hlistable.devicesAt _ key device (ExtTreeMap.mem_toList_iff_getElem?_eq_some.1 hentry)
  have hlength : snapshot.devices.length ≤ MAX_DEVICES := by
    rw [hperm.length_eq, List.length_map, ExtTreeMap.length_toList]
    exact hlistable.count _
  have hvalidate : snapshot.validate = .ok () :=
    DeviceSnapshot.validate_eq_ok.2 ⟨hgeneration ▸ hlistable.generation, hlength,
      fun device hin => (hdevice device hin).1,
      OrderedMap.nodup_map_key (filed_devicesAt _) hperm⟩
  have hvalid : validateRecord snapshot.validate = .ok () := by
    rw [hvalidate]
    rfl
  simp only [DeviceInventory.fromSnapshot, hvalid, Fallible.ok_bind,
    insertDevices_ok fun device hin => (hdevice device hin).2]
  exact ⟨_, rfl⟩

end Fetch

/-- A snapshot of the device set of the backend at its revision. -/
structure Shows (history : History) (snapshot : DeviceInventorySnapshot) : Prop where
  generation : snapshot.discoveryGeneration = history.discoveryGeneration
  lower : history.baseline.toNat ≤ snapshot.revision.toNat
  upper : snapshot.revision.toNat ≤ history.finalRevision
  devices : snapshot.devices =
    (history.devicesAt snapshot.revision.toNat).toList.map (·.2)

lemma Faithful.shows {history : History} {inv : DeviceInventory} (h : Faithful history inv) :
    Shows history inv.snapshot :=
  ⟨h.generation, h.lower, h.upper, by rw [DeviceInventory.snapshot, h.devices]⟩

/-- Every signal has been consumed or is in the stream of its kind. -/
structure Pending (history : History) (streams : SignalKind → List DeviceEvent)
    (consumed : List DeviceEvent) : Prop where
  sent : ∀ kind, ∀ event ∈ streams kind, event ∈ history.steps
  kept : ∀ event ∈ history.steps, event ∈ consumed ∨ event ∈ streams event.kind

/-- The loop has failed to list the devices. -/
def DiscoveryState.Unlisted (s : DiscoveryState) : Prop :=
  ∃ e, s.exit = some (.failed (.fetch e))

/-- What the loop holds and has published, against the history. -/
structure Tracks (history : History) (s : DiscoveryState) : Prop where
  pending : Pending history s.streams s.consumed
  held : ∀ inv ∈ s.inventory, Faithful history inv
  covered : ¬ s.Unlisted → ∀ inv ∈ s.inventory, ∀ event ∈ s.consumed,
    event.revision ≤ inv.revision
  idle : s.inventory = none → s.published = [] ∧ s.consumed = []
  shown : ∀ snapshot ∈ s.published, Shows history snapshot
  ordered : s.published.Pairwise (·.revision ≤ ·.revision)
  latest : ∀ snapshot ∈ s.published, ∀ inv ∈ s.inventory, snapshot.revision ≤ inv.revision

section Invariant

variable {history : History} {s s' : DiscoveryState} {inv inv' : DeviceInventory}
  {connectionGeneration : UInt64}

variable {rest : List DeviceEvent} {kind : SignalKind} {event : DeviceEvent}

lemma Pending.pop {streams : SignalKind → List DeviceEvent} {consumed : List DeviceEvent}
    (h : Pending history streams consumed) (hstream : streams kind = event :: rest) :
    Pending history (Function.update streams kind rest) (consumed ++ [event]) := by
  obtain ⟨hsent, hkept⟩ := h
  constructor
  · intro kind' e he
    by_cases hkind : kind' = kind <;> grind [Function.update_self, Function.update_of_ne]
  · intro e he
    by_cases hkind : e.kind = kind <;> grind [Function.update_self, Function.update_of_ne]

lemma History.tracks_subscribed (history : History) : Tracks history history.subscribed where
  pending :=
    { sent := fun _ _ h => List.mem_of_mem_filter h
      kept := fun event h => .inr (List.mem_filter.2 ⟨h, by simp⟩) }
  held := nofun
  covered := nofun
  idle _ := ⟨rfl, rfl⟩
  shown := nofun
  ordered := .nil
  latest := nofun

/-- The loop goes on with an inventory that is no older, and may publish it. -/
lemma Tracks.advance (h : Tracks history s) (hpending : Pending history s'.streams s'.consumed)
    (hinventory : s'.inventory = some inv') (hfaithful : Faithful history inv')
    (hnewer : ∀ inv ∈ s.inventory, inv.revision ≤ inv'.revision)
    (hcovered : ¬ s'.Unlisted → ∀ event ∈ s'.consumed, event.revision ≤ inv'.revision)
    (hpublished : s'.published = s.published ∨
      s'.published = s.published ++ [inv'.snapshot]) : Tracks history s' := by
  have hlatest : ∀ snapshot ∈ s.published, snapshot.revision ≤ inv'.revision := by
    intro snapshot hin
    cases hinv : s.inventory with
    | none => simp [(h.idle hinv).1] at hin
    | some inv => exact UInt64.le_trans (h.latest snapshot hin inv hinv) (hnewer inv hinv)
  have hsnapshot : inv'.snapshot.revision = inv'.revision := rfl
  have hshows := hfaithful.shows
  have hshown := h.shown
  have hordered := h.ordered
  refine ⟨hpending, by grind, by grind, by grind, by grind, ?_, ?_⟩
  · rcases hpublished with hsame | hnew
    · exact hsame ▸ hordered
    · grind
  · intro snapshot hin inv hinv
    have hrefl := UInt64.le_refl inv'.revision
    grind

lemma Tracks.ends (h : Tracks history s) (hexit : s.exit = none) (hends : s.Ends s') :
    Tracks history s' := by
  have hlisted : ¬ s.Unlisted := by simp [DiscoveryState.Unlisted, hexit]
  obtain ⟨hstreams, hconsumed, hinventory, hpublished, -⟩ := hends
  obtain ⟨hpending, hheld, hcovered, hidle, hshown, hordered, hlatest⟩ := h
  constructor <;> grind

variable {answer : ListDevices}

lemma fetchSnapshot_answer {expectedBackendId : String} {discoveryGeneration : UInt64}
    (h : fetchSnapshot answer expectedBackendId discoveryGeneration = .ok inv) :
    ∃ snapshot, answer = .returned snapshot := by
  cases answer with
  | returned snapshot => exact ⟨snapshot, rfl⟩
  | failed => cases h
  | timedOut => cases h

variable {received : Bool}

lemma Tracks.start (h : Tracks history s) (hinventory : s.inventory = none)
    (hhonest : history.Honest s (.start answer received)) :
    Tracks history (s.start history.backendId history.discoveryGeneration answer received) := by
  obtain ⟨hpublished, hconsumed⟩ := h.idle hinventory
  unfold DiscoveryState.start
  split
  · exact ⟨h.pending, h.held, by simp [hinventory], h.idle, h.shown, h.ordered, h.latest⟩
  case h_2 inv hfetch =>
    obtain ⟨snapshot, rfl⟩ := fetchSnapshot_answer hfetch
    obtain ⟨hfaithful, -⟩ := faithful_fetchSnapshot hhonest hfetch
    have hadvance {s' : DiscoveryState} (hstreams : s'.streams = s.streams)
        (hsame : s'.consumed = s.consumed) (hinv : s'.inventory = some inv)
        (hpublished : s'.published = s.published ∨ s'.published = s.published ++ [inv.snapshot]) :
        Tracks history s' :=
      h.advance (hstreams ▸ hsame ▸ h.pending) hinv hfaithful (by simp [hinventory])
        (by simp [hsame, hconsumed]) hpublished
    have hsent := (List.append_eq_nil_iff.1 hpublished).2
    split_ifs
    · refine hadvance rfl rfl rfl (.inr ?_)
      rw [hpublished]
      simp [DiscoveryState.published, hsent]
    · exact hadvance rfl rfl rfl (.inl rfl)

/-- A signal is covered, or it leads to the next revision, or the devices are listed again. -/
lemma Tracks.processEvent (h : Tracks history s) (hexit : s.exit = none)
    (hinventory : s.inventory = some inv) (hstream : s.streams kind = event :: rest)
    (hhonest : history.Honest s (.signal kind answer received)) :
    Tracks history ({ s with
        streams := Function.update s.streams kind rest
        consumed := s.consumed ++ [event] }.processEvent history.backendId inv event answer
      received) := by
  have hheld := h.held inv hinventory
  have hcovered := h.covered (by simp [DiscoveryState.Unlisted, hexit]) inv hinventory
  have hin : event ∈ history.steps := h.pending.sent kind event (by simp [hstream])
  have happlied : inv.Applied event (inv.apply event) :=
    DeviceInventory.applied_apply (hheld.backend ▸ history.valid event hin)
      ((history.generation event hin).trans hheld.generation.symm)
  have hadvance {s' : DiscoveryState} {inv' : DeviceInventory}
      (hstreams : s'.streams = Function.update s.streams kind rest)
      (hconsumed : s'.consumed = s.consumed ++ [event]) (hinv : s'.inventory = some inv')
      (hfaithful : Faithful history inv') (hnewer : inv.revision ≤ inv'.revision)
      (hevent : ¬ s'.Unlisted → event.revision ≤ inv'.revision)
      (hpublished : s'.published = s.published ∨
        s'.published = s.published ++ [inv'.snapshot]) : Tracks history s' := by
    refine h.advance (hstreams ▸ hconsumed ▸ h.pending.pop hstream) hinv hfaithful
      (by simpa [hinventory] using hnewer) (fun hlisted e he => ?_) hpublished
    rcases List.mem_append.1 (hconsumed ▸ he) with he | he
    · exact UInt64.le_trans (hcovered e he) hnewer
    · cases List.mem_singleton.1 he
      exact hevent hlisted
  unfold DiscoveryState.processEvent
  generalize inv.apply event = result at happlied
  cases happlied with
  | changed hdevices hnext =>
    obtain ⟨k, -, hk, hrevision⟩ := step_at hin
    have hupper : event.revision.toNat ≤ history.finalRevision := by
      unfold finalRevision
      omega
    have hnewer : inv.revision ≤ event.revision := UInt64.le_iff_toNat_le.2 (by omega)
    refine hadvance notify_streams notify_consumed notify_inventory ?_ hnewer
      (fun _ => UInt64.le_refl _) (published_notify rfl)
    refine ⟨hheld.backend, hheld.generation, Nat.le_trans hheld.lower ?_, hupper, ?_, ?_⟩
    · exact UInt64.le_iff_toNat_le.1 hnewer
    · exact UInt64.le_trans hheld.baseline hnewer
    · rw [devicesAt_step hin hheld.lower hnext, applyDevices_effect hdevices,
        hheld.devices]
  | @ignored outcome hignored hold =>
    have hold' : event.revision ≤ inv.revision :=
      hold.elim (UInt64.le_trans · hheld.baseline) id
    cases outcome with
    | Changed => exact absurd rfl hignored
    | IgnoredCoveredBySnapshot | IgnoredDuplicate =>
      exact hadvance rfl rfl rfl hheld (UInt64.le_refl _) (fun _ => hold') (.inl rfl)
  | rejected e hnew =>
    simp only [DeviceInventory.snapshot, hheld.generation]
    split
    case h_1 replacement hfetch =>
      obtain ⟨snapshot, rfl⟩ := fetchSnapshot_answer hfetch
      obtain ⟨hfaithful, hrevision⟩ := faithful_fetchSnapshot hhonest hfetch
      have hlisted : event.revision ≤ replacement.revision :=
        hrevision ▸ hhonest.2.2.2.1 event (by simp [hstream])
      exact hadvance notify_streams notify_consumed notify_inventory hfaithful
        (UInt64.le_trans hnew hlisted) (fun _ => hlisted) (published_notify rfl)
    case h_2 error hfetch =>
      exact hadvance rfl rfl rfl hheld (UInt64.le_refl _)
        (fun hlisted => absurd ⟨error, rfl⟩ hlisted) (.inl (published_finish rfl))

lemma Tracks.next (h : Tracks history s) {input : DiscoveryInput}
    (hnext : (history.discovery connectionGeneration).next s input = some s') :
    Tracks history s' := by
  obtain ⟨hhonest, hnext⟩ := Machine.guard_next.1 hnext
  obtain ⟨hexit, hsteps⟩ := steps_of_next hnext
  cases hsteps with
  | start hinventory => exact h.start hinventory hhonest
  | signal kind hinventory hstream => exact h.processEvent hexit hinventory hstream hhonest
  | ends hends => exact h.ends hexit hends

lemma exit_start (hlistable : history.Listable) (hexit : s.exit = none)
    {signals : List DeviceEvent} {snapshot : DeviceSnapshot}
    (hlists : history.Lists signals snapshot) (received : Bool) {after : DiscoveryState}
    (hafter : after = s.start history.backendId history.discoveryGeneration (.returned snapshot)
      received) :
    after.inventory.isSome ∧
      (after.exit = none ∨ received = false ∧ after.exit = some .ownerGone) := by
  obtain ⟨inv, hfetch⟩ := fetchSnapshot_ok hlistable hlists
  subst hafter
  simp only [DiscoveryState.start, hfetch]
  cases received with
  | true => exact ⟨rfl, .inl hexit⟩
  | false => exact ⟨rfl, .inr ⟨rfl, rfl⟩⟩

/-- If the devices can be listed, a signal ends the loop only for want of a receiver. -/
lemma Tracks.exit_processEvent (h : Tracks history s) (hlistable : history.Listable)
    (hexit : s.exit = none) (hinventory : s.inventory = some inv)
    (hstream : s.streams kind = event :: rest) {snapshot : DeviceSnapshot}
    (hhonest : history.Honest s (.signal kind (.returned snapshot) received))
    {after : DiscoveryState} (hafter : after = { s with
      streams := Function.update s.streams kind rest
      consumed := s.consumed ++ [event] }.processEvent history.backendId inv event
        (.returned snapshot) received) :
    after.exit = none ∨ received = false ∧ after.exit = some .ownerGone := by
  have hheld := h.held inv hinventory
  have hin : event ∈ history.steps := h.pending.sent kind event (by simp [hstream])
  have happlied : inv.Applied event (inv.apply event) :=
    DeviceInventory.applied_apply (hheld.backend ▸ history.valid event hin)
      ((history.generation event hin).trans hheld.generation.symm)
  obtain ⟨replacement, hfetch⟩ := fetchSnapshot_ok hlistable hhonest
  have hnotify {s' : DiscoveryState} {notification : DiscoveryNotification}
      (hs' : s'.exit = none) : (s'.notify notification received).exit = none ∨
        received = false ∧ (s'.notify notification received).exit = some .ownerGone := by
    cases received <;> simp [hs']
  subst hafter
  unfold DiscoveryState.processEvent
  generalize inv.apply event = result at happlied
  cases happlied with
  | changed => exact hnotify hexit
  | @ignored outcome hignored _ =>
    cases outcome with
    | Changed => exact absurd rfl hignored
    | IgnoredCoveredBySnapshot | IgnoredDuplicate => exact .inl hexit
  | rejected e =>
    simp only [DeviceInventory.snapshot, hheld.generation, hfetch]
    exact hnotify hexit

lemma Tracks.listed_next (h : Tracks history s) (hlistable : history.Listable)
    {input : DiscoveryInput} (hanswered : input.answered)
    (hnext : (history.discovery connectionGeneration).next s input = some s') :
    ¬ s'.Unlisted := by
  obtain ⟨hhonest, hnext⟩ := Machine.guard_next.1 hnext
  obtain ⟨hexit, hsteps⟩ := steps_of_next hnext
  rintro ⟨e, hfailed⟩
  have hended {received : Bool}
      (h : s'.exit = none ∨ received = false ∧ s'.exit = some .ownerGone) : False := by
    rcases h with h | ⟨-, h⟩ <;>
      · rw [h] at hfailed
        cases hfailed
  cases hsteps with
  | start hinventory answer received =>
    cases answer with
    | returned snapshot => exact hended (exit_start hlistable hexit hhonest received rfl).2
    | failed | timedOut => cases hanswered
  | signal kind hinventory hstream answer received =>
    cases answer with
    | returned snapshot =>
      exact hended (h.exit_processEvent hlistable hexit hinventory hstream hhonest rfl)
    | failed | timedOut => cases hanswered
  | ends hends => exact hends.listed e hfailed

/-- Once the streams are empty, nothing is newer than the inventory. -/
lemma Tracks.final (h : Tracks history s) (hlisted : ¬ s.Unlisted)
    (hstreams : ∀ kind, s.streams kind = []) (hinventory : s.inventory = some inv) :
    inv.revision.toNat = history.finalRevision := by
  have hheld := h.held inv hinventory
  refine Nat.le_antisymm hheld.upper ?_
  cases hlast : history.steps.getLast? with
  | none =>
    have hnil := List.getLast?_eq_none_iff.1 hlast
    simpa [finalRevision, hnil] using hheld.lower
  | some event =>
    have hin : event ∈ history.steps := List.mem_of_getLast? hlast
    have hconsumed : event ∈ s.consumed := by simpa [hstreams] using h.pending.kept event hin
    have hcovered := h.covered hlisted inv hinventory event hconsumed
    have hrevision := history.consecutive _ event (List.getLast?_eq_getElem? ▸ hlast)
    have hlength := List.length_pos_of_mem hin
    have hle := UInt64.le_iff_toNat_le.1 hcovered
    unfold finalRevision
    omega

end Invariant

lemma History.devicesAt_final (history : History) :
    history.devicesAt history.finalRevision =
      history.steps.foldl effect history.devices := by
  simp [devicesAt, finalRevision]

/-- The loop tracks the history, and lists the devices whenever `ListDevices` returns. -/
lemma tracks_run {history : History} {connectionGeneration : UInt64}
    {inputs : List DiscoveryInput} {s : DiscoveryState}
    (hrun : (history.discovery connectionGeneration).run history.subscribed inputs = some s) :
    Tracks history s ∧
      (history.Listable → (∀ input ∈ inputs, input.answered) → ¬ s.Unlisted) := by
  let I (done : List DiscoveryInput) (s : DiscoveryState) : Prop := Tracks history s ∧
    (history.Listable → (∀ input ∈ done, input.answered) → ¬ s.Unlisted)
  have hstep : ∀ done s i s', I done s →
      (history.discovery connectionGeneration).next s i = some s' → I (done ++ [i]) s' := by
    rintro done s i s' ⟨htracks, -⟩ hnext
    exact ⟨htracks.next hnext, fun hlistable hanswered =>
      htracks.listed_next hlistable (hanswered i (by simp)) hnext⟩
  have hfirst : I [] history.subscribed :=
    ⟨history.tracks_subscribed, fun _ _ ⟨_, h⟩ => nomatch h⟩
  exact Machine.run_invariant_inputs hstep hfirst hrun

/-- What the loop keeps and publishes is a state of the history, never an older one after a newer,
and once all signals are read it is the last state. -/
theorem discovery_converges (history : History) (connectionGeneration : UInt64)
    {inputs : List DiscoveryInput} {s : DiscoveryState}
    (hrun : (history.discovery connectionGeneration).run history.subscribed inputs = some s) :
    (∀ inv ∈ s.inventory, history.baseline.toNat ≤ inv.revision.toNat ∧
      inv.revision.toNat ≤ history.finalRevision ∧
      inv.devices = history.devicesAt inv.revision.toNat) ∧
    (∀ snapshot ∈ s.published, history.baseline.toNat ≤ snapshot.revision.toNat ∧
      snapshot.revision.toNat ≤ history.finalRevision ∧
      snapshot.devices = (history.devicesAt snapshot.revision.toNat).toList.map (·.2)) ∧
    s.published.Pairwise (·.revision ≤ ·.revision) ∧
    (history.Listable → (∀ input ∈ inputs, input.answered) →
      (∀ kind, s.streams kind = []) → ∀ inv ∈ s.inventory,
        inv.revision.toNat = history.finalRevision ∧
        inv.devices = history.steps.foldl effect history.devices) ∧
    (history.Listable → s.exit = none → s.inventory = none → ∀ snapshot,
      history.Lists [] snapshot → ∃ s',
        (history.discovery connectionGeneration).next s (.start (.returned snapshot) true) =
          some s' ∧ s'.exit = none ∧ s'.inventory.isSome) ∧
    (history.Listable → s.exit = none → s.inventory.isSome → ∀ kind event rest snapshot,
      s.streams kind = event :: rest → history.Lists (s.consumed ++ [event]) snapshot → ∃ s',
        (history.discovery connectionGeneration).next s (.signal kind (.returned snapshot) true) =
          some s' ∧ s'.exit = none ∧ s'.streams = Function.update s.streams kind rest) := by
  obtain ⟨htracks, hlisted⟩ := tracks_run hrun
  refine ⟨fun inv hinv => ?_, fun snapshot hin => ?_, htracks.ordered, ?_, ?_, ?_⟩
  · have hheld := htracks.held inv hinv
    exact ⟨hheld.lower, hheld.upper, hheld.devices⟩
  · have hshown := htracks.shown snapshot hin
    exact ⟨hshown.lower, hshown.upper, hshown.devices⟩
  · intro hlistable hanswered hstreams inv hinv
    have hfinal := htracks.final (hlisted hlistable hanswered) hstreams hinv
    exact ⟨hfinal, by rw [(htracks.held inv hinv).devices, hfinal, history.devicesAt_final]⟩
  · intro hlistable hexit hinventory snapshot hlists
    obtain ⟨hsome, hnone | ⟨h, -⟩⟩ := exit_start hlistable hexit hlists true rfl
    · refine ⟨_, Machine.guard_next.2 ⟨hlists, ?_⟩, hnone, hsome⟩
      simp [runDiscovery, hexit, hinventory]
    · cases h
  · intro hlistable hexit hinventory kind event rest snapshot hstream hlists
    obtain ⟨inv, hinventory⟩ := Option.isSome_iff_exists.1 hinventory
    have hhonest : history.Honest s (.signal kind (.returned snapshot) true) := by
      simpa [Honest, hstream] using hlists
    obtain hnone | ⟨h, -⟩ :=
      htracks.exit_processEvent hlistable hexit hinventory hstream hhonest rfl
    · refine ⟨_, Machine.guard_next.2 ⟨hhonest, ?_⟩, hnone, processEvent_pending.1⟩
      simp [runDiscovery, hexit, hinventory, hstream]
    · cases h

def speaker (deviceId displayName : String) : DeviceInfo :=
  ⟨"chromecast", deviceId, displayName, .Available, []⟩

/-- A device appears, another one is renamed, and the first one goes again. -/
def visit : History where
  backendId := "chromecast"
  discoveryGeneration := 1
  baseline := 4
  devices := (∅ : ExtTreeMap _ _ Dbus.compareIdentity).insert (speaker "a" "Hall").identity
    (speaker "a" "Hall")
  steps := [.Added 1 5 (speaker "b" "Den"), .Changed 1 6 (speaker "a" "Loft"),
    .Removed 1 7 ⟨"chromecast", "b"⟩]
  filed key device h := by
    rw [ExtTreeMap.getElem?_insert] at h
    split_ifs at h with hkey
    · cases h
      exact LawfulEqCmp.eq_of_compare hkey
    · simp at h
  consecutive k event h := by
    match k, h with
    | 0, rfl | 1, rfl | 2, rfl => rfl
  generation := by decide
  valid := by decide +kernel

/-- The removal overtakes the change, so that the devices are listed again. -/
def visitInputs : List DiscoveryInput :=
  [.start (.returned ⟨1, 4, [speaker "a" "Hall"]⟩) true,
   .signal .added .failed true,
   .signal .removed (.returned ⟨1, 7, [speaker "a" "Loft"]⟩) true,
   .signal .changed .timedOut true]

theorem discovery_converges_visit : ∃ s,
    (visit.discovery 1).run visit.subscribed visitInputs = some s ∧
    s.notifications = [.Changed ⟨1, 5, [speaker "a" "Hall", speaker "b" "Den"]⟩,
      .Resynchronized (.RevisionGap 6 7) ⟨1, 7, [speaker "a" "Loft"]⟩] ∧
    s.published.Pairwise (·.revision ≤ ·.revision) := by
  have hrun : ((visit.discovery 1).run visit.subscribed visitInputs).map (·.notifications) =
      some [.Changed ⟨1, 5, [speaker "a" "Hall", speaker "b" "Den"]⟩,
        .Resynchronized (.RevisionGap 6 7) ⟨1, 7, [speaker "a" "Loft"]⟩] := by
    decide +kernel
  obtain ⟨s, hs, hnotifications⟩ := Option.map_eq_some_iff.1 hrun
  exact ⟨s, hs, hnotifications, (discovery_converges visit 1 hs).2.2.1⟩

end Pronk.BackendHost
