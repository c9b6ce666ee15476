import Pronk.MediaSession.Coordinator

/-!
# Supersession and lost cancellations

A token that is not cancelled belongs to the last phase and to the newest issued
request: `install_phase` compares the generation under the mutex that an interrupt
needs, and a request takes its generation before it interrupts. A cancellation that
comes with no newer request is seen only by the token that is installed, so the
phases that the same request enters later start uncancelled.
-/
namespace Pronk.MediaSession
open Media Transition

namespace CoordinatorState

variable {s s' : CoordinatorState} {i : Input}

attribute [local grind =] interruptPhase issue cancelPhase enqueue replacePhase loadLatest answer
  next UInt64.le_iff_toNat_le UInt64.lt_iff_toNat_lt UInt64.toNat_inj checkedSucc_eq_some
  Option.map_eq_some_iff
attribute [local grind] locked

/-- What the tokens say about the requests. The mutex is held exactly while the
installed token is fresh, and all the earlier tokens are cancelled. -/
structure Inv (s : CoordinatorState) : Prop where
  issued_le : ∀ g ∈ s.issued, g ≤ s.latestGeneration
  incremented_le : ∀ g ∈ s.incremented, g ≤ s.latestGeneration
  replaced : ∀ t ∈ s.replaced, t.cancelled = true
  fresh : ∀ command phase rest, s.actor = .installing command phase rest →
    s.installedPhase = { generation := command.requestGeneration }
  newest : s.locked = false → s.installedPhase.cancelled = false →
    ∀ g ∈ s.issued, g ≤ s.installedPhase.generation
  pending : s.locked = false → s.installedPhase.cancelled = false →
    ∀ g, s.installedPhase.generation < g → g ≤ s.latestGeneration → g ∈ s.incremented
  uncut : s.locked = false → s.installedPhase.cancelled = false → s.installedPhase.cut = false

lemma inv_initial : Inv {} where
  issued_le := by simp
  incremented_le := by simp
  replaced := by simp
  fresh := by simp
  newest := by simp
  pending := by grind -linarith
  uncut := by simp

lemma Inv.next_le (h : Inv s) (hs' : s.next i = some s') :
    (∀ g ∈ s'.issued, g ≤ s'.latestGeneration) ∧ (∀ g ∈ s'.incremented, g ≤ s'.latestGeneration) ∧
      ∀ t ∈ s'.replaced, t.cancelled = true := by
  obtain ⟨hissued, hincremented, hreplaced⟩ := h
  cases i <;> grind -linarith

/-- A token that leaves `install_phase` uncancelled has the latest generation. -/
lemma Inv.next (h : Inv s) (hs' : s.next i = some s') : Inv s' := by
  obtain ⟨hissued', hincremented', hreplaced'⟩ := h.next_le hs'
  obtain ⟨hissued, hincremented, -, hfresh, hnewest, hpending, huncut⟩ := h
  refine ⟨hissued', hincremented', hreplaced', ?_, ?_, ?_, ?_⟩ <;> cases i <;> grind -linarith

lemma reachable_inv (h : coordinator.Reach {} s) : Inv s :=
  h.invariant inv_initial fun _ _ _ hinv hnext => hinv.next hnext

/-- An uncancelled token is the last one and the mutex is free. -/
lemma Inv.uncancelled (h : Inv s) {earlier later : List PhaseToken} {t : PhaseToken}
    (htokens : s.phaseTokens = earlier ++ t :: later) (hcancelled : t.cancelled = false) :
    s.locked = false ∧ t = s.installedPhase ∧ later = [] := by
  have hreplaced : t ∉ s.replaced := by
    intro hmem
    rw [h.replaced t hmem] at hcancelled
    cases hcancelled
  unfold phaseTokens at htokens
  split_ifs at htokens with hlocked
  · exact absurd (htokens ▸ by simp) hreplaced
  · rcases List.append_eq_append_iff.1 htokens with ⟨mid, hearlier, hlast⟩ | ⟨mid, hold, hlast⟩
    · cases mid with
      | nil =>
        obtain ⟨rfl, rfl⟩ := List.cons.inj hlast
        exact ⟨by simpa using hlocked, rfl, rfl⟩
      | cons u us => simp at hlast
    · cases mid with
      | nil =>
        obtain ⟨rfl, rfl⟩ := List.cons.inj hlast
        exact ⟨by simpa using hlocked, rfl, rfl⟩
      | cons u us =>
        obtain ⟨rfl, -⟩ := List.cons.inj hlast
        exact absurd (hold ▸ by simp) hreplaced

end CoordinatorState

open CoordinatorState

/-- A request counts as issued when it has taken its generation and has interrupted.
The tokens are listed in the order of their installation. -/
theorem uncancelled_token_is_newest {s : CoordinatorState} (h : coordinator.Reach {} s) :
    (∀ g ∈ s.issued, ∀ t ∈ s.phaseTokens, t.generation < g → t.cancelled = true) ∧
    (∀ earlier t later, s.phaseTokens = earlier ++ t :: later → t.cancelled = false →
      later = [] ∧ s.locked = false ∧ t.cut = false ∧ (∀ g ∈ s.issued, g ≤ t.generation) ∧
      ∀ g, t.generation < g → g ≤ s.latestGeneration → g ∈ s.incremented) := by
  have hinv := reachable_inv h
  constructor
  · intro g hissued t hmem hlt
    by_contra hcancelled
    rw [Bool.not_eq_true] at hcancelled
    obtain ⟨earlier, later, htokens⟩ := List.append_of_mem hmem
    obtain ⟨hfree, rfl, -⟩ := hinv.uncancelled htokens hcancelled
    exact UInt64.not_lt.2 (hinv.newest hfree hcancelled g hissued) hlt
  · intro earlier t later htokens hcancelled
    obtain ⟨hfree, rfl, hlast⟩ := hinv.uncancelled htokens hcancelled
    exact ⟨hlast, hfree, hinv.uncut hfree hcancelled, hinv.newest hfree hcancelled,
      hinv.pending hfree hcancelled⟩

/-- An activation is sent and cancelled before the actor takes it from the queue, with
or without a newer request in between. -/
def cancelledActivation (newer : Bool) : List Input :=
  [.increment, .interrupt 1, .enqueue 1 (.Activate sampleRoute), .cancelPhase] ++
  (if newer then [.increment, .interrupt 2] else []) ++
  [.dequeue, .replacePhase, .loadLatest]

/-- The older of two requests enters its phase after the newer one was issued. -/
theorem uncancelled_token_is_newest_cancelled : ∃ s, coordinator.Reach {} s ∧
    s.issued = [2, 1] ∧ { generation := 1, cancelled := true : PhaseToken } ∈ s.phaseTokens ∧
    ∀ t ∈ s.phaseTokens, t.generation < 2 → t.cancelled = true := by
  obtain ⟨s, hs, hissued, htokens⟩ : ∃ s, coordinator.Reach {} s ∧ s.issued = [2, 1] ∧
      s.phaseTokens = [⟨0, true, true⟩, ⟨1, true, false⟩] :=
    Machine.exists_reach (cancelledActivation true) (by decide +kernel)
  have hlaw := (uncancelled_token_is_newest hs).1 2 (by simp [hissued])
  exact ⟨s, hs, hissued, by simp [htokens], hlaw⟩

/-- Every phase of a request that was there at the last cancellation got a cancelled
token. -/
def CancellationKept (s : CoordinatorState) : Prop :=
  ∀ e ∈ s.entered, e.submitted = true → e.cancelled = true

/-- A request that was there at the last cancellation enters a phase only after a newer
request has taken its generation. -/
def NewerFirst (s : CoordinatorState) : Input → Prop
  | .loadLatest =>
    match s.actor with
    | .installing command _ _ =>
      command.requestGeneration ≤ s.lastCancelled → s.latestGeneration ≠ command.requestGeneration
    | _ => True
  | _ => True

instance (s : CoordinatorState) (i : Input) : Decidable (NewerFirst s i) := by
  unfold NewerFirst
  split
  · split <;> infer_instance
  · infer_instance

lemma CancellationKept.next {s s' : CoordinatorState} {i : Input} (h : CancellationKept s)
    (hnewer : NewerFirst s i) (hs' : s.next i = some s') : CancellationKept s' := by
  unfold CancellationKept at h ⊢
  cases i with
  | loadLatest => grind -linarith [CoordinatorState.next, loadLatest, NewerFirst]
  | _ =>
    grind -linarith [CoordinatorState.next, issue, interruptPhase, enqueue, cancelPhase,
      replacePhase, answer, Option.map_eq_some_iff]

/-- If a newer request always precedes the phases of a cancelled one, all of them get a cancelled
token. -/
theorem cancellation_kept_when_superseded {s : CoordinatorState}
    (h : (coordinator.guard NewerFirst).Reach {} s) : CancellationKept s := by
  have h₀ : CancellationKept {} := by simp [CancellationKept]
  refine h.invariant h₀ fun s i s' hkept hnext => ?_
  obtain ⟨hnewer, hs'⟩ := Machine.guard_next.1 hnext
  exact hkept.next hnewer hs'

theorem cancellation_kept_when_superseded_cancelled :
    ∃ s, (coordinator.guard NewerFirst).Reach {} s ∧
      s.entered = [⟨.startCapture, 1, true, true⟩] ∧ CancellationKept s := by
  obtain ⟨s, hs, hentered⟩ : ∃ s, (coordinator.guard NewerFirst).Reach {} s ∧
      s.entered = [⟨.startCapture, 1, true, true⟩] :=
    Machine.exists_reach (cancelledActivation true) (by decide +kernel)
  exact ⟨s, hs, hentered, cancellation_kept_when_superseded hs⟩

/-- The policy cancels its activation while it is queued. No newer request follows, and
capture is started with a token that is not cancelled. -/
theorem cancellation_lost_before_dequeue : ∃ s, coordinator.Reach {} s ∧
    s.entered = [⟨.startCapture, 1, true, false⟩] ∧ ¬ CancellationKept s := by
  obtain ⟨s, hs, hentered⟩ : ∃ s, coordinator.Reach {} s ∧
      s.entered = [⟨.startCapture, 1, true, false⟩] :=
    Machine.exists_reach (cancelledActivation false) (by decide +kernel)
  refine ⟨s, hs, hentered, fun hkept => ?_⟩
  have hcancelled := hkept ⟨.startCapture, 1, true, false⟩ (by simp [hentered]) rfl
  cases hcancelled

end Pronk.MediaSession
