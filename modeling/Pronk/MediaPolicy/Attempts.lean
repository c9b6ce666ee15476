import Pronk.MediaPolicy.Bounded

/-!
# How many attempts were really made

The tracker counts an attempt before its back-off delay, and a change of the input ends
the delay without a request. What was submitted is therefore read off the history.
-/
namespace Pronk.MediaPolicy
open Interaction Media MediaSession Transition

namespace PolicyNote

/-- A retry or deactivate request. -/
def isAttempt : PolicyNote → Bool
  | .submitted .Retry => true
  | .submitted .Deactivate => true
  | _ => false

/-- A part of the history in which one context was observed, and never running media. -/
def Sequel (context : Option RetryContext) (notes : List PolicyNote) : Prop :=
  ∀ input state, .observed input state ∈ notes →
    context = some (.fromInput input) ∧ state ≠ .Running

variable {context : Option RetryContext} {notes : List PolicyNote} {entry : PolicyNote}

lemma Sequel.nil : Sequel context [] := by simp [Sequel]

lemma Sequel.snoc (h : Sequel context notes)
    (hentry : ∀ input state, entry = .observed input state →
      context = some (.fromInput input) ∧ state ≠ .Running) :
    Sequel context (notes ++ [entry]) := by
  grind [Sequel]

end PolicyNote

lemma RetryTracker.recordAttempt_le (retry : RetryTracker) :
    retry.recordAttempt.attempts.toNat ≤ retry.attempts.toNat + 1 := by
  simp only [recordAttempt]
  split_ifs with h
  · rw [h]
    exact Nat.le_succ _
  · rw [UInt32.toNat_add]
    exact Nat.mod_le _ _

namespace PolicyTask
open PolicyNote

/-- When an attempt was counted and dropped, the tracker forgets it at the next look: the
context is another one, or media run. -/
def forgetful (w : PolicyTask) : PolicyStep → Bool
  | .observe =>
    w.phase ≠ .observing true ∨ w.retry.context ≠ some (.fromInput w.input) ∨
      w.session.snapshot.state = .Running
  | _ => true

/-- An attempt that was counted and has not been submitted. -/
def owed (w : PolicyTask) : ℕ :=
  match w.phase with
  | .applying decision => decision.delay.isSome.toNat
  | .observing dropped => dropped.toNat
  | _ => 0

/-- The latest part of the history shows the attempts that are counted. -/
def Shown (w : PolicyTask) (extra : ℕ) : Prop :=
  ∃ before after, w.history = before ++ after ∧ Sequel w.retry.context after ∧
    w.retry.attempts.toNat ≤ after.countP isAttempt + extra

/-- A task that has returned shows nothing any more. -/
structure Honest (recovery : MediaRecoveryPolicy) (w : PolicyTask) : Prop where
  same : w.recovery = recovery
  shown : w.phase = .returned ∨ w.Shown w.owed
  exhausted : ∀ error, w.phase = .exhausted error →
    recovery.maximumAttempts.toNat ≤ w.retry.attempts.toNat

variable {recovery : MediaRecoveryPolicy} {w w' : PolicyTask}

lemma Shown.congr {extra extra' : ℕ} (h : w.Shown extra) (hhistory : w'.history = w.history)
    (hretry : w'.retry = w.retry) (hextra : extra ≤ extra') : w'.Shown extra' := by
  obtain ⟨before, after, hsplit, hsequel, hattempts⟩ := h
  refine ⟨before, after, hhistory.trans hsplit, hretry ▸ hsequel, ?_⟩
  rw [hretry]
  omega

lemma Honest.look {dropped : Bool} (h : Honest recovery w) (hphase : w.phase = .observing dropped)
    (hguard : w.forgetful .observe = true) : w.look.Shown 0 := by
  have hshown := h.shown.resolve_left (by simp [hphase])
  simp only [owed, hphase] at hshown
  by_cases hreset : w.retry.context ≠ some (.fromInput w.input) ∨
      w.session.snapshot.state = .Running
  · refine ⟨w.look.history, [], (List.append_nil _).symm, .nil, ?_⟩
    simp [PolicyTask.look, RetryTracker.observe, hreset]
  · have hdropped : dropped = false := by
      simpa [forgetful, hphase, hreset] using hguard
    subst hdropped
    obtain ⟨before, after, hsplit, hsequel, hattempts⟩ := hshown
    have hretry : w.look.retry = w.retry := if_neg hreset
    obtain ⟨hcontext, hstate⟩ := not_or.1 hreset
    refine ⟨before, after ++ [.observed w.input w.session.snapshot.state], ?_, ?_, ?_⟩
    · simp [PolicyTask.look, hsplit]
    · rw [hretry]
      apply hsequel.snoc
      rintro input state hentry
      cases hentry
      exact ⟨not_not.1 hcontext, hstate⟩
    · rw [hretry]
      simpa [List.countP_append, isAttempt] using hattempts

lemma Shown.takeDecision {decision : PolicyDecision} (h : w.Shown 0) :
    (w.takeDecision decision).Shown decision.delay.isSome.toNat := by
  obtain ⟨before, after, hsplit, hsequel, hattempts⟩ := h
  refine ⟨before, after ++ [.decided decision], ?_, ?_, ?_⟩
  · simp [PolicyTask.takeDecision, hsplit]
  · have hcontext : (w.takeDecision decision).retry.context = w.retry.context := by
      rw [takeDecision_retry]
      split_ifs <;> rfl
    rw [hcontext]
    exact hsequel.snoc (by simp)
  · have hrecord := w.retry.recordAttempt_le
    rw [takeDecision_retry, List.countP_append]
    cases decision.delay <;> simp <;> omega

/-- A request that is made for a counted attempt is an attempt. -/
lemma isAttempt_of_delay {decision : PolicyDecision} {command : CommandKind}
    (hcommand : decision.command = some command) :
    decision.delay.isSome.toNat ≤ (isAttempt (.submitted command)).toNat := by
  cases decision <;> cases hcommand <;> simp [PolicyDecision.delay, isAttempt]

lemma Shown.submit {decision : PolicyDecision} {command : CommandKind}
    (h : w.Shown decision.delay.isSome.toNat) (hcommand : decision.command = some command) :
    (w.submit decision command).Shown (w.submit decision command).owed := by
  unfold PolicyTask.submit nextGeneration
  cases checkedSucc w.latestGeneration with
  | none => exact h
  | some generation =>
    obtain ⟨before, after, hsplit, hsequel, hattempts⟩ := h
    have hattempt := isAttempt_of_delay hcommand
    have hcount : w.retry.attempts.toNat ≤
        (after ++ [submitted command]).countP isAttempt + 0 := by
      rw [List.countP_append, List.countP_singleton]
      cases hkind : isAttempt (.submitted command) <;> rw [hkind] at hattempt <;>
        simp only [Bool.toNat_false, Bool.toNat_true] at hattempt <;> simp <;> omega
    exact ⟨before, after ++ [submitted command], by simp [hsplit], hsequel.snoc (by simp), hcount⟩

lemma Honest.observe {dropped : Bool} (h : Honest recovery w)
    (hphase : w.phase = .observing dropped) (hguard : w.forgetful .observe = true) :
    Honest recovery w.observe := by
  have hlook := h.look hphase hguard
  obtain ⟨_, hw⟩ | ⟨hchoice, hw⟩ | ⟨decision, _, _, hw⟩ := w.observe_cases
  · rw [hw]
    exact ⟨h.same, .inr hlook, by simp⟩
  · rw [hw]
    refine ⟨h.same, .inr hlook, fun _ _ => ?_⟩
    have hdecides := MediaPolicyInput.decides hchoice
    cases hdecides with
    | giveUp _ hdelay => exact h.same ▸ RetryTracker.nextDelay_eq_none.1 hdelay
  · rw [hw]
    exact ⟨h.same, .inr hlook.takeDecision, by simp [PolicyTask.takeDecision]⟩

lemma Honest.congr (h : Honest recovery w) (hhistory : w'.history = w.history)
    (hretry : w'.retry = w.retry) (hrecovery : w'.recovery = w.recovery)
    (howed : w'.phase = .returned ∨ w.owed ≤ w'.owed ∧ (w.phase = .returned → w'.phase = .returned))
    (hexhausted : ∀ error, w'.phase = .exhausted error → w.phase = .exhausted error) :
    Honest recovery w' := by
  refine ⟨hrecovery.trans h.same, ?_, fun error hphase => ?_⟩
  · rcases howed with hreturned | ⟨howed, hreturned⟩
    · exact .inl hreturned
    · exact h.shown.imp hreturned fun hshown => hshown.congr hhistory hretry howed
  · rw [hretry]
    exact h.exhausted error (hexhausted error hphase)

lemma Honest.step {i : PolicyStep} (h : Honest recovery w) (hguard : w.forgetful i = true)
    (hnext : w.next i = some w') : Honest recovery w' := by
  cases i with
  | observe =>
    simp only [next] at hnext
    split at hnext
    case h_1 dropped hphase => exact Option.some.inj hnext ▸ h.observe hphase hguard
    case h_2 => cases hnext
  | submit =>
    simp only [next] at hnext
    split at hnext
    case h_1 decision hphase =>
      obtain ⟨command, hcommand, rfl⟩ := Option.map_eq_some_iff.1 hnext
      have hshown := h.shown.resolve_left (by simp [hphase])
      simp only [owed, hphase] at hshown
      refine ⟨?_, .inr (hshown.submit hcommand), ?_⟩ <;>
        unfold PolicyTask.submit nextGeneration <;>
        cases checkedSucc w.latestGeneration <;> simp [h.same]
    case h_2 => cases hnext
  | _ =>
    apply h.congr <;>
      grind [next, change, nextGeneration, serveMedia, leave, owed, Option.map_eq_some_iff]

/-- The budget is reported as exhausted only after as many requests of the present context
as it allows attempts. -/
theorem exhausted_after_attempts {input : MediaPolicyInput} {session : Session}
    {latestGeneration : UInt64} {inputs : List PolicyStep} {error : String}
    (hrun : (policyTask.guard fun w i => w.forgetful i = true).run
      (spawned recovery input session latestGeneration) inputs = some w)
    (hexhausted : w.phase = .exhausted error) :
    ∃ before after, w.history = before ++ after ∧ Sequel w.retry.context after ∧
      recovery.maximumAttempts.toNat ≤ after.countP isAttempt := by
  have h₀ : Honest recovery (spawned recovery input session latestGeneration) :=
    ⟨rfl, .inr ⟨[], [], rfl, .nil, Nat.le_refl _⟩, by simp [spawned]⟩
  have h : Honest recovery w := by
    refine Machine.run_invariant ?_ h₀ hrun
    intro w i w' h hnext
    obtain ⟨hguard, hnext⟩ := Machine.guard_next.1 hnext
    exact h.step hguard hnext
  obtain ⟨before, after, hsplit, hsequel, hattempts⟩ := h.shown.resolve_left (by simp [hexhausted])
  simp only [owed, hexhausted] at hattempts
  exact ⟨before, after, hsplit, hsequel, (h.exhausted error hexhausted).trans hattempts⟩

/-- The task has reported that its budget is exhausted. -/
def hasGivenUp (w : PolicyTask) : Bool :=
  match w.phase with
  | .exhausted _ => true
  | _ => false

lemma exhausted_of_hasGivenUp (h : w.hasGivenUp = true) :
    ∃ error, w.phase = .exhausted error := by
  unfold hasGivenUp at h
  split at h
  case h_1 error hphase => exact ⟨error, hphase⟩
  case h_2 => cases h

/-- One attempt is allowed, made and failed. -/
theorem exhausted_after_attempts_one :
    ∃ w, (policyTask.guard fun w i => w.forgetful i = true).run
      (spawned { maximumAttempts := 1 } openInput failedSession 0)
      [.observe, .submit, .answer [.failed "closed"], .observe] = some w ∧
    ∃ before after, w.history = before ++ after ∧ Sequel w.retry.context after ∧
      1 ≤ after.countP isAttempt := by
  obtain ⟨w, hw, hphase⟩ : ∃ w, (policyTask.guard fun w i => w.forgetful i = true).run
      (spawned { maximumAttempts := 1 } openInput failedSession 0)
      [.observe, .submit, .answer [.failed "closed"], .observe] = some w ∧ w.hasGivenUp = true :=
    Machine.exists_run (by decide +kernel)
  obtain ⟨error, hexhausted⟩ := exhausted_of_hasGivenUp hphase
  exact ⟨w, hw, exhausted_after_attempts hw hexhausted⟩

/-- The first activation fails. The device goes away and comes back during the delay before
the only retry: the delay ends, the tracker sees the input it knows, and the budget is
spent on nothing. -/
theorem exhausted_without_attempt :
    ∃ w error, policyTask.run (spawned { maximumAttempts := 1 } openInput {} 0)
      [.observe, .submit, .answer [.failed "closed"], .observe,
        .change { openInput with deviceAvailable := false }, .change openInput, .abort,
        .observe] = some w ∧
    w.phase = .exhausted error ∧ w.history.countP isAttempt = 0 := by
  obtain ⟨w, hw, hphase, hcount⟩ : ∃ w,
      policyTask.run (spawned { maximumAttempts := 1 } openInput {} 0)
        [.observe, .submit, .answer [.failed "closed"], .observe,
          .change { openInput with deviceAvailable := false }, .change openInput, .abort,
          .observe] = some w ∧ w.hasGivenUp = true ∧ w.history.countP isAttempt = 0 :=
    Machine.exists_run (by decide +kernel)
  obtain ⟨error, hexhausted⟩ := exhausted_of_hasGivenUp hphase
  exact ⟨w, error, hw, hexhausted, hcount⟩

end PolicyTask

end Pronk.MediaPolicy
