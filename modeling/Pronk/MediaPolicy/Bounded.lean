import Pronk.MediaPolicy.Decisions

/-!
# Bounded recovery under an input that does not change

A decision that is not counted as an attempt is only made first, and the attempts are
limited by the recovery policy. The task therefore comes to wait or gives up.
-/
namespace Pronk.MediaPolicy
open Interaction Media MediaSession Transition MediaPolicyInput PolicyDecision

/-- The nanoseconds before the retry that `k` others came before. -/
def backoff (policy : MediaRecoveryPolicy) (k : ℕ) : ℕ :=
  min (policy.initialDelay.nanos * 2 ^ min k 30) policy.maximumDelay.nanos

/-- The multiplier stops to grow, which is seen unless a smaller limit comes first. -/
lemma backoff_eq_iff (policy : MediaRecoveryPolicy) (k : ℕ) :
    backoff policy k = min (policy.initialDelay.nanos * 2 ^ k) policy.maximumDelay.nanos ↔
      k ≤ 30 ∨ policy.initialDelay.nanos = 0 ∨
        policy.maximumDelay.nanos ≤ policy.initialDelay.nanos * 2 ^ 30 := by
  unfold backoff
  by_cases hk : k ≤ 30
  · simp [hk]
  · have hpow : 2 ^ 31 ≤ 2 ^ k := Nat.pow_le_pow_right (by decide) (by omega)
    have hmin : min k 30 = 30 := by omega
    rw [hmin]
    by_cases hzero : policy.initialDelay.nanos = 0
    · simp [hzero]
    · have hscaled := Nat.mul_le_mul_left policy.initialDelay.nanos hpow
      have hpos := Nat.pos_of_ne_zero hzero
      constructor
      · intro h
        right
        right
        omega
      · intro h
        have hmax := (h.resolve_left hk).resolve_left hzero
        omega

namespace RetryTracker

variable {retry : RetryTracker} {policy : MediaRecoveryPolicy}

lemma checkedShl_toNat {shift : UInt32} (h : shift.toNat ≤ 30) :
    ∃ multiplier, checkedShl shift = some multiplier ∧ multiplier.toNat = 2 ^ shift.toNat := by
  have hlt : shift < 32 := by
    rw [UInt32.lt_iff_toNat_lt]
    exact Nat.lt_of_le_of_lt h (by decide)
  refine ⟨1 <<< shift, if_pos hlt, ?_⟩
  rw [UInt32.toNat_shiftLeft, Nat.mod_eq_of_lt (by omega : shift.toNat < 32), UInt32.toNat_one,
    Nat.one_shiftLeft]
  exact Nat.mod_eq_of_lt (Nat.pow_lt_pow_right (by decide) (by omega))

lemma toNat_min_thirty (n : UInt32) : (min n 30).toNat = min n.toNat 30 := by
  rw [show min n 30 = if n ≤ 30 then n else 30 from rfl]
  split_ifs with h <;> rw [UInt32.le_iff_toNat_le] at h <;> simp at h ⊢ <;> omega

lemma nextDelay_eq_none : retry.nextDelay policy = none ↔
    policy.maximumAttempts.toNat ≤ retry.attempts.toNat := by
  unfold nextDelay
  split_ifs with h <;> simpa [UInt32.le_iff_toNat_le] using h

lemma nextDelay_eq_some {delay : Duration} (h : retry.nextDelay policy = some delay) :
    retry.attempts.toNat < policy.maximumAttempts.toNat ∧
      delay.nanos = backoff policy retry.attempts.toNat := by
  have hlt : ¬policy.maximumAttempts.toNat ≤ retry.attempts.toNat := by
    rw [← nextDelay_eq_none, h]
    simp
  refine ⟨by omega, ?_⟩
  have hmin := toNat_min_thirty retry.attempts
  obtain ⟨multiplier, hshl, hvalue⟩ := @checkedShl_toNat (min retry.attempts 30) (by omega)
  have hmax := policy.maximumDelay.bounded
  rw [nextDelay, if_neg (by rwa [UInt32.le_iff_toNat_le]), hshl] at h
  simp only [Option.getD_some, Option.some.injEq] at h
  rw [← h, Duration.min]
  split_ifs with hless <;>
    simp only [Duration.saturatingMul, Duration.saturating, hvalue, hmin] at hless ⊢ <;>
    unfold backoff <;> omega

lemma recordAttempt_attempts (h : retry.attempts.toNat < policy.maximumAttempts.toNat) :
    retry.recordAttempt.attempts.toNat = retry.attempts.toNat + 1 := by
  have hmax := policy.maximumAttempts.toNat_lt
  have hne : retry.attempts ≠ 0xFFFFFFFF := by
    intro heq
    rw [heq] at h
    have hvalue : (0xFFFFFFFF : UInt32).toNat = 2 ^ 32 - 1 := rfl
    omega
  simp only [recordAttempt, if_neg hne, UInt32.toNat_add, UInt32.toNat_one]
  omega

end RetryTracker

/-- The steps by which a waiting task is woken. -/
def PolicyStep.isWake : PolicyStep → Bool
  | .wakeInput => true
  | .wakeMedia => true
  | _ => false

namespace PolicyTask

/-- The decisions that were applied. -/
def decisions (w : PolicyTask) : List PolicyDecision :=
  w.history.filterMap fun
    | .decided decision => some decision
    | _ => none

/-- The delays of the counted attempts. -/
def delays (w : PolicyTask) : List Duration := w.decisions.filterMap delay

/-- The commands that were submitted to the media-session actor. -/
def requests (w : PolicyTask) : List CommandKind :=
  w.history.filterMap fun
    | .submitted command => some command
    | _ => none

/-- Only the task itself takes steps, and it does not run out of generations: a request
can be numbered, and so can the media that it starts. -/
def undisturbed (w : PolicyTask) : PolicyStep → Bool
  | .change _ | .reportFailure _ _ | .retry _ | .cancel => false
  | .submit => (checkedSucc w.latestGeneration).isSome
  | .answer _ =>
    match w.phase with
    | .requesting command =>
      !starts command || (checkedSucc w.session.snapshot.mediaGeneration).isSome
    | _ => true
  | _ => true

/-- What is known where the task is. -/
def Placed (w : PolicyTask) : Prop :=
  match w.phase with
  | .observing _ => (w.decisions = [] ∨ w.input.Spent w.session.snapshot) ∧
    (w.retry.attempts.toNat = w.delays.length ∨ w.input.NeedsNoAction w.session.snapshot)
  | .waiting => w.input.NeedsNoAction w.session.snapshot
  | .applying decision => w.retry.attempts.toNat = w.delays.length ∧ decision ≠ .GiveUp ∧
    ∃ delay, w.input.Decides w.session.snapshot delay decision
  | .requesting command => w.retry.attempts.toNat = w.delays.length ∧
    ∃ delay decision, w.input.Decides w.session.snapshot delay decision ∧
      decision.command = some command
  | .exhausted _ => True
  | .returned => False

/-- The task was not disturbed, and has kept to its budget. -/
structure Bounded (recovery : MediaRecoveryPolicy) (input : MediaPolicyInput) (w : PolicyTask) :
    Prop where
  sameRecovery : w.recovery = recovery
  sameInput : w.input = input
  unchanged : w.inputChanged = false
  running : w.cancelled = false
  live : w.session.ended = false
  counted : w.decisions.length ≤ 1 + w.delays.length
  budget : w.delays.length ≤ recovery.maximumAttempts.toNat
  delayed : ∀ k delay, w.delays[k]? = some delay → delay.nanos = backoff recovery k
  permitted : ∀ route, .Activate route ∈ w.requests → input.Permits route
  context : w.decisions = [] ∨ w.retry.context = some (.fromInput input)
  placed : w.Placed

variable {recovery : MediaRecoveryPolicy} {input : MediaPolicyInput} {w : PolicyTask}

attribute [local grind] Placed

lemma bounded_spawned (recovery : MediaRecoveryPolicy) (input : MediaPolicyInput)
    {session : Session} (latestGeneration : UInt64) (hlive : session.ended = false) :
    Bounded recovery input (spawned recovery input session latestGeneration) := by
  constructor <;> simp [spawned, delays, decisions, requests, Placed, hlive]

section Look

@[simp] lemma look_decisions : w.look.decisions = w.decisions := by simp [look, decisions]

@[simp] lemma look_delays : w.look.delays = w.delays := by simp [delays]

@[simp] lemma look_requests : w.look.requests = w.requests := by simp [look, requests]

@[simp] lemma takeDecision_decisions (decision : PolicyDecision) :
    (w.takeDecision decision).decisions = w.decisions ++ [decision] := by
  simp [takeDecision, decisions]

@[simp] lemma takeDecision_requests (decision : PolicyDecision) :
    (w.takeDecision decision).requests = w.requests := by simp [takeDecision, requests]

@[simp] lemma takeDecision_delays (decision : PolicyDecision) :
    (w.takeDecision decision).delays = w.delays ++ decision.delay.toList := by
  cases hdelay : decision.delay <;> simp [delays, hdelay]

lemma takeDecision_retry (decision : PolicyDecision) : (w.takeDecision decision).retry =
    if decision.delay.isSome then w.retry.recordAttempt else w.retry := rfl

lemma delays_eq_nil (h : w.decisions = []) : w.delays = [] := by simp [delays, h]

lemma look_context : w.look.retry.context = some (.fromInput w.input) := by
  simp only [look, RetryTracker.observe]
  split_ifs with h
  · rfl
  · exact not_not.1 (not_or.1 h).1

/-- The tracker forgets attempts only before the first of them, or when there is nothing
more to do. -/
lemma Bounded.look_attempts {dropped : Bool} (h : Bounded recovery input w)
    (hphase : w.phase = .observing dropped) :
    w.look.retry.attempts.toNat = w.delays.length ∨ w.input.NeedsNoAction w.session.snapshot := by
  have hplaced := h.placed
  simp only [Placed, hphase] at hplaced
  obtain ⟨hspent, hattempts⟩ := hplaced
  simp only [look, RetryTracker.observe]
  split_ifs with hreset
  · by_cases hfirst : w.decisions = []
    · left
      simp [delays_eq_nil hfirst]
    · have hcontext := h.context.resolve_left hfirst
      rw [← h.sameInput] at hcontext
      have hrunning := hreset.resolve_left (not_not.2 hcontext)
      exact .inr ((hspent.resolve_left hfirst).needsNoAction_of_running hrunning)
  · exact hattempts

end Look

/-- A decision is taken: a counted one while there is budget, another one only first. -/
lemma Bounded.takeDecision {dropped : Bool} {decision : PolicyDecision}
    (h : Bounded recovery input w) (hphase : w.phase = .observing dropped)
    (hchoice : w.look.choice = some decision) (hgiveUp : decision ≠ .GiveUp) :
    Bounded recovery input (w.look.takeDecision decision) := by
  have hdecides := decides hchoice
  have hattempts : w.look.retry.attempts.toNat = w.delays.length := by
    apply (h.look_attempts hphase).resolve_right
    intro hnone
    have hnothing : w.look.choice = none := decide_eq_none.2 hnone
    simp [hnothing] at hchoice
  have hlook := w.look_context
  have hdecisions := takeDecision_decisions (w := w.look) decision
  have hdelays := takeDecision_delays (w := w.look) decision
  have hrequests := takeDecision_requests (w := w.look) decision
  have hretry := takeDecision_retry (w := w.look) decision
  rw [look_decisions] at hdecisions
  rw [look_delays] at hdelays
  rw [look_requests] at hrequests
  obtain ⟨hrecovery, hinput, hunchanged, hrunning, hlive, hcounted, hbudget, hdelayed, hpermitted,
    hcontext, hplaced⟩ := h
  simp only [Placed, hphase] at hplaced
  cases hdelay : decision.delay with
  | none =>
    have hfirst : w.decisions = [] := by
      apply hplaced.1.resolve_right
      intro hspent
      have := hspent _ _ hchoice
      simp [hgiveUp, hdelay] at this
    simp only [hdelay, Option.toList_none, List.append_nil, Option.isSome_none] at hdelays hretry
    constructor <;> grind [PolicyTask.takeDecision, PolicyTask.look]
  | some d =>
    have hnext : w.look.retry.nextDelay recovery = some d := by
      rw [← hrecovery]
      cases hdecides <;> simp_all [delay, look]
    obtain ⟨hless, hnanos⟩ := RetryTracker.nextDelay_eq_some hnext
    have hrecorded := RetryTracker.recordAttempt_attempts hless
    simp only [hdelay, Option.toList_some, Option.isSome_some, if_true] at hdelays hretry
    constructor <;> grind [PolicyTask.takeDecision, PolicyTask.look, RetryTracker.recordAttempt]

lemma Bounded.still {w' : PolicyTask} (h : Bounded recovery input w)
    (hrecovery : w'.recovery = w.recovery) (hinput : w'.input = w.input)
    (hunchanged : w'.inputChanged = false) (hrunning : w'.cancelled = w.cancelled)
    (hlive : w'.session.ended = false) (hdecisions : w'.decisions = w.decisions)
    (hpermitted : ∀ route, .Activate route ∈ w'.requests →
      .Activate route ∈ w.requests ∨ input.Permits route)
    (hcontext : w'.retry.context = w.retry.context ∨ w'.retry.context = some (.fromInput w.input))
    (hplaced : w'.Placed) : Bounded recovery input w' := by
  have hdelays : w'.delays = w.delays := by simp [delays, hdecisions]
  obtain ⟨_, _, _, _, _, hcounted, hbudget, hdelayed, _, _, _⟩ := h
  constructor <;> grind

lemma Bounded.observe {dropped : Bool} (h : Bounded recovery input w)
    (hphase : w.phase = .observing dropped) : Bounded recovery input w.observe := by
  have hstill {phase : PolicyPhase}
      (hplaced : ({ w.look with phase := phase } : PolicyTask).Placed) :
      Bounded recovery input { w.look with phase := phase } :=
    h.still rfl rfl rfl rfl h.live look_decisions
      (fun _ hroute => .inl (by simpa [look, requests] using hroute)) (.inr look_context) hplaced
  obtain ⟨hchoice, hw⟩ | ⟨hchoice, hw⟩ | ⟨decision, hgiveUp, hchoice, hw⟩ := w.observe_cases
  · exact hw ▸ hstill (decide_eq_none.1 hchoice)
  · exact hw ▸ hstill trivial
  · exact hw ▸ h.takeDecision hphase hchoice hgiveUp

lemma Bounded.submit {decision : PolicyDecision} {command : CommandKind}
    (h : Bounded recovery input w) (hphase : w.phase = .applying decision)
    (hcommand : decision.command = some command)
    (hroom : (checkedSucc w.latestGeneration).isSome) :
    Bounded recovery input (w.submit decision command) := by
  have hplaced := h.placed
  simp only [Placed, hphase] at hplaced
  obtain ⟨hattempts, -, delay, hdecides⟩ := hplaced
  obtain ⟨generation, hnext⟩ := Option.isSome_iff_exists.1 hroom
  have hpermitted : ∀ route, command = .Activate route → input.Permits route := by
    rintro route rfl
    rw [← h.sameInput]
    cases hdecides <;> cases hcommand
    assumption
  simp only [PolicyTask.submit, nextGeneration, hnext, Option.map_some]
  refine h.still rfl rfl h.unchanged rfl h.live (by simp [decisions]) ?_ (.inl rfl) ?_
  · intro route hroute
    simp only [requests, List.filterMap_append, List.mem_append] at hroute
    exact hroute.imp_right fun hroute => hpermitted route (by simpa [eq_comm] using hroute)
  · exact ⟨by simpa [decisions, delays] using hattempts, delay, decision, hdecides, hcommand⟩

lemma Bounded.answer {command : CommandKind} {outcomes : List PhaseOutcome}
    (hnonzero : ∀ route, input.route = some route → route.routeGeneration ≠ 0)
    (h : Bounded recovery input w) (hphase : w.phase = .requesting command)
    (hroom : starts command → (checkedSucc w.session.snapshot.mediaGeneration).isSome) :
    Bounded recovery input { w.serveMedia command outcomes with phase := .observing false } := by
  have hplaced := h.placed
  simp only [Placed, hphase] at hplaced
  obtain ⟨hattempts, delay, decision, hdecides, hcommand⟩ := hplaced
  rw [h.sameInput] at hdecides
  obtain ⟨hlive, hspent⟩ : (serve w.session command outcomes).ended = false ∧
      input.Spent (serve w.session command outcomes).snapshot :=
    serve_spent hnonzero h.live hdecides hcommand hroom
  rw [← h.sameInput] at hspent
  exact h.still rfl rfl h.unchanged rfl hlive rfl (fun _ => .inl) (.inl rfl)
    ⟨.inr hspent, .inl hattempts⟩

lemma Bounded.wake {media : Bool} (h : Bounded recovery input w) (hphase : w.phase = .waiting) :
    Bounded recovery input { w with mediaChanged := media, phase := .observing false } := by
  have hplaced := h.placed
  simp only [Placed, hphase] at hplaced
  refine h.still rfl rfl h.unchanged rfl h.live rfl (fun _ => .inl) (.inl rfl)
    ⟨.inr fun delay decision hdecide => ?_, .inr hplaced⟩
  rw [decide_eq_none.2 hplaced] at hdecide
  cases hdecide

/-- What an undisturbed task can do. -/
inductive OwnStep (w : PolicyTask) : PolicyStep → PolicyTask → Prop
  | observe {dropped : Bool} (hphase : w.phase = .observing dropped) : OwnStep w .observe w.observe
  | wakeMedia (hphase : w.phase = .waiting) :
      OwnStep w .wakeMedia { w with mediaChanged := false, phase := .observing false }
  | submit {decision : PolicyDecision} {command : CommandKind}
      (hphase : w.phase = .applying decision) (hcommand : decision.command = some command)
      (hroom : (checkedSucc w.latestGeneration).isSome) :
      OwnStep w .submit (w.submit decision command)
  | answer {command : CommandKind} {outcomes : List PhaseOutcome}
      (hphase : w.phase = .requesting command)
      (hroom : starts command → (checkedSucc w.session.snapshot.mediaGeneration).isSome) :
      OwnStep w (.answer outcomes)
        { w.serveMedia command outcomes with phase := .observing false }

attribute [local grind intro] OwnStep in
lemma Bounded.ownStep {i : PolicyStep} {w' : PolicyTask} (h : Bounded recovery input w)
    (hguard : w.undisturbed i = true) (hnext : w.next i = some w') : w.OwnStep i w' := by
  have hunchanged := h.unchanged
  have hrunning := h.running
  cases i <;> grind [next, undisturbed, Option.map_eq_some_iff]

lemma Bounded.step {i : PolicyStep} {w' : PolicyTask}
    (hnonzero : ∀ route, input.route = some route → route.routeGeneration ≠ 0)
    (h : Bounded recovery input w) (hstep : w.OwnStep i w') : Bounded recovery input w' := by
  cases hstep with
  | observe hphase => exact h.observe hphase
  | wakeMedia hphase => exact h.wake hphase
  | submit hphase hcommand hroom => exact h.submit hphase hcommand hroom
  | answer hphase hroom => exact h.answer hnonzero hphase hroom

/-- How many steps the current turn of the loop may still take. -/
def pending (w : PolicyTask) : ℕ :=
  match w.phase with
  | .observing _ => 1
  | .applying _ => 3
  | .requesting _ => 2
  | _ => 0

lemma observe_pending :
    w.observe.pending + 3 * w.decisions.length ≤ 3 * w.observe.decisions.length := by
  obtain ⟨_, hw⟩ | ⟨_, hw⟩ | ⟨decision, _, _, hw⟩ := w.observe_cases
  case inr.inr =>
    have hmore : w.observe.decisions = w.decisions ++ [decision] := by rw [hw]; simp
    have hthree : w.observe.pending = 3 := by rw [hw]; rfl
    rw [hmore, hthree, List.length_append, List.length_singleton]
    omega
  all_goals
    have hsame : w.observe.decisions = w.decisions := hw ▸ look_decisions
    have hnone : w.observe.pending = 0 := by rw [hw]; rfl
    rw [hsame, hnone, Nat.zero_add]

/-- A step uses up what is pending, a decision adds three steps and a wake-up two. -/
lemma OwnStep.pending {i : PolicyStep} {w' : PolicyTask} (hstep : w.OwnStep i w') :
    1 + w'.pending + 3 * w.decisions.length ≤
      w.pending + 3 * w'.decisions.length + 2 * i.isWake.toNat := by
  cases hstep with
  | observe hphase =>
    have hpending : w.pending = 1 := by simp [PolicyTask.pending, hphase]
    have := w.observe_pending
    omega
  | wakeMedia hphase =>
    simp only [PolicyTask.pending, decisions, PolicyStep.isWake, Bool.toNat_true]
    omega
  | submit hphase _ hroom =>
    obtain ⟨generation, hgeneration⟩ := Option.isSome_iff_exists.1 hroom
    simp [PolicyTask.submit, nextGeneration, hgeneration, PolicyTask.pending, hphase, decisions]
  | answer hphase _ => simp [PolicyTask.pending, hphase, decisions, serveMedia]

/-- A task that neither waits nor has given up can go on by itself. -/
lemma Bounded.progress (h : Bounded recovery input w) : w.phase = .waiting ∨
    (∃ error, w.phase = .exhausted error) ∨
    ∃ i ∈ [PolicyStep.observe, .submit, .answer []], (w.next i).isSome := by
  cases hphase : w.phase with
  | observing _ => exact .inr (.inr ⟨.observe, by simp, by simp [next, hphase]⟩)
  | waiting => exact .inl rfl
  | applying decision =>
    have hgiveUp : decision ≠ .GiveUp := by
      have hplaced := h.placed
      simp only [Placed, hphase] at hplaced
      exact hplaced.2.1
    refine .inr (.inr ⟨.submit, by simp, ?_⟩)
    cases decision <;> simp [next, hphase, command] at hgiveUp ⊢
  | requesting _ => exact .inr (.inr ⟨.answer [], by simp, by simp [next, hphase]⟩)
  | exhausted error => exact .inr (.inl ⟨error, rfl⟩)
  | returned =>
    have hplaced := h.placed
    simp [Placed, hphase] at hplaced

/-- The steps that were taken are paid for by decisions and wake-ups. -/
def Within (recovery : MediaRecoveryPolicy) (input : MediaPolicyInput) (done : List PolicyStep)
    (w : PolicyTask) : Prop :=
  Bounded recovery input w ∧
    done.length + w.pending ≤ 3 * w.decisions.length + 2 * done.countP PolicyStep.isWake + 1

lemma within_run {session : Session} {latestGeneration : UInt64} {inputs : List PolicyStep}
    (hnonzero : ∀ route, input.route = some route → route.routeGeneration ≠ 0)
    (hlive : session.ended = false)
    (hrun : (policyTask.guard fun w i => w.undisturbed i = true).run
      (spawned recovery input session latestGeneration) inputs = some w) :
    Within recovery input inputs w := by
  have h₀ : Within recovery input [] (spawned recovery input session latestGeneration) :=
    ⟨bounded_spawned recovery input latestGeneration hlive, Nat.le_refl 1⟩
  refine Machine.run_invariant_inputs ?_ h₀ hrun
  intro done w i w' ⟨h, hlength⟩ hnext
  obtain ⟨hguard, hnext⟩ := Machine.guard_next.1 hnext
  have hstep := h.ownStep hguard hnext
  have hpending := hstep.pending
  refine ⟨h.step hnonzero hstep, ?_⟩
  rw [List.length_append, List.countP_append, List.length_singleton, List.countP_singleton]
  cases hwake : i.isWake <;> simp [hwake] at hpending ⊢ <;> omega

/-- An undisturbed task makes at most one decision more than it may make attempts, and goes
on until it waits or gives up. A run that is not woken is as short as that. -/
theorem recovery_bounded {session : Session} {latestGeneration : UInt64}
    {inputs : List PolicyStep}
    (hnonzero : ∀ route, input.route = some route → route.routeGeneration ≠ 0)
    (hlive : session.ended = false)
    (hrun : (policyTask.guard fun w i => w.undisturbed i = true).run
      (spawned recovery input session latestGeneration) inputs = some w) :
    w.decisions.length ≤ 1 + recovery.maximumAttempts.toNat ∧
    (w.phase = .waiting ∨ (∃ error, w.phase = .exhausted error) ∨
      ∃ i ∈ [PolicyStep.observe, .submit, .answer []], (w.next i).isSome) ∧
    inputs.length ≤
      3 * (1 + recovery.maximumAttempts.toNat) + 1 + 2 * inputs.countP PolicyStep.isWake ∧
    (∀ k delay, w.delays[k]? = some delay →
      (delay.nanos = min (recovery.initialDelay.nanos * 2 ^ k) recovery.maximumDelay.nanos ↔
        k ≤ 30 ∨ recovery.initialDelay.nanos = 0 ∨
          recovery.maximumDelay.nanos ≤ recovery.initialDelay.nanos * 2 ^ 30)) ∧
    (w.phase = .waiting → input.NeedsNoAction w.session.snapshot) ∧
    ∀ route, .Activate route ∈ w.requests → input.Permits route := by
  obtain ⟨h, hlength⟩ := within_run hnonzero hlive hrun
  have hdecisions : w.decisions.length ≤ 1 + recovery.maximumAttempts.toNat := by
    have := h.counted
    have := h.budget
    omega
  refine ⟨hdecisions, h.progress, by omega, ?_, ?_, h.permitted⟩
  · intro k delay hk
    rw [h.delayed k delay hk]
    exact backoff_eq_iff recovery k
  · intro hwaiting
    have hplaced := h.placed
    simp only [Placed, hwaiting] at hplaced
    exact h.sameInput ▸ hplaced

end PolicyTask

/-- An input for which media may run, used by the runs below. -/
def openInput : MediaPolicyInput := ⟨.Attached, .Active, true, true, 1, some sampleRoute⟩

/-- A session whose third generation has failed. -/
def failedSession : Session := { snapshot := ⟨5, 3, .Failed, some sampleRoute, none⟩ }

namespace PolicyTask

/-- Media that have failed are retried once and run. -/
theorem recovery_bounded_retried :
    ∃ w, (policyTask.guard fun w i => w.undisturbed i = true).run
      (spawned {} openInput failedSession 0) [.observe, .submit, .answer [], .observe] = some w ∧
    w.decisions = [.Retry (.fromMillis 250)] ∧ w.phase = .waiting ∧ w.decisions.length ≤ 1 + 6 ∧
    openInput.NeedsNoAction w.session.snapshot := by
  obtain ⟨w, hw, hdecisions, hwaiting⟩ : ∃ w,
      (policyTask.guard fun w i => w.undisturbed i = true).run
        (spawned {} openInput failedSession 0) [.observe, .submit, .answer [], .observe] = some w ∧
      w.decisions = [.Retry (.fromMillis 250)] ∧ w.phase = .waiting :=
    Machine.exists_run (by decide +kernel)
  have hnonzero : ∀ route, openInput.route = some route → route.routeGeneration ≠ 0 := by
    intro route hroute
    cases hroute
    decide
  have h := recovery_bounded hnonzero rfl hw
  exact ⟨w, hw, hdecisions, hwaiting, h.1, h.2.2.2.2.1 hwaiting⟩

/-- A session that has used up its generations. -/
def spentSession : Session := { snapshot := ⟨1, 0xFFFFFFFFFFFFFFFF, .Idle, none, none⟩ }

/-- A generation that cannot be counted up fails the activation without a trace in the
snapshot, so that it is decided on again at once, although no attempt is allowed. After
thirty-one attempts the delay is no longer doubled. -/
theorem activation_repeated :
    (∃ w, policyTask.run (spawned { maximumAttempts := 0 } openInput spentSession 0)
      [.observe, .submit, .answer [], .observe, .submit, .answer [], .observe] = some w ∧
      w.decisions = [.Activate sampleRoute, .Activate sampleRoute, .Activate sampleRoute] ∧
      w.session.snapshot = spentSession.snapshot) ∧
    ∃ delay, ({ attempts := 31 } : RetryTracker).nextDelay
      ⟨40, .saturating 1, .saturating (2 ^ 40)⟩ = some delay ∧
      delay.nanos ≠ min ((Duration.saturating 1).nanos * 2 ^ 31)
        (Duration.saturating (2 ^ 40)).nanos := by
  exact ⟨Machine.exists_run (by decide +kernel), .saturating (2 ^ 30), by decide +kernel,
    by decide +kernel⟩

end PolicyTask

end Pronk.MediaPolicy
