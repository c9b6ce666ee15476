import Pronk.Chromiacast.Methods
import Pronk.Library.Trace

/-!
# What a successful StopMedia says about the owners of a generation

Each generation is stopped once by every owner that received it, and the record of the
owners is cleared whatever they answered. A second StopMedia for the generation is then
answered Ok without asking any of them.
-/
namespace Pronk.Chromiacast
open Interaction Method Media Trace

variable {κ ρ : Type} {s : ChromiacastMediaSession κ} {log : List Entry}

/-- All owners that received the generation have stopped it. -/
def Stopped (log : List Entry) (generation : NonZeroU64) : Prop :=
  ∀ owner, (ledger log).Received owner generation →
    true ∈ (ledger log).outcomes owner generation

/-- Some owner was asked to stop the generation and failed. -/
def StopFailed (log : List Entry) (generation : NonZeroU64) : Prop :=
  ∃ owner, false ∈ (ledger log).outcomes owner generation

/-- An answered `stop_media`. With Ok, the generation is completed, and its owners have
stopped it exactly if none of them had failed to before the call. -/
structure StopAnswer (log : List Entry) (s : ChromiacastMediaSession κ) (mediaGeneration : UInt64)
    (ok : Prop) (s' : ChromiacastMediaSession κ) (calls : List Entry) : Prop where
  valid : Valid s' (ledger (log ++ calls))
  kept : ∀ generation, ¬ s.Newer generation → ¬ s'.Newer generation
  completed : ok → ∀ generation, generation.get = mediaGeneration → ¬ s'.Newer generation
  stopped : ok → ∀ generation, generation.get = mediaGeneration →
    (Stopped (log ++ calls) generation ↔ ¬ StopFailed log generation)

section StopMedia

open ChromiacastMediaSession

lemma StopAnswer.unchanged (h : Valid s (ledger log)) {mediaGeneration : UInt64} {ok : Prop}
    (hok : ¬ ok) : StopAnswer log s mediaGeneration ok s [] :=
  ⟨by simpa using h, fun _ h' => h', fun h' => absurd h' hok, fun h' => absurd h' hok⟩

lemma not_newer_completed {generation : NonZeroU64}
    (h : s.completedGeneration = some generation) : ¬ s.Newer generation :=
  fun hnewer => UInt64.lt_irrefl _ (hnewer generation h)

lemma Closed.kept {s' : ChromiacastMediaSession κ} {generation : NonZeroU64} {calls : List Entry}
    (h : Closed log generation s' calls) (hnewer : s.Newer generation) {other : NonZeroU64}
    (hother : ¬ s.Newer other) : ¬ s'.Newer other := by
  intro hnew
  have hlt : generation.get < other.get := hnew generation h.completed
  exact hother fun completed hcompleted => UInt64.lt_trans (hnewer completed hcompleted) hlt

lemma stopMedia_spec (h : Valid s (ledger log)) (mediaGeneration : UInt64) :
    (stopMedia mediaGeneration).wp anyOwners s []
      (fun _ => StopAnswer log s mediaGeneration True)
      (fun _ => StopAnswer log s mediaGeneration False) := by
  have hsame : StopAnswer log s mediaGeneration False s [] := .unchanged h id
  rw [stopMedia, wp_bind, wp_lift]
  refine ⟨fun _ _ => hsame, fun generation hgeneration => ?_⟩
  have hget := NonZeroU64.newOr_eq_ok.1 hgeneration
  rw [wp_bind, wp_get, wp_ite]
  constructor
  · rintro ⟨hprepared, hcompleted⟩
    have hclosed := not_newer_completed hcompleted
    have hbooks := h.books (by simp [hprepared])
    refine ⟨by simpa using h, fun _ h' => h', ?_, ?_⟩
    · intro _ other hother
      rwa [NonZeroU64.ext (hother.trans hget.symm)]
    · intro _ other hother
      rw [NonZeroU64.ext (hother.trans hget.symm), List.append_nil, StopFailed, not_exists]
      exact hbooks.stopped_iff hclosed
  · intro _
    rw [wp_bind, wp_failIf]
    refine ⟨fun _ => hsame, fun hstate => ?_⟩
    have hbooks := h.books (by rintro hstopped; simp [hstopped] at hstate)
    rw [wp_bind, wp_lift]
    refine ⟨fun _ _ => hsame, fun _ hmatching => ?_⟩
    have hactive : s.activeGeneration = some generation := by
      unfold requireMatchingGeneration at hmatching
      split_ifs at hmatching with hactive
      exact hactive
    have hnewer := hbooks.newer generation hactive
    refine wp_mono (stopOwners_spec hbooks hactive) ?_ ?_
    · rintro _ s' calls ⟨hclosed, hstopped⟩
      refine ⟨.inl ⟨by simp [hclosed.state], hclosed.books⟩, fun _ => hclosed.kept hnewer, ?_, ?_⟩
      · intro _ other hother
        rw [NonZeroU64.ext (hother.trans hget.symm)]
        exact not_newer_completed hclosed.completed
      · intro _ other hother
        rw [NonZeroU64.ext (hother.trans hget.symm)]
        refine iff_of_true hstopped ?_
        rintro ⟨owner, hfailed⟩
        simp [(hbooks.active generation hactive owner).1] at hfailed
    · intro _ s' calls hclosed
      exact ⟨.inl ⟨by simp [hclosed.state], hclosed.books⟩, fun _ => hclosed.kept hnewer,
        fun hfalse => hfalse.elim, fun hfalse => hfalse.elim⟩

end StopMedia

section Runs

variable {admission : Admission κ ρ}

/-- All calls on the owners in a history. -/
def callsOf (h : List (mediaSession admission).Invocation) : List Entry := h.flatMap (·.calls)

/-- The call is a `stop_media` for the generation that was answered Ok. -/
def StopsOk (generation : NonZeroU64) (inv : (mediaSession admission).Invocation) : Prop :=
  inv.op = SessionOp.stopMedia generation.get ∧ inv.ret = .ok ⟨⟩

/-- After Ok every owner has stopped the generation, except if one of them had already
failed to in an earlier call. -/
def StopMeansStopped (before : List (mediaSession admission).Invocation)
    (inv : (mediaSession admission).Invocation) : Prop :=
  ∀ generation, StopsOk generation inv →
    (Stopped (callsOf before ++ inv.calls) generation ↔ ¬ StopFailed (callsOf before) generation)

structure RunInv (h : List (mediaSession admission).Invocation) (s : ChromiacastMediaSession κ) :
    Prop where
  valid : Valid s (ledger (callsOf h))
  answers : Lawful StopMeansStopped h
  completed : ∀ inv ∈ h, ∀ generation, StopsOk generation inv → ¬ s.Newer generation

namespace RunInv

variable {h : List (mediaSession admission).Invocation} {s' : ChromiacastMediaSession κ}

lemma callsOf_snoc (inv : (mediaSession admission).Invocation) :
    callsOf (h ++ [inv]) = callsOf h ++ inv.calls := by
  simp [callsOf]

lemma snoc (hinv : RunInv h s) {inv : (mediaSession admission).Invocation}
    (hvalid : Valid s' (ledger (callsOf h ++ inv.calls)))
    (hkept : ∀ generation, ¬ s.Newer generation → ¬ s'.Newer generation)
    (hanswer : StopMeansStopped h inv)
    (hcompleted : ∀ generation, StopsOk generation inv → ¬ s'.Newer generation) :
    RunInv (h ++ [inv]) s' where
  valid := by rwa [callsOf_snoc]
  answers := hinv.answers.snoc hanswer
  completed := by
    intro other hother generation hok
    rcases List.mem_append.1 hother with hold | hnew
    · exact hkept generation (hinv.completed other hold generation hok)
    · rw [List.mem_singleton.1 hnew] at hok
      exact hcompleted generation hok

lemma advanced (hinv : RunInv h s) {op : SessionOp κ ρ} {ret : Except MediaSessionError PUnit}
    {calls : List Entry} (hop : ∀ mediaGeneration, op ≠ .stopMedia mediaGeneration)
    (h' : Advanced (callsOf h) s s' calls) : RunInv (h ++ [⟨op, ret, calls⟩]) s' := by
  refine hinv.snoc h'.valid ?_ (fun _ hok => absurd hok.1 (hop _))
    fun _ hok => absurd hok.1 (hop _)
  intro generation hold hnewer
  exact hold fun completed hcompleted => hnewer completed (h'.completed ▸ hcompleted)

lemma step (hinv : RunInv h s) {op : SessionOp κ ρ}
    (hop : ∀ mediaGeneration, op ≠ .stopMedia mediaGeneration)
    (hadvances : Advances (callsOf h) s (op.run admission)) :
    ((mediaSession admission).run op s).wp anyOwners []
      fun out calls => RunInv (h ++ [⟨op, out.1, calls⟩]) out.2 := by
  refine Program.wp_mono anyOwners hadvances ?_
  rintro ⟨e | a, s'⟩ calls hout <;> exact hinv.advanced hop hout

lemma stopAnswer (hinv : RunInv h s) {mediaGeneration : UInt64}
    {ret : Except MediaSessionError PUnit}
    {calls : List Entry} (h' : StopAnswer (callsOf h) s mediaGeneration (ret = .ok ⟨⟩) s' calls) :
    RunInv (h ++ [⟨SessionOp.stopMedia mediaGeneration, ret, calls⟩]) s' := by
  refine hinv.snoc h'.valid h'.kept ?_ ?_
  · rintro generation ⟨hop, hret⟩
    exact h'.stopped hret generation (SessionOp.stopMedia.inj hop).symm
  · rintro generation ⟨hop, hret⟩
    exact h'.completed hret generation (SessionOp.stopMedia.inj hop).symm

end RunInv

lemma run_inv {h : List (mediaSession admission).Invocation}
    (hrun : (mediaSession admission).Run (fun _ _ => True) {} h s) : RunInv h s := by
  refine hrun.invariant ⟨.inl ⟨by simp, Books.initial⟩, .nil, by simp⟩ fun h s op hinv => ?_
  cases op with
  | completePreparation capabilities =>
    exact hinv.step (by simp) (completePreparation_advances hinv.valid admission capabilities)
  | configure request mediaGeneration =>
    exact hinv.step (by simp) (configure_advances hinv.valid admission request mediaGeneration)
  | start mediaGeneration => exact hinv.step (by simp) (start_advances hinv.valid mediaGeneration)
  | suspend => exact hinv.step (by simp) (suspend_advances hinv.valid)
  | resume mediaGeneration => exact hinv.step (by simp) (resume_advances hinv.valid mediaGeneration)
  | shutdown => exact hinv.step (by simp) (shutdown_advances hinv.valid)
  | stopMedia mediaGeneration =>
    refine Program.wp_mono anyOwners (stopMedia_spec hinv.valid mediaGeneration) ?_
    rintro ⟨e | a, s'⟩ calls hout
    · exact hinv.stopAnswer (by simpa using hout)
    · exact hinv.stopAnswer (by simpa using hout)

/-- In every run: a `stop_media` that is answered Ok leaves all owners stopped exactly if
no owner had failed to stop the generation before, and then the generation's application
never stands in the way of a later one. -/
theorem stop_media_ok_means_stopped {h : List (mediaSession admission).Invocation}
    (hrun : (mediaSession admission).Run (fun _ _ => True) {} h s) :
    Lawful StopMeansStopped h ∧ ∀ generation, (∃ inv ∈ h, StopsOk generation inv) →
      ¬ StopFailed (callsOf h) generation → s.activeApp ≠ some generation := by
  have hinv := run_inv hrun
  refine ⟨hinv.answers, ?_⟩
  rintro generation ⟨inv, hmem, hok⟩ hnone happ
  rcases hinv.valid.leftover generation happ with hnewer | hfailed
  · exact hinv.completed inv hmem generation hok hnewer
  · exact hnone ⟨.app, hfailed⟩

end Runs

/-- Every request is admitted, as a video-only generation. -/
def openAdmission : Admission Unit Unit where
  capabilities := fun _ => .ok ()
  configuration := fun _ _ => .ok ()
  graphConfiguration := fun _ _ _ => .ok ⟨false, 8000000⟩

/-- Owners that do what they are asked for, on a receiver whose application can be stopped
or not. -/
def receiver (stoppable : Bool) (_ : List Entry) : (c : OwnerCall) → OwnerReply c
  | .negotiate _ audio => .ok ⟨audio⟩
  | .stopApp _ => if stoppable then .ok () else .error "timed out"
  | .graph _ _ => .ok ()
  | .sender _ _ _ => .ok ()
  | .releasePort _ _ => .ok ()
  | .shutdownGraph => .ok ()
  | .shutdownSender _ => .ok ()

/-- The calls of a history with their answers. -/
def answersOf (h : List (mediaSession openAdmission).Invocation) :
    List (SessionOp Unit Unit × Except MediaSessionError PUnit) :=
  h.map fun inv => (inv.op, inv.ret)

/-- Two stops of the first generation, and then the second one. -/
def twoGenerations (stoppable : Bool) :
    List (mediaSession openAdmission).Invocation × ChromiacastMediaSession Unit :=
  (mediaSession openAdmission).replay (receiver stoppable) [.completePreparation (),
    .configure () 1, .start 1, .stopMedia 1, .stopMedia 1, .configure () 2] {}

/-- The stop that failed is answered Ok when it is asked for again, and the application that
is still active keeps the second generation out. -/
theorem repeated_stop_hides_active_app :
    (mediaSession openAdmission).Run (fun _ _ => True) {} (twoGenerations false).1
      (twoGenerations false).2 ∧
    answersOf (twoGenerations false).1 = [
      (.completePreparation (), .ok ⟨⟩), (.configure () 1, .ok ⟨⟩), (.start 1, .ok ⟨⟩),
      (.stopMedia 1, .error (.Transport "stop Cast mirroring app: timed out")),
      (.stopMedia 1, .ok ⟨⟩),
      (.configure () 2, .error (.Transport "a Cast mirroring application is already active"))] ∧
    ¬ Stopped (callsOf (twoGenerations false).1) ⟨1, by decide⟩ := by
  refine ⟨Service.run_replay (fun _ _ => trivial) _ _, by decide +kernel, ?_⟩
  intro hstopped
  have happ := hstopped .app (by decide +kernel)
  revert happ
  decide +kernel

/-- With a receiver that stops its application the same calls reach the second generation. -/
theorem stop_media_ok_means_stopped_stoppable :
    (mediaSession openAdmission).Run (fun _ _ => True) {} (twoGenerations true).1
      (twoGenerations true).2 ∧
    answersOf (twoGenerations true).1 = [
      (.completePreparation (), .ok ⟨⟩), (.configure () 1, .ok ⟨⟩), (.start 1, .ok ⟨⟩),
      (.stopMedia 1, .ok ⟨⟩), (.stopMedia 1, .ok ⟨⟩), (.configure () 2, .ok ⟨⟩)] ∧
    Lawful StopMeansStopped (twoGenerations true).1 := by
  have hrun : (mediaSession openAdmission).Run (fun _ _ => True) {} (twoGenerations true).1
      (twoGenerations true).2 := Service.run_replay (fun _ _ => trivial) _ _
  exact ⟨hrun, by decide +kernel, (stop_media_ok_means_stopped hrun).1⟩

end Pronk.Chromiacast
