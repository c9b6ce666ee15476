import Pronk.Actor.Rehearsal
import Pronk.Actor.Start

/-!
# Teardowns over whole runs

Every turn of the loop keeps the coupling of the generation with the kernel, so
every teardown of every run is clean, as long as `reconcile_grant_state` does not
stop a stream that has a request in flight. Without that condition it is not: the
rehearsed poll stops the stream under a queued request, whose frame event then
never comes.
-/
namespace Pronk.Actor
open CastKms Capture Interaction Media Rehearsal ActorState Service.Reach

lemma Branch.body_turn (config : CastKmsActorConfig) (branch : Branch) :
    Turn [] (branch.body config) := by
  cases branch <;> unfold Branch.body <;> infer_instance

/-- A run that goes on keeps the coupling, and a run that has ended keeps what it
recorded. -/
structure RunInv (s : ActorState) (w : World) : Prop where
  clean : Clean s w
  inv : s.returned = none → InStep [] s w

lemma Branch.run_inv (config : CastKmsActorConfig) (branch : Branch) {s : ActorState}
    {w : World} (h : RunInv s w) :
    (branch.run config s).wp (contract Unqueued) w fun out w' => RunInv out.2 w' := by
  unfold Branch.run
  split_ifs with hreturned
  · exact h
  · have hbody := (branch.body_turn config).wp s w (h.inv (by simpa using hreturned))
    rw [Program.wp_bind]
    refine Program.wp_mono _ hbody ?_
    rintro ⟨⟨_⟩ | ⟨_ | _⟩, s'⟩ w' h'
    · exact ⟨h', nofun⟩
    · exact ⟨h'.clean, fun _ => h'⟩
    · exact ⟨h'.clean, nofun⟩

lemma initial_inv (config : CastKmsActorConfig) (lease : GrantLease) (cec : CecTracker)
    (current : KernelDisplayObservation) :
    RunInv (initial config lease cec current) {} := by
  have hclean : Clean (initial config lease cec current) {} := nofun
  exact ⟨hclean, fun _ => ⟨hclean, .idle rfl rfl ⟨rfl, rfl⟩⟩⟩

/-- Every teardown succeeds, finds every buffer idle and destroys the pool. -/
theorem teardowns_clean (config : CastKmsActorConfig) (lease : GrantLease) (cec : CecTracker)
    (current : KernelDisplayObservation) {s : ActorState} {w : World}
    (h : (actorService config).Reach (contract Unqueued)
      (initial config lease cec current) {} s w) :
    ∀ t, .tornDown t ∈ s.trace → t.Clean := by
  have hinv : RunInv s w := h.invariant (initial_inv config lease cec current)
    fun _ _ branch hi => Branch.run_inv config branch hi
  intro t ht
  exact hinv.clean t (mem_teardowns.2 ht)

def sampleConfig : CastKmsActorConfig where
  sessionId := "session"
  deviceInstance := "device"
  nodeDescription := "display"
  outputIndex := 0
  videoProfileId := "video"
  audioProfileId := none
  videoBitrate := 1
  deviceControl := false

def sampleGrant : GrantLease := ⟨1, 1, 0, 9, 0, 0, 12⟩

def sampleState : ActorState :=
  initial sampleConfig sampleGrant {} ⟨⟨.Attached, none⟩, .Active⟩

def sampleGeneration : NonZeroU64 := 1

def sampleRequest : MediaStartRequest := ⟨1, 1, ⟨3⟩, ⟨640, 480, 60000, 0⟩⟩

/-- Start a generation and queue the first buffer that PipeWire offers. -/
def sampleBranches : List Branch :=
  [.start sampleRequest, .activate sampleGeneration,
   .sourceEvent (some (.BufferAvailable sampleGeneration 12 .SyncTimeline))]

/-- A generation is started and its first buffer queued. -/
def startedRun (config : CastKmsActorConfig) (s : ActorState) (prompt : Bool) :
    ActorState × Rehearsal :=
  (actorService config).play (script prompt false) sampleBranches s {}

/-- Then the display loses its master, and a poll notices. -/
def lostMasterRun (prompt : Bool) : ActorState × Rehearsal :=
  let started := startedRun sampleConfig sampleState prompt
  (actorService sampleConfig).play (script prompt true) [.poll] started.1 started.2

lemma lostMasterRun_reach (prompt : Bool) {E : Environment World ActorCall ActorCall.Reply}
    (hE : ∀ masterless v c, E v.world c (script prompt masterless v c).1
      (script prompt masterless v c).2.world) :
    (actorService sampleConfig).Reach E sampleState {} (lostMasterRun prompt).1
      (lostMasterRun prompt).2.world :=
  play world (hE true) _
    (play world (hE false) _ .init)

/-- Under a prompt kernel the frame event is there when the teardown reads. -/
theorem teardowns_clean_prompt :
    (lostMasterRun true).1.teardowns.length = 1 ∧
      ∀ t, .tornDown t ∈ (lostMasterRun true).1.trace → t.Clean :=
  ⟨by decide +kernel, teardowns_clean sampleConfig sampleGrant {} ⟨⟨.Attached, none⟩, .Active⟩
    (lostMasterRun_reach true fun masterless v c =>
      (contract_script true masterless v c).mono fun _ _ h => h rfl)⟩

/-- The error of a teardown whose drain saw no event: the pool stays busy. -/
def drainTimedOut : KernelDisplayError where
  operation := "stop capture generation"
  message := [.text "drain CastKMS capture", .text ": ",
    .text "timed out waiting for canceled capture event", .text "; ",
    .text "destroy retired CastKMS capture pool: ", .capture .RetiredStreamBusy]

/-- No ioctl fails, and yet the teardown waits for an event that the stop removed. -/
theorem teardown_times_out_after_reconcile :
    ∃ s w t, (actorService sampleConfig).Reach Faultless sampleState {} s w ∧
      .tornDown t ∈ s.trace ∧ ¬ t.Clean ∧ t.destroyed = none ∧
      t.result = .error drainTimedOut := by
  have hfailed : ∃ t ∈ (lostMasterRun false).1.teardowns, ¬ t.Clean ∧ t.destroyed = none ∧
      t.result = .error drainTimedOut := by
    decide +kernel
  obtain ⟨t, ht, hresult⟩ := hfailed
  refine ⟨_, _, t, lostMasterRun_reach false fun masterless v c => ?_,
    mem_teardowns.1 ht, hresult⟩
  exact ⟨(contract_script false masterless v c).mono fun _ _ _ => trivial,
    successful_script false masterless v c⟩

/-- While a generation is active, the actor, the tracker and the kernel know of the same
request, at most one, whose buffer is queued or completed with it. -/
theorem requests_agree (config : CastKmsActorConfig) (lease : GrantLease) (cec : CecTracker)
    (current : KernelDisplayObservation) {s : ActorState} {w : World} {g : ActiveGeneration}
    (h : (actorService config).Reach (contract Unqueued)
      (initial config lease cec current) {} s w)
    (hrunning : s.returned = none) (hactive : s.active = some g) :
    ∃ live st, s.client.capture = .holding live st ∧ st.info = g.stream ∧
      g.outstanding.length ≤ 1 ∧ w.inFlight.length + w.frames.length ≤ g.outstanding.length ∧
      (∀ o ∈ g.outstanding, ∃ b, st.buffer o.queue.bufferId = some b ∧
        (b.state = .Queued o.queue ∨ ∃ f, b.state = .Completed ⟨o.queue, f⟩)) ∧
      ∀ b ∈ st.buffers, b.id ∉ g.outstanding.map (·.queue.bufferId) → Settled b := by
  have hinv : RunInv s w := h.invariant (initial_inv config lease cec current)
    fun _ _ branch hi => Branch.run_inv config branch hi
  cases (hinv.inv hrunning).holds with
  | idle ha => simp [ha] at hactive
  | busy ha hc hk hcoupled =>
    obtain rfl := Option.some.inj (ha.symm.trans hactive)
    refine ⟨_, _, hc, hk.info, ?_⟩
    generalize ActiveGeneration.outstanding _ = outstanding at hcoupled ⊢
    cases hcoupled with
    | idle hw hs => simpa [hw.inFlight, hw.frames] using hs
    | queued ho hb hw =>
      have hkernel : w.inFlight.length + w.frames.length ≤ 1 := by cases hw <;> simp [*]
      simpa [hkernel, ho.buffer, hb] using ho.others
    | completed ho hb hw => simpa [hw.inFlight, hw.frames, ho.buffer, hb] using ho.others

theorem requests_agree_started :
    ∃ g live st, (startedRun sampleConfig sampleState true).1.active = some g ∧
      (startedRun sampleConfig sampleState true).1.client.capture = .holding live st := by
  have hrunning : (startedRun sampleConfig sampleState true).1.returned.isNone := by
    decide +kernel
  have hactive : (startedRun sampleConfig sampleState true).1.active.isSome := by decide +kernel
  obtain ⟨g, hg⟩ := Option.isSome_iff_exists.1 hactive
  have hreach (prompt : Bool) (hp : prompt = true) : (actorService sampleConfig).Reach
      (contract Unqueued) sampleState {} (startedRun sampleConfig sampleState prompt).1
      (startedRun sampleConfig sampleState prompt).2.world := by
    have hE (v : Rehearsal) (c : ActorCall) : contract Unqueued v.world c
        (script prompt false v c).1 (script prompt false v c).2.world :=
      (contract_script prompt false v c).mono fun _ _ h => h hp
    exact play world hE _ .init
  obtain ⟨live, st, hc, -⟩ := requests_agree sampleConfig sampleGrant {}
    ⟨⟨.Attached, none⟩, .Active⟩ (hreach true rfl) (Option.isNone_iff_eq_none.1 hrunning) hg
  exact ⟨g, live, st, hg, hc⟩

end Pronk.Actor
