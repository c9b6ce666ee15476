import Pronk.MediaSession.Discipline

/-!
# Media states have a generation

A session that has not started a generation yet publishes none of the states of a
started one. This holds of every snapshot that a driver call finds published, and of
the one between two commands.
-/
namespace Pronk.MediaSession
open Interaction Media Session
open Method (Keeps)

/-- The states that only a started generation has. -/
def startedStates : List MediaState := [.StartingCapture, .StartingMedia, .Running, .Suspended]

def MediaSessionSnapshot.Numbered (snapshot : MediaSessionSnapshot) : Prop :=
  snapshot.mediaGeneration = 0 → snapshot.state ∉ startedStates
deriving Decidable

/-- A snapshot that the session can publish. -/
abbrev PublishedSnapshot := {snapshot : MediaSessionSnapshot // snapshot.Numbered}

namespace Session

/-- Every driver call found a numbered snapshot. -/
def NumberedCalls (log : List Entry) : Prop := ∀ e ∈ log, e.1.published.Numbered

def NumberedSession (s : Session) (log : List Entry) : Prop :=
  s.snapshot.Numbered ∧ NumberedCalls log

/-- The session while a generation is known to be started. -/
def StartedSession (s : Session) (log : List Entry) : Prop :=
  s.snapshot.mediaGeneration ≠ 0 ∧ NumberedCalls log

lemma StartedSession.numbered {s : Session} {log : List Entry} (h : StartedSession s log) :
    NumberedSession s log :=
  ⟨fun hzero => absurd hzero h.1, h.2⟩

lemma NumberedCalls.snoc {log : List Entry} (h : NumberedCalls log) {e : Entry}
    (he : e.1.published.Numbered) : NumberedCalls (log ++ [e]) := by
  intro x hx
  rcases List.mem_append.1 hx with hx | hx
  · exact h x hx
  · exact List.mem_singleton.1 hx ▸ he

/-- The session stays numbered, however the method ends. -/
abbrev Numbers {α : Type} (m : SessionMethod α) : Prop :=
  Keeps anyDriver NumberedSession NumberedSession m

/-- The generation stays started. -/
abbrev Starts {α : Type} (m : SessionMethod α) : Prop :=
  Keeps anyDriver StartedSession StartedSession m

instance (phase : String) (call : DriverCall) : Numbers (runPhase phase call) :=
  ⟨fun _ _ h => wp_runPhase ⟨h.1, h.2.snoc h.1⟩ fun _ _ => ⟨h.1, h.2.snoc h.1⟩⟩

instance (phase : String) (call : DriverCall) : Starts (runPhase phase call) :=
  ⟨fun _ _ h => wp_runPhase ⟨h.1, h.2.snoc h.numbered.1⟩ fun _ _ => ⟨h.1, h.2.snoc h.numbered.1⟩⟩

lemma setState_numbered {media : MediaState} (hmedia : media ∉ startedStates)
    (route : Option MediaRoute) (generation : Option UInt64) (lastError : Option String) :
    Numbers (setState media route generation lastError) :=
  Keeps.modify fun _ _ h => ⟨fun _ => by simpa using hmedia, h.2⟩

instance (media : MediaState) (route : Option MediaRoute)
    (lastError : Option String) : Starts (setState media route none lastError) :=
  Keeps.modify fun _ _ h => ⟨by simpa using h.1, h.2⟩

instance fail_numbered (route : Option MediaRoute) (error : MediaSessionActorError) :
    Numbers (fail route error) :=
  setState_numbered (by decide) _ _ _

instance (reason : MediaStopReason) : Numbers (runStop reason) := by
  unfold runStop
  infer_instance

instance (route : MediaRoute) (reason : MediaStopReason) : Numbers (retire route reason) := by
  refine .seq (setState_numbered (by decide) _ _ _) fun _ => .seq inferInstance fun stopped => ?_
  cases stopped <;> infer_instance

instance (request : MediaStartRequest) (phase : String) (call : DriverCall) :
    Starts (startPhase request phase call) := by
  refine .seq inferInstance fun started => ?_
  unfold rollbackAfterStartFailure
  cases started <;> infer_instance

instance (route : MediaRoute) : Numbers (start route) := by
  refine .get_bind fun s log h => Then.okOr (fun _ => h) fun generation hnext => ?_
  have hgeneration : generation ≠ 0 := by
    rintro rfl
    simp [checkedSucc_eq_some] at hnext
  refine Then.modify ?_
  -- from here on the generation is not zero
  have hstarted : StartedSession { s with
      snapshot := s.snapshot.setState .StartingCapture (some route) (some generation) none } log :=
    ⟨by simpa using hgeneration, h.2⟩
  have hrest : Starts (do
      startPhase ⟨generation, route⟩ "start capture" (.startCapture ⟨generation, route⟩)
      setState .StartingMedia (some route) none none
      startPhase ⟨generation, route⟩ "start backend media" (.startMedia ⟨generation, route⟩)
      setState .Running (some route) none none) := inferInstance
  exact Method.wp_mono (hrest.wp _ _ hstarted) (fun _ _ _ h => h.numbered) fun _ _ _ h => h.numbered

instance (route : MediaRoute) : Numbers (activate route) := by
  unfold activate retireCurrent
  infer_instance

instance (reason : MediaSuspendReason) : Numbers (suspend reason) := by
  refine .get_bind fun s log h => ?_
  split_ifs with hsuspended
  · exact h
  refine Then.failIf (fun _ => h) fun hrunning => ?_
  rw [not_not] at hrunning
  have hstarted : s.snapshot.mediaGeneration ≠ 0 :=
    fun hzero => absurd (h.1 hzero) (by simp [hrunning, startedStates])
  refine Then.attempt (wp_runPhase ?_ fun error outcome => ?_)
  · exact ⟨fun hzero => absurd hzero (by simpa using hstarted), h.2.snoc h.1⟩
  · exact Then.of ((fail_numbered _ _).wp _ _ ⟨h.1, h.2.snoc h.1⟩)

instance (reason : MediaStopReason) : Numbers (stopToIdle reason) := by
  have hidle : Numbers (setState .Idle none none none) := setState_numbered (by decide) _ _ _
  have hstopping : Numbers (setState .Stopping none none none) :=
    setState_numbered (by decide) _ _ _
  unfold stopToIdle
  infer_instance

instance : Numbers retry := by
  refine .seq .get fun s => ?_
  split <;> infer_instance

instance (error : String) : Numbers (reportExternalFailure error) :=
  .seq .get fun _ => .seq inferInstance fun _ =>
    .seq (setState_numbered (by decide) _ _ _) fun _ => inferInstance

instance (reason : MediaStopReason) : Numbers (finish reason) := by
  unfold finish shutdownDriver
  exact .seq inferInstance fun _ => .seq (.modify fun _ _ h => h) fun _ => inferInstance

lemma turn_numbered (command : Option CommandKind) : Numbers (turn command) := by
  have hhandle : Numbers (handle command) := by
    unfold handle
    split <;> infer_instance
  have hnote : Numbers (Method.modify fun s => { s with handled := s.handled ++ [command] }) :=
    .modify fun _ _ h => h
  unfold turn
  infer_instance

end Session

/-- What the session publishes can be observed by the owner of its display. -/
theorem reach_numbered {s : Session} {log : List Entry}
    (h : mediaSession.Reach anyDriver {} [] s log) : NumberedSession s log :=
  h.invariant (I := NumberedSession) ⟨by decide, by simp [NumberedCalls]⟩
    fun s log command hinv => by
      refine Program.wp_mono _ ((turn_numbered command).wp s log hinv) ?_
      rintro ⟨_ | _, s'⟩ log' hs' <;> exact hs'

theorem reach_numbered_willing : NumberedSession willingRun.1 willingRun.2 :=
  reach_numbered (Service.Reach.play id (fun _ _ => ⟨trivial, rfl⟩) _ .init)

end Pronk.MediaSession
