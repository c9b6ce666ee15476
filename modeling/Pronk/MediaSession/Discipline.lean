import Pronk.Library.Trace
import Pronk.MediaSession.Actor

/-!
# What the actor asks of its driver

Every call is allowed by the calls before it: generations are started one after the
other, each only after the one before was stopped, and nothing follows the final
shutdown. When a command has been answered, the published state says what the driver
did last.
-/
namespace Pronk.MediaSession
open Interaction Method Media Trace MediaSessionSnapshot

abbrev Entry := Exchange DriverRequest Reply

/-- Every outcome of every driver call, with the calls recorded. -/
abbrev anyDriver : Environment (List Entry) DriverRequest Reply := recording fun _ _ => True

namespace Entry

def call (e : Entry) : DriverCall := e.1.call

def outcome (e : Entry) : PhaseOutcome := e.2

def started? (e : Entry) : Option UInt64 :=
  match e.call with
  | .startCapture request => some request.mediaGeneration
  | _ => none

def isShutdown (e : Entry) : Bool :=
  match e.call with
  | .shutdown _ => true
  | _ => false

end Entry

open Entry

/-- A stop of the generation that the first entry started returned Ok. -/
def Stops (x y : Entry) : Prop :=
  ∃ generation reason, x.started? = some generation ∧ y.call = .stop generation reason ∧
    y.outcome = .succeeded

/-- Every started generation was stopped afterwards. -/
abbrev AllStopped (log : List Entry) : Prop := Answered Stops (·.started?.isSome) log

/-- What the driver may be asked for after the calls in `log`. -/
structure Allowed (log : List Entry) (e : Entry) : Prop where
  live : ∀ x ∈ log, x.isShutdown = false
  startCapture : ∀ request, e.call = .startCapture request →
    request.mediaGeneration.toNat = (log.filterMap started?).length + 1 ∧ AllStopped log
  startMedia : ∀ request, e.call = .startMedia request → ∃ before x, log = before ++ [x] ∧
    x.call = .startCapture request ∧ x.outcome = .succeeded
  suspend : ∀ generation reason, e.call = .suspend generation reason →
    e.1.published.state = .Running ∧ e.1.published.mediaGeneration = generation

/-- What an answered command leaves behind. -/
def Settled (snapshot : MediaSessionSnapshot) (log : List Entry) : Prop :=
  match snapshot.state with
  | .Idle => AllStopped log
  | .Running => ∃ route before x y, snapshot.route = some route ∧ log = before ++ [x, y] ∧
      x.call = .startCapture ⟨snapshot.mediaGeneration, route⟩ ∧ x.outcome = .succeeded ∧
      y.call = .startMedia ⟨snapshot.mediaGeneration, route⟩ ∧ y.outcome = .succeeded
  | .Suspended => True
  | .Failed => True
  | _ => False

/-- The calls of a live driver whose last started generation is `generation`. -/
structure Ledger (generation : UInt64) (log : List Entry) : Prop where
  lawful : Lawful Allowed log
  live : ∀ x ∈ log, x.isShutdown = false
  count : (log.filterMap started?).length = generation.toNat
  closed : Answered Stops (fun x => x.started?.isSome ∧ x.started? ≠ some generation) log

namespace Ledger

variable {generation : UInt64} {log : List Entry} {e : Entry}

lemma nil : Ledger 0 [] := ⟨.nil, by simp, rfl, .nil⟩

lemma other (h : Ledger generation log) (hstart : e.started? = none)
    (hlive : e.isShutdown = false) (hallowed : Allowed log e) : Ledger generation (log ++ [e]) where
  lawful := h.lawful.snoc hallowed
  live := by
    intro x hx
    rcases List.mem_append.1 hx with hold | hnew
    · exact h.live x hold
    · rwa [List.mem_singleton.1 hnew]
  count := by simp [hstart, h.count]
  closed := h.closed.snoc (fun _ _ hx => .inl hx) (by simp [hstart])

lemma stop (h : Ledger generation log) {reason : MediaStopReason} {g : UInt64}
    (hcall : e.call = .stop g reason) : Ledger generation (log ++ [e]) :=
  h.other (by simp [started?, hcall]) (by simp [isShutdown, hcall])
    ⟨h.live, by simp [hcall], by simp [hcall], by simp [hcall]⟩

lemma startMedia (h : Ledger generation log) {before : List Entry} {x : Entry}
    {request : MediaStartRequest} (hlog : log = before ++ [x])
    (hx : x.call = .startCapture request) (hok : x.outcome = .succeeded)
    (hcall : e.call = .startMedia request) : Ledger generation (log ++ [e]) := by
  refine h.other (by simp [started?, hcall]) (by simp [isShutdown, hcall])
    ⟨h.live, by simp [hcall], ?_, by simp [hcall]⟩
  intro request' hrequest'
  rw [hcall] at hrequest'
  obtain rfl := DriverCall.startMedia.inj hrequest'
  exact ⟨before, x, hlog, hx, hok⟩

lemma suspend (h : Ledger generation log) {g : UInt64} {reason : MediaSuspendReason}
    (hcall : e.call = .suspend g reason) (hstate : e.1.published.state = .Running)
    (hgeneration : e.1.published.mediaGeneration = g) : Ledger generation (log ++ [e]) := by
  refine h.other (by simp [started?, hcall]) (by simp [isShutdown, hcall])
    ⟨h.live, by simp [hcall], by simp [hcall], ?_⟩
  intro g' reason' hsuspend
  rw [hcall] at hsuspend
  obtain ⟨rfl, -⟩ := DriverCall.suspend.inj hsuspend
  exact ⟨hstate, hgeneration⟩

/-- A successful stop of the current generation leaves nothing running. -/
lemma allStopped (h : Ledger generation log) {reason : MediaStopReason}
    (hcall : e.call = .stop generation reason) (hok : e.outcome = .succeeded) :
    AllStopped (log ++ [e]) := by
  refine h.closed.snoc ?_ (by simp [started?, hcall])
  intro x _ hx
  by_cases hg : x.started? = some generation
  · exact .inr ⟨generation, reason, hg, hcall, hok⟩
  · exact .inl ⟨hx, hg⟩

lemma allStopped_of_zero (h : Ledger 0 log) : AllStopped log := by
  have hnil : log.filterMap started? = [] := List.length_eq_zero_iff.1 h.count
  refine h.closed.mono fun x hx hsome => ?_
  obtain ⟨g, hg⟩ := Option.isSome_iff_exists.1 hsome
  have hmem : g ∈ log.filterMap started? := List.mem_filterMap.2 ⟨x, hx, hg⟩
  rw [hnil] at hmem
  cases hmem

lemma start (h : Ledger generation log) (hstopped : AllStopped log) {next : UInt64}
    (hnext : checkedSucc generation = some next) {route : MediaRoute}
    (hcall : e.call = .startCapture ⟨next, route⟩) : Ledger next (log ++ [e]) where
  lawful := by
    refine h.lawful.snoc ⟨h.live, ?_, by simp [hcall], by simp [hcall]⟩
    intro request hrequest
    rw [hcall] at hrequest
    obtain rfl := DriverCall.startCapture.inj hrequest
    rw [h.count, checkedSucc_eq_some.1 hnext]
    exact ⟨rfl, hstopped⟩
  live := by
    intro x hx
    rcases List.mem_append.1 hx with hold | hnew
    · exact h.live x hold
    · rw [List.mem_singleton.1 hnew]
      simp [isShutdown, hcall]
  count := by simp [started?, hcall, h.count, checkedSucc_eq_some.1 hnext]
  closed := hstopped.snoc (fun _ _ hx => .inl hx.1) (by simp [started?, hcall])

end Ledger

namespace MediaSessionSnapshot

variable (snapshot : MediaSessionSnapshot) (media : MediaState) (route : Option MediaRoute)
  (generation : Option UInt64) (lastError : Option String)

@[simp] lemma setState_state : (snapshot.setState media route generation lastError).state =
    media := by
  unfold setState
  dsimp only
  split_ifs with h
  · exact h.1
  · rfl

@[simp] lemma setState_route : (snapshot.setState media route generation lastError).route =
    route := by
  unfold setState
  dsimp only
  split_ifs with h
  · exact h.2.1
  · rfl

@[simp] lemma setState_generation :
    (snapshot.setState media route generation lastError).mediaGeneration =
      generation.getD snapshot.mediaGeneration := by
  unfold setState
  dsimp only
  split_ifs with h
  · exact h.2.2.1
  · rfl

end MediaSessionSnapshot

namespace Session

variable {s s₀ : Session} {log : List Entry} {ok : PUnit → Session → List Entry → Prop}
  {err : MediaSessionActorError → Session → List Entry → Prop}

/-- The session at work on the command that it took in `s₀`. -/
structure Ran (s₀ s : Session) (log : List Entry) : Prop where
  ended : s.ended = s₀.ended
  handled : s.handled = s₀.handled
  ledger : Ledger s.snapshot.mediaGeneration log

/-- How a command leaves the session and the record, whatever it is answered. -/
structure Handled (s₀ s : Session) (log : List Entry) : Prop extends Ran s₀ s log where
  settled : s.snapshot.mediaGeneration.toNat < 2 ^ 64 - 1 → Settled s.snapshot log

abbrev Handles (s₀ : Session) (m : SessionMethod PUnit) (s : Session) (log : List Entry) : Prop :=
  m.wp anyDriver s log (fun _ => Handled s₀) fun _ => Handled s₀

namespace Ran

lemma setState (h : Ran s₀ s log) {media : MediaState} {route : Option MediaRoute}
    {lastError : Option String} :
    Ran s₀ { s with snapshot := s.snapshot.setState media route none lastError } log :=
  ⟨h.ended, h.handled, by simpa using h.ledger⟩

lemma rest (h : Ran s₀ s log) {media : MediaState} {route : Option MediaRoute}
    {lastError : Option String} (hmedia : media = .Failed ∨ media = .Suspended) :
    Handled s₀ { s with snapshot := s.snapshot.setState media route none lastError } log := by
  refine { h.setState with settled := fun _ => ?_ }
  rcases hmedia with rfl | rfl <;> simp [Settled]

end Ran

lemma wp_runPhase {phase : String} {call : DriverCall}
    (hok : ok ⟨⟩ s (log ++ [⟨⟨call, s.snapshot⟩, .succeeded⟩]))
    (herr : ∀ error outcome, err error s (log ++ [⟨⟨call, s.snapshot⟩, outcome⟩])) :
    (runPhase phase call).wp anyDriver s log ok err := by
  refine Then.get (Then.request fun outcome log' hE => ?_)
  obtain ⟨-, rfl⟩ := hE
  cases outcome with
  | succeeded => exact hok
  | failed error => exact herr _ _
  | timedOut timeout => exact herr _ _

variable {reason : MediaStopReason}

lemma wp_runStop (h : Ran s₀ s log) (hok : ∀ log', Ran s₀ s log' → AllStopped log' → ok ⟨⟩ s log')
    (herr : ∀ error log', Ran s₀ s log' → err error s log') :
    (runStop reason).wp anyDriver s log ok err := by
  refine Then.get ((wp_when ..).2 ⟨fun _ => ?_, fun hzero => hok log h ?_⟩)
  · exact wp_runPhase (hok _ { h with ledger := h.ledger.stop rfl } (h.ledger.allStopped rfl rfl))
      fun error _ => herr error _ { h with ledger := h.ledger.stop rfl }
  · have hledger := h.ledger
    rw [not_not.1 hzero] at hledger
    exact hledger.allStopped_of_zero

variable {route : MediaRoute}

lemma wp_retire (h : Ran s₀ s log)
    (hok : ∀ s' log', Ran s₀ s' log' → AllStopped log' → ok ⟨⟩ s' log')
    (herr : ∀ error s' log', Handled s₀ s' log' → err error s' log') :
    (retire route reason).wp anyDriver s log ok err :=
  Then.modify (Then.attempt (wp_runStop h.setState (hok _)
    fun error log' h' => herr error _ log' (h'.rest (.inl rfl))))

lemma wp_startPhase {request : MediaStartRequest} {phase : String} {call : DriverCall}
    (h : ∀ outcome, Ran s₀ s (log ++ [⟨⟨call, s.snapshot⟩, outcome⟩]))
    (hok : ok ⟨⟩ s (log ++ [⟨⟨call, s.snapshot⟩, .succeeded⟩]))
    (herr : ∀ error s' log', Handled s₀ s' log' → err error s' log') :
    (startPhase request phase call).wp anyDriver s log ok err := by
  refine Then.attempt (wp_runPhase hok fun error outcome => Then.of (Then.attempt ?_))
  have hstopped (rolledBack : PhaseOutcome) := { h outcome with
    ledger := (h outcome).ledger.stop (e := ⟨⟨.stop request.mediaGeneration .TransportFailure,
      s.snapshot⟩, rolledBack⟩) rfl }
  exact wp_runPhase (herr error _ _ ((hstopped _).rest (.inl rfl)))
    fun _ _ => herr error _ _ ((hstopped _).rest (.inl rfl))

/-- A generation is started once all the earlier ones are stopped. -/
lemma start_spec (h : Ran s₀ s log)
    (hstopped : s.snapshot.mediaGeneration.toNat < 2 ^ 64 - 1 → AllStopped log) :
    Handles s₀ (start route) s log := by
  refine Then.get (Then.okOr (fun hnone => ?_) fun generation hnext => Then.modify ?_)
  · rw [checkedSucc_eq_none] at hnone
    exact { h with settled := fun hlt => by omega }
  · have hbound := checkedSucc_eq_some.1 hnext
    have hlt := generation.toNat_lt
    have hstarted : (s.snapshot.setState .StartingCapture (some route) (some generation)
        none).mediaGeneration = generation := by simp
    generalize s.snapshot.setState _ _ _ _ = capturing at hstarted ⊢
    have hcapture (outcome : PhaseOutcome) : Ran s₀ { s with snapshot := capturing }
        (log ++ [⟨⟨.startCapture ⟨generation, route⟩, capturing⟩, outcome⟩]) :=
      ⟨h.ended, h.handled, by
        simpa [hstarted] using h.ledger.start (hstopped (by omega)) hnext rfl⟩
    refine Then.of (wp_startPhase hcapture (Then.modify (Then.of ?_)) fun _ _ _ h' => h')
    have hcaptured : Ran s₀
        { s with snapshot := capturing.setState .StartingMedia (some route) none none } _ :=
      (hcapture .succeeded).setState
    have hstarting : (capturing.setState .StartingMedia (some route) none none).mediaGeneration =
        generation := by simp [hstarted]
    generalize capturing.setState _ _ _ _ = starting at hcaptured hstarting ⊢
    have hmedia (outcome : PhaseOutcome) := { hcaptured with
      ledger := hcaptured.ledger.startMedia (e := ⟨⟨.startMedia ⟨generation, route⟩, starting⟩,
        outcome⟩) rfl rfl rfl rfl }
    refine wp_startPhase hmedia { (hmedia _).setState with settled := fun _ => ?_ }
      fun _ _ _ h' => h'
    simp only [Settled, setState_state]
    exact ⟨route, log, _, _, by simp, List.append_assoc .., by simp [call, hstarting],
      rfl, by simp [call, hstarting], rfl⟩

lemma activate_spec (h : Handled s₀ s log) :
    Handles s₀ (activate route) s log := by
  have hretired (s' : Session) (log' : List Entry) (h' : Ran s₀ s' log')
      (hstopped : AllStopped log') : Handles s₀ (start route) s' log' :=
    start_spec h' fun _ => hstopped
  refine Then.failIf (fun _ => h) fun _ => Then.get ((wp_ite ..).2 ⟨fun _ => h, fun _ => ?_⟩)
  refine Then.of ((wp_ite ..).2 ⟨fun _ => ?_, fun _ => (wp_when ..).2 ⟨fun _ => ?_,
    fun hidle => start_spec h.toRan fun hlt => ?_⟩⟩)
  · exact wp_retire h.toRan hretired fun _ _ _ h' => h'
  · exact wp_retire h.toRan hretired fun _ _ _ h' => h'
  · simpa only [Settled, not_not.1 hidle] using h.settled hlt

lemma suspend_spec {reason : MediaSuspendReason} (h : Handled s₀ s log) :
    Handles s₀ (suspend reason) s log := by
  refine Then.get ((wp_ite ..).2 ⟨fun _ => h, fun _ => Then.failIf (fun _ => h) ?_⟩)
  intro hrunning
  have hcalled (outcome : PhaseOutcome) := { h.toRan with
    ledger := h.ledger.suspend (e := ⟨⟨.suspend s.snapshot.mediaGeneration reason,
      s.snapshot⟩, outcome⟩) rfl
      (not_not.1 hrunning) rfl }
  exact Then.attempt (wp_runPhase ((hcalled _).rest (.inr rfl))
    fun _ _ => (hcalled _).rest (.inl rfl))

lemma stopToIdle_spec (h : Handled s₀ s log) :
    (stopToIdle reason).wp anyDriver s log
      (fun _ s' log' => Handled s₀ s' log' ∧ s'.snapshot.state = .Idle)
      (fun _ s' log' => Handled s₀ s' log' ∧ s'.snapshot.state = .Failed) := by
  refine Then.get ((wp_ite ..).2 ⟨fun hidle => ?_, fun _ => Then.modify (Then.attempt ?_)⟩)
  · refine ⟨{ h.setState with settled := fun hlt => ?_ }, by simp⟩
    have hs := h.settled (by simpa using hlt)
    simpa only [Settled, setState_state, hidle] using hs
  · refine wp_runStop h.setState (fun log' h' hstopped => ⟨{ h'.setState with settled := ?_ }, ?_⟩)
      fun error log' h' => ⟨h'.rest (.inl rfl), by simp⟩
    · intro _
      simpa only [Settled, setState_state] using hstopped
    · simp

lemma retry_spec (h : Handled s₀ s log) : Handles s₀ retry s log := by
  refine Then.get ?_
  split
  · exact activate_spec h
  · exact h

lemma reportExternalFailure_spec {error : String} (h : Ran s₀ s log) :
    Handles s₀ (reportExternalFailure error) s log :=
  Then.get (Then.attempt (wp_runStop h (fun _ h' _ => h'.rest (.inl rfl))
    fun _ _ h' => h'.rest (.inl rfl)))

/-- The driver was shut down by the last call. -/
structure Ended (s₀ s : Session) (log : List Entry) : Prop where
  ended : s.ended = true
  handled : s.handled = s₀.handled
  last : ∃ before e, log = before ++ [e] ∧ e.isShutdown = true
  lawful : Lawful Allowed log
  settled : s.snapshot.mediaGeneration.toNat < 2 ^ 64 - 1 → Settled s.snapshot log

lemma Handled.final (h : Handled s₀ s log)
    (hstate : s.snapshot.state = .Idle ∨ s.snapshot.state = .Failed) (reason : MediaStopReason)
    (outcome : PhaseOutcome) : Ended s₀ { s with ended := true }
      (log ++ [⟨⟨.shutdown reason, s.snapshot⟩, outcome⟩]) := by
  refine ⟨rfl, h.handled, ⟨log, _, rfl, rfl⟩, ?_, fun hlt => ?_⟩
  · exact h.ledger.lawful.snoc ⟨h.ledger.live, by simp [call], by simp [call],
      by simp [call]⟩
  · have hs := h.settled hlt
    rcases hstate with hstate | hstate
    · simp only [Settled, hstate] at hs ⊢
      exact hs.snoc (fun _ _ hx => .inl hx) (by simp [started?, call])
    · simp [Settled, hstate]

lemma finish_spec (h : Handled s₀ s log) :
    (finish reason).wp anyDriver s log (fun _ => Ended s₀) fun _ => Ended s₀ := by
  have hfinal {s' : Session} {log' : List Entry} {media : Except MediaSessionActorError PUnit}
      (h' : Handled s₀ s' log') (hstate : s'.snapshot.state = .Idle ∨ s'.snapshot.state = .Failed) :
      (do
        let final ← attempt (runPhase "shut down media driver" (.shutdown reason))
        lift (combineShutdown media final) : SessionMethod PUnit).wp anyDriver s' log'
        (fun _ s'' log'' => Ended s₀ { s'' with ended := true } log'')
        (fun _ s'' log'' => Ended s₀ { s'' with ended := true } log'') := by
    have hended := h'.final hstate reason
    exact Then.attempt (wp_runPhase ((wp_lift ..).2 ⟨fun _ _ => hended _, fun _ _ => hended _⟩)
      fun _ _ => (wp_lift ..).2 ⟨fun _ _ => hended _, fun _ _ => hended _⟩)
  have hshutdown : (shutdownDriver reason).wp anyDriver s log
      (fun _ s' log' => Ended s₀ { s' with ended := true } log')
      (fun _ s' log' => Ended s₀ { s' with ended := true } log') :=
    Then.attempt (wp_mono (stopToIdle_spec h) (fun _ _ _ hs => hfinal hs.1 (.inl hs.2))
      fun _ _ _ hs => hfinal hs.1 (.inr hs.2))
  exact Then.attempt (wp_mono hshutdown (fun _ _ _ hs => hs) fun _ _ _ hs => hs)

end Session

/-- The commands after which the loop returns. -/
def endsLoop : Option CommandKind → Bool
  | none => true
  | some (.Shutdown _) => true
  | _ => false

/-- A live session, or one that has shut its driver down. -/
structure SessionInv (s : Session) (log : List Entry) : Prop where
  lawful : Lawful Allowed log
  settled : s.snapshot.mediaGeneration.toNat < 2 ^ 64 - 1 → Settled s.snapshot log
  live : s.ended = false →
    Ledger s.snapshot.mediaGeneration log ∧ ∀ c ∈ s.handled, endsLoop c = false
  ended : s.ended = true → (∃ before e, log = before ++ [e] ∧ e.isShutdown = true) ∧
    ∃ c ∈ s.handled, endsLoop c = true

open Session in
lemma turn_inv {s : Session} {log : List Entry} (h : SessionInv s log)
    (command : Option CommandKind) : (turn command).wp anyDriver s log
      (fun _ s' log' => SessionInv s' log') (fun _ s' log' => SessionInv s' log') := by
  refine Then.get ((wp_when ..).2 ⟨fun hlive => Then.modify ?_, fun _ => h⟩)
  obtain ⟨hledger, hhandled⟩ := h.live hlive
  set s₁ : Session := { s with handled := s.handled ++ [command] } with hs₁
  have htaken : Handled s₁ s₁ log := ⟨⟨rfl, rfl, hledger⟩, h.settled⟩
  have hstep (hends : endsLoop command = false) (s' : Session) (log' : List Entry)
      (hs' : Handled s₁ s' log') : SessionInv s' log' := by
    have hlive' : s'.ended = false := hs'.ended.trans hlive
    refine ⟨hs'.ledger.lawful, hs'.settled, fun _ => ⟨hs'.ledger, fun c hc => ?_⟩, by simp [hlive']⟩
    rw [hs'.handled] at hc
    rcases List.mem_append.1 hc with hold | hnew
    · exact hhandled c hold
    · rwa [List.mem_singleton.1 hnew]
  have hlast (hends : endsLoop command = true) (s' : Session) (log' : List Entry)
      (hs' : Ended s₁ s' log') : SessionInv s' log' := by
    refine ⟨hs'.lawful, hs'.settled, by simp [hs'.ended], fun _ => ⟨hs'.last, command, ?_, hends⟩⟩
    simp [hs'.handled, hs₁]
  cases command with
  | none => exact wp_weaken (finish_spec htaken) (hlast rfl)
  | some kind =>
    cases kind with
    | Activate route => exact wp_weaken (activate_spec htaken) (hstep rfl)
    | Deactivate =>
      exact wp_mono (stopToIdle_spec htaken) (fun _ s' log' hs' => hstep rfl s' log' hs'.1)
        fun _ s' log' hs' => hstep rfl s' log' hs'.1
    | Suspend reason => exact wp_weaken (suspend_spec htaken) (hstep rfl)
    | Retry => exact wp_weaken (retry_spec htaken) (hstep rfl)
    | ReportFailure error =>
      exact wp_weaken (reportExternalFailure_spec htaken.toRan) (hstep rfl)
    | Shutdown reason => exact wp_weaken (finish_spec htaken) (hlast rfl)

/-- In every run each driver call is allowed by those before it, the loop ends with its one
shutdown, and the snapshot agrees with the calls until the generations are used up. -/
theorem driver_calls_disciplined {s : Session} {log : List Entry}
    (h : mediaSession.Reach anyDriver {} [] s log) :
    Lawful Allowed log ∧
    (s.ended = true ↔ ∃ c ∈ s.handled, endsLoop c = true) ∧
    (s.ended = true ↔ ∃ e ∈ log, e.isShutdown = true) ∧
    (s.snapshot.mediaGeneration.toNat < 2 ^ 64 - 1 → Settled s.snapshot log) := by
  have h₀ : SessionInv {} [] :=
    ⟨.nil, fun _ => .nil, fun _ => ⟨.nil, by simp⟩, by simp⟩
  have hinv : SessionInv s log := by
    refine h.invariant h₀ fun s log command hs => ?_
    refine Program.wp_mono _ (turn_inv hs command) ?_
    rintro ⟨_ | _, s'⟩ log' hs'
    · exact hs'
    · exact hs'
  refine ⟨hinv.lawful, ?_, ?_, hinv.settled⟩
  · constructor
    · intro hended
      exact (hinv.ended hended).2
    · rintro ⟨c, hc, hends⟩
      by_contra hlive
      rw [Bool.not_eq_true] at hlive
      rw [(hinv.live hlive).2 c hc] at hends
      cases hends
  · constructor
    · intro hended
      obtain ⟨before, e, rfl, he⟩ := (hinv.ended hended).1
      exact ⟨e, by simp, he⟩
    · rintro ⟨e, hmem, he⟩
      by_contra hlive
      rw [Bool.not_eq_true] at hlive
      rw [(hinv.live hlive).1.live e hmem] at he
      cases he

/-- A driver that does everything it is asked for. -/
def willingDriver (log : List Entry) (c : DriverRequest) : PhaseOutcome × List Entry :=
  (.succeeded, log ++ [⟨c, .succeeded⟩])

def willingRun : Session × List Entry :=
  mediaSession.play willingDriver [some (.Activate sampleRoute), some (.Suspend .GrantUnavailable),
    some (.Activate sampleRoute), some .Deactivate, none] {} []

/-- Two generations of one route, and the end of the session. -/
theorem driver_calls_disciplined_willing :
    mediaSession.Reach anyDriver {} [] willingRun.1 willingRun.2 ∧
    willingRun.2.map call = [.startCapture ⟨1, sampleRoute⟩, .startMedia ⟨1, sampleRoute⟩,
      .suspend 1 .GrantUnavailable, .stop 1 .ModeChanged, .startCapture ⟨2, sampleRoute⟩,
      .startMedia ⟨2, sampleRoute⟩, .stop 2 .OutputDisabled, .shutdown .BackendShutdown] ∧
    Lawful Allowed willingRun.2 ∧ Settled willingRun.1.snapshot willingRun.2 := by
  have hreach : mediaSession.Reach anyDriver {} [] willingRun.1 willingRun.2 :=
    Service.Reach.play id (fun _ _ => ⟨trivial, rfl⟩) _ .init
  have hgeneration : willingRun.1.snapshot.mediaGeneration = 2 := by decide +kernel
  have hlaw := driver_calls_disciplined hreach
  exact ⟨hreach, by decide +kernel, hlaw.1, hlaw.2.2.2 (by rw [hgeneration]; decide)⟩

end Pronk.MediaSession
