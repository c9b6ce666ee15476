import Pronk.MediaPolicy.Policy
import Pronk.MediaSession.Discipline

/-!
# What the policy decides and where its commands lead

The decision table by the kinds of inputs, and the states in which the media-session
actor leaves each command. After a command that could be tried, the policy has nothing
to do or makes a counted attempt.
-/
namespace Pronk.MediaSession.Session
open Interaction Method Media

variable {s : Session}

/-- A command leaves the session in the state it was for, or failed. -/
structure Landed (target : MediaState) (route : Option MediaRoute) (s s' : Session) :
    Prop where
  ended : s'.ended = s.ended
  state : s'.snapshot.state = target ∨ s'.snapshot.state = .Failed
  route : s'.snapshot.route = route

/-- The method, from `s`, leaves the session so. -/
abbrev Lands (target : MediaState) (route : Option MediaRoute) (s₀ : Session)
    (m : SessionMethod PUnit) (s : Session) : Prop :=
  m.wp anyReply s () (fun _ s' _ => Landed target route s₀ s')
    fun _ s' _ => Landed target route s₀ s'

section Outcomes

variable {ok : PUnit → Session → Unit → Prop} {err : MediaSessionActorError → Session → Unit → Prop}

lemma runPhase_any {phase : String} {call : DriverCall} (hok : ok ⟨⟩ s ())
    (herr : ∀ error, err error s ()) : (runPhase phase call).wp anyReply s () ok err := by
  refine Then.get (Then.request fun outcome _ _ => ?_)
  cases outcome with
  | succeeded => exact hok
  | failed error => exact herr _
  | timedOut timeout => exact herr _

lemma runStop_any {reason : MediaStopReason} (hok : ok ⟨⟩ s ())
    (herr : ∀ error, err error s ()) : (runStop reason).wp anyReply s () ok err :=
  Then.get ((wp_when ..).2 ⟨fun _ => runPhase_any hok herr, fun _ => hok⟩)

lemma retire_any {route : MediaRoute} {reason : MediaStopReason}
    (hok : ∀ s', s'.ended = s.ended →
      s'.snapshot.mediaGeneration = s.snapshot.mediaGeneration → ok ⟨⟩ s' ())
    (herr : ∀ error s', Landed .Running (some route) s s' → err error s' ()) :
    (retire route reason).wp anyReply s () ok err :=
  Then.modify (Then.attempt (runStop_any (hok _ rfl (by simp))
    fun error => herr error _ ⟨rfl, by simp, by simp⟩))

lemma startPhase_any {request : MediaStartRequest} {phase : String} {call : DriverCall}
    (hok : ok ⟨⟩ s ())
    (herr : ∀ error s', Landed .Running (some request.route) s s' → err error s' ()) :
    (startPhase request phase call).wp anyReply s () ok err :=
  Then.attempt (runPhase_any hok fun error => Then.of (Then.attempt (runPhase_any
    (herr error _ ⟨rfl, by simp, by simp⟩) fun _ => herr error _ ⟨rfl, by simp, by simp⟩)))

end Outcomes

variable {route : MediaRoute} {s₀ : Session}

lemma start_landed (hended : s.ended = s₀.ended)
    (hroom : (checkedSucc s.snapshot.mediaGeneration).isSome) :
    Lands .Running (some route) s₀ (start route) s := by
  have hfailed (error : MediaSessionActorError) (snapshot : MediaSessionSnapshot) (s' : Session)
      (hs' : Landed .Running (some route) { s with snapshot } s') :
      Landed .Running (some route) s₀ s' := ⟨hs'.ended.trans hended, hs'.state, hs'.route⟩
  refine Then.get (Then.okOr (fun hnone => by simp [hnone] at hroom) fun generation _ => ?_)
  refine Then.modify (Then.of (startPhase_any ?_ fun error => hfailed error _))
  refine Then.modify (Then.of (startPhase_any ?_ fun error => hfailed error _))
  exact ⟨hended, by simp, by simp⟩

/-- Media that could be given a generation run on the route or have failed on it. -/
lemma activate_landed (hroute : route.routeGeneration ≠ 0)
    (hroom : (checkedSucc s.snapshot.mediaGeneration).isSome) :
    Lands .Running (some route) s (activate route) s := by
  have hstart (s' : Session) (hended : s'.ended = s.ended)
      (hgeneration : s'.snapshot.mediaGeneration = s.snapshot.mediaGeneration) :
      Lands .Running (some route) s (start route) s' :=
    start_landed hended (by rwa [hgeneration])
  refine Then.failIf (fun hzero => absurd hzero hroute) fun _ => Then.get ((wp_ite ..).2
    ⟨fun hrunning => ⟨rfl, by simp [hrunning.1], hrunning.2⟩, fun _ => Then.of ?_⟩)
  refine (wp_ite ..).2 ⟨fun _ => ?_, fun _ => (wp_when ..).2 ⟨fun _ => ?_, fun _ => ?_⟩⟩
  · exact retire_any hstart fun _ _ hs' => hs'
  · exact retire_any hstart fun _ _ hs' => hs'
  · exact hstart s rfl rfl

lemma stopToIdle_landed {reason : MediaStopReason} : Lands .Idle none s (stopToIdle reason) s := by
  refine Then.get ((wp_ite ..).2 ⟨fun _ => ⟨rfl, by simp, by simp⟩, fun _ => ?_⟩)
  exact Then.modify (Then.attempt (runStop_any ⟨rfl, by simp, by simp⟩
    fun _ => ⟨rfl, by simp, by simp⟩))

lemma suspend_landed {reason : MediaSuspendReason} (hrunning : s.snapshot.state = .Running) :
    Lands .Suspended s.snapshot.route s (suspend reason) s := by
  refine Then.get ((wp_ite ..).2 ⟨fun hidle => by simp [hrunning] at hidle, fun _ => ?_⟩)
  refine Then.failIf (fun h => absurd hrunning h) fun _ => ?_
  exact Then.attempt (runPhase_any ⟨rfl, by simp, by simp⟩ fun _ => ⟨rfl, by simp, by simp⟩)

lemma retry_landed (hroute : route.routeGeneration ≠ 0)
    (hroom : (checkedSucc s.snapshot.mediaGeneration).isSome)
    (hstate : s.snapshot.state = .Failed) (hsame : s.snapshot.route = some route) :
    Lands .Running (some route) s retry s := by
  refine Then.get ?_
  simp only [hstate, hsame]
  exact activate_landed hroute hroom

end Pronk.MediaSession.Session

namespace Pronk.MediaPolicy
open Interaction Method Media MediaSession Transition

/-- What holds however the handler of a command ends, holds of the served session. -/
lemma serve_of_handle {session : Session} {command : CommandKind} {outcomes : List PhaseOutcome}
    {P : Session → Prop} (hlive : session.ended = false)
    (h : ∀ s : Session, s.ended = session.ended → s.snapshot = session.snapshot →
      (Session.handle command).wp anyReply s () (fun _ s' _ => P s') (fun _ s' _ => P s')) :
    P (serve session command outcomes) := by
  have hturn : (Session.turn command).wp anyReply session ()
      (fun _ s' _ => P s') (fun _ s' _ => P s') := by
    exact Then.get ((wp_when ..).2 ⟨fun _ => Then.modify (h _ rfl rfl),
      fun hended => absurd hlive hended⟩)
  have hscript : ∀ (v : List PhaseOutcome) (c : DriverRequest),
      anyReply (R := Reply) () c (outcomeOf v c).1 () := fun _ _ => trivial
  have hout := Program.exec_outcome (fun _ => ()) hscript (session.turn command) outcomes
  have hresult := (Program.wp_iff_outcome _ _ _ _).1 hturn _ _ hout
  unfold serve
  cases hexec : ((session.turn command).exec outcomeOf outcomes).1.1 with
  | ok _ => simpa only [hexec] using hresult
  | error _ => simpa only [hexec] using hresult

namespace MediaPolicyInput

/-- Media may run for this input, and on this route. -/
structure Permits (input : MediaPolicyInput) (route : MediaRoute) : Prop where
  route : input.route = some route
  attached : input.attachment = .Attached
  available : input.deviceAvailable = true
  ready : input.deviceSessionReady = true
  active : input.grant = .Active

/-- The output is not to be driven at all. -/
def Unwanted (input : MediaPolicyInput) : Prop :=
  input.route = none ∨ input.attachment ≠ .Attached

/-- Media are idle if they are not wanted, run on the route if they may, and do not run
otherwise. -/
structure NeedsNoAction (input : MediaPolicyInput) (media : MediaSessionSnapshot) : Prop where
  unwanted : input.Unwanted → media.state = .Idle
  permitted : ∀ route, input.Permits route → media.state = .Running ∧ media.route = some route
  blocked : ¬input.Unwanted → (∀ route, ¬input.Permits route) → media.state ≠ .Running

/-- The reason for which media that run are suspended. -/
def suspendReason (input : MediaPolicyInput) : MediaSuspendReason :=
  if input.deviceAvailable = false ∨ input.deviceSessionReady = false then .DeviceUnavailable
  else .GrantUnavailable

/-- When each decision is made. -/
inductive Decides (input : MediaPolicyInput) (media : MediaSessionSnapshot)
    (delay : Option Duration) : PolicyDecision → Prop
  | deactivate (h : input.Unwanted) : Decides input media delay .Deactivate
  | retryDeactivate {d : Duration} (h : input.Unwanted) (hfailed : media.state = .Failed)
      (hdelay : delay = some d) : Decides input media delay (.RetryDeactivate d)
  | suspend (h : ¬input.Unwanted) (hblocked : ∀ route, ¬input.Permits route)
      (hrunning : media.state = .Running) :
      Decides input media delay (.Suspend input.suspendReason)
  | activate {route : MediaRoute} (h : input.Permits route) :
      Decides input media delay (.Activate route)
  | retry {route : MediaRoute} {d : Duration} (h : input.Permits route)
      (hfailed : media.state = .Failed) (hroute : media.route = some route)
      (hdelay : delay = some d) : Decides input media delay (.Retry d)
  | giveUp (hfailed : media.state = .Failed) (hdelay : delay = none) :
      Decides input media delay .GiveUp

/-- Whatever is decided next is a counted attempt, or the end. -/
def Spent (input : MediaPolicyInput) (media : MediaSessionSnapshot) : Prop :=
  ∀ delay decision, input.decide media delay = some decision →
    decision = .GiveUp ∨ decision.delay.isSome

variable {input : MediaPolicyInput} {media : MediaSessionSnapshot} {delay : Option Duration}
  {route : MediaRoute}

attribute [local grind] Unwanted
attribute [local grind =] decideDeactivate.eq_def MediaPolicyInput.decide suspendReason

lemma permits_iff (hroute : input.route = some route) : input.Permits route ↔
    input.attachment = .Attached ∧ input.deviceAvailable = true ∧
      input.deviceSessionReady = true ∧ input.grant = .Active :=
  ⟨fun h => ⟨h.attached, h.available, h.ready, h.active⟩,
    fun ⟨hattached, havailable, hready, hactive⟩ =>
      ⟨hroute, hattached, havailable, hready, hactive⟩⟩

attribute [local grind →] permits_iff Permits.route

/-- The policy has nothing to decide exactly when the media state needs no action. -/
theorem decide_eq_none : input.decide media delay = none ↔ input.NeedsNoAction media := by
  constructor
  · intro hnone
    constructor <;> grind
  · rintro ⟨hunwanted, hpermitted, hblocked⟩
    cases hroute : input.route <;> grind

attribute [local grind intro] Decides

lemma decides {decision : PolicyDecision} (hdecide : input.decide media delay = some decision) :
    input.Decides media delay decision := by
  have hsuspend := @Decides.suspend input media delay
  unfold suspendReason at hsuspend
  cases hroute : input.route <;> cases delay <;> grind

lemma spent_unwanted (h : input.Unwanted) (hstate : media.state = .Idle ∨ media.state = .Failed) :
    input.Spent media := by
  intro delay decision hdecide
  cases delay <;> grind [PolicyDecision.delay]

lemma spent_permitted (h : input.Permits route)
    (hstate : media.state = .Running ∨ media.state = .Failed) (hroute : media.route = some route) :
    input.Spent media := by
  intro delay decision hdecide
  cases delay <;> grind [PolicyDecision.delay]

lemma spent_blocked (h : ¬input.Unwanted) (hblocked : ∀ route, ¬input.Permits route)
    (hstate : media.state = .Suspended ∨ media.state = .Failed) : input.Spent media := by
  intro delay decision hdecide
  cases hroute : input.route <;> grind

lemma Spent.needsNoAction_of_running (h : input.Spent media) (hrunning : media.state = .Running) :
    input.NeedsNoAction media := by
  cases hdecide : input.decide media none with
  | none => exact decide_eq_none.1 hdecide
  | some decision =>
    have hspent := h none decision hdecide
    cases decides hdecide <;> simp_all [PolicyDecision.delay]

end MediaPolicyInput

/-- The commands that give media a new generation. -/
def starts : CommandKind → Bool
  | .Activate _ => true
  | .Retry => true
  | _ => false

/-- A decision that could be tried leaves nothing but counted attempts. -/
lemma serve_spent {input : MediaPolicyInput} {session : Session} {delay : Option Duration}
    {decision : PolicyDecision} {command : CommandKind} {outcomes : List PhaseOutcome}
    (hnonzero : ∀ route, input.route = some route → route.routeGeneration ≠ 0)
    (hlive : session.ended = false) (hdecides : input.Decides session.snapshot delay decision)
    (hcommand : decision.command = some command)
    (hroom : starts command → (checkedSucc session.snapshot.mediaGeneration).isSome) :
    (serve session command outcomes).ended = false ∧
      input.Spent (serve session command outcomes).snapshot := by
  apply serve_of_handle (P := fun s => s.ended = false ∧ input.Spent s.snapshot) hlive
  intro s hended hsnapshot
  rw [← hsnapshot] at hroom
  cases hdecides with
  | deactivate h =>
    cases hcommand
    apply wp_weaken Session.stopToIdle_landed
    intro s' _ hs'
    exact ⟨(hs'.ended.trans hended).trans hlive, MediaPolicyInput.spent_unwanted h hs'.state⟩
  | retryDeactivate h _ _ =>
    cases hcommand
    apply wp_weaken Session.stopToIdle_landed
    intro s' _ hs'
    exact ⟨(hs'.ended.trans hended).trans hlive, MediaPolicyInput.spent_unwanted h hs'.state⟩
  | suspend h hblocked hrunning =>
    cases hcommand
    apply wp_weaken (Session.suspend_landed (by rwa [hsnapshot]))
    intro s' _ hs'
    exact ⟨(hs'.ended.trans hended).trans hlive,
      MediaPolicyInput.spent_blocked h hblocked hs'.state⟩
  | activate h =>
    cases hcommand
    apply wp_weaken (Session.activate_landed (hnonzero _ h.route) (hroom rfl))
    intro s' _ hs'
    exact ⟨(hs'.ended.trans hended).trans hlive,
      MediaPolicyInput.spent_permitted h hs'.state hs'.route⟩
  | retry h hfailed hroute _ =>
    cases hcommand
    apply wp_weaken (Session.retry_landed (hnonzero _ h.route) (hroom rfl)
      (by rwa [hsnapshot]) (by rwa [hsnapshot]))
    intro s' _ hs'
    exact ⟨(hs'.ended.trans hended).trans hlive,
      MediaPolicyInput.spent_permitted h hs'.state hs'.route⟩
  | giveUp _ _ => cases hcommand

end Pronk.MediaPolicy
