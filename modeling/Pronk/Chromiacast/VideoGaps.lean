import Pronk.Chromiacast.VideoSender

/-!
# A sender that lets no delta through

After a gap the sender must hold back every delta until a key frame was accepted. It does so
through any of two flags, or because it has failed. Nothing but an accepted key frame ends it.
-/
namespace Pronk.Chromiacast
open MediaGraph

/-- No delta is handed to the transport. -/
def ActiveSender.Blocked (active : ActiveSender) : Prop :=
  active.state = .Failed ∨ active.pressureLimited = true ∨ active.needsKeyFrame = true

namespace VideoSenderActor

/-- No delta of the generation is handed to the transport. -/
def Blocked (g : NonZeroU64) (actor : VideoSenderActor) : Prop :=
  ∀ active, actor.active = some active → active.generation = g → active.Blocked

variable {g generation : NonZeroU64} {actor actor' : VideoSenderActor}
  {active : ActiveSender} {accessUnit : EncodedVideoAccessUnit} {reply : SendReply} {now : ℤ}
  {accepted : Bool} {port : Except VideoTransportError Unit} {command : Command}

attribute [local grind] ActiveSender.Blocked Blocked publish publishFeedback store countDropped
attribute [local grind =] Except.ok.injEq Prod.mk.injEq

lemma blocked_failActive (error : VideoTransportError) : (actor.failActive error).Blocked g := by
  unfold failActive
  cases hactive : actor.active <;> grind -linarith

/-! ## Feedback -/

/-- The limit is lifted only together with a demand for a key frame. -/
lemma blocked_observeFeedback (incoming : VideoTransportFeedbackSnapshot)
    (h : active.Blocked) : (observeFeedback active incoming).1.Blocked := by
  unfold observeFeedback
  cases incoming.pressure <;> grind -linarith

lemma blocked_processTransportFeedback {incoming : VideoTransportFeedbackSnapshot}
    (h : actor.Blocked g) (hok : actor.processTransportFeedback incoming = .ok actor') :
    actor'.Blocked g := by
  unfold processTransportFeedback at hok
  cases hactive : actor.active <;> cases herror : incoming.terminalError <;>
    grind -linarith [observeFeedback_generation, blocked_observeFeedback]

/-! ## Access units -/

/-- An accepted unit is of the generation and was not withheld; one that was not accepted
leaves the sender blocked, unless it was of another generation. -/
theorem forwardAccessUnit_eq_ok
    (hok : actor.forwardAccessUnit accessUnit reply now = .ok (actor', accepted)) :
    ∃ active active', actor.active = some active ∧ actor'.active = some active' ∧
      active'.generation = active.generation ∧
      (accepted = true → accessUnit.mediaGeneration = active.generation ∧
        withheld active accessUnit.dependency = false) ∧
      (accepted = false → accessUnit.mediaGeneration = active.generation ∨ active.Blocked →
        active'.Blocked) := by
  unfold forwardAccessUnit at hok
  cases hactive : actor.active with
  | none => grind -linarith
  | some active =>
    simp only [hactive] at hok
    split_ifs at hok <;> grind -linarith [withheld]

/-! ## Commands -/

lemma blocked_transitionActive {transition : Transition} (h : actor.Blocked g)
    (hok : actor.transitionActive generation transition = .ok actor') : actor'.Blocked g := by
  obtain ⟨active, hmatch, hok⟩ := Fallible.bind_eq_ok.1 hok
  have hactive := matchingActive_eq_ok hmatch
  cases transition <;> grind -linarith [Transition.required]

lemma blocked_configureActive {transport : NegotiatedVideoTransport} (hne : generation ≠ g)
    (hok : actor.configureActive generation transport = .ok actor') : actor'.Blocked g := by
  unfold configureActive at hok
  split_ifs at hok
  grind -linarith

/-- The command makes a new sender for the generation. -/
def configures (g : NonZeroU64) (actor : VideoSenderActor) : Command → Bool
  | .Configure generation transport =>
    generation = g && (actor.configureActive generation transport).isOk
  | _ => false

/-! ## Turns -/

section Turn

variable {α : Type} {output output' : Channel α}

lemma turn_feedback {changed : Option VideoTransportFeedbackSnapshot}
    (hturn : actor.turn output (.Feedback changed) = (actor', output', accepted)) :
    output' = output ∧ (actor.Blocked g → actor'.Blocked g) := by
  have hfail (error) : (actor.failActive error).Blocked g := blocked_failActive error
  cases changed with
  | none => grind -linarith [turn]
  | some incoming =>
    simp only [turn] at hturn
    cases hresult : actor.processTransportFeedback incoming <;>
      grind -linarith [blocked_processTransportFeedback]

lemma turn_accessUnit
    (hturn : actor.turn output (.AccessUnit (some accessUnit) reply now) =
      (actor', output', accepted)) :
    output' = output ∧
      (actor.forwardAccessUnit accessUnit reply now = .ok (actor', accepted) ∨
        accepted = false ∧ ∃ error, actor' = actor.failActive error) := by
  grind -linarith [turn]

/-- A unit that is not accepted blocks the sender for its generation. -/
theorem turn_lost
    (hturn : actor.turn output (.AccessUnit (some accessUnit) reply now) =
      (actor', output', accepted))
    (hgen : accessUnit.mediaGeneration = g) (hlost : accepted = false) : actor'.Blocked g := by
  obtain ⟨-, hok | ⟨-, error, rfl⟩⟩ := turn_accessUnit hturn
  · obtain ⟨active, active', -, hactive', hsame, -, hblocked⟩ := forwardAccessUnit_eq_ok hok
    grind -linarith
  · exact blocked_failActive error

/-- A blocked sender accepts no delta of its generation. -/
theorem turn_accepted
    (hturn : actor.turn output (.AccessUnit (some accessUnit) reply now) =
      (actor', output', accepted))
    (hwaits : actor.waitsFor (.AccessUnit (some accessUnit) reply now) = true)
    (hgen : accessUnit.mediaGeneration = g) (hdelta : accessUnit.dependency = .Delta)
    (haccepted : accepted = true) : ¬ actor.Blocked g := by
  intro hblocked
  obtain ⟨-, hok | ⟨hlost, -⟩⟩ := turn_accessUnit hturn
  · obtain ⟨active, active', hactive, -, -, hfree, -⟩ := forwardAccessUnit_eq_ok hok
    simp only [waitsFor, hactive, Option.any_some, Bool.and_eq_true, decide_eq_true_eq] at hwaits
    grind -linarith [withheld]
  · grind -linarith

/-- A unit of another generation changes nothing. -/
theorem turn_other
    (hturn : actor.turn output (.AccessUnit (some accessUnit) reply now) =
      (actor', output', accepted))
    (hgen : accessUnit.mediaGeneration ≠ g) (h : actor.Blocked g) : actor'.Blocked g := by
  obtain ⟨-, hok | ⟨-, error, rfl⟩⟩ := turn_accessUnit hturn
  · obtain ⟨active, active', hactive, hactive', hsame, hfree, hblocked⟩ :=
      forwardAccessUnit_eq_ok hok
    cases accepted <;> grind -linarith
  · exact blocked_failActive error

/-- A command leaves what waits in the channel, or throws it away for another generation. -/
theorem turn_command {command : Option Command}
    (hturn : actor.turn output (.Command command port) = (actor', output', accepted))
    (hnot : ∀ c ∈ command, actor.configures g c = false) :
    (output'.closed = false → output.closed = false) ∧
      (output'.queue = output.queue ∧ (actor.Blocked g → actor'.Blocked g) ∨
        output'.queue = [] ∧ actor'.Blocked g) := by
  cases command with
  | none => grind -linarith [turn, finish, shutdownActive, Channel.close]
  | some command =>
    have hnot := hnot command rfl
    cases command with
    | Configure generation transport =>
      simp only [turn, handle] at hturn
      cases hresult : actor.configureActive generation transport with
      | error error => grind -linarith
      | ok configured =>
        grind -linarith [configures, Except.toBool, blocked_configureActive, Channel.drain]
    | Transition generation transition =>
      grind -linarith [turn, handle, blocked_transitionActive]
    | SetTargetPlayoutDelay generation delay => grind -linarith [turn, handle]
    | Stop generation => grind -linarith [turn, handle, stop, stopActive]
    | Statistics generation => grind -linarith [turn, handle]
    | Shutdown => grind -linarith [turn, handle, finish, shutdownActive, Channel.close]

end Turn

end VideoSenderActor

end Pronk.Chromiacast
