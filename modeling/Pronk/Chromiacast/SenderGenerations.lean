import Pronk.Chromiacast.VideoSender
import Pronk.Library.Transition

/-!
# Generations of the video sender

A generation that was stopped is not to be configured again. The sender remembers the last one
whose `Stop` succeeded. A `Stop` whose transport fails to shut down gives up the sender all the
same, but is not remembered.
-/
namespace Pronk.Chromiacast
open MediaGraph Transition VideoSenderActor

namespace VideoSenderActor

/-- The active generation and the last one that was completed, while the actor runs. -/
def mark (actor : VideoSenderActor) : Bool × Option NonZeroU64 × Option NonZeroU64 :=
  (actor.running, actor.active.map (·.generation), actor.completedGeneration)

variable {actor actor' : VideoSenderActor} {active : ActiveSender} {generation : NonZeroU64}
  {accessUnit : EncodedVideoAccessUnit} {reply : SendReply} {now : ℤ} {accepted : Bool}
  {port : Except VideoTransportError Unit}

attribute [local grind] mark publish publishFeedback store countDropped
attribute [local grind =] Except.ok.injEq Prod.mk.injEq

lemma mark_failActive (error : VideoTransportError) :
    (actor.failActive error).mark = actor.mark := by
  unfold failActive
  cases h : actor.active <;> grind

lemma mark_processTransportFeedback {incoming : VideoTransportFeedbackSnapshot}
    (h : actor.processTransportFeedback incoming = .ok actor') : actor'.mark = actor.mark := by
  unfold processTransportFeedback at h
  cases hactive : actor.active <;> cases herror : incoming.terminalError <;>
    grind [observeFeedback_generation]

lemma mark_forwardAccessUnit
    (h : actor.forwardAccessUnit accessUnit reply now = .ok (actor', accepted)) :
    actor'.mark = actor.mark := by
  unfold forwardAccessUnit at h
  cases hactive : actor.active with
  | none => grind
  | some active =>
    simp only [hactive] at h
    split_ifs at h <;> grind

lemma mark_transitionActive {transition : Transition}
    (h : actor.transitionActive generation transition = .ok actor') :
    actor'.mark = actor.mark := by
  obtain ⟨active, hmatch, h⟩ := Fallible.bind_eq_ok.1 h
  have hactive := matchingActive_eq_ok hmatch
  grind

/-- A sender is configured only if there is none, and for a newer generation. -/
lemma configureActive_eq_ok {transport : NegotiatedVideoTransport}
    (h : actor.configureActive generation transport = .ok actor') :
    actor.active = none ∧ (∀ done ∈ actor.completedGeneration, done.get < generation.get) ∧
      actor'.mark = (actor.running, some generation, actor.completedGeneration) := by
  unfold configureActive at h
  split_ifs at h with haudio hactive hnewer
  obtain rfl := Except.ok.inj h
  refine ⟨by simpa using hactive, ?_, rfl⟩
  intro done hdone
  by_contra hlt
  exact hnewer ⟨done, hdone, UInt64.not_lt.1 hlt⟩

/-- Only a `Stop` of the active generation takes the sender away. -/
lemma stop_mark (actor : VideoSenderActor) (generation : NonZeroU64)
    (port : Except VideoTransportError Unit) :
    (actor.stop generation port).2.mark = actor.mark ∨
      ∃ active, actor.active = some active ∧ active.generation = generation ∧
        (actor.stop generation port).2.mark = (actor.running, none,
          if (shutdownPort active port).isOk then some generation
          else actor.completedGeneration) := by
  unfold stop stopActive
  cases hactive : actor.active with
  | none => by_cases hdone : actor.completedGeneration = some generation <;> grind
  | some active =>
    by_cases hgen : active.generation = generation <;>
      cases hport : shutdownPort active port <;> grind [Except.map, Except.toBool]

/-- The generation that a turn configures. -/
def configuredBy (actor : VideoSenderActor) : Next → Option NonZeroU64
  | .Command (some (.Configure generation transport)) _ =>
    if (actor.configureActive generation transport).isOk then some generation else none
  | _ => none

/-- What a turn does to the generations. -/
inductive TurnMark (actor : VideoSenderActor) (next : Next) (actor' : VideoSenderActor) : Prop
  | same (hmark : actor'.mark = actor.mark) (hconfigured : actor.configuredBy next = none)
  | configured (generation : NonZeroU64) (hactive : actor.active = none)
      (hnewer : ∀ done ∈ actor.completedGeneration, done.get < generation.get)
      (hmark : actor'.mark = (actor.running, some generation, actor.completedGeneration))
      (hconfigured : actor.configuredBy next = some generation)
  | stopped (active : ActiveSender) (port : Except VideoTransportError Unit)
      (hnext : next = .Command (some (.Stop active.generation)) port)
      (hactive : actor.active = some active)
      (hmark : actor'.mark = (actor.running, none, if (shutdownPort active port).isOk then
        some active.generation else actor.completedGeneration))
  | ended (hmark : actor'.mark = (false, none, actor.completedGeneration))
      (hconfigured : actor.configuredBy next = none)

lemma mark_finish (actor : VideoSenderActor) (port : Except VideoTransportError Unit)
    (lastError : Option String) :
    ((actor.shutdownActive port).2.finish lastError).mark =
      (false, none, actor.completedGeneration) := by
  unfold shutdownActive
  cases hactive : actor.active with
  | none => simp [mark, finish, publish, hactive]
  | some active => rfl

lemma handle_mark {α : Type} (actor : VideoSenderActor) (output : Channel α)
    (command : Command) (port : Except VideoTransportError Unit) :
    actor.TurnMark (.Command (some command) port) (actor.handle output command port).2.1 := by
  cases command with
  | Configure generation transport =>
    simp only [handle]
    cases hresult : actor.configureActive generation transport with
    | error error =>
      exact .same rfl (by simp [configuredBy, hresult, Except.isOk, Except.toBool])
    | ok after =>
      obtain ⟨hactive, hnewer, hmark⟩ := configureActive_eq_ok hresult
      exact .configured generation hactive hnewer hmark
        (by simp [configuredBy, hresult, Except.isOk, Except.toBool])
  | Transition generation transition =>
    simp only [handle]
    cases hresult : actor.transitionActive generation transition with
    | error error => exact .same rfl rfl
    | ok after => exact .same (mark_transitionActive hresult) rfl
  | SetTargetPlayoutDelay generation delay => exact .same rfl rfl
  | Stop generation =>
    rcases actor.stop_mark generation port with hsame | ⟨active, hactive, rfl, hmark⟩
    · exact .same hsame rfl
    · exact .stopped active port rfl hactive hmark
  | Statistics generation => exact .same rfl rfl
  | Shutdown => exact .ended (actor.mark_finish port _) rfl

lemma turn_mark {α : Type} (actor : VideoSenderActor) (output : Channel α) (next : Next) :
    actor.TurnMark next (actor.turn output next).1 := by
  cases next with
  | AccessUnit accessUnit reply now =>
    cases accessUnit with
    | none => exact .same (mark_failActive _) rfl
    | some accessUnit =>
      simp only [turn]
      cases hresult : actor.forwardAccessUnit accessUnit reply now with
      | error error => exact .same (mark_failActive _) rfl
      | ok result => exact .same (mark_forwardAccessUnit hresult) rfl
  | Feedback changed =>
    cases changed with
    | none => exact .same (mark_failActive _) rfl
    | some incoming =>
      simp only [turn]
      cases hresult : actor.processTransportFeedback incoming with
      | error error => exact .same (mark_failActive _) rfl
      | ok after => exact .same (mark_processTransportFeedback hresult) rfl
  | Command command port =>
    cases command with
    | none => exact .ended (actor.mark_finish port none) rfl
    | some command => exact actor.handle_mark output command port

end VideoSenderActor

/-! ## Whole runs -/

/-- The sender with the generations that were configured so far. -/
structure SenderHistory where
  actor : VideoSenderActor
  configured : List NonZeroU64

/-- What wakes the actor, and what waits for it in the channel of access units. -/
structure SenderTurn where
  output : Channel Produced
  next : Next

namespace SenderHistory

open VideoSenderActor (Next shutdownPort)

def machine : Machine SenderHistory SenderTurn where
  next s turn :=
    if s.actor.waitsFor turn.next then
      some ⟨(s.actor.turn turn.output turn.next).1,
        s.configured ++ (s.actor.configuredBy turn.next).toList⟩
    else none

/-- The generation that a turn is to stop, with what the port says to it. -/
def stopOf : Next → Option (NonZeroU64 × Except VideoTransportError Unit)
  | .Command (some (.Stop generation)) port => some (generation, port)
  | _ => none

/-- The transport of a sender that is stopped is shut down without an error. -/
def ShutsDown (s : SenderHistory) (turn : SenderTurn) : Prop :=
  ∀ stop ∈ stopOf turn.next, ∀ active ∈ s.actor.active,
    active.generation = stop.1 → active.sender = true → stop.2.isOk = true
deriving Decidable

/-- The generations so far lie below the active one, or below the last completed one. -/
structure Bounded (configured : List NonZeroU64)
    (mark : Bool × Option NonZeroU64 × Option NonZeroU64) : Prop where
  increasing : configured.Pairwise (·.get < ·.get)
  active : ∀ a ∈ mark.2.1, ∀ g ∈ configured, g.get ≤ a.get
  completed : mark.1 = true → mark.2.1 = none →
    ∀ g ∈ configured, ∃ done ∈ mark.2.2, g.get ≤ done.get
  newer : ∀ a ∈ mark.2.1, ∀ done ∈ mark.2.2, done.get < a.get

variable {s s' : SenderHistory} {configured : List NonZeroU64} {running : Bool}
  {generation : NonZeroU64} {done : Option NonZeroU64}

lemma Bounded.configure (h : Bounded configured (true, none, done))
    (hnewer : ∀ d ∈ done, d.get < generation.get) :
    Bounded (configured ++ [generation]) (true, some generation, done) := by
  have hless : ∀ g ∈ configured, g.get < generation.get := by
    intro g hg
    obtain ⟨d, hd, hle⟩ := h.completed rfl rfl g hg
    exact UInt64.lt_of_le_of_lt hle (hnewer d hd)
  refine ⟨?_, ?_, by simp, by simpa using hnewer⟩
  · rw [List.pairwise_append]
    exact ⟨h.increasing, List.pairwise_singleton .., by simpa using hless⟩
  · intro a ha g hg
    obtain rfl := Option.some.inj ha
    rcases List.mem_append.1 hg with hg | hg
    · exact UInt64.le_of_lt (hless g hg)
    · obtain rfl := List.mem_singleton.1 hg
      exact UInt64.le_refl _

lemma Bounded.stop (h : Bounded configured (running, some generation, done)) :
    Bounded configured (running, none, some generation) := by
  refine ⟨h.increasing, by simp, ?_, by simp⟩
  intro _ _ g hg
  exact ⟨generation, rfl, h.active generation rfl g hg⟩

lemma Bounded.step {turn : SenderTurn} (h : Bounded s.configured s.actor.mark)
    (hshuts : s.ShutsDown turn) (hnext : machine.next s turn = some s') :
    Bounded s'.configured s'.actor.mark := by
  simp only [machine] at hnext
  split_ifs at hnext with hwaits
  obtain rfl := Option.some.inj hnext
  have hrunning : s.actor.running = true := by
    cases hturn : turn.next <;> simp [waitsFor, hturn] at hwaits
    · exact hwaits
    · exact hwaits.1
    · exact hwaits.1
  dsimp only
  cases s.actor.turn_mark turn.output turn.next with
  | same hmark hconfigured =>
    rw [hmark, hconfigured]
    simpa using h
  | configured generation hactive hnewer hmark hconfigured =>
    rw [hmark, hconfigured, hrunning]
    apply Bounded.configure _ hnewer
    rwa [mark, hrunning, hactive] at h
  | stopped active port hnext hactive hmark =>
    -- the sender has lost its port before, or the port was shut down
    have hok : (shutdownPort active port).isOk = true := by
      have hstop : stopOf turn.next = some (active.generation, port) := by rw [hnext, stopOf]
      unfold shutdownPort
      split_ifs with hsender
      · exact hshuts _ hstop active hactive rfl hsender
      · rfl
    rw [hmark, if_pos hok, hnext]
    simp only [configuredBy, Option.toList_none, List.append_nil]
    rw [mark, hactive] at h
    exact h.stop
  | ended hmark hconfigured =>
    rw [hmark, hconfigured, Option.toList_none, List.append_nil]
    exact ⟨h.increasing, by simp, by simp, by simp⟩

/-- In every run in which the transport of a stopped sender is shut down without an error, each
generation that is configured is newer than all before. With an error, the same generation can be
configured once more. -/
theorem generations_increase
    (hreach : (machine.guard ShutsDown).Reach ⟨{}, []⟩ s) :
    s.configured.Pairwise (·.get < ·.get) ∧
    ∀ active ∈ s.actor.active, active.sender = true → ∀ error (output : Channel Produced),
      let stopped := s.actor.turn output (.Command (some (.Stop active.generation)) (.error error))
      stopped.1.configuredBy (.Command (some (.Configure active.generation ⟨false⟩)) (.ok ())) =
        some active.generation := by
  have h : Bounded s.configured s.actor.mark := by
    apply hreach.invariant (I := fun s => Bounded s.configured s.actor.mark)
    · exact ⟨List.Pairwise.nil, by simp, by simp, fun a ha => by cases ha⟩
    · intro before turn after hbefore hnext
      obtain ⟨hshuts, hnext⟩ := Machine.guard_next.1 hnext
      exact hbefore.step hshuts hnext
  refine ⟨h.increasing, ?_⟩
  intro active hactive hsender error output
  rw [Option.mem_def] at hactive
  have hnewer : ∀ done ∈ s.actor.completedGeneration, done.get < active.generation.get :=
    h.newer active.generation (by simp [mark, hactive])
  have hold : ¬ ∃ done, s.actor.completedGeneration = some done ∧
      active.generation.get ≤ done.get := by
    rintro ⟨done, hdone, hle⟩
    exact UInt64.not_lt.2 hle (hnewer done hdone)
  simp [turn, handle, stop,
    stopActive, hactive, shutdownPort, hsender, Except.map,
    configuredBy, configureActive, publish,
    if_neg hold, Except.isOk, Except.toBool]

/-- Nothing waits in the channel. -/
def quietly (command : Command) (port : Except VideoTransportError Unit) :
    SenderTurn :=
  ⟨.bounded 1, .Command (some command) port⟩

def restartedTurns : List SenderTurn :=
  [quietly (.Configure 1 ⟨false⟩) (.ok ()), quietly (.Stop 1) (.ok ()),
    quietly (.Configure 1 ⟨false⟩) (.ok ()), quietly (.Configure 2 ⟨false⟩) (.ok ())]

theorem generations_increase_restarted :
    ∃ s, (machine.guard ShutsDown).run ⟨{}, []⟩ restartedTurns = some s ∧
      s.configured = [1, 2] ∧ s.configured.Pairwise (·.get < ·.get) := by
  obtain ⟨s, hrun, hs⟩ : ∃ s, (machine.guard ShutsDown).run ⟨{}, []⟩ restartedTurns = some s ∧
      s.configured = [1, 2] :=
    Machine.exists_run (by decide +kernel)
  exact ⟨s, hrun, hs, (generations_increase ⟨restartedTurns, hrun⟩).1⟩

def failedTurns (again : NonZeroU64) : List SenderTurn :=
  [quietly (.Configure 2 ⟨false⟩) (.ok ()), quietly (.Stop 2) (.error ⟨"broken pipe"⟩),
    quietly (.Configure again ⟨false⟩) (.ok ())]

/-- The transport fails to shut down, and the generation, or an earlier one, is configured
again. -/
theorem generation_reused :
    (∃ s, machine.run ⟨{}, []⟩ (failedTurns 2) = some s ∧
      s.configured = [2, 2] ∧ ¬ s.configured.Pairwise (·.get < ·.get)) ∧
    ∃ s, machine.run ⟨{}, []⟩ (failedTurns 1) = some s ∧
      s.configured = [2, 1] ∧ ¬ s.configured.Pairwise (·.get < ·.get) :=
  ⟨⟨_, rfl, by decide +kernel, by decide +kernel⟩,
    ⟨_, rfl, by decide +kernel, by decide +kernel⟩⟩

end SenderHistory

end Pronk.Chromiacast
