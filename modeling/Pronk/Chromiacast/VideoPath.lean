import Pronk.Chromiacast.VideoGaps
import Pronk.Library.Dependent
import Pronk.Library.Transition

/-!
# From the encoder to the transport

The encoder of one generation, the channel and the sender, with everything that may happen
between two units. Units are lost at both ends of the channel, and no delta passes after a
loss.
-/
namespace Pronk.Chromiacast
open MediaGraph Transition VideoSenderActor Produced List
open VideoSenderActor (Command Next SendReply)

/-- The graph, the channel and the sender. -/
structure VideoPath where
  output : EncodedVideoOutput
  channel : Channel Produced
  actor : VideoSenderActor
  /-- How many units of the generation the encoder has produced. -/
  offered : ℕ
  /-- The units that have left the channel, and whether the transport accepted them. -/
  handled : List (Produced × Bool)

/-- A step of the graph or of the sender. -/
inductive PathInput where
  | offer (accessUnit : EncodedVideoAccessUnit)
  /-- A unit that the graph of another generation sends. -/
  | other (accessUnit : EncodedVideoAccessUnit)
  | command (command : Option Command) (port : Except VideoTransportError Unit)
  | feedback (changed : Option VideoTransportFeedbackSnapshot)
  /-- The actor receives from the channel; an empty channel has lost its senders. -/
  | receive (reply : SendReply) (now : ℤ)

namespace VideoPath

def wake (s : VideoPath) (channel : Channel Produced) (next : Next) :
    Option (VideoSenderActor × Channel Produced × Bool) :=
  if s.actor.waitsFor next then some (s.actor.turn channel next) else none

def next (g : NonZeroU64) (s : VideoPath) : PathInput → Option VideoPath
  | .offer accessUnit =>
    if accessUnit.mediaGeneration = g then
      let (_, output, channel) := s.output.tryForward s.channel ⟨s.offered, accessUnit⟩
      some { s with output, channel, offered := s.offered + 1 }
    else none
  | .other accessUnit =>
    if accessUnit.mediaGeneration = g then none
    else
      match s.channel.trySend ⟨0, accessUnit⟩ with
      | .ok channel => some { s with channel }
      | .error _ => some s
  | .command command port =>
    (s.wake s.channel (.Command command port)).map fun (actor, channel, _) =>
      -- a new sender throws away what waits
      let lost := if channel.queue.isEmpty then s.channel.queue else []
      { s with actor, channel, handled := s.handled ++ lost.map (·, false) }
  | .feedback changed =>
    (s.wake s.channel (.Feedback changed)).map fun (actor, channel, _) =>
      { s with actor, channel }
  | .receive reply now =>
    match s.channel.recv with
    | none =>
      (s.wake s.channel (.AccessUnit none reply now)).map fun (actor, channel, _) =>
        { s with actor, channel }
    | some (unit, channel) =>
      (s.wake channel (.AccessUnit (some unit.accessUnit) reply now)).map
        fun (actor, channel, accepted) =>
          { s with actor, channel, handled := s.handled ++ [(unit, accepted)] }

def machine (g : NonZeroU64) : Machine VideoPath PathInput where
  next := next g

/-- A new sender for the same generation. Its session configures the graph again before that,
so this begins another path. -/
def restarts (g : NonZeroU64) (s : VideoPath) : PathInput → Bool
  | .command (some command) _ => s.actor.configures g command
  | _ => false

/-- The graph has been configured for the generation and nothing has been produced. The
channel may hold what is left of others. -/
structure Starts (g : NonZeroU64) (s : VideoPath) : Prop where
  output : s.output.needsKeyFrame = false
  channel : ∀ unit ∈ s.channel.queue, unit.accessUnit.mediaGeneration ≠ g
  offered : s.offered = 0
  handled : s.handled = []

def ofGeneration (g : NonZeroU64) (unit : Produced) : Bool :=
  unit.accessUnit.mediaGeneration = g

/-- What the sender has made of the units of the generation. -/
def log (g : NonZeroU64) (s : VideoPath) : List (Produced × Bool) :=
  s.handled.filter (ofGeneration g ·.1)

def waiting (g : NonZeroU64) (s : VideoPath) : List Produced :=
  s.channel.queue.filter (ofGeneration g)

/-- The units of the generation that were put into the channel. -/
def forwarded (g : NonZeroU64) (s : VideoPath) : List Produced :=
  (s.log g).map Prod.fst ++ s.waiting g

/-- The units of the generation that the transport accepted, in this order. -/
def accepted (g : NonZeroU64) (s : VideoPath) : List Produced := Dependent.keptOf (s.log g)

/-! ## No delta after a loss -/

/-- The promise of the output up to the channel, the promise of the sender behind it, and how
the two keep it. -/
structure Sound (g : NonZeroU64) (s : VideoPath) : Prop where
  gapless : Dependent.Gapless serial IsDelta 0 (s.forwarded g)
  fresh : Dependent.next serial 0 (s.forwarded g) ≤ s.offered
  current : s.channel.closed = false → s.output.needsKeyFrame = false →
    Dependent.next serial 0 (s.forwarded g) = s.offered
  intact : Dependent.Intact IsDelta true (s.log g)
  blocked : Dependent.lastKept true (s.log g) = false → s.actor.Blocked g

variable {g : NonZeroU64} {s s' : VideoPath} {unit : Produced} {actor : VideoSenderActor}
  {channel channel' : Channel Produced} {accepted : Bool}

lemma Starts.sound (h : s.Starts g) : s.Sound g := by
  have hlog : s.log g = [] := by simp [log, h.handled]
  have hwaiting : s.waiting g = [] := by
    rw [waiting, filter_eq_nil_iff]
    intro unit hunit
    simpa [ofGeneration] using h.channel unit hunit
  have hforwarded : s.forwarded g = [] := by simp [forwarded, hlog, hwaiting]
  constructor <;> simp [hforwarded, hlog, h.offered, Dependent.Gapless, Dependent.Intact]

lemma Sound.of_forwarded (h : s.Sound g) (hforwarded : s'.forwarded g = s.forwarded g)
    (hoffered : s'.offered = s.offered) (houtput : s'.output = s.output)
    (hclosed : s'.channel.closed = false → s.channel.closed = false)
    (hintact : Dependent.Intact IsDelta true (s'.log g))
    (hblocked : Dependent.lastKept true (s'.log g) = false → s'.actor.Blocked g) :
    s'.Sound g := by
  obtain ⟨hgapless, hfresh, hcurrent, -, -⟩ := h
  constructor <;> grind

lemma Sound.of_actor (h : s.Sound g) (hblocked : s.actor.Blocked g → actor.Blocked g) :
    { s with actor }.Sound g := by
  obtain ⟨hgapless, hfresh, hcurrent, hintact, hkept⟩ := h
  exact ⟨hgapless, hfresh, hcurrent, hintact, fun hlast => hblocked (hkept hlast)⟩

lemma Sound.offer (h : s.Sound g) (accessUnit : EncodedVideoAccessUnit)
    (hgen : accessUnit.mediaGeneration = g) :
    let after := (s.output.tryForward s.channel ⟨s.offered, accessUnit⟩).2
    { s with output := after.1, channel := after.2, offered := s.offered + 1 }.Sound g := by
  intro after
  have hown : ofGeneration g ⟨s.offered, accessUnit⟩ = true := by simp [ofGeneration, hgen]
  obtain ⟨hgapless, hfresh, hcurrent, hintact, hblocked⟩ := h
  rcases s.output.tryForward_cases s.channel ⟨s.offered, accessUnit⟩ with
    ⟨hqueue, hopen, hdelta⟩ | ⟨hchannel, hneeds⟩
  · have hforwarded :
        { s with output := after.1, channel := after.2, offered := s.offered + 1 }.forwarded g =
          s.forwarded g ++ [⟨s.offered, accessUnit⟩] := by
      simp only [forwarded, waiting, log, after, hqueue, filter_append,
        filter_singleton, hown, cond_true, append_assoc]
    have hconcat := Dependent.gapless_concat hgapless hfresh fun hd =>
      (hcurrent hopen (hdelta hd)).symm
    refine ⟨?_, ?_, ?_, hintact, hblocked⟩ <;> grind [Dependent.next_concat]
  · -- an output that has dropped a unit waits for a key frame
    have hforwarded :
        { s with output := after.1, channel := after.2, offered := s.offered + 1 }.forwarded g =
          s.forwarded g := by
      simp only [forwarded, waiting, log, after, hchannel]
    refine ⟨?_, ?_, ?_, hintact, hblocked⟩ <;> grind

lemma Sound.other (h : s.Sound g) {accessUnit : EncodedVideoAccessUnit}
    (hgen : accessUnit.mediaGeneration ≠ g)
    (hsend : s.channel.trySend ⟨0, accessUnit⟩ = .ok channel) : { s with channel }.Sound g := by
  obtain ⟨hqueue, hopen, -⟩ := Channel.trySend_eq_ok hsend
  have hforwarded : { s with channel }.forwarded g = s.forwarded g := by
    have hown : ofGeneration g ⟨0, accessUnit⟩ = false := by simp [ofGeneration, hgen]
    simp only [forwarded, waiting, log, hqueue, filter_append, filter_singleton, hown,
      cond_false, append_nil]
  exact h.of_forwarded hforwarded rfl rfl (fun _ => hopen) h.intact h.blocked

lemma Sound.kept (h : s.Sound g) (hqueue : channel.queue = s.channel.queue)
    (hclosed : channel.closed = false → s.channel.closed = false)
    (hblocked : s.actor.Blocked g → actor.Blocked g) :
    { s with actor, channel,
             handled := s.handled ++ (if channel.queue.isEmpty then s.channel.queue
               else []).map (·, false) }.Sound g := by
  have hlost : (if channel.queue.isEmpty then s.channel.queue else []) = [] := by
    rw [hqueue]
    split_ifs with hempty
    · exact isEmpty_iff.1 hempty
    · rfl
  rw [hlost, map_nil, append_nil]
  refine h.of_forwarded ?_ rfl rfl hclosed h.intact fun hlast => hblocked (h.blocked hlast)
  simp only [forwarded, waiting, log, hqueue]

lemma Sound.drained (h : s.Sound g) (hqueue : channel.queue = [])
    (hclosed : channel.closed = false → s.channel.closed = false)
    (hblocked : actor.Blocked g) :
    { s with actor, channel,
             handled := s.handled ++ s.channel.queue.map (·, false) }.Sound g := by
  have hlog : (s.channel.queue.map (·, false)).filter (ofGeneration g ·.1) =
      (s.waiting g).map (·, false) := by
    rw [waiting, filter_map]
    rfl
  refine h.of_forwarded ?_ rfl rfl hclosed ?_ fun _ => hblocked
  · simp only [forwarded, log, filter_append, hlog, waiting, hqueue]
    simp [Function.comp_def]
  · simp only [log, filter_append, hlog]
    exact Dependent.intact_lost h.intact _

lemma Sound.received (h : s.Sound g) {reply : SendReply} {now : ℤ}
    (hrecv : s.channel.recv = some (unit, channel))
    (hwaits : s.actor.waitsFor (.AccessUnit (some unit.accessUnit) reply now) = true)
    (hturn : s.actor.turn channel (.AccessUnit (some unit.accessUnit) reply now) =
      (actor, channel', accepted)) :
    { s with actor, channel := channel',
             handled := s.handled ++ [(unit, accepted)] }.Sound g := by
  obtain ⟨hqueue, hclosed⟩ := Channel.recv_eq_some hrecv
  obtain ⟨rfl, -⟩ := turn_accessUnit hturn
  by_cases hgen : unit.accessUnit.mediaGeneration = g
  · have hown : ofGeneration g unit = true := by simp [ofGeneration, hgen]
    have hlog : { s with actor, channel := channel',
                         handled := s.handled ++ [(unit, accepted)] }.log g =
        s.log g ++ [(unit, accepted)] := by
      simp [log, filter_append, hown]
    refine h.of_forwarded ?_ rfl rfl (by simp [hclosed]) ?_ ?_
    · simp [forwarded, hlog, waiting, hqueue, hown]
    · rw [hlog]
      apply Dependent.intact_concat h.intact
      intro haccepted hdelta
      by_contra hlast
      have hblocked := h.blocked (by simpa using hlast)
      exact turn_accepted hturn hwaits hgen hdelta haccepted hblocked
    · rw [hlog, Dependent.lastKept_concat]
      exact turn_lost hturn hgen
  · have hown : ofGeneration g unit = false := by simp [ofGeneration, hgen]
    have hlog : { s with actor, channel := channel',
                         handled := s.handled ++ [(unit, accepted)] }.log g = s.log g := by
      simp [log, filter_append, hown]
    refine h.of_forwarded ?_ rfl rfl (by simp [hclosed]) ?_ ?_
    · simp [forwarded, hlog, waiting, hqueue, hown]
    · rw [hlog]
      exact h.intact
    · rw [hlog]
      intro hlast
      exact turn_other hturn hgen (h.blocked hlast)

lemma wake_eq_some {next : Next} (h : s.wake channel next = some (actor, channel', accepted)) :
    s.actor.waitsFor next = true ∧ s.actor.turn channel next = (actor, channel', accepted) := by
  unfold wake at h
  split_ifs at h with hwaits
  exact ⟨hwaits, Option.some.inj h⟩

lemma Sound.step {input : PathInput} (h : s.Sound g) (hnot : s.restarts g input = false)
    (hnext : s.next g input = some s') : s'.Sound g := by
  cases input with
  | offer accessUnit =>
    simp only [next] at hnext
    split_ifs at hnext with hgen
    obtain rfl := Option.some.inj hnext
    exact h.offer accessUnit hgen
  | other accessUnit =>
    simp only [next] at hnext
    split_ifs at hnext with hgen
    cases hsend : s.channel.trySend ⟨0, accessUnit⟩ with
    | ok channel =>
      simp only [hsend, Option.some.injEq] at hnext
      subst hnext
      exact h.other hgen hsend
    | error failure =>
      simp only [hsend, Option.some.injEq] at hnext
      subst hnext
      exact h
  | command command port =>
    obtain ⟨⟨actor, channel, accepted⟩, hwake, rfl⟩ := Option.map_eq_some_iff.1 hnext
    obtain ⟨-, hturn⟩ := wake_eq_some hwake
    have hnot' : ∀ c ∈ command, s.actor.configures g c = false := by
      intro c hc
      obtain rfl := Option.mem_def.1 hc
      exact hnot
    obtain ⟨hclosed, ⟨hqueue, hblocked⟩ | ⟨hqueue, hblocked⟩⟩ :=
      turn_command hturn hnot'
    · exact h.kept hqueue hclosed hblocked
    · simp only [hqueue, isEmpty_nil, if_true]
      exact h.drained hqueue hclosed hblocked
  | feedback changed =>
    obtain ⟨⟨actor, channel, accepted⟩, hwake, rfl⟩ := Option.map_eq_some_iff.1 hnext
    obtain ⟨-, hturn⟩ := wake_eq_some hwake
    obtain ⟨rfl, hblocked⟩ := turn_feedback hturn
    exact h.of_actor hblocked
  | receive reply now =>
    simp only [next] at hnext
    cases hrecv : s.channel.recv with
    | none =>
      rw [hrecv] at hnext
      obtain ⟨⟨actor, channel, accepted⟩, hwake, rfl⟩ := Option.map_eq_some_iff.1 hnext
      obtain ⟨-, hturn⟩ := wake_eq_some hwake
      simp only [turn, Prod.mk.injEq] at hturn
      obtain ⟨rfl, rfl, -⟩ := hturn
      exact h.of_actor fun _ => blocked_failActive _
    | some received =>
      obtain ⟨unit, channel⟩ := received
      rw [hrecv] at hnext
      obtain ⟨⟨actor, channel', accepted⟩, hwake, rfl⟩ := Option.map_eq_some_iff.1 hnext
      obtain ⟨hwaits, hturn⟩ := wake_eq_some hwake
      exact h.received hrecv hwaits hturn

/-- In every run of a generation, a delta that the transport accepts is the first unit of the
generation or follows a unit that the transport accepted. So after a unit that was lost, on
either side of the channel, no delta is accepted before a key frame. -/
theorem accepted_decodable {start : VideoPath} (hstart : start.Starts g)
    (hreach : ((machine g).guard fun s input => s.restarts g input = false).Reach start s) :
    (∀ unit ∈ s.accepted g, unit.accessUnit.dependency = .Delta →
      unit.serial = 0 ∨ ∃ before ∈ s.accepted g, before.serial + 1 = unit.serial) ∧
    (∀ unit ∈ s.accepted g, unit.accessUnit.dependency = .Delta → ∀ lost < unit.serial,
      (∀ other ∈ s.accepted g, other.serial ≠ lost) →
      ∃ key ∈ s.accepted g, key.accessUnit.dependency = .KeyFrame ∧
        lost < key.serial ∧ key.serial < unit.serial) ∧
    (s.accepted g).Pairwise (fun a b => a.serial < b.serial) := by
  have h : s.Sound g := by
    apply hreach.invariant hstart.sound
    intro before input after hbefore hnext
    obtain ⟨hnot, hnext⟩ := Machine.guard_next.1 hnext
    exact hbefore.step hnot hnext
  have hgapless := (Dependent.gapless_append.1 h.gapless).1
  have hpred : ∀ unit ∈ s.accepted g, unit.IsDelta →
      unit.serial = 0 ∨ ∃ before ∈ s.accepted g, before.serial + 1 = unit.serial := by
    intro unit hunit hdelta
    rcases Dependent.exists_predecessor hgapless h.intact hunit hdelta with ⟨hzero, -⟩ | hbefore
    · exact .inl hzero
    · exact .inr hbefore
  refine ⟨hpred, ?_, hgapless.pairwise_keptOf⟩
  intro unit hunit hdelta lost hlt hlost
  obtain ⟨key, hkey, hindep, hbetween⟩ :=
    Dependent.exists_between hpred hunit hdelta hlt hlost
  refine ⟨key, hkey, ?_, hbetween⟩
  cases hdep : key.accessUnit.dependency with
  | KeyFrame => rfl
  | Delta => exact absurd hdep hindep

/-- A sender that has just been configured, with room for one unit. -/
def configuredPath (g : NonZeroU64) : VideoPath where
  output := {}
  channel := .bounded 1
  actor := (({} : VideoSenderActor).configureActive g ⟨false⟩).toOption.getD {}
  offered := 0
  handled := []

def unitOf (g : NonZeroU64) (dependency : VideoFrameDependency) : EncodedVideoAccessUnit :=
  ⟨g, dependency, [], 0, 0, 1⟩

/-- The channel overflows with the third unit, and the sixth meets a transport under
pressure, which lasts until its feedback says otherwise. -/
def congestedInputs (g : NonZeroU64) : List PathInput :=
  [.command (some (.Transition g .Start)) (.ok ()),
    .offer (unitOf g .KeyFrame), .receive (some (.ok .Accepted)) 0,
    .offer (unitOf g .Delta), .offer (unitOf g .Delta), .receive (some (.ok .Accepted)) 0,
    .offer (unitOf g .Delta), .offer (unitOf g .KeyFrame), .receive (some (.ok .Accepted)) 0,
    .offer (unitOf g .Delta), .receive (some (.ok .Congested)) 0,
    .offer (unitOf g .Delta), .receive (some (.ok .Accepted)) 0,
    .feedback (some ⟨1, 0, 3, 0, some ⟨0, 0, 1, none, none, 0, 0, none⟩, none⟩),
    .offer (unitOf g .Delta), .receive (some (.ok .Accepted)) 0,
    .offer (unitOf g .KeyFrame), .receive (some (.ok .Accepted)) 0,
    .offer (unitOf g .Delta), .receive (some (.ok .Accepted)) 0]

theorem accepted_decodable_congested :
    let g : NonZeroU64 := ⟨1, by decide⟩
    ∃ s : VideoPath,
      ((s.accepted g).map fun unit => (unit.serial, unit.accessUnit.dependency)) =
        [(0, .KeyFrame), (1, .Delta), (4, .KeyFrame), (8, .KeyFrame), (9, .Delta)] ∧
      ∀ unit ∈ s.accepted g, unit.accessUnit.dependency = .Delta →
        unit.serial = 0 ∨ ∃ before ∈ s.accepted g, before.serial + 1 = unit.serial := by
  intro g
  have hstart : (configuredPath g).Starts g := by
    constructor <;> simp [configuredPath, Channel.bounded]
  obtain ⟨s, hrun, haccepted⟩ : ∃ s, ((machine g).guard fun s input =>
      s.restarts g input = false).run (configuredPath g) (congestedInputs g) = some s ∧
        ((s.accepted g).map fun unit => (unit.serial, unit.accessUnit.dependency)) =
          [(0, .KeyFrame), (1, .Delta), (4, .KeyFrame), (8, .KeyFrame), (9, .Delta)] :=
    Machine.exists_run (by decide +kernel)
  exact ⟨s, haccepted, (accepted_decodable hstart ⟨_, hrun⟩).1⟩

end VideoPath

end Pronk.Chromiacast
