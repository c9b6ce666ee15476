import Pronk.Chromiacast.Ledger

/-!
# What the methods of the media session do to ownership

One specification for each method. `configure` hands the generation from owner to owner,
`stop_media` asks each owner that received it once, and the other methods make no call
that moves a generation.
-/
namespace Pronk.Chromiacast
open Interaction Method Media Chromiacast.Ledger

variable {κ ρ : Type} {s : ChromiacastMediaSession κ} {log : List Entry}

/-! ### The calls of `stop_media` -/

def stopEntry (generation : NonZeroU64) (reply : Except String Unit) : Owner → Entry
  | .graph => ⟨.graph .stop generation, reply⟩
  | .sender kind => ⟨.sender kind .stop generation, reply⟩
  | .app => ⟨.stopApp generation, reply⟩

@[simp] lemma received_stopEntry (generation : NonZeroU64) (reply : Except String Unit)
    (owner : Owner) : received? (stopEntry generation reply owner) = none := by
  rcases owner with - | (- | -) | - <;> rfl

@[simp] lemma stopped_stopEntry (generation : NonZeroU64) (reply : Except String Unit)
    (owner : Owner) :
    stopped? (stopEntry generation reply owner) = some ((owner, generation), reply.isOk) := by
  rcases owner with - | (- | -) | - <;> rfl

/-- The stop of one owner, if the session has noted that it received the generation. -/
def stopOf (s : ChromiacastMediaSession κ) (generation : NonZeroU64)
    (replies : Owner → Except String Unit) (owner : Owner) : List Entry :=
  if s.holds owner then [stopEntry generation (replies owner) owner] else []

/-- All calls that `stop_media` makes. -/
def stopsOf (s : ChromiacastMediaSession κ) (generation : NonZeroU64)
    (replies : Owner → Except String Unit) : List Entry :=
  stopOf s generation replies .graph ++ stopOf s generation replies (.sender .Audio) ++
    stopOf s generation replies (.sender .Video) ++ stopOf s generation replies .app

section Stops

variable (generation g : NonZeroU64) (replies : Owner → Except String Unit) (owner other : Owner)

lemma outcomes_stopOf : (ledger (stopOf s generation replies owner)).outcomes other g =
      if owner = other ∧ g = generation ∧ s.holds other = true then [(replies other).isOk]
      else [] := by
  unfold stopOf
  by_cases howner : owner = other
  · subst howner
    by_cases hholds : s.holds owner = true
    · by_cases hgeneration : g = generation
      · simp [hholds, hgeneration, ledger, outcomes]
      · simp [hholds, hgeneration, ledger, outcomes, Ne.symm hgeneration]
    · simp [hholds, ledger, outcomes]
  · split_ifs <;> simp_all [ledger, outcomes]

lemma outcomes_stopsOf : (ledger (stopsOf s generation replies)).outcomes owner g =
    if g = generation ∧ s.holds owner = true then [(replies owner).isOk] else [] := by
  simp only [stopsOf, outcomes_append, outcomes_stopOf]
  rcases owner with - | (- | -) | - <;> simp

lemma not_received_stopsOf : ¬ (ledger (stopsOf s generation replies)).Received owner g := by
  have hnone : ∀ o, (stopOf s generation replies o).filterMap received? = [] := by
    intro o
    unfold stopOf
    split_ifs <;> simp
  simp [Received, ledger, stopsOf, hnone]

end Stops

section Steps

variable {calls : List Entry} {generation : NonZeroU64}

/-- What one of the four stops does: it makes its call, and says Ok only if that did. -/
def StopsOwner (s : ChromiacastMediaSession κ) (generation : NonZeroU64) (owner : Owner)
    (calls : List Entry) (result : Except MediaSessionError Unit) (reply : Except String Unit)
    (calls' : List Entry) : Prop :=
  calls' = calls ++ stopOf s generation (fun _ => reply) owner ∧
    (result = .ok () → s.holds owner = true → reply.isOk = true)

/-- The two ways to stop an owner that is not the application. -/
lemma stopsOwner_call (owner : Owner) (hholds : s.holds owner = true)
    (wrap : String → MediaSessionError) (r : Except String Unit) :
    StopsOwner s generation owner calls (r.mapError wrap) r
      (calls ++ [stopEntry generation r owner]) := by
  refine ⟨by simp [stopOf, hholds], ?_⟩
  cases r <;> simp [Except.mapError, Except.isOk, Except.toBool]

lemma stopsOwner_skip (owner : Owner) (hholds : ¬ s.holds owner = true) :
    StopsOwner s generation owner calls (.ok ()) (.ok ()) calls :=
  ⟨by simp [stopOf, hholds], fun _ _ => rfl⟩

lemma stopGraph_spec : (ChromiacastMediaSession.stopGraph generation).wp anyOwners s calls
    (fun a s' calls' => s' = s ∧ ∃ reply, StopsOwner s generation .graph calls a reply calls')
    (fun _ _ _ => False) :=
  Then.get ((wp_ite ..).2
    ⟨fun hholds => Then.recorded fun r _ => ⟨rfl, r, stopsOwner_call .graph hholds _ r⟩,
      fun hholds => ⟨rfl, .ok (), stopsOwner_skip .graph hholds⟩⟩)

lemma stopSender_spec (kind : DeviceMediaKind) (hsender : s.hasSender kind = true) :
    (ChromiacastMediaSession.stopSender kind generation).wp anyOwners s calls
    (fun a s' calls' => s' = s ∧
      ∃ reply, StopsOwner s generation (.sender kind) calls a reply calls')
    (fun _ _ _ => False) := by
  refine Then.get ((wp_ite ..).2 ⟨fun hholds => ?_, fun hholds => ?_⟩)
  · rw [if_pos hsender]
    exact Then.recorded fun r _ => ⟨rfl, r, stopsOwner_call (.sender kind) hholds _ r⟩
  · exact ⟨rfl, .ok (), stopsOwner_skip (.sender kind) hholds⟩

lemma stopTransport_spec (happ : s.transportActive = true → s.activeApp = some generation) :
    (ChromiacastMediaSession.stopTransport).wp anyOwners s calls
    (fun a s' calls' => ∃ reply : Except String Unit,
      StopsOwner s generation .app calls a reply calls' ∧
      s' = { s with activeApp :=
        if s.transportActive = true ∧ reply.isOk = true then none else s.activeApp })
    (fun _ _ _ => False) := by
  refine Then.get ((wp_ite ..).2 ⟨fun hholds => Then.get ?_, fun hholds => ?_⟩)
  · rw [happ hholds]
    refine Then.recorded fun r _ => ?_
    cases r with
    | ok value =>
      exact ⟨.ok (), stopsOwner_call .app hholds .Transport _,
        by simp [hholds, Except.isOk, Except.toBool]⟩
    | error e =>
      refine ⟨.error e, ⟨by simp [stopOf, ChromiacastMediaSession.holds, hholds, stopEntry],
        by simp⟩, ?_⟩
      rw [if_neg fun hboth => Bool.false_ne_true hboth.2, ← happ hholds]
  · refine ⟨.ok (), stopsOwner_skip .app hholds, ?_⟩
    rw [if_neg fun hboth => hholds hboth.1]

end Steps

/-- The generation is closed and the books are still right. -/
structure Closed (log : List Entry) (generation : NonZeroU64) (s' : ChromiacastMediaSession κ)
    (calls : List Entry) : Prop where
  books : Books s' (ledger (log ++ calls))
  completed : s'.completedGeneration = some generation
  state : s'.state = .Prepared

lemma stopOwners_spec (h : Books s (ledger log)) {generation : NonZeroU64}
    (hactive : s.activeGeneration = some generation) :
    (ChromiacastMediaSession.stopOwners generation).wp anyOwners s []
      (fun _ s' calls => Closed log generation s' calls ∧ ∀ owner,
        (ledger (log ++ calls)).Received owner generation →
          true ∈ (ledger (log ++ calls)).outcomes owner generation)
      (fun _ s' calls => Closed log generation s' calls) := by
  have happ : s.transportActive = true → s.activeApp = some generation := by
    rw [← hactive]
    exact h.app (by simp [hactive])
  refine Then.mono stopGraph_spec (by simp) ?_
  rintro graph s₁ calls₁ ⟨rfl, r₁, hcalls₁, hgraph⟩
  refine Then.mono (stopSender_spec .Audio (h.senders _)) (by simp) ?_
  rintro audio s₂ calls₂ ⟨rfl, r₂, hcalls₂, haudio⟩
  refine Then.mono (stopSender_spec .Video (h.senders _)) (by simp) ?_
  rintro video s₃ calls₃ ⟨rfl, r₃, hcalls₃, hvideo⟩
  refine Then.mono (stopTransport_spec happ) (by simp) ?_
  rintro transport s₄ calls₄ ⟨r₄, ⟨hcalls₄, htransport⟩, rfl⟩
  let replies : Owner → Except String Unit := fun
    | .graph => r₁
    | .sender .Audio => r₂
    | .sender .Video => r₃
    | .app => r₄
  have hcalls : calls₄ = stopsOf s₃ generation replies := by
    rw [hcalls₄, hcalls₃, hcalls₂, hcalls₁]
    rfl
  have hbooks := h.settle hactive (fun owner g => not_received_stopsOf generation g replies owner)
    (fun owner g => outcomes_stopsOf generation g replies owner) rfl
  rw [← hcalls] at hbooks
  have hclosed : Closed log generation _ calls₄ := ⟨hbooks, rfl, rfl⟩
  refine Then.modify (Then.lift (fun _ _ => hclosed) fun _ hok₁ => ?_)
  refine Then.lift (fun _ _ => hclosed) fun _ hok₂ => ?_
  refine Then.lift (fun _ _ => hclosed) fun _ hok₃ => ?_
  refine Then.lift (fun _ _ => hclosed) fun _ hok₄ => ?_
  refine ⟨hclosed, fun owner hreceived => ?_⟩
  have hholds : s₃.holds owner = true := by
    rw [received_append, hcalls] at hreceived
    rcases hreceived with hbefore | hnow
    · exact ((h.active generation hactive owner).2).1 hbefore
    · exact absurd hnow (not_received_stopsOf generation generation replies owner)
  have hreply : (replies owner).isOk = true := by
    rcases owner with - | (- | -) | -
    · exact hgraph hok₁ hholds
    · exact hvideo hok₃ hholds
    · exact haudio hok₂ hholds
    · exact htransport hok₄ hholds
  rw [outcomes_append, hcalls, outcomes_stopsOf, if_pos ⟨rfl, hholds⟩, hreply]
  simp

/-! ### Calls that leave ownership alone -/

/-- The state is unchanged and no call moved a generation. -/
def Beside (s₀ s : ChromiacastMediaSession κ) (calls : List Entry) : Prop :=
  s = s₀ ∧ ∀ e ∈ calls, Aside e

/-- A method that only makes such calls, from a state and to the same state. -/
abbrev Harmless {α : Type} (s₀ : ChromiacastMediaSession κ) (m : SessionMethod κ α) : Prop :=
  Keeps anyOwners (Beside s₀) (Beside s₀) m

/-- A call that moves no generation, whatever is answered. -/
class AsideCall (c : OwnerCall) : Prop where
  aside : ∀ r, Aside ⟨c, r⟩

section Calls

variable (kind : DeviceMediaKind) (generation : NonZeroU64)

instance : AsideCall (.sender kind .start generation) := ⟨fun _ => ⟨rfl, rfl⟩⟩
instance : AsideCall (.sender kind .suspend generation) := ⟨fun _ => ⟨rfl, rfl⟩⟩
instance : AsideCall (.sender kind .resume generation) := ⟨fun _ => ⟨rfl, rfl⟩⟩
instance : AsideCall (.sender kind .statistics generation) :=
  ⟨fun _ => ⟨rfl, rfl⟩⟩
instance : AsideCall (.sender kind .waitForMedia generation) := ⟨fun _ => ⟨rfl, rfl⟩⟩
instance : AsideCall (.sender kind .waitForReceiverAck generation) :=
  ⟨fun _ => ⟨rfl, rfl⟩⟩
instance : AsideCall (.sender kind .waitForReceiverAudioAck generation) :=
  ⟨fun _ => ⟨rfl, rfl⟩⟩
instance : AsideCall (.graph .start generation) := ⟨fun _ => ⟨rfl, rfl⟩⟩
instance : AsideCall (.graph .suspend generation) := ⟨fun _ => ⟨rfl, rfl⟩⟩
instance : AsideCall (.graph .resume generation) := ⟨fun _ => ⟨rfl, rfl⟩⟩

end Calls

lemma aside_snoc {calls : List Entry} {e : Entry} (hcalls : ∀ x ∈ calls, Aside x) (he : Aside e) :
    ∀ x ∈ calls ++ [e], Aside x := by
  intro x hx
  rcases List.mem_append.1 hx with hold | hnew
  · exact hcalls x hold
  · rwa [List.mem_singleton.1 hnew]

namespace Harmless

open ChromiacastMediaSession

variable {generation : NonZeroU64} {s₀ : ChromiacastMediaSession κ}

instance request {c : OwnerCall} [hc : AsideCall c] : Spares anyOwners (Beside s₀) c := by
  constructor
  rintro s calls r calls' ⟨-, rfl⟩ ⟨rfl, haside⟩
  exact ⟨rfl, aside_snoc haside (hc.aside r)⟩

instance needSender (kind : DeviceMediaKind) :
    Harmless s₀ (needSender kind : SessionMethod κ PUnit) := by
  unfold ChromiacastMediaSession.needSender
  infer_instance

instance senderCall {kind : DeviceMediaKind} {op : SenderOp}
    [AsideCall (.sender kind op generation)] :
    Harmless s₀ (senderCall kind op generation : SessionMethod κ PUnit) := by
  unfold ChromiacastMediaSession.senderCall
  infer_instance

instance graphCall {op : GraphOp} [AsideCall (.graph op generation)] :
    Harmless s₀ (graphCall op generation : SessionMethod κ PUnit) := by
  unfold ChromiacastMediaSession.graphCall
  infer_instance

instance bestEffort {c : OwnerCall} [AsideCall c] :
    Harmless s₀ (bestEffort c : SessionMethod κ PUnit) := by
  unfold ChromiacastMediaSession.bestEffort
  infer_instance

instance orUndo (r : Except MediaSessionError Unit) {undo : SessionMethod κ PUnit}
    [Harmless s₀ undo] : Harmless s₀ (orUndo r undo) := by
  cases r <;> unfold ChromiacastMediaSession.orUndo <;> infer_instance

instance suspendSendersBestEffort :
    Harmless s₀ (suspendSendersBestEffort generation : SessionMethod κ PUnit) := by
  unfold ChromiacastMediaSession.suspendSendersBestEffort
  infer_instance

instance waitForMediaConfirmation (audio : Bool) :
    Harmless s₀ (waitForMediaConfirmation generation audio : SessionMethod κ PUnit) := by
  unfold ChromiacastMediaSession.waitForMediaConfirmation
  infer_instance

instance streamAudio {op : SenderOp} [AsideCall (.sender .Audio op generation)] :
    Harmless s₀ (streamAudio op generation : SessionMethod κ PUnit) := by
  unfold ChromiacastMediaSession.streamAudio
  infer_instance

instance streamGraph {op : GraphOp} [AsideCall (.graph op generation)] :
    Harmless s₀ (streamGraph op generation : SessionMethod κ PUnit) := by
  unfold ChromiacastMediaSession.streamGraph
  infer_instance

instance suspendAudio : Harmless s₀ (suspendAudio generation : SessionMethod κ PUnit) := by
  unfold ChromiacastMediaSession.suspendAudio
  infer_instance

instance suspendVideo (audio : Bool) :
    Harmless s₀ (suspendVideo audio generation : SessionMethod κ PUnit) := by
  unfold ChromiacastMediaSession.suspendVideo resumeAudio
  infer_instance

lemma step {α β : Type} {m : SessionMethod κ α} {f : α → SessionMethod κ β}
    {s : ChromiacastMediaSession κ} [hm : Harmless s m]
    {calls : List Entry} (hcalls : ∀ e ∈ calls, Aside e)
    {ok : β → ChromiacastMediaSession κ → List Entry → Prop}
    {err : MediaSessionError → ChromiacastMediaSession κ → List Entry → Prop}
    (herr : ∀ e calls', (∀ e ∈ calls', Aside e) → err e s calls')
    (hok : ∀ a calls', (∀ e ∈ calls', Aside e) → (f a).wp anyOwners s calls' ok err) :
    (m >>= f).wp anyOwners s calls ok err := by
  refine Keeps.step hm ⟨rfl, hcalls⟩ ?_ ?_
  · rintro e s' calls' ⟨rfl, h⟩
    exact herr e calls' h
  · rintro a s' calls' ⟨rfl, h⟩
    exact hok a calls' h

end Harmless

open Harmless (step)

/-- An application that is still active belongs to a generation that is not completed, or
its stop failed. -/
def Leftover (s : ChromiacastMediaSession κ) (L : Ledger) : Prop :=
  ∀ generation, s.activeApp = some generation →
    s.Newer generation ∨ false ∈ L.outcomes .app generation

/-- Once the session is stopped its books are closed. -/
def Valid (s : ChromiacastMediaSession κ) (L : Ledger) : Prop :=
  (s.state ≠ .Stopped ∧ Books s L) ∨ (s.state = .Stopped ∧ Leftover s L)

lemma Books.toLeftover {L : Ledger} (h : Books s L) : Leftover s L := by
  intro generation happ
  rcases h.leftover generation happ with ⟨hactive, -⟩ | hfailed
  · exact .inl (h.newer generation hactive)
  · exact .inr hfailed

namespace Valid

variable {L : Ledger}

lemma leftover (h : Valid s L) : Leftover s L := by
  rcases h with ⟨-, hbooks⟩ | ⟨-, hleftover⟩
  · exact hbooks.toLeftover
  · exact hleftover

lemma books (h : Valid s L) (hstate : s.state ≠ .Stopped) : Books s L := by
  rcases h with ⟨-, hbooks⟩ | ⟨hstopped, -⟩
  · exact hbooks
  · exact absurd hstopped hstate

end Valid

/-- What every method but `stop_media` keeps. -/
structure Advanced (log : List Entry) (s s' : ChromiacastMediaSession κ) (calls : List Entry) :
    Prop where
  completed : s'.completedGeneration = s.completedGeneration
  valid : Valid s' (ledger (log ++ calls))

lemma Advanced.aside (h : Valid s (ledger log)) {calls : List Entry}
    (hcalls : ∀ e ∈ calls, Aside e) : Advanced log s s calls :=
  ⟨rfl, by rwa [ledger_append_aside hcalls]⟩

def Advances (log : List Entry) (s : ChromiacastMediaSession κ)
    (m : SessionMethod κ PUnit) : Prop :=
  m.wp anyOwners s [] (fun _ => Advanced log s) (fun _ => Advanced log s)

section Methods

open ChromiacastMediaSession

variable {calls : List Entry}

lemma Advanced.move (h : Books s (ledger log)) (hcalls : ∀ e ∈ calls, Aside e)
    {state : SessionState} (hstate : state ∈ [SessionState.Configured, .Streaming, .Suspended]) :
    Advanced log s { s with state := state } calls := by
  refine ⟨rfl, .inl ⟨?_, ?_⟩⟩
  · rintro rfl
    simp at hstate
  · have hbooks := h.aside hcalls
    exact { hbooks with working := fun _ => hstate }

variable {generation : NonZeroU64}

lemma stream_advances (h : Books s (ledger log)) (hstate : s.state ≠ .Stopped)
    (hcalls : ∀ e ∈ calls, Aside e) {senderOp : SenderOp} {graphOp : GraphOp}
    [∀ kind, AsideCall (.sender kind senderOp generation)] [AsideCall (.graph graphOp generation)] :
    (stream senderOp graphOp generation).wp anyOwners s calls
      (fun _ => Advanced log s) (fun _ => Advanced log s) := by
  have herr : ∀ (e : MediaSessionError) (calls' : List Entry), (∀ e ∈ calls', Aside e) →
      Advanced log s s calls' := fun _ _ haside => .aside (.inl ⟨hstate, h⟩) haside
  refine Then.get (step hcalls herr fun _ _ h₁ => step h₁ herr fun _ _ h₂ => ?_)
  refine step h₂ herr fun _ _ h₃ => step h₃ herr fun _ _ h₄ => ?_
  refine step h₄ herr fun _ _ h₅ => step h₅ herr fun _ _ h₆ => ?_
  exact step h₆ herr fun _ _ h₇ => .move h h₇ (by simp)

variable {err : MediaSessionError → ChromiacastMediaSession κ → List Entry → Prop}

lemma wp_requireGeneration {operation : String} {mediaGeneration : UInt64} {required : SessionState}
    {ok : NonZeroU64 → ChromiacastMediaSession κ → List Entry → Prop}
    (hok : ∀ generation, s.state = required → ok generation s calls) (herr : ∀ e, err e s calls) :
    (requireGeneration operation mediaGeneration required).wp anyOwners s calls ok err := by
  refine Then.get (Then.failIf (fun _ => herr _) fun hstate => ?_)
  refine Then.lift (fun e _ => herr e) fun generation _ => ?_
  exact Then.lift (fun e _ => herr e) fun _ _ => hok generation (not_not.1 hstate)

lemma start_advances (h : Valid s (ledger log)) (mediaGeneration : UInt64) :
    Advances log s (start mediaGeneration) := by
  have hsame : Advanced log s s [] := .aside h (by simp)
  refine Then.of (wp_requireGeneration (fun generation hstate => ?_) fun _ => hsame)
  refine Then.get (Then.failIf (fun _ => hsame) fun _ => ?_)
  have hlive : s.state ≠ .Stopped := by simp [hstate]
  exact stream_advances (h.books hlive) hlive (by simp)

lemma resume_advances (h : Valid s (ledger log)) (mediaGeneration : UInt64) :
    Advances log s (resume mediaGeneration) := by
  refine Then.of (wp_requireGeneration (fun generation hstate => ?_) fun _ => .aside h (by simp))
  have hlive : s.state ≠ .Stopped := by simp [hstate]
  exact stream_advances (h.books hlive) hlive (by simp)

lemma suspend_advances (h : Valid s (ledger log)) : Advances log s suspend := by
  have herr : ∀ (e : MediaSessionError) (calls' : List Entry), (∀ e ∈ calls', Aside e) →
      Advanced log s s calls' := fun _ _ haside => .aside h haside
  have hsame : Advanced log s s [] := .aside h (by simp)
  refine Then.get (Then.failIf (fun _ => hsame) fun hstate => ?_)
  have hlive : s.state ≠ .Stopped := by simp [not_not.1 hstate]
  refine Then.okOr (fun _ => hsame) fun generation _ => ?_
  refine step (by simp) herr fun _ _ h₁ => step h₁ herr fun _ _ h₂ => ?_
  exact step h₂ herr fun _ _ h₃ => .move (h.books hlive) h₃ (by simp)

lemma completePreparation_advances (h : Valid s (ledger log)) (admission : Admission κ ρ)
    (capabilities : κ) : Advances log s (completePreparation admission capabilities) := by
  have hsame : Advanced log s s [] := .aside h (by simp)
  refine Then.get (Then.failIf (fun _ => hsame) fun hstate => ?_)
  have hcreated : s.state = .Created := not_not.1 hstate
  refine Then.lift (fun _ _ => hsame) fun _ _ => ?_
  have hbooks := (h.books (by simp [hcreated])).aside (l := []) (by simp)
  refine ⟨rfl, .inl ⟨by simp, { hbooks with working := fun hactive => ?_ }⟩⟩
  have hworking := hbooks.working hactive
  simp [hcreated] at hworking

lemma wp_shutdownSender {α : Type} {kind : DeviceMediaKind} {present : Bool}
    (hcalls : ∀ e ∈ calls, Aside e) {f : Except MediaSessionError Unit → SessionMethod κ α}
    {ok : α → ChromiacastMediaSession κ → List Entry → Prop}
    (hok : ∀ a calls', (∀ e ∈ calls', Aside e) → (f a).wp anyOwners s calls' ok err) :
    (shutdownSender kind present >>= f).wp anyOwners s calls ok err :=
  Then.of ((wp_ite ..).2 ⟨fun _ => Then.recorded fun _ _ => hok _ _ (aside_snoc hcalls ⟨rfl, rfl⟩),
    fun _ => hok _ _ hcalls⟩)

lemma shutdown_advances (h : Valid s (ledger log)) : Advances log s shutdown := by
  refine Then.get (Then.modify (Then.recorded fun graph _ => ?_))
  refine wp_shutdownSender (aside_snoc (by simp) ⟨rfl, rfl⟩) fun audio _ haudio => ?_
  refine wp_shutdownSender haudio fun video calls hcalls => ?_
  have hdone : ∀ s' : ChromiacastMediaSession κ, s'.state = .Stopped →
      s'.activeApp = s.activeApp → s'.completedGeneration = s.completedGeneration →
      Advanced log s s' calls := by
    intro s' hstate happ hcompleted
    refine ⟨hcompleted, .inr ⟨hstate, ?_⟩⟩
    rw [ledger_append_aside hcalls]
    intro generation hgeneration
    rw [Newer, hcompleted]
    exact h.leftover generation (happ ▸ hgeneration)
  exact Then.modify (Then.lift (fun _ _ => hdone _ rfl rfl rfl) fun _ _ =>
    Then.lift (fun _ _ => hdone _ rfl rfl rfl) fun _ _ =>
      Then.lift (fun _ _ => hdone _ rfl rfl rfl) fun _ _ => hdone _ rfl rfl rfl)

/-- The books while `configure` hands the generation to its owners. -/
structure Handing (log : List Entry) (generation : NonZeroU64)
    (completed : Option NonZeroU64) (s : ChromiacastMediaSession κ) (calls : List Entry) :
    Prop where
  books : Books s (ledger (log ++ calls))
  state : s.state = .Configured
  active : s.activeGeneration = some generation
  completed : s.completedGeneration = completed

namespace Handing

variable {generation : NonZeroU64} {completed : Option NonZeroU64} {calls : List Entry} {e : Entry}

lemma aside (h : Handing log generation completed s calls) (he : Aside e) :
    Handing log generation completed s (calls ++ [e]) := by
  refine { h with books := ?_ }
  rw [← List.append_assoc]
  exact h.books.aside (by simpa using he)

lemma receive (h : Handing log generation completed s calls) {owner : Owner}
    (hreceived : received? e = some (owner, generation)) (hstopped : stopped? e = none) :
    Handing log generation completed (s.noteReceipt generation owner) (calls ++ [e]) := by
  refine ⟨?_, ?_, ?_, ?_⟩
  · rw [← List.append_assoc]
    exact h.books.receive h.active hreceived hstopped
  · rw [noteReceipt_state, h.state]
  · rw [noteReceipt_activeGeneration, h.active]
  · rw [noteReceipt_completedGeneration, h.completed]

lemma advanced {s₀ : ChromiacastMediaSession κ}
    (h : Handing log generation s₀.completedGeneration s calls) :
    Advanced log s₀ s calls :=
  ⟨h.completed, .inl ⟨by simp [h.state], h.books⟩⟩

lemma wp_release {α : Type} (h : Handing log generation completed s calls) (kind : DeviceMediaKind)
    {f : PUnit → SessionMethod κ α} {ok : α → ChromiacastMediaSession κ → List Entry → Prop}
    {err : MediaSessionError → ChromiacastMediaSession κ → List Entry → Prop}
    (hok : ∀ calls', Handing log generation completed s calls' →
      (f ⟨⟩).wp anyOwners s calls' ok err) :
    (bestEffort (.releasePort kind generation) >>= f).wp anyOwners s calls ok err :=
  Then.of (Then.recorded fun _ _ => hok _ (h.aside ⟨rfl, rfl⟩))

/-- A failed step of `configure` releases the video port and leaves. -/
lemma wp_orUndo {r : Except MediaSessionError Unit}
    (h : Handing log generation completed s calls)
    {ok : PUnit → ChromiacastMediaSession κ → List Entry → Prop}
    (hok : r = .ok () → ok ⟨⟩ s calls) :
    (orUndo r (bestEffort (.releasePort .Video generation))).wp anyOwners s calls ok
      (fun _ => Handing log generation completed) := by
  cases r with
  | ok _ => exact hok rfl
  | error e => exact h.wp_release .Video fun _ h' => h'

end Handing

lemma wp_needSender {kind : DeviceMediaKind} (hsender : s.hasSender kind = true)
    {ok : PUnit → ChromiacastMediaSession κ → List Entry → Prop} (hok : ok ⟨⟩ s calls) :
    (needSender kind).wp anyOwners s calls ok err := by
  refine Then.get ((wp_failIf ..).2 ⟨fun hgone => ?_, fun _ => hok⟩)
  rw [hsender] at hgone
  cases hgone

lemma configureAudio_spec {completed : Option NonZeroU64}
    (h : Handing log generation completed s calls) (audio : Bool) (negotiated : Negotiated) :
    (configureAudio generation audio negotiated).wp anyOwners s calls
      (fun _ => Handing log generation completed) (fun _ => Handing log generation completed) := by
  unfold configureAudio
  split
  · refine Then.of (wp_needSender (h.books.senders _) (Then.recorded fun r _ => ?_))
    cases r with
    | error e =>
      have hrefused := h.aside (e := ⟨.sender .Audio .configure generation, .error e⟩) ⟨rfl, rfl⟩
      exact Then.of (hrefused.wp_orUndo nofun)
    | ok value =>
      have hreceived : Handing log generation completed
          (s.noteReceipt generation (.sender .Audio))
          (calls ++ [⟨.sender .Audio .configure generation, .ok value⟩]) := h.receive rfl rfl
      exact hreceived
  · exact h.wp_release .Video fun _ h' => h'
  · exact h.wp_release .Audio fun _ h' => h'.wp_release .Video fun _ h'' => h''
  · exact h

lemma configureOwners_spec {completed : Option NonZeroU64}
    (h : Handing log generation completed s []) (plan : Plan) :
    (configureOwners generation plan).wp anyOwners s []
      (fun _ => Handing log generation completed) (fun _ => Handing log generation completed) := by
  refine Then.of (Then.get (Then.failIf (fun _ => h) fun _ => Then.recorded fun reply _ => ?_))
  cases reply with
  | error e => exact Then.lift (fun _ _ => h.aside ⟨rfl, rfl⟩) nofun
  | ok negotiated =>
    have happ : Handing log generation completed (s.noteReceipt generation .app)
        ([] ++ [⟨.negotiate generation plan.audio, .ok negotiated⟩]) := h.receive rfl rfl
    refine Then.lift nofun fun negotiated' _ => Then.modify (Then.modify (Then.of ?_))
    refine Then.modify (Then.recorded fun graph _ => ?_)
    have hgraph : Handing log generation completed
        ((s.noteReceipt generation .app).noteReceipt generation .graph)
        ([] ++ [⟨.negotiate generation plan.audio, .ok negotiated⟩] ++
          [⟨.graph .configure generation, graph⟩]) := happ.receive rfl rfl
    refine hgraph.wp_orUndo fun _ => ?_
    refine Then.mono (configureAudio_spec hgraph plan.audio negotiated') (fun _ _ _ h' => h') ?_
    refine fun _ s' calls' h' => Then.of (Then.of (wp_needSender (h'.books.senders _) ?_))
    refine Then.recorded fun video _ => ?_
    cases video with
    | error e => exact Then.lift (fun _ _ => h'.aside ⟨rfl, rfl⟩) nofun
    | ok value =>
      have hvideo : Handing log generation completed (s'.noteReceipt generation (.sender .Video))
          (calls' ++ [⟨.sender .Video .configure generation, .ok value⟩]) := h'.receive rfl rfl
      refine Then.lift nofun fun _ _ => ?_
      exact ⟨{ hvideo.books with }, hvideo.state, hvideo.active, hvideo.completed⟩

lemma configure_advances (h : Valid s (ledger log)) (admission : Admission κ ρ) (request : ρ)
    (mediaGeneration : UInt64) : Advances log s (configure admission request mediaGeneration) := by
  have hsame : Advanced log s s [] := .aside h (by simp)
  refine Then.lift (fun _ _ => hsame) fun _ _ => Then.get ?_
  refine Then.failIf (fun _ => hsame) fun hstate => ?_
  have hprepared : s.state = .Prepared := not_not.1 hstate
  have hbooks := h.books (by simp [hprepared])
  refine Then.lift (fun _ _ => hsame) fun generation _ => Then.failIf (fun _ => hsame) ?_
  intro hnot
  have hnewer : s.Newer generation := by
    intro completed hcompleted
    exact UInt64.not_le.1 fun hle => hnot ⟨completed, hcompleted, hle⟩
  refine Then.lift (fun _ _ => hsame) fun plan _ => Then.modify ?_
  have hadopted := (hbooks.adopt hprepared hnewer plan).aside (l := []) (by simp)
  have hhanding : Handing log generation s.completedGeneration _ [] := ⟨hadopted, rfl, rfl, rfl⟩
  exact wp_weaken (configureOwners_spec hhanding plan) fun _ _ h' => h'.advanced

end Methods

end Pronk.Chromiacast
