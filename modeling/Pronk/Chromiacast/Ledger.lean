import Pronk.Chromiacast.MediaSession

/-!
# Who owns a media generation

The calls on the graph, the senders and the receiver say which owner received which
generation, and how its stops ended. The session's own record agrees with them for the
active generation; every completed generation was stopped once by each of its owners.
-/
namespace Pronk.Chromiacast
open Interaction Media ChromiacastMediaSession

abbrev Entry := Exchange OwnerCall OwnerReply

/-- Every answer of every owner, with the calls recorded. -/
abbrev anyOwners : Environment (List Entry) OwnerCall OwnerReply := recording fun _ _ => True

/-- Who can own a generation. -/
inductive Owner where
  | graph
  | sender (kind : DeviceMediaKind)
  | app
  deriving DecidableEq

/-- The generation that an owner takes over by a call. The graph counts as soon as it is
asked; a sender actor or a receiver that refuses has taken over nothing. -/
def received? : Entry → Option (Owner × NonZeroU64)
  | ⟨.graph .configure generation, _⟩ => some (.graph, generation)
  | ⟨.sender kind .configure generation, .ok _⟩ => some (.sender kind, generation)
  | ⟨.negotiate generation _, .ok _⟩ => some (.app, generation)
  | _ => none

/-- A stop of a generation by an owner, and whether it succeeded. -/
def stopped? : Entry → Option ((Owner × NonZeroU64) × Bool)
  | ⟨.graph .stop generation, reply⟩ => some ((.graph, generation), reply.isOk)
  | ⟨.sender kind .stop generation, reply⟩ => some ((.sender kind, generation), reply.isOk)
  | ⟨.stopApp generation, reply⟩ => some ((.app, generation), reply.isOk)
  | _ => none

/-- What the calls say about ownership. -/
structure Ledger where
  receipts : List (Owner × NonZeroU64)
  stops : List ((Owner × NonZeroU64) × Bool)

/-- Who received and stopped what, read off the calls. -/
def ledger (log : List Entry) : Ledger := ⟨log.filterMap received?, log.filterMap stopped?⟩

namespace Ledger

def Received (L : Ledger) (owner : Owner) (generation : NonZeroU64) : Prop :=
  (owner, generation) ∈ L.receipts

instance (L : Ledger) (owner : Owner) (generation : NonZeroU64) :
    Decidable (L.Received owner generation) :=
  inferInstanceAs (Decidable ((owner, generation) ∈ L.receipts))

/-- The results of the owner's stops for the generation, oldest first. -/
def outcomes (L : Ledger) (owner : Owner) (generation : NonZeroU64) : List Bool :=
  L.stops.filterMap fun stop => if stop.1 = (owner, generation) then some stop.2 else none

end Ledger

section LedgerLemmas

variable {log l : List Entry} {owner : Owner} {generation : NonZeroU64}

@[simp] lemma received_append : (ledger (log ++ l)).Received owner generation ↔
    (ledger log).Received owner generation ∨ (ledger l).Received owner generation := by
  simp [Ledger.Received, ledger]

@[simp] lemma outcomes_append : (ledger (log ++ l)).outcomes owner generation =
    (ledger log).outcomes owner generation ++ (ledger l).outcomes owner generation := by
  simp [Ledger.outcomes, ledger]

/-- A call that no owner takes a generation over by, nor stops one. -/
def Aside (e : Entry) : Prop := received? e = none ∧ stopped? e = none

lemma ledger_aside (h : ∀ e ∈ l, Aside e) : ledger l = ⟨[], []⟩ := by
  simp only [ledger, Ledger.mk.injEq, List.filterMap_eq_nil_iff]
  exact ⟨fun e he => (h e he).1, fun e he => (h e he).2⟩

lemma ledger_append_aside (h : ∀ e ∈ l, Aside e) : ledger (log ++ l) = ledger log := by
  have hl := ledger_aside h
  simp only [ledger, Ledger.mk.injEq] at hl ⊢
  simp [hl.1, hl.2]

end LedgerLemmas

variable {κ ρ : Type} {s : ChromiacastMediaSession κ} {log : List Entry}

namespace ChromiacastMediaSession

/-- The session's own record of the owners of its active generation. -/
def holds (s : ChromiacastMediaSession κ) : Owner → Bool
  | .graph => s.graphReceivedGeneration
  | .sender kind => s.senderReceived kind
  | .app => s.transportActive

/-- The generation is newer than every completed one. -/
def Newer (s : ChromiacastMediaSession κ) (generation : NonZeroU64) : Prop :=
  ∀ completed ∈ s.completedGeneration, completed.get < generation.get

end ChromiacastMediaSession

/-- The session's fields against the calls it has made. -/
structure Books (s : ChromiacastMediaSession κ) (L : Ledger) : Prop where
  active : ∀ generation, s.activeGeneration = some generation → ∀ owner,
    L.outcomes owner generation = [] ∧ (L.Received owner generation ↔ s.holds owner = true)
  fresh : ∀ generation, s.activeGeneration ≠ some generation → s.Newer generation → ∀ owner,
    L.outcomes owner generation = [] ∧ ¬ L.Received owner generation
  closed : ∀ generation, ¬ s.Newer generation → ∀ owner,
    (L.outcomes owner generation).length = if L.Received owner generation then 1 else 0
  newer : ∀ generation, s.activeGeneration = some generation → s.Newer generation
  working : s.activeGeneration.isSome → s.state ∈ [.Configured, .Streaming, .Suspended]
  senders : ∀ kind, s.hasSender kind = true
  app : s.activeGeneration.isSome → s.transportActive = true → s.activeApp = s.activeGeneration
  leftover : ∀ generation, s.activeApp = some generation →
    (s.activeGeneration = some generation ∧ s.transportActive = true) ∨
      false ∈ L.outcomes .app generation

namespace Books

variable {L : Ledger}

lemma initial : Books ({} : ChromiacastMediaSession κ) (ledger []) := by
  constructor
  case senders => rintro (- | -) <;> rfl
  all_goals simp [ledger, Ledger.outcomes, Ledger.Received, Newer]

lemma aside (h : Books s (ledger log)) {l : List Entry} (hl : ∀ e ∈ l, Aside e) :
    Books s (ledger (log ++ l)) := by
  rwa [ledger_append_aside hl]

/-- A generation that was stopped has as many results as owners that received it, so its
owners all stopped it if none of them failed. -/
lemma stopped_iff (h : Books s L) {generation : NonZeroU64} (hclosed : ¬ s.Newer generation) :
    (∀ owner, L.Received owner generation → true ∈ L.outcomes owner generation) ↔
      ∀ owner, false ∉ L.outcomes owner generation := by
  have hclosed := h.closed generation hclosed
  constructor
  · intro hstopped owner hfailed
    have hlength := hclosed owner
    have htrue := hstopped owner
    grind -linarith [List.length_eq_one_iff]
  · intro hnone owner hreceived
    have hlength := hclosed owner
    have hfalse := hnone owner
    grind -linarith [List.length_eq_one_iff]

lemma idle (h : Books s L) (hstate : s.state = .Prepared) : s.activeGeneration = none := by
  by_contra hactive
  have hworking := h.working (Option.isSome_iff_ne_none.2 hactive)
  simp [hstate] at hworking

lemma adopt (h : Books s L) (hstate : s.state = .Prepared) {generation : NonZeroU64}
    (hnewer : s.Newer generation) (plan : Plan) :
    Books { s with
      activeGeneration := some generation
      graphReceivedGeneration := false
      senderReceivedGeneration := false
      audioSenderReceivedGeneration := false
      transportActive := false
      audioEnabled := plan.audio
      mediaReady := false
      videoBitrate := plan.videoBitrate.get
      state := .Configured } L := by
  have hidle := h.idle hstate
  obtain ⟨-, hfresh, hclosed, -, -, hsenders, -, hleftover⟩ := h
  constructor
  case active =>
    rintro other hother (- | (- | -) | -) <;>
      grind -linarith [holds, senderReceived]
  case senders => exact hsenders
  all_goals grind -linarith [Newer]

end Books

namespace ChromiacastMediaSession

/-- The session notes that an owner received its generation. -/
def noteReceipt (s : ChromiacastMediaSession κ) (generation : NonZeroU64) :
    Owner → ChromiacastMediaSession κ
  | .graph => { s with graphReceivedGeneration := true }
  | .sender .Video => { s with senderReceivedGeneration := true }
  | .sender .Audio => { s with audioSenderReceivedGeneration := true }
  | .app => { s with transportActive := true, activeApp := some generation }

section NoteReceipt

variable (generation : NonZeroU64) (owner : Owner)

@[simp] lemma noteReceipt_activeGeneration :
    (s.noteReceipt generation owner).activeGeneration = s.activeGeneration := by
  rcases owner with - | (- | -) | - <;> rfl

@[simp] lemma noteReceipt_completedGeneration :
    (s.noteReceipt generation owner).completedGeneration = s.completedGeneration := by
  rcases owner with - | (- | -) | - <;> rfl

@[simp] lemma noteReceipt_state : (s.noteReceipt generation owner).state = s.state := by
  rcases owner with - | (- | -) | - <;> rfl

@[simp] lemma noteReceipt_hasSender (kind : DeviceMediaKind) :
    (s.noteReceipt generation owner).hasSender kind = s.hasSender kind := by
  rcases owner with - | (- | -) | - <;> cases kind <;> rfl

lemma noteReceipt_newer {other : NonZeroU64} :
    (s.noteReceipt generation owner).Newer other ↔ s.Newer other := by
  simp [Newer]

lemma noteReceipt_holds (other : Owner) :
    (s.noteReceipt generation owner).holds other = true ↔ s.holds other = true ∨ other = owner := by
  rcases owner with - | (- | -) | - <;> rcases other with - | (- | -) | - <;>
    simp [noteReceipt, holds, senderReceived]

end NoteReceipt

end ChromiacastMediaSession

namespace Books

variable {L : Ledger}

attribute [local grind =] received_append outcomes_append
  noteReceipt_activeGeneration
  noteReceipt_state noteReceipt_hasSender
  noteReceipt_newer noteReceipt_holds

lemma received_singleton {e : Entry} {owner other : Owner} {generation g : NonZeroU64}
    (he : received? e = some (owner, generation)) :
    (ledger [e]).Received other g ↔ other = owner ∧ g = generation := by
  simp [Ledger.Received, ledger, he]

lemma outcomes_singleton {e : Entry} {other : Owner} {g : NonZeroU64} (he : stopped? e = none) :
    (ledger [e]).outcomes other g = [] := by
  simp [Ledger.outcomes, ledger, he]

lemma receive (h : Books s (ledger log)) {generation : NonZeroU64}
    (hactive : s.activeGeneration = some generation) {owner : Owner} {e : Entry}
    (hreceived : received? e = some (owner, generation)) (hstopped : stopped? e = none) :
    Books (s.noteReceipt generation owner) (ledger (log ++ [e])) := by
  have hsingle := @received_singleton e owner
  have hnone := @outcomes_singleton e
  obtain ⟨hbooks, hfresh, hclosed, hnewer, hworking, hsenders, happ, hleftover⟩ := h
  constructor
  case app =>
    rcases owner with - | (- | -) | - <;> grind -linarith [noteReceipt]
  case leftover =>
    rcases owner with - | (- | -) | - <;> grind -linarith [noteReceipt]
  all_goals grind -linarith

/-- The owners of the active generation were asked to stop it and the record is cleared. -/
lemma settle (h : Books s (ledger log)) {generation : NonZeroU64}
    (hactive : s.activeGeneration = some generation) {l : List Entry} {results : Owner → Bool}
    (hreceived : ∀ owner g, ¬ (ledger l).Received owner g)
    (hstops : ∀ owner g, (ledger l).outcomes owner g =
      if g = generation ∧ s.holds owner = true then [results owner] else [])
    {app : Option NonZeroU64}
    (happ : app = if s.transportActive = true ∧ results .app = true then none else s.activeApp) :
    Books { s with
      activeGeneration := none
      completedGeneration := some generation
      graphReceivedGeneration := false
      senderReceivedGeneration := false
      audioSenderReceivedGeneration := false
      transportActive := false
      audioEnabled := false
      mediaReady := false
      videoBitrate := 0
      state := .Prepared
      activeApp := app } (ledger (log ++ l)) := by
  obtain ⟨hbooks, hfresh, hclosed, hnewer, hworking, hsenders, hactiveApp, hleftover⟩ := h
  constructor
  case senders => exact hsenders
  case closed =>
    intro other _ owner
    have hother := hclosed other
    have hbefore := hfresh other
    by_cases hnew : s.Newer other <;> grind -linarith [Option.some.injEq]
  all_goals grind -linarith [Newer, holds]

end Books

end Pronk.Chromiacast
