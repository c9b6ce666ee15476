import Pronk.DeviceSession.Replaceable

/-!
# Where a session is

Every session is installed, in the hands of the coordinator, or given up. This module
forgets everything else: it says which moves between these places there are, and that
each step of the session port, its users and the coordinator is one of them.
-/
namespace Pronk.DeviceSession
open Transition RecoveryTask SessionCall Phase

/-- What the coordinator has in its hands. `engaged` means that it has retired the
installed session and waits for a new one. -/
inductive Hand where
  | empty
  | engaged
  | holding (session : ℕ)
  | stopping (session : ℕ)
  deriving DecidableEq

def Phase.hand : Phase ℕ → Hand
  | .waiting => .empty
  | .retiring _ => .empty
  | .stoppingRetired _ session => .stopping session
  | .creating _ _ => .engaged
  | .incompatible _ session _ => .holding session
  | .discarding _ session _ => .stopping session
  | .installing _ _ session => .holding session
  | .rejecting _ session _ => .stopping session
  | .sending _ => .empty
  | .ended => .empty

/-- The sessions that somebody has, and the stops that run. -/
structure View where
  current : Option ActiveSession
  closed : Bool
  last : NonZeroU64
  holder : Option (ℕ × SessionCall)
  port : PortStatus
  hand : Hand
  sessions : ℕ
  log : List SessionEntry
  installs : List NonZeroU64

def World.view (w : World) : View :=
  ⟨w.shared.current, w.shared.closed, w.shared.lastSessionGeneration, w.holder, w.port,
    w.task.phase.hand, w.sessions, w.log, w.installs⟩

/-- The media generation that a session must have for the call. -/
def SessionCall.Fits : SessionCall → Option NonZeroU64 → Prop
  | .configureMedia _, media => media = none
  | .startMedia generation, media => media = some generation
  | .suspendMedia generation, media => media = some generation
  | .resumeMedia generation, media => media = some generation
  | .stopMedia generation, media => media = some generation
  | .transmitControl, _ => True
  | .stop, _ => False

/-- The media generation while the call is pending. -/
def SessionCall.during : SessionCall → Option NonZeroU64 → Option NonZeroU64
  | .configureMedia generation, _ => some generation
  | _, media => media

/-- The session after the call has returned. -/
def ActiveSession.after (a : ActiveSession) (call : SessionCall) (ok : Bool) : ActiveSession :=
  match call, ok with
  | .stopMedia _, true => { a with mediaGeneration := none }
  | _, _ => a

@[simp] lemma ActiveSession.after_session (a : ActiveSession) (call : SessionCall) (ok : Bool) :
    (a.after call ok).session = a.session := by
  unfold ActiveSession.after
  split <;> rfl

/-- How sessions change hands. -/
inductive Move (v : View) : View → Prop
  | rest : Move v v
  | release : Move v { v with holder := none }
  | giveUp (hhand : v.hand = .engaged) : Move v { v with hand := .empty }
  | ask (a : ActiveSession) (call : SessionCall) (hholder : v.holder = none)
      (hcurrent : v.current = some a) (hfits : call.Fits a.mediaGeneration) :
      Move v { v with
        current := some { a with mediaGeneration := call.during a.mediaGeneration }
        holder := some (a.session, call)
        log := v.log ++ [.called a.session call] }
  | answer (session : ℕ) (call : SessionCall) (ok : Bool)
      (hholder : v.holder = some (session, call)) :
      Move v { v with
        current := v.current.map (·.after call ok)
        holder := none
        log := v.log ++ [.returned session call ok] }
  | leave (hport : v.port = .usable) (hcurrent : v.closed = true ∨ v.current = none) :
      Move v { v with closed := true, port := .gone }
  | close (a : ActiveSession) (hport : v.port = .usable) (hholder : v.holder = none)
      (hcurrent : v.current = some a) :
      Move v { v with
        current := none
        closed := true
        port := .stopping a.session
        log := v.log ++ [.called a.session .stop] }
  | closed (session : ℕ) (ok : Bool) (hport : v.port = .stopping session) :
      Move v { v with port := .gone, log := v.log ++ [.returned session .stop ok] }
  | vacate (hhand : v.hand = .empty) (hopen : v.closed = false) (hcurrent : v.current = none) :
      Move v { v with hand := .engaged }
  | retire (a : ActiveSession) (hhand : v.hand = .empty) (hholder : v.holder = none)
      (hopen : v.closed = false) (hcurrent : v.current = some a) :
      Move v { v with
        current := none
        hand := .stopping a.session
        log := v.log ++ [.called a.session .stop] }
  | retired (session : ℕ) (ok : Bool) (hhand : v.hand = .stopping session) :
      Move v { v with hand := .engaged, log := v.log ++ [.returned session .stop ok] }
  | create (hhand : v.hand = .engaged) :
      Move v { v with hand := .holding v.sessions, sessions := v.sessions + 1 }
  | discard (session : ℕ) (hhand : v.hand = .holding session) :
      Move v { v with hand := .stopping session, log := v.log ++ [.called session .stop] }
  | discarded (session : ℕ) (ok : Bool) (hhand : v.hand = .stopping session) :
      Move v { v with hand := .empty, log := v.log ++ [.returned session .stop ok] }
  | install (session : ℕ) (generation : NonZeroU64) (hhand : v.hand = .holding session)
      (hcurrent : v.current = none) (hopen : v.closed = false)
      (hnewer : v.last.get < generation.get) :
      Move v { v with
        current := some ⟨generation, none, session⟩
        last := generation
        hand := .empty
        installs := v.installs ++ [generation] }

section Admission

variable {shared : SharedState} {a : ActiveSession} {call : SessionCall}

attribute [local grind =] SharedState.liveSession
attribute [local grind] Fits during

lemma liveSession_ok (h : shared.liveSession = .ok a) : shared.current = some a := by
  grind

lemma matching_asked {generation : NonZeroU64} {operation : String} {c : SessionCall}
    (h : shared.matching generation operation c = .asked a call) :
    shared.current = some a ∧ a.mediaGeneration = some generation ∧ call = c := by
  unfold SharedState.matching SharedState.matchingSession at h
  cases hlive : shared.liveSession <;> grind

lemma setMedia_self (h : shared.current = some a) : shared.setMedia a.mediaGeneration = shared := by
  cases shared
  subst h
  rfl

/-- What it takes for the port to ask the installed session. -/
theorem call_asked {c : PortCall} {shared' : SharedState}
    (h : shared.call c = (.asked a call, shared')) :
    shared.current = some a ∧ call.Fits a.mediaGeneration ∧
      shared' = shared.setMedia (call.during a.mediaGeneration) := by
  have hself := @setMedia_self shared
  cases c with
  | configureMedia generation =>
    simp only [SharedState.call, SharedState.configureMedia] at h
    cases hlive : shared.liveSession <;> grind
  | stopMedia generation =>
    simp only [SharedState.call, SharedState.stopMedia] at h
    cases hlive : shared.liveSession <;> grind
  | _ =>
    obtain ⟨hasked, rfl⟩ := Prod.mk.inj h
    obtain ⟨hcurrent, hmedia, rfl⟩ := matching_asked hasked
    exact ⟨hcurrent, hmedia, (setMedia_self hcurrent).symm⟩

/-- A call that is answered at once leaves the sessions where they are. -/
theorem call_answered {c : PortCall} {shared' : SharedState} {result : Except String Unit}
    (h : shared.call c = (.answered result, shared')) :
    shared'.current = shared.current ∧ shared'.closed = shared.closed ∧
      shared'.lastSessionGeneration = shared.lastSessionGeneration := by
  cases c with
  | configureMedia generation =>
    simp only [SharedState.call, SharedState.configureMedia] at h
    cases hlive : shared.liveSession <;> grind
  | stopMedia generation =>
    simp only [SharedState.call, SharedState.stopMedia] at h
    cases hlive : shared.liveSession <;> grind
  | _ =>
    obtain ⟨-, rfl⟩ := Prod.mk.inj h
    exact ⟨rfl, rfl, rfl⟩

end Admission

namespace World

variable {w w' : World}

lemma applyAdmission_move (hholder : w.holder = none) (c : PortCall) :
    Move w.view (w.applyAdmission (w.shared.call c)).view := by
  rcases hcall : w.shared.call c with ⟨result | ⟨a, call⟩, shared'⟩
  · obtain ⟨hcurrent, hclosed, hlast⟩ := call_answered hcall
    have hview : (w.applyAdmission (.answered result, shared')).view = w.view := by
      simp [applyAdmission, view, hcurrent, hclosed, hlast]
    rw [hview]
    exact .rest
  · obtain ⟨hcurrent, hfits, rfl⟩ := call_asked hcall
    have hmove := Move.ask (v := w.view) a call hholder hcurrent hfits
    simpa [applyAdmission, record, view, SharedState.setMedia, hcurrent] using hmove

lemma control_move (hholder : w.holder = none) :
    Move w.view (w.applyAdmission (w.shared.transmitControl, w.shared)).view := by
  unfold SharedState.transmitControl
  cases hlive : w.shared.liveSession with
  | error e => exact .rest
  | ok a =>
    have hcurrent := liveSession_ok hlive
    have hmove := Move.ask (v := w.view) a .transmitControl hholder hcurrent trivial
    simpa [applyAdmission, record, view, during, hcurrent] using hmove

variable {session : ℕ}

lemma finishCall_move {call : SessionCall} (hholder : w.holder = some (session, call)) (ok : Bool) :
    Move w.view (w.finishCall session call ok).view := by
  have hmove := Move.answer (v := w.view) session call ok hholder
  have hcurrent : (w.shared.finish call ok).current = w.shared.current.map (·.after call ok) := by
    unfold SharedState.finish ActiveSession.after
    split <;> simp [SharedState.setMedia]
  have hsame : (w.shared.finish call ok).closed = w.shared.closed ∧
      (w.shared.finish call ok).lastSessionGeneration = w.shared.lastSessionGeneration := by
    unfold SharedState.finish
    split <;> simp [SharedState.setMedia]
  simpa [finishCall, record, view, hcurrent, hsame.1, hsame.2] using hmove

lemma stopPort_move (hport : w.port = .usable) (hholder : w.holder = none) :
    Move w.view w.stopPort.view := by
  unfold stopPort SharedState.close
  by_cases hclosed : w.shared.closed = true
  · have hmove := Move.leave (v := w.view) hport (.inl hclosed)
    simpa [view, hclosed] using hmove
  · cases hcurrent : w.shared.current with
    | none =>
      have hmove := Move.leave (v := w.view) hport (.inr hcurrent)
      simpa [view, hclosed, hcurrent] using hmove
    | some a =>
      have hmove := Move.close (v := w.view) a hport hholder hcurrent
      simpa [view, record, hclosed] using hmove

variable {input : TaskInput ℕ}

lemma advance_some (h : w.advance input = some w') :
    ∃ task, w.task.Steps input task ∧ w' = { w with task := task } := by
  obtain ⟨task, hstep, rfl⟩ := Option.map_eq_some_iff.1 h
  exact ⟨task, steps_of_step hstep, rfl⟩

lemma empty_move (h : w.advance input = some w') (hempty : ∀ task, w.task.Steps input task →
      w.task.phase.hand = .empty ∧ task.phase.hand = .empty) : Move w.view w'.view := by
  obtain ⟨task, hstep, rfl⟩ := advance_some h
  have hview : ({ w with task := task } : World).view = w.view := by
    simp [view, hempty task hstep]
  rw [hview]
  exact .rest

attribute [local grind] hand

lemma retire_move (hholder : w.holder = none) (h : w.retire = some w') : Move w.view w'.view := by
  unfold retire SharedState.retireCurrent at h
  by_cases hclosed : w.shared.closed = true
  · simp only [hclosed, ↓reduceIte] at h
    exact empty_move h fun task hstep => by cases hstep; grind
  · have hopen : w.view.closed = false := by simpa [view] using hclosed
    cases hcurrent : w.shared.current with
    | none =>
      simp only [hclosed, hcurrent, Option.bind_none] at h
      obtain ⟨task, hstep, rfl⟩ := advance_some h
      cases hstep with
      | vacant attempt hphase =>
        have hempty : w.view.hand = .empty := by rw [view, hphase]; rfl
        have hmove := Move.vacate hempty hopen hcurrent
        simpa [view, goto, hand, hcurrent, hclosed] using hmove
    | some a =>
      simp only [hclosed, hcurrent] at h
      obtain ⟨w₁, hadvance, rfl⟩ := Option.map_eq_some_iff.1 h
      obtain ⟨task, hstep, rfl⟩ := advance_some hadvance
      cases hstep with
      | retired attempt session hphase =>
        have hempty : w.view.hand = .empty := by rw [view, hphase]; rfl
        have hmove := Move.retire a hempty hholder hopen hcurrent
        simpa [view, record, goto, hand, hclosed] using hmove

lemma advanceStopped_some {error : Option String}
    (h : w.advanceStopped input session error = some w') : ∃ task, w.task.Steps input task ∧
      w' = { w with task := task, log := w.log ++ [.returned session .stop error.isNone] } := by
  obtain ⟨w₁, hadvance, rfl⟩ := Option.map_eq_some_iff.1 h
  obtain ⟨task, hstep, rfl⟩ := advance_some hadvance
  exact ⟨task, hstep, rfl⟩

lemma create_move {result : Except DeviceSessionFactoryError (Except String Unit)}
    (h : w.create result = some w') : Move w.view w'.view := by
  cases result with
  | error error =>
    obtain ⟨task, hstep, rfl⟩ := advance_some h
    cases hstep with
    | created attempt cleanup _ hphase =>
      have hhand : w.view.hand = .engaged := by rw [view, hphase]; rfl
      cases error with
      | Cancelled => exact Move.giveUp hhand
      | Failed text => exact Move.giveUp hhand
  | ok compatible =>
    obtain ⟨task, hstep, rfl⟩ := advance_some h
    cases hstep with
    | created attempt cleanup _ hphase =>
      have hhand : w.view.hand = .engaged := by
        change w.task.phase.hand = .engaged
        rw [hphase]
        rfl
      cases compatible with
      | ok _ => exact Move.create hhand
      | error error => exact Move.create hhand

lemma discard_move (h : (w.advance input).map (record · (.called session .stop)) = some w') (hhand :
      ∀ task, w.task.Steps input task → w.task.phase.hand = .holding session ∧ task.phase.hand =
      .stopping session) :
    Move w.view w'.view := by
  obtain ⟨w₁, hadvance, rfl⟩ := Option.map_eq_some_iff.1 h
  obtain ⟨task, hstep, rfl⟩ := advance_some hadvance
  have hmove := Move.discard (v := w.view) session (hhand task hstep).1
  simpa [view, record, hhand task hstep] using hmove

lemma install_move {attempt : Attempt} {cleanup : Option String}
    (hphase : w.task.phase = .installing attempt cleanup session)
    (h : w.install attempt session = some w') : Move w.view w'.view := by
  have hhand : w.view.hand = .holding session := by rw [view, hphase]; rfl
  have hrejected : ∀ {error : DeviceSessionReplacementError},
      (w.advance (.installed (.error error))).map (record · (.called session .stop)) = some w' →
      Move w.view w'.view := by
    exact fun h => discard_move h fun task hstep => by cases hstep; grind
  unfold install SharedState.install at h
  by_cases hclosed : w.shared.closed = true
  · simp only [hclosed, ↓reduceIte] at h
    exact hrejected h
  · have hopen : w.view.closed = false := by simpa [view] using hclosed
    cases hcurrent : w.shared.current with
    | some current =>
      simp only [hclosed, hcurrent] at h
      exact hrejected h
    | none =>
      by_cases hstale :
          attempt.sessionGeneration.get ≤ w.shared.lastSessionGeneration.get
      · simp only [hclosed, hcurrent, hstale, ↓reduceIte] at h
        exact hrejected h
      · simp only [hclosed, hcurrent, hstale, ↓reduceIte] at h
        obtain ⟨task, hstep, rfl⟩ := advance_some h
        cases hstep with
        | installed attempt' cleanup' session' _ hphase' =>
          have hmove := Move.install session attempt.sessionGeneration hhand hcurrent hopen
            (UInt64.not_le.1 hstale)
          simpa [view, onInstalled, hand, hclosed] using hmove

/-- Every step moves the sessions in one of these ways. -/
theorem next_move {input : Input} (h : w.next input = some w') : Move w.view w'.view := by
  cases input with
  | port call =>
    obtain ⟨⟨hholder, -⟩, hw⟩ := Option.ite_none_right_eq_some.1 h
    exact Option.some.inj hw ▸ applyAdmission_move hholder call
  | control =>
    obtain ⟨hholder, hw⟩ := Option.ite_none_right_eq_some.1 h
    exact Option.some.inj hw ▸ control_move hholder
  | returned ok =>
    simp only [next] at h
    split at h
    · rename_i session call hholder
      exact Option.some.inj h ▸ finishCall_move hholder ok
    · cases h
  | dropped =>
    obtain ⟨-, hw⟩ := Option.ite_none_left_eq_some.1 h
    exact Option.some.inj hw ▸ .release
  | portStop =>
    obtain ⟨⟨hholder, hport⟩, hw⟩ := Option.ite_none_right_eq_some.1 h
    exact Option.some.inj hw ▸ stopPort_move hport hholder
  | portStopped ok =>
    simp only [next] at h
    split at h
    · rename_i session hport
      exact Option.some.inj h ▸ Move.closed session ok hport
    · cases h
  | command command =>
    refine empty_move h fun task hstep => ?_
    cases hstep with
    | command _ hphase => rcases command with _ | _ | _ <;> grind
  | sessionEvent event => exact empty_move h fun task hstep => by cases hstep; grind
  | retire =>
    obtain ⟨hholder, h⟩ := Option.ite_none_right_eq_some.1 h
    exact retire_move hholder h
  | retiredStopped error =>
    simp only [next] at h
    split at h
    · rename_i attempt session hphase
      obtain ⟨task, hstep, rfl⟩ := advanceStopped_some h
      cases hstep
      exact Move.retired session error.isNone (by rw [view, hphase]; rfl)
    · cases h
  | created result => exact create_move h
  | eventsShutDown =>
    simp only [next] at h
    split at h
    · rename_i attempt session error hphase
      exact discard_move h fun task hstep => by cases hstep; grind
    · cases h
  | discarded error =>
    simp only [next] at h
    split at h
    · rename_i attempt session reason hphase
      obtain ⟨task, hstep, rfl⟩ := advanceStopped_some h
      cases hstep
      exact Move.discarded session error.isNone (by rw [view, hphase]; rfl)
    · cases h
  | install =>
    simp only [next] at h
    split at h
    · rename_i attempt cleanup session hphase
      obtain ⟨-, h⟩ := Option.ite_none_right_eq_some.1 h
      exact install_move hphase h
    · cases h
  | rejectionStopped error =>
    simp only [next] at h
    split at h
    · rename_i attempt session reason hphase
      obtain ⟨task, hstep, rfl⟩ := advanceStopped_some h
      cases hstep
      exact Move.discarded session error.isNone (by rw [view, hphase]; rfl)
    · cases h
  | sent received =>
    refine empty_move h fun task hstep => ?_
    cases hstep with
    | sent event _ hphase =>
      cases received <;> cases event <;>
        simp [onSent, goto, hand, hphase]

end World

end Pronk.DeviceSession
