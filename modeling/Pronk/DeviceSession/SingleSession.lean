import Pronk.DeviceSession.Custody
import Pronk.Library.Trace

/-!
# One live session, and no media call on the wrong one

A session leaves the installed place or the coordinator's hands only by its final stop,
and the coordinator asks for a new session only after that stop has returned. The media
generation of the installed session is remembered from its `configure_media` to its
successful `stop_media`.
-/
namespace Pronk.DeviceSession
open Transition Trace ActiveSession View SessionCall
open SessionEntry (called)

namespace View

/-- The session is installed, or the coordinator has not yet decided about it. -/
def Keeps (v : View) (n : ℕ) : Prop :=
  v.current.map session = some n ∨ v.hand = .holding n
deriving Decidable

/-- The final stop of the session is pending. -/
def Stopping (v : View) (n : ℕ) : Prop := v.hand = .stopping n ∨ v.port = .stopping n

end View

/-- The sessions are in one place at a time. -/
structure Places (v : View) : Prop where
  closed : v.closed = true → v.current = none
  busy : v.hand ≠ .empty → v.current = none ∧ ∀ n, v.port ≠ .stopping n
  port : ∀ n, v.port = .stopping n → v.closed = true

namespace Places

variable {v v' : View}

attribute [local grind cases eager] Places

lemma hand_empty (h : Places v) {a : ActiveSession} (hcurrent : v.current = some a) :
    v.hand = .empty := by
  grind -linarith

lemma move (h : Places v) (hmove : Move v v') : Places v' := by
  cases hmove <;> constructor <;> grind -linarith

end Places

/-- Installed generations strictly increase. -/
structure Installs (v : View) : Prop where
  increasing : v.installs.Pairwise (·.get < ·.get)
  bounded : ∀ generation ∈ v.installs, generation.get ≤ v.last.get

lemma Installs.move {v v' : View} (h : Installs v) (hmove : Move v v') : Installs v' := by
  obtain ⟨hincreasing, hbounded⟩ := h
  cases hmove <;> constructor <;> grind -linarith

def SessionEntry.session : SessionEntry → ℕ
  | .called session _ => session
  | .returned session _ _ => session

/-- The final stop of a session against its place. -/
structure Account (v : View) (n : ℕ) : Prop where
  keeps : v.Keeps n → n < v.sessions
  stopping : v.Stopping n → n < v.sessions
  log : n ∈ v.log.map SessionEntry.session → n < v.sessions
  kept : v.Keeps n → called n .stop ∉ v.log
  given : n < v.sessions → ¬ v.Keeps n → v.log.count (.called n .stop) = 1
  returned : n < v.sessions → ¬ v.Keeps n → ¬ v.Stopping n →
    ∃ ok, SessionEntry.returned n .stop ok ∈ v.log
  fresh : v.hand = .holding n → n ∉ v.log.map SessionEntry.session

namespace Account

variable {v v' : View} {n : ℕ}

attribute [local grind cases eager] Places Account
attribute [local grind] Fits
attribute [local grind =] SessionEntry.session after_session
  called.injEq SessionEntry.returned.injEq Hand.holding.injEq Hand.stopping.injEq
  PortStatus.stopping.injEq Option.some.injEq

lemma move (h : Account v n) (hplaces : Places v)
    (hholder : ∀ n call, v.holder = some (n, call) →
      v.current.map session = some n ∧ call ≠ .stop)
    (hmove : Move v v') : Account v' n := by
  obtain ⟨hkeeps, hstopping, hlog, hkept, hgiven, hreturned, hfresh⟩ := h
  simp only [Keeps, Stopping] at hkeeps hstopping hkept hgiven hreturned
  have hsame (call ok) : (v.current.map (·.after call ok)).map session =
      v.current.map session := by
    cases v.current <;> simp
  cases hmove <;> constructor
  all_goals try simp only [Keeps, Stopping, hsame]
  all_goals grind -linarith

/-- Only the sessions that are kept or being stopped have no finished stop. -/
lemma alive (h : Account v n) (hn : n < v.sessions)
    (hopen : ∀ ok, SessionEntry.returned n .stop ok ∉ v.log) : v.Keeps n ∨ v.Stopping n := by
  grind -linarith

end Account

/-- The generation that a media call other than `configure_media` is about. -/
def SessionCall.media? : SessionCall → Option NonZeroU64
  | .startMedia generation => some generation
  | .suspendMedia generation => some generation
  | .resumeMedia generation => some generation
  | .stopMedia generation => some generation
  | _ => none

def ConfiguredOn (n : ℕ) (x : SessionEntry) : Prop :=
  ∃ generation, x = .called n (.configureMedia generation)

/-- A successful `stop_media` on the session that the generation was configured on. -/
def MediaStops (x y : SessionEntry) : Prop :=
  ∃ n generation, x = .called n (.configureMedia generation) ∧
    y = .returned n (.stopMedia generation) true

/-- What a session may be asked for after the calls in `log`. -/
structure Allowed (log : List SessionEntry) (e : SessionEntry) : Prop where
  configure : ∀ n generation, e = .called n (.configureMedia generation) →
    Answered MediaStops (ConfiguredOn n) log
  media : ∀ n call generation, e = .called n call → call.media? = some generation →
    called n (.configureMedia generation) ∈ log

/-- A configured generation of the session that is not its current one. -/
def Past (a : ActiveSession) (x : SessionEntry) : Prop :=
  ∃ generation, x = .called a.session (.configureMedia generation) ∧
    a.mediaGeneration ≠ some generation

/-- The media generation of the installed session against the calls on it. -/
structure MediaLaw (v : View) : Prop where
  lawful : Lawful Allowed v.log
  holder : ∀ n call, v.holder = some (n, call) → ∃ a, v.current = some a ∧ a.session = n ∧
    call ≠ .stop ∧ ∀ generation, call = .stopMedia generation → a.mediaGeneration = some generation
  past : ∀ a, v.current = some a → Answered MediaStops (Past a) v.log
  configured : ∀ a generation, v.current = some a → a.mediaGeneration = some generation →
    called a.session (.configureMedia generation) ∈ v.log

namespace MediaLaw

variable {v v' : View} {e : SessionEntry}

attribute [local grind] Fits during media? Past
attribute [local grind =] after_session

/-- An entry that is no media call. -/
def Other (e : SessionEntry) : Prop :=
  ∀ n call, e = .called n call → call = .stop ∨ call = .transmitControl

lemma Other.allowed {log : List SessionEntry} (he : Other e) : Allowed log e := by
  constructor
  · intro n generation heq
    rcases he n _ heq with hcall | hcall <;> cases hcall
  · intro n call generation heq hmedia
    rcases he n call heq with rfl | rfl <;> cases hmedia

lemma Other.not_past {a : ActiveSession} (he : Other e) : ¬ Past a e := by
  rintro ⟨generation, heq, -⟩
  rcases he _ _ heq with hcall | hcall <;> cases hcall

/-- A step with at most an entry beside the media calls, after which the installed session
is the same or gone. -/
lemma other (h : MediaLaw v) (hlog : v'.log = v.log ∨ ∃ e, Other e ∧ v'.log = v.log ++ [e])
    (hcurrent : v'.current = v.current ∨ v'.current = none ∧ v'.holder = none)
    (hholder : v'.holder = v.holder ∨ v'.holder = none) : MediaLaw v' where
  lawful := by
    rcases hlog with hlog | ⟨e, he, hlog⟩
    · exact hlog ▸ h.lawful
    · exact hlog ▸ h.lawful.snoc he.allowed
  holder := by
    have hold := h.holder
    grind -linarith
  past := by
    intro a ha
    have hpast := h.past a (by grind)
    rcases hlog with hlog | ⟨e, he, hlog⟩
    · exact hlog ▸ hpast
    · exact hlog ▸ hpast.snoc (fun _ _ hx => .inl hx) he.not_past
  configured := by
    have hconfigured := h.configured
    grind -linarith

lemma ask (h : MediaLaw v) {a : ActiveSession} (hcurrent : v.current = some a) {call : SessionCall}
    (hfits : call.Fits a.mediaGeneration) :
    MediaLaw { v with
      current := some { a with mediaGeneration := call.during a.mediaGeneration }
      holder := some (a.session, call)
      log := v.log ++ [.called a.session call] } where
  lawful := by
    refine h.lawful.snoc ⟨?_, ?_⟩
    · intro n generation heq
      obtain ⟨rfl, rfl⟩ := called.inj heq
      have hmedia : a.mediaGeneration = none := hfits
      refine (h.past a hcurrent).mono ?_
      rintro x - ⟨generation', rfl⟩
      exact ⟨generation', rfl, by simp [hmedia]⟩
    · intro n call' generation heq hcall
      obtain ⟨rfl, rfl⟩ := called.inj heq
      exact h.configured a generation hcurrent (by cases call <;> grind)
  holder := by
    cases call <;> grind -linarith
  past := by
    rintro a' ⟨⟩
    refine (h.past a hcurrent).snoc (fun x _ hx => .inl ?_) ?_ <;> cases call <;> grind -linarith
  configured := by
    have hconfigured := h.configured
    cases call <;> grind -linarith

lemma answer (h : MediaLaw v) {n : ℕ} {call : SessionCall} (hholder : v.holder = some (n, call))
    (ok : Bool) : MediaLaw { v with
      current := v.current.map (·.after call ok)
      holder := none
      log := v.log ++ [.returned n call ok] } := by
  obtain ⟨a, hcurrent, rfl, -, hstop⟩ := h.holder n call hholder
  have hother : Other (.returned a.session call ok) := by grind -linarith [Other]
  have hafter : (a.after call ok).mediaGeneration = a.mediaGeneration ∨
      ∃ generation, call = .stopMedia generation ∧ ok = true ∧
        (a.after call ok).mediaGeneration = none := by
    cases call <;> cases ok <;> simp [after]
  have hconfigured := h.configured a
  refine ⟨h.lawful.snoc hother.allowed, by simp, ?_, by grind⟩
  intro a' ha'
  rw [hcurrent] at ha'
  obtain rfl := Option.some.inj ha'
  refine (h.past a hcurrent).snoc (fun x _ hx => ?_) hother.not_past
  obtain ⟨generation, rfl, hpast⟩ := hx
  rw [after_session]
  by_cases hmedia : a.mediaGeneration = some generation
  · have hcall : call = .stopMedia generation ∧ ok = true := by grind -linarith
    exact .inr ⟨_, _, rfl, by rw [hcall.1, hcall.2]⟩
  · exact .inl ⟨generation, rfl, hmedia⟩

lemma move (h : MediaLaw v) (haccounts : ∀ n, Account v n) (hmove : Move v v') :
    MediaLaw v' := by
  cases hmove with
  | ask a call hholder hcurrent hfits => exact h.ask hcurrent hfits
  | answer session call ok hholder => exact h.answer hholder ok
  | install session generation hhand hcurrent hopen hnewer =>
    have hold := h.holder
    have hfresh := (haccounts session).fresh hhand
    refine ⟨h.lawful, by grind, ?_, by grind⟩
    rintro a ⟨⟩ before x after hsplit ⟨generation', rfl, -⟩
    rw [show v.log = _ from hsplit] at hfresh
    simp [SessionEntry.session] at hfresh
  | _ => exact h.other (by grind -linarith [Other]) (by grind) (by grind)

end MediaLaw

/-- Everything that holds between two steps. -/
structure Sound (v : View) : Prop where
  places : Places v
  installs : Installs v
  accounts : ∀ n, Account v n
  media : MediaLaw v

namespace Sound

variable {v v' : View}

lemma initial (sessionGeneration : NonZeroU64) :
    Sound (World.initial sessionGeneration).view where
  places := ⟨by simp [World.view, World.initial], by simp [World.view, World.initial, Phase.hand],
    by simp [World.view, World.initial]⟩
  installs := ⟨by simp [World.view, World.initial], by simp [World.view, World.initial]⟩
  accounts := by
    intro n
    constructor <;>
      simp [Keeps, Stopping, World.view, World.initial, Phase.hand] <;> omega
  media := ⟨.nil, by simp [World.view, World.initial], fun _ _ => .nil,
    by rintro a generation ⟨⟩ ⟨⟩⟩

lemma move (h : Sound v) (hmove : Move v v') : Sound v' where
  places := h.places.move hmove
  installs := h.installs.move hmove
  accounts := by
    intro n
    refine (h.accounts n).move h.places (fun m call hsome => ?_) hmove
    obtain ⟨a, ha, rfl, hcall, -⟩ := h.media.holder m call hsome
    exact ⟨by simp [ha], hcall⟩
  media := h.media.move h.accounts hmove

/-- Two sessions that were not stopped are one. -/
lemma unique (h : Sound v) {m n : ℕ} (hm : v.Keeps m ∨ v.Stopping m)
    (hn : v.Keeps n ∨ v.Stopping n) : m = n := by
  cases hcurrent : v.current with
  | some a =>
    have hhand := h.places.hand_empty hcurrent
    have hport : ∀ k, v.port ≠ .stopping k := by
      intro k hk
      simp [h.places.closed (h.places.port k hk)] at hcurrent
    simp only [Keeps, Stopping, hcurrent, hhand, hport, Option.map_some,
      Option.some.injEq, reduceCtorEq, or_false] at hm hn
    exact hm.symm.trans hn
  | none =>
    simp only [Keeps, Stopping, hcurrent, Option.map_none, reduceCtorEq,
      false_or] at hm hn
    by_cases hhand : v.hand = .empty
    · simp only [hhand, reduceCtorEq, false_or] at hm hn
      exact PortStatus.stopping.inj (hm.symm.trans hn)
    · have hport := (h.places.busy hhand).2
      simp only [hport, or_false] at hm hn
      rcases hm with hm | hm <;> rcases hn with hn | hn <;> rw [hm] at hn <;> cases hn <;> rfl

end Sound

lemma reach_sound {sessionGeneration : NonZeroU64} {w : World}
    (h : replaceable.Reach (World.initial sessionGeneration) w) : Sound w.view :=
  h.invariant (I := fun w => Sound w.view) (.initial sessionGeneration)
    fun _ _ _ hsound hnext => hsound.move (World.next_move hnext)

/-- The session was handed to the port or returned by the factory, and its final stop has
not returned. -/
def World.Unstopped (w : World) (n : ℕ) : Prop :=
  n < w.sessions ∧ ∀ ok, SessionEntry.returned n .stop ok ∉ w.log

/-- In every interleaving: at most one session is not stopped; the stop of a session is
called once, as soon as it is neither installed nor waiting for the coordinator's decision;
installed generations strictly increase; and every media call on a session is allowed by the
calls on it before. -/
theorem single_generation_safe_session {sessionGeneration : NonZeroU64} {w : World}
    (h : replaceable.Reach (World.initial sessionGeneration) w) :
    (∀ m n, w.Unstopped m → w.Unstopped n → m = n) ∧
    (∀ n < w.sessions, w.log.count (.called n .stop) = if w.view.Keeps n then 0 else 1) ∧
    w.installs.Pairwise (·.get < ·.get) ∧ Lawful Allowed w.log := by
  have hsound := reach_sound h
  refine ⟨?_, ?_, hsound.installs.increasing, hsound.media.lawful⟩
  · rintro m n ⟨hm, hmopen⟩ ⟨hn, hnopen⟩
    exact hsound.unique ((hsound.accounts m).alive hm hmopen) ((hsound.accounts n).alive hn hnopen)
  · intro n hn
    split_ifs with hkeeps
    · exact List.count_eq_zero_of_not_mem ((hsound.accounts n).kept hkeeps)
    · exact (hsound.accounts n).given hn hkeeps

/-- The display configures media on the first session, which is then replaced. -/
theorem single_generation_safe_session_replaced :
    ∃ w, replaceable.Reach (World.initial ⟨1, by decide⟩) w ∧
      w.log = [.called 0 (.configureMedia ⟨5, by decide⟩),
        .returned 0 (.configureMedia ⟨5, by decide⟩) true, .called 0 .stop,
        .returned 0 .stop true] ∧
      w.sessions = 2 ∧ (∀ m n, w.Unstopped m → w.Unstopped n → m = n) := by
  let device : Dbus.DeviceInfo := ⟨"cast", "tv", "TV", .Available, 1, 1, 1, []⟩
  let inputs : List Input := [.port (.configureMedia ⟨5, by decide⟩), .returned true,
    .command (some (.Recover 1 device 0)), .retire, .retiredStopped none, .created (.ok (.ok ())),
    .install, .sent true]
  have hrun : ∃ w, replaceable.run (World.initial ⟨1, by decide⟩) inputs = some w ∧
      w.log = [.called 0 (.configureMedia ⟨5, by decide⟩),
        .returned 0 (.configureMedia ⟨5, by decide⟩) true, .called 0 .stop,
        .returned 0 .stop true] ∧ w.sessions = 2 :=
    ⟨_, rfl, by decide +kernel, by decide +kernel⟩
  obtain ⟨w, hw, hlog, hsessions⟩ := hrun
  exact ⟨w, ⟨inputs, hw⟩, hlog, hsessions, (single_generation_safe_session ⟨inputs, hw⟩).1⟩

end Pronk.DeviceSession
