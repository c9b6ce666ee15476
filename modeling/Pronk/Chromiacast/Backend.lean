import Pronk.Library.Transition

/-!
# One session at a time

The owner of the active session of a Chromiacast backend. `CreateSession`, `Stop` and the
shutdown of the backend hold the mutex of the slot until the device actor they are about
has ended, but the shutdown gives up after `SESSION_SHUTDOWN_TIMEOUT`. The event forwarder of
a session takes it out of the slot and waits for the actor after it has released the mutex.
Device actors are numbered as they are spawned; each of them may end its loop at any time and
then closes its connections.
-/
namespace Pronk.Chromiacast
open Transition

/-- The session ID and the generation together give the object path. -/
structure SessionKey where
  sessionId : String
  sessionGeneration : UInt64
  deriving DecidableEq

/-- What the holder of the mutex waits for. `stopping` has the session whose object was
called and the actor that was in the slot. -/
inductive SlotHolder where
  | registering (actor : ℕ)
  | rejecting (actor : ℕ)
  | stopping (session actor : ℕ)
  | shuttingDown (actor : ℕ)

def SlotHolder.actor : SlotHolder → ℕ
  | .registering actor => actor
  | .rejecting actor => actor
  | .stopping _ actor => actor
  | .shuttingDown actor => actor

/-- `closing` actors have left their loop, `finished` ones have returned. A forwarder is
`forwarding`, has `exited` its loop, or is `cleaning` up the actor it took from the slot. A
shutdown that gave up has `abandoned` its actor, and the task of an `aborted` one runs no
further. `answers` is the history of the replies to `Stop`. -/
structure BackendState where
  spawned : List SessionKey := []
  closing : List ℕ := []
  finished : List ℕ := []
  registered : List ℕ := []
  activeSession : Option ℕ := none
  holder : Option SlotHolder := none
  forwarding : List ℕ := []
  exited : List ℕ := []
  cleaning : List (ℕ × ℕ) := []
  abandoned : List ℕ := []
  aborted : List ℕ := []
  answers : List (ℕ × Bool) := []

/-- A step of a caller, a forwarder or an actor. -/
inductive BackendInput where
  | createSession (key : SessionKey) (spawns : Bool)
  | objectRegistered (ok : Bool)
  | rejected
  | stop (session : ℕ)
  | stopped (ok : Bool)
  | shutdownActiveSession
  | shutDown
  | shutdownTimesOut (aborts : Bool)
  | actorStops (actor : ℕ)
  | actorFinishes (actor : ℕ)
  | forwarderExits (session : ℕ)
  | finishEventForwarder (session : ℕ)
  | forwarderFinishes (session actor : ℕ)

namespace BackendState

/-- The key of a session that was spawned. -/
def key (w : BackendState) (session : ℕ) : Option SessionKey := w.spawned[session]?

def sessionId (w : BackendState) (session : ℕ) : Option String :=
  (w.key session).map SessionKey.sessionId

/-- The part of `create_session` under the mutex, up to the registration of the object. -/
def createSession (w : BackendState) (key : SessionKey) (spawns : Bool) : BackendState :=
  match w.activeSession, spawns with
  | none, true =>
    { w with spawned := w.spawned ++ [key], holder := some (.registering w.spawned.length) }
  | _, _ => w

def objectRegistered (w : BackendState) (actor : ℕ) (ok : Bool) : BackendState :=
  match ok with
  | true => { w with
      holder := none
      activeSession := some actor
      registered := w.registered ++ [actor]
      forwarding := w.forwarding ++ [actor] }
  | false => { w with holder := some (.rejecting actor) }

def stopSession (w : BackendState) (session : ℕ) : BackendState :=
  match w.activeSession with
  | none => { w with answers := w.answers ++ [(session, true)] }
  | some actor =>
    if w.sessionId actor ≠ w.sessionId session then
      { w with answers := w.answers ++ [(session, false)] }
    else { w with activeSession := none, holder := some (.stopping session actor) }

/-- The part of `finish_event_forwarder` under the mutex. -/
def finishEventForwarder (w : BackendState) (session : ℕ) : BackendState :=
  let w := { w with exited := w.exited.erase session }
  match w.activeSession with
  | none => w
  | some actor =>
    if w.key actor = w.key session then
      { w with activeSession := none, cleaning := w.cleaning ++ [(session, actor)] }
    else w

/-- The future of `shutdown_active_session` is dropped. While it waited for the actor's reply
this drops the `DeviceActor`, which aborts the task; while it waited for the task, the task
goes on alone. -/
def shutdownTimesOut (w : BackendState) (actor : ℕ) (aborts : Bool) : BackendState :=
  { w with
    holder := none
    abandoned := w.abandoned ++ [actor]
    aborted := w.aborted ++ if aborts then [actor] else [] }

/-- An actor returns only after it has closed what it owns. -/
def next (w : BackendState) : BackendInput → Option BackendState
  | .createSession key spawns =>
    if w.holder = none then some (w.createSession key spawns) else none
  | .objectRegistered ok =>
    match w.holder with
    | some (.registering actor) => some (w.objectRegistered actor ok)
    | _ => none
  | .rejected =>
    match w.holder with
    | some (.rejecting actor) =>
      if actor ∈ w.finished then some { w with holder := none } else none
    | _ => none
  | .stop session =>
    if w.holder = none ∧ session ∈ w.registered then some (w.stopSession session) else none
  | .stopped ok =>
    match w.holder with
    | some (.stopping session actor) =>
      if actor ∈ w.finished then
        some { w with holder := none, answers := w.answers ++ [(session, ok)] }
      else none
    | _ => none
  | .shutdownActiveSession =>
    match w.holder, w.activeSession with
    | none, some actor =>
      some { w with activeSession := none, holder := some (.shuttingDown actor) }
    | none, none => some w
    | _, _ => none
  | .shutDown =>
    match w.holder with
    | some (.shuttingDown actor) =>
      if actor ∈ w.finished then some { w with holder := none } else none
    | _ => none
  | .shutdownTimesOut aborts =>
    match w.holder with
    | some (.shuttingDown actor) => some (w.shutdownTimesOut actor aborts)
    | _ => none
  | .actorStops actor =>
    if actor < w.spawned.length ∧ actor ∉ w.aborted then
      some { w with closing := w.closing ++ [actor] }
    else none
  | .actorFinishes actor =>
    if actor ∈ w.closing ∧ actor ∉ w.aborted then
      some { w with finished := w.finished ++ [actor] }
    else none
  | .forwarderExits session =>
    if session ∈ w.forwarding then
      some { w with forwarding := w.forwarding.erase session, exited := w.exited ++ [session] }
    else none
  | .finishEventForwarder session =>
    if w.holder = none ∧ session ∈ w.exited then some (w.finishEventForwarder session) else none
  | .forwarderFinishes session actor =>
    if (session, actor) ∈ w.cleaning ∧ actor ∈ w.finished then
      some { w with cleaning := w.cleaning.erase (session, actor) }
    else none

/-- The actor was spawned and has not finished its shutdown. -/
def Unfinished (w : BackendState) (actor : ℕ) : Prop :=
  actor < w.spawned.length ∧ actor ∉ w.finished

/-- The actors that were taken from the slot and that nobody waits for under the mutex. -/
def detached (w : BackendState) : List ℕ := w.cleaning.map Prod.snd ++ w.abandoned

/-- No session is created next to a detached actor that has not finished, and none is stopped
that is one of those. -/
def timely (w : BackendState) : BackendInput → Bool
  | .createSession _ _ => w.detached.all fun actor => actor ∈ w.finished
  | .stop session => session ∉ w.detached || session ∈ w.finished
  | _ => true

end BackendState

/-- The steps in any order. -/
def backend : Machine BackendState BackendInput := ⟨BackendState.next⟩

namespace BackendState

/-- Every actor that has not finished is in the slot, with the holder of the mutex or
detached, and there is one of them at most. -/
structure Custody (w : BackendState) : Prop where
  placed : ∀ n < w.spawned.length, n ∉ w.finished → w.activeSession = some n ∨
    w.holder.map SlotHolder.actor = some n ∨ n ∈ w.cleaning.map Prod.snd ∨ n ∈ w.abandoned
  alone : ∀ m < w.spawned.length, ∀ n < w.spawned.length, m ∉ w.finished → n ∉ w.finished →
    m = n
  exclusive : ∀ n, w.activeSession = some n → w.holder = none
  registered : ∀ n ∈ w.registered, n < w.spawned.length
  registering : ∀ n, w.holder = some (.registering n) → n < w.spawned.length
  stopping : ∀ n m, w.holder = some (.stopping n m) → n = m ∨ n ∈ w.finished
  answered : ∀ n, (n, true) ∈ w.answers → n ∈ w.finished

namespace Custody

variable {w w' : BackendState}

attribute [local grind =] SlotHolder.actor Option.some.injEq Prod.mk.injEq
  SlotHolder.stopping.injEq SlotHolder.registering.injEq

lemma mem_cleaning_erase {cleaning : List (ℕ × ℕ)} {n session actor : ℕ} (hne : n ≠ actor)
    (h : n ∈ cleaning.map Prod.snd) : n ∈ (cleaning.erase (session, actor)).map Prod.snd := by
  obtain ⟨p, hmem, rfl⟩ := List.mem_map.1 h
  refine List.mem_map_of_mem ((List.mem_erase_of_ne ?_).2 hmem)
  rintro rfl
  exact hne rfl

/-- A session is created when every actor has finished. -/
theorem createSession (h : w.Custody) (hholder : w.holder = none) {key : SessionKey}
    {spawns : Bool} (htimely : w.timely (.createSession key spawns) = true) :
    (w.createSession key spawns).Custody := by
  simp only [timely, detached, List.all_eq_true, List.mem_append, decide_eq_true_eq] at htimely
  unfold BackendState.createSession
  cases hactive : w.activeSession with
  | some actor => exact h
  | none =>
    have hall : ∀ n < w.spawned.length, n ∈ w.finished := by
      intro n hn
      have hplaced := h.placed n hn
      grind
    obtain ⟨hplaced, halone, hexclusive, hregistered, hregistering, hstopping, hanswered⟩ := h
    cases spawns <;> constructor <;> grind

/-- A session that is not detached is in the slot or has finished. -/
theorem stopSession (h : w.Custody) (hholder : w.holder = none) {session : ℕ}
    (hregistered : session ∈ w.registered) (htimely : w.timely (.stop session) = true) :
    (w.stopSession session).Custody := by
  simp only [timely, detached, List.mem_append, Bool.or_eq_true, decide_eq_true_eq] at htimely
  have hplace := h.placed session (h.registered session hregistered)
  obtain ⟨hplaced, halone, hexclusive, hregistered, hregistering, hstopping, hanswered⟩ := h
  unfold BackendState.stopSession
  cases hactive : w.activeSession <;> constructor <;> grind

lemma next (h : w.Custody) {i : BackendInput} (htimely : w.timely i = true)
    (hnext : w.next i = some w') : w'.Custody := by
  cases i with
  | createSession key spawns =>
    obtain ⟨hholder, hw⟩ := Option.ite_none_right_eq_some.1 hnext
    exact Option.some.inj hw ▸ h.createSession hholder htimely
  | stop session =>
    obtain ⟨⟨hholder, hregistered⟩, hw⟩ := Option.ite_none_right_eq_some.1 hnext
    exact Option.some.inj hw ▸ h.stopSession hholder hregistered htimely
  | objectRegistered ok =>
    obtain ⟨hplaced, halone, hexclusive, hregistered, hregistering, hstopping, hanswered⟩ := h
    cases ok <;> constructor <;> grind [BackendState.next, BackendState.objectRegistered]
  | _ =>
    obtain ⟨hplaced, halone, hexclusive, hregistered, hregistering, hstopping, hanswered⟩ := h
    clear htimely
    constructor <;> grind [BackendState.next, BackendState.finishEventForwarder,
      BackendState.shutdownTimesOut, mem_cleaning_erase]

lemma initial : Custody {} := by
  constructor <;> simp

end Custody

end BackendState

open BackendState

/-- One actor at most has not finished, and a session that was stopped has. -/
def OneSession (w : BackendState) : Prop :=
  (∀ m n, w.Unfinished m → w.Unfinished n → m = n) ∧
  ∀ session, (session, true) ∈ w.answers → session ∈ w.finished

/-- In every run in which `CreateSession` and `Stop` find no unfinished actor that a forwarder
has taken from the slot or that the shutdown has abandoned, the backend serves one session at
a time. -/
theorem one_session_at_a_time {w : BackendState}
    (h : (backend.guard fun w i => w.timely i = true).Reach {} w) : OneSession w := by
  have hcustody : w.Custody := h.invariant (I := Custody) .initial fun _ _ _ hinv hnext => by
    obtain ⟨htimely, hnext⟩ := Machine.guard_next.1 hnext
    exact hinv.next htimely hnext
  exact ⟨fun m n hm hn => hcustody.alone m hm.1 n hn.1 hm.2 hn.2, hcustody.answered⟩

/-- A session whose actor failed is stopped, and then replaced. -/
theorem one_session_at_a_time_replaced :
    ∃ w, (backend.guard fun w i => w.timely i = true).Reach {} w ∧ w.spawned.length = 2 ∧
      w.answers = [(0, true)] ∧ OneSession w := by
  obtain ⟨w, hw, hlength, hanswers⟩ : ∃ w,
      (backend.guard fun w i => w.timely i = true).Reach {} w ∧ w.spawned.length = 2 ∧
        w.answers = [(0, true)] :=
    Machine.exists_reach [.createSession ⟨"display", 1⟩ true, .objectRegistered true,
      .actorStops 0, .forwarderExits 0, .actorFinishes 0, .finishEventForwarder 0, .stop 0,
      .forwarderFinishes 0 0, .createSession ⟨"display", 2⟩ true, .objectRegistered true]
      (by decide +kernel)
  exact ⟨w, hw, hlength, hanswers, one_session_at_a_time hw⟩

/-- The actor of a session fails; its forwarder takes the session from the slot and waits for
the actor. `Stop` of the session is answered and a second actor is spawned meanwhile. -/
theorem sessions_overlap_after_fatal_error :
    ∃ w, backend.Reach {} w ∧ ¬ OneSession w ∧ w.Unfinished 0 ∧ w.Unfinished 1 ∧
      (0, true) ∈ w.answers := by
  obtain ⟨w, hw, hlength, hfinished, hanswers⟩ : ∃ w, backend.Reach {} w ∧
      w.spawned.length = 2 ∧ w.finished = [] ∧ w.answers = [(0, true)] :=
    Machine.exists_reach [.createSession ⟨"display", 1⟩ true, .objectRegistered true,
      .actorStops 0, .forwarderExits 0, .finishEventForwarder 0, .stop 0,
      .createSession ⟨"display", 2⟩ true] (by decide +kernel)
  have h₀ : w.Unfinished 0 := ⟨by simp [hlength], by simp [hfinished]⟩
  have h₁ : w.Unfinished 1 := ⟨by simp [hlength], by simp [hfinished]⟩
  refine ⟨w, hw, fun hone => ?_, h₀, h₁, by simp [hanswers]⟩
  cases hone.1 0 1 h₀ h₁

end Pronk.Chromiacast
