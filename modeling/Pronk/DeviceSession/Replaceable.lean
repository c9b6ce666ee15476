import Pronk.DeviceSession.Recovery
import Pronk.Library.Transition

/-!
# The replaceable device session

The state that the media driver's port, the control port and the recovery coordinator
share behind one mutex. A call that a session answers keeps the mutex until it returns or
its future is dropped; the final stop of a session runs after the mutex was released.
Sessions are numbered in the order in which the port was given them or the factory
returned them. Reasons, setups and control operations pass through unread.
-/
namespace Pronk.DeviceSession
open Transition

inductive SessionCall where
  | configureMedia (generation : NonZeroU64)
  | startMedia (generation : NonZeroU64)
  | suspendMedia (generation : NonZeroU64)
  | resumeMedia (generation : NonZeroU64)
  | stopMedia (generation : NonZeroU64)
  | transmitControl
  | stop
  deriving DecidableEq

/-- A call that reached a session, or its return. -/
inductive SessionEntry where
  | called (session : ℕ) (call : SessionCall)
  | returned (session : ℕ) (call : SessionCall) (ok : Bool)
  deriving DecidableEq

structure ActiveSession where
  sessionGeneration : NonZeroU64
  mediaGeneration : Option NonZeroU64
  session : ℕ

/-- What the mutex protects. -/
structure SharedState where
  current : Option ActiveSession
  lastSessionGeneration : NonZeroU64
  retiredMediaGenerations : List NonZeroU64
  closed : Bool

/-- The calls of the media driver that need the installed session. -/
inductive PortCall where
  | configureMedia (generation : NonZeroU64)
  | startMedia (generation : NonZeroU64)
  | suspendMedia (generation : NonZeroU64)
  | resumeMedia (generation : NonZeroU64)
  | stopMedia (generation : NonZeroU64)

/-- How a call goes on once it has the mutex: it is answered at once, or the session is
asked. -/
inductive Admission where
  | answered (result : Except String Unit)
  | asked (session : ActiveSession) (call : SessionCall)

namespace SharedState

def liveSession (shared : SharedState) : Except String ActiveSession :=
  if shared.closed then .error "Device-session owner has stopped"
  else match shared.current with
    | some current => .ok current
    | none => .error "no prepared Device session is installed"

def matchingSession (shared : SharedState) (generation : NonZeroU64) (operation : String) :
    Except String ActiveSession :=
  match shared.liveSession with
  | .error e => .error e
  | .ok current =>
    if current.mediaGeneration ≠ some generation then
      .error ("cannot " ++ operation ++ " media generation " ++ toString generation.get ++
        "; active generation is " ++ generationText current.mediaGeneration)
    else .ok current

/-- The calls that need the media generation of the session. -/
def matching (shared : SharedState) (generation : NonZeroU64) (operation : String)
    (call : SessionCall) : Admission :=
  match shared.matchingSession generation operation with
  | .error e => .answered (.error e)
  | .ok current => .asked current call

def setMedia (shared : SharedState) (generation : Option NonZeroU64) : SharedState :=
  { shared with current := shared.current.map ({ · with mediaGeneration := generation }) }

/-- The generation is remembered before the session is asked. -/
def configureMedia (shared : SharedState) (generation : NonZeroU64) : Admission × SharedState :=
  match shared.liveSession with
  | .error e => (.answered (.error e), shared)
  | .ok current =>
    match current.mediaGeneration with
    | some active => (.answered (.error ("cannot configure media generation " ++
        toString generation.get ++ " while generation " ++ toString active.get ++ " is active")),
        shared)
    | none => (.asked current (.configureMedia generation), shared.setMedia (some generation))

/-- A generation that left with its session is stopped already. -/
def stopMedia (shared : SharedState) (generation : NonZeroU64) : Admission × SharedState :=
  if generation ∈ shared.retiredMediaGenerations then
    (.answered (.ok ()), { shared with
      retiredMediaGenerations := shared.retiredMediaGenerations.filter (· ≠ generation) })
  else match shared.liveSession with
    | .error e => (.answered (.error e), shared)
    | .ok current =>
      match current.mediaGeneration with
      | none => (.answered (.ok ()), shared)
      | some active =>
        if active ≠ generation then
          (.answered (.error ("cannot stop media generation " ++ toString generation.get ++
            "; active generation is " ++ toString active.get)), shared)
        else (.asked current (.stopMedia generation), shared)

def call (shared : SharedState) : PortCall → Admission × SharedState
  | .configureMedia generation => shared.configureMedia generation
  | .startMedia generation => (shared.matching generation "start" (.startMedia generation), shared)
  | .suspendMedia generation =>
    (shared.matching generation "suspend" (.suspendMedia generation), shared)
  | .resumeMedia generation =>
    (shared.matching generation "resume" (.resumeMedia generation), shared)
  | .stopMedia generation => shared.stopMedia generation

def transmitControl (shared : SharedState) : Admission :=
  match shared.liveSession with
  | .error e => .answered (.error e)
  | .ok current => .asked current .transmitControl

/-- Only a successful `stop_media` ends the generation of the session. -/
def finish (shared : SharedState) (call : SessionCall) (ok : Bool) : SharedState :=
  match call, ok with
  | .stopMedia _, true => shared.setMedia none
  | _, _ => shared

/-- The first half of the port's `stop`: the session to stop, if there is one. -/
def close (shared : SharedState) : Option ActiveSession × SharedState :=
  if shared.closed then (none, shared)
  else
    (shared.current,
      { shared with current := none, retiredMediaGenerations := [], closed := true })

/-- The first half of `retire_current`. -/
def retireCurrent (shared : SharedState) :
    Except DeviceSessionReplacementError (Option ActiveSession) × SharedState :=
  if shared.closed then (.error .Stopped, shared)
  else (.ok shared.current, { shared with
    current := none
    retiredMediaGenerations := match shared.current.bind ActiveSession.mediaGeneration with
      | some generation => generation :: shared.retiredMediaGenerations.filter (· ≠ generation)
      | none => shared.retiredMediaGenerations })

/-- The part of `install` under the mutex. -/
def install (shared : SharedState) (sessionGeneration : NonZeroU64) (session : ℕ) :
    Except DeviceSessionReplacementError Unit × SharedState :=
  if shared.closed then (.error .Stopped, shared)
  else match shared.current with
    | some current => (.error (.Occupied current.sessionGeneration), shared)
    | none =>
      if sessionGeneration.get ≤ shared.lastSessionGeneration.get then
        (.error (.StaleGeneration shared.lastSessionGeneration sessionGeneration), shared)
      else (.ok (), { shared with
        current := some ⟨sessionGeneration, none, session⟩
        lastSessionGeneration := sessionGeneration })

end SharedState

/-- `stop` consumes the port of the media driver. -/
inductive PortStatus where
  | usable
  | stopping (session : ℕ)
  | gone
  deriving DecidableEq

/-- `holder` is the call that has the mutex while a session answers it. -/
structure World where
  shared : SharedState
  holder : Option (ℕ × SessionCall) := none
  port : PortStatus := .usable
  task : RecoveryTask ℕ
  sessions : ℕ := 1
  log : List SessionEntry := []
  installs : List NonZeroU64

/-- `replaceable_device_session` with a coordinator that waits for its first input. -/
def World.initial (sessionGeneration : NonZeroU64) : World where
  shared := ⟨some ⟨sessionGeneration, none, 0⟩, sessionGeneration, [], false⟩
  task := ⟨.waiting, sessionGeneration, true⟩
  installs := [sessionGeneration]

inductive Input where
  | port (call : PortCall)
  | control
  | returned (ok : Bool)
  | dropped
  | portStop
  | portStopped (ok : Bool)
  | command (command : Option RecoveryCommand)
  | sessionEvent (event : Option DeviceSessionEvent)
  | retire
  | retiredStopped (error : Option String)
  | created (result : Except DeviceSessionFactoryError (Except String Unit))
  | eventsShutDown
  | discarded (error : Option String)
  | install
  | rejectionStopped (error : Option String)
  | sent (received : Bool)

namespace World

def record (w : World) (e : SessionEntry) : World := { w with log := w.log ++ [e] }

/-- Go on with a call that has the mutex. -/
def applyAdmission (w : World) : Admission × SharedState → World
  | (.answered _, shared) => { w with shared := shared }
  | (.asked current call, shared) =>
    { w with shared := shared, holder := some (current.session, call) }.record
      (.called current.session call)

def finishCall (w : World) (session : ℕ) (call : SessionCall) (ok : Bool) : World :=
  { w with holder := none, shared := w.shared.finish call ok }.record (.returned session call ok)

/-- The port's `stop`, up to the stop of the session that it took. -/
def stopPort (w : World) : World :=
  match w.shared.close with
  | (none, shared) => { w with shared := shared, port := .gone }
  | (some current, shared) => { w with shared := shared, port := .stopping current.session }.record
      (.called current.session .stop)

/-- A step of the coordinator that reaches no session. -/
def advance (w : World) (input : TaskInput ℕ) : Option World :=
  (w.task.step input).map fun task => { w with task := task }

/-- A step of the coordinator after a session's stop returned. -/
def advanceStopped (w : World) (input : TaskInput ℕ) (session : ℕ) (error : Option String) :
    Option World :=
  (w.advance input).map (record · (.returned session .stop error.isNone))

/-- Take the session out of the shared place. -/
def retire (w : World) : Option World :=
  match w.shared.retireCurrent with
  | (.error error, shared) => advance { w with shared := shared } (.retired (.error error))
  | (.ok none, shared) => advance { w with shared := shared } (.retired (.ok none))
  | (.ok (some current), shared) =>
    (advance { w with shared := shared } (.retired (.ok (some current.session)))).map
      (record · (.called current.session .stop))

/-- Give the shared place to a new session. -/
def install (w : World) (attempt : Attempt) (session : ℕ) : Option World :=
  match w.shared.install attempt.sessionGeneration session with
  | (.ok _, shared) =>
    advance { w with shared := shared, installs := w.installs ++ [attempt.sessionGeneration] }
      (.installed (.ok ()))
  | (.error error, shared) =>
    (advance { w with shared := shared } (.installed (.error error))).map
      (record · (.called session .stop))

/-- A session that the factory returns is a new one. -/
def create (w : World) : Except DeviceSessionFactoryError (Except String Unit) → Option World
  | .error error => w.advance (.created (.error error))
  | .ok compatible =>
    advance { w with sessions := w.sessions + 1 } (.created (.ok (w.sessions, compatible)))

def next (w : World) : Input → Option World
  | .port call =>
    if w.holder = none ∧ w.port = .usable then some (w.applyAdmission (w.shared.call call))
    else none
  | .control =>
    if w.holder = none then some (w.applyAdmission (w.shared.transmitControl, w.shared)) else none
  | .returned ok =>
    match w.holder with
    | some (session, call) => some (w.finishCall session call ok)
    | none => none
  | .dropped => if w.holder = none then none else some { w with holder := none }
  | .portStop => if w.holder = none ∧ w.port = .usable then some w.stopPort else none
  | .portStopped ok =>
    match w.port with
    | .stopping session => some ({ w with port := .gone }.record (.returned session .stop ok))
    | _ => none
  | .command command => w.advance (.command command)
  | .sessionEvent event => w.advance (.sessionEvent event)
  | .retire => if w.holder = none then w.retire else none
  | .retiredStopped error =>
    match w.task.phase with
    | .stoppingRetired _ session => w.advanceStopped (.retiredStopped error) session error
    | _ => none
  | .created result => w.create result
  | .eventsShutDown =>
    match w.task.phase with
    | .incompatible _ session _ =>
      (w.advance .eventsShutDown).map (record · (.called session .stop))
    | _ => none
  | .discarded error =>
    match w.task.phase with
    | .discarding _ session _ => w.advanceStopped (.discarded error) session error
    | _ => none
  | .install =>
    match w.task.phase with
    | .installing attempt _ session => if w.holder = none then w.install attempt session else none
    | _ => none
  | .rejectionStopped error =>
    match w.task.phase with
    | .rejecting _ session _ => w.advanceStopped (.rejectionStopped error) session error
    | _ => none
  | .sent received => w.advance (.sent received)

end World

/-- The session port, its users and the coordinator, in any interleaving. -/
def replaceable : Machine World Input := ⟨World.next⟩

end Pronk.DeviceSession
