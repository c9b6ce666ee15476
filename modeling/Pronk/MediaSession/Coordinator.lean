import Pronk.Library.Transition
import Pronk.MediaSession.Types

/-!
# Requests, phases and their cancellation tokens

The steps that requesters, the policy and the actor take on one `RequestCoordinator`,
in any order. A request takes its generation, interrupts the installed phase and is
sent. The actor installs one token for each phase it enters: the token is replaced
under the mutex, and the latest generation is read before the mutex is released, so
a request can take its generation in between but cannot interrupt. Cleanup runs
between the phases with a token of its own. Phases that the media state makes
unnecessary are passed over by answering early.
-/
namespace Pronk.MediaSession
open Transition

/-- The calls of the driver that are given an installed token. -/
inductive Phase where
  | startCapture
  | startMedia
  | suspend
  deriving DecidableEq

def CommandKind.phases : CommandKind → List Phase
  | .Activate _ => [.startCapture, .startMedia]
  | .Retry => [.startCapture, .startMedia]
  | .Suspend _ => [.suspend]
  | _ => []

/-- `cut` records that `cancel_phase` or `begin_shutdown` found the token installed. -/
structure PhaseToken where
  generation : UInt64
  cancelled : Bool := false
  cut : Bool := false
  deriving DecidableEq

/-- A phase as the driver was called with it. It is `submitted` if its request had its
generation when `cancel_phase` or `begin_shutdown` was last called. -/
structure PhaseEntry where
  phase : Phase
  generation : UInt64
  (submitted cancelled : Bool)
  deriving DecidableEq

/-- Where the actor is. It holds the mutex while it is `installing`. -/
inductive ActorPoint where
  | waiting
  | handling (command : Command) (rest : List Phase)
  | installing (command : Command) (phase : Phase) (rest : List Phase)
  | running (command : Command) (phase : Phase) (rest : List Phase)
  | stopped
  deriving DecidableEq

/-- `incremented` and `interrupted` hold the requests that have yet to interrupt and
those that have yet to be sent. `replaced`, `issued`, `lastCancelled` and `entered`
are history: no step reads them. -/
structure CoordinatorState where
  latestGeneration : UInt64 := 0
  installedPhase : PhaseToken := { generation := 0 }
  incremented : List UInt64 := []
  interrupted : List UInt64 := []
  queue : List Command := []
  actor : ActorPoint := .waiting
  shutdownCancelled : Bool := false
  replaced : List PhaseToken := []
  issued : List UInt64 := []
  lastCancelled : UInt64 := 0
  entered : List PhaseEntry := []

/-- `begin_shutdown` is `cancelShutdown` and then `cancelPhase`. -/
inductive Input where
  | increment
  | interrupt (generation : UInt64)
  | enqueue (generation : UInt64) (kind : CommandKind)
  | cancelPhase
  | cancelShutdown
  | dequeue
  | replacePhase
  | loadLatest
  | timeout
  | endPhase (succeeded : Bool)
  | answer

namespace CoordinatorState

def locked (s : CoordinatorState) : Bool :=
  match s.actor with
  | .installing _ _ _ => true
  | _ => false

def interruptPhase (s : CoordinatorState) : CoordinatorState :=
  { s with installedPhase := { s.installedPhase with cancelled := true } }

/-- The request is issued: it has its generation and has interrupted. -/
def issue (s : CoordinatorState) (generation : UInt64) : CoordinatorState :=
  { s.interruptPhase with
    incremented := s.incremented.erase generation
    interrupted := generation :: s.interrupted
    issued := generation :: s.issued }

def cancelPhase (s : CoordinatorState) : CoordinatorState :=
  { s with
    installedPhase := { s.installedPhase with cancelled := true, cut := true }
    lastCancelled := s.latestGeneration }

/-- Without a receiver the command is dropped, and with a full queue it waits. -/
def enqueue (s : CoordinatorState) (generation : UInt64) (kind : CommandKind) :
    Option CoordinatorState :=
  let sent := { s with interrupted := s.interrupted.erase generation }
  if s.actor = .stopped then some sent
  else if s.queue.length < COMMAND_CAPACITY then
    some { sent with queue := s.queue ++ [⟨generation, kind⟩] }
  else none

def replacePhase (s : CoordinatorState) (command : Command) (phase : Phase)
    (rest : List Phase) : CoordinatorState :=
  { s with
    actor := .installing command phase rest
    replaced := s.replaced ++ [{ s.installedPhase with cancelled := true }]
    installedPhase := { generation := command.requestGeneration } }

/-- The token is compared with the latest generation and handed to the driver. -/
def loadLatest (s : CoordinatorState) (command : Command) (phase : Phase)
    (rest : List Phase) : CoordinatorState :=
  let superseded := s.latestGeneration ≠ command.requestGeneration
  let token := { s.installedPhase with cancelled := s.installedPhase.cancelled || superseded }
  { s with
    actor := .running command phase rest
    installedPhase := token
    entered := s.entered ++ [{
      phase := phase
      generation := command.requestGeneration
      submitted := command.requestGeneration ≤ s.lastCancelled
      cancelled := token.cancelled }] }

def answer (s : CoordinatorState) (command : Command) : CoordinatorState :=
  match command.kind with
  | .Shutdown _ => { s with actor := .stopped, queue := [] }
  | _ => { s with actor := .waiting }

def next (s : CoordinatorState) : Input → Option CoordinatorState
  | .increment =>
    (checkedSucc s.latestGeneration).map fun generation =>
      { s with latestGeneration := generation, incremented := generation :: s.incremented }
  | .interrupt generation =>
    if generation ∈ s.incremented ∧ !s.locked then some (s.issue generation) else none
  | .enqueue generation kind =>
    if generation ∈ s.interrupted then s.enqueue generation kind else none
  | .cancelPhase => if s.locked then none else some s.cancelPhase
  | .cancelShutdown => some { s with shutdownCancelled := true }
  | .dequeue =>
    match s.actor, s.queue with
    | .waiting, command :: queue =>
      some { s with actor := .handling command command.kind.phases, queue := queue }
    | _, _ => none
  | .replacePhase =>
    match s.actor with
    | .handling command (phase :: rest) => some (s.replacePhase command phase rest)
    | _ => none
  | .loadLatest =>
    match s.actor with
    | .installing command phase rest => some (s.loadLatest command phase rest)
    | _ => none
  | .timeout =>
    match s.actor with
    | .running command _ _ => some { s.interruptPhase with actor := .handling command [] }
    | _ => none
  | .endPhase succeeded =>
    match s.actor with
    | .running command _ rest =>
      some { s with actor := .handling command (if succeeded then rest else []) }
    | _ => none
  | .answer =>
    match s.actor with
    | .handling command _ => some (s.answer command)
    | _ => none

/-- The first token and those that `install_phase` has returned, in order. -/
def phaseTokens (s : CoordinatorState) : List PhaseToken :=
  if s.locked then s.replaced else s.replaced ++ [s.installedPhase]

end CoordinatorState

/-- Requests, phases and cancellations in any order. -/
def coordinator : Machine CoordinatorState Input := ⟨CoordinatorState.next⟩

end Pronk.MediaSession
