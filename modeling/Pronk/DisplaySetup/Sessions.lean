import Pronk.DisplaySetup.Setup

/-!
# No session is abandoned

What a setup does to backend sessions and monitors is read off the record of its calls. A
session that was created is part of what is returned, or was stopped once; a monitor that
was attached is part of it, or was detached, or lost its grant. The one exception is a
failure of the task that attaches the monitor.
-/
namespace Pronk.DisplaySetup
open BackendProtocol (DeviceCapabilities PreparationRequest)
open Dbus (DeviceInfo DeviceSelection)
open Interaction Method SetupCall AddedCastDisplay

/-- `released` is a detached monitor or a dropped client, and `lost` the failed task. -/
inductive Mark where
  | created (session : ℕ)
  | stopped (session : ℕ)
  | attached (client : ℕ)
  | released (client : ℕ)
  | lost
  deriving DecidableEq

/-- What a call did, given its reply. -/
def SetupCall.mark : (c : SetupCall) → c.Reply → Option Mark
  | .createSession .., reply =>
    match reply with
    | .finished (.ok session) => some (.created session)
    | .finished (.error _) => none
    | .cancelled => none
  | .awaitSession, reply =>
    match reply with
    | .ok session => some (.created session)
    | .error _ => none
  | .attachMonitor client .., reply =>
    match reply with
    | .finished (.ok (.ok _)) => some (.attached client)
    | .finished (.ok (.error _)) => none
    | .finished (.error _) => some .lost
    | .cancelled => none
  | .joinAttach client, reply =>
    match reply with
    | .ok (.ok _) => some (.attached client)
    | .ok (.error _) => none
    | .error _ => none
  | .detachMonitor client, _ => some (.released client)
  | .spawnKernel client _, reply =>
    match reply with
    | .ok _ => none
    | .error _ => some (.released client)
  | .stop session _, _ => some (.stopped session)
  | .isCancelled, _ => none
  | .setStatus _, _ => none
  | .acquire _, _ => none
  | .newClient _, _ => none
  | .resolveDevice _, _ => none
  | .prepare .., _ => none
  | .startEventMonitor _, _ => none
  | .socketPaths, _ => none

abbrev Record := List (Exchange SetupCall Reply)

def marks (log : Record) : List Mark := log.filterMap fun exchange => exchange.1.mark exchange.2

/-- Every reply is possible, and the marks are kept. -/
def marking : Environment (List Mark) SetupCall Reply :=
  fun l c reply l' => l' = l ++ (c.mark reply).toList

lemma marks_append (log : Record) (c : SetupCall) (reply : c.Reply) :
    marks (log ++ [⟨c, reply⟩]) = marks log ++ (c.mark reply).toList := by
  rw [marks, marks, List.filterMap_append]
  cases h : c.mark reply with
  | none => simp [h]
  | some mark => simp [h]

/-- What a returned value owns. -/
structure Kept where
  session : Option ℕ := none
  monitor : Option ℕ := none
  deriving DecidableEq

def AddedCastDisplay.kept (added : AddedCastDisplay) : Kept :=
  ⟨added.deviceSession.current.map (·.session), some added.kernel⟩

def PreparedDeviceSession.kept (prepared : PreparedDeviceSession) : Kept :=
  ⟨some prepared.session, none⟩

/-- An error owns nothing. -/
def keptBy {ε α : Type} (kept : α → Kept) : Except ε α → Kept
  | .ok value => kept value
  | .error _ => {}

structure Cleaned (kept : Kept) (l : List Mark) : Prop where
  sessions : ∀ session, .created session ∈ l →
    l.count (.stopped session) = if kept.session = some session then 0 else 1
  monitors : ∀ client, .attached client ∈ l → kept.monitor = some client ∨ .released client ∈ l

/-! ## Steps that both functions share -/

section Steps

variable {ε α : Type} {l : List Mark} {errors : SessionErrors ε} {session : ℕ}
  {ok : α → Unit → List Mark → Prop} {F : List Mark → Prop}

variable {err : ε → Unit → List Mark → Prop}

lemma wp_call_bind (c : SetupCall) {f : c.Reply → Setup ε α} :
    (call c >>= f).wp marking () l ok err ↔
      ∀ reply, (f reply).wp marking () (l ++ (c.mark reply).toList) ok err := by
  rw [wp_bind]
  exact ⟨fun h reply => h reply _ rfl, fun h reply _ hl => hl ▸ h reply⟩

lemma wp_unmarked_bind {c : SetupCall} {f : c.Reply → Setup ε α} (hc : ∀ reply, c.mark reply = none)
    (h : ∀ reply, (f reply).wp marking () l ok err) : (call c >>= f).wp marking () l ok err := by
  rw [wp_call_bind]
  intro reply
  rw [hc reply, Option.toList_none, List.append_nil]
  exact h reply

lemma wp_stop_bind {f : Unit → Setup ε α}
    (h : (f ()).wp marking () (l ++ [.stopped session]) ok err) :
    (stopPartialBackend session >>= f).wp marking () l ok err := by
  rw [stopPartialBackend, wp_bind, wp_call_bind]
  exact fun _ => h

lemma wp_detach_bind {client : ℕ} {f : Unit → Setup ε α}
    (h : (f ()).wp marking () (l ++ [.released client]) ok err) :
    (detachClient client >>= f).wp marking () l ok err := by
  rw [detachClient, wp_bind, wp_call_bind]
  exact fun _ => h

lemma wp_discard {error : ε} (h : F (l ++ [.stopped session])) :
    (discard session error : Setup ε α).wp marking () l ok fun _ _ => F :=
  wp_stop_bind h

lemma wp_ready {value : α} {ok : Race α → Unit → List Mark → Prop} (h : ∀ reply, ok reply () l) :
    (ready value : Setup ε (Race α)).wp marking () l ok fun _ _ => F := by
  apply wp_unmarked_bind fun _ => rfl
  intro cancelled
  cases cancelled
  · exact h _
  · exact h _

variable {device : DeviceInfo}

lemma wp_createSession {ok : ℕ → Unit → List Mark → Prop} {sessionId : String}
    {sessionGeneration : NonZeroU64} {requestedFeatures : UInt64} (hnone : F l)
    (hstopped : ∀ session, F (l ++ [.created session] ++ [.stopped session]))
    (hok : ∀ session, ok session () (l ++ [.created session])) :
    (createSession errors device sessionId sessionGeneration requestedFeatures).wp marking () l ok
      fun _ _ => F := by
  rw [createSession, wp_call_bind]
  intro reply
  match reply with
  | .cancelled =>
    rw [mark, Option.toList_none, List.append_nil]
    dsimp only
    rw [wp_call_bind]
    intro created
    match created with
    | .ok session => exact wp_discard (hstopped session)
    | .error _ => simpa [mark] using hnone
  | .finished (.error e) => simpa [mark] using hnone
  | .finished (.ok session) => exact hok session

lemma wp_orDiscard {failed : String → ε} {reply : Race (Except String α)}
    (hstopped : F (l ++ [.stopped session])) (hok : ∀ value, ok value () l) :
    (orDiscard errors session failed reply).wp marking () l ok fun _ _ => F := by
  match reply with
  | .cancelled => exact wp_discard hstopped
  | .finished (.error e) => exact wp_discard hstopped
  | .finished (.ok value) => exact hok value

lemma wp_prepareSession {preparation : Preparation} {offer : PreparationRequest}
    {audioEnabled : Bool} {ok : PreparedCastDevice → Unit → List Mark → Prop}
    (hstopped : F (l ++ [.stopped session])) (hok : ∀ prepared, ok prepared () l) :
    (prepareSession errors preparation device offer audioEnabled session).wp marking () l ok
      fun _ _ => F := by
  apply wp_unmarked_bind fun _ => rfl
  intro reply
  rw [wp_bind]
  apply wp_orDiscard hstopped
  intro capabilities
  match PreparedCastDevice.fromCapabilities preparation device capabilities audioEnabled with
  | .error e => exact wp_discard hstopped
  | .ok prepared =>
    dsimp only
    rw [wp_bind]
    apply wp_unmarked_bind fun _ => rfl
    intro cancelled
    cases cancelled
    · exact hok prepared
    · exact wp_discard hstopped

lemma wp_startEventMonitor {ok : Unit → Unit → List Mark → Prop}
    (hstopped : F (l ++ [.stopped session])) (hok : ok () () l) :
    (startEventMonitor errors session).wp marking () l ok fun _ _ => F := by
  apply wp_unmarked_bind fun _ => rfl
  intro reply
  exact wp_orDiscard hstopped fun _ => hok

lemma wp_revalidateDevice {slot : ReservedCastDisplaySlot}
    {ok : Race (Except String Unit) → Unit → List Mark → Prop} (hok : ∀ reply, ok reply () l) :
    (slot.revalidateDevice : Setup ε _).wp marking () l ok fun _ _ => F := by
  unfold ReservedCastDisplaySlot.revalidateDevice
  split_ifs
  · apply wp_unmarked_bind fun _ => rfl
    intro reply
    exact hok _
  · exact wp_ready hok

lemma wp_resolve {resolver : DeviceSessionResolver}
    {ok : Race (Except String DeviceInfo) → Unit → List Mark → Prop}
    (hok : ∀ reply, ok reply () l) :
    (resolver.resolve device : Setup ε _).wp marking () l ok fun _ _ => F := by
  unfold DeviceSessionResolver.resolve
  split_ifs
  · exact wp_ready hok
  · rintro reply _ rfl
    simpa [mark] using hok reply

end Steps

/-! ## The two functions -/

section Setup

variable {l : List Mark} {session client : ℕ} {F : List Mark → Prop}

lemma wp_failIfCancelled {ok : Unit → Unit → List Mark → Prop} (hnone : F l) (hok : ok () () l) :
    failIfCancelled.wp marking () l ok fun _ _ => F := by
  apply wp_unmarked_bind fun _ => rfl
  intro cancelled
  cases cancelled
  · exact hok
  · exact hnone

lemma wp_acquireClient {slot : ReservedCastDisplaySlot} {context : DisplaySetupContext}
    {ok : ℕ → Unit → List Mark → Prop} (hnone : F l) (hok : ∀ client, ok client () l) :
    (acquireClient slot context).wp marking () l ok fun _ _ => F := by
  rw [acquireClient, wp_bind]
  apply wp_failIfCancelled hnone
  apply wp_unmarked_bind fun _ => rfl
  intro lease
  match lease with
  | .error .Cancelled => exact hnone
  | .error (.Provider e) => exact hnone
  | .ok holder =>
    dsimp only
    rw [wp_bind]
    apply wp_failIfCancelled hnone
    rw [wp_bind]
    apply wp_revalidateDevice
    intro revalidation
    match revalidation with
    | .cancelled => exact hnone
    | .finished (.error e) => exact hnone
    | .finished (.ok _) =>
      apply wp_unmarked_bind fun _ => rfl
      intro opened
      match opened with
      | .error e => exact hnone
      | .ok _ => exact hok holder

lemma wp_attachMonitor {edid : Edid.ValidatedEdid} {displayName : String}
    {ok : Unit → Unit → List Mark → Prop} (hlost : F (l ++ [.lost]))
    (hstopped : F (l ++ [.stopped session]))
    (hdetached : F (l ++ [.attached client] ++ [.stopped session] ++ [.released client]))
    (hok : ok () () (l ++ [.attached client])) :
    (attachMonitor session client edid displayName).wp marking () l ok fun _ _ => F := by
  rw [attachMonitor, wp_call_bind]
  intro reply
  match reply with
  | .cancelled =>
    dsimp only
    rw [wp_call_bind]
    intro joined
    apply wp_stop_bind
    match joined with
    | .ok (.ok _) =>
      apply wp_detach_bind
      simpa [mark] using hdetached
    | .ok (.error _) => simpa [mark] using hstopped
    | .error _ => simpa [mark] using hstopped
  | .finished (.error e) => exact hlost
  | .finished (.ok (.error e)) =>
    exact wp_discard (by simpa [mark] using hstopped)
  | .finished (.ok (.ok _)) => exact hok

lemma wp_withdraw {error : DisplaySetupError} {α : Type} {ok : α → Unit → List Mark → Prop}
    (h : F (l ++ [.stopped session] ++ [.released client])) :
    (withdraw session client error : Setup _ α).wp marking () l ok fun _ _ => F := by
  apply wp_stop_bind
  exact wp_detach_bind h

lemma wp_finishSetup {context : DisplaySetupContext} {slot : ReservedCastDisplaySlot}
    {prepared : PreparedCastDevice} {resolver : DeviceSessionResolver}
    {ok : AddedCastDisplay → Unit → List Mark → Prop}
    (hwithdrawn : F (l ++ [.stopped session] ++ [.released client]))
    (hdropped : F (l ++ [.released client] ++ [.stopped session]))
    (hok : ∀ added, added.kept = ⟨some session, some client⟩ → ok added () l) :
    (finishSetup context slot prepared resolver session client).wp marking () l ok
      fun _ _ => F := by
  apply wp_unmarked_bind fun _ => rfl
  intro cancelled
  cases cancelled
  · apply wp_unmarked_bind fun _ => rfl
    intro paths
    match paths with
    | .error e => exact wp_withdraw hwithdrawn
    | .ok _ =>
      dsimp only
      rw [spawnDisplay, wp_call_bind]
      intro kernel
      match kernel with
      | .error e =>
        rw [wp_bind]
        apply (wp_call_bind _).2
        exact fun _ => hdropped
      | .ok _ =>
        rw [mark, Option.toList_none, List.append_nil]
        exact hok _ rfl
  · exact wp_withdraw hwithdrawn

end Setup

lemma wp_runDisplaySetupInner {slot : ReservedCastDisplaySlot} {context : DisplaySetupContext}
    {ok : AddedCastDisplay → Unit → List Mark → Prop} {F : List Mark → Prop} (hnone : F [])
    (hstopped : ∀ session, F [.created session, .stopped session])
    (hlost : ∀ session, F [.created session, .lost])
    (hwithdrawn : ∀ session client,
      F [.created session, .attached client, .stopped session, .released client])
    (hdropped : ∀ session client,
      F [.created session, .attached client, .released client, .stopped session])
    (hok : ∀ session client added, added.kept = ⟨some session, some client⟩ →
      ok added () [.created session, .attached client]) :
    (runDisplaySetupInner slot context).wp marking () [] ok fun _ _ => F := by
  rw [runDisplaySetupInner, wp_bind]
  apply wp_acquireClient hnone
  intro client
  apply wp_unmarked_bind fun _ => rfl
  intro _
  rw [wp_bind, wp_okOr]
  refine ⟨fun _ => hnone, fun selection _ => ?_⟩
  rw [wp_bind]
  apply wp_createSession hnone hstopped
  intro session
  rw [wp_bind]
  apply wp_prepareSession (hstopped session)
  intro prepared
  rw [wp_bind]
  apply wp_revalidateDevice
  intro revalidation
  rw [wp_bind]
  apply wp_orDiscard (hstopped session)
  intro _
  split
  · exact wp_discard (hstopped session)
  · rw [wp_bind]
    apply wp_startEventMonitor (hstopped session)
    apply wp_unmarked_bind fun _ => rfl
    intro _
    rw [wp_bind]
    apply wp_attachMonitor (hlost session) (hstopped session) (hwithdrawn session client)
    exact wp_finishSetup (hwithdrawn session client) (hdropped session client)
      (hok session client)

lemma wp_createPreparedSession {factory : BackendPreparedDeviceSessionFactory}
    {device : DeviceInfo} {sessionGeneration : NonZeroU64}
    {ok : PreparedDeviceSession → Unit → List Mark → Prop} {F : List Mark → Prop} (hnone : F [])
    (hstopped : ∀ session, F [.created session, .stopped session])
    (hok : ∀ prepared : PreparedDeviceSession, ok prepared () [.created prepared.session]) :
    (factory.createPreparedSession device sessionGeneration).wp marking () [] ok
      fun _ _ => F := by
  rw [BackendPreparedDeviceSessionFactory.createPreparedSession, wp_bind]
  apply wp_resolve
  intro selection
  match selection with
  | .cancelled => exact hnone
  | .finished (.error e) => exact hnone
  | .finished (.ok selection) =>
    dsimp only
    rw [wp_bind]
    apply wp_createSession hnone hstopped
    intro session
    rw [wp_bind]
    apply wp_prepareSession (hstopped session)
    intro prepared
    rw [wp_bind]
    apply wp_startEventMonitor (hstopped session)
    exact hok ⟨prepared, session⟩

/-! ## Every outcome -/

/-- Every reply is possible, and the calls are kept. -/
abbrev anything : Environment Record SetupCall Reply := recording fun _ _ => True

lemma outcome_marks {α : Type} {p : Program SetupCall Reply α} {a : α} {log : Record}
    (h : p.Outcome anything [] a log) : p.Outcome marking [] a (marks log) := by
  apply Program.Outcome.map marks _ h
  rintro log c reply _ ⟨-, rfl⟩
  exact marks_append log c reply

lemma cleaned_nil : Cleaned {} [] := ⟨by simp, by simp⟩

lemma cleaned_stopped (session : ℕ) : Cleaned {} [.created session, .stopped session] :=
  ⟨by simp, by simp⟩

lemma cleaned_withdrawn (session client : ℕ) :
    Cleaned {} [.created session, .attached client, .stopped session, .released client] :=
  ⟨by simp, by simp⟩

lemma cleaned_dropped (session client : ℕ) :
    Cleaned {} [.created session, .attached client, .released client, .stopped session] :=
  ⟨by simp, by simp⟩

/-- The result of a setup whose calls are answered by `replies`, and its calls. -/
def played {ε α : Type} (replies : (c : SetupCall) → c.Reply) (m : Setup ε α) :
    Except ε α × Record :=
  let out := (m ()).exec (Service.recorded fun _ => replies) []
  (out.1.1, out.2)

lemma outcome_played {ε α : Type} (replies : (c : SetupCall) → c.Reply) (m : Setup ε α) :
    (m ()).Outcome anything [] ((played replies m).1, ()) (played replies m).2 :=
  Program.exec_outcome id (fun _ _ => ⟨trivial, rfl⟩) (m ()) []

def television : DeviceInfo where
  backendId := "chromiacast"
  deviceId := "device-1"
  displayName := "Television"
  availability := .Available
  connectionGeneration := 1
  discoveryGeneration := 1
  deviceRevision := 1
  metadata := []

def televisionCapabilities : DeviceCapabilities where
  preparationGeneration := 1
  displayIdentity := ⟨none, .Absent, none, .Absent, none⟩
  modes := [⟨640, 480, 60000, 0⟩]
  videoProfiles := [⟨"h264-high", "h264", 3840, 2160, 60000⟩]
  audioProfiles := []
  features := 0

def plainPreparation : Preparation where
  primitives := Edid.plainPrimitives
  resolve _ _ := .ok ⟨0x43, 0x4b, 0x4d, by decide +kernel⟩
  display _ := ""

def televisionOffer : PreparationRequest where
  preparationGeneration := 1
  candidateModes := [⟨640, 480, 60000, 0⟩]
  videoProfiles := [⟨"h264-high", "h264", 3840, 2160, 60000⟩]
  audioProfiles := []
  requestedFeatures := 0

def televisionSlot : ReservedCastDisplaySlot where
  device := television
  selectionToken := DeviceSelection.fromDevice television
  selection := some television
  output := ⟨⟨[.RootDir, .Normal "card0"], 0⟩, [.RootDir, .Normal "card0"], 226, 0, 40, "Virtual-1",
    .Disconnected⟩
  manager := true

def televisionContext : DisplaySetupContext := ⟨⟨1⟩, plainPreparation, televisionOffer, false⟩

def televisionSetup : Setup DisplaySetupError AddedCastDisplay :=
  runDisplaySetupInner televisionSlot televisionContext

def televisionFactory : BackendPreparedDeviceSessionFactory where
  resolver := ⟨"chromiacast", "device-1"⟩
  sessionId := televisionContext.displayId.toText
  offer := televisionOffer
  preparation := plainPreparation
  audioEnabled := false

/-- Nothing is cancelled and no call fails. -/
def smooth : (c : SetupCall) → c.Reply
  | .isCancelled => false
  | .setStatus _ => ()
  | .acquire _ => .ok 0
  | .newClient _ => .ok ()
  | .resolveDevice _ => .finished (.ok television)
  | .createSession .. => .finished (.ok 0)
  | .awaitSession => .ok 0
  | .prepare .. => .finished (.ok televisionCapabilities)
  | .startEventMonitor _ => .finished (.ok ())
  | .attachMonitor .. => .finished (.ok (.ok ()))
  | .joinAttach _ => .ok (.ok ())
  | .detachMonitor _ => .ok ()
  | .socketPaths => .ok ()
  | .spawnKernel .. => .ok ()
  | .stop .. => .ok ()

/-- The blocking task panics. -/
def attachTaskPanics : (c : SetupCall) → c.Reply
  | .attachMonitor .. => .finished (.error "task panicked")
  | c => smooth c

/-- The kernel actor cannot be spawned. -/
def kernelRefuses : (c : SetupCall) → c.Reply
  | .spawnKernel .. => .error "query connector CEC capabilities"
  | c => smooth c

/-- A setup leaves nothing behind exactly if the task that attaches its monitor does not
fail; making a replacement session never leaves anything behind. -/
theorem nothing_abandoned_iff (slot : ReservedCastDisplaySlot) (context : DisplaySetupContext)
    (factory : BackendPreparedDeviceSessionFactory) (device : DeviceInfo)
    (sessionGeneration : NonZeroU64) :
    (∀ result log, (runDisplaySetupInner slot context ()).Outcome anything [] (result, ()) log →
        (Cleaned (keptBy kept result) (marks log) ↔ .lost ∉ marks log)) ∧
      ∀ result log, (factory.createPreparedSession device sessionGeneration ()).Outcome anything []
            (result, ()) log →
          Cleaned (keptBy PreparedDeviceSession.kept result) (marks log) := by
  constructor
  · intro result log hout
    have hwp : (runDisplaySetupInner slot context).wp marking () []
        (fun added _ l => Cleaned added.kept l ↔ .lost ∉ l)
        (fun _ _ l => Cleaned {} l ↔ .lost ∉ l) := by
      apply wp_runDisplaySetupInner
      · exact iff_of_true cleaned_nil (by simp)
      · exact fun session => iff_of_true (cleaned_stopped session) (by simp)
      · refine fun session => iff_of_false (fun h => ?_) (by simp)
        simpa using h.sessions session (by simp)
      · exact fun session client => iff_of_true (cleaned_withdrawn session client) (by simp)
      · exact fun session client => iff_of_true (cleaned_dropped session client) (by simp)
      · intro session client added hkept
        exact iff_of_true (hkept ▸ ⟨by simp, by simp⟩) (by simp)
    have hresult := (Program.wp_iff_outcome _ _ _ _).1 hwp _ _ (outcome_marks hout)
    cases result with
    | ok added => exact hresult
    | error e => exact hresult
  · intro result log hout
    have hwp : (factory.createPreparedSession device sessionGeneration).wp marking () []
        (fun prepared _ l => Cleaned prepared.kept l) (fun _ _ l => Cleaned {} l) := by
      apply wp_createPreparedSession cleaned_nil cleaned_stopped
      intro prepared
      exact ⟨by simp [PreparedDeviceSession.kept], by simp⟩
    have hresult := (Program.wp_iff_outcome _ _ _ _).1 hwp _ _ (outcome_marks hout)
    cases result with
    | ok prepared => exact hresult
    | error e => exact hresult

/-- The kernel actor of a setup is refused, and a replacement is made. -/
theorem nothing_abandoned_iff_refused :
    (∃ result log,
      (televisionSetup ()).Outcome anything [] (result, ()) log ∧
        .lost ∉ marks log ∧ Cleaned (keptBy kept result) (marks log)) ∧
      ∃ result log,
        (televisionFactory.createPreparedSession television 2 ()).Outcome anything []
            (result, ()) log ∧
          Cleaned (keptBy PreparedDeviceSession.kept result) (marks log) := by
  have hmarks : .lost ∉ marks (played kernelRefuses televisionSetup).2 := by decide +kernel
  have hsetup := outcome_played kernelRefuses televisionSetup
  have hfactory := outcome_played smooth (televisionFactory.createPreparedSession television 2)
  obtain ⟨hiff, hcleaned⟩ := nothing_abandoned_iff _ _ televisionFactory television 2
  exact ⟨⟨_, _, hsetup, hmarks, (hiff _ _ hsetup).2 hmarks⟩,
    ⟨_, _, hfactory, hcleaned _ _ hfactory⟩⟩

/-- The session of a setup whose attaching task panics is neither returned nor stopped. -/
theorem session_abandoned :
    ∃ slot context result log,
      (runDisplaySetupInner slot context ()).Outcome anything [] (result, ()) log ∧
        keptBy kept result = {} ∧ .created 0 ∈ marks log ∧
        .stopped 0 ∉ marks log ∧ ¬ Cleaned (keptBy kept result) (marks log) := by
  obtain ⟨hkept, hmarks⟩ :
      keptBy kept (played attachTaskPanics televisionSetup).1 = {} ∧
        marks (played attachTaskPanics televisionSetup).2 = [.created 0, .lost] := by
    decide +kernel
  refine ⟨_, _, _, _, outcome_played attachTaskPanics televisionSetup, hkept, ?_⟩
  rw [hkept, hmarks]
  refine ⟨by simp, by simp, fun h => ?_⟩
  simpa using h.sessions 0 (by simp)

end Pronk.DisplaySetup
