import Pronk.Actor.Reports

/-!
# Revocations and CEC transmits

The main loop accounts for every notice of a batch it dispatches: a revocation is
published and a transmit is handled, in order. An error that ends the loop cuts off
the rest of the batch, so what is dispatched before a notice must not fail. The reads
of a teardown record frames and drop everything else, and a read that fails drops
what it has decoded, so a notice that one of them meets is lost.
-/
namespace Pronk.Actor
open CastKms Capture Interaction Method Media Rehearsal CecTracker Logs Gives
open CastKmsEvent (revoked?)

/-- The events of a batch that the main loop dispatched. -/
def Happening.dispatched? : Happening → List CastKmsEvent
  | .dispatched events => events
  | _ => []

/-- The events that were read, whoever read them and whatever became of them. -/
def Happening.read? (happening : Happening) : List CastKmsEvent :=
  happening.dispatched? ++ happening.lost?

/-- The publication of a revocation. -/
def Happening.isRevoked : Happening → Bool
  | .published .Revoked => true
  | _ => false

/-- The transmit that was handled. -/
def Happening.transmit? : Happening → Option CecTransmitEvent
  | .cecTransmit event => some event
  | _ => none

open Happening (read?)

/-- Of the events that the loop dispatched, exactly the notices of `pending` were
not handled yet. -/
structure Owes (pending : List CastKmsEvent) (trace : List Happening) : Prop where
  revocations : ((trace.flatMap Happening.dispatched?).filterMap revoked?).length =
    trace.countP Happening.isRevoked + (pending.filterMap revoked?).length
  transmits : (trace.flatMap Happening.dispatched?).filterMap CastKmsEvent.transmit? =
    trace.filterMap Happening.transmit? ++ pending.filterMap CastKmsEvent.transmit?

namespace Owes

variable {pending rest : List CastKmsEvent} {trace : List Happening}

attribute [local simp] Happening.dispatched? Happening.isRevoked Happening.transmit?
  revoked? CastKmsEvent.transmit? List.filterMap_cons

lemma empty : Owes [] [] := ⟨rfl, rfl⟩

lemma plain (h : Owes pending trace) {happening : Happening} (hp : happening.plain = true) :
    Owes pending (trace ++ [happening]) := by
  obtain ⟨hr, ht⟩ := h
  cases happening with
  | dispatched => simp [Happening.plain] at hp
  | cecTransmit => simp [Happening.plain] at hp
  | published event =>
    cases event with
    | Revoked => simp [Happening.plain] at hp
    | _ => constructor <;> simpa
  | _ => constructor <;> simpa

lemma dispatch (h : Owes [] trace) (batch : List CastKmsEvent) :
    Owes batch (trace ++ [.dispatched batch]) := by
  obtain ⟨hr, ht⟩ := h
  constructor
  · simpa using hr
  · simpa using ht

lemma revoked {event : GrantRevokedEvent} (h : Owes (.GrantRevoked event :: rest) trace) :
    Owes rest (trace ++ [.published .Revoked]) := by
  obtain ⟨hr, ht⟩ := h
  constructor
  · simp at hr ⊢
    omega
  · simpa using ht

lemma transmitted {event : CecTransmitEvent} (h : Owes (.CecTransmit event :: rest) trace) :
    Owes rest (trace ++ [.cecTransmit event]) := by
  obtain ⟨hr, ht⟩ := h
  constructor
  · simpa using hr
  · simpa using ht

/-- An event that is no notice leaves nothing to account for. -/
lemma skip {event : CastKmsEvent} (h : Owes (event :: rest) trace)
    (hr : event.revoked? = none) (ht : event.transmit? = none) : Owes rest trace := by
  obtain ⟨hrevocations, htransmits⟩ := h
  constructor
  · simpa [-revoked?, hr] using hrevocations
  · simpa [-CastKmsEvent.transmit?, ht] using htransmits

end Owes

/-- What the loop still owes in a state. -/
abbrev Owing (pending : List CastKmsEvent) : ActorState → Unit → Prop :=
  OnTrace fun trace _ => Owes pending trace

instance (pending : List CastKmsEvent) : Steady (Owing pending) :=
  ⟨fun _ _ _ hp h => h.plain hp, fun _ _ _ h => h⟩

/-- What the kernel answers while it keeps the grant of the lease: it describes this grant, it
has stopped a stream or does not know it, and it takes the state of the CEC transport. -/
def Granted (lease : GrantLease) : (c : Ioctl) → c.Reply → Prop
  | .getGrant, reply => ∃ query grant, reply = .ok query ∧ lease.validateGrant query = .ok grant
  | .captureStop _, reply => reply = .ok () ∨ reply = .error .ENOENT
  | .cecSetTransportState _, reply => reply = .ok ()
  | _, _ => True

/-- Nothing is assumed of the replies of PipeWire, of the event reads and of other ioctls. -/
def granting (lease : GrantLease) : Environment Unit ActorCall ActorCall.Reply
  | _, .ioctl _ c, reply, _ => Granted lease c reply
  | _, _, _, _ => True

/-- An event that cannot end the loop, since there is no generation that could fail. -/
def Harmless (s : ActorState) : CastKmsEvent → Prop
  | .CaptureFrame _ => s.active = none
  | .GrantState _ => False
  | .GrantRevoked _ => s.active = none
  | .CecTransmit _ => False
  | .Unknown _ => True

/-- A revocation or a transmit. -/
def CastKmsEvent.isNotice (event : CastKmsEvent) : Bool :=
  event.revoked?.isSome || event.transmit?.isSome

/-- A transmit finds the bridge, and what is dispatched before a notice cannot end the loop. -/
structure Orderly (s : ActorState) (event : CastKmsEvent) (rest : List CastKmsEvent) : Prop where
  bridge : event.transmit?.isSome → s.cecBridge.isSome
  harmless : (∃ e ∈ rest, CastKmsEvent.isNotice e) → Harmless s event

section Dispatch

variable {lease : GrantLease} {event : CastKmsEvent} {rest : List CastKmsEvent} {s : ActorState}
  {w : Unit}

lemma Logs.gives {I : ActorState → Unit → Prop} {α : Type} {m : ActorM α} [hm : Logs I m]
    {ok : α → ActorState → Unit → Prop} (hgives : m.Gives (granting lease) s w ok) (h : I s w) :
    m.Gives (granting lease) s w fun a s' w' => ok a s' w' ∧ I s' w' := by
  exact wp_mono (wp_and hgives (wp_of_anyReply (hm.wp s w h)))
    (fun _ _ _ h' => h') fun _ _ _ h' => h'.1

lemma Owing.keeps {m : ActorM Unit} [hm : Logs (Owing rest) m] (h : Owing rest s w) :
    m.wp (granting lease) s w (fun _ => Owing rest) fun _ => Owing rest :=
  wp_of_anyReply (hm.wp s w h)

/-- The same, for the client. -/
abbrev grantor (lease : GrantLease) : Environment Unit Ioctl Ioctl.Reply :=
  fun _ c reply _ => Granted lease c reply

lemma setCecTransportOnline_gives {t : CecTracker} (hbound : t.isBound = true) :
    (lease.setCecTransportOnline true).Gives (grantor lease) t w fun _ _ _ => True := by
  obtain ⟨binding, hbinding⟩ := Option.isSome_iff_exists.1 hbound
  by_cases honline : binding.online = true <;>
    simp [GrantLease.setCecTransportOnline, setOnline, requireBinding,
      hbinding, issue, Granted, Except.mapError]

lemma recordAuthoritySuspended_gives {t : CecTracker} (hbound : t.isBound = true) :
    recordAuthoritySuspended.Gives (grantor lease) t w fun _ _ _ => True := by
  obtain ⟨binding, hbinding⟩ := Option.isSome_iff_exists.1 hbound
  simp [recordAuthoritySuspended, requireBinding, hbinding]

lemma cec_gives {α : Type} {m : CecM α} {operation : String} {quote : CastKmsError → Part}
    (hm : m.Gives (grantor lease) s.cec w fun _ _ _ => True) :
    (do
      let reply ← cec m
      orFail operation quote reply).Gives (granting lease) s w
        fun _ s' _ => ∃ t, s' = { s with cec := t } :=
  Then.of ((wp_cec ..).2 (hm.mono fun _ t _ _ => (wp_orFail ..).2 ⟨nofun, fun _ _ => ⟨t, rfl⟩⟩))

lemma synchronizeCecAuthority_gives (authorityActive : Bool) (h : UnderLease lease s w) :
    (synchronizeCecAuthority authorityActive).Gives (granting lease) s w
      fun _ s' _ => s'.cecBridge = s.cecBridge ∧ s'.active = s.active := by
  refine Then.get ((wp_ite ..).2 ⟨fun _ => ⟨rfl, rfl⟩, fun hbound => ?_⟩)
  rw [not_not] at hbound
  refine (wp_ite ..).2 ⟨fun _ => ?_, fun _ => Then.modify ?_⟩
  · rw [show s.client.lease = lease from h]
    refine mono (cec_gives (setCecTransportOnline_gives hbound)) ?_
    rintro _ _ _ ⟨t, rfl⟩
    exact ⟨rfl, rfl⟩
  · refine mono (cec_gives (s := { s with pendingCecControl := none })
      (recordAuthoritySuspended_gives hbound)) ?_
    rintro _ _ _ ⟨t, rfl⟩
    exact ⟨rfl, rfl⟩

lemma queryGrant_gives {S : Type} {s : S} :
    (lease.queryGrant : QueryM S GrantInfo).Gives (grantor lease) s w fun _ s' _ => s' = s := by
  refine Then.request ?_
  rintro _ w' ⟨query, grant, rfl, hgrant⟩
  simp [hgrant, Except.mapError]

lemma stopCapture_gives {c : CaptureClient} (hactive : c.capture.active.isSome) :
    CaptureClient.stopCapture.Gives (grantor lease) c w fun _ _ _ => True := by
  obtain ⟨stream, hstream⟩ := Option.isSome_iff_exists.1 hactive
  refine Then.get (Then.okOr (by simp [hstream]) fun _ _ => Then.request ?_)
  rintro _ _ (rfl | rfl) <;> exact trivial

lemma retireInvalidatedCapture_gives {c : CaptureClient} (hactive : c.capture.active.isSome) :
    CaptureClient.retireInvalidatedCapture.Gives (grantor lease) c w fun _ _ _ => True := by
  obtain ⟨stream, hstream⟩ := Option.isSome_iff_exists.1 hactive
  exact Then.get (Then.okOr (by simp [hstream]) fun _ _ => trivial)

lemma captureReconciled_gives {c : CaptureClient} (h : c.lease = lease) :
    (CaptureClient.reconcileGrantState .Query).Gives (grantor lease) c w fun _ _ _ => True := by
  subst h
  refine Then.get (Then.lift nofun fun _ _ => Then.of (Then.get (Then.request ?_)))
  rintro _ w' ⟨query, grant, rfl, hgrant⟩
  refine Then.lift nofun fun _ hquery => ?_
  obtain rfl := Except.ok.inj hquery
  rw [hgrant]
  refine (wp_lift_ok (E := grantor c.lease) ..).2 ?_
  dsimp only
  split
  · rename_i hstream
    have hactive : c.capture.active.isSome := by simp [hstream]
    refine (wp_ite ..).2 ⟨fun _ => (wp_ite ..).2 ⟨fun _ => ?_, fun _ => ?_⟩,
      fun _ => trivial⟩
    · exact Then.of ((retireInvalidatedCapture_gives hactive).mono fun _ _ _ _ => trivial)
    · exact Then.of ((stopCapture_gives hactive).mono fun _ _ _ _ => trivial)
  · trivial
  · trivial

lemma reconcileGrantState_gives (operation : String) (h : UnderLease lease s w) :
    (reconcileGrantState operation .Query).Gives (granting lease) s w
      fun _ s' _ => s'.cecBridge = s.cecBridge := by
  refine Then.of ((wp_capture ..).2 (mono (captureReconciled_gives h) ?_))
  exact fun _ _ _ _ => Then.of ((wp_orFail ..).2 ⟨nofun, fun _ _ => rfl⟩)

lemma recheckCecAuthority_gives (h : UnderLease lease s w) :
    recheckCecAuthority.Gives (granting lease) s w fun _ s' _ => s'.cecBridge = s.cecBridge := by
  refine Then.get ((wp_when ..).2 ⟨fun _ => ?_, fun _ => rfl⟩)
  rw [show s.client.lease = lease from h]
  refine Then.of ((wp_query ..).2 (queryGrant_gives.mono ?_))
  rintro grant _ w' rfl
  refine Then.of ((wp_orFail ..).2 ⟨nofun, fun grant _ => ?_⟩)
  refine Then.gives (gives (reconcileGrantState_gives _ h) h) ?_
  rintro _ s' w' ⟨hbridge, h'⟩
  refine (wp_when ..).2 ⟨fun _ => ?_, fun _ => hbridge⟩
  exact mono (synchronizeCecAuthority_gives true h') fun _ _ _ hs => hs.1.trans hbridge

/-- The event is accounted for, whether or not its handling fails afterwards. -/
lemma dispatch_accounts (hlease : UnderLease lease s w) (horderly : Orderly s event rest)
    (h : Owing (event :: rest) s w) :
    (dispatch event).wp (granting lease) s w (fun _ => Owing rest) fun _ => Owing rest := by
  cases event with
  | CaptureFrame frame => exact Owing.keeps (m := onCaptureFrame frame) (h.skip rfl rfl)
  | GrantState event => exact Owing.keeps (m := onGrantState event) (h.skip rfl rfl)
  | GrantRevoked event =>
    have hgives := synchronizeCecAuthority_gives false hlease
    refine Then.gives (gives hgives h) fun _ s' w' h' => ?_
    exact Then.of ((wp_note ..).2 (Owing.keeps h'.2.revoked))
  | CecTransmit event =>
    refine Then.gives (gives (recheckCecAuthority_gives hlease) h) ?_
    rintro _ s' w' ⟨hbridge, h'⟩
    refine Then.get (Then.okOr (fun hnone => ?_) fun bridge _ => ?_)
    · simpa [← hbridge, hnone] using horderly.bridge rfl
    · exact Then.of ((wp_note ..).2 (Owing.keeps h'.transmitted))
  | Unknown event => exact h.skip rfl rfl

lemma dispatch_harmless (hlease : UnderLease lease s w) (h : Harmless s event) :
    (dispatch event).Gives (granting lease) s w fun _ _ _ => True := by
  cases event with
  | CaptureFrame frame => exact mono (dispatch_unexpected h) fun _ _ _ _ => trivial
  | GrantState event => exact h.elim
  | GrantRevoked event =>
    refine Then.gives (synchronizeCecAuthority_gives false hlease) ?_
    rintro _ s' w' ⟨-, hactive⟩
    refine Then.of ((wp_note ..).2 (Then.get ?_))
    simp [hactive, show s.active = none from h]
  | CecTransmit event => exact h.elim
  | Unknown event => trivial

end Dispatch

section Loop

variable {lease : GrantLease} {s : ActorState} {w : Unit}

instance note_leased (happening : Happening) : Logs (UnderLease lease) (note happening) :=
  .modify fun _ _ h => h

instance dispatch_leased (event : CastKmsEvent) : Logs (UnderLease lease) (dispatch event) := by
  cases event with
  | GrantRevoked event => unfold dispatch onGrantRevoked publish; infer_instance
  | CecTransmit event => unfold dispatch onCecTransmit handleCecTransmit; infer_instance
  | _ => unfold dispatch; infer_instance

instance takeBatch_leased : Logs (UnderLease lease) takeBatch := by
  unfold takeBatch
  infer_instance

/-- The lease is kept, and of the notices that were dispatched those of the batch at hand are
still owed. -/
structure Accounted (lease : GrantLease) (s : ActorState) (events : List CastKmsEvent) : Prop where
  leased : s.client.lease = lease
  owes : Owes events s.trace

lemma Accounted.takeBatch (h : Accounted lease s []) :
    takeBatch.wp (granting lease) s w (fun events s' _ => Accounted lease s' events)
      fun _ s' _ => Accounted lease s' [] := by
  have howes : Actor.takeBatch.wp anyReply s w (fun events => Owing events) fun _ => Owing [] := by
    refine step (I := Owing []) h.owes (fun _ _ _ h' => h') fun _ _ _ h₁ => ?_
    refine step h₁ (fun _ _ _ h' => h') fun _ _ _ h₂ => ?_
    exact step h₂ (fun _ _ _ h' => h') fun events _ _ h₃ => Owes.dispatch h₃ events
  have hleased : Logs (UnderLease lease) Actor.takeBatch := inferInstance
  exact wp_mono (wp_of_anyReply (wp_and (hleased.wp s w h.leased) howes))
    (fun _ _ _ h' => ⟨h'.1, h'.2⟩) fun _ _ _ h' => ⟨h'.1, h'.2⟩

lemma Owes.done {events : List CastKmsEvent} {trace : List Happening} (h : Owes events trace)
    (hevents : ¬ ∃ e ∈ events, CastKmsEvent.isNotice e) : Owes [] trace := by
  obtain ⟨hrevocations, htransmits⟩ := h
  simp only [CastKmsEvent.isNotice, Bool.or_eq_true, Option.isSome_iff_ne_none, not_exists, not_and,
    not_or, not_not] at hevents
  rw [List.filterMap_eq_nil_iff.2 fun e he => (hevents e he).1] at hrevocations
  rw [List.filterMap_eq_nil_iff.2 fun e he => (hevents e he).2] at htransmits
  exact ⟨hrevocations, htransmits⟩

lemma Accounted.dispatch {event : CastKmsEvent} {rest : List CastKmsEvent}
    (horderly : Orderly s event rest) (h : Accounted lease s (event :: rest)) :
    (dispatch event).wp (granting lease) s w (fun _ s' _ => Accounted lease s' rest)
      fun _ s' _ => Accounted lease s' [] := by
  have hleased : Logs (UnderLease lease) (Actor.dispatch event) := inferInstance
  have hboth := wp_and (wp_of_anyReply (hleased.wp s w h.leased))
    (dispatch_accounts h.leased horderly h.owes)
  by_cases hnotice : ∃ e ∈ rest, CastKmsEvent.isNotice e
  · have hgives : (Actor.dispatch event).Gives (granting lease) s w fun _ _ _ => True :=
      dispatch_harmless h.leased (horderly.harmless hnotice)
    exact wp_mono (wp_and hgives hboth) (fun _ _ _ h' => ⟨h'.2.1, h'.2.2⟩)
      fun _ _ _ h' => h'.1.elim
  · exact wp_mono hboth (fun _ _ _ h' => ⟨h'.1, h'.2⟩)
      fun _ _ _ h' => ⟨h'.1, h'.2.done hnotice⟩

end Loop

/-- Along the loop the notices that were dispatched are accounted for. -/
theorem LoopReach.accounted {config : CastKmsActorConfig} {lease : GrantLease} {s₀ s : ActorState}
    {events : List CastKmsEvent} {w : Unit}
    (h : LoopReach config (granting lease) Orderly s₀ () s events w) (h₀ : Accounted lease s₀ []) :
    Accounted lease s events := by
  refine h.invariant (I := fun s events _ => Accounted lease s events) h₀
    (fun _ h' => ⟨h'.1, h'.2⟩) ?_ Accounted.takeBatch Accounted.dispatch
  intro s w branch hbranch h'
  have hleased := (Branch.body_logs (I := UnderLease lease) config hbranch).wp s w h'.leased
  have howes := (Branch.body_logs (I := Owing []) config hbranch).wp s w h'.owes
  exact wp_mono (wp_of_anyReply (wp_and hleased howes))
    (fun _ _ _ h' => ⟨h'.1, h'.2⟩) fun _ _ _ h' => ⟨h'.1, h'.2⟩

lemma filterMap_read {trace : List Happening} {α : Type} {f : CastKmsEvent → Option α}
    (h : ∀ happening ∈ trace, ∀ e ∈ happening.lost?, f e = none) :
    (trace.flatMap read?).filterMap f =
      (trace.flatMap Happening.dispatched?).filterMap f := by
  induction trace with
  | nil => rfl
  | cons happening rest ih =>
    have hrest := ih fun other hother => h other (List.mem_cons_of_mem _ hother)
    have hhead := List.filterMap_eq_nil_iff.2 (h happening List.mem_cons_self)
    simp [read?, List.filterMap_append, hrest, hhead]

/-- If no read loses a notice and what is dispatched before a notice cannot end the loop, every
revocation that was read is published and every transmit is handled, in the order in which
they were read, up to those of the batch at hand. -/
theorem notices_handled (config : CastKmsActorConfig) (lease : GrantLease) (cec : CecTracker)
    (current : KernelDisplayObservation) {s : ActorState} {events : List CastKmsEvent} {w : Unit}
    (h : LoopReach config (granting lease) Orderly
      (ActorState.initial config lease cec current) () s events w)
    (hlost : ∀ happening ∈ s.trace, ∀ e ∈ happening.lost?,
      e.revoked? = none ∧ e.transmit? = none) :
    ((s.trace.flatMap read?).filterMap revoked?).length =
        s.trace.countP Happening.isRevoked + (events.filterMap revoked?).length ∧
      (s.trace.flatMap read?).filterMap CastKmsEvent.transmit? =
        s.trace.filterMap Happening.transmit? ++ events.filterMap CastKmsEvent.transmit? := by
  have howes := (h.accounted ⟨rfl, .empty⟩).owes
  rw [filterMap_read fun happening hh e he => (hlost happening hh e he).1,
    filterMap_read fun happening hh e he => (hlost happening hh e he).2]
  exact ⟨howes.revocations, howes.transmits⟩

def cecConfig : CastKmsActorConfig := { sampleConfig with deviceControl := true }

def boundCec : CecTracker where
  binding := some ⟨1, 1, 1, 0, 0, 0, true⟩

def cecState : ActorState :=
  ActorState.initial cecConfig sampleGrant boundCec ⟨⟨.Attached, none⟩, .Active⟩

/-- A transmit of the bound transport. -/
def sampleTransmit : CecTransmitEvent :=
  ⟨1, 1, 1, 5, 1, 0, 1, 0, 2, #v[0x04, 0x36, 0, 0, 0, 0, 0, 0, 0, 0, 0, 0, 0, 0, 0, 0]⟩

def sampleNotices : List CastKmsEvent := [.GrantRevoked ⟨1, 0, 0⟩, .CecTransmit sampleTransmit]

lemma granted_ioctl (masterless : Bool) (v : Rehearsal) (c : Ioctl) :
    Granted sampleGrant c (ioctl masterless v c).1 := by
  cases c
  case getGrant => cases masterless <;> exact ⟨_, _, rfl, rfl⟩
  case captureStop streamId =>
    by_cases h : v.world.stream = some streamId
    · rw [ioctl, if_pos h]
      exact .inl rfl
    · rw [ioctl, if_neg h]
      exact .inr rfl
  all_goals first
    | exact trivial
    | exact rfl

lemma granting_script (prompt masterless : Bool) (v : Rehearsal) (c : ActorCall) :
    granting sampleGrant () c (script prompt masterless v c).1 () := by
  cases c
  case ioctl caller c => cases caller <;> exact granted_ioctl masterless _ c
  all_goals exact trivial

/-- The loop reads the notices in one batch, without a generation. -/
def noticesRead : (Except KernelDisplayError (List CastKmsEvent) × ActorState) × Rehearsal :=
  (takeBatch cecState).exec (script false false) { world := { events := sampleNotices } }

/-- It publishes the revocation. -/
def revocationDispatched : (Except KernelDisplayError Unit × ActorState) × Rehearsal :=
  (dispatch (.GrantRevoked ⟨1, 0, 0⟩) noticesRead.1.2).exec (script false false)
    noticesRead.2

/-- It handles the transmit. -/
def transmitDispatched : (Except KernelDisplayError Unit × ActorState) × Rehearsal :=
  (dispatch (.CecTransmit sampleTransmit) revocationDispatched.1.2).exec
    (script false false) revocationDispatched.2

lemma transmitDispatched_reach :
    LoopReach cecConfig (granting sampleGrant) Orderly cecState () transmitDispatched.1.2
      [.Unknown ⟨0, 0⟩] () := by
  have hread : noticesRead.1.1 = .ok (sampleNotices ++ [.Unknown ⟨0, 0⟩]) ∧
      noticesRead.1.2.active = none := by
    decide +kernel
  have hrevoked : revocationDispatched.1.1 = .ok () ∧
      revocationDispatched.1.2.cecBridge.isSome = true := by
    decide +kernel
  have hbatch : LoopReach cecConfig (granting sampleGrant) Orderly cecState () noticesRead.1.2
      (sampleNotices ++ [.Unknown ⟨0, 0⟩]) () :=
    .takes (script false false) (fun _ => ()) (granting_script false false)
      { world := { events := sampleNotices } } .init rfl rfl hread.1
  have hpublished : LoopReach cecConfig (granting sampleGrant) Orderly cecState ()
      revocationDispatched.1.2 [.CecTransmit sampleTransmit, .Unknown ⟨0, 0⟩] () :=
    .dispatches (script false false) (fun _ => ()) (granting_script false false)
      noticesRead.2 hbatch ⟨nofun, fun _ => hread.2⟩ rfl hrevoked.1
  exact .dispatches (script false false) (fun _ => ()) (granting_script false false)
    revocationDispatched.2 hpublished ⟨fun _ => hrevoked.2, fun h => absurd h (by decide)⟩
    rfl (by decide +kernel)

theorem notices_handled_dispatched :
    ((transmitDispatched.1.2.trace.flatMap read?).filterMap
        revoked?).length = 1 ∧
      transmitDispatched.1.2.trace.countP Happening.isRevoked = 1 ∧
      (transmitDispatched.1.2.trace.flatMap read?).filterMap CastKmsEvent.transmit? =
        transmitDispatched.1.2.trace.filterMap Happening.transmit? ∧
      sampleTransmit ∈ transmitDispatched.1.2.trace.filterMap Happening.transmit? := by
  have hcounts : transmitDispatched.1.2.trace.countP Happening.isRevoked = 1 ∧
      sampleTransmit ∈ transmitDispatched.1.2.trace.filterMap Happening.transmit? ∧
      ∀ happening ∈ transmitDispatched.1.2.trace, happening.lost? = [] := by
    decide +kernel
  obtain ⟨hrevoked, htransmit, hlost⟩ := hcounts
  have h := notices_handled cecConfig sampleGrant boundCec ⟨⟨.Attached, none⟩, .Active⟩
    transmitDispatched_reach fun happening hh e he => by simp [hlost happening hh] at he
  rw [hrevoked] at h
  exact ⟨h.1, hrevoked, h.2.trans (List.append_nil _), htransmit⟩

/-- A request is in flight when the grant is revoked, and a stop reads the notices
together with the request's frame. -/
def drainedRun : ActorState × Rehearsal :=
  let started := startedRun cecConfig cecState false
  (actorService cecConfig).play (script false false) [.stop sampleGeneration] started.1
    { started.2 with world := { started.2.world with stream := none, events := sampleNotices } }

/-- The stop succeeds and the loop goes on, but neither notice was handled. -/
theorem notices_lost_in_drain :
    ∃ s, (actorService cecConfig).Reach anyReply cecState () s () ∧ s.returned = none ∧
      s.cec.isBound = true ∧ .answered (.stop (.ok ())) ∈ s.trace ∧
      ((s.trace.flatMap read?).filterMap revoked?).length = 1 ∧
      s.trace.countP Happening.isRevoked = 0 ∧
      (s.trace.flatMap read?).filterMap CastKmsEvent.transmit? = [sampleTransmit] ∧
      s.trace.filterMap Happening.transmit? = [] := by
  refine ⟨drainedRun.1, ?_, by decide +kernel⟩
  exact Service.Reach.play (fun _ => ()) (fun _ _ => trivial) _
    (Service.Reach.play (fun _ => ()) (fun _ _ => trivial) _ .init)

end Pronk.Actor
