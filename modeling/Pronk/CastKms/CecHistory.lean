import Pronk.CastKms.Cec

/-!
# Histories of the CEC operations

The CEC operations of a client are one service, so that a run is any sequence of calls with
any kernel replies. What a call does to the tracker depends only on the event that it
amounts to.
-/
namespace Pronk.CastKms
open Interaction Capture GrantLease

/-- The operations on the transport. -/
inductive CecOp where
  | queryCecCapabilities
  | bindCecTransport (capabilities : CecCapabilities)
  | setCecTransportOnline (online : Bool)
  | recordCecTransmit (event : CecTransmitEvent)
  | completeCecTransmit (event : CecTransmitEvent) (completion : CecCompletion)
  | recordCecAuthoritySuspended
  | injectCecMessage (message : List UInt8)
  | unbindCecTransport
  | detachMonitor

namespace CecOp

def Ret : CecOp → Type
  | .queryCecCapabilities => Except CastKmsError (Option CecCapabilities)
  | .bindCecTransport _ => Except CastKmsError CecTransportBinding
  | .recordCecTransmit _ => Except CastKmsError CecTransmitAdmission
  | _ => Except CastKmsError Unit

def run (lease : GrantLease) :
    (op : CecOp) → CecTracker → Program Ioctl Ioctl.Reply (op.Ret × CecTracker)
  | .queryCecCapabilities => lease.queryCecCapabilities
  | .bindCecTransport capabilities => lease.bindCecTransport capabilities
  | .setCecTransportOnline online => lease.setCecTransportOnline online
  | .recordCecTransmit event => lease.recordCecTransmit event
  | .completeCecTransmit event completion => lease.completeCecTransmit event completion
  | .recordCecAuthoritySuspended => CecTracker.recordAuthoritySuspended
  | .injectCecMessage message => lease.injectCecMessage message
  | .unbindCecTransport => lease.unbindCecTransport
  | .detachMonitor => lease.detachMonitor

end CecOp

/-- The operations in any order. -/
def cecService (lease : GrantLease) : Service Ioctl Ioctl.Reply CecTracker where
  Op := CecOp
  Ret := CecOp.Ret
  run := CecOp.run lease

/-- What a finished call means for the transport. -/
inductive CecEvent where
  | bound (binding : CecTransportBinding)
  | online
  | offline
  | accepted (transmit : CecTransmitEvent)
  | completed (transmit : CecTransmitEvent)
  | suspended
  | unbound
  | silent

/-- A call that fails, and a transmit that is stale, mean nothing. -/
def CecOp.event : (op : CecOp) → op.Ret → CecEvent
  | .bindCecTransport _, .ok binding => .bound binding
  | .setCecTransportOnline true, .ok _ => .online
  | .setCecTransportOnline false, .ok _ => .offline
  | .recordCecTransmit transmit, .ok .Accepted => .accepted transmit
  | .completeCecTransmit transmit _, .ok _ => .completed transmit
  | .recordCecAuthoritySuspended, .ok _ => .suspended
  | .unbindCecTransport, .ok _ => .unbound
  | _, _ => .silent

/-- The identity of a transmit. -/
def CecTransmitEvent.key (transmit : CecTransmitEvent) : UInt64 × UInt64 :=
  (transmit.transportGeneration, transmit.cookie)

def PendingTransmit.key (pending : PendingTransmit) : UInt64 × UInt64 :=
  (pending.transportGeneration.get, pending.cookie.get)

namespace CecTracker

/-- The tracker before and after an event. -/
def Step (t : CecTracker) : CecEvent → CecTracker → Prop
  | .bound binding, t' => t.binding = none ∧ t' = { t with binding := some binding }
  | .online, t' => ∃ binding, t.binding = some binding ∧
      (binding.online = true ∧ t' = t ∨ binding.online = false ∧
        t' = { t with binding := some { binding with online := true },
                      requiresStateAdvance := true })
  | .offline, t' => ∃ binding, t.binding = some binding ∧
      (binding.online = false ∧ t' = t ∨ binding.online = true ∧ t.pending = none ∧
        t' = { t with binding := some { binding with online := false },
                      requiresStateAdvance := true })
  | .accepted transmit, t' => ∃ binding stateGeneration pending,
      t.binding = some binding ∧ binding.online = true ∧ t.pending = none ∧
      pending.key = CecTransmitEvent.key transmit ∧
      pending.transportGeneration = binding.transportGeneration ∧
      stateGeneration.get = transmit.stateGeneration ∧
      binding.stateGeneration.get ≤ stateGeneration.get ∧
      (t.requiresStateAdvance = true →
        binding.stateGeneration.get < stateGeneration.get) ∧
      t' = { binding := some { binding with stateGeneration }, pending := some pending,
             requiresStateAdvance := false }
  | .completed transmit, t' => ∃ pending, t.pending = some pending ∧
      pending.key = CecTransmitEvent.key transmit ∧ t' = { t with pending := none }
  | .suspended, t' => ∃ binding, t.binding = some binding ∧
      t' = { binding := some { binding with online := false }, pending := none,
             requiresStateAdvance := true }
  | .unbound, t' => t.pending = none ∧
      t' = { t with binding := none, requiresStateAdvance := false }
  | .silent, t' => t' = t

/-- What may be asked of the kernel. -/
def Asked (t : CecTracker) : Ioctl → Prop
  | .cecTxComplete args => ∃ pending, t.pending = some pending ∧
      pending.key = (args.transportGeneration, args.cookie)
  | .detachMonitor _ => t.binding = none
  | _ => True

@[simp] lemma step_silent {t t' : CecTracker} : t.Step .silent t' ↔ t' = t := Iff.rfl

lemma validateCompletion_eq_ok {t : CecTracker} {transmit : CecTransmitEvent} {u : Unit} :
    t.validateCompletion transmit = .ok u ↔
      ∃ pending, t.pending = some pending ∧ pending.key = CecTransmitEvent.key transmit := by
  unfold validateCompletion
  cases hpending : t.pending with
  | none => simp
  | some pending =>
    simp only [PendingTransmit.key, CecTransmitEvent.key, Option.some.injEq, exists_eq_left',
      Prod.mk.injEq]
    split_ifs with h
    · simp only [false_iff]
      rintro ⟨hgeneration, hcookie⟩
      exact h.elim (· hgeneration) (· hcookie)
    · simpa [not_or] using h

lemma requireBinding_eq_ok {t : CecTracker} {binding : CecTransportBinding} :
    t.requireBinding = .ok binding ↔ t.binding = some binding := by
  unfold requireBinding
  cases t.binding <;> simp

end CecTracker

section Calls

open Method CecTracker

/-- The kernel may reply anything; the calls are recorded. -/
abbrev anyKernel : Environment (List (Exchange Ioctl Ioctl.Reply)) Ioctl Ioctl.Reply :=
  recording fun _ _ => True

/-- A method that fails leaves the tracker alone; otherwise it is one step. Its requests are
those that the tracker allows. -/
def Performs (m : CecM α) (event : α → CecEvent) : Prop :=
  ∀ t, m.wp anyKernel t [] (fun a t' calls => t.Step (event a) t' ∧ ∀ x ∈ calls, t.Asked x.1)
    (fun _ t' calls => t' = t ∧ ∀ x ∈ calls, t.Asked x.1)

variable (lease : GrantLease)

lemma recordAuthoritySuspended_performs :
    Performs recordAuthoritySuspended fun _ => .suspended := by
  intro t
  simp only [recordAuthoritySuspended, wp_bind, wp_get, wp_lift, wp_set, requireBinding_eq_ok,
    List.not_mem_nil, IsEmpty.forall_iff, implies_true, and_true, true_and]
  intro binding hbinding
  exact ⟨binding, hbinding, rfl⟩

lemma recordTransmit_performs (transmit : CecTransmitEvent) :
    Performs (recordTransmit transmit) fun
      | .Accepted => .accepted transmit
      | .Stale => .silent := by
  intro t
  simp only [recordTransmit, wp_bind, wp_get, wp_lift, wp_set, wp_ite, wp_failIf, wp_okOr,
    wp_pure, requireBinding_eq_ok, step_silent, List.not_mem_nil, IsEmpty.forall_iff,
    implies_true, and_true, true_and, not_or, not_not, ne_eq, NonZeroU64.new_eq_some]
  intro binding hbinding honline hidentity stateGeneration hstate hnewer generation hgeneration
    cookie hcookie hpending
  obtain ⟨-, hsame, -⟩ := hidentity
  obtain ⟨hle, hadvance⟩ := hnewer
  refine ⟨binding, stateGeneration, ⟨generation, cookie⟩, hbinding, honline,
    by simpa using hpending, ?_, ?_, hstate, UInt64.not_lt.1 hle, ?_, rfl⟩
  · rw [PendingTransmit.key, CecTransmitEvent.key, hgeneration, hcookie]
  · exact NonZeroU64.ext (hgeneration.trans hsame)
  · intro hrequired
    have hne : binding.stateGeneration ≠ stateGeneration :=
      fun heq => hadvance ⟨hrequired, heq.symm⟩
    exact UInt64.lt_of_le_of_ne (UInt64.not_lt.1 hle) fun heq => hne (NonZeroU64.ext heq)

lemma recordCecTransmit_performs (transmit : CecTransmitEvent) :
    Performs (lease.recordCecTransmit transmit) fun
      | .Accepted => .accepted transmit
      | .Stale => .silent := by
  intro t
  simp only [recordCecTransmit, wp_bind, wp_failIf, List.not_mem_nil,
    IsEmpty.forall_iff, implies_true, and_true, true_and]
  intro _
  exact recordTransmit_performs transmit t

lemma wp_issue {t : CecTracker} {c : Ioctl}
    {ok : c.Reply → CecTracker → List (Exchange Ioctl Ioctl.Reply) → Prop}
    {err : CastKmsError → CecTracker → List (Exchange Ioctl Ioctl.Reply) → Prop}
    (hask : t.Asked c) (hok : ∀ r calls, (∀ x ∈ calls, t.Asked x.1) → ok r t calls) :
    (issue c).wp anyKernel t [] ok err := by
  rw [issue, wp_request]
  rintro r calls ⟨-, rfl⟩
  refine hok r _ ?_
  simpa using hask

lemma completeCecTransmit_performs (transmit : CecTransmitEvent) (completion : CecCompletion) :
    Performs (lease.completeCecTransmit transmit completion) fun _ => .completed transmit := by
  intro t
  simp only [completeCecTransmit, wp_bind, wp_get, wp_lift, requireBinding_eq_ok,
    List.not_mem_nil, IsEmpty.forall_iff, implies_true, and_true, true_and]
  intro _ hvalid binding _
  obtain ⟨pending, hpending, hkey⟩ := validateCompletion_eq_ok.1 hvalid
  refine wp_issue ⟨pending, hpending, hkey⟩ fun r calls hcalls => ?_
  simp only [wp_set, eq_true hcalls, implies_true, and_true, true_and]
  intro _ _
  exact ⟨pending, hpending, hkey, rfl⟩

lemma setCecTransportOnline_performs (online : Bool) :
    Performs (lease.setCecTransportOnline online) fun _ =>
      if online then .online else .offline := by
  intro t
  simp only [setCecTransportOnline, wp_bind, wp_get, wp_lift, requireBinding_eq_ok,
    wp_when, wp_failIf, List.not_mem_nil, IsEmpty.forall_iff, implies_true, and_true, true_and]
  intro binding hbinding
  constructor
  · intro hchange hpending
    refine wp_issue trivial fun r calls hcalls => ?_
    simp only [wp_bind, wp_lift, CecTracker.setOnline, wp_get, wp_failIf, wp_when, wp_set,
      requireBinding_eq_ok, hbinding, Option.some.injEq, forall_eq', eq_true hcalls, implies_true,
      and_true, true_and]
    intro _ _ _
    refine ⟨fun _ => ?_, fun hsame => absurd hchange hsame⟩
    cases online with
    | true => exact ⟨binding, hbinding, .inr ⟨by simpa using hchange, rfl⟩⟩
    | false =>
      have hnone : t.pending = none := by simpa using hpending
      exact ⟨binding, hbinding, .inr ⟨by simpa using hchange, hnone, rfl⟩⟩
  · intro hsame
    have hsame : binding.online = online := not_not.1 hsame
    cases online with
    | true => exact ⟨binding, hbinding, .inl ⟨hsame, rfl⟩⟩
    | false => exact ⟨binding, hbinding, .inl ⟨hsame, rfl⟩⟩

lemma bindCecTransport_performs (capabilities : CecCapabilities) :
    Performs (lease.bindCecTransport capabilities) .bound := by
  intro t
  simp only [bindCecTransport, wp_bind, wp_get, wp_lift, wp_failIf, List.not_mem_nil,
    IsEmpty.forall_iff, implies_true, and_true, true_and]
  intro _ _ hunbound _
  have hnone : t.binding = none := by simpa [isBound] using hunbound
  refine wp_issue trivial fun r calls hcalls => ?_
  simp only [wp_bind, install, wp_get, wp_failIf, wp_set, wp_pure, eq_true hcalls,
    implies_true, and_true, true_and]
  intro _ _ binding _ _
  exact ⟨hnone, rfl⟩

lemma unbindCecTransport_performs :
    Performs lease.unbindCecTransport fun _ => .unbound := by
  intro t
  simp only [unbindCecTransport, wp_bind, wp_get, wp_lift, wp_failIf,
    requireBinding_eq_ok, List.not_mem_nil, IsEmpty.forall_iff, implies_true, and_true, true_and]
  intro binding hbinding _ hpending
  have hnone : t.pending = none := by simpa using hpending
  refine wp_issue trivial fun r calls hcalls => ?_
  simp only [wp_bind, wp_lift, remove, wp_get, wp_failIf, wp_set, eq_true hcalls, implies_true,
    and_true, true_and]
  intro _ _ _ _ _
  exact ⟨hnone, rfl⟩

lemma detachMonitor_performs : Performs lease.detachMonitor fun _ => .silent := by
  intro t
  simp only [detachMonitor, wp_bind, wp_get, wp_lift, wp_failIf, List.not_mem_nil,
    IsEmpty.forall_iff, implies_true, and_true, true_and]
  intro hunbound _ _
  have hnone : t.binding = none := by simpa [isBound] using hunbound
  refine wp_issue hnone fun r calls hcalls => ?_
  simp only [step_silent, eq_true hcalls, implies_true, and_true]

lemma injectCecMessage_performs (message : List UInt8) :
    Performs (lease.injectCecMessage message) fun _ => .silent := by
  intro t
  simp only [injectCecMessage, wp_bind, wp_get, wp_lift, wp_failIf, List.not_mem_nil,
    IsEmpty.forall_iff, implies_true, and_true, true_and]
  intro _ binding _ _
  refine wp_issue trivial fun r calls hcalls => ?_
  simp only [step_silent, eq_true hcalls, implies_true, and_true]

lemma queryCecCapabilities_performs :
    Performs lease.queryCecCapabilities fun _ => .silent := by
  intro t
  simp only [queryCecCapabilities, wp_bind, wp_lift, List.not_mem_nil,
    IsEmpty.forall_iff, implies_true, and_true, true_and]
  intro _ _
  refine wp_issue trivial fun r calls hcalls => ?_
  simp only [step_silent, eq_true hcalls, implies_true, and_true]

/-- Whatever the kernel replies, a call is one step of the tracker. -/
theorem CecOp.run_step (op : CecOp) (t : CecTracker) :
    (op.run lease t).wp anyKernel [] fun out calls =>
      t.Step (op.event out.1) out.2 ∧ ∀ x ∈ calls, t.Asked x.1 := by
  cases op with
  | queryCecCapabilities =>
    exact wp_result (queryCecCapabilities_performs lease t) (fun _ _ _ h => h) fun _ _ _ h => h
  | bindCecTransport capabilities =>
    exact wp_result (bindCecTransport_performs lease capabilities t) (fun _ _ _ h => h)
      fun _ _ _ h => h
  | setCecTransportOnline online =>
    refine wp_result (setCecTransportOnline_performs lease online t) ?_ ?_
    · intro _ _ _ h
      cases online <;> exact h
    · intro _ _ _ h
      cases online <;> exact h
  | recordCecTransmit transmit =>
    refine wp_result (recordCecTransmit_performs lease transmit t) ?_ fun _ _ _ h => h
    intro admission _ _ h
    cases admission <;> exact h
  | completeCecTransmit transmit completion =>
    exact wp_result (completeCecTransmit_performs lease transmit completion t) (fun _ _ _ h => h)
      fun _ _ _ h => h
  | recordCecAuthoritySuspended =>
    exact wp_result (recordAuthoritySuspended_performs t) (fun _ _ _ h => h) fun _ _ _ h => h
  | injectCecMessage message =>
    exact wp_result (injectCecMessage_performs lease message t) (fun _ _ _ h => h)
      fun _ _ _ h => h
  | unbindCecTransport =>
    exact wp_result (unbindCecTransport_performs lease t) (fun _ _ _ h => h) fun _ _ _ h => h
  | detachMonitor =>
    exact wp_result (detachMonitor_performs lease t) (fun _ _ _ h => h) fun _ _ _ h => h

end Calls

end Pronk.CastKms
