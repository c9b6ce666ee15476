import Mathlib.Data.List.Nodup
import Pronk.CastKms.CecHistory
import Pronk.Library.Trace

/-!
# The transmits of a CEC transport

Over any history of the CEC operations: a transmit is pending only on the online transport it
came from, later transmits come from later states of the transport, and the kernel is told
only of the completion of the last transmit.
-/
namespace Pronk.CastKms
open Interaction Capture List

/-- An event after which the transmit before it is not pending any more. -/
def CecEvent.Settles : CecEvent → Prop
  | .accepted _ | .completed _ | .suspended | .unbound => True
  | _ => False

/-- Between two accepted transmits the transport was not usable for a while. -/
def WentOffline (log : List CecEvent) : Prop := .offline ∈ log ∨ .suspended ∈ log

/-- Within one binding the state generations of the accepted transmits do not decrease, and
they increase over an offline period. -/
def GenerationsAdvance (log : List CecEvent) : Prop :=
  ∀ before first between second after,
    log = before ++ .accepted first :: (between ++ .accepted second :: after) →
    .unbound ∉ between →
    first.stateGeneration ≤ second.stateGeneration ∧
    (WentOffline between → first.stateGeneration < second.stateGeneration)

def CecEvent.acceptedKey : CecEvent → Option (UInt64 × UInt64)
  | .accepted transmit => some (CecTransmitEvent.key transmit)
  | _ => none

/-- The kernel used no cookie twice within a transport generation. -/
def FreshCookies (log : List CecEvent) : Prop := (log.filterMap CecEvent.acceptedKey).Nodup

/-- The last accepted transmit has this identity and is still to be completed. -/
def Outstanding (log : List CecEvent) (key : UInt64 × UInt64) : Prop :=
  ∃ before transmit after, log = before ++ .accepted transmit :: after ∧
    CecTransmitEvent.key transmit = key ∧ ∀ event ∈ after, ¬ event.Settles

/-- What the tracker knows of a transmit that its transport has accepted. -/
structure Follows (t : CecTracker) (transmit : CecTransmitEvent) (wentOffline : Prop)
    (binding : CecTransportBinding) : Prop where
  le : transmit.stateGeneration ≤ binding.stateGeneration.get
  advance : binding.online = false → t.requiresStateAdvance = true
  lt : wentOffline → t.requiresStateAdvance = true ∨
    transmit.stateGeneration < binding.stateGeneration.get

/-- The tracker against its history. -/
structure Tracked (log : List CecEvent) (t : CecTracker) : Prop where
  pending : ∀ pending, t.pending = some pending →
    (∃ binding, t.binding = some binding ∧ binding.online = true ∧
      pending.transportGeneration = binding.transportGeneration) ∧ Outstanding log pending.key
  current : ∀ before transmit after, log = before ++ .accepted transmit :: after →
    .unbound ∉ after →
    ∃ binding, t.binding = some binding ∧ Follows t transmit (WentOffline after) binding
  generations : GenerationsAdvance log
  completed : ∀ before transmit after, log = before ++ .completed transmit :: after →
    ∃ earlier, .accepted earlier ∈ before ∧
      CecTransmitEvent.key earlier = CecTransmitEvent.key transmit

section Steps

variable {log : List CecEvent} {t t' : CecTracker} {event : CecEvent} {key : UInt64 × UInt64}

lemma Outstanding.snoc (h : Outstanding log key) (hevent : ¬ event.Settles) :
    Outstanding (log ++ [event]) key := by
  obtain ⟨before, transmit, after, rfl, hkey, hafter⟩ := h
  refine ⟨before, transmit, after ++ [event], by simp, hkey, ?_⟩
  intro x hx
  rcases mem_append.1 hx with hx | hx
  · exact hafter x hx
  · rw [mem_singleton.1 hx]
    exact hevent

lemma Outstanding.accepted (log : List CecEvent) (transmit : CecTransmitEvent) :
    Outstanding (log ++ [.accepted transmit]) (CecTransmitEvent.key transmit) :=
  ⟨log, transmit, [], rfl, rfl, by simp⟩

lemma wentOffline_snoc :
    WentOffline (log ++ [event]) ↔ WentOffline log ∨ event = .offline ∨ event = .suspended := by
  simp only [WentOffline, mem_append, mem_singleton, eq_comm]
  tauto

/-- A pending transmit stays on its transport until an event settles it. -/
lemma Tracked.pending_step (h : Tracked log t) (hstep : t.Step event t')
    {pending : PendingTransmit} (hpending : t'.pending = some pending) :
    (∃ binding, t'.binding = some binding ∧ binding.online = true ∧
      pending.transportGeneration = binding.transportGeneration) ∧
    Outstanding (log ++ [event]) pending.key := by
  -- An event that settles nothing and keeps the tracker keeps what was pending.
  have hkeep (hevent : ¬ event.Settles) (hsame : t' = t) :
      (∃ binding, t'.binding = some binding ∧ binding.online = true ∧
        pending.transportGeneration = binding.transportGeneration) ∧
      Outstanding (log ++ [event]) pending.key := by
    subst hsame
    exact ⟨(h.pending pending hpending).1, (h.pending pending hpending).2.snoc hevent⟩
  have honline : t.pending = some pending → ∀ binding, t.binding = some binding →
      binding.online = true := by
    intro hpending binding hbinding
    obtain ⟨⟨own, hown, honline, -⟩, -⟩ := h.pending pending hpending
    rw [hbinding] at hown
    exact Option.some.inj hown ▸ honline
  cases event with
  | bound binding =>
    obtain ⟨hnone, rfl⟩ := hstep
    obtain ⟨⟨own, hown, -⟩, -⟩ := h.pending pending hpending
    rw [hnone] at hown
    cases hown
  | online =>
    obtain ⟨binding, hbinding, ⟨-, hsame⟩ | ⟨hoffline, rfl⟩⟩ := hstep
    · exact hkeep id hsame
    · rw [honline hpending binding hbinding] at hoffline
      cases hoffline
  | offline =>
    obtain ⟨binding, hbinding, ⟨-, hsame⟩ | ⟨-, hnone, rfl⟩⟩ := hstep
    · exact hkeep id hsame
    · cases hnone.symm.trans hpending
  | accepted transmit =>
    obtain ⟨binding, stateGeneration, own, -, hon, -, hkey, hgeneration, -, -, -, rfl⟩ := hstep
    obtain rfl := Option.some.inj hpending
    exact ⟨⟨_, rfl, hon, hgeneration⟩, hkey ▸ Outstanding.accepted log transmit⟩
  | completed transmit =>
    obtain ⟨own, -, -, rfl⟩ := hstep
    cases hpending
  | suspended =>
    obtain ⟨binding, -, rfl⟩ := hstep
    cases hpending
  | unbound =>
    obtain ⟨hnone, rfl⟩ := hstep
    cases hnone.symm.trans hpending
  | silent => exact hkeep id hstep

variable {transmit : CecTransmitEvent}

/-- What is known of an accepted transmit is kept until its transport is unbound. -/
lemma Follows.step {wentOffline : Prop} {binding : CecTransportBinding}
    (h : Follows t transmit wentOffline binding) (hbinding : t.binding = some binding)
    (hstep : t.Step event t') (hevent : event ≠ .unbound) :
    ∃ binding', t'.binding = some binding' ∧
      Follows t' transmit (wentOffline ∨ event = .offline ∨ event = .suspended) binding' := by
  cases event with
  | bound other =>
    obtain ⟨hnone, -⟩ := hstep
    rw [hbinding] at hnone
    cases hnone
  | online =>
    obtain ⟨own, hown, ⟨-, rfl⟩ | ⟨-, rfl⟩⟩ := hstep
    · exact ⟨binding, hbinding, h.le, h.advance, by simpa using h.lt⟩
    · obtain rfl := Option.some.inj (hbinding.symm.trans hown)
      exact ⟨_, rfl, h.le, fun _ => rfl, fun _ => .inl rfl⟩
  | offline =>
    obtain ⟨own, hown, ⟨hoffline, rfl⟩ | ⟨-, -, rfl⟩⟩ := hstep
    · obtain rfl := Option.some.inj (hbinding.symm.trans hown)
      exact ⟨binding, hbinding, h.le, h.advance, fun _ => .inl (h.advance hoffline)⟩
    · obtain rfl := Option.some.inj (hbinding.symm.trans hown)
      exact ⟨_, rfl, h.le, fun _ => rfl, fun _ => .inl rfl⟩
  | accepted next =>
    obtain ⟨own, stateGeneration, pending, hown, honline, -, -, -, -, hle, hadvance, rfl⟩ := hstep
    obtain rfl := Option.some.inj (hbinding.symm.trans hown)
    refine ⟨_, rfl, UInt64.le_trans h.le hle, ?_, ?_⟩
    · intro hoffline
      cases honline.symm.trans hoffline
    · intro hwent
      have hwent : wentOffline := by simpa using hwent
      right
      rcases h.lt hwent with hrequired | hlt
      · exact UInt64.lt_of_le_of_lt h.le (hadvance hrequired)
      · exact UInt64.lt_of_lt_of_le hlt hle
  | completed other =>
    obtain ⟨own, -, -, rfl⟩ := hstep
    exact ⟨binding, hbinding, h.le, h.advance, by simpa using h.lt⟩
  | suspended =>
    obtain ⟨own, hown, rfl⟩ := hstep
    obtain rfl := Option.some.inj (hbinding.symm.trans hown)
    exact ⟨_, rfl, h.le, fun _ => rfl, fun _ => .inl rfl⟩
  | unbound => exact absurd rfl hevent
  | silent =>
    obtain rfl : t' = t := hstep
    exact ⟨binding, hbinding, h.le, h.advance, by simpa using h.lt⟩

variable {before after : List CecEvent}

lemma Tracked.current_step (h : Tracked log t) (hstep : t.Step event t')
    (hlog : log ++ [event] = before ++ .accepted transmit :: after) (hbound : .unbound ∉ after) :
    ∃ binding, t'.binding = some binding ∧
      Follows t' transmit (WentOffline after) binding := by
  rcases Trace.snoc_eq_append_cons hlog with ⟨-, rfl, rfl⟩ | ⟨after', rfl, hold⟩
  · obtain ⟨own, stateGeneration, pending, -, honline, -, -, -, hstate, -, -, rfl⟩ := hstep
    refine ⟨_, rfl, UInt64.le_of_eq hstate.symm, ?_, ?_⟩
    · intro hoffline
      cases honline.symm.trans hoffline
    · rintro (h | h) <;> cases h
  · simp only [mem_append, mem_singleton, not_or] at hbound
    obtain ⟨binding, hbinding, hfollows⟩ := h.current before transmit after' hold hbound.1
    simpa only [wentOffline_snoc] using hfollows.step hbinding hstep (Ne.symm hbound.2)

lemma Tracked.generations_step (h : Tracked log t) (hstep : t.Step event t') :
    GenerationsAdvance (log ++ [event]) := by
  intro before first between second after hlog hbound
  rw [← cons_append, ← append_assoc] at hlog
  rcases Trace.snoc_eq_append_cons hlog with ⟨hold, rfl, -⟩ | ⟨after', -, hold⟩
  · -- The new event is the second transmit.
    obtain ⟨binding, hbinding, hfollows⟩ := h.current before first between hold.symm hbound
    obtain ⟨own, stateGeneration, pending, hown, -, -, -, -, hstate, hle, hadvance, -⟩ := hstep
    obtain rfl := Option.some.inj (hbinding.symm.trans hown)
    rw [← hstate]
    refine ⟨UInt64.le_trans hfollows.le hle, fun hwent => ?_⟩
    rcases hfollows.lt hwent with hrequired | hlt
    · exact UInt64.lt_of_le_of_lt hfollows.le (hadvance hrequired)
    · exact UInt64.lt_of_lt_of_le hlt hle
  · rw [append_assoc, cons_append] at hold
    exact h.generations before first between second after' hold hbound

lemma Tracked.completed_step (h : Tracked log t) (hstep : t.Step event t')
    (hlog : log ++ [event] = before ++ .completed transmit :: after) :
    ∃ earlier, .accepted earlier ∈ before ∧
      CecTransmitEvent.key earlier = CecTransmitEvent.key transmit := by
  rcases Trace.snoc_eq_append_cons hlog with ⟨rfl, rfl, -⟩ | ⟨after', -, hlog⟩
  · obtain ⟨pending, hpending, hkey, -⟩ := hstep
    obtain ⟨-, earlier', accepted, after', rfl, haccepted, -⟩ := h.pending pending hpending
    exact ⟨accepted, by simp, haccepted.trans hkey⟩
  · exact h.completed before transmit after' hlog

/-- Every step of the tracker keeps it in line with the events so far. -/
theorem Tracked.step (h : Tracked log t) (hstep : t.Step event t') :
    Tracked (log ++ [event]) t' where
  pending _ hpending := h.pending_step hstep hpending
  current _ _ _ hlog hbound := h.current_step hstep hlog hbound
  generations := h.generations_step hstep
  completed _ _ _ hlog := h.completed_step hstep hlog

lemma Tracked.init : Tracked [] {} where
  pending _ h := by cases h
  current _ _ _ h _ := by simp at h
  generations _ _ _ _ _ h _ := by simp at h
  completed _ _ _ h := by simp at h

/-- With fresh cookies, nothing before the outstanding transmit has its identity. -/
lemma Tracked.outstanding_fresh (h : Tracked log t) (hfresh : FreshCookies log)
    (hlog : log = before ++ .accepted transmit :: after) {other : CecTransmitEvent}
    (hother : .accepted other ∈ before ∨ .completed other ∈ before) :
    CecTransmitEvent.key other ≠ CecTransmitEvent.key transmit := by
  have hkeys : ∀ other, .accepted other ∈ before →
      CecTransmitEvent.key other ≠ CecTransmitEvent.key transmit := by
    intro other hother heq
    rw [FreshCookies, hlog, filterMap_append, nodup_append] at hfresh
    refine hfresh.2.2 _ (mem_filterMap.2 ⟨_, hother, rfl⟩) _ ?_ heq
    simp [CecEvent.acceptedKey]
  rcases hother with hother | hother
  · exact hkeys other hother
  · obtain ⟨before₁, before₂, rfl⟩ := append_of_mem hother
    obtain ⟨earlier, hearlier, hkey⟩ := h.completed before₁ other
      (before₂ ++ .accepted transmit :: after) (by simpa using hlog)
    exact hkey ▸ hkeys earlier (mem_append_left _ hearlier)

end Steps

section Histories

variable {lease : GrantLease}

/-- The events of a history. -/
def cecEvents (history : List (cecService lease).Invocation) : List CecEvent :=
  history.map fun call => CecOp.event call.op call.ret

lemma run_tracked {history : List (cecService lease).Invocation} {t : CecTracker}
    (h : (cecService lease).Run (fun _ _ => True) {} history t) :
    Tracked (cecEvents history) t := by
  refine h.invariant (I := fun history t => Tracked (cecEvents history) t) Tracked.init ?_
  intro history t op htracked
  refine Program.wp_mono _ (CecOp.run_step lease op t) ?_
  intro out calls hstep
  rw [cecEvents, map_append]
  exact htracked.step hstep.1

/-- After any history with any kernel replies, and in the call that comes next. -/
theorem cec_transmits_tracked {history : List (cecService lease).Invocation} {t : CecTracker}
    (h : (cecService lease).Run (fun _ _ => True) {} history t) :
    (∀ pending, t.pending = some pending → ∃ binding, t.binding = some binding ∧
      binding.online = true ∧ pending.transportGeneration = binding.transportGeneration) ∧
    GenerationsAdvance (cecEvents history) ∧
    ∀ op out calls, ((cecService lease).run op t).Outcome (recording fun _ _ => True) [] out calls →
      (∀ args, (∃ x ∈ calls, x.1 = .cecTxComplete args) →
        ∃ before transmit after, cecEvents history = before ++ .accepted transmit :: after ∧
          CecTransmitEvent.key transmit = (args.transportGeneration, args.cookie) ∧
          (∀ event ∈ after, ¬ event.Settles) ∧
          (FreshCookies (cecEvents history) → ∀ other,
            .accepted other ∈ before ∨ .completed other ∈ before →
            CecTransmitEvent.key other ≠ CecTransmitEvent.key transmit)) ∧
      (∀ connectorId, (∃ x ∈ calls, x.1 = .detachMonitor connectorId) → t.binding = none) := by
  have htracked := run_tracked h
  refine ⟨fun pending hpending => (htracked.pending pending hpending).1, htracked.generations, ?_⟩
  intro op out calls hout
  have hasked : ∀ x ∈ calls, t.Asked x.1 :=
    ((Program.wp_iff_outcome _ _ _ _).1 (CecOp.run_step lease op t) out calls hout).2
  constructor
  · rintro args ⟨x, hx, hargs⟩
    have hasked := hasked x hx
    rw [hargs] at hasked
    obtain ⟨pending, hpending, hkey⟩ := hasked
    obtain ⟨-, before, transmit, after, hlog, htransmit, hafter⟩ :=
      htracked.pending pending hpending
    exact ⟨before, transmit, after, hlog, htransmit.trans hkey, hafter,
      fun hfresh other hother => htracked.outstanding_fresh hfresh hlog hother⟩
  · rintro connectorId ⟨x, hx, hrequest⟩
    have hasked := hasked x hx
    rw [hrequest] at hasked
    exact hasked

end Histories

def refused : (c : Ioctl) → c.Reply := fun c => by cases c <;> exact .error .ENOENT

/-- A kernel that lets the holder of the connector bind a transport and use it. -/
def cecKernel (_ : List (Exchange Ioctl Ioctl.Reply)) : (c : Ioctl) → c.Reply
  | .cecBindTransport args =>
    .ok { args with
          transportId := 1, transportGeneration := 1, stateGeneration := 1,
          stateFlags := CEC_STATE_MONITOR_ATTACHED }
  | .cecSetTransportState _ => .ok ()
  | .cecTxComplete _ => .ok ()
  | c => refused c

def cecLease : GrantLease := ⟨1, 1, 0, GRANT_MANAGE_CEC, 0, 0, 0⟩

def transmitAt (stateGeneration cookie : UInt64) : CecTransmitEvent :=
  ⟨1, 1, stateGeneration, cookie, 1, 0, 1, 0, 1, Vector.replicate 16 0⟩

/-- The authority is suspended while the second transmit is pending. -/
def suspendedOps : List CecOp :=
  [.bindCecTransport ⟨1, 0, 0, 0⟩, .setCecTransportOnline true,
    .recordCecTransmit (transmitAt 2 5), .completeCecTransmit (transmitAt 2 5) .succeeded,
    .recordCecTransmit (transmitAt 2 6), .recordCecAuthoritySuspended,
    .setCecTransportOnline true, .recordCecTransmit (transmitAt 3 7)]

def suspendedRun : List (cecService cecLease).Invocation × CecTracker :=
  (cecService cecLease).replay cecKernel suspendedOps {}

theorem cec_transmits_tracked_suspended :
    (cecEvents suspendedRun.1).filterMap CecEvent.acceptedKey = [(1, 5), (1, 6), (1, 7)] ∧
    suspendedRun.2.pending.map PendingTransmit.key = some (1, 7) ∧
    GenerationsAdvance (cecEvents suspendedRun.1) ∧
    ∀ pending, suspendedRun.2.pending = some pending → ∃ binding,
      suspendedRun.2.binding = some binding ∧ binding.online = true ∧
      pending.transportGeneration = binding.transportGeneration := by
  have hrun : (cecService cecLease).Run (fun _ _ => True) {} suspendedRun.1 suspendedRun.2 :=
    Service.run_replay (M := cecService cecLease) (fun _ _ => trivial) suspendedOps _
  exact ⟨by decide +kernel, by decide +kernel, (cec_transmits_tracked hrun).2.1,
    (cec_transmits_tracked hrun).1⟩

end Pronk.CastKms
