import Mathlib.Logic.Relation
import Pronk.Actor.Run
import Pronk.Capture.Holding
import Pronk.CastKms.Inert

/-!
# The kernel that the actor relies on

The contract that the source's comments state. A stop that succeeds completes the
fence of every request in flight and removes its event; a completed frame
publishes its event before its fence becomes ready; a stop of a stream that is
gone fails with `ENOENT`, and a frame event follows for every request that was
still in flight. A terminal grant means that the stream is gone. The ioctls that a
teardown needs besides succeed, and so does stopping the PipeWire sources.
Everything else may reply anything. Between two requests the kernel moves on its
own.
-/
namespace Pronk.Actor
open CastKms Capture Interaction

/-- The holder's stream if the kernel still has it, the accepted requests without
completion, the events not yet read, the reads that may return before a stream
that is gone has delivered its frames, and the running PipeWire source. -/
structure World where
  stream : Option UInt32 := none
  inFlight : List DrmCastkmsCaptureQueueBuffer := []
  events : List CastKmsEvent := []
  lag : ℕ := 0
  source : Option NodeIdentity := none

/-- The frames of a batch. -/
def frameEvents (events : List CastKmsEvent) : List CaptureFrameEvent :=
  events.filterMap CastKmsEvent.frame?

namespace World

/-- The frame events that wait to be read. -/
def frames (w : World) : List CaptureFrameEvent := frameEvents w.events

/-- No request is in flight and no frame waits to be read. -/
structure Still (w : World) : Prop where
  inFlight : w.inFlight = []
  frames : w.frames = []

end World

/-- A frame event that completes the request and agrees with its mode. -/
structure Answers (f : CaptureFrameEvent) (r : DrmCastkmsCaptureQueueBuffer) : Prop where
  streamId : f.streamId = r.streamId
  bufferId : f.bufferId = r.bufferId
  userData : f.userData = r.userData
  generation_ne : f.modeGeneration ≠ 0
  changed : CaptureTracker.modeChanged f = true →
    f.status = -Errno.ESTALE.code ∧ f.modeGeneration ≠ r.modeGeneration
  unchanged : CaptureTracker.modeChanged f = false → f.status = 0 →
    f.modeGeneration = r.modeGeneration

/-- What the kernel and PipeWire may do on their own. -/
inductive Tick : World → World → Prop
  | complete {w : World} {r : DrmCastkmsCaptureQueueBuffer} {f : CaptureFrameEvent}
      (hr : r ∈ w.inFlight) (hf : Answers f r) :
      Tick w { w with inFlight := w.inFlight.erase r, events := w.events ++ [.CaptureFrame f] }
  | publish {w : World} {e : CastKmsEvent} (he : e.frame? = none) :
      Tick w { w with events := w.events ++ [e] }
  | invalidate {w : World} (hw : w.stream ≠ none) (lag : ℕ) :
      Tick w { w with stream := none, lag }
  | sourceFailed (w : World) : Tick w { w with source := none }

/-- Any number of steps that the kernel takes by itself. -/
abbrev Ticks : World → World → Prop := Relation.ReflTransGen Tick

/-- The request of this fence is still in flight. -/
def Awaited (w : World) (fence : ExplicitCaptureFence) : Prop :=
  ∃ r ∈ w.inFlight, r.streamId = fence.streamId.get ∧ r.bufferId = fence.bufferId.get ∧
    r.userData = fence.userData.get
deriving Decidable

/-- The reply to an ioctl and what it does to the kernel. -/
def ServesIoctl (w : World) : (c : Ioctl) → c.Reply → World → Prop
  | .captureStart _, .ok args, w' => w' = { w with stream := some args.streamId }
  | .captureStop id, r, w' =>
    (r = .ok () ∧ w.stream = some id ∧ w' = { w with stream := none, inFlight := [] }) ∨
      (r = .error .ENOENT ∧ w.stream ≠ some id ∧ w' = w)
  | .queueBuffer args, .ok _, w' => w' = { w with inFlight := w.inFlight ++ [args] }
  | .syncobjTimelineSignal args, r, w' => r = .ok args ∧ w' = w
  | .rmFb _, r, w' => r = .ok () ∧ w' = w
  | .destroyDumb _, r, w' => r = .ok () ∧ w' = w
  | .syncobjDestroy _, r, w' => r = .ok () ∧ w' = w
  | .getGrant, r, w' =>
    (∀ grant, r = .ok grant → grant.state = GRANT_STATE_REVOKED → w.stream = none) ∧ w' = w
  | _, _, w' => w' = w

/-- A batch is everything pending. Once the stream is gone and the lag is used up,
no frame is owed any more. -/
def ServesRead (w : World) (events : List CastKmsEvent) (w' : World) : Prop :=
  events = w.events ∧ events ≠ [] ∧ (w.stream = none → w.lag = 0 → w.inFlight = []) ∧
    w' = { w with events := [], lag := w.lag - 1 }

/-- The reply to a request and what it does to the kernel. -/
def Serves (w : World) : (c : ActorCall) → c.Reply → World → Prop
  | .ioctl _ c, r, w' => ServesIoctl w c r w'
  | .videoStart _ _, .ok identity, w' => w' = { w with source := some identity }
  | .videoStop _, r, w' =>
    (∃ identity, w.source = some identity ∧ r = .stopped identity ∧
      w' = { w with source := none }) ∨ (w.source = none ∧ r = .noActiveGeneration ∧ w' = w)
  | .audioShutdown, r, w' => r = .ok () ∧ w' = w
  | .waitReady fence, r, w' =>
    ((r = some (.ok ()) ∧ ¬ Awaited w fence) ∨ (r = none ∧ Awaited w fence)) ∧ w' = w
  | .readEvents, r, w' => ∃ events, r = .ok events ∧ ServesRead w events w'
  | .readEventsBefore, r, w' =>
    (∃ events, r = some (.ok events) ∧ ServesRead w events w') ∨
      (r = none ∧ w.events = [] ∧ (w.stream = none → w.inFlight = []) ∧ w' = w)
  | .tryReadEvents, r, w' => r = .ok w.events ∧ w' = { w with events := [] }
  | .drainDeadline, n, w' => (w.lag + 2 ≤ (n : ℕ)) ∧ w' = w
  | _, _, w' => w' = w

namespace World

variable {w w' : World}

lemma frameEvents_concat (events : List CastKmsEvent) (f : CaptureFrameEvent) :
    frameEvents (events ++ [.CaptureFrame f]) = frameEvents events ++ [f] := by
  simp [frameEvents, CastKmsEvent.frame?]

lemma frameEvents_concat_other (events : List CastKmsEvent) {e : CastKmsEvent}
    (he : e.frame? = none) : frameEvents (events ++ [e]) = frameEvents events := by
  simp [frameEvents, he]

/-- A still world stays still: only a request or a read changes that. -/
theorem Still.ticks (h : w.Still) (ht : Ticks w w') : w'.Still := by
  induction ht with
  | refl => exact h
  | tail _ hstep ih =>
    cases hstep with
    | complete hr _ => simp [ih.inFlight] at hr
    | publish he => exact ⟨ih.inFlight, (frameEvents_concat_other _ he).trans ih.frames⟩
    | invalidate => exact ⟨ih.inFlight, ih.frames⟩
    | sourceFailed => exact ⟨ih.inFlight, ih.frames⟩

lemma Ticks.inFlight (ht : Ticks w w') (h : w.inFlight = []) : w'.inFlight = [] := by
  induction ht with
  | refl => exact h
  | tail _ hstep ih =>
    cases hstep with
    | complete hr _ => simp [ih] at hr
    | publish => exact ih
    | invalidate => exact ih
    | sourceFailed => exact ih

lemma Ticks.stream (ht : Ticks w w') : w'.stream = none ∨ w'.stream = w.stream := by
  induction ht with
  | refl => exact .inr rfl
  | tail _ hstep ih =>
    cases hstep with
    | complete => exact ih
    | publish => exact ih
    | invalidate => exact .inl rfl
    | sourceFailed => exact ih

lemma Ticks.source (ht : Ticks w w') : w'.source = none ∨ w'.source = w.source := by
  induction ht with
  | refl => exact .inr rfl
  | tail _ hstep ih =>
    cases hstep with
    | complete => exact ih
    | publish => exact ih
    | invalidate => exact ih
    | sourceFailed => exact .inl rfl

/-- Without its stream the kernel no longer chooses a lag. -/
theorem Ticks.lag (ht : Ticks w w') (h : w.stream = none) : w'.lag = w.lag := by
  induction ht with
  | refl => rfl
  | tail hpre hstep ih =>
    cases hstep with
    | complete => exact ih
    | publish => exact ih
    | invalidate hne =>
      have hnone : _ = none := (Ticks.stream hpre).elim id fun h' => h'.trans h
      exact absurd hnone hne
    | sourceFailed => exact ih

end World

/-- The contract for requests that are issued in an admitted world only. -/
def contract (admitted : World → ActorCall → Prop) :
    Environment World ActorCall ActorCall.Reply :=
  fun w c r w' => ∃ w₁, Ticks w w₁ ∧ admitted w₁ c ∧ Serves w₁ c r w'

lemma contract.mono {admitted admitted' : World → ActorCall → Prop} {w w' : World}
    {c : ActorCall} {r : c.Reply} (hA : ∀ w c, admitted w c → admitted' w c)
    (h : contract admitted w c r w') : contract admitted' w c r w' := by
  obtain ⟨w₁, ht, ha, hs⟩ := h
  exact ⟨w₁, ht, hA w₁ c ha, hs⟩

/-- The part of the contract that a method of the client sees. -/
abbrev kernel (admitted : World → ActorCall → Prop) (caller : Caller) :
    Environment World Ioctl Ioctl.Reply :=
  fun w c r w' => contract admitted w (.ioctl caller c) r w'

section Replies

variable {admitted : World → ActorCall → Prop} {caller : Caller} {w w' : World}

lemma ticks_of_inert {c : Ioctl} {r : c.Reply} (h : kernel admitted caller w c r w')
    (hc : Inert c) : Ticks w w' := by
  obtain ⟨w₁, ht, -, hs⟩ := h
  have he : w' = w₁ := by
    cases c <;> first
      | exact hs
      | exact hs.2
      | exact absurd hc id
  exact he ▸ ht

lemma kernel_passive : Passive (kernel admitted caller) Ticks where
  refl _ := .refl
  trans _ _ _ h₁ h₂ := h₁.trans h₂
  call _ _ _ _ hc h := ticks_of_inert h hc

lemma kernel_obliging : Obliging (kernel admitted caller) Ticks where
  refl _ := .refl
  trans _ _ _ h₁ h₂ := h₁.trans h₂
  signal _ _ _ _ h := ⟨by obtain ⟨_, -, -, hs⟩ := h; exact hs.1, ticks_of_inert h trivial⟩
  rmFb _ _ _ _ h := ⟨by obtain ⟨_, -, -, hs⟩ := h; exact hs.1, ticks_of_inert h trivial⟩
  destroyDumb _ _ _ _ h := ⟨by obtain ⟨_, -, -, hs⟩ := h; exact hs.1, ticks_of_inert h trivial⟩
  syncobjDestroy _ _ _ _ h := ⟨by obtain ⟨_, -, -, hs⟩ := h; exact hs.1, ticks_of_inert h trivial⟩
  eventfd _ _ _ h := ticks_of_inert h trivial
  syncobjEventfd _ _ _ _ h := ticks_of_inert h trivial

end Replies

/-- No ioctl failed besides a stop. -/
def Successful : (c : ActorCall) → c.Reply → Prop
  | .ioctl _ c, r => c.Succeeds r
  | _, _ => True

/-- The contract, and no ioctl fails besides a stop. -/
def Faultless : Environment World ActorCall ActorCall.Reply :=
  fun w c r w' => contract (fun _ _ => True) w c r w' ∧ Successful c r

/-- `reconcile_grant_state` stops the stream only while the kernel holds no
uncompleted request of it, or has already dropped it. -/
def Unqueued (w : World) : ActorCall → Prop
  | .ioctl .reconcile (.captureStop id) => w.stream = some id → w.inFlight = []
  | _ => True

end Pronk.Actor
