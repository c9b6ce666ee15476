import Pronk.Actor.Kernel

/-!
# An agreeable kernel

A script that answers every request of the actor and keeps the contract. No ioctl
fails besides the stop of a stream that is gone, identifiers are counted, and a
request completes only when an event read has to return something or, under a
prompt kernel, before `reconcile_grant_state` issues an ioctl. The grant is active
or has lost its master.
-/
namespace Pronk.Actor
open CastKms Capture Interaction Media

/-- The kernel's world and the number of requests so far. -/
structure Rehearsal where
  world : World := {}
  count : ℕ := 0

namespace Rehearsal

/-- The request fails with `EIO`. -/
def answer (r : DrmCastkmsCaptureQueueBuffer) : CaptureFrameEvent :=
  { userData := r.userData, sequence := 0, timestampNs := 0, modeGeneration := 1,
    streamId := r.streamId, bufferId := r.bufferId, status := -5, flags := 0, droppedFrames := 0,
    damageX := 0, damageY := 0, damageWidth := 0, damageHeight := 0, cursorSerial := 0,
    cursorFlags := 0, cursorX := 0, cursorY := 0, cursorHotspotX := 0, cursorHotspotY := 0,
    cursorWidth := 0, cursorHeight := 0 }

/-- Every request in flight fails, and an event of no known type follows. -/
def settle (w : World) : World :=
  { w with
    inFlight := []
    events := w.events ++ w.inFlight.map (fun r => .CaptureFrame (answer r)) ++
      [.Unknown ⟨0, 0⟩] }

/-- The reply to an ioctl and the world after it. -/
def ioctl (masterless : Bool) (v : Rehearsal) : (c : Ioctl) → c.Reply × World
  | .getGrant => (.ok ⟨1, 1, 9, if masterless then GRANT_STATE_SUSPENDED_NO_MASTER
      else GRANT_STATE_ACTIVE, 0, 0, 0⟩, v.world)
  | .getConnector connectorId => (.ok ⟨2, connectorId, DRM_MODE_CONNECTED, 0⟩, v.world)
  | .getEncoder encoderId => (.ok ⟨encoderId, 3⟩, v.world)
  | .getCrtc crtcId => (.ok ⟨crtcId, 1, 640, 480, 60, 0⟩, v.world)
  | .queryCaps crtcId _ =>
    (.ok ⟨0, 12, crtcId, 1, 27, [⟨DRM_FORMAT_XRGB8888, 0, DRM_FORMAT_MOD_LINEAR⟩], 4, 0⟩, v.world)
  | .captureStart args =>
    (.ok { args with streamId := 7, modeGeneration := 3 }, { v.world with stream := some 7 })
  | .captureStop streamId =>
    if v.world.stream = some streamId then
      (.ok (), { v.world with stream := none, inFlight := [] })
    else (.error .ENOENT, v.world)
  | .registerBuffer args => (.ok { args with bufferId := UInt32.ofNat (v.count + 1) }, v.world)
  | .unregisterBuffer _ _ => (.ok (), v.world)
  | .queueBuffer args => (.ok (), { v.world with inFlight := v.world.inFlight ++ [args] })
  | .createDumb args =>
    (.ok { args with handle := UInt32.ofNat (v.count + 1), pitch := 2560, size := 1228800 },
      v.world)
  | .destroyDumb _ => (.ok (), v.world)
  | .addFb2 args => (.ok { args with fbId := UInt32.ofNat (v.count + 1) }, v.world)
  | .rmFb _ => (.ok (), v.world)
  | .primeHandleToFd args => (.ok { args with fd := 5 }, v.world)
  | .exportSyncFile _ args => (.ok args, v.world)
  | .syncobjCreate args => (.ok { args with handle := UInt32.ofNat (v.count + 1) }, v.world)
  | .syncobjDestroy _ => (.ok (), v.world)
  | .syncobjHandleToFd args => (.ok { args with fd := 6 }, v.world)
  | .syncobjTimelineSignal args => (.ok args, v.world)
  | .syncobjEventfd args => (.ok args, v.world)
  | .eventfd => (.ok 8, v.world)
  | .dup fd => (.ok fd, v.world)
  | .fcntlGetFd _ => (.ok FD_CLOEXEC, v.world)
  | .fcntlGetFl _ => (.ok O_NONBLOCK, v.world)
  | .openAudioTap args => (.ok args, v.world)
  | .detachMonitor _ => (.ok (), v.world)
  | .cecQueryCaps args => (.ok args, v.world)
  | .cecBindTransport args => (.ok args, v.world)
  | .cecSetTransportState _ => (.ok (), v.world)
  | .cecTxComplete _ => (.ok (), v.world)
  | .cecReceive _ => (.ok (), v.world)
  | .cecUnbindTransport _ _ => (.ok (), v.world)

def node (nodeName : String) (mediaGeneration : NonZeroU64) : NodeIdentity :=
  ⟨nodeName, 4, 4, mediaGeneration⟩

/-- The reply to a request and the world after it. -/
def reply (prompt masterless : Bool) (v : Rehearsal) : (c : ActorCall) → c.Reply × World
  | .ioctl .actor c => ioctl masterless v c
  | .ioctl .reconcile c =>
    ioctl masterless (if prompt then { v with world := settle v.world } else v) c
  | .isCancelled => (false, v.world)
  | .createProducerRemote => (some (.ok ()), v.world)
  | .createAudioRemote => (.ok (), v.world)
  | .videoStart config _ =>
    let identity := node config.nodeName config.mediaGeneration
    (.ok identity, { v.world with source := some identity })
  | .videoStop _ =>
    match v.world.source with
    | some identity => (.stopped identity, { v.world with source := none })
    | none => (.noActiveGeneration, v.world)
  | .videoPublish _ _ => (.ok (), v.world)
  | .videoShutdown => (.ok (), v.world)
  | .audioStart config => (.ok (node config.nodeName config.mediaGeneration), v.world)
  | .audioShutdown => (.ok (), v.world)
  | .waitReady fence => (if Awaited v.world fence then none else some (.ok ()), v.world)
  | .readEvents => (.ok (settle v.world).events, { settle v.world with
      events := [], lag := v.world.lag - 1 })
  | .readEventsBefore =>
    if v.world.events = [] ∧ (v.world.stream = none → v.world.inFlight = []) then (none, v.world)
    else (some (.ok (settle v.world).events), { settle v.world with
      events := [], lag := v.world.lag - 1 })
  | .tryReadEvents => (.ok v.world.events, { v.world with events := [] })
  | .drainDeadline => ((v.world.lag + 2 : ℕ), v.world)
  | .replyStart => (true, v.world)
  | .joinDetach => (.ok (), v.world)

def script (prompt masterless : Bool) (v : Rehearsal) (c : ActorCall) : c.Reply × Rehearsal :=
  ((reply prompt masterless v c).1, ⟨(reply prompt masterless v c).2, v.count + 1⟩)

lemma answers_answer (r : DrmCastkmsCaptureQueueBuffer) : Answers (answer r) r where
  streamId := rfl
  bufferId := rfl
  userData := rfl
  generation_ne := by simp [answer]
  changed h := absurd h (by simp [answer, CaptureTracker.modeChanged, CAPTURE_FRAME_MODE_CHANGED])
  unchanged _ h := absurd h (by simp [answer])

lemma ticks_settle (w : World) : Ticks w (settle w) := by
  obtain ⟨stream, inFlight, events, lag, source⟩ := w
  induction inFlight generalizing events with
  | nil =>
    refine .single ?_
    simpa [settle] using Tick.publish (w := ⟨stream, [], events, lag, source⟩)
      (e := .Unknown ⟨0, 0⟩) rfl
  | cons r rest ih =>
    have hstep : Tick ⟨stream, r :: rest, events, lag, source⟩
        ⟨stream, rest, events ++ [.CaptureFrame (answer r)], lag, source⟩ := by
      simpa using Tick.complete (w := ⟨stream, r :: rest, events, lag, source⟩)
        List.mem_cons_self (answers_answer r)
    have hrest := ih (events ++ [.CaptureFrame (answer r)])
    simp only [settle, List.append_assoc, List.singleton_append] at hrest
    simpa [settle] using Relation.ReflTransGen.head hstep hrest

lemma serves_ioctl (masterless : Bool) (v : Rehearsal) (c : Ioctl) :
    ServesIoctl v.world c (ioctl masterless v c).1 (ioctl masterless v c).2 := by
  cases c
  case getGrant =>
    refine ⟨fun grant hg hr => ?_, rfl⟩
    obtain rfl := Except.ok.inj hg
    cases masterless <;> exact absurd hr (by decide)
  case captureStop id =>
    by_cases h : v.world.stream = some id
    · rw [ioctl, if_pos h]
      exact .inl ⟨rfl, h, rfl⟩
    · rw [ioctl, if_neg h]
      exact .inr ⟨rfl, h, rfl⟩
  all_goals first
    | exact rfl
    | exact ⟨rfl, rfl⟩

lemma succeeds_ioctl (masterless : Bool) (v : Rehearsal) (c : Ioctl) :
    c.Succeeds (ioctl masterless v c).1 := by
  cases c <;> exact trivial

/-- A read that returns everything once the requests in flight have failed. -/
theorem servesRead_settle (w : World) :
    ServesRead (settle w) (settle w).events { settle w with events := [], lag := w.lag - 1 } :=
  ⟨rfl, by simp [settle], fun _ _ => rfl, rfl⟩

/-- The script keeps the contract. If it is prompt, no request is left when
`reconcile_grant_state` stops the stream. -/
theorem contract_script (prompt masterless : Bool) (v : Rehearsal) (c : ActorCall) :
    contract (fun w c => prompt = true → Unqueued w c) v.world c (script prompt masterless v c).1
      (script prompt masterless v c).2.world := by
  cases c
  case ioctl caller c =>
    cases caller
    case actor =>
      exact ⟨v.world, .refl, fun _ => trivial, serves_ioctl masterless v c⟩
    case reconcile =>
      cases prompt
      · exact ⟨v.world, .refl, nofun, serves_ioctl masterless v c⟩
      · refine ⟨settle v.world, ticks_settle _, fun _ => ?_,
          serves_ioctl masterless ⟨settle v.world, v.count⟩ c⟩
        cases c <;> first
          | exact trivial
          | exact fun _ => rfl
  case videoStop g =>
    refine ⟨v.world, .refl, fun _ => trivial, ?_⟩
    cases h : v.world.source with
    | none =>
      refine .inr ⟨h, ?_, ?_⟩
      · simp only [script, reply, h]
      · simp only [script, reply, h]
    | some identity =>
      refine .inl ⟨identity, h, ?_, ?_⟩
      · simp only [script, reply, h]
      · simp only [script, reply, h]
  case waitReady fence =>
    refine ⟨v.world, .refl, fun _ => trivial, ?_, rfl⟩
    by_cases h : Awaited v.world fence
    · exact .inr ⟨if_pos h, h⟩
    · exact .inl ⟨if_neg h, h⟩
  case readEvents =>
    exact ⟨settle v.world, ticks_settle _, fun _ => trivial, _, rfl, servesRead_settle _⟩
  case readEventsBefore =>
    by_cases h : v.world.events = [] ∧ (v.world.stream = none → v.world.inFlight = [])
    · refine ⟨v.world, .refl, fun _ => trivial, .inr ?_⟩
      simp only [script, reply, if_pos h]
      exact ⟨trivial, h.1, h.2, trivial⟩
    · refine ⟨settle v.world, ticks_settle _, fun _ => trivial,
        .inl ⟨(settle v.world).events, ?_, ?_⟩⟩
      · simp only [script, reply, if_neg h]
      · simp only [script, reply, if_neg h]
        exact servesRead_settle _
  case audioShutdown => exact ⟨v.world, .refl, fun _ => trivial, rfl, rfl⟩
  case tryReadEvents => exact ⟨v.world, .refl, fun _ => trivial, rfl, rfl⟩
  case drainDeadline => exact ⟨v.world, .refl, fun _ => trivial, Nat.le_refl _, rfl⟩
  all_goals exact ⟨v.world, .refl, fun _ => trivial, rfl⟩

lemma successful_script (prompt masterless : Bool) (v : Rehearsal) (c : ActorCall) :
    Successful c (script prompt masterless v c).1 := by
  cases c
  case ioctl caller c => cases caller <;> exact succeeds_ioctl masterless _ c
  all_goals exact trivial

end Rehearsal

end Pronk.Actor
