import Pronk.Capture.Service

/-!
# The explicit-synchronization timelines

A tally counts, over a history of calls, the accepted requests and the releases
of one buffer since it was last registered, and keeps the handle of the reuse
syncobj that the kernel was given with it. The ledger relates what the client
stores in the buffer to that tally. The two counters drift apart only in a
retired stream, where a cancelled request returns to idle without a release and
can never be queued again.
-/
namespace Pronk.Capture
open CastKms Interaction Method Ioctl CaptureClient TrackedStream List

/-- A finished capture operation. -/
abbrev Call := captureService.Invocation

def Call.effect (call : Call) : Effect := CaptureOp.effect call.op call.ret

/-- The reuse handle of a registration to which the kernel gave these identifiers. -/
def registeredBy (streamId bufferId : UInt32) : Exchange Ioctl Reply → Option UInt32
  | ⟨.registerBuffer args, .ok result⟩ =>
    if args.streamId = streamId ∧ result.bufferId = bufferId then some args.reuseSyncobjHandle
    else none
  | _ => none

/-- The reuse handle with which these ioctls registered the buffer. -/
def registeredReuse (info : CaptureBufferInfo) (calls : List (Exchange Ioctl Reply)) :
    Option UInt32 :=
  (calls.filterMap (registeredBy info.streamId.get info.bufferId.get)).getLast?

/-- What a history says about one buffer. -/
structure Tally where
  mode : Option CaptureSynchronization := none
  reuse : Option UInt32 := none
  queues : ℕ := 0
  releases : ℕ := 0

/-- Count one call for the buffer `bufferId` of stream `streamId`. -/
def Tally.note (streamId bufferId : NonZeroU32) (t : Tally) (call : Call) : Tally :=
  match call.effect with
  | .none => t
  | .registered info =>
    if info.streamId = streamId ∧ info.bufferId = bufferId then
      { mode := some info.synchronization, reuse := registeredReuse info call.calls }
    else t
  | .queued q =>
    if q.streamId = streamId ∧ q.bufferId = bufferId then { t with queues := t.queues + 1 } else t
  | .released r =>
    if r.streamId = streamId ∧ r.bufferId = bufferId then { t with releases := t.releases + 1 }
    else t

open Tally

lemma Tally.note_none {streamId bufferId : NonZeroU32} {t : Tally} {call : Call}
    (he : call.effect = .none) : t.note streamId bufferId call = t := by
  rw [note, he]

def tally (streamId bufferId : NonZeroU32) (history : List Call) : Tally :=
  history.foldl (note streamId bufferId) {}

@[simp] lemma tally_concat (streamId bufferId : NonZeroU32) (history : List Call)
    (call : Call) :
    tally streamId bufferId (history ++ [call]) = (tally streamId bufferId history).note streamId
      bufferId call := by
  simp [tally]

/-- What is stored in a buffer against its tally. -/
structure BufferLedger (t : Tally) (b : TrackedBuffer) : Prop where
  mode : t.mode = some b.synchronization.public
  reuse : ∀ pair, b.synchronization = .Explicit pair → t.reuse = some pair.reuseHandle.get
  ready : b.synchronization.public = .Explicit → b.nextReadyPoint.toNat = t.queues + 1
  release : b.synchronization.public = .Explicit → b.lastReleasePoint.toNat = t.releases
  busy : b.state ≠ .Idle → t.queues = t.releases + 1

/-- Every buffer of a stream; while the stream is active, an idle buffer has had
each of its requests released. -/
def StreamLedger (history : List Call) (active : Bool) (s : TrackedStream) : Prop :=
  ∀ b ∈ s.buffers, BufferLedger (tally s.info.streamId b.id history) b ∧
    (active → b.state = .Idle → (tally s.info.streamId b.id history).queues =
      (tally s.info.streamId b.id history).releases)

namespace StreamLedger

variable {history : List Call} {call : Call} {active : Bool} {s : TrackedStream}

lemma retire (h : StreamLedger history true s) : StreamLedger history false s :=
  fun b hb => ⟨(h b hb).1, by simp⟩

lemma none (h : StreamLedger history active s) (he : call.effect = .none) :
    StreamLedger (history ++ [call]) active s := by
  intro b hb
  rw [tally_concat, note_none he]
  exact h b hb

lemma withStale (h : StreamLedger history active s) (stale : Bool) :
    StreamLedger history active { s with stale } := h

lemma buffer (h : StreamLedger history active s) {id : NonZeroU32} {b : TrackedBuffer}
    (hb : s.buffer id = some b) : BufferLedger (tally s.info.streamId id history) b ∧
      (active → b.state = .Idle → (tally s.info.streamId id history).queues =
        (tally s.info.streamId id history).releases) := by
  rw [← (buffer_split hb).1]
  exact h b (mem_of_buffer hb)

/-- A write to one buffer with an effect that concerns no other buffer. -/
theorem setBuffer (h : StreamLedger history active s) (hi : StreamInv s) {id : NonZeroU32}
    {b b' : TrackedBuffer} (hb : s.buffer id = some b) (hid : b'.id = b.id)
    (hother : ∀ x : NonZeroU32, x ≠ id → ∀ t : Tally, t.note s.info.streamId x call = t)
    (hb' : BufferLedger ((tally s.info.streamId id history).note s.info.streamId id call) b')
    (hidle : active → b'.state = .Idle →
      ((tally s.info.streamId id history).note s.info.streamId id call).queues =
        ((tally s.info.streamId id history).note s.info.streamId id call).releases) :
    StreamLedger (history ++ [call]) active (s.setBuffer id b') := by
  intro x hx
  have hinfo : (s.setBuffer id b').info = s.info := rfl
  rw [tally_concat, hinfo]
  rcases hi.mem_setBuffer hb hx with rfl | ⟨hx, hne⟩
  · rw [hid, (buffer_split hb).1]
    exact ⟨hb', hidle⟩
  · rw [hother x.id hne]
    exact h x hx

/-- The state of a buffer changes without an effect. -/
lemma setState (h : StreamLedger history active s) (hi : StreamInv s)
    (he : call.effect = .none) {id : NonZeroU32} {b : TrackedBuffer} (hb : s.buffer id = some b)
    {state : TrackedBufferState} (hbusy : state ≠ .Idle → b.state ≠ .Idle)
    (hidle : active → state ≠ .Idle) :
    StreamLedger (history ++ [call]) active (s.setBuffer id { b with state }) := by
  obtain ⟨hledger, -⟩ := h.buffer hb
  refine h.setBuffer hi hb rfl (fun _ _ _ => note_none he) (note_none he ▸ ?_)
    fun hactive hstate => absurd hstate (hidle hactive)
  exact ⟨hledger.mode, hledger.reuse, hledger.ready, hledger.release,
    fun hstate => hledger.busy (hbusy hstate)⟩

end StreamLedger

/-- The ledger of both streams. -/
structure Ledger (history : List Call) (t : CaptureTracker) : Prop where
  active : ∀ s, t.active = some s → StreamLedger history true s
  retired : ∀ s, t.retired = some s → StreamLedger history false s

namespace Ledger

variable {history history' : List Call} {call : Call} {t : CaptureTracker} {s s' : TrackedStream}

lemma empty : Ledger [] {} := ⟨by simp, by simp⟩

lemma none (h : Ledger history t) (he : call.effect = .none) : Ledger (history ++ [call]) t :=
  ⟨fun s hs => (h.active s hs).none he, fun s hs => (h.retired s hs).none he⟩

lemma setActive (hr : t.retired = .none) (hs : StreamLedger history true s) :
    Ledger history { t with active := some s } where
  active := by
    intro x hx
    obtain rfl := Option.some.inj hx
    exact hs
  retired := by simp [hr]

lemma setRetired (ha : t.active = .none) (hs : StreamLedger history false s) :
    Ledger history { t with retired := some s } where
  active := by simp [ha]
  retired := by
    intro x hx
    obtain rfl := Option.some.inj hx
    exact hs

/-- A write through `stream_mut` that keeps the ledger of its stream, wherever
the stream is. -/
theorem setStream (h : Ledger history t) (hi : TrackerInv t) {id : NonZeroU32}
    (hstream : t.stream id = some s)
    (hs : ∀ a, StreamLedger history a s → StreamLedger history' a s') :
    Ledger history' (t.setStream id s') := by
  simp only [CaptureTracker.stream, Option.or_eq_some_iff, Option.filter_eq_some_iff,
    decide_eq_true_eq] at hstream
  unfold CaptureTracker.setStream
  rcases hstream with ⟨ha, hid⟩ | ⟨-, hr, hid⟩
  · simp only [ha, Option.any_some, hid, decide_true, if_true]
    exact setActive (hi.retired_eq_none ha) (hs true (h.active s ha))
  · have ha := hi.active_eq_none hr
    simp only [ha, hr, Option.any_none, Option.any_some, hid, decide_true, Bool.false_eq_true,
      if_false, if_true]
    exact setRetired (t := ⟨.none, .none⟩) rfl (hs false (h.retired s hr))

/-- The ledger of a buffer that a lookup finds, in either stream. -/
lemma buffer (h : Ledger history t) {streamId id : NonZeroU32} {b : TrackedBuffer}
    (hstream : t.stream streamId = some s) (hbuffer : s.buffer id = some b) :
    BufferLedger (tally s.info.streamId id history) b := by
  simp only [CaptureTracker.stream, Option.or_eq_some_iff, Option.filter_eq_some_iff] at hstream
  rcases hstream with ⟨ha, -⟩ | ⟨-, hr, -⟩
  · exact ((h.active s ha).buffer hbuffer).1
  · exact ((h.retired s hr).buffer hbuffer).1

end Ledger

variable {t' : CaptureTracker}

/-- The kernel was given the reuse handle that the tracker keeps for the registered buffer. -/
def GivesReuse (info : CaptureBufferInfo) (t : CaptureTracker)
    (calls : List (Exchange Ioctl Reply)) : Prop :=
  ∀ s b pair, t.active = some s → b ∈ s.buffers → b.id = info.bufferId →
    b.synchronization = .Explicit pair → registeredReuse info calls = some pair.reuseHandle.get

/-- Every move keeps the ledger, its call added to the history. -/
theorem Move.ledger {t : CaptureTracker} {e : Effect} {history : List Call} {call : Call}
    (hm : Move t e t') (he : call.effect = e)
    (hreuse : ∀ info, e = .registered info → GivesReuse info t' call.calls)
    (hi : TrackerInv t) (h : Ledger history t) : Ledger (history ++ [call]) t' := by
  cases hm with
  | keep => exact h.none he
  | start info capabilities hactive hretired =>
    refine Ledger.setActive hretired ?_
    intro b hb
    simp at hb
  | stale streamId =>
    cases ha : t.active with
    | none =>
      refine ⟨by simp [CaptureTracker.markActiveStale, ha], ?_⟩
      exact fun s hs => (h.retired s hs).none he
    | some s =>
      have hs := (h.active s ha).none he
      have hr := hi.retired_eq_none ha
      simp only [CaptureTracker.markActiveStale, ha, Option.map_some]
      split_ifs
      · exact Ledger.setActive hr (hs.withStale true)
      · exact Ledger.setActive hr hs
  | retire =>
    unfold CaptureTracker.retireActive
    split
    · exact h.none he
    · rename_i s ha
      split_ifs
      · exact ⟨by simp, fun x hx => (h.retired x hx).none he⟩
      · exact Ledger.setRetired (t := ⟨none, none⟩) rfl ((h.active s ha).none he).retire
  | @register s b hactive hroom hnew hidle hready hrelease =>
    refine Ledger.setActive (hi.retired_eq_none hactive) ?_
    intro x hx
    rcases mem_append.1 hx with hx | hx
    · have hne : b.id ≠ x.id := (hnew x hx).symm
      rw [tally_concat]
      simp only [note, he, TrackedBuffer.info, hne, and_false, if_false]
      obtain ⟨hx₁, hx₂⟩ := h.active s hactive x hx
      exact ⟨hx₁, fun _ => hx₂ rfl⟩
    · obtain rfl := mem_singleton.1 hx
      rw [tally_concat]
      simp only [note, he, TrackedBuffer.info, and_self, if_true]
      refine ⟨⟨rfl, fun pair hsync => ?_, fun _ => by simp [hready], fun _ => by simp [hrelease],
        fun hbusy => absurd hidle hbusy⟩, by simp⟩
      exact hreuse _ rfl _ x pair rfl (by simp) rfl hsync
  | @unregister s i hactive =>
    refine Ledger.setActive (hi.retired_eq_none hactive) ?_
    intro x hx
    exact (h.active s hactive).none he x ((eraseIdx_sublist _ _).subset hx)
  | @queue s id b points userData hactive hcapacity hlabel hbuffer hidle hpoints =>
    have hs := h.active s hactive
    obtain ⟨hb, heq⟩ := hs.buffer hbuffer
    have heq := heq rfl hidle
    refine Ledger.setActive (hi.retired_eq_none hactive)
      (hs.setBuffer (hi.active_inv s hactive) hbuffer rfl ?_ ?_ ?_)
    · intro x hx u
      simp [note, he, hx.symm]
    · simp only [note, he, and_self, if_true]
      refine ⟨hb.mode, hb.reuse, fun hsync => ?_, hb.release, fun _ => by simp [heq]⟩
      obtain ⟨ready, next, rfl, -, hnext⟩ := queuePoints_explicit hpoints hsync
      have hready := hb.ready hsync
      simp only [Option.getD_some]
      omega
    · intro _ hstate
      simp at hstate
  | @complete s streamId id b q frame stale hstream hbuffer hqueued =>
    have hsi := (hi.stream_inv hstream).1
    refine h.setStream hi hstream fun a hs => StreamLedger.withStale ?_ stale
    exact hs.setState hsi he hbuffer (by simp [hqueued]) (by simp)
  | @take s streamId id b c hstream hbuffer hcompleted =>
    have hsi := (hi.stream_inv hstream).1
    refine h.setStream hi hstream fun a hs => ?_
    exact hs.setState hsi he hbuffer (by simp [hcompleted]) (by simp)
  | @release s streamId id b c point hstream hbuffer howned hpoint =>
    obtain ⟨hsi, rfl⟩ := hi.stream_inv hstream
    refine h.setStream hi hstream fun a hs => ?_
    obtain ⟨hb, -⟩ := hs.buffer hbuffer
    have hbusy := hb.busy (by simp [howned])
    refine hs.setBuffer hsi hbuffer rfl ?_ ?_ ?_
    · intro x hx u
      simp [note, he, hx.symm]
    · simp only [note, he, and_self, if_true]
      refine ⟨hb.mode, hb.reuse, hb.ready, fun hsync => ?_, fun hstate => absurd rfl hstate⟩
      obtain ⟨p, rfl, hp⟩ := nextReusePoint_explicit hpoint hsync
      have hrelease := hb.release hsync
      simp only [Option.elim_some]
      omega
    · intro _ _
      simp only [note, he, and_self, if_true]
      exact hbusy
  | @cancel s id b q hretired hbuffer hqueued =>
    have hs := h.retired s hretired
    exact Ledger.setRetired (hi.active_eq_none hretired)
      (hs.setState (hi.retired_inv s hretired) he hbuffer (by simp) (by simp))
  | finish => exact ⟨fun s hs => (h.active s hs).none he, by simp⟩

/-- A timeline signal fails or reports its arguments unchanged. -/
def SignalHonest : (c : Ioctl) → c.Reply → Prop
  | .syncobjTimelineSignal args, r => ∀ result, r = .ok result → result = args
  | _, _ => True

/-- The syncobj handles that a successful signal set, each with its point. -/
def signalledBy : Exchange Ioctl Reply → List (UInt32 × UInt64)
  | ⟨.syncobjTimelineSignal args, .ok _⟩ => args.handles.zip args.points
  | _ => []

/-- The points that were signalled, with their handles. -/
def signalled (calls : List (Exchange Ioctl Reply)) : List (UInt32 × UInt64) :=
  calls.flatMap signalledBy

/-- A request that the kernel accepted: its buffer, what it will signal and what it waits for. -/
structure Handed where
  (streamId bufferId : UInt32)
  (readyPoint reusePoint : UInt64)

def handedBy : Exchange Ioctl Reply → List Handed
  | ⟨.queueBuffer args, .ok _⟩ =>
    [⟨args.streamId, args.bufferId, args.readyPoint, args.reusePoint⟩]
  | _ => []

/-- The requests that were handed to the kernel. -/
def handed (calls : List (Exchange Ioctl Reply)) : List Handed :=
  calls.flatMap handedBy

/-- A request as the kernel gets it. -/
def Handed.of (q : CaptureQueue) : Handed :=
  ⟨q.streamId.get, q.bufferId.get, q.readyPoint.elim 0 NonZeroU64.get,
    q.reusePoint.elim 0 NonZeroU64.get⟩

lemma signalledBy_of_not_advances {c : Ioctl} (hc : ¬ Advances c) (r : c.Reply) :
    signalledBy ⟨c, r⟩ = [] := by
  cases c <;> first | rfl | exact absurd trivial hc

lemma signalled_recording {A : (c : Ioctl) → c.Reply → Prop}
    {log log' : List (Exchange Ioctl Reply)} {c : Ioctl} {r : c.Reply}
    (h : recording A log c r log') (hc : signalledBy ⟨c, r⟩ = []) :
    signalled log' = signalled log := by
  obtain ⟨-, rfl⟩ := h
  simp [signalled, hc]

lemma silent_signalled (A : (c : Ioctl) → c.Reply → Prop) :
    Silent (recording A) fun log log' => signalled log' = signalled log where
  refl _ := rfl
  trans _ _ _ h₁ h₂ := h₂.trans h₁
  call _ _ r _ hc h := signalled_recording h (signalledBy_of_not_advances hc r)

/-- What a release of a buffer with this synchronization signals. -/
def TrackedSynchronization.signals : TrackedSynchronization → Option NonZeroU64 →
    List (UInt32 × UInt64)
  | .Explicit pair, some point => [(pair.reuseHandle.get, point.get)]
  | _, _ => []

lemma signalFailed_signalled {log log' : List (Exchange Ioctl Reply)}
    (h : SignalFailed (recording SignalHonest) log log') :
    signalled log' = signalled log := by
  rcases h with rfl | ⟨handle, point, reply, hne, hA, rfl⟩
  · rfl
  · cases reply with
    | error e => simp [signalled, signalledBy]
    | ok result => exact absurd (congrArg Except.ok (hA result rfl)) hne

/-- A release of a tracked buffer signals on that buffer's reuse syncobj. -/
def ReleaseSignals (t : CaptureTracker) (r : CaptureRelease)
    (calls : List (Exchange Ioctl Reply)) : Prop :=
  ∃ s b, t.stream r.streamId = some s ∧ s.buffer r.bufferId = some b ∧
    signalled calls = b.synchronization.signals r.reusePoint

lemma traced_signalled {t : CaptureTracker} {e : Effect}
    {calls : List (Exchange Ioctl Reply)}
    (h : Traced (recording SignalHonest) (fun log log' => signalled log' = signalled log) t e []
      calls) :
    (∀ r, e = .released r → ReleaseSignals t r calls) ∧
      ((∀ r, e ≠ .released r) → signalled calls = []) := by
  cases e with
  | none =>
    refine ⟨nofun, fun _ => ?_⟩
    rcases h with h | h
    · exact h
    · exact signalFailed_signalled h
  | registered info => exact ⟨nofun, fun _ => h⟩
  | queued q => exact ⟨nofun, fun _ => h⟩
  | released r =>
    refine ⟨?_, fun hne => absurd rfl (hne r)⟩
    rintro _ ⟨⟩
    obtain ⟨s, b, hstream, hbuffer, hsignal⟩ := h
    refine ⟨s, b, hstream, hbuffer, ?_⟩
    cases hsync : b.synchronization <;> cases hp : r.reusePoint <;> rw [hsync, hp] at hsignal
    case Explicit.some => exact congrArg signalled hsignal.2
    all_goals exact congrArg signalled hsignal

lemma queueCaptureBuffer_handed {A : (c : Ioctl) → c.Reply → Prop} (id : NonZeroU32)
    (userData : NonZeroU64) (c : CaptureClient) :
    (queueCaptureBuffer id userData).wp (recording A) c []
      (fun q _ calls => handed calls = [.of q]) (fun _ _ _ => True) := by
  refine queueCaptureBuffer_wp (fun _ _ => trivial) ?_
  rintro s b points - queue b' r calls ⟨-, rfl⟩
  cases r with
  | error e => exact fun _ _ => trivial
  | ok u => rfl

lemma CaptureClient.Registers.givesReuse {A : (c : Ioctl) → c.Reply → Prop} {c c' : CaptureClient}
    {info : CaptureBufferInfo} {log : List (Exchange Ioctl Reply)}
    (h : Registers (recording A) c info c' log) : GivesReuse info c'.capture log := by
  obtain ⟨s, b, hr, rfl, framebufferId, before, args, hid, -, rfl⟩ := h
  rw [hr.result]
  rintro _ x pair ⟨⟩ hx hname hsync
  rcases mem_append.1 hx with hx | hx
  · exact absurd hname (hr.new x hx)
  · obtain rfl := mem_singleton.1 hx
    simp [registeredReuse, registeredBy, registrationArgs, TrackedBuffer.info, hid, hsync]

/-- The call registered this buffer anew. -/
def Call.Registers (call : Call) (streamId bufferId : NonZeroU32) : Prop :=
  ∃ info, call.effect = .registered info ∧ info.streamId = streamId ∧ info.bufferId = bufferId

/-- Since the buffer was registered, a release of it signalled exactly this point, on the
syncobj with this handle. -/
def SignalledBefore (past : List Call) (streamId bufferId : NonZeroU32) (handle : UInt32)
    (point : UInt64) : Prop :=
  ∃ before call since, past = before ++ call :: since ∧
    (∃ r, call.effect = .released r ∧ r.streamId = streamId ∧ r.bufferId = bufferId) ∧
    signalled call.calls = [(handle, point)] ∧
    ∀ later ∈ since, ¬ later.Registers streamId bufferId

/-- An explicit request carries the next ready point and waits for the last reuse point, which
has been signalled on the reuse syncobj that the kernel was given with the buffer; an implicit
one carries no point. -/
def QueueLaw (past : List Call) (q : CaptureQueue) (t : Tally) : Prop :=
  (t.mode = some .Explicit ∧ q.readyPoint.map (·.get.toNat) = some (t.queues + 1) ∧
      q.reusePoint.map (·.get.toNat) = (if t.releases = 0 then none else some t.releases) ∧
      t.releases = t.queues ∧
      ∀ point, q.reusePoint = some point → ∃ handle, t.reuse = some handle ∧
        SignalledBefore past q.streamId q.bufferId handle point.get) ∨
    (t.mode = some .Implicit ∧ q.readyPoint = none ∧ q.reusePoint = none)

/-- An explicit release signals the next reuse point on the buffer's reuse syncobj; an implicit
one signals nothing. -/
def ReleaseLaw (call : Call) (r : CaptureRelease) (t : Tally) : Prop :=
  (t.mode = some .Explicit ∧ ∃ handle point, t.reuse = some handle ∧ r.reusePoint = some point ∧
      point.get.toNat = t.releases + 1 ∧ signalled call.calls = [(handle, point.get)]) ∨
    (t.mode = some .Implicit ∧ r.reusePoint = none ∧ signalled call.calls = [])

/-- What the timelines demand of one call after the calls `past`. -/
structure TimelineLaw (past : List Call) (call : Call) : Prop where
  queued : ∀ q, call.effect = .queued q →
    QueueLaw past q (tally q.streamId q.bufferId past) ∧ handed call.calls = [.of q]
  released : ∀ r, call.effect = .released r →
    ReleaseLaw call r (tally r.streamId r.bufferId past)
  otherwise_silent : (∀ r, call.effect ≠ .released r) → signalled call.calls = []
  no_overflow : ¬ CaptureOp.Overflowed call.op call.ret

/-- The last reuse point that the tally counts has been signalled. -/
def SignalsCover (history : List Call) : Prop :=
  ∀ streamId bufferId, (tally streamId bufferId history).mode = some .Explicit →
    0 < (tally streamId bufferId history).releases →
      ∃ handle, ∃ point : UInt64, (tally streamId bufferId history).reuse = some handle ∧
        point.toNat = (tally streamId bufferId history).releases ∧
        SignalledBefore history streamId bufferId handle point

variable {past : List Call} {call : Call}

lemma SignalledBefore.concat {streamId bufferId : NonZeroU32} {handle : UInt32} {point : UInt64}
    (h : SignalledBefore past streamId bufferId handle point)
    (hcall : ¬ call.Registers streamId bufferId) :
    SignalledBefore (past ++ [call]) streamId bufferId handle point := by
  obtain ⟨before, earlier, since, rfl, hrelease, hsignal, hsince⟩ := h
  refine ⟨before, earlier, since ++ [call], by simp, hrelease, hsignal, fun later hlater => ?_⟩
  rcases mem_append.1 hlater with hlater | hlater
  · exact hsince later hlater
  · exact mem_singleton.1 hlater ▸ hcall

lemma SignalsCover.concat (h : SignalsCover past) (hlaw : TimelineLaw past call) :
    SignalsCover (past ++ [call]) := by
  intro streamId bufferId
  have hold (hnot : ¬ call.Registers streamId bufferId)
      (hmode : (tally streamId bufferId past).mode = some .Explicit)
      (hpos : 0 < (tally streamId bufferId past).releases) :
      ∃ handle, ∃ point : UInt64, (tally streamId bufferId past).reuse = some handle ∧
        point.toNat = (tally streamId bufferId past).releases ∧
        SignalledBefore (past ++ [call]) streamId bufferId handle point := by
    obtain ⟨handle, point, hreuse, hpoint, hsignal⟩ := h streamId bufferId hmode hpos
    exact ⟨handle, point, hreuse, hpoint, hsignal.concat hnot⟩
  simp only [tally_concat, note]
  cases he : call.effect with
  | none => exact hold (by simp [Call.Registers, he])
  | queued q =>
    dsimp only
    split_ifs <;> exact hold (by simp [Call.Registers, he])
  | registered info =>
    dsimp only
    split_ifs with hinfo
    · intro _ hpos
      simp at hpos
    · refine hold fun ⟨info', he', hids⟩ => hinfo ?_
      obtain rfl := Effect.registered.inj (he.symm.trans he')
      exact hids
  | released r =>
    dsimp only
    split_ifs with hr
    · obtain ⟨rfl, rfl⟩ := hr
      intro hmode _
      rcases hlaw.released r he with ⟨-, handle, point, hreuse, -, hpoint, hsignal⟩ | ⟨himplicit, -⟩
      · exact ⟨handle, point.get, hreuse, hpoint, past, call, [], rfl, ⟨r, he, rfl, rfl⟩, hsignal,
          by simp⟩
      · rw [himplicit] at hmode
        simp at hmode
    · exact hold (by simp [Call.Registers, he])

/-- The state of a history of calls. -/
structure Timeline (history : List Call) (c : CaptureClient) : Prop where
  tracker : TrackerInv c.capture
  ledger : Ledger history c.capture
  cover : SignalsCover history
  laws : ∀ past call rest, history = past ++ call :: rest → TimelineLaw past call

lemma public_cases (s : TrackedSynchronization) : s.public = .Explicit ∨ s.public = .Implicit := by
  cases s
  · exact .inr rfl
  · exact .inl rfl

lemma map_new_toNat (v : UInt64) :
    (NonZeroU64.new v).map (·.get.toNat) = if v.toNat = 0 then none else some v.toNat := by
  by_cases hv : v = 0
  · have hnone : NonZeroU64.new v = none := NonZeroU64.new_eq_none.2 hv
    rw [hnone]
    simp [hv]
  · have hne : v.toNat ≠ 0 := by
      intro h
      exact hv (UInt64.toNat_inj.1 h)
    simp [NonZeroU64.new, hv, hne]

variable {c : CaptureClient}

lemma Timeline.queueLaw {q : CaptureQueue} (h : Timeline past c)
    (hm : Move c.capture (.queued q) t') :
    QueueLaw past q (tally q.streamId q.bufferId past) := by
  cases hm with
  | @queue s id b points userData hactive hcapacity hlabel hbuffer hidle hpoints =>
    obtain ⟨hb, heq⟩ := (h.ledger.active s hactive).buffer hbuffer
    have heq := heq rfl hidle
    rcases public_cases b.synchronization with hsync | hsync
    · left
      have hready := hb.ready hsync
      have hrelease := hb.release hsync
      have hmode := hb.mode
      rw [hsync] at hmode
      obtain ⟨ready, next, rfl, hpoint, -⟩ := queuePoints_explicit hpoints hsync
      refine ⟨hmode, ?_, ?_, heq.symm, ?_⟩
      · simp [hpoint, hready]
      · rw [map_new_toNat, hrelease]
      · intro point hreuse
        have hget : point.get = b.lastReleasePoint := NonZeroU64.new_eq_some.1 hreuse
        have hpos : 0 < (tally s.info.streamId id past).releases := by
          rw [← hrelease, ← hget]
          refine Nat.pos_of_ne_zero fun h0 => point.ne_zero ?_
          exact UInt64.toNat_inj.1 h0
        obtain ⟨handle, v, hreuse, hv, hsignal⟩ := h.cover s.info.streamId id hmode hpos
        have hvp : v = point.get := by
          rw [← UInt64.toNat_inj, hv, hget, hrelease]
        exact ⟨handle, hreuse, hvp ▸ hsignal⟩
    · right
      have hmode := hb.mode
      rw [hsync] at hmode
      obtain rfl := queuePoints_implicit hpoints hsync
      exact ⟨hmode, rfl, rfl⟩

lemma Timeline.releaseLaw {r : CaptureRelease} (h : Timeline past c)
    (hm : Move c.capture (.released r) t')
    (hsignal : ReleaseSignals c.capture r call.calls) :
    ReleaseLaw call r (tally r.streamId r.bufferId past) := by
  cases hm with
  | @release s streamId id b completion point hstream hbuffer howned hpoint =>
    have hb := h.ledger.buffer hstream hbuffer
    rw [(h.tracker.stream_inv hstream).2] at hb
    have hmode := hb.mode
    obtain ⟨s', b', hstream', hbuffer', hsignal⟩ := hsignal
    obtain rfl := Option.some.inj (hstream.symm.trans hstream')
    obtain rfl := Option.some.inj (hbuffer.symm.trans hbuffer')
    cases hsync : b.synchronization with
    | Explicit pair =>
      have hpublic : b.synchronization.public = .Explicit := by rw [hsync]; rfl
      obtain ⟨p, rfl, hp⟩ := nextReusePoint_explicit hpoint hpublic
      rw [hsync] at hsignal
      exact .inl ⟨hpublic ▸ hmode, pair.reuseHandle.get, p, hb.reuse pair hsync, rfl,
        by rw [hp, hb.release hpublic], hsignal⟩
    | Implicit =>
      have hpublic : b.synchronization.public = .Implicit := by rw [hsync]; rfl
      obtain rfl := nextReusePoint_implicit hpoint hpublic
      rw [hsync] at hsignal
      exact .inr ⟨hpublic ▸ hmode, rfl, hsignal⟩

/-- A consumer-owned buffer has an unused ready point, so its reuse timeline is
not exhausted either. -/
lemma Timeline.not_exhausted (h : Timeline past c) :
    ¬ Exhausted c.capture := by
  rintro ⟨streamId, id, s, b, completion, hstream, hbuffer, howned, hover⟩
  have hb := h.ledger.buffer hstream hbuffer
  cases hsync : b.synchronization with
  | Implicit => simp [nextReusePoint, hsync] at hover
  | Explicit pair =>
    have hpublic : b.synchronization.public = .Explicit := by rw [hsync]; rfl
    have hready := hb.ready hpublic
    have hrelease := hb.release hpublic
    have hbusy := hb.busy (by simp [howned])
    have hlt := b.nextReadyPoint.toNat_lt
    simp only [nextReusePoint, hsync] at hover
    split at hover
    · cases hover
    · rename_i hnone
      cases hsucc : checkedSucc b.lastReleasePoint with
      | none =>
        have hmax := checkedSucc_eq_none.1 hsucc
        omega
      | some v =>
        have hv := checkedSucc_eq_some.1 hsucc
        rw [hsucc, Option.bind_some, NonZeroU64.new_eq_none] at hnone
        rw [hnone] at hv
        simp at hv

/-- What one call does: its move, its signals, no overflow, the request that it handed over and
the reuse handle that it gave the kernel. -/
structure CaptureOp.Timely (op : CaptureOp) (c : CaptureClient) (ret : op.Ret)
    (c' : CaptureClient) (calls : List (Exchange Ioctl Reply)) : Prop where
  move : Move c.capture (op.effect ret) c'.capture
  release : ∀ r, op.effect ret = .released r → ReleaseSignals c.capture r calls
  silent : (∀ r, op.effect ret ≠ .released r) → signalled calls = []
  no_overflow : ¬ op.Overflowed ret
  queue : ∀ q, op.effect ret = .queued q → handed calls = [.of q]
  register : ∀ info, op.effect ret = .registered info → GivesReuse info c'.capture calls

lemma CaptureOp.run_timeline (op : CaptureOp) (c : CaptureClient)
    (hc : ¬ Exhausted c.capture) :
    (op.run c).wp (recording SignalHonest) [] fun out calls => op.Timely c out.1 out.2 calls := by
  have hspec := CaptureOp.run_spec (silent_signalled SignalHonest)
    (fun _ _ _ _ h => signalled_recording h rfl)
    (fun _ _ _ _ h => signalled_recording h rfl) op c []
  have hgiven : (op.run c).wp (recording SignalHonest) [] fun out calls =>
      (∀ q, op.effect out.1 = .queued q → handed calls = [.of q]) ∧
        ∀ info, op.effect out.1 = .registered info → GivesReuse info out.2.capture calls := by
    cases op with
    | queueCaptureBuffer id userData =>
      refine wp_result (queueCaptureBuffer_handed id userData c) ?_
        fun _ _ _ _ => ⟨nofun, nofun⟩
      refine fun q _ _ hq => ⟨?_, nofun⟩
      rintro _ ⟨⟩
      exact hq
    | registerCaptureBuffer id mode =>
      refine wp_result (registerCaptureBuffer_registers (Follows.any _) id mode
        c []) ?_ fun _ _ _ _ => ⟨nofun, nofun⟩
      refine fun info _ _ hinfo => ⟨nofun, ?_⟩
      rintro _ ⟨⟩
      exact hinfo.1.givesReuse
    | allocateLinearXrgb8888Buffer mode =>
      refine wp_result (allocateLinearXrgb8888Buffer_registers (Follows.any _)
        mode c []) ?_ fun _ _ _ _ => ⟨nofun, nofun⟩
      refine fun info _ _ hinfo => ⟨nofun, ?_⟩
      rintro _ ⟨⟩
      exact hinfo.1.givesReuse
    | releaseCaptureBuffer streamId id =>
      refine Program.wp_mono _ hspec ?_
      rintro ⟨_ | _, _⟩ _ - <;> exact ⟨nofun, nofun⟩
    | _ => exact Program.wp_mono _ hspec fun _ _ _ => ⟨nofun, nofun⟩
  refine Program.wp_mono _ (Program.wp_and _ hspec hgiven) ?_
  rintro out calls ⟨⟨hmove, htraced, hover⟩, hqueue, hregister⟩
  obtain ⟨hrelease, hsilent⟩ := traced_signalled htraced
  exact ⟨hmove, hrelease, hsilent, mt hover hc, hqueue, hregister⟩

/-- One call after a history keeps everything the timelines need. -/
lemma Timeline.concat {c' : CaptureClient} (h : Timeline past c)
    (hm : Move c.capture call.effect c'.capture)
    (hreuse : ∀ info, call.effect = .registered info → GivesReuse info c'.capture call.calls)
    (hlaw : TimelineLaw past call) :
    Timeline (past ++ [call]) c' where
  tracker := hm.inv h.tracker
  ledger := hm.ledger rfl hreuse h.tracker h.ledger
  cover := h.cover.concat hlaw
  laws := by
    intro before x rest heq
    rcases eq_nil_or_concat rest with rfl | ⟨rest', y, rfl⟩
    · obtain ⟨rfl, hx⟩ := append_inj' heq rfl
      obtain rfl := singleton_inj.1 hx
      exact hlaw
    · have heq' : past ++ [call] = (before ++ x :: rest') ++ [y] := by simpa using heq
      obtain ⟨hpast, -⟩ := append_inj' heq' rfl
      exact h.laws before x rest' hpast

lemma Timeline.initial (lease : GrantLease) : Timeline [] { lease } where
  tracker := .empty
  ledger := .empty
  cover := by
    intro _ _ hmode
    simp [tally] at hmode
  laws := by
    intro past call rest heq
    simp at heq

lemma reachable_timeline (lease : GrantLease) {history : List Call}
    (hr : captureService.Run SignalHonest { lease } history c) : Timeline history c := by
  refine hr.invariant (I := Timeline) (.initial lease) ?_
  intro past c op h
  refine Program.wp_mono _ (CaptureOp.run_timeline op c h.not_exhausted) ?_
  rintro ⟨ret, c'⟩ calls ht
  refine h.concat ht.move ht.register ⟨?_, ?_, ht.silent, ht.no_overflow⟩
  · intro q hq
    have hqueue : Move c.capture (.queued q) c'.capture := hq ▸ ht.move
    exact ⟨h.queueLaw hqueue, ht.queue q hq⟩
  · intro r hr
    have hrelease : Move c.capture (.released r) c'.capture := hr ▸ ht.move
    exact h.releaseLaw hrelease (ht.release r hr)

/-- Every call of every history obeys the timelines, whatever the kernel replies
to anything but a timeline signal. -/
theorem explicit_timeline_law (lease : GrantLease) {history : List Call} {c : CaptureClient}
    (hr : captureService.Run SignalHonest { lease } history c) (i : ℕ)
    (hi : i < history.length) : TimelineLaw (history.take i) history[i] := by
  refine (reachable_timeline lease hr).laws _ _ (history.drop (i + 1)) ?_
  rw [getElem_cons_drop, take_append_drop]

lemma sampleKernel_honest (log : List (Exchange Ioctl Reply)) (c : Ioctl) :
    SignalHonest c (sampleKernel log c) := by
  cases c with
  | syncobjTimelineSignal args =>
    intro result hresult
    exact (Except.ok.inj hresult).symm
  | _ => trivial

/-- Stream 7 shows buffer 5 once, takes it back and queues it again. -/
def cycleOps : List CaptureOp :=
  [.startCapture sampleCapabilities .ExcludeFromFrame,
   .registerCaptureBuffer 9 .Explicit,
   .queueCaptureBuffer 5 11,
   .recordCaptureFrame ⟨11, 1, 0, 3, 7, 5, 0, 0, 0, 0, 0, 0, 0, 0, 0, 0, 0, 0, 0, 0, 0⟩,
   .takeCaptureCompletion ⟨7, 5, 11, some 1⟩,
   .releaseCaptureBuffer 7 5,
   .queueCaptureBuffer 5 12]

def cycleRun : List Call × CaptureClient :=
  captureService.replay sampleKernel cycleOps { lease := sampleLease }

lemma cycleRun_run :
    captureService.Run SignalHonest { lease := sampleLease } cycleRun.1 cycleRun.2 :=
  Service.run_replay (M := captureService) sampleKernel_honest cycleOps _

/-- The second request of the sample cycle carries ready point 2 and waits for reuse point 1,
which the release signalled on syncobj 2. -/
theorem explicit_timeline_law_cycle :
    TimelineLaw (cycleRun.1.take 6) (cycleRun.1.get ⟨6, by decide⟩) ∧
      (cycleRun.1.get ⟨6, by decide⟩).effect = .queued ⟨7, 5, 12, some 2, some 1⟩ ∧
      signalled (cycleRun.1.get ⟨5, by decide⟩).calls = [(2, 1)] :=
  ⟨explicit_timeline_law sampleLease cycleRun_run 6 (by decide), by decide, by decide⟩

end Pronk.Capture
