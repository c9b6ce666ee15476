import Pronk.PipeWire.Ownership

/-!
# What a reconnecting consumer does to the source

The actor is never told that a buffer was removed. As long as a buffer that was
removed after its first return is neither published nor returned again, each event
finds the actor in the state it expects and each publish finds the buffer bound.
-/
namespace Pronk.PipeWire
open Transition ActorBuffers VideoSourceEvent

/-- Everything that is recorded about one buffer. -/
structure BufferView where
  slot : Option Slot
  actor : Option ActorBufferState
  queued : List VideoSourceEvent
  publishing : Option VideoFrame
  offered : Bool
  transport : Option PipeWireBufferTransport
  (returned stale : Bool)

/-- What the source records about a buffer. -/
def SourceState.view (s : SourceState) (id : NonZeroU32) : BufferView where
  slot := s.thread.tracker.slot? id
  actor := s.actor.lookup id
  queued := s.events.filter (·.bufferId? = some id)
  publishing := s.publishing.filter (·.bufferId = id)
  offered := id ∈ s.offered
  transport := s.transports.lookup id
  returned := id ∈ s.returned
  stale := id ∈ s.stale

open SourceState (view)

/-- The slot of a buffer that was not removed since its first return, at the server after a
publish or available. -/
def Kept (v : BufferView) (served : Bool) (transport : Option PipeWireBufferTransport) : Prop :=
  v.stale = false → ∀ slot, v.slot = some slot →
    slot.transport = transport ∧ (served = false → slot.ownership = .Available) ∧
    (served = true → ∃ release, slot.ownership = .ServerOwned true release)

/-- The life of a buffer: never returned, first returned, returned again, available to the
actor, published, and served. The actor follows it also when the buffer was removed. -/
def Life (id : NonZeroU32) (v : BufferView) : Prop :=
  v.slot ≠ none ∧
  match v.actor, v.queued, v.publishing, v.offered, v.returned with
  | some .AwaitingInitial, [], none, false, false => v.stale = false ∧
    ∀ slot, v.slot = some slot → slot.ownership ≠ .Available ∧
      ∀ release, slot.ownership ≠ .ServerOwned true release
  | some .AwaitingInitial, [.BufferAvailable id' transport], none, false, true =>
    id' = id ∧ Kept v false (some transport)
  | some .Submitted, [.BufferReleased id'], none, false, true =>
    id' = id ∧ v.transport ≠ none ∧ Kept v false v.transport
  | some .Available, [], none, true, true => v.transport ≠ none ∧ Kept v false v.transport
  | some .Submitted, [], some frame, false, true => v.transport ≠ none ∧
    Kept v false v.transport ∧ (frame.acquirePoint.isSome ↔ v.transport = some .SyncTimeline) ∧
    (v.stale = false → ∀ slot, v.slot = some slot → frame.damage.isBoundedBy slot.layout = true)
  | some .Submitted, [], none, false, true => v.transport ≠ none ∧ Kept v true v.transport
  | _, _, _, _, _ => False

namespace Life

variable {id : NonZeroU32} {v : BufferView} {slot : Slot}

attribute [local grind =] Life Kept

lemma bind (h : Life id v) (hslot : v.slot = some slot) (hunbound : slot.ownership = .Unbound)
    (slot' : Slot) (howner : slot'.ownership = .ServerOwned false none) :
    Life id { v with slot := some slot' } := by
  obtain ⟨hsome, hlife⟩ := h
  split at hlife <;> grind -linarith

lemma unbind (h : Life id v) (slot' : Slot) (howner : slot'.ownership = .Unbound) :
    Life id { v with slot := some slot', stale := v.returned || v.stale } := by
  obtain ⟨hsome, hlife⟩ := h
  split at hlife <;> grind -linarith

lemma returnBuffer (h : Life id v) (hstale : v.stale = false) (hslot : v.slot = some slot)
    {submitted : Bool} {release : Option NonZeroU64}
    (howner : slot.ownership = .ServerOwned submitted release)
    {transport : PipeWireBufferTransport} (htransport : slot.transport = some transport)
    (slot' : Slot) (howner' : slot'.ownership = .Available)
    (htransport' : slot'.transport = some transport) :
    Life id { v with
      slot := some slot'
      queued := v.queued ++
        [if submitted then .BufferReleased id else .BufferAvailable id transport]
      returned := true } := by
  obtain ⟨hsome, hlife⟩ := h
  split at hlife <;> grind -linarith

lemma publish (h : Life id v) (hoffered : v.offered = true) {frame : VideoFrame}
    {transport : PipeWireBufferTransport} (htransport : v.transport = some transport)
    (hdamage : ∀ slot, v.slot = some slot → frame.damage.isBoundedBy slot.layout = true)
    (hpoint : frame.acquirePoint.isSome ↔ transport = .SyncTimeline) :
    v.actor = some .Available ∧ Life id { v with
      actor := some .Submitted, publishing := some frame, offered := false } := by
  obtain ⟨hsome, hlife⟩ := h
  split at hlife <;> grind -linarith

lemma handlePublish (h : Life id v) (hstale : v.stale = false) {frame : VideoFrame}
    (hframe : v.publishing = some frame) : ∃ slot transport, v.slot = some slot ∧
      slot.ownership = .Available ∧ slot.transport = some transport ∧
      frame.damage.isBoundedBy slot.layout = true ∧
      (frame.acquirePoint.isSome ↔ transport = .SyncTimeline) ∧
      ∀ slot' release, slot'.ownership = .ServerOwned true release →
        slot'.transport = some transport →
        Life id { v with slot := some slot', publishing := none } := by
  obtain ⟨hsome, hlife⟩ := h
  obtain ⟨slot, hslot⟩ := Option.ne_none_iff_exists'.1 hsome
  cases htransport : v.transport <;> split at hlife <;> grind -linarith

lemma handleEvent (h : Life id v) {event : VideoSourceEvent} {rest : List VideoSourceEvent}
    (hqueued : v.queued = event :: rest) :
    (∃ transport, event = .BufferAvailable id transport ∧ v.actor = some .AwaitingInitial ∧
      Life id { v with
        actor := some .Available, queued := rest, offered := true, transport := some transport }) ∨
    (event = .BufferReleased id ∧ v.actor = some .Submitted ∧
      Life id { v with actor := some .Available, queued := rest, offered := true }) := by
  obtain ⟨hsome, hlife⟩ := h
  split at hlife <;> grind -linarith

end Life

/-- A buffer that was removed after its first return is neither published by the
thread nor returned again. -/
def NotStale (s : SourceState) : Input → Prop
  | .returnBuffer raw => ∀ id ∈ s.thread.bufferIdForRaw raw, id ∉ s.stale
  | .handlePublish => ∀ frame ∈ s.publishing, frame.bufferId ∉ s.stale
  | _ => True

instance (s : SourceState) (i : Input) : Decidable (NotStale s i) := by
  unfold NotStale
  split <;> infer_instance

/-- The thread keeps its invariant, every buffer of the pool lives, and what is on its way
concerns a buffer of the pool. -/
structure Lively (s : SourceState) : Prop where
  thread : ThreadInv s.thread s.server
  life : ∀ id, (s.thread.tracker.slot? id).isSome → Life id (s.view id)
  events : ∀ e ∈ s.events, ∃ id, e.bufferId? = some id ∧ (s.thread.tracker.slot? id).isSome
  publishing : ∀ frame, s.publishing = some frame →
    (s.thread.tracker.slot? frame.bufferId).isSome

lemma slot_setSlot_isSome {t : BufferTracker} {id id' : NonZeroU32}
    {transport : Option PipeWireBufferTransport} {ownership : Ownership} :
    ((t.setSlot id transport ownership).slot? id').isSome = (t.slot? id').isSome := by
  by_cases h : id' = id
  · subst h
    have hself : (t.setSlot id' transport ownership).slot? id' = (t.slot? id').map
        fun slot => { slot with transport := transport, ownership := ownership } :=
      Keyed.lookup_modify_self fun _ => rfl
    rw [hself, Option.isSome_map]
  · rw [slot_setSlot_of_ne h]

namespace Lively

variable {s s' : SourceState} {raw : ℕ}

lemma update (h : Lively s) (id : NonZeroU32) (hthread : ThreadInv s'.thread s'.server)
    (hpool : ∀ id', (s'.thread.tracker.slot? id').isSome = (s.thread.tracker.slot? id').isSome)
    (hself : (s.thread.tracker.slot? id).isSome → Life id (s.view id) → Life id (s'.view id))
    (hother : ∀ id' ≠ id, s'.view id' = s.view id')
    (hevents : ∀ e ∈ s'.events, e ∈ s.events ∨ e.bufferId? = some id)
    (hpublishing : ∀ frame, s'.publishing = some frame → s.publishing = some frame ∨
      frame.bufferId = id) (hid : (s.thread.tracker.slot? id).isSome) : Lively s' where
  thread := hthread
  life := by
    have hlife := h.life
    intro id' hid'
    by_cases heq : id' = id <;> grind -linarith
  events := by
    have hold := h.events
    grind -linarith
  publishing := by
    have hold := h.publishing
    grind -linarith

lemma addBuffer (h : Lively s) {dataPlanes : ℕ} {hasSyncMeta : Bool}
    (hmay : s.mayAdd raw dataPlanes hasSyncMeta = true) :
    Lively (s.addBuffer raw dataPlanes hasSyncMeta) ∧
      (s.addBuffer raw dataPlanes hasSyncMeta).rejected = s.rejected := by
  simp only [SourceState.mayAdd, Bool.and_eq_true, Bool.or_eq_true, decide_eq_true_eq,
    List.all_eq_true] at hmay
  obtain ⟨⟨hfresh, hroom⟩, hplanes⟩ := hmay
  have hplanes' : dataPlanes = 1 ∨ dataPlanes = 3 ∧ hasSyncMeta = true ∧
      ∀ b ∈ s.thread.buffers, b.descriptor.hasTimelines = true := by
    simpa only [and_assoc] using hplanes
  obtain ⟨id, slot, transport, thread, hok, hslot, hunbound, htracker, hinv⟩ :=
    h.thread.addBuffer hfresh hroom hplanes'
  have hs' : s.addBuffer raw dataPlanes hasSyncMeta =
      { s with thread := thread, server := s.server.insert raw (.held none) } := by
    simp [SourceState.addBuffer, hok]
  rw [hs']
  refine ⟨h.update id hinv ?_ ?_ ?_ (fun _ => .inl) (fun _ => .inl) (by simp [hslot]), rfl⟩
  · intro id'
    rw [htracker, slot_setSlot_isSome]
  · intro _ hlife
    have hview := hlife.bind hslot hunbound
      { slot with transport := some transport, ownership := .ServerOwned false none } rfl
    rwa [← slot_setSlot_self hslot, ← htracker] at hview
  · intro id' hne
    simp only [view, htracker, slot_setSlot_of_ne hne]

lemma removeBuffer (h : Lively s) (hraw : raw ∈ s.server) :
    Lively (s.removeBuffer raw) ∧ (s.removeBuffer raw).rejected = s.rejected := by
  obtain ⟨id, slot, thread, hid, hok, hslot, htracker, hinv⟩ := h.thread.removeBuffer hraw
  have hs' : s.removeBuffer raw = { s with
      thread := thread
      server := s.server.erase raw
      stale := [id].filter (· ∈ s.returned) ++ s.stale } := by
    simp [SourceState.removeBuffer, hok, hid]
  rw [hs']
  refine ⟨h.update id hinv ?_ ?_ ?_ (fun _ => .inl) (fun _ => .inl) (by simp [hslot]), rfl⟩
  · intro id'
    rw [htracker, slot_setSlot_isSome]
  · intro _ hlife
    have hview := hlife.unbind { slot with transport := none, ownership := .Unbound } rfl
    rw [← slot_setSlot_self hslot, ← htracker] at hview
    have hstale : decide (id ∈ [id].filter (· ∈ s.returned) ++ s.stale) =
        (decide (id ∈ s.returned) || decide (id ∈ s.stale)) := by simp
    simpa only [view, hstale] using hview
  · intro id' hne
    simp [view, htracker, slot_setSlot_of_ne hne, hne]

lemma returnBuffer (h : Lively s) {release : Option NonZeroU64}
    (hheld : s.server.lookup raw = some (.held release))
    (hstale : ∀ id ∈ s.thread.bufferIdForRaw raw, id ∉ s.stale) :
    Lively (s.returnBuffer raw release) ∧ (s.returnBuffer raw release).rejected = s.rejected := by
  obtain ⟨id, slot, submitted, transport, thread, hid, hslot, howner, htransport, hok, -, htracker,
    hinv⟩ := h.thread.processReturnedBuffer hheld
  set event : VideoSourceEvent :=
    if submitted then .BufferReleased id else .BufferAvailable id transport with hevent
  have hbuffer : event.bufferId? = some id := by
    cases submitted <;> simp [hevent, bufferId?]
  have hs' : s.returnBuffer raw release = { s with
      thread := thread
      server := s.server.insert raw .dequeued
      events := s.events ++ [event]
      returned := id :: s.returned } := by
    simp [SourceState.returnBuffer, hok, hbuffer]
  rw [hs']
  refine ⟨h.update id hinv ?_ ?_ ?_ ?_ (fun _ => .inl) (by simp [hslot]), rfl⟩
  · intro id'
    rw [htracker, slot_setSlot_isSome]
  · intro _ hlife
    have hnotstale : (s.view id).stale = false := by simpa [view] using hstale id hid
    have hview := hlife.returnBuffer hnotstale hslot howner htransport
      { slot with transport := some transport, ownership := .Available } rfl rfl
    rw [← slot_setSlot_self hslot, ← htracker] at hview
    simpa [view, hbuffer, ← hevent] using hview
  · intro id' hne
    simp [view, htracker, slot_setSlot_of_ne hne, hne, hbuffer, hne.symm]
  · intro e he
    rcases List.mem_append.1 he with hold | hnew
    · exact .inl hold
    · exact .inr (List.mem_singleton.1 hnew ▸ hbuffer)

lemma publish (h : Lively s) {frame : VideoFrame} (hnone : s.publishing = none)
    (hmay : s.mayPublish frame = true) :
    Lively (s.publish frame) ∧ (s.publish frame).rejected = s.rejected := by
  simp only [SourceState.mayPublish, Bool.and_eq_true, decide_eq_true_eq, Option.any_eq_true]
    at hmay
  obtain ⟨⟨hoffered, b, hb, hdamage⟩, transport, htransport, hpoint⟩ := hmay
  obtain ⟨slot, hslot, hagree⟩ := h.thread.exists_slot hb
  have hsome : (s.thread.tracker.slot? frame.bufferId).isSome := by simp [hslot]
  have hfits : ∀ slot', (s.view frame.bufferId).slot = some slot' →
      frame.damage.isBoundedBy slot'.layout = true := by
    intro slot' hslot'
    obtain rfl := Option.some.inj (hslot.symm.trans hslot')
    rwa [hagree.layout]
  obtain ⟨hactor, hview⟩ := (h.life _ hsome).publish (by simpa [view] using hoffered)
    htransport hfits hpoint
  have hs' : s.publish frame = { s with
      actor := s.actor.insert frame.bufferId .Submitted
      publishing := some frame
      offered := s.offered.filter (· ≠ frame.bufferId) } := by
    have hlookup : s.actor.lookup frame.bufferId = some .Available := hactor
    simp [SourceState.publish, publishFrame, hlookup]
  rw [hs']
  refine ⟨h.update frame.bufferId h.thread (fun _ => rfl) ?_ ?_ (fun _ => .inl) ?_ hsome, rfl⟩
  · intro _ _
    simpa [view, Option.filter] using hview
  · intro id' hne
    simp [view, hne, hne.symm, hnone]
  · intro frame' hframe'
    exact .inr (by rw [Option.some.inj hframe'])

lemma handlePublish (h : Lively s) {frame : VideoFrame} (hframe : s.publishing = some frame)
    (hstale : frame.bufferId ∉ s.stale) :
    Lively (s.handlePublish frame) ∧ (s.handlePublish frame).rejected = s.rejected := by
  have hsome := h.publishing frame hframe
  have hpublishing : (s.view frame.bufferId).publishing = some frame := by
    simp [view, hframe, Option.filter]
  have hnotstale : (s.view frame.bufferId).stale = false := by
    simpa [view] using hstale
  obtain ⟨slot, transport, hslot, howner, htransport, hdamage, hpoint, hview⟩ :=
    (h.life _ hsome).handlePublish hnotstale hpublishing
  obtain ⟨raw, thread, hok, -, htracker, hinv⟩ :=
    h.thread.publishFrame hslot howner hdamage htransport hpoint
  have hs' : s.handlePublish frame = { s with
      thread := thread
      publishing := none
      server := s.server.insert raw (.held frame.acquirePoint) } := by
    simp [SourceState.handlePublish, hok]
  rw [hs']
  refine ⟨h.update frame.bufferId hinv ?_ ?_ ?_ (fun _ => .inl) (by simp) hsome, rfl⟩
  · intro id'
    rw [htracker, slot_setSlot_isSome]
  · intro _ _
    have hlife := hview ⟨slot.id, slot.layout, slot.hasTimelines, some transport,
      .ServerOwned true frame.acquirePoint⟩ frame.acquirePoint rfl rfl
    rwa [← slot_setSlot_self hslot, ← htracker] at hlife
  · intro id' hne
    simp [view, htracker, slot_setSlot_of_ne hne, hframe, hne.symm, Option.filter]

lemma handleEvent (h : Lively s) {event : VideoSourceEvent} {rest : List VideoSourceEvent}
    (hevents : s.events = event :: rest) :
    Lively (s.handleEvent event rest) ∧ (s.handleEvent event rest).rejected = s.rejected := by
  obtain ⟨id, hid, hsome⟩ := h.events event (by simp [hevents])
  have hqueued : (s.view id).queued = event :: rest.filter (·.bufferId? = some id) := by
    simp [view, hevents, hid]
  rcases (h.life id hsome).handleEvent hqueued with
    ⟨transport, rfl, hactor, hview⟩ | ⟨rfl, hactor, hview⟩
  · have hs' : s.handleEvent (.BufferAvailable id transport) rest = { s with
        actor := s.actor.insert id .Available
        events := rest
        offered := id :: s.offered
        transports := s.transports.insert id transport } := by
      have hlookup : s.actor.lookup id = some .AwaitingInitial := hactor
      simp [SourceState.handleEvent, handleSourceEvent, expect, hlookup,
        SourceState.report]
    rw [hs']
    refine ⟨h.update id h.thread (fun _ => rfl) ?_ ?_ ?_ (fun _ => .inl) hsome, rfl⟩
    · intro _ _
      simpa [view] using hview
    · intro id' hne
      simp [view, hne, hne.symm, hevents, bufferId?]
    · intro e he
      exact .inl (hevents ▸ List.mem_cons_of_mem _ he)
  · have hs' : s.handleEvent (.BufferReleased id) rest = { s with
        actor := s.actor.insert id .Available
        events := rest
        offered := id :: s.offered } := by
      have hlookup : s.actor.lookup id = some .Submitted := hactor
      simp [SourceState.handleEvent, handleSourceEvent, expect, hlookup,
        SourceState.report]
    rw [hs']
    refine ⟨h.update id h.thread (fun _ => rfl) ?_ ?_ ?_ (fun _ => .inl) hsome, rfl⟩
    · intro _ _
      simpa [view] using hview
    · intro id' hne
      simp [view, hne, hne.symm, hevents, bufferId?]
    · intro e he
      exact .inl (hevents ▸ List.mem_cons_of_mem _ he)

lemma next (h : Lively s) {i : Input} (hstale : NotStale s i) (hs' : s.next i = some s') :
    Lively s' ∧ s'.rejected = none := by
  have hrejected : s.rejected = none := by
    cases hr : s.rejected with
    | none => rfl
    | some _ => simp [SourceState.next, hr] at hs'
  rw [← hrejected]
  cases i with
  | formatNegotiated | formatCleared => grind -linarith [SourceState.next]
  | addBuffer raw dataPlanes hasSyncMeta => grind -linarith [SourceState.next, h.addBuffer]
  | removeBuffer raw => grind -linarith [SourceState.next, h.removeBuffer]
  | returnBuffer raw => grind -linarith [SourceState.next, h.returnBuffer, NotStale]
  | publish frame => grind -linarith [SourceState.next, h.publish, Option.isNone_iff_eq_none]
  | handlePublish =>
    grind -linarith [SourceState.next, h.handlePublish, NotStale, Option.map_eq_some_iff]
  | handleEvent => grind -linarith [SourceState.next, h.handleEvent]

end Lively

lemma lookup_actorNew {buffers : List VideoBuffer} {id : NonZeroU32}
    (h : id ∈ buffers.map (·.id)) :
    (new buffers).lookup id = some .AwaitingInitial := by
  have hfold : ∀ (rest : List VideoBuffer) (table : ActorBuffers),
      table.lookup id = some .AwaitingInitial ∨ id ∈ rest.map (·.id) →
      (rest.foldl (fun table buffer => table.insert buffer.id .AwaitingInitial) table).lookup id =
        some .AwaitingInitial := by
    intro rest
    induction rest with
    | nil => simp
    | cons buffer rest ih =>
      intro table hcase
      refine ih _ ?_
      by_cases heq : id = buffer.id
      · exact .inl (heq ▸ AList.lookup_insert table)
      · rw [AList.lookup_insert_ne heq]
        simpa [heq] using hcase
  exact hfold buffers ∅ (.inr h)

lemma lively_new {buffers : List VideoBuffer} (h : (buffers.map (·.id)).Nodup) :
    Lively (SourceState.new buffers) where
  thread := ThreadInv.initial h
  life := by
    intro id hsome
    obtain ⟨slot, hslot⟩ := Option.isSome_iff_exists.1 hsome
    obtain ⟨buffer, hbuffer, hnew⟩ := List.mem_map.1 (Keyed.mem_of_lookup hslot)
    have hid : buffer.id = id := by
      rw [← Keyed.key_of_lookup hslot, ← hnew]
    have hactor := lookup_actorNew (List.mem_map.2 ⟨buffer, hbuffer, hid⟩)
    have hunbound : slot.ownership = .Unbound := by rw [← hnew]
    have hview : (SourceState.new buffers).view id =
        ⟨some slot, some .AwaitingInitial, [], none, false, none, false, false⟩ := by
      rw [← hslot, ← hactor]
      rfl
    rw [hview]
    exact ⟨by simp, rfl, by simp [hunbound]⟩
  events := by simp [SourceState.new]
  publishing := by simp [SourceState.new]

/-- Without a stale buffer neither the thread nor the actor refuses anything. -/
theorem reconnect_rejects_nothing {config : VideoSourceConfig} {buffers : List VideoBuffer}
    (hvalid : config.validate buffers = .ok ()) {s : SourceState}
    (h : (source.guard NotStale).Reach (SourceState.new buffers) s) : s.rejected = none := by
  have hinv : Lively s ∧ s.rejected = none := by
    refine h.invariant (I := fun s => Lively s ∧ s.rejected = none)
      ⟨lively_new (validate_nodup hvalid), rfl⟩ fun s i s' hs hnext => ?_
    obtain ⟨hstale, hs'⟩ := Machine.guard_next.1 hnext
    exact hs.1.next hstale hs'
  exact hinv.2

def sampleLayout : VideoBufferLayout := ⟨2, 2, 8, 16, 0⟩

def samplePool : List VideoBuffer := [⟨1, sampleLayout, false⟩, ⟨2, sampleLayout, false⟩]

def sampleConfig : VideoSourceConfig :=
  ⟨"node", "screen", "session", "device", 3, 0, 4, 5, 60⟩

def sampleFrame : VideoFrame := ⟨1, 0, 0, ⟨0, 0, 2, 2⟩, false, none⟩

/-- A consumer that disconnects and its replacement, which is offered the same pool. -/
def reconnectInputs (before after : List Input) : List Input :=
  [.formatNegotiated, .addBuffer 10 1 false, .addBuffer 11 1 false] ++ before ++
  [.removeBuffer 10, .removeBuffer 11, .formatCleared,
    .formatNegotiated, .addBuffer 20 1 false, .addBuffer 21 1 false] ++ after

/-- The first consumer leaves before a buffer was returned. -/
theorem reconnect_rejects_nothing_fresh :
    sampleConfig.validate samplePool = .ok () ∧
    ∃ s, (source.guard NotStale).Reach (SourceState.new samplePool) s ∧
      s.returned = [⟨1, by decide⟩, ⟨1, by decide⟩] ∧ s.rejected = none := by
  have hvalid : sampleConfig.validate samplePool = .ok () := by decide +kernel
  obtain ⟨s, hs, hreturned⟩ : ∃ s, (source.guard NotStale).Reach (SourceState.new samplePool) s ∧
      s.returned = [⟨1, by decide⟩, ⟨1, by decide⟩] :=
    Machine.exists_reach (reconnectInputs [] [.returnBuffer 20, .handleEvent, .publish sampleFrame,
      .handlePublish, .returnBuffer 20, .handleEvent]) (by decide +kernel)
  exact ⟨hvalid, s, hs, hreturned, reconnect_rejects_nothing hvalid hs⟩

/-- The first consumer leaves after a buffer was returned. The replacement's first
return of that buffer is an event the actor refuses. -/
theorem reconnect_poisons_source : sampleConfig.validate samplePool = .ok () ∧
    ∃ s, source.Reach (SourceState.new samplePool) s ∧
      s.rejected = some (.event (.InvalidBufferEvent "availability" 1)) := by
  exact ⟨by decide +kernel, Machine.exists_reach
    (reconnectInputs [.returnBuffer 10, .handleEvent] [.returnBuffer 20, .handleEvent])
    (by decide +kernel)⟩

end Pronk.PipeWire
