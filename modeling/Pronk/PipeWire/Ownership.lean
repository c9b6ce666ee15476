import Pronk.Library.Pairing
import Pronk.PipeWire.Source

/-!
# The thread's records agree with the server

Every buffer that the server has is bound to exactly one buffer of the pool, and the
tracker knows whether the server holds it and with which release point. So none of
the callbacks of a well-behaved server is refused by the thread.
-/
namespace Pronk.PipeWire
open Keyed List
open ThreadState (actualRelease buffer? new transport?)

abbrev ServerBuffers := AList fun _ : ℕ => ServerBuffer

/-- The server's side of a buffer that is bound. -/
def Ownership.server : Ownership → ServerBuffer
  | .ServerOwned _ release => .held release
  | _ => .dequeued

/-- A slot and its buffer tell the same. -/
structure Agree (server : ServerBuffers) (slot : Slot) (b : RuntimeBuffer) : Prop where
  layout : slot.layout = b.descriptor.layout
  hasTimelines : slot.hasTimelines = b.descriptor.hasTimelines
  transport : slot.transport = b.transport
  unbound : slot.ownership = .Unbound ↔ b.pipewireBuffer = none
  bound : ∀ raw, b.pipewireBuffer = some raw →
    b.transport ≠ none ∧ server.lookup raw = some slot.ownership.server
  waited : ∀ submitted release, slot.ownership = .ServerOwned submitted release →
    b.transport = some .Waited → release = none

attribute [local grind] Ownership.server

variable {b : RuntimeBuffer}

lemma Agree.frame {server server' : ServerBuffers} {slot : Slot} (h : Agree server slot b)
    (hraw : ∀ raw, b.pipewireBuffer = some raw → server'.lookup raw = server.lookup raw) :
    Agree server' slot b := by
  obtain ⟨hlayout, htimelines, htransport, hunbound, hbound, hwaited⟩ := h
  constructor <;> grind -linarith

lemma Agree.mem {server : ServerBuffers} {slot : Slot} {raw : ℕ} (h : Agree server slot b)
    (hraw : b.pipewireBuffer = some raw) : raw ∈ server :=
  AList.lookup_isSome.1 (by simp [(h.bound raw hraw).2])

/-- Slots, buffers and the server agree. -/
structure ThreadInv (t : ThreadState) (server : ServerBuffers) : Prop where
  ids : t.tracker.slots.map (·.id) = t.buffers.map (·.descriptor.id)
  nodup : (t.buffers.map (·.descriptor.id)).Nodup
  agree : ∀ id slot b, t.tracker.slot? id = some slot → t.buffer? id = some b →
    Agree server slot b
  owner : ∀ raw ∈ server, ∃ id b, t.buffer? id = some b ∧ b.pipewireBuffer = some raw
  distinct : ∀ id id' b b' raw, t.buffer? id = some b → t.buffer? id' = some b' →
    b.pipewireBuffer = some raw → b'.pipewireBuffer = some raw → id = id'

section SlotUpdates

variable {t : BufferTracker} {id id' : NonZeroU32} {slot : Slot}
  {transport : Option PipeWireBufferTransport} {ownership : Ownership}

lemma map_id_setSlot : (t.setSlot id transport ownership).slots.map (·.id) = t.slots.map (·.id) :=
  map_key_modify fun _ => rfl

lemma slot_setSlot_self (h : t.slot? id = some slot) :
    (t.setSlot id transport ownership).slot? id =
      some { slot with transport := transport, ownership := ownership } := by
  have hself : (t.setSlot id transport ownership).slot? id =
      (t.slot? id).map fun slot => { slot with transport := transport, ownership := ownership } :=
    lookup_modify_self fun _ => rfl
  rw [hself, h]
  rfl

lemma slot_setSlot_of_ne (h : id' ≠ id) :
    (t.setSlot id transport ownership).slot? id' = t.slot? id' :=
  lookup_modify_of_ne (fun _ => rfl) h

variable {transport : PipeWireBufferTransport}

lemma bind_ok (h : t.slot? id = some slot) (hunbound : slot.ownership = .Unbound)
    (htimelines : transport = .SyncTimeline → slot.hasTimelines = true) :
    t.bind id transport = .ok (t.setSlot id (some transport) (.ServerOwned false none)) := by
  cases transport with
  | Waited => simp [BufferTracker.bind, h, hunbound]
  | SyncTimeline => simp [BufferTracker.bind, h, hunbound, htimelines rfl]

lemma unbind_ok (h : t.slot? id = some slot) : t.unbind id = .ok (t.setSlot id none .Unbound) := by
  simp [BufferTracker.unbind, h]

lemma publish_ok {frame : VideoFrame} (h : t.slot? frame.bufferId = some slot)
    (havailable : slot.ownership = .Available)
    (hdamage : frame.damage.isBoundedBy slot.layout = true)
    (htransport : slot.transport = some transport)
    (hpoint : frame.acquirePoint.isSome ↔ transport = .SyncTimeline) :
    t.publish frame = .ok (t.setSlot frame.bufferId (some transport)
      (.ServerOwned true frame.acquirePoint)) := by
  cases transport with
  | Waited =>
    have hnone : frame.acquirePoint = none := by simpa using hpoint
    simp [BufferTracker.publish, h, havailable, hdamage, htransport, hnone]
  | SyncTimeline =>
    obtain ⟨point, hsome⟩ := Option.isSome_iff_exists.1 (hpoint.2 rfl)
    simp [BufferTracker.publish, h, havailable, hdamage, htransport, hsome]

lemma returned_ok {submitted : Bool} {release : Option NonZeroU64} (h : t.slot? id = some slot)
    (howner : slot.ownership = .ServerOwned submitted release)
    (htransport : slot.transport = some transport) :
    t.returned id release = .ok (if submitted then .Released id else .Initial id transport,
      t.setSlot id (some transport) .Available) := by
  cases submitted <;> simp [BufferTracker.returned, h, howner, htransport]

end SlotUpdates

variable {t t' : ThreadState} {server server' : ServerBuffers} {id : NonZeroU32} {raw : ℕ}

lemma buffer_id (h : t.buffer? id = some b) : b.descriptor.id = id := by
  simpa using find?_some h

lemma buffer_setBuffer_self {transport : Option PipeWireBufferTransport} {address : Option ℕ}
    {tracker : BufferTracker} (h : t.buffer? id = some b) :
    buffer? ⟨t.setBuffer id address transport, tracker⟩ id =
      some { b with pipewireBuffer := address, transport := transport } := by
  have hself : buffer? ⟨t.setBuffer id address transport, tracker⟩ id =
      (t.buffer? id).map fun b => { b with pipewireBuffer := address, transport := transport } :=
    lookup_modify_self fun _ => rfl
  rw [hself, h]
  rfl

lemma buffer_setBuffer_of_ne {id' : NonZeroU32} {transport : Option PipeWireBufferTransport}
    {address : Option ℕ} {tracker : BufferTracker} (h : id' ≠ id) :
    buffer? ⟨t.setBuffer id address transport, tracker⟩ id' = t.buffer? id' :=
  lookup_modify_of_ne (fun _ => rfl) h

namespace ThreadInv

lemma initial {buffers : List VideoBuffer} (h : (buffers.map (·.id)).Nodup) :
    ThreadInv (new buffers) ∅ where
  ids := by simp [new, BufferTracker.new, Function.comp_def]
  nodup := by simpa [new, Function.comp_def] using h
  agree := by
    intro id slot b hslot hb
    obtain ⟨v, hv, rfl⟩ := mem_map.1 (mem_of_lookup hslot)
    obtain ⟨v', hv', rfl⟩ := mem_map.1 (mem_of_lookup hb)
    have hv'id : v'.id = v.id := (buffer_id hb).trans (key_of_lookup hslot).symm
    obtain rfl : v' = v := inj_on_of_nodup_map h hv' hv hv'id
    constructor <;> simp
  owner := by simp
  distinct := by
    intro id id' b b' raw hb _ hraw
    obtain ⟨v, -, rfl⟩ := mem_map.1 (mem_of_lookup hb)
    cases hraw

lemma slot_isSome (h : ThreadInv t server) :
    (t.tracker.slot? id).isSome ↔ (t.buffer? id).isSome := by
  unfold BufferTracker.slot? buffer?
  rw [lookup_isSome, lookup_isSome, h.ids]

variable {b : RuntimeBuffer}

lemma buffer_of_mem (h : ThreadInv t server) (hb : b ∈ t.buffers) :
    t.buffer? b.descriptor.id = some b :=
  lookup_of_mem h.nodup hb

variable {slot : Slot}

lemma slot_of_mem (h : ThreadInv t server) (hslot : slot ∈ t.tracker.slots) :
    t.tracker.slot? slot.id = some slot :=
  lookup_of_mem (h.ids ▸ h.nodup) hslot

lemma exists_slot (h : ThreadInv t server) (hb : t.buffer? id = some b) :
    ∃ slot, t.tracker.slot? id = some slot ∧ Agree server slot b := by
  have hsome : (t.tracker.slot? id).isSome := h.slot_isSome.2 (by simp [hb])
  obtain ⟨slot, hslot⟩ := Option.isSome_iff_exists.1 hsome
  exact ⟨slot, hslot, h.agree _ _ _ hslot hb⟩

lemma raw_mem (h : ThreadInv t server) (hb : t.buffer? id = some b)
    (hraw : b.pipewireBuffer = some raw) : raw ∈ server := by
  obtain ⟨slot, -, hagree⟩ := h.exists_slot hb
  exact hagree.mem hraw

lemma of_raw (h : ThreadInv t server) (hraw : raw ∈ server) : ∃ id slot b,
    t.bufferIdForRaw raw = some id ∧ t.tracker.slot? id = some slot ∧ t.buffer? id = some b ∧
    b.pipewireBuffer = some raw ∧ Agree server slot b := by
  obtain ⟨id, b, hb, hbraw⟩ := h.owner raw hraw
  have hfind : (t.buffers.find? (·.pipewireBuffer = some raw)).isSome := by
    rw [find?_isSome]
    exact ⟨b, mem_of_lookup hb, by simpa using hbraw⟩
  obtain ⟨found, hfound⟩ := Option.isSome_iff_exists.1 hfind
  have hfoundraw : found.pipewireBuffer = some raw := by simpa using find?_some hfound
  have hfoundb := h.buffer_of_mem (mem_of_find?_eq_some hfound)
  obtain rfl : found.descriptor.id = id := h.distinct _ _ _ _ raw hfoundb hb hfoundraw hbraw
  obtain ⟨slot, hslot, hagree⟩ := h.exists_slot hb
  refine ⟨found.descriptor.id, slot, b, ?_, hslot, hb, hbraw, hagree⟩
  simp [ThreadState.bufferIdForRaw, hfound]

lemma update (h : ThreadInv t server) {b' : RuntimeBuffer} (hb : t.buffer? id = some b)
    (hslots : t'.tracker.slots.map (·.id) = t.tracker.slots.map (·.id))
    (hbuffers : t'.buffers.map (·.descriptor.id) = t.buffers.map (·.descriptor.id))
    (hslot : t'.tracker.slot? id = some slot) (hb' : t'.buffer? id = some b')
    (hslot_ne : ∀ id' ≠ id, t'.tracker.slot? id' = t.tracker.slot? id')
    (hbuffer_ne : ∀ id' ≠ id, t'.buffer? id' = t.buffer? id')
    (hserver : ∀ raw, b.pipewireBuffer ≠ some raw → b'.pipewireBuffer ≠ some raw →
      server'.lookup raw = server.lookup raw)
    (hnew : ∀ raw, b'.pipewireBuffer = some raw →
      b.pipewireBuffer = some raw ∨ ∀ id' c, t.buffer? id' = some c → c.pipewireBuffer ≠ some raw)
    (hgone : ∀ raw, b.pipewireBuffer = some raw → b'.pipewireBuffer = some raw ∨ raw ∉ server')
    (hagree : Agree server' slot b') : ThreadInv t' server' := by
  have hother : ∀ id' c raw, id' ≠ id → t.buffer? id' = some c → c.pipewireBuffer = some raw →
      b.pipewireBuffer ≠ some raw ∧ b'.pipewireBuffer ≠ some raw := by
    intro id' c raw hne hc hraw
    have hold : b.pipewireBuffer ≠ some raw := fun hbraw =>
      hne (h.distinct id' id c b raw hc hb hraw hbraw)
    grind -linarith
  refine ⟨by rw [hslots, hbuffers, h.ids], hbuffers ▸ h.nodup, ?_, ?_, ?_⟩
  · intro id' slot' c hslot' hc
    by_cases hid : id' = id
    · grind -linarith
    · rw [hslot_ne id' hid] at hslot'
      rw [hbuffer_ne id' hid] at hc
      refine (h.agree id' slot' c hslot' hc).frame fun raw hraw => ?_
      obtain ⟨hold, hnew'⟩ := hother id' c raw hid hc hraw
      exact hserver raw hold hnew'
  · intro raw hraw
    by_cases hb'raw : b'.pipewireBuffer = some raw
    · exact ⟨id, b', hb', hb'raw⟩
    · have hbraw : b.pipewireBuffer ≠ some raw := by grind -linarith
      have hold : raw ∈ server := by
        rw [← AList.lookup_isSome, ← hserver raw hbraw hb'raw, AList.lookup_isSome]
        exact hraw
      obtain ⟨id', c, hc, hcraw⟩ := h.owner raw hold
      exact ⟨id', c, by grind, hcraw⟩
  · have hdistinct := h.distinct
    intro id₁ id₂ c₁ c₂ raw
    by_cases h₁ : id₁ = id <;> by_cases h₂ : id₂ = id <;> grind -linarith

/-- A pool with more buffers than the server has one that is unbound. -/
lemma exists_unbound (h : ThreadInv t server) (hroom : server.keys.length < t.buffers.length) :
    ∃ id slot b, t.tracker.nextUnbound = some id ∧ t.tracker.slot? id = some slot ∧
      slot.ownership = .Unbound ∧ t.buffer? id = some b := by
  have hsome : ∃ slot ∈ t.tracker.slots, slot.ownership = .Unbound := by
    by_contra hall
    push Not at hall
    have hraw : ∀ b ∈ t.buffers, ∃ raw ∈ server.keys, b.pipewireBuffer = some raw := by
      intro b hb
      have hb' := h.buffer_of_mem hb
      obtain ⟨slot, hslot, hagree⟩ := h.exists_slot hb'
      have hbound := mt hagree.unbound.2 (hall slot (mem_of_lookup hslot))
      obtain ⟨raw, hraw⟩ := Option.ne_none_iff_exists'.1 hbound
      exact ⟨raw, AList.mem_keys.1 (hagree.mem hraw), hraw⟩
    have hinj : (t.buffers.map (·.pipewireBuffer)).Nodup := by
      refine Nodup.map_on ?_ h.nodup.of_map
      intro b hb b' hb' heq
      obtain ⟨raw, -, hraw⟩ := hraw b hb
      have hid := h.distinct _ _ _ _ raw (h.buffer_of_mem hb) (h.buffer_of_mem hb') hraw
        (heq ▸ hraw)
      exact inj_on_of_nodup_map h.nodup hb hb' hid
    have hsub : t.buffers.map (·.pipewireBuffer) ⊆ server.keys.map some := by
      intro o ho
      obtain ⟨b, hb, rfl⟩ := mem_map.1 ho
      obtain ⟨raw, hmem, hraw⟩ := hraw b hb
      exact mem_map.2 ⟨raw, hmem, hraw.symm⟩
    have hle := (subperm_of_subset hinj hsub).length_le
    simp only [length_map] at hle
    omega
  obtain ⟨slot₀, hslot₀, hunbound₀⟩ := hsome
  have hfind : (t.tracker.slots.find? (·.ownership = .Unbound)).isSome := by
    rw [find?_isSome]
    exact ⟨slot₀, hslot₀, by simpa using hunbound₀⟩
  obtain ⟨slot, hslot⟩ := Option.isSome_iff_exists.1 hfind
  have hunbound : slot.ownership = .Unbound := by simpa using find?_some hslot
  have hlookup := h.slot_of_mem (mem_of_find?_eq_some hslot)
  have hbsome : (t.buffer? slot.id).isSome := h.slot_isSome.1 (by simp [hlookup])
  obtain ⟨b, hb⟩ := Option.isSome_iff_exists.1 hbsome
  exact ⟨slot.id, slot, b, by simp [BufferTracker.nextUnbound, hslot], hlookup, hunbound, hb⟩

lemma addBuffer (h : ThreadInv t server) {dataPlanes : ℕ} {hasSyncMeta : Bool}
    (hfresh : raw ∉ server) (hroom : server.keys.length < t.buffers.length)
    (hplanes : dataPlanes = 1 ∨ dataPlanes = 3 ∧ hasSyncMeta = true ∧
      ∀ b ∈ t.buffers, b.descriptor.hasTimelines = true) :
    ∃ id slot transport t', t.addBuffer raw dataPlanes hasSyncMeta = .ok t' ∧
      t.tracker.slot? id = some slot ∧ slot.ownership = .Unbound ∧
      t'.tracker = t.tracker.setSlot id (some transport) (.ServerOwned false none) ∧
      ThreadInv t' (server.insert raw (.held none)) := by
  obtain ⟨id, slot, b, hnext, hslot, hunbound, hb⟩ := h.exists_unbound hroom
  have hagree := h.agree id slot b hslot hb
  have hbound := hagree.unbound.1 hunbound
  obtain ⟨transport, htransport, htimelines⟩ : ∃ transport,
      transport? dataPlanes b.descriptor.hasTimelines hasSyncMeta = some transport ∧
      (transport = .SyncTimeline → b.descriptor.hasTimelines = true) := by
    rcases hplanes with rfl | ⟨rfl, rfl, hall⟩
    · exact ⟨.Waited, rfl, by simp⟩
    · have htl := hall b (mem_of_lookup hb)
      exact ⟨.SyncTimeline, by simp [transport?, htl], fun _ => htl⟩
  have hbind := bind_ok hslot hunbound (hagree.hasTimelines ▸ htimelines)
  have hok : t.addBuffer raw dataPlanes hasSyncMeta = .ok
      ⟨t.setBuffer id (some raw) (some transport),
        t.tracker.setSlot id (some transport) (.ServerOwned false none)⟩ := by
    simp [ThreadState.addBuffer, hnext, hb, htransport, hbind, Except.map]
  refine ⟨id, slot, transport, _, hok, hslot, hunbound, rfl, ?_⟩
  refine h.update hb map_id_setSlot (map_key_modify fun _ => rfl) (slot_setSlot_self hslot)
    (buffer_setBuffer_self hb) (fun _ => slot_setSlot_of_ne) (fun _ => buffer_setBuffer_of_ne)
    ?_ ?_ ?_ ?_
  · grind -linarith
  · intro raw' hraw'
    obtain rfl := Option.some.inj hraw'
    exact .inr fun id' c hc hcraw => hfresh (h.raw_mem hc hcraw)
  · grind -linarith
  · have hlayout := hagree.layout
    have htimelines := hagree.hasTimelines
    constructor <;> grind -linarith

lemma removeBuffer (h : ThreadInv t server) (hraw : raw ∈ server) :
    ∃ id slot t', t.bufferIdForRaw raw = some id ∧ t.removeBuffer raw = .ok t' ∧
      t.tracker.slot? id = some slot ∧ t'.tracker = t.tracker.setSlot id none .Unbound ∧
      ThreadInv t' (server.erase raw) := by
  obtain ⟨id, slot, b, hid, hslot, hb, hbraw, hagree⟩ := h.of_raw hraw
  have hok : t.removeBuffer raw = .ok
      ⟨t.setBuffer id none none, t.tracker.setSlot id none .Unbound⟩ := by
    simp [ThreadState.removeBuffer, hid, unbind_ok hslot, hb]
  refine ⟨id, slot, _, hid, hok, hslot, rfl, ?_⟩
  refine h.update hb map_id_setSlot (map_key_modify fun _ => rfl) (slot_setSlot_self hslot)
    (buffer_setBuffer_self hb) (fun _ => slot_setSlot_of_ne) (fun _ => buffer_setBuffer_of_ne)
    ?_ ?_ ?_ ?_
  · grind -linarith
  · grind -linarith
  · intro raw' hraw'
    rw [hbraw] at hraw'
    obtain rfl := Option.some.inj hraw'
    exact .inr fun hmem => (AList.mem_erase.1 hmem).1 rfl
  · have hlayout := hagree.layout
    have htimelines := hagree.hasTimelines
    constructor <;> grind -linarith

/-- The slot of a buffer and what the server has of it are rewritten, and the buffer
keeps its address and transport. -/
lemma rewrite (h : ThreadInv t server) (ownership : Ownership)
    (hslot : t.tracker.slot? id = some slot) (hb : t.buffer? id = some b)
    (hraw : b.pipewireBuffer = some raw) (howner : ownership ≠ .Unbound)
    (hwaited : ∀ submitted release, ownership = .ServerOwned submitted release →
      b.transport = some .Waited → release = none) :
    ThreadInv { t with tracker := t.tracker.setSlot id slot.transport ownership }
      (server.insert raw ownership.server) := by
  obtain ⟨hlayout, htimelines, htransport, -, hbound, -⟩ := h.agree id slot b hslot hb
  refine h.update hb map_id_setSlot rfl (slot_setSlot_self hslot) hb
    (fun _ => slot_setSlot_of_ne) (fun _ _ => rfl) (by grind) (fun _ hraw' => .inl hraw')
    (fun _ hraw' => .inl hraw') ?_
  constructor <;> grind -linarith

lemma processReturnedBuffer (h : ThreadInv t server) {release : Option NonZeroU64}
    (hheld : server.lookup raw = some (.held release)) :
    ∃ id slot submitted transport t', t.bufferIdForRaw raw = some id ∧
      t.tracker.slot? id = some slot ∧ slot.ownership = .ServerOwned submitted release ∧
      slot.transport = some transport ∧
      t.processReturnedBuffer raw release =
        .ok (if submitted then .BufferReleased id else .BufferAvailable id transport, t') ∧
      t'.buffers = t.buffers ∧ t'.tracker = t.tracker.setSlot id (some transport) .Available ∧
      ThreadInv t' (server.insert raw .dequeued) := by
  have hmem : raw ∈ server := AList.lookup_isSome.1 (by simp [hheld])
  obtain ⟨id, slot, b, hid, hslot, hb, hbraw, hagree⟩ := h.of_raw hmem
  obtain ⟨submitted, howner⟩ : ∃ submitted, slot.ownership = .ServerOwned submitted release := by
    have hserver := (hagree.bound raw hbraw).2
    cases howner : slot.ownership <;> grind -linarith
  obtain ⟨transport, htransport⟩ := Option.ne_none_iff_exists'.1 (hagree.bound raw hbraw).1
  have hslottransport := hagree.transport.trans htransport
  have hrelease : actualRelease id b.transport release = .ok release := by
    have hwaited := hagree.waited submitted release howner
    rw [htransport] at hwaited ⊢
    cases transport with
    | Waited => simp [actualRelease, hwaited rfl]
    | SyncTimeline => rfl
  have hinv := h.rewrite .Available hslot hb hbraw (by simp) (by simp)
  rw [hslottransport] at hinv
  refine ⟨id, slot, submitted, transport,
    ⟨t.buffers, t.tracker.setSlot id (some transport) .Available⟩, hid, hslot, howner,
    hslottransport, ?_, rfl, rfl, hinv⟩
  cases submitted <;>
    simp [ThreadState.processReturnedBuffer, hid, hb, hrelease,
      returned_ok hslot howner hslottransport, Except.map, ThreadState.returnEvent]

lemma publishFrame (h : ThreadInv t server) {frame : VideoFrame}
    {transport : PipeWireBufferTransport} (hslot : t.tracker.slot? frame.bufferId = some slot)
    (havailable : slot.ownership = .Available)
    (hdamage : frame.damage.isBoundedBy slot.layout = true)
    (htransport : slot.transport = some transport)
    (hpoint : frame.acquirePoint.isSome ↔ transport = .SyncTimeline) :
    ∃ raw t', t.publishFrame frame = .ok (raw, t') ∧ t'.buffers = t.buffers ∧
      t'.tracker = t.tracker.setSlot frame.bufferId (some transport)
        (.ServerOwned true frame.acquirePoint) ∧
      ThreadInv t' (server.insert raw (.held frame.acquirePoint)) := by
  have hsome : (t.buffer? frame.bufferId).isSome := h.slot_isSome.1 (by simp [hslot])
  obtain ⟨b, hb⟩ := Option.isSome_iff_exists.1 hsome
  have hagree := h.agree _ _ _ hslot hb
  obtain ⟨raw, hraw⟩ : ∃ raw, b.pipewireBuffer = some raw :=
    Option.ne_none_iff_exists'.1 (mt hagree.unbound.2 (by simp [havailable]))
  have hbtransport := hagree.transport.symm.trans htransport
  have hinv := h.rewrite (.ServerOwned true frame.acquirePoint) hslot hb hraw (by simp)
    (by cases hpoint' : frame.acquirePoint <;> grind)
  rw [htransport] at hinv
  refine ⟨raw, ⟨t.buffers, t.tracker.setSlot frame.bufferId (some transport)
    (.ServerOwned true frame.acquirePoint)⟩, ?_, rfl, rfl, hinv⟩
  have hmeta : b.transport = some .SyncTimeline → ¬ frame.acquirePoint = none := by
    intro hsync hnone
    obtain rfl := Option.some.inj (hbtransport.symm.trans hsync)
    simp [hnone] at hpoint
  simpa [ThreadState.publishFrame, publish_ok hslot havailable hdamage htransport hpoint, hb, hraw]
    using hmeta

end ThreadInv

end Pronk.PipeWire
