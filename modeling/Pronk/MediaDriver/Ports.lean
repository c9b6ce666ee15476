import Pronk.Library.Trace
import Pronk.MediaDriver.Driver

/-!
# What the driver asks of its ports

The generations that capture and device still own are remembered before each call
whose outcome may be lost, and forgotten only when a stop returned Ok. So every call
is allowed by the calls before it, wherever earlier calls were cancelled or dropped.
-/
namespace Pronk.MediaDriver
open Interaction Method Media MediaSession Trace Driver

abbrev Entry := Exchange PortCall Reply

/-- Every reply of every port, with the calls recorded. -/
abbrev anyPorts : Environment (List Entry) PortCall Reply := recording fun _ _ => True

def captured? (e : Entry) : Option UInt64 :=
  match e.1 with
  | .captureStart request => some request.mediaGeneration
  | _ => none

def configured? (e : Entry) : Option NonZeroU64 :=
  match e.1 with
  | .configureMedia setup => some setup.mediaGeneration
  | _ => none

def isDeviceCall (e : Entry) : Bool :=
  match e.1 with
  | .configureMedia _ => true
  | .startMedia _ => true
  | .suspendMedia _ _ => true
  | .stopMedia _ _ => true
  | .stopDevice _ => true
  | _ => false

def isFinalStop (e : Entry) : Bool :=
  match e.1 with
  | .stopDevice _ => true
  | _ => false

/-- A successful `capture.stop` of the generation that the first call started. -/
def CaptureStops (x y : Entry) : Prop :=
  ∃ generation reason, captured? x = some generation.get ∧
    y = ⟨.captureStop generation reason, .ok ()⟩

/-- A successful `device.stop_media` of the generation that the first call configured. -/
def DeviceStops (x y : Entry) : Prop :=
  ∃ generation reason, configured? x = some generation ∧
    y = ⟨.stopMedia generation reason, .ok ()⟩

/-- A prepared result that fits the request it was made for. -/
structure Matches (prepared : PreparedCaptureMedia) (request : MediaStartRequest) : Prop where
  generation : prepared.mediaGeneration.get = request.mediaGeneration
  videoGeneration : prepared.videoTarget.mediaGeneration.get = request.mediaGeneration
  audioGeneration : ∀ target ∈ prepared.audioTarget,
    target.mediaGeneration.get = request.mediaGeneration
  videoKind : prepared.videoTarget.kind = .Video
  audioKind : ∀ target ∈ prepared.audioTarget, target.kind = .Audio
  audioProfile : prepared.audioTarget.isSome = prepared.configuration.audioProfileId.isSome
  mode : prepared.configuration.mode = request.route.mode

/-- One video endpoint comes first, and an audio endpoint follows exactly if an audio
profile is configured. -/
def VideoFirst (setup : DeviceMediaSetup) : Prop :=
  ∃ video audio, setup.endpoints = video :: Option.toList audio ∧ video.kind = .Video ∧
    (∀ target ∈ audio, target.kind = .Audio) ∧
    audio.isSome = setup.configuration.audioProfileId.isSome

/-- Every started capture generation was stopped afterwards. -/
abbrev CapturesStopped (log : List Entry) : Prop :=
  Answered CaptureStops (fun x => (captured? x).isSome) log

/-- Every generation configured on the device was stopped afterwards. -/
abbrev BackendsStopped (log : List Entry) : Prop :=
  Answered DeviceStops (fun x => (configured? x).isSome) log

/-- What the ports may be asked for after the calls in `log`. -/
structure Allowed (log : List Entry) (e : Entry) : Prop where
  captureStart : ∀ request, e.1 = .captureStart request →
    CapturesStopped log ∧ BackendsStopped log
  configureMedia : ∀ setup, e.1 = .configureMedia setup → VideoFirst setup ∧
    ∃ request prepared, ⟨.captureStart request, .ok prepared⟩ ∈ log ∧
      request.mediaGeneration = setup.mediaGeneration.get ∧ Matches prepared request ∧
      setup = deviceSetup setup.mediaGeneration prepared
  startMedia : ∀ generation, e.1 = .startMedia generation → ∃ before setup,
    log = before ++ [⟨.configureMedia setup, .ok ()⟩, ⟨.captureActivate generation, .ok ()⟩] ∧
      setup.mediaGeneration = generation
  device : isDeviceCall e = true → ∀ x ∈ log, isFinalStop x = false

variable {prepared : PreparedCaptureMedia} {request : MediaStartRequest}

lemma validatePreparedCapture_ok (h : validatePreparedCapture prepared request = .ok ()) :
    Matches prepared request := by
  unfold validatePreparedCapture at h
  cases hnonzero : nonzeroGeneration request.mediaGeneration with
  | error e => simp [hnonzero] at h
  | ok generation =>
    have hgeneration := NonZeroU64.newOr_eq_ok.1 hnonzero
    simp only [hnonzero] at h
    split_ifs at h with hstale hkind haudio hmode
    simp only [not_or, not_not, Option.any_eq_true, decide_eq_true_eq, not_exists, not_and]
      at hstale hkind haudio hmode
    exact {
      generation := by rw [hstale.1, hgeneration]
      videoGeneration := by rw [hstale.2.1, hgeneration]
      audioGeneration := fun target htarget => by rw [hstale.2.2 target htarget, hgeneration]
      videoKind := hkind.1
      audioKind := hkind.2
      audioProfile := haudio
      mode := hmode }

lemma deviceSetup_videoFirst (h : Matches prepared request) (generation : NonZeroU64) :
    VideoFirst (deviceSetup generation prepared) :=
  ⟨prepared.videoTarget, prepared.audioTarget, rfl, h.videoKind, h.audioKind, h.audioProfile⟩

/-- The driver's fields against the calls it has made. What capture and device own is
known as long as the driver still has its device. -/
structure Inv (d : Driver) (log : List Entry) : Prop where
  lawful : Lawful Allowed log
  live : d.device = true → ∀ x ∈ log, isFinalStop x = false
  captures : d.device = true → Answered CaptureStops
    (fun x => (captured? x).isSome ∧ captured? x ≠ d.captureGeneration.map (·.get)) log
  backends : d.device = true → Answered DeviceStops
    (fun x => (configured? x).isSome ∧ configured? x ≠ d.backendGeneration) log
  prepared : ∀ prepared, d.prepared = some prepared → ∃ request,
    ⟨.captureStart request, .ok prepared⟩ ∈ log ∧ Matches prepared request ∧
      d.captureGeneration.map (·.get) = some request.mediaGeneration ∧ d.backendGeneration = none

namespace Inv

variable {d : Driver} {log : List Entry} {e : Entry}

lemma initial : Inv {} [] := ⟨.nil, by simp, fun _ => .nil, fun _ => .nil, by simp⟩

lemma capturesStopped (h : Inv d log) (hdevice : d.device = true)
    (hcapture : d.captureGeneration = none) : CapturesStopped log := by
  refine (h.captures hdevice).mono fun x _ hx => ⟨hx, ?_⟩
  rw [hcapture]
  exact fun hnone => by simp [hnone] at hx

lemma backendsStopped (h : Inv d log) (hdevice : d.device = true)
    (hbackend : d.backendGeneration = none) : BackendsStopped log := by
  refine (h.backends hdevice).mono fun x _ hx => ⟨hx, ?_⟩
  rw [hbackend]
  exact fun hnone => by simp [hnone] at hx

/-- A call that opens no generation but those the fields name. -/
lemma call (h : Inv d log) (hallowed : Allowed log e)
    (hcaptured : captured? e = none ∨ captured? e = d.captureGeneration.map (·.get))
    (hconfigured : configured? e = none ∨ configured? e = d.backendGeneration)
    (hfinal : d.device = true → isFinalStop e = false) : Inv d (log ++ [e]) where
  lawful := h.lawful.snoc hallowed
  live := by
    intro hdevice x hx
    rcases List.mem_append.1 hx with hold | hnew
    · exact h.live hdevice x hold
    · rw [List.mem_singleton.1 hnew]
      exact hfinal hdevice
  captures := by
    intro hdevice
    refine (h.captures hdevice).snoc (fun _ _ hx => .inl hx) ?_
    rintro ⟨hsome, hne⟩
    rcases hcaptured with hnone | heq
    · simp [hnone] at hsome
    · exact hne heq
  backends := by
    intro hdevice
    refine (h.backends hdevice).snoc (fun _ _ hx => .inl hx) ?_
    rintro ⟨hsome, hne⟩
    rcases hconfigured with hnone | heq
    · simp [hnone] at hsome
    · exact hne heq
  prepared := by
    intro prepared hprepared
    obtain ⟨request, hmem, hrest⟩ := h.prepared prepared hprepared
    exact ⟨request, List.mem_append_left _ hmem, hrest⟩

lemma other (h : Inv d log) (hcaptured : captured? e = none) (hconfigured : configured? e = none)
    (hstart : ∀ generation, e.1 ≠ .startMedia generation)
    (hdevice : isDeviceCall e = true → d.device = true) (hfinal : isFinalStop e = false) :
    Inv d (log ++ [e]) := by
  refine h.call ⟨?_, ?_, ?_, fun hcall => h.live (hdevice hcall)⟩ (.inl hcaptured)
    (.inl hconfigured) fun _ => hfinal
  · intro request hrequest
    simp [captured?, hrequest] at hcaptured
  · intro setup hsetup
    simp [configured?, hsetup] at hconfigured
  · intro generation hgeneration
    exact absurd hgeneration (hstart generation)

lemma captureStopped (h : Inv d log) {generation : NonZeroU64} {reason : MediaStopReason}
    (hcapture : d.captureGeneration = some generation) (hprepared : d.prepared = none) :
    Inv { d with captureGeneration := none }
      (log ++ [⟨.captureStop generation reason, .ok ()⟩]) := by
  have hcalled : Inv d (log ++ [⟨.captureStop generation reason, .ok ()⟩]) :=
    h.other rfl rfl (by simp) (by simp [isDeviceCall]) rfl
  refine { hcalled with captures := fun hdevice => ?_, prepared := ?_ }
  · refine (h.captures hdevice).snoc ?_ (by simp [captured?])
    intro x _ hx
    by_cases heq : captured? x = some generation.get
    · exact .inr ⟨generation, reason, heq, rfl⟩
    · exact .inl ⟨hx.1, by simpa [hcapture] using heq⟩
  · intro prepared hsome
    simp [hprepared] at hsome

lemma mediaStopped (h : Inv d log) {generation : NonZeroU64} {reason : DeviceMediaStopReason}
    (hdevice : d.device = true) (hbackend : d.backendGeneration = some generation) :
    Inv { d with backendGeneration := none }
      (log ++ [⟨.stopMedia generation reason, .ok ()⟩]) := by
  have hcalled : Inv d (log ++ [⟨.stopMedia generation reason, .ok ()⟩]) :=
    h.other rfl rfl (by simp) (fun _ => hdevice) rfl
  refine { hcalled with backends := fun hdevice => ?_, prepared := ?_ }
  · refine (h.backends hdevice).snoc ?_ (by simp [configured?])
    intro x _ hx
    by_cases heq : configured? x = some generation
    · exact .inr ⟨generation, reason, heq, rfl⟩
    · exact .inl ⟨hx.1, by rwa [hbackend]⟩
  · intro prepared hprepared
    obtain ⟨request, hmem, hmatches, hcapture, -⟩ := hcalled.prepared prepared hprepared
    exact ⟨request, hmem, hmatches, hcapture, rfl⟩

lemma forget (h : Inv d log) : Inv { d with prepared := none } log :=
  { h with prepared := by simp }

end Inv

section Steps

variable {d : Driver} {log : List Entry} {α β : Type} {ok : β → Driver → List Entry → Prop}
  {err : Exit → Driver → List Entry → Prop}

lemma settle_ok {operation : String} {r : PortReply α} {a : α} :
    settle operation r = .ok a ↔ r = .ok a := by
  cases r <;> simp [settle]

lemma wp_settle {operation : String} {r : PortReply α} {f : α → DriverMethod β}
    (hok : ∀ a, r = .ok a → (f a).wp anyPorts d log ok err) (herr : ∀ e, err e d log) :
    (lift (settle operation r) >>= f).wp anyPorts d log ok err :=
  Then.lift (fun e _ => herr e) fun a ha => hok a (settle_ok.1 ha)

lemma wp_nonzero {value : UInt64} {f : NonZeroU64 → DriverMethod β}
    (hok : ∀ generation, generation.get = value → (f generation).wp anyPorts d log ok err)
    (herr : ∀ e, err e d log) :
    (lift (nonzeroGeneration value) >>= f).wp anyPorts d log ok err :=
  Then.lift (fun e _ => herr e) fun generation h => hok generation (NonZeroU64.newOr_eq_ok.1 h)

lemma wp_ensureLive {f : PUnit → DriverMethod β}
    (hok : d.device = true → (f ⟨⟩).wp anyPorts d log ok err) (herr : ∀ e, err e d log) :
    (ensureLive >>= f).wp anyPorts d log ok err := by
  refine Then.of (Then.get ((wp_failIf ..).2 ⟨fun _ => herr _, fun hlive => hok ?_⟩))
  simpa using (not_or.1 hlive).2

lemma wp_needDevice {f : PUnit → DriverMethod β} (hok : (f ⟨⟩).wp anyPorts d log ok err)
    (herr : ∀ e, err e d log) : (needDevice >>= f).wp anyPorts d log ok err :=
  Then.of (Then.get ((wp_failIf ..).2 ⟨fun _ => herr _, fun _ => hok⟩))

end Steps

/-- The method keeps the driver's fields true to the calls, however it ends. -/
abbrev Faithful {α : Type} (m : DriverMethod α) : Prop := Keeps anyPorts Inv Inv m

lemma startCapture_faithful (request : MediaStartRequest) :
    Faithful (startCapture request) := by
  refine ⟨fun d log h => wp_ensureLive (fun hdevice => ?_) fun _ => h⟩
  refine wp_nonzero (fun generation hgeneration => ?_) fun _ => h
  refine Then.get (Then.failIf (fun _ => h) fun hfree => ?_)
  have hcapture : d.captureGeneration = none := by simpa using (not_or.1 hfree).1
  have hbackend : d.backendGeneration = none := by simpa using (not_or.1 hfree).2
  have hcaptures := h.capturesStopped hdevice hcapture
  have hbackends := h.backendsStopped hdevice hbackend
  have hmarked : Inv { d with captureGeneration := some generation } log := by
    refine { h with captures := fun _ => hcaptures.mono fun _ _ hx => hx.1, prepared := ?_ }
    intro prepared hprepared
    obtain ⟨request', -, -, hsome, -⟩ := h.prepared prepared hprepared
    simp [hcapture] at hsome
  refine Then.modify (Then.recorded fun r _ => ?_)
  have hcalled : Inv { d with captureGeneration := some generation }
      (log ++ [⟨.captureStart request, r⟩]) := by
    refine hmarked.call ⟨fun _ _ => ⟨hcaptures, hbackends⟩, by simp, by simp, ?_⟩
      (.inr (by simp [captured?, hgeneration])) (.inl rfl) fun _ => rfl
    simp [isDeviceCall]
  refine wp_settle (fun prepared hr => ?_) fun _ => hcalled
  subst hr
  refine Then.lift (fun _ _ => hcalled) fun _ hvalid => ?_
  refine { hcalled with prepared := ?_ }
  intro prepared' hprepared'
  obtain rfl := Option.some.inj hprepared'
  exact ⟨request, by simp, validatePreparedCapture_ok hvalid, by simp [hgeneration], hbackend⟩

variable {d : Driver} {log : List Entry}

lemma transferMedia_spec (h : Inv d log) (hdevice : d.device = true)
    (hbackend : BackendsStopped log) (hprepared : d.prepared = none) {generation : NonZeroU64}
    (hmem : ⟨.captureStart request, .ok prepared⟩ ∈ log) (hmatches : Matches prepared request)
    (hgeneration : request.mediaGeneration = generation.get) :
    (transferMedia generation (deviceSetup generation prepared)).wp anyPorts d log
      (fun _ => Inv) (fun _ => Inv) := by
  have hmarked : Inv { d with backendGeneration := some generation } log :=
    { h with
      backends := fun _ => hbackend.mono fun _ _ hx => hx.1
      prepared := by simp [hprepared] }
  refine Then.modify (wp_needDevice (Then.recorded fun configured _ => ?_) fun _ => hmarked)
  have hconfigured : Inv { d with backendGeneration := some generation }
      (log ++ [⟨.configureMedia (deviceSetup generation prepared), configured⟩]) := by
    refine hmarked.call ⟨by simp, ?_, by simp, fun _ => h.live hdevice⟩ (.inl rfl) (.inr rfl)
      fun _ => rfl
    intro setup hsetup
    obtain rfl := PortCall.configureMedia.inj hsetup
    exact ⟨deviceSetup_videoFirst hmatches generation, request, prepared, hmem, hgeneration,
      hmatches, rfl⟩
  refine wp_settle (fun _ hr => ?_) fun _ => hconfigured
  subst hr
  refine Then.recorded fun activated _ => ?_
  have hactivated := hconfigured.other (e := ⟨.captureActivate generation, activated⟩) rfl rfl
    (by simp) (by simp [isDeviceCall]) rfl
  refine wp_settle (fun _ hr => ?_) fun _ => hactivated
  subst hr
  refine wp_needDevice (Then.recorded fun started _ => ?_) fun _ => hactivated
  have hstarted : Inv { d with backendGeneration := some generation }
      (log ++ [⟨.configureMedia (deviceSetup generation prepared), .ok ()⟩] ++
        [⟨.captureActivate generation, .ok ()⟩] ++ [⟨.startMedia generation, started⟩]) := by
    refine hactivated.call ⟨by simp, by simp, ?_, fun _ => hactivated.live hdevice⟩ (.inl rfl)
      (.inl rfl) fun _ => rfl
    intro generation' hgeneration'
    obtain rfl := PortCall.startMedia.inj hgeneration'
    exact ⟨log, deviceSetup generation prepared, by simp, rfl⟩
  exact wp_settle (fun _ _ => hstarted) fun _ => hstarted

lemma startMedia_faithful (request : MediaStartRequest) :
    Faithful (startMedia request) := by
  refine ⟨fun d log h => wp_ensureLive (fun hdevice => ?_) fun _ => h⟩
  refine wp_nonzero (fun generation hgeneration => ?_) fun _ => h
  refine Then.get (Then.failIf (fun _ => h) fun hactive => ?_)
  have hcapture : d.captureGeneration = some generation := not_not.1 hactive
  refine Then.okOr (fun _ => h) fun prepared hprepared => ?_
  obtain ⟨request', hmem, hmatches, hsome, hbackend⟩ := h.prepared prepared hprepared
  have hrequest : request'.mediaGeneration = generation.get := by simpa [hcapture] using hsome.symm
  refine Then.recorded fun r _ => ?_
  have hminted := h.other (e := ⟨.mint generation prepared.audioTarget.isSome, r⟩) rfl rfl
    (by simp) (by simp [isDeviceCall]) rfl
  refine wp_settle (fun remotes _ => ?_) fun _ => hminted
  refine Then.failIf (fun _ => hminted) fun _ => ?_
  exact Then.modify (transferMedia_spec hminted.forget hdevice
    (hminted.backendsStopped hdevice hbackend) rfl (List.mem_append_left _ hmem) hmatches hrequest)

lemma suspend_faithful (mediaGeneration : UInt64) (reason : MediaSuspendReason) :
    Faithful (suspend mediaGeneration reason) := by
  refine ⟨fun d log h => wp_ensureLive (fun hdevice => ?_) fun _ => h⟩
  refine wp_nonzero (fun generation hgeneration => ?_) fun _ => h
  refine Then.get (Then.failIf (fun _ => h) fun _ => ?_)
  refine wp_needDevice (Then.recorded fun device _ => ?_) fun _ => h
  have hsuspended := h.other (e := ⟨.suspendMedia generation (mapSuspendReason reason), device⟩)
    rfl rfl (by simp) (fun _ => hdevice) rfl
  refine wp_settle (fun _ _ => ?_) fun _ => hsuspended
  refine Then.recorded fun capture _ => ?_
  have hboth := hsuspended.other (e := ⟨.captureSuspend generation reason, capture⟩)
    rfl rfl (by simp) (by simp [isDeviceCall]) rfl
  exact wp_settle (fun _ _ => hboth) fun _ => hboth

lemma wp_collect {operation : String} {r : PortReply Unit} {done : Driver → Driver}
    {P : Driver → List Entry → Prop} (hdone : r = .ok () → P (done d) log) (hkept : P d log) :
    (collect (settle operation r) done).wp anyPorts d log (fun _ => P) (fun _ => P) := by
  cases r with
  | ok value =>
    exact Then.modify (hdone rfl)
  | _ => exact hkept

lemma stopBackend_faithful (generation : NonZeroU64) (reason : MediaStopReason) :
    Faithful (stopBackend generation reason) := by
  refine .get_bind fun d log h => ?_
  cases hbackend : d.backendGeneration with
  | none => exact h
  | some active =>
    refine (wp_ite ..).2 ⟨fun _ => h, fun hactive => ?_⟩
    obtain rfl := not_not.1 hactive
    cases hdevice : d.device with
    | false => simpa using h
    | true =>
      refine Then.recorded fun r _ => wp_collect (fun hr => ?_) ?_
      · subst hr
        exact h.mediaStopped hdevice hbackend
      · exact h.other rfl rfl (by simp) (fun _ => hdevice) rfl

lemma stopCapture_spec (h : Inv d log) (hprepared : d.prepared = none) (generation : NonZeroU64)
    (reason : MediaStopReason) :
    (stopCapture generation reason).wp anyPorts d log (fun _ => Inv) (fun _ => Inv) := by
  refine Then.get ?_
  cases hcapture : d.captureGeneration with
  | none => exact h
  | some active =>
    refine (wp_ite ..).2 ⟨fun _ => h, fun hactive => ?_⟩
    obtain rfl := not_not.1 hactive
    refine Then.recorded fun r _ => wp_collect (fun hr => ?_) ?_
    · subst hr
      exact h.captureStopped hcapture hprepared
    · exact h.other rfl rfl (by simp) (by simp [isDeviceCall]) rfl

lemma stop_faithful (mediaGeneration : UInt64) (reason : MediaStopReason) :
    Faithful (stop mediaGeneration reason) := by
  refine ⟨fun d log h => wp_nonzero (fun generation hgeneration => ?_) fun _ => h⟩
  refine (stopBackend_faithful generation reason).step h (fun _ _ _ h' => h') ?_
  intro backend d' log' h'
  refine Then.modify (Then.mono (stopCapture_spec h'.forget rfl generation reason)
    (fun _ _ _ h'' => h'') fun capture d'' log'' h'' => ?_)
  exact (Keeps.lift _).wp d'' log'' h''

/-- The device was taken: nothing is known any more of what the owners still hold. -/
structure Taken (d : Driver) (log : List Entry) : Prop extends Inv d log where
  taken : d.device = false

lemma Inv.take (h : Inv d log) :
    Taken { d with device := false } log :=
  ⟨⟨h.lawful, by simp, by simp, by simp, h.prepared⟩, rfl⟩

lemma Taken.clear (h : Taken d log) :
    Inv { d with prepared := none, backendGeneration := none, captureGeneration := none,
                 shutdown := true } log :=
  ⟨h.lawful, by simp [h.taken], by simp [h.taken], by simp [h.taken], by simp⟩

lemma stopDevice_spec (h : Inv d log) (reason : MediaStopReason) :
    (stopDevice d.device reason).wp anyPorts { d with device := false } log
      (fun _ => Taken) (fun _ => Taken) := by
  cases hdevice : d.device with
  | false => exact h.take
  | true =>
    rintro r log' ⟨-, rfl⟩
    refine ⟨h.take.call ?_ (.inl rfl) (.inl rfl) (by simp), rfl⟩
    exact ⟨by simp, by simp, by simp, fun _ => h.live hdevice⟩

lemma shutDown_faithful (reason : MediaStopReason) : Faithful (shutDown reason) := by
  refine .get_bind fun d log h => (wp_when ..).2 ⟨fun _ => ?_, fun _ => h⟩
  refine Then.get (Then.modify (Then.mono (stopDevice_spec h reason) (fun _ _ _ h' => h'.toInv) ?_))
  intro device d' log' h'
  refine Then.recorded fun r _ => ?_
  have hcalled : Taken d' (log' ++ [⟨.captureShutdown reason, r⟩]) :=
    ⟨h'.other rfl rfl (by simp) (by simp [isDeviceCall]) rfl, h'.taken⟩
  refine Then.failIf (fun _ => hcalled.toInv) fun _ => ?_
  refine Then.mono (wp_collect (fun _ => hcalled) hcalled) (fun _ _ _ h'' => h''.toInv) ?_
  intro capture d'' log'' h''
  exact Then.modify ((Keeps.lift _).wp _ _ h''.clear)

lemma driverOp_faithful (op : DriverOp) : Faithful op.run := by
  cases op with
  | startCapture request => exact startCapture_faithful request
  | startMedia request => exact startMedia_faithful request
  | suspend mediaGeneration reason => exact suspend_faithful mediaGeneration reason
  | stop mediaGeneration reason => exact stop_faithful mediaGeneration reason
  | shutdown reason => exact shutDown_faithful reason

/-- For every sequence of driver calls, with any generations and any outcome of every
port call, each call on a port is allowed by the calls before it. -/
theorem port_calls_disciplined {d : Driver} {log : List Entry}
    (h : mediaDriver.Reach anyPorts {} [] d log) : Lawful Allowed log := by
  have hinv : Inv d log := by
    refine h.invariant .initial fun s w op hs => ?_
    refine Program.wp_mono anyPorts ((driverOp_faithful op).wp s w hs) ?_
    rintro ⟨e | a, s'⟩ w' hout <;> exact hout
  exact hinv.lawful

def samplePrepared (request : MediaStartRequest) : PreparedCaptureMedia :=
  let generation := (NonZeroU64.new request.mediaGeneration).getD 1
  ⟨generation, ⟨.Video, "video", 5, "session", "device", 3, 0, generation,
    "video/x-raw"⟩, none, ⟨"h264", none, request.route.mode, 8000000⟩⟩

/-- Ports that do what they are asked for, but lose the answer to the first `stop_media`. -/
def forgetfulPorts (log : List Entry) : (c : PortCall) → Reply c
  | .captureStart request => .ok (samplePrepared request)
  | .captureActivate _ => .ok ()
  | .captureSuspend _ _ => .ok ()
  | .captureStop _ _ => .ok ()
  | .captureShutdown _ => .ok ()
  | .mint _ needsAudio => .ok ⟨needsAudio⟩
  | .configureMedia _ => .ok ()
  | .startMedia _ => .ok ()
  | .suspendMedia _ _ => .ok ()
  | .stopMedia _ _ =>
    if log.any (fun e => e.1 matches .stopMedia _ _) then .ok () else .cancelled
  | .stopDevice _ => .ok

def forgetfulRun : Driver × List Entry :=
  mediaDriver.play (Service.recorded forgetfulPorts)
    [.startCapture ⟨1, sampleRoute⟩, .startMedia ⟨1, sampleRoute⟩, .stop 1 .ModeChanged,
      .startCapture ⟨2, sampleRoute⟩, .stop 1 .ModeChanged, .startCapture ⟨2, sampleRoute⟩,
      .shutdown .BackendShutdown, .shutdown .BackendShutdown] {} []

/-- The second generation has to wait until the device confirmed its stop. -/
theorem port_calls_disciplined_forgetful :
    mediaDriver.Reach anyPorts {} [] forgetfulRun.1 forgetfulRun.2 ∧
    (forgetfulRun.2.map (·.1) = [.captureStart ⟨1, sampleRoute⟩, .mint ⟨1, by decide⟩ false,
      .configureMedia (deviceSetup ⟨1, by decide⟩ (samplePrepared ⟨1, sampleRoute⟩)),
      .captureActivate ⟨1, by decide⟩, .startMedia ⟨1, by decide⟩,
      .stopMedia ⟨1, by decide⟩ .ModeChanged, .captureStop ⟨1, by decide⟩ .ModeChanged,
      .stopMedia ⟨1, by decide⟩ .ModeChanged, .captureStart ⟨2, sampleRoute⟩,
      .stopDevice .DaemonShutdown, .captureShutdown .BackendShutdown]) ∧
    Lawful Allowed forgetfulRun.2 := by
  have hreach : mediaDriver.Reach anyPorts {} [] forgetfulRun.1 forgetfulRun.2 :=
    Service.Reach.play id (fun _ _ => ⟨trivial, rfl⟩) _ .init
  exact ⟨hreach, by decide +kernel, port_calls_disciplined hreach⟩

end Pronk.MediaDriver
