import Pronk.Media.Types

/-!
# Vocabulary of the media-session actor

What the handles send, what the driver is asked for and what the actor publishes.
The texts of the errors are those the snapshots carry.
-/
namespace Pronk.MediaSession
open Media

def COMMAND_CAPACITY : ℕ := 32

def MAX_ERROR_BYTES : ℕ := 512

inductive MediaSuspendReason where
  | GrantUnavailable
  | DeviceUnavailable
  | SessionInactive
  deriving DecidableEq

inductive MediaStopReason where
  | OutputDisabled
  | ModeChanged
  | DisplayRemoved
  | BackendShutdown
  | TransportFailure
  deriving DecidableEq

/-- What the session publishes. -/
structure MediaSessionSnapshot where
  (revision mediaGeneration : UInt64)
  state : MediaState
  route : Option MediaRoute
  lastError : Option String
  deriving DecidableEq

/-- A route that the runs on fixed inputs use. -/
def sampleRoute : MediaRoute := ⟨1, ⟨7⟩, ⟨1920, 1080, 60000, 0⟩⟩

def MediaSessionSnapshot.idle : MediaSessionSnapshot := ⟨1, 0, .Idle, none, none⟩

/-- A command without the channel of its answer. -/
inductive CommandKind where
  | Activate (route : MediaRoute)
  | Deactivate
  | Suspend (reason : MediaSuspendReason)
  | Retry
  | ReportFailure (error : String)
  | Shutdown (reason : MediaStopReason)
  deriving DecidableEq

structure Command where
  requestGeneration : UInt64
  kind : CommandKind
  deriving DecidableEq

/-- The longest part of a text that ends at a character and fits the given bytes. -/
def boundedChars : ℕ → List Char → List Char
  | _, [] => []
  | room, c :: rest =>
    if c.utf8Size ≤ room then c :: boundedChars (room - c.utf8Size) rest else []

def boundedText (value : String) (maximum : ℕ) : String :=
  if value.utf8ByteSize ≤ maximum then value
  else String.ofList (boundedChars maximum value.toList)

lemma boundedChars_subset (room : ℕ) (chars : List Char) : boundedChars room chars ⊆ chars := by
  induction chars generalizing room with
  | nil => simp [boundedChars]
  | cons c rest ih =>
    simp only [boundedChars]
    split_ifs
    · exact List.cons_subset_cons c (ih _)
    · simp

lemma boundedChars_size (room : ℕ) (chars : List Char) :
    (String.ofList (boundedChars room chars)).utf8ByteSize ≤ room := by
  induction chars generalizing room with
  | nil => simp [boundedChars]
  | cons c rest ih =>
    simp only [boundedChars]
    split_ifs with hroom
    · rw [String.ofList_cons, String.utf8ByteSize_append, String.utf8ByteSize_singleton]
      have := ih (room - c.utf8Size)
      omega
    · simp

/-- A bounded text is short enough, is empty only if the text was, and has no other
characters. -/
theorem boundedText_spec (value : String) {maximum : ℕ} (hmaximum : 4 ≤ maximum) :
    (boundedText value maximum).utf8ByteSize ≤ maximum ∧
    (boundedText value maximum = "" → value = "") ∧
    (boundedText value maximum).toList ⊆ value.toList := by
  unfold boundedText
  split_ifs with hfits
  · exact ⟨hfits, id, List.Subset.refl _⟩
  · refine ⟨boundedChars_size _ _, fun hempty => ?_, ?_⟩
    · rw [String.ofList_eq_empty_iff] at hempty
      cases hchars : value.toList with
      | nil => exact String.toList_eq_nil_iff.1 hchars
      | cons c rest =>
        have hc := c.utf8Size_le_four
        simp [hchars, boundedChars, Nat.le_trans hc hmaximum] at hempty
    · rw [String.toList_ofList]
      exact boundedChars_subset _ _

/-- The fractional digits of a duration, without trailing zeros. -/
def fractionDigits : ℕ → ℕ → ℕ → String
  | 0, _, _ => ""
  | fuel + 1, fraction, unit =>
    if fraction = 0 then ""
    else toString (fraction / unit) ++ fractionDigits fuel (fraction % unit) (unit / 10)

/-- `Debug` of a duration in nanoseconds. -/
def durationText (nanos : ℕ) : String :=
  let render (unit : ℕ) (suffix : String) :=
    let digits := fractionDigits 9 (nanos % unit) (unit / 10)
    toString (nanos / unit) ++ (if digits = "" then "" else "." ++ digits) ++ suffix
  if nanos ≥ 1000000000 then render 1000000000 "s"
  else if nanos ≥ 1000000 then render 1000000 "ms"
  else if nanos ≥ 1000 then render 1000 "µs"
  else toString nanos ++ "ns"

def stateText : MediaState → String
  | .Idle => "Idle"
  | .StartingCapture => "StartingCapture"
  | .StartingMedia => "StartingMedia"
  | .Running => "Running"
  | .Suspended => "Suspended"
  | .Reconfiguring => "Reconfiguring"
  | .Reconnecting => "Reconnecting"
  | .Stopping => "Stopping"
  | .Failed => "Failed"

/-- The errors that a command can be answered with. -/
inductive MediaSessionActorError where
  | InvalidRouteGeneration
  | GenerationExhausted
  | SuspendUnavailable (state : MediaState)
  | RetryUnavailable (state : MediaState)
  | PhaseTimeout (phase : String) (timeout : ℕ)
  | Driver (phase : String) (source : String)
  | CombinedShutdown (media finalError : String)

def MediaSessionActorError.text : MediaSessionActorError → String
  | .InvalidRouteGeneration => "route generation must be nonzero"
  | .GenerationExhausted => "media generation is exhausted"
  | .SuspendUnavailable state => "cannot suspend media from " ++ stateText state
  | .RetryUnavailable state => "cannot retry media from " ++ stateText state
  | .PhaseTimeout phase timeout =>
    "media phase " ++ phase ++ " timed out after " ++ durationText timeout
  | .Driver phase source => "media phase " ++ phase ++ " failed: " ++ source
  | .CombinedShutdown media finalError => "media cleanup failed: " ++ media ++
    "; final driver shutdown also failed: " ++ finalError

end Pronk.MediaSession
