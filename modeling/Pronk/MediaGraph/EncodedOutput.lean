import Pronk.Library.Channel
import Pronk.MediaGraph.Timeline

/-!
# From the encoder to the sender

The encoder never waits for the sender. An access unit that does not fit into the channel is
dropped, and after it every unit up to a key frame.
-/
namespace Pronk.MediaGraph

inductive VideoFrameDependency where
  | KeyFrame
  | Delta
  deriving DecidableEq

structure EncodedVideoAccessUnit where
  mediaGeneration : NonZeroU64
  dependency : VideoFrameDependency
  data : List UInt8
  mediaTimestamp : ℕ
  referenceTime : ℤ
  duration : ℕ

/-- An access unit with its number in the order in which the encoder produced the units. Only
the unit is part of the program. -/
structure Produced where
  serial : ℕ
  accessUnit : EncodedVideoAccessUnit

inductive OutputAdmission where
  | Forwarded
  | Dropped (requestKeyFrame : Bool)

structure EncodedVideoOutput where
  needsKeyFrame : Bool := false

/-- The result, the output and the channel afterwards. -/
def EncodedVideoOutput.tryForward (output : EncodedVideoOutput) (channel : Channel Produced)
    (unit : Produced) :
    Except MediaGraphError OutputAdmission × EncodedVideoOutput × Channel Produced :=
  let dependency := unit.accessUnit.dependency
  if output.needsKeyFrame ∧ dependency = .Delta then (.ok (.Dropped false), output, channel)
  else
    match channel.trySend unit with
    | .ok channel =>
      (.ok .Forwarded, if dependency = .KeyFrame then { needsKeyFrame := false } else output,
        channel)
    | .error .Full =>
      (.ok (.Dropped (!output.needsKeyFrame || dependency = .KeyFrame)),
        { needsKeyFrame := true }, channel)
    | .error .Closed =>
      (.error ⟨"encoded-video output channel closed while media was active"⟩, output, channel)

/-- A unit of use only behind its predecessor. -/
def Produced.IsDelta (unit : Produced) : Prop := unit.accessUnit.dependency = .Delta
deriving Decidable

/-- Either the unit is put into the channel, a delta only if nothing was dropped since the
last key frame, or the output waits for a key frame from now on. -/
theorem EncodedVideoOutput.tryForward_cases (output : EncodedVideoOutput)
    (channel : Channel Produced) (unit : Produced) :
    let after := (output.tryForward channel unit).2
    (after.2.queue = channel.queue ++ [unit] ∧ channel.closed = false ∧
        (unit.IsDelta → output.needsKeyFrame = false)) ∨
      (after.2 = channel ∧ (channel.closed = false → after.1.needsKeyFrame = true)) := by
  unfold tryForward
  by_cases hdrop : output.needsKeyFrame ∧ unit.accessUnit.dependency = .Delta
  · right
    rw [if_pos hdrop]
    exact ⟨rfl, fun _ => hdrop.1⟩
  · rw [if_neg hdrop]
    cases hsend : channel.trySend unit with
    | ok channel' =>
      obtain ⟨hqueue, hclosed, -⟩ := Channel.trySend_eq_ok hsend
      left
      refine ⟨hqueue, hclosed, ?_⟩
      intro hdelta
      by_contra hneeds
      exact hdrop ⟨by simpa using hneeds, hdelta⟩
    | error failure =>
      right
      cases failure with
      | Full => exact ⟨rfl, fun _ => rfl⟩
      | Closed =>
        refine ⟨rfl, ?_⟩
        intro hopen
        rw [Channel.trySend_eq_closed hsend] at hopen
        cases hopen

end Pronk.MediaGraph
