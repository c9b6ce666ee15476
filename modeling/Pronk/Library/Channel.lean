import Mathlib.Tactic.Common

/-!
# Bounded channels

A channel delivers what was sent in the order in which it was sent, and refuses what does not
fit. It refuses everything once its receiver is gone.
-/

universe u

structure Channel (α : Type u) where
  capacity : ℕ
  queue : List α
  closed : Bool
  fits : queue.length ≤ capacity

namespace Channel

variable {α : Type u} {channel channel' : Channel α} {a : α}

/-- An open channel in which nothing waits. -/
def bounded (capacity : ℕ) : Channel α := ⟨capacity, [], false, Nat.zero_le capacity⟩

inductive TrySendError where
  | Full
  | Closed

def trySend (channel : Channel α) (a : α) : Except TrySendError (Channel α) :=
  if channel.closed then .error .Closed
  else if h : channel.queue.length < channel.capacity then
    .ok { channel with
          queue := channel.queue ++ [a]
          fits := by rw [List.length_append]; exact h }
  else .error .Full

/-- The next value, if one was sent. -/
def recv (channel : Channel α) : Option (α × Channel α) :=
  match channel, channel.fits with
  | ⟨capacity, a :: queue, closed, _⟩, h =>
    some (a, ⟨capacity, queue, closed, Nat.le_of_succ_le h⟩)
  | ⟨_, [], _, _⟩, _ => none

def close (channel : Channel α) : Channel α := { channel with closed := true }

/-- Everything that waits is thrown away. -/
def drain (channel : Channel α) : Channel α :=
  { channel with queue := [], fits := Nat.zero_le _ }

lemma trySend_eq_ok (h : channel.trySend a = .ok channel') :
    channel'.queue = channel.queue ++ [a] ∧ channel.closed = false ∧
      channel'.closed = false := by
  unfold trySend at h
  split_ifs at h with hclosed
  obtain rfl := Except.ok.inj h
  simpa using hclosed

lemma trySend_eq_closed (h : channel.trySend a = .error .Closed) :
    channel.closed = true := by
  unfold trySend at h
  split_ifs at h with hclosed
  · exact hclosed
  · simp at h

lemma recv_eq_some (h : channel.recv = some (a, channel')) :
    channel.queue = a :: channel'.queue ∧ channel'.closed = channel.closed := by
  obtain ⟨capacity, queue, closed, fits⟩ := channel
  cases queue with
  | nil => cases h
  | cons b rest =>
    obtain ⟨rfl, rfl⟩ := Prod.mk.inj (Option.some.inj h)
    exact ⟨rfl, rfl⟩

end Channel
