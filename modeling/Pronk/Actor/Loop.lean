import Pronk.Actor.Run

/-!
# The loop event by event

A turn of the loop dispatches a whole batch. Here the batch is followed event by event, so that
a condition can be put on the single dispatch: on the state before it, on the event and on the
events of the batch that are still behind it.
-/
namespace Pronk.Actor
open CastKms Capture Interaction Method

variable {W : Type} (config : CastKmsActorConfig) (E : Environment W ActorCall ActorCall.Reply)
  (allowed : ActorState → CastKmsEvent → List CastKmsEvent → Prop) (s₀ : ActorState) (w₀ : W)

/-- The loop event by event: the list holds the events of the batch at hand that were not
dispatched yet. An event is dispatched in a state that allows it. -/
inductive LoopReach : ActorState → List CastKmsEvent → W → Prop
  | init : LoopReach s₀ [] w₀
  | turn {s s' : ActorState} {w w' : W} {branch : Branch} (hreach : LoopReach s [] w)
      (hbranch : branch ≠ .events) (hout : (branch.run config s).Outcome E w ((), s') w') :
      LoopReach s' [] w'
  | read {s s' : ActorState} {w w' : W} {events : List CastKmsEvent} (hreach : LoopReach s [] w)
      (hrunning : s.returned = none) (hout : (takeBatch s).Outcome E w (.ok events, s') w') :
      LoopReach s' events w'
  | readFailed {s s' : ActorState} {w w' : W} {e : KernelDisplayError} (hreach : LoopReach s [] w)
      (hrunning : s.returned = none) (hout : (takeBatch s).Outcome E w (.error e, s') w') :
      LoopReach { s' with returned := some (.error e) } [] w'
  | dispatched {s s' : ActorState} {w w' : W} {event : CastKmsEvent} {rest : List CastKmsEvent}
      (hreach : LoopReach s (event :: rest) w) (hallowed : allowed s event rest)
      (hout : (dispatch event s).Outcome E w (.ok (), s') w') : LoopReach s' rest w'
  | dispatchFailed {s s' : ActorState} {w w' : W} {event : CastKmsEvent}
      {rest : List CastKmsEvent} {e : KernelDisplayError} (hreach : LoopReach s (event :: rest) w)
      (hallowed : allowed s event rest) (hout : (dispatch event s).Outcome E w (.error e, s') w') :
      LoopReach { s' with returned := some (.error e) } [] w'

variable {config E allowed s₀ w₀} {s : ActorState} {w : W}

namespace LoopReach

/-- What holds at first and is kept by the methods of the loop holds along the loop. -/
theorem invariant {I : ActorState → List CastKmsEvent → W → Prop} (h₀ : I s₀ [] w₀)
    (hreturned : ∀ {s events w} r, I s events w → I { s with returned := r } events w)
    (hturn : ∀ {s w} (branch : Branch), branch ≠ .events → I s [] w →
      (branch.body config).wp E s w (fun _ s' w' => I s' [] w') fun _ s' w' => I s' [] w')
    (hread : ∀ {s w}, I s [] w →
      takeBatch.wp E s w (fun events s' w' => I s' events w') fun _ s' w' => I s' [] w')
    (hdispatch : ∀ {s w event rest}, allowed s event rest → I s (event :: rest) w →
      (dispatch event).wp E s w (fun _ s' w' => I s' rest w') fun _ s' w' => I s' [] w')
    {events : List CastKmsEvent} (h : LoopReach config E allowed s₀ w₀ s events w) :
    I s events w := by
  induction h with
  | init => exact h₀
  | @turn s s' w w' branch _ hbranch hout ih =>
    have hrun : (branch.run config s).wp E w fun out w' => I out.2 [] w' := by
      unfold Branch.run
      split_ifs
      · exact ih
      · rw [Program.wp_bind]
        refine wp_result (hturn branch hbranch ih) ?_ fun _ _ _ h' => hreturned _ h'
        rintro (_ | _) s' w' h'
        · exact h'
        · exact hreturned _ h'
    exact (Program.wp_iff_outcome ..).1 hrun _ _ hout
  | read _ _ hout ih => exact (Program.wp_iff_outcome ..).1 (hread ih) _ _ hout
  | readFailed _ _ hout ih =>
    exact hreturned _ ((Program.wp_iff_outcome ..).1 (hread ih) _ _ hout)
  | dispatched _ hallowed hout ih =>
    exact (Program.wp_iff_outcome ..).1 (hdispatch hallowed ih) _ _ hout
  | dispatchFailed _ hallowed hout ih =>
    exact hreturned _ ((Program.wp_iff_outcome ..).1 (hdispatch hallowed ih) _ _ hout)

lemma dispatchAll (hall : ∀ s event rest, allowed s event rest) {events : List CastKmsEvent}
    (h : LoopReach config E allowed s₀ w₀ s events w) :
    (dispatchAll events).wp E s w (fun _ s' w' => LoopReach config E allowed s₀ w₀ s' [] w')
      fun e s' w' =>
        LoopReach config E allowed s₀ w₀ { s' with returned := some (.error e) } [] w' := by
  induction events generalizing s w with
  | nil => exact h
  | cons event rest ih =>
    refine Then.of ((Program.wp_iff_outcome ..).2 ?_)
    rintro ⟨e | _, s'⟩ w' hout
    · exact .dispatchFailed h (hall s event rest) hout
    · exact ih (.dispatched h (hall s event rest) hout)

/-- Turn by turn and event by event the loop reaches the same states. -/
theorem of_reach (hall : ∀ s event rest, allowed s event rest)
    (h : (actorService config).Reach E s₀ w₀ s w) : LoopReach config E allowed s₀ w₀ s [] w := by
  refine h.invariant (I := fun s w => LoopReach config E allowed s₀ w₀ s [] w) .init ?_
  intro s w branch hs
  by_cases hbranch : branch = .events
  · subst hbranch
    change (Branch.run config .events s).wp E w fun out w' =>
      LoopReach config E allowed s₀ w₀ out.2 [] w'
    unfold Branch.run
    split_ifs with hreturned
    · exact hs
    · have hrunning : s.returned = none := by simpa using hreturned
      have htake : takeBatch.wp E s w
          (fun events s' w' => LoopReach config E allowed s₀ w₀ s' events w') fun e s' w' =>
            LoopReach config E allowed s₀ w₀ { s' with returned := some (.error e) } [] w' := by
        refine (Program.wp_iff_outcome ..).2 ?_
        rintro ⟨e | events, s'⟩ w' hout
        · exact .readFailed hs hrunning hout
        · exact .read hs hrunning hout
      have hbody : (Branch.body config .events).wp E s w
          (fun ends s' w' => ends = false ∧ LoopReach config E allowed s₀ w₀ s' [] w')
          fun e s' w' =>
            LoopReach config E allowed s₀ w₀ { s' with returned := some (.error e) } [] w' :=
        Then.of (Then.mono htake (fun _ _ _ h' => h') fun _ _ _ h' =>
          wp_mono (h'.dispatchAll hall) (fun _ _ _ h₂ => ⟨rfl, h₂⟩) fun _ _ _ h₂ => h₂)
      rw [Program.wp_bind]
      refine wp_result hbody ?_ fun _ _ _ h' => h'
      rintro _ s' w' ⟨rfl, h'⟩
      exact h'
  · exact (Program.wp_iff_outcome ..).2 fun _ _ hout => .turn hs hbranch hout

section Scripts

variable {V : Type} (script : V → (c : ActorCall) → c.Reply × V) (view : V → W) {v : V}
  (hscript : ∀ v c, E (view v) c (script v c).1 (view (script v c).2))
include hscript

lemma play (branches : List Branch) (hbranches : ∀ b ∈ branches, b ≠ .events)
    (h : LoopReach config E allowed s₀ w₀ s [] (view v)) :
    LoopReach config E allowed s₀ w₀ ((actorService config).play script branches s v).1 []
      (view ((actorService config).play script branches s v).2) := by
  induction branches generalizing s v with
  | nil => exact h
  | cons branch rest ih =>
    refine ih (fun b hb => hbranches b (List.mem_cons_of_mem _ hb)) ?_
    exact .turn h (hbranches branch List.mem_cons_self)
      (Program.exec_outcome view hscript (branch.run config s) v)

lemma exec_returns {α ε : Type} {m : Method ActorCall ActorCall.Reply ActorState ε α}
    {out : (Except ε α × ActorState) × V} {a : α} (hexec : (m s).exec script v = out)
    (h : out.1.1 = .ok a) : (m s).Outcome E (view v) (.ok a, out.1.2) (view out.2) := by
  have hout := Program.exec_outcome view hscript (m s) v
  rw [hexec] at hout
  rw [← h]
  exact hout

lemma takes (v : V) {events : List CastKmsEvent}
    {out : (Except KernelDisplayError (List CastKmsEvent) × ActorState) × V}
    (h : LoopReach config E allowed s₀ w₀ s [] (view v)) (hrunning : s.returned = none)
    (hexec : (takeBatch s).exec script v = out) (hread : out.1.1 = .ok events) :
    LoopReach config E allowed s₀ w₀ out.1.2 events (view out.2) :=
  .read h hrunning (exec_returns script view hscript hexec hread)

lemma dispatches (v : V) {event : CastKmsEvent} {rest : List CastKmsEvent}
    {out : (Except KernelDisplayError Unit × ActorState) × V}
    (h : LoopReach config E allowed s₀ w₀ s (event :: rest) (view v))
    (hallowed : allowed s event rest) (hexec : (dispatch event s).exec script v = out)
    (hdispatch : out.1.1 = .ok ()) : LoopReach config E allowed s₀ w₀ out.1.2 rest (view out.2) :=
  .dispatched h hallowed (exec_returns script view hscript hexec hdispatch)

end Scripts

end LoopReach

end Pronk.Actor
