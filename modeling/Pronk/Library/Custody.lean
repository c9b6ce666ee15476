import Pronk.Library.Interaction
import Pronk.Library.Ledger

/-!
# Methods that take and give back resources

The requests of a method are the entries of a ledger. A triple says which resources a
method is given, which it leaves when it returns and which when it fails. Resources that
are not mentioned are left alone, as long as they do not need the mentioned ones.
-/
namespace Ledger.Register
open Interaction Method

universe u v w x y

variable {C : Type u} {R : C → Type w} {S ε α β δ : Type w} {ρ : Type v} {κ : Type x}
  [DecidableEq κ] (A : Register (Exchange C R) ρ κ) (V : ρ → Prop)

/-- An environment that records the exchanges and only opens valid resources whose keys
are not outstanding. -/
def fresh : Environment (List (Exchange C R)) C R := fun log c r log' =>
  log' = log ++ [⟨c, r⟩] ∧
    ∀ res, A.change ⟨c, r⟩ = .opens res → V res ∧ ∀ x ∈ A.outstanding log, A.key x ≠ A.key res

/-- From `x` the method returns with the resources in `y`, or fails with those in `z`. -/
def Trades (x : List ρ) (y : α → List ρ) (z : List ρ) (m : Method C R S ε α) : Prop :=
  ∀ s log rest, A.Anchored rest → A.Books log (x ++ rest) →
    m.wp (A.fresh V) s log (fun a s' log' => s' = s ∧ A.Books log' (y a ++ rest))
      (fun _ s' log' => s' = s ∧ A.Books log' (z ++ rest))

/-- The resources after an attempt. -/
def attempted (y : α → List ρ) (z : List ρ) : Except ε α → List ρ
  | .ok a => y a
  | .error _ => z

variable {A V}

namespace Trades

variable {x x' z : List ρ} {y : α → List ρ} {y' : β → List ρ} {res : ρ}

lemma pure {a : α} (hx : x = y a) : A.Trades V x y z (Pure.pure a : Method C R S ε α) := by
  intro s log rest _ h
  exact ⟨rfl, hx ▸ h⟩

lemma throw (e : ε) : A.Trades V z y z (Method.throw e : Method C R S ε α) :=
  fun _ _ _ _ h => ⟨rfl, h⟩

lemma failIf (c : Prop) [Decidable c] (e : ε) :
    A.Trades V x (fun _ => x) x (failIf c e : Method C R S ε PUnit) := by
  intro s log rest _ h
  rw [wp_failIf]
  exact ⟨fun _ => ⟨rfl, h⟩, fun _ => ⟨rfl, h⟩⟩

variable {m : Method C R S ε α} {f : α → Method C R S ε β}

lemma bind (hm : A.Trades V x y z m) (hf : ∀ a, A.Trades V (y a) y' z (f a)) :
    A.Trades V x y' z (m >>= f) := by
  intro s log rest hrest h
  rw [wp_bind]
  refine wp_mono (hm s log rest hrest h) ?_ fun _ _ _ h => h
  rintro a s' log' ⟨rfl, hbooks⟩
  exact hf a s' log' rest hrest hbooks

lemma attempt (hm : A.Trades V x y z m) :
    A.Trades V x (attempted y z) x' (attempt m : Method C R S δ (Except ε α)) := by
  intro s log rest hrest h
  rw [wp_attempt]
  exact hm s log rest hrest h

lemma ite {c : Prop} [Decidable c] {n : Method C R S ε α} (hm : c → A.Trades V x y z m)
    (hn : ¬c → A.Trades V x y z n) : A.Trades V x y z (if c then m else n) := by
  split_ifs with h
  · exact hm h
  · exact hn h

lemma lift_ok {a : α} (hf : A.Trades V x y' z (f a)) :
    A.Trades V x y' z (lift (.ok a) >>= f) := hf

lemma lift_error {e : ε} :
    A.Trades V z y' z (lift (.error e) >>= f) := .throw e

lemma okOr_bind {o : Option α} {e : ε} (ho : o ≠ none)
    (hf : ∀ a, o = some a → A.Trades V x y' z (f a)) :
    A.Trades V x y' z (okOr o e >>= f) := by
  cases o with
  | none => exact absurd rfl ho
  | some a => exact hf a rfl

/-- Two resources with one key are never outstanding together. -/
theorem of_repeated (hx : ¬(x.map A.key).Nodup) : A.Trades V x y z m := by
  intro s log rest _ h
  have hdistinct := h.distinct
  rw [List.map_append] at hdistinct
  exact absurd hdistinct.of_append_left hx

/-- The order of the resources does not matter. -/
theorem perm (hx : x'.Perm x) (hm : A.Trades V x y z m) :
    A.Trades V x' y z m :=
  fun s log rest hrest h => hm s log rest hrest (h.perm (hx.append_right rest))

variable {c : C}

/-- A request that neither opens nor closes anything. -/
theorem request_none (hc : ∀ r, A.change ⟨c, r⟩ = .none) :
    A.Trades V x (fun _ => x) z (request c : Method C R S ε (R c)) := by
  intro s log rest _ h r log' hE
  obtain ⟨rfl, -⟩ := hE
  exact ⟨rfl, h.none (hc r)⟩

/-- A request that closes the first of the resources. -/
theorem request_closes (hc : ∀ r, A.change ⟨c, r⟩ = .closes (A.key res))
    (hself : A.needs res ≠ some (A.key res)) (hx : A.Anchored x) :
    A.Trades V (res :: x) (fun _ => x) z (request c : Method C R S ε (R c)) := by
  intro s log rest hrest h r log' hE
  obtain ⟨rfl, -⟩ := hE
  have hbooks : A.Books log (res :: (x ++ rest)) := h
  exact ⟨rfl, hbooks.closes (hc r) hself (hbooks.free_of_anchored (hx.append hrest))⟩

/-- A request that may open a resource. -/
theorem request_opens {f : R c → Method C R S ε β}
    (hf : ∀ r, (∃ res, A.change ⟨c, r⟩ = .opens res ∧ (V res → A.Trades V (res :: x) y' z (f r))) ∨
      A.change ⟨c, r⟩ = .none ∧ A.Trades V x y' z (f r)) :
    A.Trades V x y' z (request c >>= f) := by
  intro s log rest hrest h
  refine Then.request fun r log' hE => ?_
  obtain ⟨rfl, hfresh⟩ := hE
  rcases hf r with ⟨res, hres, hf⟩ | ⟨hnone, hf⟩
  · obtain ⟨hvalid, hnew⟩ := hfresh res hres
    exact hf hvalid s _ rest hrest (h.opens hres hnew)
  · exact hf s _ rest hrest (h.none hnone)

/-- A method before a continuation that may change the state. -/
theorem step (hm : A.Trades V x y z m) {s : S} {log : List (Exchange C R)} {rest : List ρ}
    (hrest : A.Anchored rest) (hbooks : A.Books log (x ++ rest))
    {ok : β → S → List (Exchange C R) → Prop} {err : ε → S → List (Exchange C R) → Prop}
    (herr : ∀ e log', A.Books log' (z ++ rest) → err e s log')
    (hok : ∀ a log', A.Books log' (y a ++ rest) → (f a).wp (A.fresh V) s log' ok err) :
    (m >>= f).wp (A.fresh V) s log ok err := by
  rw [wp_bind]
  refine wp_mono (hm s log rest hrest hbooks) ?_ ?_
  · rintro a s' log' ⟨rfl, h⟩
    exact hok a log' h
  · rintro e s' log' ⟨rfl, h⟩
    exact herr e log' h

end Trades

end Ledger.Register
