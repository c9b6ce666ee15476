import Mathlib.Logic.Basic
import Mathlib.Tactic.Common

/-!
# Programs that call an environment

A program is a finite tree of requests; each reply selects the continuation.
Nothing is assumed about the replies. An environment says which replies a world
may give, so quantifying over environments or worlds quantifies over every
behaviour of whatever is outside the program. Weakest preconditions are demonic:
the postcondition holds for every admitted reply.
-/
namespace Interaction

universe u v w x y

/-- A result, or a request and how to go on. -/
inductive Program (C : Type u) (R : C → Type v) (α : Type w) where
  | done (value : α)
  | call (request : C) (next : R request → Program C R α)

/-- Admitted replies of a world, together with the world afterwards. -/
def Environment (W : Type x) (C : Type u) (R : C → Type v) : Type (max u v x) :=
  W → (c : C) → R c → W → Prop

/-- One request and the reply it received. -/
abbrev Exchange (C : Type u) (R : C → Type v) := (c : C) × R c

/-- The environment that records every exchange and admits the replies in `A`. -/
def recording {C : Type u} {R : C → Type v} (A : (c : C) → R c → Prop) :
    Environment (List (Exchange C R)) C R :=
  fun log c r log' => A c r ∧ log' = log ++ [⟨c, r⟩]

/-- The environment that admits every reply and remembers nothing. -/
def anyReply {C : Type u} {R : C → Type v} : Environment Unit C R := fun _ _ _ _ => True

/-- What a watching environment has seen so far. -/
structure Verdict where
  holds : Prop

/-- The environment that admits every reply and watches whether all requests are in `A`. -/
def watching {C : Type u} {R : C → Type v} (A : C → Prop) : Environment Verdict C R :=
  fun q c _ q' => q' = ⟨q.holds ∧ A c⟩

/-- A preorder on worlds that every request in `A` follows. -/
structure Follows {C : Type u} {R : C → Type v} {W : Type x} (A : C → Prop)
    (E : Environment W C R) (P : W → W → Prop) : Prop where
  refl : ∀ w, P w w
  trans : ∀ w₁ w₂ w₃, P w₁ w₂ → P w₂ w₃ → P w₁ w₃
  call : ∀ w c r w', A c → E w c r w' → P w w'

lemma Follows.any {C : Type u} {R : C → Type v} {W : Type x} {A : C → Prop}
    (E : Environment W C R) : Follows A E fun _ _ => True :=
  ⟨fun _ => trivial, fun _ _ _ _ _ => trivial, fun _ _ _ _ _ _ => trivial⟩

lemma Follows.mono {C : Type u} {R : C → Type v} {W : Type x} {A A' : C → Prop}
    {E : Environment W C R} {P : W → W → Prop} (hE : Follows A E P) (h : ∀ c, A' c → A c) :
    Follows A' E P :=
  ⟨hE.refl, hE.trans, fun w c r w' hc => hE.call w c r w' (h c hc)⟩

namespace Program

variable {C : Type u} {R : C → Type v} {W : Type x} {α β : Type w}

def bind {α : Type w} {β : Type y} (p : Program C R α) (f : α → Program C R β) :
    Program C R β :=
  match p with
  | done a => f a
  | call c k => call c fun r => (k r).bind f

instance : Monad (Program C R) where
  pure := done
  bind := bind

/-- The postcondition holds whatever admitted replies the program receives. -/
def wp (E : Environment W C R) : Program C R α → W → (α → W → Prop) → Prop
  | done a, w, Q => Q a w
  | call c k, w, Q => ∀ r w', E w c r w' → (k r).wp E w' Q

/-- The program can return `a`, leaving the world `w'`. -/
def Outcome (E : Environment W C R) : Program C R α → W → α → W → Prop
  | done a, w, b, w' => b = a ∧ w' = w
  | call c k, w, b, w' => ∃ r w₁, E w c r w₁ ∧ (k r).Outcome E w₁ b w'

variable {E : Environment W C R} {p : Program C R α} {w : W}

/-- What can be returned in one world can be returned in another that sees less of it. -/
theorem Outcome.map {V : Type y} {F : Environment V C R} (view : W → V)
    (h : ∀ w c r w', E w c r w' → F (view w) c r (view w')) {w' : W} {a : α}
    (ho : p.Outcome E w a w') : p.Outcome F (view w) a (view w') := by
  induction p generalizing w with
  | done b => exact ⟨ho.1, congrArg view ho.2⟩
  | call c k ih =>
    obtain ⟨r, w₁, hE, hk⟩ := ho
    exact ⟨r, view w₁, h w c r w₁ hE, ih r hk⟩

lemma wp_iff_outcome (E : Environment W C R) (p : Program C R α) (w : W)
    (Q : α → W → Prop) : p.wp E w Q ↔ ∀ a w', p.Outcome E w a w' → Q a w' := by
  induction p generalizing w with
  | done a => simp [wp, Outcome]
  | call c k ih =>
    simp only [wp, Outcome, ih]
    constructor
    · rintro h a w' ⟨r, w₁, hE, ho⟩
      exact h r w₁ hE a w' ho
    · intro h r w₁ hE a w' ho
      exact h a w' ⟨r, w₁, hE, ho⟩

@[simp] lemma wp_done (E : Environment W C R) (a : α) (w : W) (Q : α → W → Prop) :
    (done a : Program C R α).wp E w Q ↔ Q a w := Iff.rfl

lemma wp_bind {α : Type w} {β : Type y} (E : Environment W C R) (p : Program C R α)
    (f : α → Program C R β) (w : W) (Q : β → W → Prop) :
    (p.bind f).wp E w Q ↔ p.wp E w fun a w' => (f a).wp E w' Q := by
  induction p generalizing w with
  | done a => rfl
  | call c k ih =>
    simp only [bind, wp]
    exact forall_congr' fun r => forall_congr' fun w' => imp_congr_right fun _ => ih r w'

variable {Q Q' : α → W → Prop}

lemma wp_mono (E : Environment W C R) (h : p.wp E w Q) (hQ : ∀ a w', Q a w' → Q' a w') :
    p.wp E w Q' := by
  rw [wp_iff_outcome] at h ⊢
  exact fun a w' ho => hQ a w' (h a w' ho)

lemma wp_congr (E : Environment W C R) (hQ : ∀ a w', Q a w' ↔ Q' a w') :
    p.wp E w Q ↔ p.wp E w Q' :=
  ⟨fun h => wp_mono E h fun a w' => (hQ a w').1, fun h => wp_mono E h fun a w' => (hQ a w').2⟩

lemma wp_and (E : Environment W C R) (h : p.wp E w Q) (h' : p.wp E w Q') :
    p.wp E w fun a w' => Q a w' ∧ Q' a w' := by
  rw [wp_iff_outcome] at h h' ⊢
  exact fun a w' ho => ⟨h a w' ho, h' a w' ho⟩

lemma wp_of_forall (h : ∀ a w, Q a w) (p : Program C R α) (w : W) : p.wp E w Q := by
  induction p generalizing w with
  | done a => exact h a w
  | call c k ih => exact fun r w' _ => ih r w'

/-- What holds for every reply holds for those that are admitted. -/
theorem wp_of_anyReply {E : Environment Unit C R} {w : Unit} {Q : α → Unit → Prop}
    (h : p.wp anyReply w Q) : p.wp E w Q := by
  rw [wp_iff_outcome] at h ⊢
  exact fun a w' ho => h a w' (ho.map id fun _ _ _ _ _ => trivial)

/-- Requests that were watched move any world along the preorder that they follow. -/
theorem wp_of_watching {A : C → Prop} {P : W → W → Prop} (hE : Follows A E P) {Q : α → Prop}
    {q : Verdict} (h : p.wp (watching A) q fun a q' => q'.holds ∧ Q a) (w : W) :
    p.wp E w fun a w' => (q.holds ∧ Q a) ∧ P w w' := by
  induction p generalizing w q with
  | done a => exact ⟨h, hE.refl w⟩
  | call c k ih =>
    intro r w₁ hr
    refine wp_mono E (ih r (h r _ rfl) w₁) ?_
    rintro a w₂ ⟨⟨⟨hq, hc⟩, ha⟩, hw⟩
    exact ⟨⟨hq, ha⟩, hE.trans w w₁ w₂ (hE.call w c r w₁ hc hr) hw⟩

/-- Execution against a scripted world. -/
def exec (script : W → (c : C) → R c × W) : Program C R α → W → α × W
  | done a, w => (a, w)
  | call c k, w => (k (script w c).1).exec script (script w c).2

/-- A script whose replies the environment admits yields an outcome. The script
may keep more than the world that the environment sees. -/
theorem exec_outcome {V : Type y} (view : V → W) {script : V → (c : C) → R c × V}
    (h : ∀ v c, E (view v) c (script v c).1 (view (script v c).2)) (p : Program C R α) (v : V) :
    p.Outcome E (view v) (p.exec script v).1 (view (p.exec script v).2) := by
  induction p generalizing v with
  | done a => exact ⟨rfl, rfl⟩
  | call c k ih => exact ⟨_, _, h v c, ih _ _⟩

section Embed

variable {D : Type y} {Q : D → Type v}

/-- Issue the requests of a program as requests of a larger interface. -/
def embed (f : C → D) : Program C (fun c => Q (f c)) α → Program D Q α
  | done a => done a
  | call c k => call (f c) fun r => (k r).embed f

lemma wp_embed (E : Environment W D Q) (f : C → D) (p : Program C (fun c => Q (f c)) α)
    (w : W) (post : α → W → Prop) :
    (p.embed f).wp E w post ↔ p.wp (fun w c r w' => E w (f c) r w') w post := by
  induction p generalizing w with
  | done a => rfl
  | call c k ih =>
    simp only [embed, wp]
    exact forall_congr' fun r => forall_congr' fun w' => imp_congr_right fun _ => ih r w'

end Embed

end Program

/-- A method body over mutable state `S`: state changes made before an early
exit by an error remain visible afterwards. -/
def Method (C : Type u) (R : C → Type v) (S ε α : Type w) : Type (max u v w) :=
  S → Program C R (Except ε α × S)

namespace Method

variable {C : Type u} {R : C → Type v} {W : Type x} {S T ε δ α β : Type w}

instance : Monad (Method C R S ε) where
  pure a := fun s => .done (.ok a, s)
  bind m f := fun s => (m s).bind fun out =>
    match out with
    | (.ok a, s') => f a s'
    | (.error e, s') => .done (.error e, s')

protected def throw (e : ε) : Method C R S ε α := fun s => .done (.error e, s)
protected def get : Method C R S ε S := fun s => .done (.ok s, s)
protected def set (s : S) : Method C R S ε PUnit := fun _ => .done (.ok ⟨⟩, s)
protected def modify (f : S → S) : Method C R S ε PUnit := fun s => .done (.ok ⟨⟩, f s)

/-- Leave with `e` when the condition holds. -/
def failIf (c : Prop) [Decidable c] (e : ε) : Method C R S ε PUnit :=
  if c then Method.throw e else pure ⟨⟩

/-- Run the method only when the condition holds. -/
def when (c : Prop) [Decidable c] (m : Method C R S ε PUnit) : Method C R S ε PUnit :=
  if c then m else pure ⟨⟩

/-- `ok_or(e)?` on an optional value. -/
def okOr (o : Option α) (e : ε) : Method C R S ε α :=
  match o with
  | some a => pure a
  | none => Method.throw e

/-- The `?` operator on a pure result. -/
def lift (r : Except ε α) : Method C R S ε α := fun s => .done (r, s)

/-- Observe the result without leaving. -/
def attempt (m : Method C R S ε α) : Method C R S δ (Except ε α) := fun s =>
  (m s).bind fun out => .done (.ok out.1, out.2)

/-- Run a method of a component of the state. -/
def focus (view : S → T) (store : T → S → S) (m : Method C R T ε α) : Method C R S ε α :=
  fun s => (m (view s)).bind fun out => .done (out.1, store out.2 s)

/-- Issue the requests of a method as requests of a larger interface. -/
def embed {D : Type y} {Q : D → Type v} (f : C → D) (m : Method C (fun c => Q (f c)) S ε α) :
    Method D Q S ε α :=
  fun s => (m s).embed f

/-- Issue a request. -/
def request {R : C → Type w} (c : C) : Method C R S ε (R c) :=
  fun s => .call c fun r => .done (.ok r, s)

/-- Weakest precondition with one postcondition for each way of leaving. -/
def wp (E : Environment W C R) (m : Method C R S ε α) (s : S) (w : W)
    (ok : α → S → W → Prop) (err : ε → S → W → Prop) : Prop :=
  (m s).wp E w fun out w' =>
    match out.1 with
    | .ok a => ok a out.2 w'
    | .error e => err e out.2 w'

section Rules

variable (E : Environment W C R) (s : S) (w : W)
  (ok : α → S → W → Prop) (err : ε → S → W → Prop)

@[simp] lemma wp_pure (a : α) :
    (Pure.pure a : Method C R S ε α).wp E s w ok err ↔ ok a s w := Iff.rfl

@[simp] lemma wp_throw (e : ε) :
    (Method.throw e : Method C R S ε α).wp E s w ok err ↔ err e s w := Iff.rfl

@[simp] lemma wp_get (ok : S → S → W → Prop) :
    (Method.get : Method C R S ε S).wp E s w ok err ↔ ok s s w := Iff.rfl

@[simp] lemma wp_set (s' : S) (ok : PUnit → S → W → Prop) :
    (Method.set s' : Method C R S ε PUnit).wp E s w ok err ↔ ok ⟨⟩ s' w := Iff.rfl

@[simp] lemma wp_modify (f : S → S) (ok : PUnit → S → W → Prop) :
    (Method.modify f : Method C R S ε PUnit).wp E s w ok err ↔ ok ⟨⟩ (f s) w := Iff.rfl

@[simp] lemma wp_bind (m : Method C R S ε α) (f : α → Method C R S ε β)
    (ok : β → S → W → Prop) :
    (m >>= f).wp E s w ok err ↔
      m.wp E s w (fun a s' w' => (f a).wp E s' w' ok err) err := by
  change ((m s).bind _).wp E w _ ↔ (m s).wp E w _
  rw [Program.wp_bind]
  apply Program.wp_congr
  rintro ⟨_ | _, _⟩ w' <;> rfl

@[simp] lemma wp_failIf (c : Prop) [Decidable c] (e : ε) (ok : PUnit → S → W → Prop) :
    (failIf c e : Method C R S ε PUnit).wp E s w ok err ↔
      (c → err e s w) ∧ (¬ c → ok ⟨⟩ s w) := by
  by_cases h : c <;> simp [failIf, h]

@[simp] lemma wp_when (c : Prop) [Decidable c] (m : Method C R S ε PUnit)
    (ok : PUnit → S → W → Prop) :
    (when c m).wp E s w ok err ↔ (c → m.wp E s w ok err) ∧ (¬ c → ok ⟨⟩ s w) := by
  by_cases h : c <;> simp [when, h]

@[simp] lemma wp_okOr (o : Option α) (e : ε) :
    (okOr o e : Method C R S ε α).wp E s w ok err ↔
      (o = none → err e s w) ∧ ∀ a, o = some a → ok a s w := by
  cases o <;> simp [okOr]

lemma wp_okOr_some (a : α) (e : ε) :
    (okOr (some a) e : Method C R S ε α).wp E s w ok err ↔ ok a s w := Iff.rfl

@[simp] lemma wp_lift (r : Except ε α) :
    (lift r : Method C R S ε α).wp E s w ok err ↔
      (∀ e, r = .error e → err e s w) ∧ ∀ a, r = .ok a → ok a s w := by
  cases r <;> simp [lift, wp]

lemma wp_lift_ok (a : α) :
    (lift (.ok a) : Method C R S ε α).wp E s w ok err ↔ ok a s w := Iff.rfl

@[simp] lemma wp_attempt (m : Method C R S ε α) (ok : Except ε α → S → W → Prop)
    (err : δ → S → W → Prop) :
    (attempt m : Method C R S δ (Except ε α)).wp E s w ok err ↔
      m.wp E s w (fun a => ok (.ok a)) (fun e => ok (.error e)) := by
  simp only [wp, attempt, Program.wp_bind, Program.wp_done]
  apply Program.wp_congr
  rintro ⟨_ | _, _⟩ w' <;> rfl

@[simp] lemma wp_focus (view : S → T) (store : T → S → S) (m : Method C R T ε α) :
    (focus view store m).wp E s w ok err ↔
      m.wp E (view s) w (fun a t => ok a (store t s)) (fun e t => err e (store t s)) := by
  simp only [wp, focus, Program.wp_bind, Program.wp_done]

@[simp] lemma wp_embed {D : Type y} {Q : D → Type v} (E : Environment W D Q) (f : C → D)
    (m : Method C (fun c => Q (f c)) S ε α) :
    (embed f m).wp E s w ok err ↔ m.wp (fun w c r w' => E w (f c) r w') s w ok err :=
  Program.wp_embed E f (m s) w _

@[simp] lemma wp_request {R : C → Type w} (E : Environment W C R) (c : C)
    (ok : R c → S → W → Prop) :
    (request c : Method C R S ε (R c)).wp E s w ok err ↔
      ∀ r w', E w c r w' → ok r s w' := Iff.rfl

@[simp] lemma wp_ite (c : Prop) [Decidable c] (m n : Method C R S ε α) :
    (if c then m else n).wp E s w ok err ↔
      (c → m.wp E s w ok err) ∧ (¬ c → n.wp E s w ok err) := by
  by_cases h : c <;> simp [h]

variable {E s w ok err}

variable {m : Method C R S ε α}

lemma wp_mono {ok' : α → S → W → Prop} {err' : ε → S → W → Prop} (h : m.wp E s w ok err)
    (hok : ∀ a s' w', ok a s' w' → ok' a s' w') (herr : ∀ e s' w', err e s' w' → err' e s' w') :
    m.wp E s w ok' err' := by
  refine Program.wp_mono E h ?_
  rintro ⟨e | a, s'⟩ w' hout
  · exact herr e s' w' hout
  · exact hok a s' w' hout

lemma wp_and {ok' : α → S → W → Prop} {err' : ε → S → W → Prop} (h : m.wp E s w ok err)
    (h' : m.wp E s w ok' err') :
    m.wp E s w (fun a s' w' => ok a s' w' ∧ ok' a s' w')
      fun e s' w' => err e s' w' ∧ err' e s' w' := by
  refine Program.wp_mono E (Program.wp_and E h h') ?_
  rintro ⟨_ | _, _⟩ _ hout <;> exact hout

lemma wp_of_anyReply {E : Environment Unit C R} {w : Unit} {ok : α → S → Unit → Prop}
    {err : ε → S → Unit → Prop} (h : m.wp anyReply s w ok err) : m.wp E s w ok err :=
  Program.wp_of_anyReply h

/-- The method succeeds. -/
abbrev Gives (E : Environment W C R) (m : Method C R S ε α) (s : S) (w : W)
    (ok : α → S → W → Prop) : Prop := m.wp E s w ok fun _ _ _ => False

lemma Gives.mono {ok' : α → S → W → Prop} (hm : m.Gives E s w ok')
    (hok : ∀ a s' w', ok' a s' w' → ok a s' w') : m.wp E s w ok err :=
  wp_mono hm hok fun _ _ _ => False.elim

/-- From the two ways a method ends to the one result a call returns. -/
theorem wp_result {Q : Except ε α × S → W → Prop} (h : m.wp E s w ok err)
    (hok : ∀ a s' w', ok a s' w' → Q (.ok a, s') w')
    (herr : ∀ e s' w', err e s' w' → Q (.error e, s') w') : (m s).wp E w Q := by
  refine Program.wp_mono E h ?_
  rintro ⟨e | a, s'⟩ w' hout
  · exact herr e s' w' hout
  · exact hok a s' w' hout

/-- A postcondition that does not depend on how the method leaves. -/
theorem wp_weaken {P P' : S → W → Prop} (h : m.wp E s w (fun _ => P) (fun _ => P))
    (hP : ∀ s' w', P s' w' → P' s' w') :
    m.wp E s w (fun _ => P') (fun _ => P') :=
  wp_mono h (fun _ => hP) fun _ => hP

lemma wp_of_forall (hok : ∀ a s' w', ok a s' w') (herr : ∀ e s' w', err e s' w') :
    m.wp E s w ok err := by
  refine Program.wp_of_forall ?_ _ _
  rintro ⟨e | a, s'⟩ w'
  · exact herr e s' w'
  · exact hok a s' w'

end Rules

section Watching

variable {A A' : C → Prop} {F : ε → Prop} {E : Environment W C R} {P : W → W → Prop}
  {m : Method C R S ε α} {s : S} {w : W}

/-- Every request that the method can make is in `A`, whatever its state. -/
def Asks (A : C → Prop) (m : Method C R S ε α) : Prop :=
  ∀ s, m.wp (watching A) s ⟨True⟩ (fun _ _ q => q.holds) fun _ _ q => q.holds

/-- Every request is in `A`, and the state before is related to the state after, whatever
is answered. -/
def Does (A : C → Prop) (ok : α → S → S → Prop) (err : ε → S → S → Prop)
    (m : Method C R S ε α) : Prop :=
  ∀ s, m.wp (watching A) s ⟨True⟩ (fun a s' q => q.holds ∧ ok a s s')
    fun e s' q => q.holds ∧ err e s s'

/-- Every request is in `A`, the state is left alone, and the errors are in `F`. -/
abbrev Plain (A : C → Prop) (F : ε → Prop) (m : Method C R S ε α) : Prop :=
  Does A (fun _ s s' => s' = s) (fun e s s' => s' = s ∧ F e) m

variable {rok : α → S → S → Prop} {rerr : ε → S → S → Prop}

lemma Does.wp (hm : Does A rok rerr m) (hE : Follows A E P) (s : S) (w : W) :
    m.wp E s w (fun a s' w' => rok a s s' ∧ P w w') fun e s' w' => rerr e s s' ∧ P w w' := by
  have hboth : (m s).wp (watching A) ⟨True⟩ fun out q => q.holds ∧
      match out.1 with
      | .ok a => rok a s out.2
      | .error e => rerr e s out.2 := by
    refine Program.wp_mono _ (hm s) ?_
    rintro ⟨_ | _, _⟩ _ hout <;> exact hout
  refine Program.wp_mono E (Program.wp_of_watching hE hboth w) ?_
  rintro ⟨_ | _, _⟩ w' ⟨⟨-, hout⟩, hw⟩ <;> exact ⟨hout, hw⟩

lemma Asks.wp (hm : Asks A m) (hE : Follows A E P) (s : S) (w : W) :
    m.wp E s w (fun _ _ w' => P w w') fun _ _ w' => P w w' := by
  have hdoes : Does A (fun _ _ _ => True) (fun _ _ _ => True) m := by simpa [Does, Asks] using hm
  exact wp_mono (hdoes.wp hE s w) (fun _ _ _ h => h.2) fun _ _ _ h => h.2

lemma follows_watching (h : ∀ c, A c → A' c) :
    Follows A (watching A' : Environment Verdict C R) fun q q' => q.holds → q'.holds := by
  refine ⟨fun _ => id, fun _ _ _ h₁ h₂ h => h₂ (h₁ h), ?_⟩
  rintro q c r _ hc rfl hq
  exact ⟨hq, h c hc⟩

/-- A method inside another one that is watched. -/
theorem Does.watched (hm : Does A rok rerr m) (h : ∀ c, A c → A' c)
    {ok : α → S → Verdict → Prop} {err : ε → S → Verdict → Prop}
    (hok : ∀ a s', rok a s s' → ok a s' ⟨True⟩) (herr : ∀ e s', rerr e s s' → err e s' ⟨True⟩) :
    m.wp (watching A') s ⟨True⟩ ok err := by
  have heq {q : Verdict} (hq : True → q.holds) : q = ⟨True⟩ :=
    congrArg Verdict.mk (eq_true (hq trivial))
  refine wp_mono (hm.wp (follows_watching h) s ⟨True⟩) ?_ ?_
  · rintro a s' q ⟨hr, hq⟩
    exact heq hq ▸ hok a s' hr
  · rintro e s' q ⟨hr, hq⟩
    exact heq hq ▸ herr e s' hr

lemma Does.mono (hm : Does A rok rerr m) (h : ∀ c, A c → A' c) : Does A' rok rerr m :=
  fun _ => hm.watched h (fun _ _ hr => ⟨trivial, hr⟩) fun _ _ hr => ⟨trivial, hr⟩

/-- A plain method: only the world has moved. -/
theorem Plain.wp (hm : Plain A F m) (hE : Follows A E P) {ok : α → S → W → Prop}
    {err : ε → S → W → Prop} (hok : ∀ a w', P w w' → ok a s w')
    (herr : ∀ e w', F e → P w w' → err e s w') : m.wp E s w ok err := by
  refine wp_mono (Does.wp hm hE s w) ?_ ?_
  · rintro a _ w' ⟨rfl, hw⟩
    exact hok a w' hw
  · rintro e _ w' ⟨⟨rfl, he⟩, hw⟩
    exact herr e w' he hw

variable {f : α → Method C R S ε β}

/-- A plain method before a continuation, with the world related to an earlier one
throughout. -/
theorem Plain.step (hm : Plain A F m) (hE : Follows A E P) {w₀ : W} (hw : P w₀ w)
    {ok : β → S → W → Prop} {err : ε → S → W → Prop}
    (herr : ∀ e w', F e → P w₀ w' → err e s w')
    (hok : ∀ a w', P w₀ w' → (f a).wp E s w' ok err) : (m >>= f).wp E s w ok err :=
  (wp_bind ..).2 (hm.wp hE (fun a w' h => hok a w' (hE.trans _ _ _ hw h))
    fun e w' he h => herr e w' he (hE.trans _ _ _ hw h))

lemma Plain.when {m : Method C R S ε PUnit} (hm : Plain A F m) (c : Prop) [Decidable c] :
    Plain A F (Method.when c m) :=
  fun s => (wp_when ..).2 ⟨fun _ => hm s, fun _ => ⟨trivial, rfl⟩⟩

end Watching

/-- Every state and world of `I` is one of `J`. -/
class Leads (I J : S → W → Prop) : Prop where
  leads : ∀ s w, I s w → J s w

instance Leads.refl (I : S → W → Prop) : Leads I I := ⟨fun _ _ h => h⟩

/-- Every reply that is admitted to the request keeps `I`. -/
class Spares (E : Environment W C R) (I : S → W → Prop) (c : C) : Prop where
  spares : ∀ s w r w', E w c r w' → I s w → I s w'

/-- From `I` the method returns in `I` or fails in `J`. A class, so that a method is walked
by instance search wherever its actions are known to keep `I`. -/
class Keeps (E : Environment W C R) (I J : S → W → Prop) (m : Method C R S ε α) : Prop where
  wp : ∀ s w, I s w → m.wp E s w (fun _ s' w' => I s' w') (fun _ s' w' => J s' w')

namespace Keeps

variable {E : Environment W C R} {I J : S → W → Prop}

instance pure (a : α) : Keeps E I J (Pure.pure a : Method C R S ε α) := ⟨fun _ _ h => h⟩

instance get : Keeps E I J (Method.get : Method C R S ε S) := ⟨fun _ _ h => h⟩

instance throw [hJ : Leads I J] (e : ε) : Keeps E I J (Method.throw e : Method C R S ε α) :=
  ⟨fun s w h => hJ.leads s w h⟩

instance lift [hJ : Leads I J] (r : Except ε α) : Keeps E I J (Method.lift r : Method C R S ε α) :=
  ⟨fun s w h => (wp_lift ..).2 ⟨fun _ _ => hJ.leads s w h, fun _ _ => h⟩⟩

instance okOr [hJ : Leads I J] (o : Option α) (e : ε) :
    Keeps E I J (Method.okOr o e : Method C R S ε α) :=
  ⟨fun s w h => (wp_okOr ..).2 ⟨fun _ => hJ.leads s w h, fun _ _ => h⟩⟩

instance failIf [hJ : Leads I J] (c : Prop) [Decidable c] (e : ε) :
    Keeps E I J (Method.failIf c e : Method C R S ε PUnit) :=
  ⟨fun s w h => (wp_failIf ..).2 ⟨fun _ => hJ.leads s w h, fun _ => h⟩⟩

lemma modify {f : S → S} (hf : ∀ s w, I s w → I (f s) w) :
    Keeps E I J (Method.modify f : Method C R S ε PUnit) := ⟨fun s w h => hf s w h⟩

instance request {R : C → Type w} {E : Environment W C R} {c : C} [hc : Spares E I c] :
    Keeps E I J (Method.request c : Method C R S ε (R c)) :=
  ⟨fun s w h r w' hE => hc.spares s w r w' hE h⟩

/-- A continuation with postconditions of its own. -/
theorem step {m : Method C R S ε α} {f : α → Method C R S ε β} (hm : Keeps E I J m) {s : S} {w : W}
    (h : I s w) {ok : β → S → W → Prop} {err : ε → S → W → Prop}
    (herr : ∀ e s' w', J s' w' → err e s' w')
    (hok : ∀ a s' w', I s' w' → (f a).wp E s' w' ok err) : (m >>= f).wp E s w ok err :=
  (wp_bind ..).2 (wp_mono (hm.wp s w h) hok herr)

lemma seq {m : Method C R S ε α} {f : α → Method C R S ε β} (hm : Keeps E I J m)
    (hf : ∀ a, Keeps E I J (f a)) : Keeps E I J (m >>= f) :=
  ⟨fun _ _ h => hm.step h (fun _ _ _ h' => h') fun a => (hf a).wp⟩

instance bind {m : Method C R S ε α} {f : α → Method C R S ε β} [hm : Keeps E I J m]
    [hf : ∀ a, Keeps E I J (f a)] : Keeps E I J (m >>= f) := seq hm hf

instance (priority := low) bind_prod {m : Method C R S ε (α × T)} {f : α × T → Method C R S ε β}
    [hm : Keeps E I J m] [hf : ∀ a b, Keeps E I J (f (a, b))] : Keeps E I J (m >>= f) :=
  seq hm fun (a, b) => hf a b

/-- A continuation that asks whether the first action found something. -/
instance (priority := low) bind_option {m : Method C R S ε (Option α)}
    {f : Option α → Method C R S ε β} [hm : Keeps E I J m] [hnone : Keeps E I J (f none)]
    [hsome : ∀ a, Keeps E I J (f (some a))] : Keeps E I J (m >>= f) :=
  seq hm fun
    | none => hnone
    | some a => hsome a

/-- A continuation that asks whether the first action succeeded. -/
instance (priority := low) bind_except {m : Method C R S ε (Except δ α)}
    {f : Except δ α → Method C R S ε β} [hm : Keeps E I J m]
    [herror : ∀ e, Keeps E I J (f (.error e))] [hok : ∀ a, Keeps E I J (f (.ok a))] :
    Keeps E I J (m >>= f) :=
  seq hm fun
    | .error e => herror e
    | .ok a => hok a

/-- A continuation that may look at the state it starts in. -/
theorem get_bind {f : S → Method C R S ε β}
    (hf : ∀ s w, I s w → (f s).wp E s w (fun _ s' w' => I s' w') (fun _ s' w' => J s' w')) :
    Keeps E I J (Method.get >>= f) :=
  ⟨fun s w h => (wp_bind ..).2 (hf s w h)⟩

instance attempt {m : Method C R S ε α} [hm : Keeps E I I m] :
    Keeps E I J (Method.attempt m : Method C R S δ (Except ε α)) :=
  ⟨fun s w h => (wp_attempt ..).2 (hm.wp s w h)⟩

instance ite {c : Prop} [Decidable c] {m n : Method C R S ε α} [hm : Keeps E I J m]
    [hn : Keeps E I J n] : Keeps E I J (if c then m else n) := by
  split_ifs
  · exact hm
  · exact hn

instance when {c : Prop} [Decidable c] {m : Method C R S ε PUnit} [Keeps E I J m] :
    Keeps E I J (Method.when c m) :=
  inferInstanceAs (Keeps E I J (if c then m else Pure.pure _))

end Keeps

end Method

/-! The first action of a method before its continuation. -/
namespace Then

variable {C : Type u} {R : C → Type v} {W : Type x} {S ε α β : Type w} {E : Environment W C R}
  {s : S} {w : W} {ok : β → S → W → Prop} {err : ε → S → W → Prop}

variable {m : Method C R S ε α} {f : α → Method C R S ε β}

lemma of (h : m.wp E s w (fun a s' w' => (f a).wp E s' w' ok err) err) :
    (m >>= f).wp E s w ok err :=
  (Method.wp_bind ..).2 h

lemma get {f : S → Method C R S ε β} (h : (f s).wp E s w ok err) :
    (Method.get >>= f).wp E s w ok err := of h

lemma modify {g : S → S} {f : PUnit → Method C R S ε β} (h : (f ⟨⟩).wp E (g s) w ok err) :
    (Method.modify g >>= f).wp E s w ok err := of h

lemma failIf {c : Prop} [Decidable c] {e : ε} {f : PUnit → Method C R S ε β}
    (hfail : c → err e s w) (h : ¬ c → (f ⟨⟩).wp E s w ok err) :
    (Method.failIf c e >>= f).wp E s w ok err := of ((Method.wp_failIf ..).2 ⟨hfail, h⟩)

lemma okOr {o : Option α} {e : ε} (hnone : o = none → err e s w)
    (h : ∀ a, o = some a → (f a).wp E s w ok err) : (Method.okOr o e >>= f).wp E s w ok err :=
  of ((Method.wp_okOr ..).2 ⟨hnone, h⟩)

lemma lift {r : Except ε α} (herror : ∀ e, r = .error e → err e s w)
    (h : ∀ a, r = .ok a → (f a).wp E s w ok err) : (Method.lift r >>= f).wp E s w ok err :=
  of ((Method.wp_lift ..).2 ⟨herror, h⟩)

/-- A request and every reply that the environment admits. -/
theorem request {R : C → Type w} {E : Environment W C R} {c : C} {f : R c → Method C R S ε β}
    (h : ∀ r w', E w c r w' → (f r).wp E s w' ok err) :
    (Method.request c >>= f).wp E s w ok err := of h

/-- A request whose exchange is recorded. -/
theorem recorded {R : C → Type w} {A : (c : C) → R c → Prop} {log : List (Exchange C R)} {c : C}
    {f : R c → Method C R S ε β} {ok : β → S → List (Exchange C R) → Prop}
    {err : ε → S → List (Exchange C R) → Prop}
    (h : ∀ r, A c r → (f r).wp (recording A) s (log ++ [⟨c, r⟩]) ok err) :
    (Method.request c >>= f).wp (recording A) s log ok err := by
  refine request ?_
  rintro r _ ⟨hr, rfl⟩
  exact h r hr

lemma mono {ok' : α → S → W → Prop} {err' : ε → S → W → Prop} (hm : m.wp E s w ok' err')
    (herr : ∀ e s' w', err' e s' w' → err e s' w')
    (hok : ∀ a s' w', ok' a s' w' → (f a).wp E s' w' ok err) : (m >>= f).wp E s w ok err :=
  of (Method.wp_mono hm hok herr)

lemma attempt {δ : Type w} {m : Method C R S δ α} {f : Except δ α → Method C R S ε β}
    (h : m.wp E s w (fun a s' w' => (f (.ok a)).wp E s' w' ok err)
      fun e s' w' => (f (.error e)).wp E s' w' ok err) :
    (Method.attempt m >>= f).wp E s w ok err := of ((Method.wp_attempt ..).2 h)

lemma gives {ok' : α → S → W → Prop} (hm : m.Gives E s w ok')
    (hok : ∀ a s' w', ok' a s' w' → (f a).wp E s' w' ok err) :
    (m >>= f).wp E s w ok err :=
  mono hm (fun _ _ _ => False.elim) hok

section Watching

variable {A A' : C → Prop} {ok : β → S → Verdict → Prop} {err : ε → S → Verdict → Prop}

/-- A request while the requests are watched. -/
theorem ask {R : C → Type w} {c : C} {f : R c → Method C R S ε β} (hc : A c)
    (h : ∀ r, (f r).wp (watching A) s ⟨True⟩ ok err) :
    (Method.request c >>= f).wp (watching A) s ⟨True⟩ ok err := by
  refine request fun r q hq => ?_
  obtain rfl : q = ⟨True⟩ := by simpa [watching, hc] using hq
  exact h r

lemma plain {F : ε → Prop} {m : Method C R S ε α} {f : α → Method C R S ε β}
    (hm : Method.Plain A' F m) (hA : ∀ c, A' c → A c) (herr : ∀ e, F e → err e s ⟨True⟩)
    (h : ∀ a, (f a).wp (watching A) s ⟨True⟩ ok err) :
    (m >>= f).wp (watching A) s ⟨True⟩ ok err := by
  refine of (hm.watched hA ?_ ?_)
  · rintro a _ rfl
    exact h a
  · rintro e _ ⟨rfl, he⟩
    exact herr e he

end Watching

end Then

/-- An object whose methods are invoked one after the other, with every effect
outside its state `S` a request. -/
structure Service (C : Type u) (R : C → Type v) (S : Type w) where
  Op : Type w
  Ret : Op → Type w
  run : (op : Op) → S → Program C R (Ret op × S)

namespace Service

variable {C : Type u} {R : C → Type v} {S : Type w}

/-- One finished method call: what it returned and what it requested meanwhile. -/
structure Invocation (M : Service C R S) where
  op : M.Op
  ret : M.Ret op
  calls : List (Exchange C R)

/-- Histories of the service from `s₀`, oldest call first, for every choice of
methods and of the replies in `A`. -/
inductive Run (M : Service C R S) (A : (c : C) → R c → Prop) (s₀ : S) :
    List M.Invocation → S → Prop
  | nil : Run M A s₀ [] s₀
  | snoc {h : List M.Invocation} {s s' : S} {op : M.Op} {ret : M.Ret op}
      {calls : List (Exchange C R)} (hrun : Run M A s₀ h s)
      (hout : (M.run op s).Outcome (recording A) [] (ret, s') calls) :
      Run M A s₀ (h ++ [⟨op, ret, calls⟩]) s'

/-- An invariant of the history and the state, from one weakest precondition
for each method. -/
theorem Run.invariant {M : Service C R S} {A : (c : C) → R c → Prop} {s₀ : S}
    {I : List M.Invocation → S → Prop} (h₀ : I [] s₀)
    (hstep : ∀ h s op, I h s → (M.run op s).wp (recording A) []
      fun out calls => I (h ++ [⟨op, out.1, calls⟩]) out.2)
    {h : List M.Invocation} {s : S} (hr : M.Run A s₀ h s) : I h s := by
  induction hr with
  | nil => exact h₀
  | snoc _ hout ih =>
    exact (Program.wp_iff_outcome _ _ _ _).1 (hstep _ _ _ ih) _ _ hout

section Reach

variable {W : Type x} {V : Type y} {M : Service C R S} {E : Environment W C R} {s₀ : S} {w₀ : W}

/-- States of the service and of its environment after any number of calls. -/
inductive Reach (M : Service C R S) (E : Environment W C R) (s₀ : S) (w₀ : W) : S → W → Prop
  | init : Reach M E s₀ w₀ s₀ w₀
  | step {s s' : S} {w w' : W} {op : M.Op} {ret : M.Ret op} (hreach : Reach M E s₀ w₀ s w)
      (hout : (M.run op s).Outcome E w (ret, s') w') : Reach M E s₀ w₀ s' w'

lemma Reach.invariant {I : S → W → Prop} (h₀ : I s₀ w₀)
    (hstep : ∀ s w op, I s w → (M.run op s).wp E w fun out w' => I out.2 w')
    {s : S} {w : W} (h : M.Reach E s₀ w₀ s w) : I s w := by
  induction h with
  | init => exact h₀
  | step _ hout ih => exact (Program.wp_iff_outcome _ _ _ _).1 (hstep _ _ _ ih) _ _ hout

/-- Run the calls in turn against a scripted world. -/
def play (M : Service C R S) (script : V → (c : C) → R c × V) : List M.Op → S → V → S × V
  | [], s, v => (s, v)
  | op :: ops, s, v =>
    let out := (M.run op s).exec script v
    play M script ops out.1.2 out.2

lemma Reach.play (view : V → W) {script : V → (c : C) → R c × V}
    (h : ∀ v c, E (view v) c (script v c).1 (view (script v c).2)) (ops : List M.Op) {s : S} {v : V}
    (hr : M.Reach E s₀ w₀ s (view v)) :
    M.Reach E s₀ w₀ (M.play script ops s v).1 (view (M.play script ops s v).2) := by
  induction ops generalizing s v with
  | nil => exact hr
  | cons op ops ih => exact ih (hr.step (Program.exec_outcome view h (M.run op s) v))

end Reach

section Replay

variable (M : Service C R S) (script : List (Exchange C R) → (c : C) → R c)

/-- The scripted world that records what it was asked. -/
def recorded (log : List (Exchange C R)) (c : C) : R c × List (Exchange C R) :=
  (script log c, log ++ [⟨c, script log c⟩])

/-- Invoke the methods in turn; the script sees the exchanges of the current one. -/
def replay : List M.Op → S → List M.Invocation × S
  | [], s => ([], s)
  | op :: ops, s =>
    let out := (M.run op s).exec (recorded script) []
    let rest := replay ops out.1.2
    (⟨op, out.1.1, out.2⟩ :: rest.1, rest.2)

variable {M script} {A : (c : C) → R c → Prop} {s₀ : S}

lemma Run.append_replay (hA : ∀ log c, A c (script log c)) (ops : List M.Op) {s : S}
    {h : List M.Invocation} (hr : M.Run A s₀ h s) :
    M.Run A s₀ (h ++ (M.replay script ops s).1) (M.replay script ops s).2 := by
  induction ops generalizing s h with
  | nil => simpa [replay] using hr
  | cons op ops ih =>
    have hscript : ∀ log c,
        recording A log c (recorded script log c).1 (recorded script log c).2 :=
      fun log c => ⟨hA log c, rfl⟩
    have hout := Program.exec_outcome id hscript (M.run op s) []
    simpa [replay] using ih (hr.snoc hout)

/-- A replay is a history of the service. -/
theorem run_replay (hA : ∀ log c, A c (script log c)) (ops : List M.Op) (s₀ : S) :
    M.Run A s₀ (M.replay script ops s₀).1 (M.replay script ops s₀).2 :=
  Run.append_replay hA ops .nil

end Replay

end Service

end Interaction
