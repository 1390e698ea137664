import ThinBasicZmq.Interaction.Guarantee

/-!
# Pre- and postconditions

What holds of the state of a handler before and after the run of a program. The rules follow
the structure of programs, and an invariant needs to be looked at for one request only.
-/

namespace Interaction

namespace Prog

variable {Req : Type} {Resp : Req → Type} {σ α β : Type}

/-- A run that starts in `P` stops with a result and a state in `Q`. -/
def Triple (h : (r : Req) → σ → Resp r × σ) (P : σ → Prop) (p : Prog Resp α)
    (Q : α → σ → Prop) : Prop :=
  ∀ s, P s → Q (p.run h s).1 (p.run h s).2

/-- The run stops in `I` if it starts there. -/
abbrev Keeps (h : (r : Req) → σ → Resp r × σ) (I : σ → Prop) (p : Prog Resp α) : Prop :=
  p.Triple h I fun _ => I

variable {h : (r : Req) → σ → Resp r × σ} {P I : σ → Prop} {Q : α → σ → Prop}

lemma triple_pure {a : α} (hP : ∀ s, P s → Q a s) : (pure a : Prog Resp α).Triple h P Q := hP

/-- A request, with what holds behind its answer. -/
lemma triple_request {r : Req} {f : Resp r → Prog Resp α} {R : Resp r → σ → Prop}
    (hr : ∀ s, P s → R (h r s).1 (h r s).2) (hf : ∀ x, (f x).Triple h (R x) Q) :
    (request r >>= f).Triple h P Q := fun s hs => hf _ _ (hr s hs)

theorem Triple.bind {R : α → σ → Prop} {Q : β → σ → Prop} {p : Prog Resp α}
    {f : α → Prog Resp β} (hp : p.Triple h P R) (hf : ∀ a, (f a).Triple h (R a) Q) :
    (p >>= f).Triple h P Q := by
  intro s hs
  rw [run_bind]
  exact hf _ _ (hp s hs)

lemma Triple.map {Q : β → σ → Prop} {p : Prog Resp α} {f : α → β}
    (hp : p.Triple h P fun a => Q (f a)) : (f <$> p).Triple h P Q := by
  rw [map_eq_pure_bind]
  exact hp.bind fun a => triple_pure fun _ => id

lemma Triple.ite {c : Prop} [Decidable c] {p q : Prog Resp α} (hp : c → p.Triple h P Q)
    (hq : ¬ c → q.Triple h P Q) : (if c then p else q).Triple h P Q := by
  split
  · exact hp ‹_›
  · exact hq ‹_›

lemma Triple.conseq {P' : σ → Prop} {Q' : α → σ → Prop} {p : Prog Resp α} (hp : p.Triple h P Q)
    (hP : ∀ s, P' s → P s) (hQ : ∀ a s, Q a s → Q' a s) : p.Triple h P' Q' :=
  fun s hs => hQ _ _ (hp s (hP s hs))

/-- A part of the precondition that is not about the state. -/
lemma Triple.assume {c : Prop} {p : Prog Resp α} (hp : c → p.Triple h P Q) :
    p.Triple h (fun s => c ∧ P s) Q := fun s hs => hp hs.1 s hs.2

/-- Requests that keep an invariant. -/
theorem Only.keeps {R : Req → Prop} {p : Prog Resp α} (hp : p.Only R)
    (hI : ∀ r s, R r → I s → I (h r s).2) : p.Keeps h I := by
  induction p with
  | done a => exact fun s hs => hs
  | ask r next ih => exact fun s hs => ih _ (hp.2 _) _ (hI r s hp.1 hs)

/-- The same where the invariant says something of the answers. -/
theorem Guarantees.triple {A : (r : Req) → Resp r → Prop} {R : Req → Prop} {q : α → Prop}
    {p : Prog Resp α} (hp : p.Guarantees A R q) (hA : ∀ r s, I s → A r (h r s).1)
    (hI : ∀ r s, R r → I s → I (h r s).2) : p.Triple h I fun a s => q a ∧ I s := by
  induction p with
  | done a => exact fun s hs => ⟨hp, hs⟩
  | ask r next ih =>
    intro s hs
    exact ih _ (hp.2 _ (hA r s hs)) _ (hI r s hp.1 hs)

end Prog

end Interaction
