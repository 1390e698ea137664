import ThinBasicZmq.Interaction.Reentrant

/-!
# Assumptions and guarantees

A program that is answered within an assumption guarantees something of each of its requests
and of its result, without regard to any world. What the programs of a re-entrant system
guarantee, each on its own, every one of its configurations keeps to.
-/

namespace Interaction

variable {Req : Type} {Resp : Req → Type} {World Value α β : Type}

namespace Prog

/-- While the answers satisfy `A`, the requests of the program satisfy `P` and its result `Q`. -/
def Guarantees (A : (r : Req) → Resp r → Prop) (P : Req → Prop) (Q : α → Prop) :
    Prog Resp α → Prop
  | done a => Q a
  | ask r next => P r ∧ ∀ x, A r x → (next x).Guarantees A P Q

variable {A : (r : Req) → Resp r → Prop} {P P' : Req → Prop} {Q : α → Prop}

lemma Guarantees.mono {Q' : α → Prop} {p : Prog Resp α} (h : p.Guarantees A P Q)
    (hQ : ∀ a, Q a → Q' a) : p.Guarantees A P Q' := by
  induction p with
  | done a => exact hQ a h
  | ask r next ih => exact ⟨h.1, fun x hx => ih x (h.2 x hx)⟩

theorem Guarantees.bind {Q' : β → Prop} {p : Prog Resp α} {f : α → Prog Resp β}
    (hp : p.Guarantees A P Q) (hf : ∀ a, Q a → (f a).Guarantees A P Q') :
    (p >>= f).Guarantees A P Q' := by
  induction p with
  | done a => exact hf a hp
  | ask r next ih => exact ⟨hp.1, fun x hx => ih x (hp.2 x hx)⟩

lemma Guarantees.ite {c : Prop} [Decidable c] {p q : Prog Resp α} (hp : c → p.Guarantees A P Q)
    (hq : ¬ c → q.Guarantees A P Q) : (if c then p else q).Guarantees A P Q := by
  split
  · exact hp ‹_›
  · exact hq ‹_›

lemma Only.guarantees {p : Prog Resp α} (hp : p.Only P') (hP : ∀ r, P' r → P r) :
    p.Guarantees A P fun _ => True := by
  induction p with
  | done a => trivial
  | ask r next ih => exact ⟨hP r hp.1, fun x _ => ih x (hp.2 x)⟩

lemma Settles.guarantees {p : Prog Resp α} {a : α} (hp : p.Settles P' a) (hP : ∀ r, P' r → P r)
    (hQ : Q a) : p.Guarantees A P Q := by
  induction p with
  | done b =>
    obtain rfl : a = b := hp
    exact hQ
  | ask r next ih => exact ⟨hP r hp.1, fun x _ => ih x (hp.2 x)⟩

lemma Guarantees.only {p : Prog Resp α} (h : p.Guarantees (fun _ _ => True) P Q) : p.Only P := by
  induction p with
  | done a => trivial
  | ask r next ih => exact ⟨h.1, fun x => ih x (h.2 x trivial)⟩

lemma Settles.and {p : Prog Resp α} {a : α} (hp : p.Settles P a) (hp' : p.Only P') :
    p.Settles (fun r => P r ∧ P' r) a := by
  induction p with
  | done b => exact hp
  | ask r next ih => exact ⟨⟨hp.1, hp'.1⟩, fun x => ih x (hp.2 x) (hp'.2 x)⟩

/-- A judgement on programs and their results that follows the structure of the programs. -/
structure Calculus (W : ∀ {α : Type}, Prog Resp α → (α → Prop) → Prop) : Prop where
  ret : ∀ {α : Type} {Q : α → Prop} {a : α}, Q a → W (pure a) Q
  bind : ∀ {α β : Type} {p : Prog Resp α} {f : α → Prog Resp β} {Q : α → Prop} {Q' : β → Prop},
    W p Q → (∀ a, Q a → W (f a) Q') → W (p >>= f) Q'

namespace Calculus

variable {W : ∀ {α : Type}, Prog Resp α → (α → Prop) → Prop} (hW : Calculus @W)

include hW

lemma mono {Q' : α → Prop} {p : Prog Resp α} (hp : W p Q) (hQ : ∀ a, Q a → Q' a) : W p Q' := by
  have hbind : W (p >>= pure) Q' := hW.bind hp fun a ha => hW.ret (hQ a ha)
  rwa [bind_pure] at hbind

lemma map {Q' : β → Prop} {p : Prog Resp α} {f : α → β} (hp : W p Q)
    (hf : ∀ a, Q a → Q' (f a)) : W (f <$> p) Q' := by
  rw [map_eq_pure_bind]
  exact hW.bind hp fun a ha => hW.ret (hf a ha)

omit hW in
lemma ite {c : Prop} [Decidable c] {p q : Prog Resp α} (hp : c → W p Q) (hq : ¬ c → W q Q) :
    W (if c then p else q) Q := by
  split
  · exact hp ‹_›
  · exact hq ‹_›

end Calculus

lemma calculus_guarantees (A : (r : Req) → Resp r → Prop) (P : Req → Prop) :
    Calculus fun {_} (p : Prog Resp _) Q => p.Guarantees A P Q where
  ret h := h
  bind hp hf := hp.bind hf

end Prog

namespace System

variable {S : System Resp World Value} {A : (r : Req) → Resp r → Prop} {P : Req → Prop}
  {Q : Value → Prop}

/-- What one step preserves: each frame guarantees what is left of its guarantee. -/
lemma guarantees_step (hA : ∀ w r x w', S.respond w r x w' → A r x)
    (hopens : ∀ w p, S.opens w p → p.Guarantees A P Q)
    (hnests : ∀ w p, S.nests w p → p.Guarantees A P Q) {c c' : Config Resp World Value}
    (h : ∀ p ∈ c.frames, p.Guarantees A P Q) (hs : S.Step c c') :
    ∀ p ∈ c'.frames, p.Guarantees A P Q := by
  cases hs with
  | start hp => exact List.forall_mem_singleton.mpr (hopens _ _ hp)
  | nest _ hp => exact List.forall_mem_cons.mpr ⟨hnests _ _ hp, h⟩
  | reply hx =>
    obtain ⟨hp, hfs⟩ := List.forall_mem_cons.mp h
    exact List.forall_mem_cons.mpr ⟨hp.2 _ (hA _ _ _ _ hx), hfs⟩
  | finish => exact (List.forall_mem_cons.mp h).2

theorem guarantees_reachable (hA : ∀ w r x w', S.respond w r x w' → A r x)
    (hopens : ∀ w p, S.opens w p → p.Guarantees A P Q)
    (hnests : ∀ w p, S.nests w p → p.Guarantees A P Q) {w : World} {c : Config Resp World Value}
    (hc : S.Reachable w c) : ∀ p ∈ c.frames, p.Guarantees A P Q := by
  induction hc with
  | refl =>
    intro p hp
    cases hp
  | tail _ hs ih => exact guarantees_step hA hopens hnests ih hs

end System

end Interaction
