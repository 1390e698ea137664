import ThinBasicZmq.Interaction.Prog

/-!
# Executions against an environment

An environment says which answers a request may get in a world, and which worlds they leave.
A program is executed against it request by request. The rules proved here compute, from the
program, what holds at every point of its executions and what holds where they end.
-/

namespace Interaction

variable {Req : Type} {Resp : Req → Type} {World α β : Type}

structure Environment (Resp : Req → Type) (World : Type) where
  /-- `respond w r x w'`: in world `w` the request `r` may be answered by `x`, leaving `w'`. -/
  respond : World → (r : Req) → Resp r → World → Prop

namespace Environment

variable (E : Environment Resp World)

/-- Started in world `w`, the program `p` may come to be `p'` in world `w'`. -/
inductive Reaches : Prog Resp α → World → Prog Resp α → World → Prop
  | refl {p w} : Reaches p w p w
  | step {r next w x w' p' w''} : E.respond w r x w' → Reaches (next x) w' p' w'' →
      Reaches (.ask r next) w p' w''

/-- Started in world `w`, the program may end with `a` in world `w'`. -/
def Executes (p : Prog Resp α) (w : World) (a : α) (w' : World) : Prop :=
  E.Reaches p w (.done a) w'

/-- At every point of every execution the world satisfies `I`, and where one ends, `Q` holds of
the result and the world. -/
def Ensures (I : World → Prop) (Q : α → World → Prop) : Prog Resp α → World → Prop
  | .done a, w => I w ∧ Q a w
  | .ask r next, w => I w ∧ ∀ x w', E.respond w r x w' → Ensures I Q (next x) w'

variable {E} {I : World → Prop}

lemma Ensures.inv {Q : α → World → Prop} {p : Prog Resp α} {w : World} (h : E.Ensures I Q p w) :
    I w := by
  cases p with
  | done a => exact h.1
  | ask r next => exact h.1

/-- What one step preserves, and by induction every execution. -/
theorem Ensures.reaches {Q : α → World → Prop} {p p' : Prog Resp α} {w w' : World}
    (h : E.Ensures I Q p w) (hr : E.Reaches p w p' w') : E.Ensures I Q p' w' := by
  induction hr with
  | refl => exact h
  | step hx _ ih => exact ih (h.2 _ _ hx)

theorem Ensures.executes {Q : α → World → Prop} {p : Prog Resp α} {w w' : World} {a : α}
    (h : E.Ensures I Q p w) (he : E.Executes p w a w') : Q a w' :=
  (h.reaches he).2

theorem Ensures.mono {Q Q' : α → World → Prop} {p : Prog Resp α} {w : World}
    (h : E.Ensures I Q p w) (hQ : ∀ a w, Q a w → Q' a w) : E.Ensures I Q' p w := by
  induction p generalizing w with
  | done a => exact ⟨h.1, hQ a w h.2⟩
  | ask r next ih => exact ⟨h.1, fun x w' hx => ih x (h.2 x w' hx)⟩

theorem ensures_bind {Q : β → World → Prop} {p : Prog Resp α} {f : α → Prog Resp β} {w : World}
    (h : E.Ensures I (fun a w => E.Ensures I Q (f a) w) p w) : E.Ensures I Q (p >>= f) w := by
  induction p generalizing w with
  | done a => exact h.2
  | ask r next ih => exact ⟨h.1, fun x w' hx => ih x (h.2 x w' hx)⟩

lemma ensures_ite {Q : α → World → Prop} {c : Prop} [Decidable c] {p q : Prog Resp α} {w : World}
    (hp : c → E.Ensures I Q p w) (hq : ¬ c → E.Ensures I Q q w) :
    E.Ensures I Q (if c then p else q) w := by
  split
  · exact hp ‹_›
  · exact hq ‹_›

/-- Requests that leave the world as it is. -/
lemma ensures_of_only {P : Req → Prop} {Q : α → World → Prop} {p : Prog Resp α} {w : World}
    (hP : ∀ r x w', P r → E.respond w r x w' → w' = w) (hp : p.Only P) (hI : I w)
    (hQ : ∀ a, Q a w) : E.Ensures I Q p w := by
  induction p with
  | done a => exact ⟨hI, hQ a⟩
  | ask r next ih =>
    refine ⟨hI, ?_⟩
    intro x w' hx
    rw [hP r x w' hp.1 hx]
    exact ih x (hp.2 x)

/-- Requests that keep an invariant. -/
lemma ensures_of_kept {P : Req → Prop} {p : Prog Resp α} {w : World}
    (hP : ∀ r w x w', P r → I w → E.respond w r x w' → I w') (hp : p.Only P) (hI : I w) :
    E.Ensures I (fun _ => I) p w := by
  induction p generalizing w with
  | done a => exact ⟨hI, hI⟩
  | ask r next ih =>
    refine ⟨hI, ?_⟩
    intro x w' hx
    exact ih x (hp.2 x) (hP r w x w' hp.1 hI hx)

lemma Ensures.and {I' : World → Prop} {Q Q' : α → World → Prop} {p : Prog Resp α} {w : World}
    (h : E.Ensures I Q p w) (h' : E.Ensures I' Q' p w) :
    E.Ensures (fun w => I w ∧ I' w) (fun a w => Q a w ∧ Q' a w) p w := by
  induction p generalizing w with
  | done a => exact ⟨⟨h.1, h'.1⟩, h.2, h'.2⟩
  | ask r next ih => exact ⟨⟨h.1, h'.1⟩, fun x w' hx => ih x (h.2 x w' hx) (h'.2 x w' hx)⟩

lemma Ensures.weaken {I' : World → Prop} {Q : α → World → Prop} {p : Prog Resp α} {w : World}
    (h : E.Ensures I Q p w) (hI : ∀ w, I w → I' w) : E.Ensures I' Q p w := by
  induction p generalizing w with
  | done a => exact ⟨hI w h.1, h.2⟩
  | ask r next ih => exact ⟨hI w h.1, fun x w' hx => ih x (h.2 x w' hx)⟩

lemma ensures_map {Q : β → World → Prop} {p : Prog Resp α} {f : α → β} {w : World}
    (h : E.Ensures I (fun a w => Q (f a) w) p w) : E.Ensures I Q (f <$> p) w := by
  induction p generalizing w with
  | done a => exact h
  | ask r next ih => exact ⟨h.1, fun x w' hx => ih x (h.2 x w' hx)⟩

/-- What all traces of a program return, it returns where an execution ends. -/
lemma Ensures.returns {Q : α → World → Prop} {R : α → Prop} {p : Prog Resp α} {w : World}
    (h : E.Ensures I Q p w) (hR : ∀ tr a, p.Trace tr a → R a) :
    E.Ensures I (fun a w => Q a w ∧ R a) p w := by
  induction p generalizing w with
  | done a => exact ⟨h.1, h.2, hR [] a ⟨rfl, rfl⟩⟩
  | ask r next ih =>
    refine ⟨h.1, ?_⟩
    intro x w' hx
    exact ih x (h.2 x w' hx) fun tr a htr => hR (⟨r, x⟩ :: tr) a ⟨x, tr, rfl, htr⟩

/-- What follows a program continues where it ended. -/
theorem Executes.bind {p : Prog Resp α} {f : α → Prog Resp β} {q : Prog Resp β}
    {w w' w'' : World} {a : α} (hp : E.Executes p w a w') (hf : E.Reaches (f a) w' q w'') :
    E.Reaches (p >>= f) w q w'' := by
  unfold Executes at hp
  generalize hdone : Prog.done a = end' at hp
  induction hp with
  | refl =>
    subst hdone
    exact hf
  | step hx _ ih => exact .step hx (ih hf hdone)

/-- A handler that keeps to the environment is one way of executing. -/
theorem executes_run {h : (r : Req) → World → Resp r × World}
    (hh : ∀ r w, E.respond w r (h r w).1 (h r w).2) (p : Prog Resp α) (w : World) :
    E.Executes p w (p.run h w).1 (p.run h w).2 := by
  induction p generalizing w with
  | done a => exact .refl
  | ask r next ih => exact .step (hh r w) (ih _ _)

end Environment

end Interaction
