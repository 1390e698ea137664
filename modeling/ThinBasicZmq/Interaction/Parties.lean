import ThinBasicZmq.Interaction.Prog
import Mathlib.Logic.Function.Basic
import Mathlib.Logic.Relation

/-!
# Programs side by side

Several parties run at the same time in one world. A step is one request of one party, and
any party whose request is answered may be the next. A party whose program has stopped may
start another one with the result, which is how a loop without end is written.
-/

namespace Interaction

variable {Γ A : Type}

/-- Every step of one system is a step of the other one, between related states. -/
def Simulates (R : Γ → A → Prop) (step : Γ → Γ → Prop) (step' : A → A → Prop) : Prop :=
  ∀ c a c', R c a → step c c' → ∃ a', step' a a' ∧ R c' a'

variable {R : Γ → A → Prop} {step : Γ → Γ → Prop} {step' : A → A → Prop}

theorem Simulates.reachable (hR : Simulates R step step') {c c' : Γ} {a : A} (h : R c a)
    (hc : Relation.ReflTransGen step c c') : ∃ a', Relation.ReflTransGen step' a a' ∧ R c' a' := by
  induction hc with
  | refl => exact ⟨a, .refl, h⟩
  | tail _ hs ih =>
    obtain ⟨a₁, ha₁, h₁⟩ := ih
    obtain ⟨a₂, ha₂, h₂⟩ := hR _ _ _ h₁ hs
    exact ⟨a₂, ha₁.tail ha₂, h₂⟩

/-- A run is followed step by step. -/
theorem Simulates.run (hR : Simulates R step step') {run : ℕ → Γ} {a : A} (h : R (run 0) a) {n : ℕ}
    (hrun : ∀ m < n, step (run m) (run (m + 1))) : ∃ path : ℕ → A, path 0 = a ∧
      (∀ m < n, step' (path m) (path (m + 1))) ∧ ∀ m ≤ n, R (run m) (path m) := by
  induction n with
  | zero =>
    refine ⟨fun _ => a, rfl, fun m hm => absurd hm (Nat.not_lt_zero m), ?_⟩
    intro m hm
    obtain rfl := Nat.le_zero.mp hm
    exact h
  | succ n ih =>
    obtain ⟨path, hpath, hsteps, hrel⟩ := ih fun m hm => hrun m (Nat.lt_succ_of_lt hm)
    obtain ⟨a', hstep, h'⟩ := hR _ _ _ (hrel n (Nat.le_refl n)) (hrun n (Nat.lt_succ_self n))
    refine ⟨Function.update path (n + 1) a', ?_, ?_, ?_⟩
    · rw [Function.update_of_ne (Nat.succ_ne_zero n).symm, hpath]
    · intro m hm
      rw [Function.update_of_ne (by omega)]
      by_cases hmn : m = n
      · rw [hmn, Function.update_self]
        exact hstep
      · rw [Function.update_of_ne (by omega)]
        exact hsteps m (by omega)
    · intro m hm
      by_cases hmn : m = n + 1
      · rw [hmn, Function.update_self]
        exact h'
      · rw [Function.update_of_ne hmn]
        exact hrel m (by omega)

/-- Runs are finite where a measure of the simulating system decreases. -/
theorem Simulates.finite (hR : Simulates R step step') (μ : A → ℕ) {c : Γ} {a : A} (h : R c a)
    (hμ : ∀ c a a', R c a → step' a a' → μ a' < μ a) :
    ¬ ∃ run : ℕ → Γ, run 0 = c ∧ ∀ n, step (run n) (run (n + 1)) := by
  rintro ⟨run, rfl, hrun⟩
  -- the measure of the states that are related to the start of a run
  induction hm : μ a using Nat.strongRecOn generalizing a run with
  | _ m ih =>
    obtain ⟨a', ha', h'⟩ := hR _ _ _ h (hrun 0)
    have hlt := hμ _ _ _ h ha'
    rw [hm] at hlt
    exact ih (μ a') hlt (fun n => run (n + 1)) (fun n => hrun (n + 1)) h' rfl

variable {ι Req : Type} {Resp : Req → Type} {World : Type} {S : ι → Type}

structure Parties (Resp : Req → Type) (World : Type) (S : ι → Type) where
  /-- party `i` gets an answer to its request -/
  respond : ι → World → (r : Req) → Resp r → World → Prop
  /-- what a party goes on with when its program has stopped -/
  again : (i : ι) → S i → Option (Prog Resp (S i))

namespace Parties

structure Config (Resp : Req → Type) (World : Type) (S : ι → Type) where
  world : World
  progs : (i : ι) → Prog Resp (S i)

variable [DecidableEq ι] (P : Parties Resp World S)

inductive Step : Config Resp World S → Config Resp World S → Prop
  | reply {c i r next x w} : c.progs i = .ask r next → P.respond i c.world r x w →
      Step c ⟨w, Function.update c.progs i (next x)⟩
  | again {c i s p} : c.progs i = .done s → P.again i s = some p →
      Step c ⟨c.world, Function.update c.progs i p⟩

/-- The configurations of all runs. -/
def Reachable : Config Resp World S → Config Resp World S → Prop :=
  Relation.ReflTransGen P.Step

variable (h : ι → World → (r : Req) → Option (Resp r × World))

/-- The step of party `i` where `h` answers it, if the party does not have to wait. -/
def turn (c : Config Resp World S) (i : ι) : Option (Config Resp World S) :=
  match c.progs i with
  | .ask r next => (h i c.world r).map fun x => ⟨x.2, Function.update c.progs i (next x.1)⟩
  | .done s => (P.again i s).map fun p => ⟨c.world, Function.update c.progs i p⟩

/-- The run in which the parties take their turns in the order of the list. -/
def schedule : Config Resp World S → List ι → Option (Config Resp World S)
  | c, [] => some c
  | c, i :: is => (P.turn h c i).bind fun c' => schedule c' is

variable {P h} {c c' : Config Resp World S}

lemma step_of_turn (hh : ∀ i w r x, h i w r = some x → P.respond i w r x.1 x.2) {i : ι}
    (hc : P.turn h c i = some c') : P.Step c c' := by
  unfold turn at hc
  cases hp : c.progs i with
  | ask r next =>
    rw [hp] at hc
    obtain ⟨x, hx, rfl⟩ := Option.map_eq_some_iff.mp hc
    exact .reply hp (hh i _ r x hx)
  | done s =>
    rw [hp] at hc
    obtain ⟨p, hagain, rfl⟩ := Option.map_eq_some_iff.mp hc
    exact .again hp hagain

theorem reachable_of_schedule (hh : ∀ i w r x, h i w r = some x → P.respond i w r x.1 x.2)
    {is : List ι} (hc : P.schedule h c is = some c') : P.Reachable c c' := by
  induction is generalizing c with
  | nil =>
    obtain rfl := Option.some.inj hc
    exact .refl
  | cons i is ih =>
    obtain ⟨c₁, hturn, hrest⟩ := Option.bind_eq_some_iff.mp hc
    exact (ih hrest).head (step_of_turn hh hturn)

end Parties

end Interaction
