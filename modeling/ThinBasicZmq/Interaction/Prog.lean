import Mathlib.Logic.Basic
import Mathlib.Control.Basic
import Mathlib.Data.Nat.Notation
import Mathlib.Data.List.Count

/-!
# Programs that talk to an environment

A program is a well-founded tree. It stops with a result, or it issues one request and
continues with the answer. What the environment may answer is not fixed here: a trace
records one way of answering, so a statement about every trace is a statement about every
environment, and a handler is one environment with a state of its own.
-/

namespace Interaction

/-- A program over requests `Req`, where a request `r` is answered in `Resp r`. -/
inductive Prog {Req : Type} (Resp : Req → Type) (α : Type) : Type
  | done (a : α)
  | ask (r : Req) (next : Resp r → Prog Resp α)

/-- One request together with the answer it got. -/
structure Event {Req : Type} (Resp : Req → Type) where
  request : Req
  answer : Resp request

namespace Prog

variable {Req : Type} {Resp : Req → Type} {α β γ : Type}

def bind : Prog Resp α → (α → Prog Resp β) → Prog Resp β
  | done a, f => f a
  | ask r next, f => ask r fun x => (next x).bind f

instance : Monad (Prog Resp) where
  pure := done
  bind := bind

/-- The program that issues one request and returns its answer. -/
def request (r : Req) : Prog Resp (Resp r) := ask r done

@[simp] lemma ask_bind (r : Req) (next : Resp r → Prog Resp α) (f : α → Prog Resp β) :
    ask r next >>= f = ask r fun x => next x >>= f := rfl

@[simp] lemma request_bind (r : Req) (f : Resp r → Prog Resp β) :
    request r >>= f = ask r f := rfl

private lemma id_map' (p : Prog Resp α) : id <$> p = p := by
  induction p with
  | done a => rfl
  | ask r next ih => exact congrArg (ask r) (funext ih)

private lemma bind_assoc' (p : Prog Resp α) (f : α → Prog Resp β) (g : β → Prog Resp γ) :
    p >>= f >>= g = p >>= fun a => f a >>= g := by
  induction p with
  | done a => rfl
  | ask r next ih => exact congrArg (ask r) (funext ih)

instance : LawfulMonad (Prog Resp) :=
  LawfulMonad.mk' _ id_map' (fun _ _ => rfl) bind_assoc'

/-! ## Traces -/

/-- `p.Trace tr b`: answered as `tr` records, `p` issues exactly the requests of `tr` and
stops with `b`. -/
def Trace : Prog Resp α → List (Event Resp) → α → Prop
  | done a, tr, b => tr = [] ∧ b = a
  | ask r next, tr, b => ∃ x rest, tr = ⟨r, x⟩ :: rest ∧ (next x).Trace rest b

theorem trace_bind (p : Prog Resp α) (f : α → Prog Resp β) (tr : List (Event Resp)) (b : β) :
    (p >>= f).Trace tr b ↔
      ∃ tr₁ tr₂ a, tr = tr₁ ++ tr₂ ∧ p.Trace tr₁ a ∧ (f a).Trace tr₂ b := by
  induction p generalizing tr with
  | done a =>
    constructor
    · intro h
      exact ⟨[], tr, a, rfl, ⟨rfl, rfl⟩, h⟩
    · rintro ⟨tr₁, tr₂, a', rfl, ⟨rfl, rfl⟩, h⟩
      exact h
  | ask r next ih =>
    constructor
    · rintro ⟨x, rest, rfl, h⟩
      obtain ⟨tr₁, tr₂, a, rfl, h₁, h₂⟩ := (ih x rest).mp h
      exact ⟨⟨r, x⟩ :: tr₁, tr₂, a, rfl, ⟨x, tr₁, rfl, h₁⟩, h₂⟩
    · rintro ⟨tr₁, tr₂, a, rfl, ⟨x, rest, rfl, h₁⟩, h₂⟩
      exact ⟨x, rest ++ tr₂, rfl, (ih x _).mpr ⟨rest, tr₂, a, rfl, h₁, h₂⟩⟩

lemma trace_map {f : α → β} {p : Prog Resp α} {tr : List (Event Resp)} {b : β} :
    (f <$> p).Trace tr b ↔ ∃ a, p.Trace tr a ∧ b = f a := by
  rw [map_eq_pure_bind, trace_bind]
  constructor
  · rintro ⟨tr₁, tr₂, a, rfl, h, rfl, rfl⟩
    exact ⟨a, by simpa using h, rfl⟩
  · rintro ⟨a, h, rfl⟩
    exact ⟨tr, [], a, by simp, h, rfl, rfl⟩

lemma trace_ite {c : Prop} [Decidable c] {p q : Prog Resp α} {tr : List (Event Resp)} {b : α}
    (h : (if c then p else q).Trace tr b) : c ∧ p.Trace tr b ∨ ¬ c ∧ q.Trace tr b := by
  split at h
  · exact Or.inl ⟨‹_›, h⟩
  · exact Or.inr ⟨‹_›, h⟩

/-! ## Programs that issue only some requests -/

/-- Every request that `p` can issue satisfies `P`. -/
def Only (P : Req → Prop) : Prog Resp α → Prop
  | done _ => True
  | ask r next => P r ∧ ∀ x, (next x).Only P

lemma Only.bind {P : Req → Prop} {p : Prog Resp α} {f : α → Prog Resp β} (hp : p.Only P)
    (hf : ∀ a, (f a).Only P) : (p >>= f).Only P := by
  induction p with
  | done a => exact hf a
  | ask r next ih => exact ⟨hp.1, fun x => ih x (hp.2 x)⟩

lemma Only.ite {P : Req → Prop} {c : Prop} [Decidable c] {p q : Prog Resp α} (hp : p.Only P)
    (hq : q.Only P) : (if c then p else q).Only P := by
  split
  · exact hp
  · exact hq

lemma Only.mono {P Q : Req → Prop} {p : Prog Resp α} (hp : p.Only P) (h : ∀ r, P r → Q r) :
    p.Only Q := by
  induction p with
  | done a => trivial
  | ask r next ih => exact ⟨h r hp.1, fun x => ih x (hp.2 x)⟩

lemma Only.and {P Q : Req → Prop} {p : Prog Resp α} (hp : p.Only P) (hq : p.Only Q) :
    p.Only fun r => P r ∧ Q r := by
  induction p with
  | done a => trivial
  | ask r next ih => exact ⟨⟨hp.1, hq.1⟩, fun x => ih x (hp.2 x) (hq.2 x)⟩

theorem Only.trace {P : Req → Prop} {p : Prog Resp α} (hp : p.Only P) {tr : List (Event Resp)}
    {b : α} (h : p.Trace tr b) : ∀ e ∈ tr, P e.request := by
  induction p generalizing tr with
  | done a =>
    obtain ⟨rfl, -⟩ := h
    simp
  | ask r next ih =>
    obtain ⟨x, rest, rfl, hrest⟩ := h
    intro e he
    rcases List.mem_cons.mp he with rfl | he
    · exact hp.1
    · exact ih x (hp.2 x) hrest e he

/-- `p.Settles P b`: `p` issues only requests that satisfy `P`, and it stops with `b`
whatever they are answered. -/
def Settles (P : Req → Prop) : Prog Resp α → α → Prop
  | done a, b => b = a
  | ask r next, b => P r ∧ ∀ x, (next x).Settles P b

lemma Settles.bind {P : Req → Prop} {p : Prog Resp α} {f : α → Prog Resp β} {a : α} {b : β}
    (hp : p.Settles P a) (hf : (f a).Settles P b) : (p >>= f).Settles P b := by
  induction p with
  | done a' =>
    obtain rfl : a = a' := hp
    exact hf
  | ask r next ih => exact ⟨hp.1, fun x => ih x (hp.2 x)⟩

lemma Settles.only {P : Req → Prop} {p : Prog Resp α} {a : α} (hp : p.Settles P a) :
    p.Only P := by
  induction p with
  | done a' => trivial
  | ask r next ih => exact ⟨hp.1, fun x => ih x (hp.2 x)⟩

lemma Settles.mono {P Q : Req → Prop} {p : Prog Resp α} {a : α} (hp : p.Settles P a)
    (h : ∀ r, P r → Q r) : p.Settles Q a := by
  induction p with
  | done a' => exact hp
  | ask r next ih => exact ⟨h r hp.1, fun x => ih x (hp.2 x)⟩

lemma Settles.bind_only {P Q : Req → Prop} {p : Prog Resp α} {f : α → Prog Resp β} {a : α}
    (hp : p.Settles P a) (hPQ : ∀ r, P r → Q r) (hf : (f a).Only Q) : (p >>= f).Only Q := by
  induction p with
  | done a' =>
    obtain rfl : a = a' := hp
    exact hf
  | ask r next ih => exact ⟨hPQ r hp.1, fun x => ih x (hp.2 x)⟩

theorem Settles.trace_eq {P : Req → Prop} {p : Prog Resp α} {a b : α} (hp : p.Settles P a)
    {tr : List (Event Resp)} (h : p.Trace tr b) : b = a := by
  induction p generalizing tr with
  | done a' => exact h.2.trans hp.symm
  | ask r next ih =>
    obtain ⟨x, rest, rfl, hrest⟩ := h
    exact ih x (hp.2 x) hrest

/-- What follows a program that settles continues with its result. -/
theorem Settles.trace_bind {P : Req → Prop} {p : Prog Resp α} {f : α → Prog Resp β} {a : α}
    (hp : p.Settles P a) {tr : List (Event Resp)} {b : β} (h : (p >>= f).Trace tr b) :
    ∃ tr₁ tr₂, tr = tr₁ ++ tr₂ ∧ (∀ e ∈ tr₁, P e.request) ∧ (f a).Trace tr₂ b := by
  obtain ⟨tr₁, tr₂, a', rfl, h₁, h₂⟩ := (Prog.trace_bind _ _ _ _).mp h
  obtain rfl := hp.trace_eq h₁
  exact ⟨tr₁, tr₂, rfl, hp.only.trace h₁, h₂⟩

/-- No run of `p` issues more than `n` requests that satisfy `P`. -/
def AtMost (P : Req → Prop) : ℕ → Prog Resp α → Prop
  | _, done _ => True
  | n, ask r next => (P r → 0 < n ∧ ∀ x, (next x).AtMost P (n - 1)) ∧
      (¬ P r → ∀ x, (next x).AtMost P n)

lemma AtMost.ask {P : Req → Prop} {n : ℕ} {r : Req} {next : Resp r → Prog Resp α} (hr : P r)
    (h : ∀ x, (next x).AtMost P n) : (ask r next).AtMost P (n + 1) :=
  ⟨fun _ => ⟨Nat.succ_pos n, h⟩, fun hn => absurd hr hn⟩

lemma AtMost.ask_of_not {P : Req → Prop} {n : ℕ} {r : Req} {next : Resp r → Prog Resp α}
    (hr : ¬ P r) (h : ∀ x, (next x).AtMost P n) : (Prog.ask r next).AtMost P n :=
  ⟨fun hn => absurd hn hr, fun _ => h⟩

lemma AtMost.ite {P : Req → Prop} {n : ℕ} {c : Prop} [Decidable c] {p q : Prog Resp α}
    (hp : p.AtMost P n) (hq : q.AtMost P n) : (if c then p else q).AtMost P n := by
  split
  · exact hp
  · exact hq

lemma AtMost.mono {P : Req → Prop} {m n : ℕ} {p : Prog Resp α} (hp : p.AtMost P m) (h : m ≤ n) :
    p.AtMost P n := by
  induction p generalizing m n with
  | done a => trivial
  | ask r next ih =>
    constructor
    · intro hr
      obtain ⟨hpos, hnext⟩ := hp.1 hr
      refine ⟨by omega, ?_⟩
      intro x
      exact ih x (hnext x) (by omega)
    · intro hr x
      exact ih x (hp.2 hr x) h

lemma Only.atMost {P : Req → Prop} {p : Prog Resp α} (hp : p.Only fun r => ¬ P r) :
    p.AtMost P 0 := by
  induction p with
  | done a => trivial
  | ask r next ih => exact ⟨fun hr => absurd hr hp.1, fun _ x => ih x (hp.2 x)⟩

lemma AtMost.bind {P : Req → Prop} {m n : ℕ} {p : Prog Resp α} {f : α → Prog Resp β}
    (hp : p.AtMost P m) (hf : ∀ a, (f a).AtMost P n) : (p >>= f).AtMost P (m + n) := by
  induction p generalizing m with
  | done a => exact (hf a).mono (by omega)
  | ask r next ih =>
    constructor
    · intro hr
      obtain ⟨hpos, hnext⟩ := hp.1 hr
      refine ⟨by omega, ?_⟩
      intro x
      apply (ih x (hnext x)).mono
      omega
    · intro hr x
      exact ih x (hp.2 hr x)

theorem AtMost.trace {P : Req → Prop} [DecidablePred P] {n : ℕ} {p : Prog Resp α}
    (hp : p.AtMost P n) {tr : List (Event Resp)} {b : α} (h : p.Trace tr b) :
    tr.countP (fun e => P e.request) ≤ n := by
  induction p generalizing n tr with
  | done a =>
    obtain ⟨rfl, -⟩ := h
    simp
  | ask r next ih =>
    obtain ⟨x, rest, rfl, hrest⟩ := h
    by_cases hr : P r
    · have hpos := (hp.1 hr).1
      have := ih x ((hp.1 hr).2 x) hrest
      rw [List.countP_cons_of_pos (by simpa using hr)]
      omega
    · rw [List.countP_cons_of_neg (by simpa using hr)]
      exact ih x (hp.2 hr x) hrest

/-! ## Handlers -/

variable {σ : Type}

/-- Runs `p` against an environment with state `σ`. -/
def run (h : (r : Req) → σ → Resp r × σ) : Prog Resp α → σ → α × σ
  | done a, s => (a, s)
  | ask r next, s => (next (h r s).1).run h (h r s).2

/-- The requests of the run and their answers. -/
def events (h : (r : Req) → σ → Resp r × σ) : Prog Resp α → σ → List (Event Resp)
  | done _, _ => []
  | ask r next, s => ⟨r, (h r s).1⟩ :: (next (h r s).1).events h (h r s).2

variable (h : (r : Req) → σ → Resp r × σ)

@[simp] lemma run_ask (r : Req) (next : Resp r → Prog Resp α) (s : σ) :
    (ask r next).run h s = (next (h r s).1).run h (h r s).2 := rfl

lemma run_ask_of {r : Req} {next : Resp r → Prog Resp α} {s s' : σ} {x : Resp r}
    (hr : h r s = (x, s')) : (ask r next).run h s = (next x).run h s' := by
  rw [run_ask, hr]

@[simp] lemma run_bind (p : Prog Resp α) (f : α → Prog Resp β) (s : σ) :
    (p >>= f).run h s = (f (p.run h s).1).run h (p.run h s).2 := by
  induction p generalizing s with
  | done a => rfl
  | ask r next ih => exact ih _ _

@[simp] lemma run_map (f : α → β) (p : Prog Resp α) (s : σ) :
    (f <$> p).run h s = (f (p.run h s).1, (p.run h s).2) := by
  rw [map_eq_pure_bind, run_bind]
  rfl

/-- A handler is one of the environments that traces quantify over. -/
theorem trace_events (p : Prog Resp α) (s : σ) : p.Trace (p.events h s) (p.run h s).1 := by
  induction p generalizing s with
  | done a => exact ⟨rfl, rfl⟩
  | ask r next ih => exact ⟨(h r s).1, _, rfl, ih _ _⟩

variable {h}

/-- What every answer preserves, a run preserves. -/
theorem run_preserves {P : σ → Prop} (hP : ∀ r s, P s → P (h r s).2) (p : Prog Resp α) {s : σ}
    (hs : P s) : P (p.run h s).2 := by
  induction p generalizing s with
  | done a => exact hs
  | ask r next ih => exact ih _ (hP r s hs)

theorem Only.run_state {P : Req → Prop} {p : Prog Resp α} (hp : p.Only P)
    (hP : ∀ r s, P r → (h r s).2 = s) (s : σ) : (p.run h s).2 = s := by
  induction p generalizing s with
  | done a => rfl
  | ask r next ih =>
    rw [run_ask, hP r s hp.1]
    exact ih _ (hp.2 _) s

/-- Every answer of the run is the handler's. -/
lemma answer_of_mem_events {p : Prog Resp α} {s : σ} {e : Event Resp} (he : e ∈ p.events h s) :
    ∃ s', e.answer = (h e.request s').1 := by
  induction p generalizing s with
  | done a => cases he
  | ask r next ih =>
    rcases List.mem_cons.mp he with rfl | he
    · exact ⟨s, rfl⟩
    · exact ih _ he

theorem Settles.run_eq {P : Req → Prop} {p : Prog Resp α} {a : α} (hp : p.Settles P a)
    (hs : ∀ r s, P r → (h r s).2 = s) (s : σ) : p.run h s = (a, s) := by
  induction p with
  | done a' =>
    obtain rfl : a = a' := hp
    rfl
  | ask r next ih =>
    rw [run_ask, hs r s hp.1]
    exact ih _ (hp.2 _)

/-- Two handlers that answer alike, and stay in related states, on the requests that the second
one gets. -/
theorem run_related {τ : Type} {g : (r : Req) → τ → Resp r × τ} {P : Req → Prop}
    {R : σ → τ → Prop}
    (hstep : ∀ r s t, R s t → P r → (h r s).1 = (g r t).1 ∧ R (h r s).2 (g r t).2)
    (p : Prog Resp α) {s : σ} {t : τ} (hst : R s t) (hP : ∀ e ∈ p.events g t, P e.request) :
    (p.run h s).1 = (p.run g t).1 ∧ R (p.run h s).2 (p.run g t).2 := by
  induction p generalizing s t with
  | done a => exact ⟨rfl, hst⟩
  | ask r next ih =>
    obtain ⟨hanswer, hnext⟩ := hstep r s t hst (hP _ List.mem_cons_self)
    rw [run_ask, run_ask, hanswer]
    apply ih _ hnext
    intro e he
    exact hP e (List.mem_cons_of_mem _ he)

/-- A handler whose answers need only a part of its state. -/
theorem run_image {τ : Type} {g : (r : Req) → τ → Resp r × τ} {f : σ → τ}
    (hstep : ∀ r s, (h r s).1 = (g r (f s)).1 ∧ f (h r s).2 = (g r (f s)).2) (p : Prog Resp α)
    (s : σ) : (p.run h s).1 = (p.run g (f s)).1 ∧ f (p.run h s).2 = (p.run g (f s)).2 := by
  have hrelated : ∀ r s t, f s = t → True → (h r s).1 = (g r t).1 ∧ f (h r s).2 = (g r t).2 := by
    rintro r s _ rfl -
    exact hstep r s
  exact run_related hrelated p rfl fun _ _ => trivial

end Prog

end Interaction
