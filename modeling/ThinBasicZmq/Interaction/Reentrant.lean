import ThinBasicZmq.Interaction.Prog
import Mathlib.Logic.Relation

/-!
# Re-entrant systems

Several programs share one world. While a program waits for the answer to a re-entrant
request, the environment may start other programs and run them to their end. A
configuration is the world with the stack of started programs, innermost first. The rule
proved here is of the rely/guarantee kind: it is enough that each program, on its own, is
safe when the world may change arbitrarily within an invariant at each re-entrant request.
-/

namespace Interaction

variable {Req : Type} {Resp : Req → Type} {World Value α β : Type}

/-- What the environment of a family of programs may do. -/
structure System (Resp : Req → Type) (World Value : Type) where
  /-- `respond w r x w'`: in world `w` the request `r` may be answered by `x`, leaving `w'`. -/
  respond : World → (r : Req) → Resp r → World → Prop
  /-- Issuing the request in that world is an error. -/
  fault : World → Req → Prop
  /-- Other programs may run before the request is answered. -/
  reentrant : Req → Prop
  /-- The programs that may be started while no program is running. -/
  opens : World → Prog Resp Value → Prop
  /-- The programs that may be started at a re-entrant request. -/
  nests : World → Prog Resp Value → Prop

structure Config (Resp : Req → Type) (World Value : Type) where
  world : World
  frames : List (Prog Resp Value)

namespace System

variable (S : System Resp World Value)

inductive Step : Config Resp World Value → Config Resp World Value → Prop
  | start {w p} : S.opens w p → Step ⟨w, []⟩ ⟨w, [p]⟩
  | nest {w r next fs p} : S.reentrant r → S.nests w p →
      Step ⟨w, .ask r next :: fs⟩ ⟨w, p :: .ask r next :: fs⟩
  | reply {w r next fs x w'} : S.respond w r x w' →
      Step ⟨w, .ask r next :: fs⟩ ⟨w', next x :: fs⟩
  | finish {w v fs} : Step ⟨w, .done v :: fs⟩ ⟨w, fs⟩

/-- The configurations of all runs that start in world `w` with no program running. -/
def Reachable (w : World) (c : Config Resp World Value) : Prop :=
  Relation.ReflTransGen S.Step ⟨w, []⟩ c

/-- The innermost program is about to issue a request that is an error. -/
def Faulty : Config Resp World Value → Prop
  | ⟨w, .ask r _ :: _⟩ => S.fault w r
  | _ => False

/-- A program runs to its end against one way of answering. -/
theorem steps_run {h : (r : Req) → World → Resp r × World}
    (hh : ∀ r w, S.respond w r (h r w).1 (h r w).2) (p : Prog Resp Value) (w : World)
    (fs : List (Prog Resp Value)) :
    Relation.ReflTransGen S.Step ⟨w, p :: fs⟩ ⟨(p.run h w).2, fs⟩ := by
  induction p generalizing w with
  | done v => exact .single .finish
  | ask r next ih => exact (ih _ _).head (.reply (hh r w))

/-- Every request of such a run is reached, with what the program does after it. -/
theorem steps_events {h : (r : Req) → World → Resp r × World}
    (hh : ∀ r w, S.respond w r (h r w).1 (h r w).2) (p : Prog Resp Value) (w : World)
    (fs : List (Prog Resp Value)) {e : Event Resp} (he : e ∈ p.events h w) : ∃ w' next,
    Relation.ReflTransGen S.Step ⟨w, p :: fs⟩ ⟨w', .ask e.request next :: fs⟩ := by
  induction p generalizing w with
  | done v => cases he
  | ask r next ih =>
    rcases List.mem_cons.mp he with rfl | he
    · exact ⟨w, next, .refl⟩
    · obtain ⟨w', next', hsteps⟩ := ih _ _ he
      exact ⟨w', next', hsteps.head (.reply (hh r w))⟩

/-- No program is in the middle of its own work: none runs, or the innermost one waits at
a re-entrant request. -/
def Between : Config Resp World Value → Prop
  | ⟨_, []⟩ => True
  | ⟨_, .ask r _ :: _⟩ => S.reentrant r
  | ⟨_, .done _ :: _⟩ => False

/-- `S.Safe Busy Q p w`: run from `w`, the program `p` issues no faulty request and ends
with `Q`, given that at each re-entrant request it finds a world in `Busy` and that it may
be continued from any other such world. -/
def Safe (Busy : World → Prop) (Q : α → World → Prop) : Prog Resp α → World → Prop
  | .done a, w => Q a w
  | .ask r next, w => ¬ S.fault w r ∧
      (S.reentrant r → Busy w ∧ ∀ w', Busy w' → ¬ S.fault w' r ∧
        ∀ x w'', S.respond w' r x w'' → Safe Busy Q (next x) w'') ∧
      (¬ S.reentrant r → ∀ x w', S.respond w r x w' → Safe Busy Q (next x) w')

variable {S} {Busy Idle : World → Prop}

lemma safe_ask {Q : α → World → Prop} {r : Req} {next : Resp r → Prog Resp α} {w : World}
    (hr : ¬ S.reentrant r) : S.Safe Busy Q (.ask r next) w ↔
      ¬ S.fault w r ∧ ∀ x w', S.respond w r x w' → S.Safe Busy Q (next x) w' := by
  simp only [Safe, hr, not_false_eq_true, forall_true_left, false_implies, true_and]

lemma safe_request {Q : (Resp r) → World → Prop} {w : World} (hr : ¬ S.reentrant r) :
    S.Safe Busy Q (Prog.request r) w ↔
      ¬ S.fault w r ∧ ∀ x w', S.respond w r x w' → Q x w' := safe_ask hr

theorem Safe.mono {Q Q' : α → World → Prop} {p : Prog Resp α} {w : World}
    (h : S.Safe Busy Q p w) (hQ : ∀ a w, Q a w → Q' a w) : S.Safe Busy Q' p w := by
  induction p generalizing w with
  | done a => exact hQ a w h
  | ask r next ih =>
    refine ⟨h.1, ?_, ?_⟩
    · intro hr
      refine ⟨(h.2.1 hr).1, ?_⟩
      intro w' hw'
      obtain ⟨hf, hn⟩ := (h.2.1 hr).2 w' hw'
      exact ⟨hf, fun x w'' hx => ih x (hn x w'' hx)⟩
    · intro hr x w' hx
      exact ih x (h.2.2 hr x w' hx)

theorem safe_bind {Q : β → World → Prop} {p : Prog Resp α} {f : α → Prog Resp β} {w : World} :
    S.Safe Busy Q (p >>= f) w ↔ S.Safe Busy (fun a w => S.Safe Busy Q (f a) w) p w := by
  induction p generalizing w with
  | done a => rfl
  | ask r next ih =>
    simp only [Prog.ask_bind, Safe, ih]

lemma safe_ite {Q : α → World → Prop} {c : Prop} [Decidable c] {p q : Prog Resp α} {w : World}
    (hp : c → S.Safe Busy Q p w) (hq : ¬ c → S.Safe Busy Q q w) :
    S.Safe Busy Q (if c then p else q) w := by
  split
  · exact hp ‹_›
  · exact hq ‹_›

/-- The frames below the innermost one are continued from any world in `Busy`. -/
def StackSafe (S : System Resp World Value) (Busy Idle : World → Prop) :
    List (Prog Resp Value) → World → Prop
  | [], w => Idle w
  | [p], w => S.Safe Busy (fun _ => Idle) p w
  | p :: q :: fs, w =>
    S.Safe Busy (fun _ => Busy) p w ∧ ∀ w', Busy w' → StackSafe S Busy Idle (q :: fs) w'

/-- Every program keeps to the invariants, whichever world within them it is started in. -/
structure Keeps (S : System Resp World Value) (Busy Idle : World → Prop) : Prop where
  opens : ∀ w p, Idle w → S.opens w p → S.Safe Busy (fun _ => Idle) p w
  nests : ∀ w p, Busy w → S.nests w p → S.Safe Busy (fun _ => Busy) p w

private lemma stackSafe_reply {r : Req} {next : Resp r → Prog Resp Value}
    {fs : List (Prog Resp Value)} {w w' : World} {x : Resp r}
    (h : StackSafe S Busy Idle (.ask r next :: fs) w) (hx : S.respond w r x w') :
    StackSafe S Busy Idle (next x :: fs) w' := by
  have hsafe : ∀ Q : Value → World → Prop, S.Safe Busy Q (.ask r next) w →
      S.Safe Busy Q (next x) w' := by
    intro Q hs
    by_cases hr : S.reentrant r
    · exact ((hs.2.1 hr).2 w (hs.2.1 hr).1).2 x w' hx
    · exact hs.2.2 hr x w' hx
  cases fs with
  | nil => exact hsafe _ h
  | cons q fs => exact ⟨hsafe _ h.1, h.2⟩

private lemma stackSafe_nest {r : Req} {next : Resp r → Prog Resp Value}
    {fs : List (Prog Resp Value)} {w : World} (hr : S.reentrant r)
    (h : StackSafe S Busy Idle (.ask r next :: fs) w) :
    Busy w ∧ ∀ w', Busy w' → StackSafe S Busy Idle (.ask r next :: fs) w' := by
  have hsafe : ∀ Q : Value → World → Prop, S.Safe Busy Q (.ask r next) w →
      Busy w ∧ ∀ w', Busy w' → S.Safe Busy Q (.ask r next) w' := by
    intro Q hs
    obtain ⟨hbusy, hnext⟩ := hs.2.1 hr
    refine ⟨hbusy, ?_⟩
    intro w' hw'
    refine ⟨(hnext w' hw').1, fun _ => ⟨hw', hnext⟩, ?_⟩
    intro hn
    exact absurd hr hn
  cases fs with
  | nil => exact hsafe _ h
  | cons q fs =>
    obtain ⟨hb, hw⟩ := hsafe _ h.1
    exact ⟨hb, fun w' hw' => ⟨hw w' hw', h.2⟩⟩

/-- What one step preserves. -/
lemma stackSafe_step (hk : Keeps S Busy Idle) {c c' : Config Resp World Value}
    (h : StackSafe S Busy Idle c.frames c.world) (hs : S.Step c c') :
    StackSafe S Busy Idle c'.frames c'.world := by
  cases hs with
  | start hp => exact hk.opens _ _ h hp
  | nest hr hp =>
    obtain ⟨hb, hw⟩ := stackSafe_nest hr h
    exact ⟨hk.nests _ _ hb hp, hw⟩
  | reply hx => exact stackSafe_reply h hx
  | @finish w v fs =>
    cases fs with
    | nil => exact h
    | cons q fs => exact h.2 w h.1

lemma stackSafe_reachable (hk : Keeps S Busy Idle) {w : World} (hw : Idle w)
    {c : Config Resp World Value} (hc : S.Reachable w c) :
    StackSafe S Busy Idle c.frames c.world := by
  induction hc with
  | refl => exact hw
  | tail _ hs ih => exact stackSafe_step hk ih hs

/-- No run reaches a faulty request. -/
theorem Keeps.not_faulty (hk : Keeps S Busy Idle) {w : World} (hw : Idle w)
    {c : Config Resp World Value} (hc : S.Reachable w c) : ¬ S.Faulty c := by
  have h := stackSafe_reachable hk hw hc
  obtain ⟨w', frames⟩ := c
  match frames, h with
  | [], _ => exact id
  | .done _ :: _, _ => exact id
  | [.ask r next], h => exact h.1
  | .ask r next :: q :: fs, h => exact h.1.1

/-- Between the programs' own work the world satisfies one of the two invariants. -/
theorem Keeps.between (hk : Keeps S Busy Idle) {w : World} (hw : Idle w)
    {c : Config Resp World Value} (hc : S.Reachable w c) (hb : S.Between c) :
    Idle c.world ∨ Busy c.world := by
  have h := stackSafe_reachable hk hw hc
  obtain ⟨w', frames⟩ := c
  match frames, h, hb with
  | [], h, _ => exact Or.inl h
  | .ask r next :: fs, h, hr => exact Or.inr (stackSafe_nest hr h).1

end System

end Interaction
