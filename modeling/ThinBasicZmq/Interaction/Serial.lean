import ThinBasicZmq.Interaction.Reentrant
import ThinBasicZmq.Interaction.Execution

/-!
# Running inside one another and one after another

In a re-entrant system programs run inside of each other. Where each program first finds out
what it needs and acts afterwards, and what it finds out is not changed by the programs that
run meanwhile, nobody can tell the difference: what is reached is also reached by running the
same programs one after another, each at the time at which it acts.
-/

namespace Interaction

variable {Req : Type} {Resp : Req → Type} {World Value View α β : Type}

namespace Prog

variable {Q R : Req → Prop}

/-- `p` first makes requests in `Q`, and from the first other one on none in `R`. -/
def Defers (Q R : Req → Prop) : Prog Resp α → Prop
  | done _ => True
  | ask r next => (Q r ∧ ∀ x, (next x).Defers Q R) ∨ (ask r next).Only fun r => ¬ R r

lemma Only.defers {p : Prog Resp α} (hp : p.Only fun r => ¬ R r) : p.Defers Q R := by
  cases p with
  | done a => trivial
  | ask r next => exact Or.inr hp

lemma Only.bind_defers {p : Prog Resp α} {f : α → Prog Resp β} (hp : p.Only Q)
    (hf : ∀ a, (f a).Defers Q R) : (p >>= f).Defers Q R := by
  induction p with
  | done a => exact hf a
  | ask r next ih => exact Or.inl ⟨hp.1, fun x => ih x (hp.2 x)⟩

lemma Defers.map {p : Prog Resp α} (hp : p.Defers Q R) (f : α → β) : (f <$> p).Defers Q R := by
  induction p with
  | done a => trivial
  | ask r next ih =>
    rcases hp with ⟨hr, hnext⟩ | honly
    · exact Or.inl ⟨hr, fun x => ih x (hnext x)⟩
    · apply Only.defers
      rw [map_eq_pure_bind]
      exact honly.bind fun _ => trivial

end Prog

namespace System

variable (S : System Resp World Value)

/-- The system in which nothing runs while a program waits. -/
def sequential : System Resp World Value := { S with nests := fun _ _ => False }

/-- Answering the request leaves the view as it is. -/
def Respects (view : World → View) (r : Req) : Prop :=
  ∀ w x w', S.respond w r x w' → view w' = view w

/-- The programs defer what they do: with requests in `Q` they look at a part of the world that
no nested program changes, and nothing can be nested any more once they have made another one. -/
structure Deferring (Q : Req → Prop) (view : World → View) (Ready : View → Prop) : Prop where
  still : ∀ w r x w', Q r → S.respond w r x w' → w' = w
  looks : ∀ w w' r x, Q r → view w' = view w → S.respond w r x w → S.respond w' r x w'
  opens : ∀ w p, S.opens w p → p.Only (fun r => ¬ S.reentrant r) ∨
    p.Defers Q S.reentrant ∧ Ready (view w) ∧ ∀ w', view w' = view w → S.opens w' p
  nests : ∀ w p, S.nests w p → p.Defers Q S.reentrant ∧ p.Only (S.Respects view) ∧
    ∀ w', Ready (view w') → S.opens w' p

variable {S} {Q : Req → Prop} {view : World → View} {Ready : View → Prop} {w₀ : World}

/-- A program that waits: it could have been started right now, in every world of that view. -/
structure Waiting (S : System Resp World Value) (Q : Req → Prop) (view : World → View)
    (Ready : View → Prop) (w₀ : World) (v : View) (p : Prog Resp Value) : Prop where
  defers : p.Defers Q S.reentrant
  ready : Ready v
  started : ∀ w, view w = v → S.sequential.Reachable w₀ ⟨w, []⟩ →
    S.sequential.Reachable w₀ ⟨w, [p]⟩

/-- All programs but the outermost one respect the view. -/
def Nested (S : System Resp World Value) (view : World → View) : List (Prog Resp Value) → Prop
  | [] => True
  | p :: fs => (fs ≠ [] → p.Only (S.Respects view)) ∧ Nested S view fs

/-- At most the innermost program has begun to act, and all others wait. -/
inductive Serial (S : System Resp World Value) (Q : Req → Prop) (view : World → View)
    (Ready : View → Prop) (w₀ : World) : Config Resp World Value → Prop
  | waiting {w fs} : S.sequential.Reachable w₀ ⟨w, []⟩ →
      (∀ p ∈ fs, Waiting S Q view Ready w₀ (view w) p) → Nested S view fs →
      Serial S Q view Ready w₀ ⟨w, fs⟩
  | acting {w p fs} : S.sequential.Reachable w₀ ⟨w, [p]⟩ → p.Only (fun r => ¬ S.reentrant r) →
      (∀ q ∈ fs, Waiting S Q view Ready w₀ (view w) q) → Nested S view (p :: fs) →
      Serial S Q view Ready w₀ ⟨w, p :: fs⟩

lemma Nested.reply {r : Req} {next : Resp r → Prog Resp Value} {fs : List (Prog Resp Value)}
    (h : Nested S view (.ask r next :: fs)) (x : Resp r) : Nested S view (next x :: fs) :=
  ⟨fun hfs => (h.1 hfs).2 x, h.2⟩

/-- The answer to a program with others around it leaves them what they have seen. -/
lemma Nested.view_eq {r : Req} {next : Resp r → Prog Resp Value} {q : Prog Resp Value}
    {fs : List (Prog Resp Value)} (h : Nested S view (.ask r next :: fs)) (hq : q ∈ fs) {w w' : World}
    {x : Resp r} (hx : S.respond w r x w') : view w' = view w := by
  have hfs : fs ≠ [] := List.ne_nil_of_mem hq
  exact (h.1 hfs).1 w x w' hx

namespace Waiting

lemma start {v : View} {p : Prog Resp Value} (hp : p.Defers Q S.reentrant) (hv : Ready v)
    (hopens : ∀ w, view w = v → S.opens w p) : Waiting S Q view Ready w₀ v p where
  defers := hp
  ready := hv
  started := fun w hw h => h.tail (.start (hopens w hw))

/-- What one step of looking around preserves: the program could have made it later as well. -/
lemma reply (hS : S.Deferring Q view Ready) {r : Req} {next : Resp r → Prog Resp Value} {w : World}
    {x : Resp r} (h : Waiting S Q view Ready w₀ (view w) (.ask r next))
    (hnext : ∀ x, (next x).Defers Q S.reentrant) (hr : Q r) (hx : S.respond w r x w) :
    Waiting S Q view Ready w₀ (view w) (next x) where
  defers := hnext x
  ready := h.ready
  started := by
    intro w' hw' hreach
    have hlate : S.respond w' r x w' := hS.looks w w' r x hr hw' hx
    exact (h.started w' hw' hreach).tail (.reply hlate)

end Waiting

namespace Deferring

/-- What one step preserves. -/
lemma serial_step (hS : S.Deferring Q view Ready) {c c' : Config Resp World Value}
    (h : Serial S Q view Ready w₀ c) (hs : S.Step c c') : Serial S Q view Ready w₀ c' := by
  cases hs with
  | @start w p hp =>
    cases h with
    | waiting hreach hwait hnested =>
      have hnested : Nested S view [p] := ⟨fun h => absurd rfl h, trivial⟩
      rcases hS.opens w p hp with honly | ⟨hdefers, hready, hopens⟩
      · exact .acting (hreach.tail (.start hp)) honly (by simp) hnested
      · refine .waiting hreach ?_ hnested
        intro q hq
        obtain rfl := List.mem_singleton.mp hq
        exact .start hdefers hready hopens
  | @nest w r next fs p hr hp =>
    cases h with
    | waiting hreach hwait hnested =>
      obtain ⟨hdefers, hrespects, hopens⟩ := hS.nests w p hp
      have hready : Ready (view w) := (hwait _ List.mem_cons_self).ready
      refine .waiting hreach ?_ ⟨fun _ => hrespects, hnested⟩
      intro q hq
      rcases List.mem_cons.mp hq with rfl | hq
      · apply Waiting.start hdefers hready
        intro w' hw'
        apply hopens
        rwa [hw']
      · exact hwait q hq
    | acting hreach honly hwait hnested => exact absurd hr honly.1
  | @reply w r next fs x w' hx =>
    cases h with
    | waiting hreach hwait hnested =>
      have htop := hwait _ List.mem_cons_self
      rcases htop.defers with ⟨hr, hnext⟩ | honly
      · obtain rfl := hS.still w r x w' hr hx
        refine .waiting hreach ?_ (hnested.reply x)
        intro q hq
        rcases List.mem_cons.mp hq with rfl | hq
        · exact htop.reply hS hnext hr hx
        · exact hwait q (List.mem_cons_of_mem _ hq)
      · -- the innermost program begins to act
        have hstarted := htop.started w rfl hreach
        refine .acting (hstarted.tail (.reply hx)) (honly.2 x) ?_ (hnested.reply x)
        intro q hq
        rw [hnested.view_eq hq hx]
        exact hwait q (List.mem_cons_of_mem _ hq)
    | acting hreach honly hwait hnested =>
      refine .acting (hreach.tail (.reply hx)) (honly.2 x) ?_ (hnested.reply x)
      intro q hq
      rw [hnested.view_eq hq hx]
      exact hwait q hq
  | @finish w v fs =>
    cases h with
    | waiting hreach hwait hnested =>
      refine .waiting hreach ?_ hnested.2
      intro q hq
      exact hwait q (List.mem_cons_of_mem _ hq)
    | acting hreach honly hwait hnested => exact .waiting (hreach.tail .finish) hwait hnested.2

/-- Every configuration of a re-entrant run is reached by running one program after another,
up to the programs that wait. -/
theorem serial_reachable (hS : S.Deferring Q view Ready) {c : Config Resp World Value}
    (hc : S.Reachable w₀ c) : Serial S Q view Ready w₀ c := by
  induction hc with
  | refl => exact .waiting .refl (by simp) trivial
  | tail _ hs ih => exact hS.serial_step ih hs

theorem sequential_innermost (hS : S.Deferring Q view Ready) {c : Config Resp World Value}
    (hc : S.Reachable w₀ c) : S.sequential.Reachable w₀ ⟨c.world, c.frames.take 1⟩ := by
  cases hS.serial_reachable hc with
  | @waiting w fs hreach hwait hnested =>
    cases fs with
    | nil => exact hreach
    | cons p fs => exact (hwait p List.mem_cons_self).started w rfl hreach
  | acting hreach honly hwait hnested => exact hreach

theorem sequential_between (hS : S.Deferring Q view Ready) {c : Config Resp World Value}
    (hc : S.Reachable w₀ c) (hb : S.Between c) : S.sequential.Reachable w₀ ⟨c.world, []⟩ := by
  cases hS.serial_reachable hc with
  | waiting hreach hwait hnested => exact hreach
  | @acting w p fs hreach honly hwait hnested =>
    cases p with
    | done v => exact hb.elim
    | ask r next => exact absurd hb honly.1

end Deferring

/-- The system that writes down what is asked and answered, except for requests in `Q`, newest
first. -/
def logged (S : System Resp World Value) (Q : Req → Prop) [DecidablePred Q] :
    System Resp (World × List (Event Resp)) Value where
  respond s r x s' := S.respond s.1 r x s'.1 ∧ s'.2 = if Q r then s.2 else ⟨r, x⟩ :: s.2
  fault s := S.fault s.1
  reentrant := S.reentrant
  opens s := S.opens s.1
  nests s := S.nests s.1

/-- A way of answering that writes the history. -/
def logging (Q : Req → Prop) [DecidablePred Q] (h : (r : Req) → World → Resp r × World) :
    (r : Req) → World × List (Event Resp) → Resp r × (World × List (Event Resp))
  | r, (w, l) => ((h r w).1, (h r w).2, if Q r then l else ⟨r, (h r w).1⟩ :: l)

lemma reachable_of_logged [DecidablePred Q] {w : World} {l : List (Event Resp)}
    {c : Config Resp (World × List (Event Resp)) Value} (hc : (S.logged Q).Reachable (w, l) c) :
    S.Reachable w ⟨c.world.1, c.frames⟩ := by
  induction hc with
  | refl => exact .refl
  | tail _ hs ih =>
    cases hs with
    | start hp => exact ih.tail (.start hp)
    | nest hr hp => exact ih.tail (.nest hr hp)
    | reply hx => exact ih.tail (.reply hx.1)
    | finish => exact ih.tail .finish

lemma between_of_logged [DecidablePred Q] {c : Config Resp (World × List (Event Resp)) Value}
    (hb : (S.logged Q).Between c) : S.Between ⟨c.world.1, c.frames⟩ := by
  obtain ⟨s, fs⟩ := c
  match fs, hb with
  | [], _ => trivial
  | .ask r _ :: _, hr => exact hr

/-- Nobody looks at the history. -/
theorem Deferring.logged [DecidablePred Q] (hS : S.Deferring Q view Ready) :
    (S.logged Q).Deferring Q (fun s => view s.1) Ready where
  still := by
    rintro ⟨w, l⟩ r x ⟨w', l'⟩ hr ⟨hx, hl⟩
    have hw : w' = w := hS.still w r x w' hr hx
    have hl : l' = l := hl.trans (if_pos hr)
    rw [hw, hl]
  looks := by
    rintro ⟨w, l⟩ ⟨w', l'⟩ r x hr hv ⟨hx, -⟩
    exact ⟨hS.looks w w' r x hr hv hx, (if_pos hr).symm⟩
  opens := by
    rintro ⟨w, l⟩ p hp
    rcases hS.opens w p hp with honly | ⟨hdefers, hready, hopens⟩
    · exact Or.inl honly
    · exact Or.inr ⟨hdefers, hready, fun s' hs' => hopens s'.1 hs'⟩
  nests := by
    rintro ⟨w, l⟩ p hp
    obtain ⟨hdefers, hrespects, hopens⟩ := hS.nests w p hp
    refine ⟨hdefers, ?_, fun s' hs' => hopens s'.1 hs'⟩
    apply hrespects.mono
    intro r hr s x s' hx
    exact hr s.1 x s'.1 hx.1

/-- A program with one of its traces. -/
structure Execution (Resp : Req → Type) (Value : Type) where
  program : Prog Resp Value
  trace : List (Event Resp)
  result : Value
  complete : program.Trace trace result

/-- What is written down of a list of executions that follow one another. -/
def record (Q : Req → Prop) [DecidablePred Q] (runs : List (Execution Resp Value)) :
    List (Event Resp) :=
  runs.flatMap fun run => run.trace.filter fun e => ¬ Q e.request

/-- The history is that of whole executions, and of what the running program did so far. -/
def Chronicle (S : System Resp World Value) (Q : Req → Prop) [DecidablePred Q]
    (l : List (Event Resp)) (runs : List (Execution Resp Value)) : List (Prog Resp Value) → Prop
  | [] => l.reverse = record Q runs
  | [p] => ∃ q tr, (∃ w, S.opens w q) ∧ (∀ tr' v, p.Trace tr' v → q.Trace (tr ++ tr') v) ∧
      l.reverse = record Q runs ++ tr.filter fun e => ¬ Q e.request
  | _ => False

lemma chronicle_step [DecidablePred Q] {c c' : Config Resp (World × List (Event Resp)) Value}
    {runs : List (Execution Resp Value)} (hruns : ∀ run ∈ runs, ∃ w, S.opens w run.program)
    (h : Chronicle S Q c.world.2 runs c.frames) (hs : (S.logged Q).sequential.Step c c') :
    ∃ runs', (∀ run ∈ runs', ∃ w, S.opens w run.program) ∧
      Chronicle S Q c'.world.2 runs' c'.frames := by
  cases hs with
  | @start s p hp =>
    refine ⟨runs, hruns, p, [], ⟨s.1, hp⟩, fun tr v htr => htr, ?_⟩
    rw [List.filter_nil, List.append_nil]
    exact h
  | nest hr hp => exact hp.elim
  | @reply s r next fs x s' hx =>
    cases fs with
    | cons q fs => exact h.elim
    | nil =>
      obtain ⟨q, tr, hq, hcont, hl⟩ := h
      refine ⟨runs, hruns, q, tr ++ [⟨r, x⟩], hq, ?_, ?_⟩
      · intro tr' v htr'
        rw [List.append_assoc]
        exact hcont _ _ ⟨x, tr', rfl, htr'⟩
      · change s'.2.reverse = _
        rw [hx.2, List.filter_append]
        by_cases hQ : Q r
        · rw [if_pos hQ, hl, List.filter_cons_of_neg (by simpa using hQ), List.filter_nil,
            List.append_nil]
        · rw [if_neg hQ, List.reverse_cons, hl, List.filter_cons_of_pos (by simpa using hQ),
            List.filter_nil, List.append_assoc]
  | @finish s v fs =>
    cases fs with
    | cons q fs => exact h.elim
    | nil =>
      obtain ⟨q, tr, hq, hcont, hl⟩ := h
      have htrace : q.Trace tr v := by simpa using hcont [] v ⟨rfl, rfl⟩
      refine ⟨runs ++ [⟨q, tr, v, htrace⟩], ?_, ?_⟩
      · intro run hrun
        rcases List.mem_append.mp hrun with hrun | hrun
        · exact hruns run hrun
        · obtain rfl := List.mem_singleton.mp hrun
          exact hq
      · change s.2.reverse = _
        rw [hl, record, record, List.flatMap_append, List.flatMap_singleton]

/-- Where programs run one after another, the history is made of their whole traces. -/
theorem sequential_record [DecidablePred Q] {c : Config Resp (World × List (Event Resp)) Value}
    (hc : (S.logged Q).sequential.Reachable (w₀, []) c) (hf : c.frames = []) :
    ∃ runs : List (Execution Resp Value), (∀ run ∈ runs, ∃ w, S.opens w run.program) ∧
      c.world.2.reverse = record Q runs := by
  have hinv : ∃ runs : List (Execution Resp Value), (∀ run ∈ runs, ∃ w, S.opens w run.program) ∧
      Chronicle S Q c.world.2 runs c.frames := by
    clear hf
    induction hc with
    | refl => exact ⟨[], by simp, rfl⟩
    | tail _ hs ih =>
      obtain ⟨runs, hruns, h⟩ := ih
      exact chronicle_step hruns h hs
  obtain ⟨runs, hruns, h⟩ := hinv
  rw [hf] at h
  exact ⟨runs, hruns, h⟩

/-- Answers that come as the system gives them. -/
def environment (S : System Resp World Value) : Environment Resp World := ⟨S.respond⟩

/-- What holds without a history holds with one. -/
lemma ensures_logged [DecidablePred Q] {J : World → Prop} {G : α → World → Prop}
    {p : Prog Resp α} {w : World} {l : List (Event Resp)} (h : S.environment.Ensures J G p w) :
    (S.logged Q).environment.Ensures (fun s => J s.1) (fun a s => G a s.1) p (w, l) := by
  induction p generalizing w l with
  | done a => exact h
  | ask r next ih =>
    refine ⟨h.1, ?_⟩
    rintro x ⟨w', l'⟩ hx
    exact ih x (h.2 x w' hx.1)

/-- Where every program that may be started in `I` keeps to `J` and ends with `G`, all sequential
runs do. -/
theorem sequential_ensures {I J : World → Prop} {G : Value → World → Prop}
    (hopens : ∀ w p, I w → S.opens w p → S.environment.Ensures J G p w)
    (h₀ : I w₀) (hI : ∀ w, I w → J w) (hG : ∀ v w, G v w → I w) {c : Config Resp World Value}
    (hc : S.sequential.Reachable w₀ c) : J c.world ∧ (c.frames = [] → I c.world) ∧
      ∀ v, c.frames = [.done v] → G v c.world := by
  have hinv : c.frames = [] ∧ I c.world ∨
      ∃ p, c.frames = [p] ∧ S.environment.Ensures J G p c.world := by
    induction hc with
    | refl => exact Or.inl ⟨rfl, h₀⟩
    | tail _ hs ih =>
      cases hs with
      | @start w p hp =>
        rcases ih with ⟨-, hw⟩ | ⟨q, hq, -⟩
        · exact Or.inr ⟨p, rfl, hopens w p hw hp⟩
        · cases hq
      | nest hr hp => exact hp.elim
      | @reply w r next fs x w' hx =>
        rcases ih with ⟨hf, -⟩ | ⟨q, hq, hens⟩
        · cases hf
        · cases hq
          exact Or.inr ⟨next x, rfl, hens.2 x w' hx⟩
      | @finish w v fs =>
        rcases ih with ⟨hf, -⟩ | ⟨q, hq, hens⟩
        · cases hf
        · cases hq
          exact Or.inl ⟨rfl, hG _ _ hens.2⟩
  rcases hinv with ⟨hf, hw⟩ | ⟨p, hp, hens⟩
  · refine ⟨hI _ hw, fun _ => hw, ?_⟩
    intro v hv
    rw [hf] at hv
    cases hv
  · refine ⟨hens.inv, ?_, ?_⟩
    · intro hnil
      rw [hp] at hnil
      cases hnil
    · intro v hv
      rw [hp] at hv
      cases hv
      exact hens.2

end System

end Interaction
