import Mathlib.Algebra.BigOperators.Group.Finset.Basic
import Mathlib.Algebra.BigOperators.Fin
import Mathlib.Logic.Function.Basic

/-!
# Requests and replies in turn

Any number of clients with one request at a time, and a server that takes the requests in
some order, counts them and answers each one with its number. Each client asks for a fixed
number of rounds.
-/

namespace Turns

variable {κ : Type}

/-- Where the round of a client is. -/
inductive Phase
  | idle
  | requested
  | served
  | answered (t : ℕ)
  | collected (t : ℕ)
deriving DecidableEq

structure Client where
  phase : Phase
  /-- the numbers of the replies of the finished rounds -/
  got : List ℕ

inductive Server (κ : Type)
  | free
  | received (k : κ)
  | logged (k : κ)
  | resting
deriving DecidableEq

structure State (κ : Type) where
  client : κ → Client
  server : Server κ
  /-- the clients in the order in which their requests were taken -/
  order : List κ

def start : State κ := ⟨fun _ => ⟨.idle, []⟩, .free, []⟩

variable [DecidableEq κ]

def State.set (s : State κ) (k : κ) (c : Client) : State κ :=
  { s with client := Function.update s.client k c }

inductive Step (rounds : ℕ) : State κ → State κ → Prop
  | ask {s k got} : s.client k = ⟨.idle, got⟩ → got.length < rounds →
      Step rounds s (s.set k ⟨.requested, got⟩)
  | receive {s k got} : s.server = .free → s.client k = ⟨.requested, got⟩ →
      Step rounds s { s.set k ⟨.served, got⟩ with server := .received k, order := s.order ++ [k] }
  | log {s k} : s.server = .received k → Step rounds s { s with server := .logged k }
  | answer {s k got} : s.server = .logged k → s.client k = ⟨.served, got⟩ →
      Step rounds s { s.set k ⟨.answered s.order.length, got⟩ with server := .resting }
  | rest {s} : s.server = .resting → Step rounds s { s with server := .free }
  | collect {s k t got} : s.client k = ⟨.answered t, got⟩ →
      Step rounds s (s.set k ⟨.collected t, got⟩)
  | finish {s k t got} : s.client k = ⟨.collected t, got⟩ →
      Step rounds s (s.set k ⟨.idle, got ++ [t]⟩)

/-- The numbers of the requests that were taken from `k`. -/
def turns (order : List κ) (k : κ) : List ℕ :=
  ((order.zipIdx 1).filter fun p => p.1 = k).map Prod.snd

@[simp] lemma turns_nil (k : κ) : turns [] k = [] := rfl

lemma turns_concat (order : List κ) (j k : κ) :
    turns (order ++ [j]) k = turns order k ++ if j = k then [order.length + 1] else [] := by
  unfold turns
  rw [List.zipIdx_append, List.filter_append, List.map_append]
  by_cases hj : j = k
  · simp [hj, Nat.add_comm]
  · simp [hj]

lemma length_turns (order : List κ) (k : κ) : (turns order k).length = order.count k := by
  induction order using List.reverseRecOn with
  | nil => rfl
  | append_singleton order j ih =>
    rw [turns_concat, List.length_append, ih, List.count_append, List.count_singleton]
    by_cases hj : j = k
    · simp [hj]
    · simp [hj]

lemma le_of_mem_turns {order : List κ} {k : κ} {t : ℕ} (ht : t ∈ turns order k) :
    t ≤ order.length := by
  induction order using List.reverseRecOn with
  | nil => cases ht
  | append_singleton order j ih =>
    rw [turns_concat, List.mem_append] at ht
    rw [List.length_append, List.length_singleton]
    by_cases hj : j = k
    · rcases ht with ht | ht
      · have := ih ht
        omega
      · simp [hj] at ht
        omega
    · have := ih (by simpa [hj] using ht)
      omega

/-- The turn that the client is in. -/
def Phase.current (n : ℕ) : Phase → List ℕ
  | idle | requested => []
  | served => [n]
  | answered t | collected t => [t]

structure State.Inv (rounds : ℕ) (s : State κ) : Prop where
  turns : ∀ k, turns s.order k = (s.client k).got ++ (s.client k).phase.current s.order.length
  served : ∀ k, (s.client k).phase = .served ↔ s.server = .received k ∨ s.server = .logged k
  bound : ∀ k, (s.client k).got.length + (if (s.client k).phase = .idle then 0 else 1) ≤ rounds

variable {rounds : ℕ} {s s' : State κ}

lemma inv_start : (start : State κ).Inv rounds where
  turns _ := rfl
  served k := by simp [start]
  bound k := by simp [start]

/-- The last request that was taken is the one of the client that is served. -/
lemma State.Inv.getLast?_order (h : s.Inv rounds) {k : κ} (hk : (s.client k).phase = .served) :
    s.order.getLast? = some k := by
  have hturns := h.turns k
  rw [hk, Phase.current] at hturns
  cases horder : s.order using List.reverseRecOn with
  | nil => simp [horder] at hturns
  | append_singleton order j =>
    rw [horder, turns_concat] at hturns
    by_cases hj : j = k
    · simp [hj]
    · -- otherwise the last turn is a turn of `k` in the list before
      have hlast : order.length + 1 ∈ Turns.turns order k := by
        rw [if_neg hj, List.append_nil] at hturns
        simp [hturns]
      have := le_of_mem_turns hlast
      omega

lemma State.Inv.order_ne_nil (h : s.Inv rounds) {k : κ} (hk : (s.client k).phase = .served) :
    s.order ≠ [] := by
  intro hnil
  have := h.getLast?_order hk
  simp [hnil] at this

/-- A client moves on in its round, and the server does not change. -/
lemma State.Inv.set (h : s.Inv rounds) (k : κ) {c : Client}
    (hturns : c.got ++ c.phase.current s.order.length =
      (s.client k).got ++ (s.client k).phase.current s.order.length)
    (hserved : c.phase = .served ↔ (s.client k).phase = .served)
    (hbound : c.got.length + (if c.phase = .idle then 0 else 1) ≤ rounds) :
    (s.set k c).Inv rounds := by
  constructor
  · intro j
    by_cases hj : j = k
    · subst hj
      simp [State.set, hturns, h.turns j]
    · simp [State.set, hj, h.turns j]
  · intro j
    by_cases hj : j = k
    · subst hj
      simp [State.set, hserved, h.served j]
    · simp [State.set, hj, h.served j]
  · intro j
    by_cases hj : j = k
    · subst hj
      simpa [State.set] using hbound
    · simpa [State.set, hj] using h.bound j

lemma State.Inv.receive (h : s.Inv rounds) {k : κ} {got : List ℕ} (hfree : s.server = .free)
    (hk : s.client k = ⟨.requested, got⟩) :
    State.Inv rounds { s.set k ⟨.served, got⟩ with
      server := .received k, order := s.order ++ [k] } := by
  -- nobody else is served, so the longer order changes no other client's turn
  have hnone : ∀ j, (s.client j).phase ≠ .served := by
    intro j hj
    have := (h.served j).mp hj
    simp [hfree] at this
  have hturns := h.turns k
  have hbound := h.bound k
  simp only [hk] at hturns hbound
  constructor
  · intro j
    rw [turns_concat]
    by_cases hj : j = k
    · subst hj
      simpa [State.set, Phase.current] using hturns
    · have hcurrent : ∀ n, (s.client j).phase.current n =
          (s.client j).phase.current s.order.length := by
        intro n
        have := hnone j
        cases hp : (s.client j).phase <;> simp_all [Phase.current]
      simp [State.set, hj, Ne.symm hj, h.turns j, hcurrent]
  · intro j
    by_cases hj : j = k
    · subst hj
      simp [State.set]
    · simp [State.set, hj, Ne.symm hj, hnone j]
  · intro j
    by_cases hj : j = k
    · subst hj
      simpa [State.set] using hbound
    · simpa [State.set, hj] using h.bound j

lemma State.Inv.answer (h : s.Inv rounds) {k : κ} {got : List ℕ} (hserver : s.server = .logged k)
    (hk : s.client k = ⟨.served, got⟩) :
    State.Inv rounds { s.set k ⟨.answered s.order.length, got⟩ with server := .resting } := by
  have hturns := h.turns k
  have hbound := h.bound k
  simp only [hk] at hturns hbound
  constructor
  · intro j
    by_cases hj : j = k
    · subst hj
      simpa [State.set, Phase.current] using hturns
    · simp [State.set, hj, h.turns j]
  · intro j
    by_cases hj : j = k
    · subst hj
      simp [State.set]
    · have hother := h.served j
      simp [hserver, Ne.symm hj] at hother
      simp [State.set, hj, hother]
  · intro j
    by_cases hj : j = k
    · subst hj
      simpa [State.set] using hbound
    · simpa [State.set, hj] using h.bound j

/-- What one step preserves. -/
theorem State.Inv.step (h : s.Inv rounds) (hs : Step rounds s s') : s'.Inv rounds := by
  cases hs with
  | @ask k got hk hlt =>
    apply h.set k
    · simp [hk, Phase.current]
    · simp [hk]
    · simp
      omega
  | receive hfree hk => exact h.receive hfree hk
  | @log k hserver =>
    refine ⟨h.turns, ?_, h.bound⟩
    intro j
    have := h.served j
    simpa [hserver] using this
  | answer hserver hk => exact h.answer hserver hk
  | rest hserver =>
    refine ⟨h.turns, ?_, h.bound⟩
    intro j
    have := h.served j
    simpa [hserver] using this
  | @collect k t got hk =>
    have hbound := h.bound k
    rw [hk] at hbound
    apply h.set k
    · simp [hk, Phase.current]
    · simp [hk]
    · simpa using hbound
  | @finish k t got hk =>
    have hbound := h.bound k
    rw [hk] at hbound
    apply h.set k
    · simp [hk, Phase.current]
    · simp [hk]
    · simpa using hbound

/-- Requests are only added to those that were taken. -/
lemma Step.order_grows (hs : Step rounds s s') : s.order <+: s'.order := by
  cases hs with
  | receive _ _ => exact List.prefix_append _ _
  | _ => exact List.prefix_rfl

/-- Every client has finished its rounds. -/
def State.Finished (rounds : ℕ) (s : State κ) : Prop :=
  ∀ k, (s.client k).phase = .idle ∧ (s.client k).got.length = rounds

/-- As long as there is something to do, something can be done. -/
theorem State.Inv.progress (h : s.Inv rounds) : (∃ s', Step rounds s s') ∨ s.Finished rounds := by
  by_cases hfin : s.Finished rounds
  · exact Or.inr hfin
  left
  simp only [State.Finished, not_forall] at hfin
  obtain ⟨k, hk⟩ := hfin
  cases hclient : s.client k with
  | mk phase got =>
  cases phase with
  | idle =>
    have hbound := h.bound k
    simp only [hclient] at hk hbound
    exact ⟨_, .ask hclient (by simp at hk hbound; omega)⟩
  | answered t => exact ⟨_, .collect hclient⟩
  | collected t => exact ⟨_, .finish hclient⟩
  | requested =>
    cases hserver : s.server with
    | free => exact ⟨_, .receive hserver hclient⟩
    | received j => exact ⟨_, .log hserver⟩
    | resting => exact ⟨_, .rest hserver⟩
    | logged j =>
      have hj : (s.client j).phase = .served := (h.served j).mpr (Or.inr hserver)
      have hclient' : s.client j = ⟨.served, (s.client j).got⟩ := by rw [← hj]
      exact ⟨_, .answer hserver hclient'⟩
  | served =>
    rcases (h.served k).mp (by rw [hclient]) with hserver | hserver
    · exact ⟨_, .log hserver⟩
    · exact ⟨_, .answer hserver hclient⟩

/-- What is spent of the steps of a round. The server's part is paid when it takes the request. -/
def Phase.spent : Phase → ℕ
  | idle => 0
  | requested => 1
  | served => 4
  | answered _ => 5
  | collected _ => 6

def Server.owed : Server κ → ℕ
  | free => 0
  | received _ => 2
  | logged _ => 1
  | resting => 1

def Client.left (rounds : ℕ) (c : Client) : ℕ := 7 * (rounds - c.got.length) - c.phase.spent

/-- The number of steps that are left. -/
def State.left [Fintype κ] (rounds : ℕ) (s : State κ) : ℕ :=
  ∑ k, (s.client k).left rounds + s.server.owed

lemma sum_left_set [Fintype κ] (s : State κ) (k : κ) (c : Client) :
    ∑ j, ((s.set k c).client j).left rounds + (s.client k).left rounds =
      ∑ j, (s.client j).left rounds + c.left rounds := by
  have hset := Finset.add_sum_erase Finset.univ (fun j => ((s.set k c).client j).left rounds)
    (Finset.mem_univ k)
  have hold := Finset.add_sum_erase Finset.univ (fun j => (s.client j).left rounds)
    (Finset.mem_univ k)
  have hrest : ∑ j ∈ Finset.univ.erase k, ((s.set k c).client j).left rounds =
      ∑ j ∈ Finset.univ.erase k, (s.client j).left rounds := by
    apply Finset.sum_congr rfl
    intro j hj
    simp [State.set, Finset.ne_of_mem_erase hj]
  have hk : (s.set k c).client k = c := by simp [State.set]
  rw [hk, hrest] at hset
  omega

/-- Every step is one of those that are left. -/
theorem left_step [Fintype κ] (h : s.Inv rounds) (hs : Step rounds s s') :
    s'.left rounds + 1 = s.left rounds := by
  cases hs with
  | @ask k got hk hlt =>
    have hsum := @sum_left_set _ _ rounds _ s k ⟨.requested, got⟩
    rw [hk] at hsum
    simp [State.left, State.set, Client.left, Phase.spent] at hsum ⊢
    omega
  | @receive k got hfree hk =>
    have hbound := h.bound k
    have hsum := @sum_left_set _ _ rounds _ s k ⟨.served, got⟩
    rw [hk] at hsum hbound
    simp [State.left, State.set, Client.left, Phase.spent, Server.owed, hfree] at hsum hbound ⊢
    omega
  | log hserver => simp [State.left, Server.owed, hserver]
  | @answer k got hserver hk =>
    have hbound := h.bound k
    have hsum := @sum_left_set _ _ rounds _ s k ⟨.answered s.order.length, got⟩
    rw [hk] at hsum hbound
    simp [State.left, State.set, Client.left, Phase.spent, Server.owed, hserver] at hsum hbound ⊢
    omega
  | rest hserver => simp [State.left, Server.owed, hserver]
  | @collect k t got hk =>
    have hbound := h.bound k
    have hsum := @sum_left_set _ _ rounds _ s k ⟨.collected t, got⟩
    rw [hk] at hsum hbound
    simp [State.left, State.set, Client.left, Phase.spent] at hsum hbound ⊢
    omega
  | @finish k t got hk =>
    have hbound := h.bound k
    have hsum := @sum_left_set _ _ rounds _ s k ⟨.idle, got ++ [t]⟩
    rw [hk] at hsum hbound
    simp [State.left, State.set, Client.left, Phase.spent] at hsum hbound ⊢
    omega

end Turns
