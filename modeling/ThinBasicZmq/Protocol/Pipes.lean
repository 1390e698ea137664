import Mathlib.Data.List.Basic
import Mathlib.Logic.Function.Basic
import Mathlib.Logic.Relation

/-!
# Pipes into one sink

Any number of senders, each with a pipe into one sink. A sender numbers its messages from `0` on.
What is in a pipe is taken in the order in which it was sent, and the sink goes from pipe to
pipe as it likes. A sender that closes its pipe may lose the end of what is in it.
-/

namespace Pipes

variable {κ F : Type}

structure Sender where
  sent : ℕ
  coming : ℕ
  closed : Bool

structure State (κ : Type) where
  sender : κ → Sender
  /-- the senders of the messages that were taken, in this order -/
  taken : List κ

def start : State κ := ⟨fun _ => ⟨0, 0, false⟩, []⟩

variable [DecidableEq κ]

def State.set (s : State κ) (k : κ) (x : Sender) : State κ :=
  { s with sender := Function.update s.sender k x }

inductive Step : State κ → State κ → Prop
  | send {s k n m} : s.sender k = ⟨n, m, false⟩ → Step s (s.set k ⟨n + 1, m + 1, false⟩)
  | take {s k n m b} : s.sender k = ⟨n, m + 1, b⟩ →
      Step s { s.set k ⟨n, m, b⟩ with taken := s.taken ++ [k] }
  | close {s k n m b r} : s.sender k = ⟨n, m, b⟩ → r ≤ m → Step s (s.set k ⟨n, r, true⟩)

/-- No message is taken that was not sent, and none is missing before its pipe is closed. -/
structure State.Inv (s : State κ) : Prop where
  le : ∀ k, s.taken.count k + (s.sender k).coming ≤ (s.sender k).sent
  eq : ∀ k, (s.sender k).closed = false →
    s.taken.count k + (s.sender k).coming = (s.sender k).sent

variable {s s' : State κ}

/-- One sender changes. -/
lemma State.Inv.set (h : s.Inv) (k : κ) {x : Sender} (hle : s.taken.count k + x.coming ≤ x.sent)
    (heq : x.closed = false → s.taken.count k + x.coming = x.sent) : (s.set k x).Inv := by
  constructor
  · intro j
    by_cases hj : j = k
    · subst hj
      simpa [State.set] using hle
    · simpa [State.set, hj] using h.le j
  · intro j
    by_cases hj : j = k
    · subst hj
      simpa [State.set] using heq
    · simpa [State.set, hj] using h.eq j

/-- What one step preserves. -/
theorem State.Inv.step (h : s.Inv) (hs : Step s s') : s'.Inv := by
  cases hs with
  | @send k n m hk =>
    have heq := h.eq k
    simp only [hk, forall_const] at heq
    apply h.set k
    · dsimp only
      omega
    · intro _
      dsimp only
      omega
  | @take k n m b hk =>
    have hle := h.le k
    have heq := h.eq k
    simp only [hk] at hle heq
    constructor
    · intro j
      by_cases hj : j = k
      · subst hj
        simp [State.set]
        omega
      · simpa [State.set, hj, Ne.symm hj, List.count_append] using h.le j
    · intro j
      by_cases hj : j = k
      · subst hj
        intro hclosed
        have := heq (by simpa [State.set] using hclosed)
        simp [State.set]
        omega
      · simpa [State.set, hj, Ne.symm hj, List.count_append] using h.eq j
  | @close k n m b r hk hr =>
    have hle := h.le k
    simp only [hk] at hle
    apply h.set k
    · dsimp only
      omega
    · intro hclosed
      cases hclosed

lemma inv_start : (start : State κ).Inv where
  le _ := Nat.le_refl 0
  eq _ _ := rfl

/-- Every message that was taken, with its number. -/
def numbered (taken : List κ) : List (κ × ℕ) :=
  taken.zipIdx.map fun p => (p.1, (taken.take p.2).count p.1)

lemma numbered_concat (taken : List κ) (k : κ) :
    numbered (taken ++ [k]) = numbered taken ++ [(k, taken.count k)] := by
  unfold numbered
  rw [List.zipIdx_append, List.map_append]
  congr 1
  · apply List.map_congr_left
    intro p hp
    have hlt := List.snd_lt_of_mem_zipIdx hp
    rw [List.take_append_of_le_length (by omega)]
  · simp

lemma length_numbered (taken : List κ) : (numbered taken).length = taken.length := by
  simp [numbered]

/-- The pipes hold the messages with the numbers that come next. -/
def Carries (message : ℕ → F) (queue : κ → List F) (s : State κ) : Prop :=
  ∀ k, queue k = (List.range' (s.taken.count k) (s.sender k).coming).map message

variable {message : ℕ → F} {queue : κ → List F} {k : κ}

lemma carries_start : Carries message (fun _ : κ => []) start := fun _ => rfl

lemma Carries.send (h : Carries message queue s) (hinv : s.Inv) {n m : ℕ}
    (hk : s.sender k = ⟨n, m, false⟩) :
    Carries message (Function.update queue k (queue k ++ [message n]))
      (s.set k ⟨n + 1, m + 1, false⟩) := by
  have heq := hinv.eq k
  have hqueue := h k
  simp only [hk, forall_const] at heq hqueue
  intro j
  by_cases hj : j = k
  · subst hj
    simp [State.set, hqueue, List.range'_1_concat, heq]
  · simpa [State.set, hj] using h j

lemma Carries.take (h : Carries message queue s) {b : F} {rest : List F}
    (hk : queue k = b :: rest) : ∃ n m closed, s.sender k = ⟨n, m + 1, closed⟩ ∧
      b = message (s.taken.count k) ∧
      Carries message (Function.update queue k rest)
        { s.set k ⟨n, m, closed⟩ with taken := s.taken ++ [k] } := by
  cases hsender : s.sender k with
  | mk n coming closed =>
  have hqueue := (h k).symm.trans hk
  rw [hsender] at hqueue
  cases coming with
  | zero => cases hqueue
  | succ m =>
    rw [List.range'_succ, List.map_cons] at hqueue
    obtain ⟨hb, hrest⟩ := List.cons.inj hqueue
    refine ⟨n, m, closed, rfl, hb.symm, ?_⟩
    intro j
    by_cases hj : j = k
    · subst hj
      simp [State.set, hrest]
    · simpa [State.set, hj, Ne.symm hj, List.count_append] using h j

lemma Carries.close (h : Carries message queue s) {n m : ℕ} {closed : Bool}
    (hk : s.sender k = ⟨n, m, closed⟩) {rest : List F} (hrest : rest <+: queue k) :
    ∃ r, r ≤ m ∧ Carries message (Function.update queue k rest) (s.set k ⟨n, r, true⟩) := by
  have hqueue := h k
  rw [hk] at hqueue
  have htake := List.prefix_iff_eq_take.mp hrest
  have hle := hrest.length_le
  rw [hqueue, List.length_map, List.length_range'] at hle
  refine ⟨rest.length, hle, ?_⟩
  intro j
  by_cases hj : j = k
  · subst hj
    simp only [State.set, Function.update_self]
    rw [← List.take_range'_of_length_ge hle, List.map_take, ← hqueue]
    exact htake
  · simpa [State.set, hj] using h j

end Pipes
