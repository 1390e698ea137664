import Mathlib.Data.List.Basic
import Mathlib.Logic.Function.Basic
import Mathlib.Logic.Relation

/-!
# Broadcast

One publisher and any number of subscribers. What is published is on its way to every
subscriber, may get lost on any of these ways, and is taken in the order in which it comes. One
level below, a message is a list of frames, which are sent and received one after another.
-/

namespace Broadcast

variable {κ Q F : Type}

structure Subscriber (Q : Type) where
  coming : List Q
  got : List Q

structure State (κ Q : Type) where
  published : List Q
  subscriber : κ → Subscriber Q

def start : State κ Q := ⟨[], fun _ => ⟨[], []⟩⟩

def State.publish (s : State κ Q) (q : Q) : State κ Q where
  published := s.published ++ [q]
  subscriber k := { s.subscriber k with coming := (s.subscriber k).coming ++ [q] }

def State.lose (s : State κ Q) (coming : κ → List Q) : State κ Q :=
  { s with subscriber := fun k => { s.subscriber k with coming := coming k } }

variable [DecidableEq κ]

def State.take (s : State κ Q) (k : κ) (q : Q) (coming : List Q) : State κ Q :=
  { s with
    subscriber := Function.update s.subscriber k ⟨coming, (s.subscriber k).got ++ [q]⟩ }

inductive Step : State κ Q → State κ Q → Prop
  | publish {s} (q : Q) : Step s (s.publish q)
  | lose {s coming} : (∀ k, (coming k).Sublist (s.subscriber k).coming) → Step s (s.lose coming)
  | take {s k q coming} : (s.subscriber k).coming = q :: coming → Step s (s.take k q coming)

/-- Nothing comes that was not published, and nothing comes twice or out of order. -/
def State.Inv (s : State κ Q) : Prop :=
  ∀ k, ((s.subscriber k).got ++ (s.subscriber k).coming).Sublist s.published

variable {s s' : State κ Q}

/-- What one step preserves. -/
theorem State.Inv.step (h : s.Inv) (hs : Step s s') : s'.Inv := by
  intro k
  cases hs with
  | publish q =>
    simp only [State.publish, ← List.append_assoc]
    exact (h k).append_right [q]
  | lose hcoming => exact ((hcoming k).append_left _).trans (h k)
  | @take j q coming hj =>
    by_cases hk : k = j
    · subst hk
      have := h k
      rw [hj] at this
      simpa [State.take] using this
    · simpa [State.take, hk] using h k

theorem inv_reachable (h : Relation.ReflTransGen Step start s) : s.Inv := by
  induction h with
  | refl => exact fun _ => List.Sublist.refl _
  | tail _ hs ih => exact ih.step hs

theorem got_sublist (h : Relation.ReflTransGen Step start s) (k : κ) :
    (s.subscriber k).got.Sublist s.published :=
  (List.sublist_append_left _ _).trans (inv_reachable h k)

structure Feed (κ F : Type) where
  /-- the frames of the message that is being sent -/
  pending : List F
  /-- the messages on their way -/
  queue : κ → List (List F)
  /-- what is left of the message that is being received -/
  opened : κ → List F

namespace Feed

def empty : Feed κ F := ⟨[], fun _ => [], fun _ => []⟩

def more (x : Feed κ F) (b : F) : Feed κ F := { x with pending := x.pending ++ [b] }

def last (x : Feed κ F) (b : F) : Feed κ F :=
  { x with pending := [], queue := fun k => x.queue k ++ [x.pending ++ [b]] }

def next (x : Feed κ F) (k : κ) (rest : List F) : Feed κ F :=
  { x with opened := Function.update x.opened k rest }

def first (x : Feed κ F) (k : κ) (rest : List F) (queue : List (List F)) : Feed κ F :=
  { x.next k rest with queue := Function.update x.queue k queue }

/-- Messages get lost, but no part of a message. -/
structure Loses (x y : Feed κ F) : Prop where
  pending : y.pending = x.pending
  opened : y.opened = x.opened
  queue : ∀ k, (y.queue k).Sublist (x.queue k)

/-- Only between two messages may it fail to receive a frame. -/
inductive Receives (k : κ) : Feed κ F → Option F → Feed κ F → Prop
  | next {x b rest} : x.opened k = b :: rest → Receives k x (some b) (x.next k rest)
  | first {x b rest queue} : x.opened k = [] → x.queue k = (b :: rest) :: queue →
      Receives k x (some b) (x.first k rest queue)
  | failed {x} : x.opened k = [] → Receives k x none x

omit [DecidableEq κ] in
lemma Loses.refl (x : Feed κ F) : x.Loses x := ⟨rfl, rfl, fun _ => List.Sublist.refl _⟩

end Feed

/-- The messages on their way, in frames. -/
def Carries (frames : Q → List F) (x : Feed κ F) (s : State κ Q) : Prop :=
  ∀ k, x.queue k = (s.subscriber k).coming.map frames

variable {frames : Q → List F} {x y : Feed κ F}

lemma Carries.loses (h : Carries frames x s) (hl : x.Loses y) : ∃ coming,
    Step s (s.lose coming) ∧ Carries frames y (s.lose coming) := by
  have hqueue : ∀ k, ∃ coming : List Q, coming.Sublist (s.subscriber k).coming ∧
      y.queue k = coming.map frames := by
    intro k
    have hk := hl.queue k
    rw [h k] at hk
    exact List.sublist_map_iff.mp hk
  choose coming hsub hmap using hqueue
  exact ⟨coming, .lose hsub, hmap⟩

omit [DecidableEq κ] in
lemma Carries.last (h : Carries frames x s) {b : F} {q : Q} (hq : x.pending ++ [b] = frames q) :
    Carries frames (x.last b) (s.publish q) := by
  intro k
  simp [Feed.last, State.publish, h k, hq]

lemma Carries.first (h : Carries frames x s) {k : κ} {m : List F} {queue : List (List F)}
    (hk : x.queue k = m :: queue) (rest : List F) : ∃ q coming, m = frames q ∧
      Step s (s.take k q coming) ∧ Carries frames (x.first k rest queue) (s.take k q coming) := by
  have hmap := (h k).symm.trans hk
  obtain ⟨q, coming, hcoming, hq, hqueue⟩ := List.map_eq_cons_iff.mp hmap
  refine ⟨q, coming, hq.symm, .take hcoming, ?_⟩
  intro j
  by_cases hj : j = k
  · subst hj
    simp [Feed.first, State.take, hqueue]
  · simpa [Feed.first, Feed.next, State.take, hj] using h j

end Broadcast
