import Mathlib.Data.List.Basic
import Mathlib.Data.List.TakeWhile

/-!
# Partly written arrays and terminated strings

A local array of C is a list of cells; a cell that was never written holds `none`. A
terminated string is the run of elements before the first terminator `0`, in a list of
elements (memory that was written before) or in a list of cells.
-/

namespace Memory

variable {α : Type}

/-- The array after `bytes` are stored from index `off` on. Elements past the end of the
array are not part of it. -/
def put (cells : List (Option α)) (off : ℕ) (bytes : List α) : List (Option α) :=
  cells.take off ++ (bytes.map some).take (cells.length - off) ++ cells.drop (off + bytes.length)

@[simp] lemma length_put (cells : List (Option α)) (off : ℕ) (bytes : List α) :
    (put cells off bytes).length = cells.length := by
  simp only [put, List.length_append, List.length_take, List.length_map, List.length_drop]
  omega

lemma put_zero {cells : List (Option α)} {bytes : List α} (h : bytes.length ≤ cells.length) :
    put cells 0 bytes = bytes.map some ++ cells.drop bytes.length := by
  simp only [put, List.take_zero, List.nil_append, Nat.sub_zero, Nat.zero_add]
  rw [List.take_of_length_le (by simpa using h)]

/-- Storing one element right behind a prefix. -/
lemma put_append_cons (pre post : List (Option α)) (c : Option α) (b : α) (off : ℕ)
    (h : off = pre.length) : put (pre ++ c :: post) off [b] = pre ++ some b :: post := by
  subst h
  have hroom : [some b].take ((pre ++ c :: post).length - pre.length) = [some b] :=
    List.take_of_length_le (by simp)
  have hrest : (pre ++ c :: post).drop (pre.length + 1) = post := by
    simp [List.drop_append]
  simp only [put, List.take_left, List.map_cons, List.map_nil, List.length_singleton, hroom, hrest,
    List.append_assoc, List.singleton_append]

variable [Zero α] [DecidableEq α]

/-- The string at the start of a list of elements: everything before the first terminator. -/
def text (mem : List α) : List α := mem.takeWhile (· ≠ 0)

lemma zero_notMem_text (mem : List α) : (0 : α) ∉ text mem := by
  intro h
  have := List.mem_takeWhile_imp h
  simp at this

lemma text_append_zero {s : List α} (h : (0 : α) ∉ s) (rest : List α) :
    text (s ++ 0 :: rest) = s := by
  unfold text
  rw [List.takeWhile_append_of_pos]
  · simp
  · intro a ha
    simpa using ne_of_mem_of_not_mem ha h

/-- What is behind the first terminator does not matter. -/
lemma text_append_terminator (s rest : List α) : text (s ++ 0 :: rest) = text s := by
  induction s with
  | nil => simp [text]
  | cons b s ih =>
    by_cases hb : b = 0
    · simp [text, hb]
    · simpa [text, hb] using ih

lemma length_text_le (mem : List α) : (text mem).length ≤ mem.length :=
  (List.takeWhile_prefix _).length_le

lemma take_length_text (mem : List α) : mem.take (text mem).length = text mem :=
  (List.prefix_iff_eq_take.mp (List.takeWhile_prefix _)).symm

/-- The string, its terminator and the rest. -/
lemma eq_text_append {mem : List α} (h : (0 : α) ∈ mem) : ∃ after, mem = text mem ++ 0 :: after := by
  induction mem with
  | nil => cases h
  | cons b mem ih =>
    by_cases hb : b = 0
    · exact ⟨mem, by simp [text, hb]⟩
    · obtain ⟨after, hafter⟩ := ih ((List.mem_cons.mp h).resolve_left (Ne.symm hb))
      refine ⟨after, ?_⟩
      have htext : text (b :: mem) = b :: text mem := by simp [text, hb]
      rw [htext, List.cons_append, ← hafter]

/-- The string at the start of an array, unless an unwritten cell or the end of the array
comes before the terminator. -/
def cstring? : List (Option α) → Option (List α)
  | [] => none
  | none :: _ => none
  | some b :: cells => if b = 0 then some [] else (cstring? cells).map (b :: ·)

lemma cstring?_append_zero {s : List α} (h : (0 : α) ∉ s) (rest : List (Option α)) :
    cstring? (s.map some ++ some 0 :: rest) = some s := by
  induction s with
  | nil => simp [cstring?]
  | cons b s ih =>
    have hb : b ≠ 0 := fun he => h (by simp [he])
    have hs : (0 : α) ∉ s := fun hm => h (List.mem_cons_of_mem b hm)
    simp only [List.map_cons, List.cons_append, cstring?, hb, if_false, ih hs, Option.map_some]

end Memory
