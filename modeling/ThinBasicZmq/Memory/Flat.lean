import Mathlib.Data.UInt
import ThinBasicZmq.Memory.Cells

/-!
# Flat memory

A memory with 32-bit addresses. Ranges wrap around at the end of the address space, so a
range of at most `2 ^ 32` elements has no address twice.
-/

namespace Memory

variable {α : Type}

abbrev Flat (α : Type) := UInt32 → α

namespace Flat

/-- The `n` elements from address `p` on. -/
def read (mem : Flat α) (p : UInt32) (n : ℕ) : List α :=
  (List.range n).map fun i => mem (p + .ofNat i)

/-- The memory after `s` is stored from address `p` on. -/
def write (mem : Flat α) (p : UInt32) (s : List α) : Flat α :=
  fun a => s[(a - p).toNat]?.getD (mem a)

@[simp] lemma length_read (mem : Flat α) (p : UInt32) (n : ℕ) : (mem.read p n).length = n := by
  simp [read]

lemma write_add (mem : Flat α) (p : UInt32) (s : List α) {i : ℕ} (hi : i < 2 ^ 32) :
    mem.write p s (p + .ofNat i) = s[i]?.getD (mem (p + .ofNat i)) := by
  have hsub : (p + UInt32.ofNat i - p).toNat = i := by
    rw [UInt32.add_comm, UInt32.add_sub_cancel]
    exact UInt32.toNat_ofNat_of_lt' hi
  rw [write, hsub]

/-- What was stored is read back. -/
lemma read_write (mem : Flat α) (p : UInt32) (s t : List α) (hs : s.length ≤ 2 ^ 32) :
    (mem.write p (s ++ t)).read p s.length = s := by
  apply List.ext_getElem
  · rw [length_read]
  · intro i hi hi'
    have hlt : i < 2 ^ 32 := by omega
    simp only [read, List.getElem_map, List.getElem_range]
    rw [write_add _ _ _ hlt, List.getElem?_append_left hi', List.getElem?_eq_getElem hi']
    rfl

variable [Zero α] [DecidableEq α]

/-- The terminated string at address `p`, or the first `n` elements of it. -/
def string (mem : Flat α) : ℕ → UInt32 → List α
  | 0, _ => []
  | n + 1, p => if mem p = 0 then [] else mem p :: string mem n (p + 1)

/-- A string that was stored with its terminator is found again. -/
lemma string_eq {mem : Flat α} {p : UInt32} {s : List α} {n : ℕ}
    (hs : ∀ i (hi : i < s.length), mem (p + .ofNat i) = s[i])
    (hz : mem (p + .ofNat s.length) = 0) (h0 : (0 : α) ∉ s) (hn : s.length < n) :
    mem.string n p = s := by
  induction s generalizing p n with
  | nil =>
    obtain ⟨n, rfl⟩ : ∃ m, n = m + 1 := ⟨n - 1, by simp at hn; omega⟩
    have hp : mem p = 0 := by simpa using hz
    rw [string, if_pos hp]
  | cons b s ih =>
    obtain ⟨n, rfl⟩ : ∃ m, n = m + 1 := ⟨n - 1, by simp at hn; omega⟩
    have hp : mem p = b :=
      (congrArg mem (UInt32.add_zero p)).symm.trans (hs 0 (Nat.succ_pos _))
    have hb : b ≠ 0 := fun he => h0 (by simp [he])
    have hnext : ∀ i : ℕ, p + 1 + UInt32.ofNat i = p + UInt32.ofNat (i + 1) := by
      intro i
      rw [UInt32.ofNat_add, UInt32.add_assoc, UInt32.add_comm 1]
      rfl
    have htail : mem.string n (p + 1) = s := by
      apply ih
      · intro i hi
        rw [hnext]
        exact hs (i + 1) (Nat.succ_lt_succ hi)
      · rw [hnext]
        exact hz
      · intro hm
        exact h0 (List.mem_cons_of_mem b hm)
      · simpa using hn
    rw [string, if_neg (by rwa [hp]), hp, htail]

lemma string_write (mem : Flat α) (p : UInt32) {s : List α} {n : ℕ} (h0 : (0 : α) ∉ s)
    (hs : s.length < 2 ^ 32) (hn : s.length < n) : (mem.write p (s ++ [0])).string n p = s := by
  apply string_eq _ _ h0 hn
  · intro i hi
    rw [write_add _ _ _ (hi.trans hs), List.getElem?_append_left hi, List.getElem?_eq_getElem hi]
    rfl
  · rw [write_add _ _ _ hs]
    simp

end Flat

end Memory
