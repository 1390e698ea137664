import ThinBasicZmq.Keywords.Copies
import Mathlib.Data.List.DropRight

/-!
# Trailing slashes

`zmq_trim_trailing_slashes` looks for the terminator of a string and moves it to the front
over the slashes at the end.
-/

namespace ThinBasicZmq

open Interaction

/-- A directory name without its maximal run of trailing slashes. -/
def trimSlashes (dir : List UInt8) : List UInt8 := dir.rdropWhile isSlash

/-- A directory name with its trailing slashes overwritten by terminators. -/
def clearSlashes (dir : List UInt8) : List UInt8 :=
  trimSlashes dir ++ List.replicate (dir.rtakeWhile isSlash).length 0

/-- `p` is the longest prefix of `s` that does not end in a slash. -/
structure LongestUnslashed (s p : List UInt8) : Prop where
  start : p <+: s
  unslashed : ∀ c ∈ p.getLast?, isSlash c = false
  longest : ∀ q, q <+: s → (∀ c ∈ q.getLast?, isSlash c = false) → q <+: p

/-- An access to one of the first `n` bytes of an array. What is read was written before. -/
def AccessBelow (n : ℕ) : Req → Prop
  | .store _ off len => off + len ≤ n
  | .fetch _ i cell => i < n ∧ cell ≠ none
  | _ => False

/-- What `zmq_trim_trailing_slashes(buf, max_len)` makes of the bytes of `buf`. -/
structure Trimmed (buf out : List UInt8) (maxLen : ℕ) : Prop where
  length_eq : out.length = buf.length
  terminated : ∀ len < maxLen, buf[len]? = some 0 → (∀ i < len, buf[i]? ≠ some 0) →
    LongestUnslashed (buf.take len) (Memory.text out) ∧
      ∀ i, i < (Memory.text out).length ∨ len ≤ i → out[i]? = buf[i]?
  unterminated : (∀ i < maxLen, buf[i]? ≠ some 0) → out = 0 :: buf.tail

lemma zero_notMem_trimSlashes {t : List UInt8} (h : 0 ∉ t) : 0 ∉ trimSlashes t := by
  intro hm
  exact h ((List.rdropWhile_prefix _ _).subset hm)

lemma clearSlashes_concat_slash {b : UInt8} (hb : isSlash b = true) (t : List UInt8) :
    clearSlashes (t ++ [b]) = clearSlashes t ++ [0] := by
  unfold clearSlashes trimSlashes
  rw [List.rdropWhile_concat_pos _ _ _ hb, List.rtakeWhile_concat_pos _ _ _ hb,
    List.length_append, List.length_singleton, List.replicate_succ', List.append_assoc]

lemma clearSlashes_concat_other {b : UInt8} (hb : ¬ isSlash b = true) (t : List UInt8) :
    clearSlashes (t ++ [b]) = t ++ [b] := by
  unfold clearSlashes trimSlashes
  rw [List.rdropWhile_concat_neg _ _ _ hb, List.rtakeWhile_concat_neg _ _ _ hb]
  exact List.append_nil _

@[simp] lemma length_clearSlashes (t : List UInt8) : (clearSlashes t).length = t.length := by
  have happend := congrArg List.length (@List.rdropWhile_append_rtakeWhile _ isSlash t)
  rw [List.length_append] at happend
  rw [clearSlashes, List.length_append, List.length_replicate]
  exact happend

/-- The terminators in place of the slashes come right behind the trimmed name. -/
lemma clearSlashes_append_zero {α : Type} (f : UInt8 → α) (t : List UInt8) (rest : List α) :
    (clearSlashes t).map f ++ f 0 :: rest =
      (trimSlashes t).map f ++ f 0 :: ((List.replicate (t.rtakeWhile isSlash).length 0).map f ++
        rest) := by
  have hmove (k : ℕ) : (List.replicate k 0).map f ++ f 0 :: rest =
      f 0 :: ((List.replicate k 0).map f ++ rest) := by
    induction k with
    | zero => rfl
    | succ k ih => rw [List.replicate_succ, List.map_cons, List.cons_append, ih, List.cons_append]
  rw [clearSlashes, List.map_append, List.append_assoc, hmove]

lemma longestUnslashed_trimSlashes (t : List UInt8) : LongestUnslashed t (trimSlashes t) := by
  induction t using List.reverseRecOn with
  | nil =>
    refine ⟨List.prefix_rfl, by simp [trimSlashes], ?_⟩
    intro q hq _
    exact hq
  | append_singleton t b ih =>
    by_cases hb : isSlash b = true
    · have htrim : trimSlashes (t ++ [b]) = trimSlashes t := List.rdropWhile_concat_pos _ _ _ hb
      rw [htrim]
      refine ⟨ih.start.trans (List.prefix_append _ _), ih.unslashed, ?_⟩
      intro q hq hlast
      rcases List.prefix_concat_iff.mp hq with rfl | hq
      · have := hlast b (by simp)
        rw [hb] at this
        cases this
      · exact ih.longest q hq hlast
    · have htrim : trimSlashes (t ++ [b]) = t ++ [b] := List.rdropWhile_concat_neg _ _ _ hb
      rw [htrim]
      refine ⟨List.prefix_rfl, ?_, fun q hq _ => hq⟩
      intro c hc
      obtain rfl : b = c := by simpa using hc
      simpa using hb

lemma AccessBelow.mono {m n : ℕ} (h : m ≤ n) {r : Req} (hr : AccessBelow m r) :
    AccessBelow n r := by
  cases r with
  | store cap off len => exact Nat.le_trans hr h
  | fetch cap i cell => exact ⟨Nat.lt_of_lt_of_le hr.1 h, hr.2⟩
  | _ => exact hr.elim

lemma AccessBelow.isLocal {n : ℕ} {r : Req} (h : AccessBelow n r) : IsLocal r := by
  cases r <;> first | exact h.elim | trivial

private lemma FetchBelow.accessBelow {cap n : ℕ} {r : Req} (h : FetchBelow cap n r) :
    AccessBelow n r := by
  cases r with
  | fetch cap' i cell => exact h.2.2
  | _ => exact h.elim

/-- Each turn that finds a slash moves the terminator one place to the front. -/
lemma zmqTrimLoop_settles (t : List UInt8) (rest : List Cell) :
    (zmqTrimLoop (t.map some ++ some 0 :: rest) t.length).Settles (AccessBelow t.length)
      ((clearSlashes t).map some ++ some 0 :: rest) := by
  induction t using List.reverseRecOn generalizing rest with
  | nil => rfl
  | append_singleton t b ih =>
    let cells : List Cell := (t ++ [b]).map some ++ some 0 :: rest
    have hcells : cells = t.map some ++ some b :: (some 0 :: rest) := by simp [cells]
    have hfetch : (fetch cells t.length).Settles (AccessBelow (t.length + 1)) b := by
      refine (fetch_settles_below ?_ (Nat.lt_succ_self _)).mono fun _ => FetchBelow.accessBelow
      rw [hcells]
      simp
    rw [List.length_append, List.length_singleton]
    by_cases hb : isSlash b = true
    · have hput : Memory.put cells t.length [0] = t.map some ++ some 0 :: (some 0 :: rest) := by
        rw [hcells, Memory.put_append_cons _ _ _ _ _ (by simp)]
      have hstore : (store cells t.length [0]).Settles (AccessBelow (t.length + 1))
          (t.map some ++ some 0 :: (some 0 :: rest)) := by
        rw [← hput]
        exact ⟨Nat.le_refl _, fun _ => rfl⟩
      have hloop := (ih (some 0 :: rest)).mono fun _ => AccessBelow.mono (Nat.le_succ t.length)
      have hclear : ((clearSlashes (t ++ [b])).map some ++ some 0 :: rest : List Cell) =
          (clearSlashes t).map some ++ some 0 :: (some 0 :: rest) := by
        rw [clearSlashes_concat_slash hb]
        simp
      apply hfetch.bind
      rw [if_pos hb, hclear]
      exact hstore.bind hloop
    · rw [clearSlashes_concat_other hb]
      apply hfetch.bind
      rw [if_neg hb]
      rfl

/-- Of the array behind the terminator nothing has to be known. -/
lemma zmqTrimTrailingSlashes_terminated {t : List UInt8} (h0 : 0 ∉ t) {maxLen : ℕ}
    (ht : t.length < maxLen) (rest : List Cell) :
    (zmqTrimTrailingSlashes (t.map some ++ some 0 :: rest) maxLen).Settles (AccessBelow maxLen)
      ((clearSlashes t).map some ++ some 0 :: rest) := by
  have hcells : (t.map some ++ some 0 :: rest : List Cell).drop 0 =
      (t ++ [0]).map some ++ rest := by simp
  have hscan := (scanNul_settles_text hcells (Or.inr (by simp : (0 : UInt8) ∈ t ++ [0]))).mono
    (fun _ => @FetchBelow.accessBelow _ (0 + maxLen) _)
  have htake : (t ++ [0]).take maxLen = t ++ [0] := by
    apply List.take_of_length_le
    rw [List.length_append]
    exact ht
  rw [htake, Memory.text_append_zero h0, Nat.zero_add, Nat.zero_add] at hscan
  unfold zmqTrimTrailingSlashes
  rw [if_neg (by omega)]
  apply hscan.bind
  rw [if_neg (by omega)]
  exact (zmqTrimLoop_settles t rest).mono fun _ => AccessBelow.mono ht.le

lemma zmqTrimTrailingSlashes_unterminated {buf : List UInt8} {maxLen : ℕ} (hpos : 0 < maxLen)
    (hle : maxLen ≤ buf.length) (h0 : 0 ∉ buf.take maxLen) :
    (zmqTrimTrailingSlashes (buf.map some) maxLen).Settles (AccessBelow maxLen)
      ((0 :: buf.tail).map some) := by
  have hcells : (buf.map some : List Cell).drop 0 = buf.map some ++ [] := by simp
  have hscan := (scanNul_settles_text hcells (Or.inl hle)).mono
    (fun _ => @FetchBelow.accessBelow _ (0 + maxLen) _)
  have htext : Memory.text (buf.take maxLen) = buf.take maxLen := by
    rw [Memory.text, List.takeWhile_eq_self_iff]
    intro c hc
    simpa using ne_of_mem_of_not_mem hc h0
  rw [htext, List.length_take, Nat.min_eq_left hle, Nat.zero_add] at hscan
  have hput : Memory.put (buf.map some) 0 [0] = (0 :: buf.tail).map some := by
    rw [Memory.put_zero (by simp; omega)]
    simp
  unfold zmqTrimTrailingSlashes
  rw [if_neg (by omega)]
  apply hscan.bind
  rw [if_pos (Nat.le_refl _), ← hput]
  refine ⟨?_, fun _ => rfl⟩
  simp only [AccessBelow, List.length_singleton]
  omega

lemma clearSlashes_trimSlashes (t : List UInt8) : clearSlashes (trimSlashes t) = trimSlashes t := by
  have hnone : (trimSlashes t).rtakeWhile isSlash = [] := by
    rw [List.rtakeWhile_eq_nil_iff]
    intro hne
    exact List.rdropWhile_last_not _ _ hne
  have hagain : trimSlashes (trimSlashes t) = trimSlashes t := List.rdropWhile_idempotent _ _
  rw [clearSlashes, hnone, hagain]
  exact List.append_nil _

/-- The first terminator of `t ++ 0 :: rest`. -/
private lemma eq_length_of_first {t rest : List UInt8} (h0 : 0 ∉ t) {len : ℕ}
    (hlen : (t ++ 0 :: rest)[len]? = some 0) (hfirst : ∀ i < len, (t ++ 0 :: rest)[i]? ≠ some 0) :
    len = t.length := by
  rcases lt_trichotomy len t.length with hlt | heq | hgt
  · rw [List.getElem?_append_left hlt] at hlen
    exact absurd (List.mem_of_getElem? hlen) h0
  · exact heq
  · exact absurd (by simp) (hfirst t.length hgt)

private lemma trimmed_terminated {t rest : List UInt8} (h0 : 0 ∉ t) {maxLen : ℕ}
    (ht : t.length < maxLen) :
    Trimmed (t ++ 0 :: rest) (clearSlashes t ++ 0 :: rest) maxLen := by
  have hmove := clearSlashes_append_zero id t rest
  rw [List.map_id, List.map_id, List.map_id] at hmove
  have htext : Memory.text (clearSlashes t ++ 0 :: rest) = trimSlashes t := by
    rw [show clearSlashes t ++ 0 :: rest = _ from hmove]
    exact Memory.text_append_zero (zero_notMem_trimSlashes h0) _
  refine ⟨by simp, ?_, ?_⟩
  · intro len _ hlen hfirst
    obtain rfl := eq_length_of_first h0 hlen hfirst
    rw [htext, List.take_left]
    refine ⟨longestUnslashed_trimSlashes t, ?_⟩
    rintro i (hi | hi)
    · have hprefix : trimSlashes t <+: t ++ 0 :: rest :=
        (List.rdropWhile_prefix _ _).trans (List.prefix_append _ _)
      rw [show clearSlashes t ++ 0 :: rest = _ from hmove]
      obtain ⟨tail, htail⟩ := hprefix
      rw [← htail, List.getElem?_append_left hi, List.getElem?_append_left hi]
    · rw [List.getElem?_append_right (by simpa using hi), List.getElem?_append_right hi,
        length_clearSlashes]
  · intro hnone
    exact absurd (by simp) (hnone t.length ht)

/-- The function ends, whatever is in the buffer, and touches only the bytes below `max_len`.
The string loses its trailing slashes and nothing else changes. A second call finds nothing
to do. -/
theorem zmqTrimTrailingSlashes_exact (buf : List UInt8) (maxLen : ℕ) (hpos : 0 < maxLen)
    (hle : maxLen ≤ buf.length) : ∃ out,
      (zmqTrimTrailingSlashes (buf.map some) maxLen).Settles (AccessBelow maxLen) (out.map some) ∧
      Trimmed buf out maxLen ∧
      (zmqTrimTrailingSlashes (out.map some) maxLen).Settles (AccessBelow maxLen)
        (out.map some) := by
  by_cases h0 : 0 ∈ buf.take maxLen
  · obtain ⟨t, between, htake, ht0⟩ := List.eq_append_cons_of_mem h0
    have ht : t.length < maxLen := by
      have := congrArg List.length htake
      rw [List.length_take, List.length_append, List.length_cons] at this
      omega
    obtain ⟨rest, rfl⟩ : ∃ rest, buf = t ++ 0 :: rest := by
      refine ⟨between ++ buf.drop maxLen, ?_⟩
      calc buf = buf.take maxLen ++ buf.drop maxLen := (List.take_append_drop _ _).symm
        _ = t ++ 0 :: (between ++ buf.drop maxLen) := by rw [htake]; simp
    have hmap (s : List UInt8) : ((s ++ 0 :: rest).map some : List Cell) =
        s.map some ++ some 0 :: rest.map some := by simp
    refine ⟨clearSlashes t ++ 0 :: rest, ?_, trimmed_terminated ht0 ht, ?_⟩
    · rw [hmap, hmap]
      exact zmqTrimTrailingSlashes_terminated ht0 ht _
    · have hshort : (trimSlashes t).length < maxLen :=
        Nat.lt_of_le_of_lt (List.rdropWhile_prefix _ _).length_le ht
      have hagain := zmqTrimTrailingSlashes_terminated (zero_notMem_trimSlashes ht0) hshort
        ((List.replicate (t.rtakeWhile isSlash).length 0).map some ++ rest.map some)
      rw [clearSlashes_trimSlashes] at hagain
      rw [hmap, clearSlashes_append_zero]
      exact hagain
  · refine ⟨0 :: buf.tail, zmqTrimTrailingSlashes_unterminated hpos hle h0, ?_, ?_⟩
    · refine ⟨?_, ?_, fun _ => rfl⟩
      · rw [List.length_cons, List.length_tail]
        omega
      · intro len hlt hlen _
        have hmem : (buf.take maxLen)[len]? = some 0 := by rwa [List.getElem?_take_of_lt hlt]
        exact absurd (List.mem_of_getElem? hmem) h0
    · exact zmqTrimTrailingSlashes_terminated List.not_mem_nil hpos (buf.tail.map some)

theorem zmqTrimTrailingSlashes_exact_two_slashes : ∃ out,
    (zmqTrimTrailingSlashes ([67, 58, 92, 47, 0, 1].map some) 5).Settles (AccessBelow 5)
      (out.map some) ∧
    Trimmed [67, 58, 92, 47, 0, 1] out 5 ∧
    (zmqTrimTrailingSlashes (out.map some) 5).Settles (AccessBelow 5) (out.map some) :=
  zmqTrimTrailingSlashes_exact [67, 58, 92, 47, 0, 1] 5 (by decide) (by decide)

end ThinBasicZmq
