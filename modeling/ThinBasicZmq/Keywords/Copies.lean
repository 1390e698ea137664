import ThinBasicZmq.Keywords.Transaction

/-!
# What local arrays hold

Each access to a local array is a request, but what the code finds there does not depend
on the answers as long as it reads only cells that it wrote.
-/

namespace ThinBasicZmq

open Interaction

/-- A write inside a local array of capacity `cap`. -/
def StoreWithin (cap : ℕ) : Req → Prop
  | .store cap' off len => cap' = cap ∧ off + len ≤ cap
  | _ => False

/-- A read of a cell that was written, inside a local array of capacity `cap`. -/
def FetchWritten (cap : ℕ) : Req → Prop
  | .fetch cap' i cell => cap' = cap ∧ i < cap ∧ cell ≠ none
  | _ => False

/-- A read of a cell that was written, with an index below `n`. -/
def FetchBelow (cap n : ℕ) : Req → Prop
  | .fetch cap' i cell => cap' = cap ∧ i < cap ∧ i < n ∧ cell ≠ none
  | _ => False

/-- A read of a local array, or the allocation of a string result. -/
def IsResult : Req → Prop
  | .fetch _ _ _ | .readTb | .allocBstr _ _ => True
  | _ => False

/-- An access to a local array, or the allocation of a string result. -/
def IsLocal : Req → Prop
  | .store _ _ _ | .fetch _ _ _ | .readTb | .allocBstr _ _ => True
  | _ => False

lemma IsResult.isLocal {r : Req} (h : IsResult r) : IsLocal r := by
  cases r <;> trivial

lemma StoreWithin.isLocal {cap : ℕ} {r : Req} (h : StoreWithin cap r) : IsLocal r := by
  cases r <;> trivial

lemma FetchBelow.written {cap n : ℕ} {r : Req} (h : FetchBelow cap n r) : FetchWritten cap r := by
  cases r with
  | fetch cap' i cell => exact ⟨h.1, h.2.1, h.2.2.2⟩
  | _ => exact h.elim

lemma FetchWritten.isLocal {cap : ℕ} {r : Req} (h : FetchWritten cap r) : IsLocal r := by
  cases r <;> trivial

@[simp] lemma length_localArray (cap : ℕ) : (localArray cap).length = cap :=
  List.length_replicate

/-- An array of capacity `cap` that starts with the string `t` and its terminator. -/
def terminated (cap : ℕ) (t : List UInt8) : List Cell :=
  t.map some ++ some 0 :: List.replicate (cap - (t.length + 1)) none

lemma length_terminated {cap : ℕ} {t : List UInt8} (h : t.length < cap) :
    (terminated cap t).length = cap := by
  simp only [terminated, List.length_append, List.length_map, List.length_cons,
    List.length_replicate]
  omega

lemma cstring?_terminated {t : List UInt8} (h : 0 ∉ t) (cap : ℕ) :
    Memory.cstring? (terminated cap t) = some t := Memory.cstring?_append_zero h _

lemma store_settles (cells : List Cell) {off : ℕ} {bytes : List UInt8}
    (h : off + bytes.length ≤ cells.length) :
    (store cells off bytes).Settles (StoreWithin cells.length) (Memory.put cells off bytes) :=
  ⟨⟨rfl, h⟩, fun _ => rfl⟩

lemma memcpy_settles {cap : ℕ} {s : ParsedString} (h : s.ptr.strlen ≤ cap) :
    (memcpy (localArray cap) s.ptr s.len).Settles (StoreWithin cap)
      (s.ptr.text.map some ++ List.replicate (cap - s.ptr.strlen) none) := by
  have htake : s.ptr.mem.take s.len.toNat = s.ptr.text := by
    rw [s.toNat_len, s.ptr.take_strlen]
  have hput : Memory.put (localArray cap) 0 s.ptr.text =
      s.ptr.text.map some ++ List.replicate (cap - s.ptr.strlen) none := by
    rw [Memory.put_zero (by simpa using h)]
    simp [localArray]
  have hs : (store (localArray cap) 0 s.ptr.text).Settles (StoreWithin (localArray cap).length)
      (Memory.put (localArray cap) 0 s.ptr.text) := store_settles _ (by simpa using h)
  rw [length_localArray, hput] at hs
  unfold memcpy
  rw [htake]
  exact hs

/-- The copy of `ZmqSendStr`, which leaves out the `memcpy` of nothing. -/
lemma copyBytes_settles {cap : ℕ} {s : ParsedString} (h : s.ptr.strlen ≤ cap) :
    (if s.len > 0 then memcpy (localArray cap) s.ptr s.len
      else pure (localArray cap) : Sdk (List Cell)).Settles (StoreWithin cap)
      (s.ptr.text.map some ++ List.replicate (cap - s.ptr.strlen) none) := by
  by_cases hpos : s.len > 0
  · rw [if_pos hpos]
    exact memcpy_settles h
  · have hzero : s.ptr.strlen = 0 := by
      have := UInt32.lt_iff_toNat_lt.not.mp hpos
      rw [s.toNat_len] at this
      simpa using this
    have htext : s.ptr.text = [] := List.length_eq_zero_iff.mp (by simpa using hzero)
    rw [if_neg hpos, hzero, htext]
    rfl

lemma copyString_settles {cap : ℕ} {s : ParsedString} (h : s.ptr.strlen < cap) :
    (copyString cap s).Settles (StoreWithin cap) (terminated cap s.ptr.text) := by
  let copy : List Cell := s.ptr.text.map some ++ List.replicate (cap - s.ptr.strlen) none
  have hlen : copy.length = cap := by
    simp only [copy, List.length_append, List.length_map, List.length_replicate]
    change s.ptr.strlen + (cap - s.ptr.strlen) = cap
    omega
  have hput : Memory.put copy s.ptr.strlen [0] = terminated cap s.ptr.text := by
    have hrep : List.replicate (cap - s.ptr.strlen) (none : Cell) =
        none :: List.replicate (cap - (s.ptr.strlen + 1)) none := by
      rw [← List.replicate_succ]
      congr 1
      omega
    simp only [copy, hrep]
    rw [Memory.put_append_cons _ _ _ _ _ (by simp)]
    rfl
  have hs : (store copy s.ptr.strlen [0]).Settles (StoreWithin copy.length)
      (Memory.put copy s.ptr.strlen [0]) :=
    store_settles _ (by rw [hlen, List.length_singleton]; omega)
  rw [hlen, hput] at hs
  unfold copyString
  apply (memcpy_settles h.le).bind
  rw [s.toNat_len]
  exact hs

lemma fetch_settles_below {cells : List Cell} {i n : ℕ} {b : UInt8}
    (h : cells[i]? = some (some b)) (hn : i < n) :
    (fetch cells i).Settles (FetchBelow cells.length n) b := by
  obtain ⟨hi, hb⟩ := List.getElem?_eq_some_iff.mp h
  refine ⟨⟨rfl, hi, hn, by simp [h]⟩, ?_⟩
  intro x
  change b = cells[i]?.join.getD x
  rw [h]
  rfl

/-- The scan stops at the first terminator, or after `n` bytes without one. -/
lemma scanNul_settles_text {cells : List Cell} {t : List UInt8} {rest : List Cell} {i n : ℕ}
    (hc : cells.drop i = t.map some ++ rest) (ht : n ≤ t.length ∨ 0 ∈ t) :
    (scanNul cells n i).Settles (FetchBelow cells.length (i + n))
      (i + (Memory.text (t.take n)).length) := by
  induction n generalizing t i with
  | zero => rfl
  | succ n ih =>
    cases t with
    | nil =>
      rcases ht with ht | ht
      · cases ht
      · cases ht
    | cons b t =>
      have hi : cells[i]? = some (some b) := by
        have := congrArg (·[0]?) hc
        simpa using this
      have hbound : i < i + (n + 1) := by omega
      have hfetch := fetch_settles_below hi hbound
      by_cases hb : b = 0
      · subst hb
        exact hfetch.bind rfl
      · have hdrop : cells.drop (i + 1) = t.map some ++ rest := by
          rw [← List.drop_drop, hc]
          simp
        have hrest : n ≤ t.length ∨ 0 ∈ t := by
          rcases ht with ht | ht
          · exact Or.inl (Nat.le_of_succ_le_succ ht)
          · exact Or.inr ((List.mem_cons.mp ht).resolve_left (Ne.symm hb))
        have htext : Memory.text ((b :: t).take (n + 1)) = b :: Memory.text (t.take n) := by
          simp [Memory.text, hb]
        have hrec := ih hdrop hrest
        apply hfetch.bind
        rw [if_neg (by simpa using hb), htext, List.length_cons]
        rw [show i + 1 + n = i + (n + 1) by omega] at hrec
        rwa [show i + 1 + (Memory.text (t.take n)).length =
          i + ((Memory.text (t.take n)).length + 1) by omega] at hrec

lemma scanNul_settles {cells : List Cell} {t : List UInt8} {rest : List Cell} {i n : ℕ}
    (hc : cells.drop i = t.map some ++ some 0 :: rest) (ht : 0 ∉ t) (hn : t.length < n) :
    (scanNul cells n i).Settles (FetchWritten cells.length) (i + t.length) := by
  have hcells : cells.drop i = (t ++ [0]).map some ++ rest := by
    rw [hc]
    simp
  have hscan := (@scanNul_settles_text cells (t ++ [0]) rest i n hcells
    (Or.inr (by simp))).mono fun _ => FetchBelow.written
  have htake : (t ++ [0]).take n = t ++ [0] := by
    apply List.take_of_length_le
    rw [List.length_append]
    exact hn
  rwa [htake, Memory.text_append_zero ht] at hscan

lemma fetchBytes_settles_below {cells : List Cell} {t : List UInt8} {rest : List Cell} {i n : ℕ}
    (hc : cells.drop i = t.map some ++ rest) (hn : i + t.length ≤ n) :
    (fetchBytes cells t.length i).Settles (FetchBelow cells.length n) t := by
  induction t generalizing i with
  | nil => rfl
  | cons b t ih =>
    have hi : cells[i]? = some (some b) := by
      have := congrArg (·[0]?) hc
      simpa using this
    have hdrop : cells.drop (i + 1) = t.map some ++ rest := by
      rw [← List.drop_drop, hc]
      simp
    rw [List.length_cons] at hn
    have hfetch := fetch_settles_below hi (show i < n by omega)
    exact hfetch.bind ((ih hdrop (by omega)).bind rfl)

lemma fetchBytes_settles {cells : List Cell} {t : List UInt8} {rest : List Cell} {i : ℕ}
    (hc : cells.drop i = t.map some ++ rest) :
    (fetchBytes cells t.length i).Settles (FetchWritten cells.length) t :=
  (fetchBytes_settles_below hc le_rfl).mono fun _ => FetchBelow.written

section Accesses

variable {P : Req → Prop} (hstore : ∀ cap off len, P (.store cap off len))
  (hfetch : ∀ cap i cell, P (.fetch cap i cell))

include hstore in
lemma store_only (cells : List Cell) (off : ℕ) (bytes : List UInt8) :
    (store cells off bytes).Only P := ⟨hstore _ _ _, fun _ => trivial⟩

include hstore in
lemma memcpy_only (dst : List Cell) (src : CString) (len : DWORD) :
    (memcpy dst src len).Only P := store_only hstore _ _ _

include hfetch in
lemma fetch_only (cells : List Cell) (i : ℕ) : (fetch cells i).Only P :=
  ⟨hfetch _ _ _, fun _ => trivial⟩

include hfetch in
lemma scanNul_only (cells : List Cell) (n i : ℕ) : (scanNul cells n i).Only P := by
  induction n generalizing i with
  | zero => trivial
  | succ n ih => exact (fetch_only hfetch cells i).bind fun b => .ite trivial (ih _)

include hfetch in
lemma fetchBytes_only (cells : List Cell) (n i : ℕ) : (fetchBytes cells n i).Only P := by
  induction n generalizing i with
  | zero => trivial
  | succ n ih => exact (fetch_only hfetch cells i).bind fun b => (ih _).bind fun _ => trivial

end Accesses

lemma store_local (cells : List Cell) (off : ℕ) (bytes : List UInt8) :
    (store cells off bytes).Only IsLocal := store_only (fun _ _ _ => trivial) _ _ _

lemma allocBstr_result (fn : FARPROC) (b : List UInt8) : (allocBstr fn b).Only IsResult :=
  ⟨trivial, fun _ => trivial⟩

lemma tbReturnStringN_result (sz : Option (List Cell)) (len : ℕ) :
    (tbReturnStringN sz len).Only IsResult := by
  refine ⟨trivial, fun g => .ite trivial ?_⟩
  cases sz with
  | none => exact allocBstr_result _ _
  | some sz =>
    apply Prog.Only.ite
    · exact allocBstr_result _ _
    apply Prog.Only.ite
    · exact allocBstr_result _ _
    · exact (fetchBytes_only (fun _ _ _ => trivial) _ _ _).bind fun _ => allocBstr_result _ _

lemma tbReturnString_result (sz : Option (List Cell)) : (tbReturnString sz).Only IsResult := by
  cases sz with
  | none => exact tbReturnStringN_result none 0
  | some sz =>
    apply (fetch_only (fun _ _ _ => trivial) sz 0).bind
    intro b
    apply Prog.Only.ite
    · exact tbReturnStringN_result _ _
    apply (scanNul_only (fun _ _ _ => trivial) _ _ _).bind
    intro len
    apply Prog.Only.ite
    · trivial
    · exact tbReturnStringN_result _ _

lemma tbReturnEmpty_result : tbReturnEmpty.Only IsResult := tbReturnString_result _

end ThinBasicZmq
