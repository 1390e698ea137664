import ThinBasicZmq.Memory.Flat
import ThinBasicZmq.Model.Native
import ThinBasicZmq.Script.Session

/-!
# The interpreter as an environment

The native functions run against a libzmq and a process memory that the SDK keywords can be
run against as well.
-/

namespace ThinBasicZmq

open Interaction

/-- The memory that scripts see. -/
abbrev Heap := Memory.Flat UInt8

/-- A host pointer to the string `t`; `NULL` is possible for the empty string. -/
def Designates (t : List UInt8) : Option CString → Prop
  | none => t = []
  | some p => ∃ after, p.mem = t ++ 0 :: after

lemma Designates.text_eq {t : List UInt8} {ptr : CString} (h : Designates t (some ptr))
    (h0 : 0 ∉ t) : ptr.text = t := by
  obtain ⟨after, hmem⟩ := h
  rw [CString.text, hmem, Memory.text_append_zero h0]

/-- The interpreter: calls of libzmq exports, `HEAP_Alloc` and `Peek$`. -/
def Native.answer (lib : Library Heap) (heap : DWORD → Ptr) :
    (r : NativeReq) → Heap → r.Resp × Heap
  | .zmq c, mem => lib c mem
  | .heapAlloc size, mem => (heap size, mem)
  | .heapFree _, mem => ((), mem)
  | .peekAsciiz p, mem => (mem.string (2 ^ 32) p, mem)

/-- The helpers that older builds may lack are there. -/
def Session.Helpers {L : Type} (s : Session L) : Prop :=
  ∀ f ∈ zmqOptionalSymbols, s.zmq.fn f ≠ none

lemma Session.Helpers.fn {L : Type} {s : Session L} (h : s.Helpers) {c : ZmqCall}
    (hc : c.symbol ∈ zmqOptionalSymbols) : s.zmq.fn c.symbol ≠ none := h _ hc

lemma Session.helpers_resolved {L : Type} (lib : L) : (Session.resolved lib).Helpers := by
  intro f _
  simp [resolved]

lemma uint32_and_three (x : UInt32) : x &&& 3 = 0 ↔ 4 ∣ x.toNat := by
  rw [← UInt32.toNat_inj, UInt32.toNat_and, Nat.dvd_iff_mod_eq_zero]
  exact Iff.of_eq (congrArg (· = 0) (Nat.and_two_pow_sub_one_eq_mod _ 2))

lemma int32_and_three (x : Int32) : x &&& 3 = 0 ↔ 4 ∣ x.toUInt32.toNat := by
  have hand : (x &&& 3).toUInt32 = x.toUInt32 &&& 3 := by
    rw [Int32.toUInt32_and]
    rfl
  rw [← uint32_and_three, ← hand]
  constructor
  · intro h
    rw [h]
    rfl
  · intro h
    simpa using congrArg UInt32.toInt32 h

lemma ofNat_le_zero_iff {n : ℕ} (hn : n < 2 ^ 31) : Int32.ofNat n ≤ 0 ↔ n = 0 := by
  have hzero : Int32.toInt 0 = 0 := rfl
  rw [Int32.le_iff_toInt_le, Int32.toInt_ofNat_of_lt hn, hzero]
  omega

lemma toNat_ofNat_size {n : ℕ} (hn : n < 2 ^ 32) : (Int32.ofNat n).toUInt32.toNat = n := by
  rw [Int32.toUInt32_ofNat', UInt32.toNat_ofNat_of_lt' hn]

lemma handle_ne_zero {h : LONG} (hh : h ≠ 0) : tbPtrFromHandle h ≠ 0 := by
  intro he
  exact hh (by simpa [tbPtrFromHandle] using congrArg UInt32.toInt32 he)

lemma isNull_handle {h : LONG} (hh : h ≠ 0) : (Ref.addr (tbPtrFromHandle h)).isNull = false :=
  beq_false_of_ne (handle_ne_zero hh)

end ThinBasicZmq
