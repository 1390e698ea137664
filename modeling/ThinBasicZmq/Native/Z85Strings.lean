import ThinBasicZmq.Codec.Base85
import ThinBasicZmq.Native.Interpreter

/-!
# The Z85 string helpers of both implementations

`ZmqZ85EncodeStr` and `ZmqZ85DecodeStr` of the SDK and of `Security.inc`, over one libzmq and
one process memory.
-/

namespace ThinBasicZmq

open Interaction

/-- No address is in both ranges. -/
def Apart (p : Ptr) (m : ℕ) (q : Ptr) (n : ℕ) : Prop :=
  ∀ i < m, ∀ j < n, p + UInt32.ofNat i ≠ q + UInt32.ofNat j

/-- The Z85 functions of libzmq. `decode` is what is stored, and whether the call succeeds. -/
structure Z85 (lib : Library Heap) where
  encode : List UInt8 → List UInt8
  decode : List UInt8 → List UInt8 × Bool
  length_encode : ∀ b, 4 ∣ b.length → (encode b).length = 5 * b.length / 4
  zero_notMem_encode : ∀ b, 4 ∣ b.length → 0 ∉ encode b
  decode_refuses : ∀ t, t = [] ∨ ¬ 5 ∣ t.length → decode t = ([], false)
  encode_local : ∀ mem cells data size, 4 ∣ size.toNat → 5 * size.toNat / 4 < cells.length →
    ∃ p : Ptr, p ≠ 0 ∧
    lib (.z85Encode (.arr cells) (.addr data) size) mem =
      ((p, encode (mem.read data size.toNat) ++ [0]), mem)
  encode_heap : ∀ mem dest data size, dest ≠ 0 → 4 ∣ size.toNat →
    Apart dest (5 * size.toNat / 4 + 1) data size.toNat →
    lib (.z85Encode (.addr dest) (.addr data) size) mem =
      ((dest, encode (mem.read data size.toNat) ++ [0]),
        mem.write dest (encode (mem.read data size.toNat) ++ [0]))
  decode_heap : ∀ mem dest string t, dest ≠ 0 → string.cstring = some t →
    lib (.z85Decode (.addr dest) string) mem =
      ((if (decode t).2 then dest else 0, (decode t).1), mem.write dest (decode t).1)

variable {H : Host} {lib : Library Heap}

/-- What both versions return for the `n` bytes at `data`. -/
def Z85.text (z : Z85 lib) (mem : Heap) (data : LONG) (n : ℕ) : List UInt8 :=
  if n ≠ 0 ∧ 4 ∣ n then z.encode (mem.read data.toUInt32 n) else []

lemma Z85.length_encode_read (z : Z85 lib) (mem : Heap) (p : Ptr) {n : ℕ} (hn : 4 ∣ n) :
    (z.encode (mem.read p n)).length = 5 * n / 4 := by
  rw [z.length_encode _ (by simpa using hn), Memory.Flat.length_read]

lemma Z85.zero_notMem_encode_read (z : Z85 lib) (mem : Heap) (p : Ptr) {n : ℕ} (hn : 4 ∣ n) :
    0 ∉ z.encode (mem.read p n) := z.zero_notMem_encode _ (by simpa using hn)

lemma native_z85EncodeStr (z : Z85 lib) {heap : DWORD → Ptr} (mem : Heap) (data : LONG) {n : ℕ}
    (hn : 5 * n / 4 < TB_RETURN_STRING_MAX) (hheap : heap (.ofNat (5 * n / 4 + 1)) ≠ 0)
    (hfresh : Apart (heap (.ofNat (5 * n / 4 + 1))) (5 * n / 4 + 1) data.toUInt32 n) :
    ((Native.zmqZ85EncodeStr data (.ofNat n)).run (Native.answer lib heap) mem).1 =
      z.text mem data n := by
  have hmax : n < 2 ^ 32 := by
    rw [TB_RETURN_STRING_MAX] at hn
    omega
  have hsize : (UInt32.ofNat n).toNat = n := UInt32.toNat_ofNat_of_lt' hmax
  have hle : UInt32.ofNat n ≤ 0 ↔ n = 0 := by
    rw [UInt32.le_iff_toNat_le, hsize]
    exact Nat.le_zero
  have hand : UInt32.ofNat n &&& 3 = 0 ↔ 4 ∣ n := by
    rw [uint32_and_three, hsize]
  unfold Native.zmqZ85EncodeStr Z85.text
  by_cases h0 : n = 0
  · rw [if_pos (hle.mpr h0), if_neg (fun h => h.1 h0)]
    rfl
  rw [if_neg (hle.not.mpr h0)]
  by_cases h4 : 4 ∣ n
  · rw [if_neg (not_not.mpr (hand.mpr h4)), if_pos ⟨h0, h4⟩]
    have hlen := z.length_encode_read mem data.toUInt32 h4
    have hshort : (z.encode (mem.read data.toUInt32 n)).length < 2 ^ 32 := by
      rw [hlen]
      exact hn.trans (by decide)
    have halloc : (UInt32.ofNat n).toNat * 5 / 4 + 1 = 5 * n / 4 + 1 := by
      rw [hsize, Nat.mul_comm]
    have hencode : Native.answer lib heap (.zmq (.z85Encode
        (.addr (heap (.ofNat (5 * n / 4 + 1)))) (.addr data.toUInt32) (.ofNat n))) mem = _ :=
      z.encode_heap mem _ data.toUInt32 (.ofNat n) hheap (by rwa [hsize]) (by rwa [hsize])
    have hpeek := Memory.Flat.string_write mem (heap (.ofNat (5 * n / 4 + 1)))
      (z.zero_notMem_encode_read mem data.toUInt32 h4) hshort hshort
    rw [hsize] at hencode
    rw [← halloc] at hencode hheap hpeek
    refine (congrArg (fun p : Native (List UInt8) => (p.run (Native.answer lib heap) mem).1)
      (if_pos hheap)).trans ?_
    refine (congrArg Prod.fst (Prog.run_ask_of _ hencode)).trans ?_
    refine (congrArg (fun p : Native (List UInt8) => (p.run (Native.answer lib heap) _).1)
      (if_pos hheap)).trans ?_
    exact hpeek
  · rw [if_pos (hand.not.mpr h4), if_neg (fun h => h4 h.2)]
    rfl

/-- The guards of the SDK on the size. -/
private lemma size_guard {data : LONG} (hdata : data ≠ 0) {n : ℕ}
    (hn : 5 * n / 4 < TB_RETURN_STRING_MAX) :
    (data = 0 ∨ Int32.ofNat n ≤ 0 ∨ Int32.ofNat n &&& 3 ≠ 0) ↔ ¬ (n ≠ 0 ∧ 4 ∣ n) := by
  have hmax : n < 2 ^ 31 := by
    rw [TB_RETURN_STRING_MAX] at hn
    omega
  have hand : Int32.ofNat n &&& 3 = 0 ↔ 4 ∣ n := by
    rw [int32_and_three, toNat_ofNat_size (hmax.trans (by decide))]
  rw [ofNat_le_zero_iff hmax, ne_eq, hand]
  tauto

private lemma toNat_len_of_lt {n : ℕ} (hn : 5 * n / 4 < TB_RETURN_STRING_MAX) :
    ((Int32.ofNat n).toUInt32 * 5 / 4).toNat = 5 * n / 4 := by
  rw [TB_RETURN_STRING_MAX] at hn
  have hmul : ((Int32.ofNat n).toUInt32 * 5).toNat = 5 * n := by
    rw [UInt32.toNat_mul, toNat_ofNat_size (by omega)]
    change n * 5 % 2 ^ 32 = 5 * n
    omega
  rw [UInt32.toNat_div, hmul]
  rfl

lemma run_zmqApiZ85Encode {s : Session Heap} (hs : s.Ready) (hhelp : s.Helpers) {dest : Ref}
    (hdest : dest.isNull = false) {data : LONG} (hdata : data ≠ 0) {size : SizeT}
    {x : Ptr × List UInt8} {mem : Heap}
    (h : lib (.z85Encode dest (.addr (tbPtrFromHandle data)) size) s.lib = (x, mem)) :
    (zmqApiZ85Encode dest (.addr (tbPtrFromHandle data)) size).run (H.answer lib) s =
      (x, { s with lib := mem }) := by
  have hargs : [dest, .addr (tbPtrFromHandle data)].any Ref.isNull = false := by
    simp [hdest, isNull_handle hdata]
  exact Host.run_zmqApiOptional hs.loaded
    (hhelp.fn (by simp [zmqOptionalSymbols, ZmqCall.symbol])) hargs h

lemma run_z85EncodeStrAction (z : Z85 lib) {s : Session Heap} (hs : s.Ready) (hhelp : s.Helpers)
    {data : LONG} (hdata : data ≠ 0) {n : ℕ} (hn : 5 * n / 4 < TB_RETURN_STRING_MAX) :
    (z85EncodeStrAction data (.ofNat n)).run (H.answer lib) s =
      (some (z.text s.lib data n), s) := by
  unfold z85EncodeStrAction Z85.text
  by_cases hguard : n ≠ 0 ∧ 4 ∣ n
  · obtain ⟨h0, h4⟩ := hguard
    have hlen := z.length_encode_read s.lib data.toUInt32 h4
    have hcells := toNat_len_of_lt hn
    have hsome : ¬ ((Int32.ofNat n).toUInt32 * 5 / 4 = 0 ∨
        ((Int32.ofNat n).toUInt32 * 5 / 4).toNat ≥ TB_RETURN_STRING_MAX) := by
      rw [← UInt32.toNat_inj, hcells]
      change ¬ (5 * n / 4 = 0 ∨ 5 * n / 4 ≥ TB_RETURN_STRING_MAX)
      omega
    have hstore : (store (localArray TB_RETURN_STRING_MAX) 0 [0]).run (H.answer lib) s = (_, s) :=
      Host.run_settles (store_settles _ (by simp [TB_RETURN_STRING_MAX]))
        (fun _ => StoreWithin.isLocal) s
    have hroom : (Memory.put (localArray TB_RETURN_STRING_MAX) 0 [0]).length =
        TB_RETURN_STRING_MAX := by
      rw [Memory.length_put, length_localArray]
    generalize Memory.put (localArray TB_RETURN_STRING_MAX) 0 [0] = cells at hstore hroom
    have hsize : (Int32.ofNat n).toUInt32.toNat = n := by
      rw [TB_RETURN_STRING_MAX] at hn
      exact toNat_ofNat_size (by omega)
    obtain ⟨p, hp, hlib⟩ := z.encode_local s.lib cells data.toUInt32 (Int32.ofNat n).toUInt32
      (by rwa [hsize]) (by rwa [hsize, hroom])
    rw [hsize] at hlib
    have hapi : (zmqApiZ85Encode (.arr cells) (.addr (tbPtrFromHandle data))
        (Int32.ofNat n).toUInt32).run (H.answer lib) s =
          ((p, z.encode (s.lib.read data.toUInt32 n) ++ [0]), s) :=
      run_zmqApiZ85Encode hs hhelp rfl hdata hlib
    rw [if_neg ((size_guard hdata hn).not.mpr (not_not.mpr ⟨h0, h4⟩)), if_neg hsome,
      if_pos ⟨h0, h4⟩, encodeInto, Prog.run_bind, hstore]
    rw [Prog.run_bind, hapi]
    have hput : Memory.put cells 0 (z.encode (s.lib.read data.toUInt32 n) ++ [0]) =
        (z.encode (s.lib.read data.toUInt32 n)).map some ++ some 0 :: cells.drop (5 * n / 4 + 1)
        := by
      rw [Memory.put_zero (by rw [List.length_append, hlen, hroom]; exact hn), List.length_append,
        hlen, List.map_append, List.append_assoc]
      rfl
    dsimp only
    rw [if_neg hp, hput]
    exact Host.run_tbReturnString hs.alloc _ (z.zero_notMem_encode_read _ _ h4) (by rwa [hlen])
  · rw [if_pos ((size_guard hdata hn).mpr hguard), if_neg hguard]
    exact Host.run_tbReturnEmpty hs.alloc

lemma call_z85EncodeStr (z : Z85 lib) {s : Session Heap} (hs : s.Ready) (hhelp : s.Helpers)
    {data : LONG} (hdata : data ≠ 0) {n : ℕ} (hn : 5 * n / 4 < TB_RETURN_STRING_MAX) :
    H.call lib .zmqZ85EncodeStr [.int data, .int (.ofNat n)] s =
      (.bstr (some (z.text s.lib data n)), s) :=
  Host.call_bstr .zmqZ85EncodeStr rfl (data, .ofNat n, ())
    (run_z85EncodeStrAction z hs hhelp hdata hn)

/-- The value of both versions, and the memory that they leave. -/
def Z85.stored (z : Z85 lib) (mem : Heap) (t : List UInt8) (dest : LONG) (n : ℕ) :
    LONG × Heap :=
  if t = [] ∨ ¬ 5 ∣ t.length ∨ dest = 0 ∨ n < 4 * t.length / 5 then (0, mem)
  else (tbHandleFromPtr (if (z.decode t).2 then tbPtrFromHandle dest else 0),
    mem.write (tbPtrFromHandle dest) (z.decode t).1)

lemma native_z85DecodeStr (z : Z85 lib) {heap : DWORD → Ptr} (mem : Heap) {t : List UInt8}
    (h0 : 0 ∉ t) (ht : t.length < TB_RETURN_STRING_MAX) (dest : LONG) {n : ℕ} (hn : n < 2 ^ 31) :
    (Native.zmqZ85DecodeStr t dest (.ofNat n)).run (Native.answer lib heap) mem =
      z.stored mem t dest n := by
  rw [TB_RETURN_STRING_MAX] at ht
  have hneed : (UInt32.ofNat (t.length * 4 / 5)).toNat = t.length * 4 / 5 :=
    UInt32.toNat_ofNat_of_lt' (by rw [UInt32.size]; omega)
  have hguard : (UInt32.ofNat (t.length * 4 / 5) ≤ 0 ∨
      UInt32.ofNat n < UInt32.ofNat (t.length * 4 / 5) ∨ dest = 0) ↔
      t.length * 4 / 5 = 0 ∨ n < 4 * t.length / 5 ∨ dest = 0 := by
    rw [UInt32.le_iff_toNat_le, UInt32.lt_iff_toNat_lt, hneed,
      UInt32.toNat_ofNat_of_lt' (by rw [UInt32.size]; omega), Nat.mul_comm 4]
    exact or_congr_left Nat.le_zero
  unfold Native.zmqZ85DecodeStr Z85.stored
  by_cases hbad : t.length * 4 / 5 = 0 ∨ n < 4 * t.length / 5 ∨ dest = 0
  · have hstored : t = [] ∨ ¬ 5 ∣ t.length ∨ dest = 0 ∨ n < 4 * t.length / 5 := by
      rcases hbad with h | h | h
      · rw [← List.length_eq_zero_iff]
        omega
      · exact Or.inr (Or.inr (Or.inr h))
      · exact Or.inr (Or.inr (Or.inl h))
    rw [if_pos (hguard.mpr hbad), if_pos hstored]
    rfl
  · have hdest : tbPtrFromHandle dest ≠ 0 := handle_ne_zero fun he => hbad (.inr (.inr he))
    have hdecode : Native.answer lib heap (.zmq (.z85Decode (.addr dest.toUInt32)
        (.str (.ofBytes t)))) mem = _ :=
      z.decode_heap mem (tbPtrFromHandle dest) (.str (.ofBytes t)) t hdest
        (congrArg some (CString.text_ofBytes h0))
    rw [if_neg (hguard.not.mpr hbad)]
    refine (Prog.run_ask_of _ hdecode).trans ?_
    by_cases hlen : t = [] ∨ ¬ 5 ∣ t.length
    · have hstored : t = [] ∨ ¬ 5 ∣ t.length ∨ dest = 0 ∨ n < 4 * t.length / 5 := by
        tauto
      rw [if_pos hstored, z.decode_refuses t hlen]
      rfl
    · have hgood : ¬ (t = [] ∨ ¬ 5 ∣ t.length ∨ dest = 0 ∨ n < 4 * t.length / 5) := by
        tauto
      rw [if_neg hgood]
      rfl

/-- The guards of the SDK. -/
private lemma decode_guard (x : ParsedString) (dest : LONG) {n : ℕ} (hn : n < 2 ^ 31)
    (hx : x.ptr.strlen < TB_RETURN_STRING_MAX) :
    (dest = 0 ∨ Int32.ofNat n ≤ 0 ∨ x.len = 0 ∨ x.len % 5 ≠ 0 ∨
      x.len.toNat ≥ TB_RETURN_STRING_MAX) ∨
      (x.len * 4 / 5 = 0 ∨ (Int32.ofNat n).toUInt32 < x.len * 4 / 5) ↔
    x.ptr.text = [] ∨ ¬ 5 ∣ x.ptr.strlen ∨ dest = 0 ∨ n < 4 * x.ptr.strlen / 5 := by
  rw [TB_RETURN_STRING_MAX] at hx
  have hmul : (x.len * 4).toNat = x.ptr.strlen * 4 := by
    rw [UInt32.toNat_mul, x.toNat_len]
    change x.ptr.strlen * 4 % 2 ^ 32 = _
    omega
  have hneed : (x.len * 4 / 5).toNat = x.ptr.strlen * 4 / 5 := by
    rw [UInt32.toNat_div, hmul]
    rfl
  have hzero : x.len = 0 ↔ x.ptr.strlen = 0 := by
    rw [← UInt32.toNat_inj, x.toNat_len]
    rfl
  have hmod : x.len % 5 = 0 ↔ 5 ∣ x.ptr.strlen := by
    rw [← UInt32.toNat_inj, UInt32.toNat_mod, x.toNat_len, Nat.dvd_iff_mod_eq_zero]
    rfl
  have hneed0 : x.len * 4 / 5 = 0 ↔ x.ptr.strlen * 4 / 5 = 0 := by
    rw [← UInt32.toNat_inj, hneed]
    rfl
  rw [ofNat_le_zero_iff hn, hzero, ne_eq, hmod, x.toNat_len, TB_RETURN_STRING_MAX, hneed0,
    UInt32.lt_iff_toNat_lt, hneed, toNat_ofNat_size (by omega), ← List.length_eq_zero_iff,
    x.ptr.length_text]
  by_cases hd : dest = 0
  · simp [hd]
  · simp only [hd, false_or]
    omega

/-- The text is in a local buffer. -/
lemma run_zmqApiZ85Decode (z : Z85 lib) {s : Session Heap} (hs : s.Ready) (hhelp : s.Helpers)
    {dest : LONG} (hdest : dest ≠ 0) {t : List UInt8} (h0 : 0 ∉ t) {cap : ℕ} :
    (zmqApiZ85Decode (.addr (tbPtrFromHandle dest)) (.arr (terminated cap t))).run (H.answer lib)
        s =
      ((if (z.decode t).2 then tbPtrFromHandle dest else 0, (z.decode t).1),
        { s with lib := s.lib.write (tbPtrFromHandle dest) (z.decode t).1 }) := by
  have hlib := z.decode_heap s.lib (tbPtrFromHandle dest) (.arr (terminated cap t)) t
    (handle_ne_zero hdest) (cstring?_terminated h0 _)
  have hargs : [Ref.addr (tbPtrFromHandle dest), .arr (terminated cap t)].any Ref.isNull =
      false := by
    rw [List.any_cons, isNull_handle hdest]
    rfl
  exact Host.run_zmqApiOptional hs.loaded
    (hhelp.fn (by simp [zmqOptionalSymbols, ZmqCall.symbol])) hargs hlib

lemma run_z85DecodeStrAction (z : Z85 lib) {s : Session Heap} (hs : s.Ready) (hhelp : s.Helpers)
    {x : ParsedString} (hx : x.ptr.strlen < TB_RETURN_STRING_MAX) (dest : LONG) {n : ℕ}
    (hn : n < 2 ^ 31) :
    (z85DecodeStrAction x dest (.ofNat n)).run (H.answer lib) s =
      ((z.stored s.lib x.ptr.text dest n).1,
        { s with lib := (z.stored s.lib x.ptr.text dest n).2 }) := by
  have hguard := decode_guard x dest hn hx
  unfold z85DecodeStrAction Z85.stored
  rw [x.ptr.length_text]
  by_cases hbad : x.ptr.text = [] ∨ ¬ 5 ∣ x.ptr.strlen ∨ dest = 0 ∨ n < 4 * x.ptr.strlen / 5
  · rw [if_pos hbad]
    rcases hguard.mpr hbad with hfirst | hsecond
    · rw [if_pos hfirst]
      rfl
    · rw [if_pos hsecond, ite_self]
      rfl
  · obtain ⟨hfirst, hsecond⟩ := not_or.mp (hguard.not.mpr hbad)
    have hdest : dest ≠ 0 := fun he => hfirst (.inl he)
    rw [if_neg hfirst, if_neg hsecond, if_neg hbad, Prog.run_bind, Host.run_copyString hx]
    rw [Prog.run_bind, run_zmqApiZ85Decode z hs hhelp hdest x.ptr.zero_notMem_text]
    rfl

lemma call_z85DecodeStr_some (z : Z85 lib) {s : Session Heap} (hs : s.Ready)
    (hhelp : s.Helpers) {ptr : CString} (hlen : ptr.strlen < TB_RETURN_STRING_MAX) (dest : LONG)
    {n : ℕ} (hn : n < 2 ^ 31) :
    H.call lib .zmqZ85DecodeStr [.str (some ptr), .int dest, .int (.ofNat n)] s =
      (.long (z.stored s.lib ptr.text dest n).1,
        { s with lib := (z.stored s.lib ptr.text dest n).2 }) :=
  Host.call_long .zmqZ85DecodeStr rfl (⟨ptr, hlen.trans (by decide)⟩, dest, .ofNat n, ())
    (run_z85DecodeStrAction z hs hhelp hlen dest hn)

lemma call_z85DecodeStr (z : Z85 lib) {s : Session Heap} (hs : s.Ready) (hhelp : s.Helpers)
    {t : List UInt8} (h0 : 0 ∉ t) (ht : t.length < TB_RETURN_STRING_MAX) {p : Option CString}
    (hp : Designates t p) (dest : LONG) {n : ℕ} (hn : n < 2 ^ 31) : ∃ ts,
    H.call lib .zmqZ85DecodeStr [.str p, .int dest, .int (.ofNat n)] s =
      (.long (z.stored s.lib t dest n).1,
        { s with lib := (z.stored s.lib t dest n).2, tokens := ts }) := by
  cases p with
  | none =>
    obtain rfl : t = [] := hp
    have hstored : z.stored s.lib [] dest n = (0, s.lib) := if_pos (Or.inl rfl)
    obtain ⟨ts, hts⟩ := @Host.run_transact_refused _ _ H lib [] [.int, .int]
      Keyword.zmqZ85DecodeStr.body.failure Keyword.zmqZ85DecodeStr.body.action () none trivial
      [.int dest, .int (.ofNat n)] s
    refine ⟨ts, ?_⟩
    rw [Host.call, Keyword.exec_eq_transact, hstored]
    exact hts
  | some ptr =>
    have htext := hp.text_eq h0
    have hlen : ptr.strlen < TB_RETURN_STRING_MAX := by rwa [← ptr.length_text, htext]
    refine ⟨s.tokens, ?_⟩
    rw [call_z85DecodeStr_some z hs hhelp hlen dest hn, htext]

/-- `HEAP_Alloc` has `size` bytes, and they are not among the `n` bytes at `p`. -/
def Allocates (heap : DWORD → Ptr) (size : ℕ) (p : Ptr) (n : ℕ) : Prop :=
  heap (.ofNat size) ≠ 0 ∧ Apart (heap (.ofNat size)) size p n

/-- The SDK keywords and the native functions encode to the same string, and decode to the same
value and the same bytes. -/
theorem z85Strings_agree (H : Host) (lib : Library Heap) (z : Z85 lib) (heap : DWORD → Ptr)
    (s : Session Heap) (hs : s.Ready) (hhelp : s.Helpers) :
    (∀ (data : LONG) (n : ℕ), data ≠ 0 → 5 * n / 4 < TB_RETURN_STRING_MAX →
      Allocates heap (5 * n / 4 + 1) data.toUInt32 n →
      ∃ b, (H.call lib .zmqZ85EncodeStr [.int data, .int (.ofNat n)] s).1 = .bstr (some b) ∧
        ((Native.zmqZ85EncodeStr data (.ofNat n)).run (Native.answer lib heap) s.lib).1 = b) ∧
    ∀ (t : List UInt8) (p : Option CString) (dest : LONG) (n : ℕ), 0 ∉ t →
      t.length < TB_RETURN_STRING_MAX → Designates t p → n < 2 ^ 31 →
      (H.call lib .zmqZ85DecodeStr [.str p, .int dest, .int (.ofNat n)] s).1 =
        .long ((Native.zmqZ85DecodeStr t dest (.ofNat n)).run (Native.answer lib heap) s.lib).1 ∧
      (H.call lib .zmqZ85DecodeStr [.str p, .int dest, .int (.ofNat n)] s).2.lib =
        ((Native.zmqZ85DecodeStr t dest (.ofNat n)).run (Native.answer lib heap) s.lib).2 := by
  constructor
  · intro data n hdata hn hheap
    refine ⟨z.text s.lib data n, ?_, native_z85EncodeStr z s.lib data hn hheap.1 hheap.2⟩
    rw [call_z85EncodeStr z hs hhelp hdata hn]
  · intro t p dest n h0 ht hp hn
    obtain ⟨ts, hcall⟩ := @call_z85DecodeStr H lib z s hs hhelp t h0 ht p hp dest n hn
    rw [hcall, native_z85DecodeStr z s.lib h0 ht dest hn]
    exact ⟨rfl, rfl⟩

/-- A `libzmq.dll` of which only the Z85 functions are used. -/
def z85Library : Library Heap
  | .z85Encode dest data size, mem =>
    match dest, data with
    | .arr _, .addr data =>
      if 4 ∣ size.toNat then ((1, Base85.encode (mem.read data size.toNat) ++ [0]), mem)
      else ((0, []), mem)
    | .addr dest, .addr data =>
      if 4 ∣ size.toNat then
        ((dest, Base85.encode (mem.read data size.toNat) ++ [0]),
          mem.write dest (Base85.encode (mem.read data size.toNat) ++ [0]))
      else ((0, []), mem)
    | _, _ => ((0, []), mem)
  | .z85Decode dest string, mem =>
    match dest, string.cstring with
    | .addr dest, some t =>
      ((if (Base85.decode t).2 then dest else 0, (Base85.decode t).1),
        mem.write dest (Base85.decode t).1)
    | _, _ => ((0, []), mem)
  | c, mem => (c.failed, mem)

def z85Functions : Z85 z85Library where
  encode := Base85.encode
  decode := Base85.decode
  length_encode _ := Base85.length_encode
  zero_notMem_encode b _ := Base85.zero_notMem_encode b
  decode_refuses _ := Base85.decode_refuses
  encode_local := by
    intro mem cells data size h4 _
    exact ⟨1, by decide, if_pos h4⟩
  encode_heap := by
    intro mem dest data size _ h4 _
    exact if_pos h4
  decode_heap := by
    intro mem dest string t _ ht
    simp only [z85Library, ht]

/-- Four bytes at address 64 are encoded into a block at address 4096, and five characters are
decoded to address 64. -/
theorem z85Strings_agree_four_bytes :
    (∃ b, (Host.bare.call z85Library .zmqZ85EncodeStr [.int 64, .int (.ofNat 4)]
        (Session.resolved fun _ => 7)).1 = .bstr (some b) ∧
      ((Native.zmqZ85EncodeStr 64 (.ofNat 4)).run (Native.answer z85Library fun _ => 4096)
        fun _ => 7).1 = b) ∧
    (Host.bare.call z85Library .zmqZ85DecodeStr
        [.str (some (.ofBytes [72, 101, 108, 108, 111])), .int 64, .int (.ofNat 4)]
        (Session.resolved fun _ => 7)).1 =
      .long ((Native.zmqZ85DecodeStr [72, 101, 108, 108, 111] 64 (.ofNat 4)).run
        (Native.answer z85Library fun _ => 4096) fun _ => 7).1 := by
  obtain ⟨hencode, hdecode⟩ := z85Strings_agree Host.bare z85Library z85Functions (fun _ => 4096)
    (Session.resolved fun _ => 7) (Session.ready_resolved _) (Session.helpers_resolved _)
  refine ⟨hencode 64 4 (by decide) (by decide) ⟨by decide, ?_⟩, ?_⟩
  · unfold Apart
    decide
  · exact (hdecode [72, 101, 108, 108, 111] (some (.ofBytes [72, 101, 108, 108, 111])) 64 4
      (by decide) (by decide) ⟨[], rfl⟩ (by decide)).1

end ThinBasicZmq
