import ThinBasicZmq.Native.Z85Strings

/-!
# Round trips of the Z85 keywords

A script encodes bytes of its memory and decodes the text again, with the keywords that
return and take strings, or with those that fill buffers.
-/

namespace ThinBasicZmq

open Interaction

variable {H : Host} {lib : Library Heap}

/-- `decode` gives back what `encode` made of a positive multiple of four bytes. -/
def Z85.Inverts (z : Z85 lib) : Prop :=
  ∀ b, b ≠ [] → 4 ∣ b.length → z.decode (z.encode b) = (b, true)

/-- The bytes `b` that are encoded, and the text that is handed to the decoder. -/
structure Z85.Encoded (z : Z85 lib) (b : List UInt8) (ptr : CString) : Prop where
  ne_nil : b ≠ []
  four_dvd : 4 ∣ b.length
  points : ∃ after, ptr.mem = z.encode b ++ 0 :: after

namespace Z85.Encoded

variable {z : Z85 lib} {b : List UInt8} {ptr : CString}

lemma text_eq (h : z.Encoded b ptr) : ptr.text = z.encode b := by
  obtain ⟨after, hmem⟩ := h.points
  rw [CString.text, hmem, Memory.text_append_zero (z.zero_notMem_encode b h.four_dvd)]

lemma strlen_eq (h : z.Encoded b ptr) : ptr.strlen = 5 * b.length / 4 := by
  rw [← ptr.length_text, h.text_eq, z.length_encode b h.four_dvd]

lemma length_pos (h : z.Encoded b ptr) : 0 < b.length := List.length_pos_iff.mpr h.ne_nil

/-- Both integer divisions are exact. -/
lemma capacity_eq (h : z.Encoded b ptr) : 4 * ptr.strlen / 5 = b.length := by
  have h4 := h.four_dvd
  rw [h.strlen_eq]
  omega

lemma five_dvd_strlen (h : z.Encoded b ptr) : 5 ∣ ptr.strlen := by
  have h4 := h.four_dvd
  rw [h.strlen_eq]
  omega

lemma strlen_pos (h : z.Encoded b ptr) : 0 < ptr.strlen := by
  have hpos := h.length_pos
  have h4 := h.four_dvd
  rw [h.strlen_eq]
  omega

lemma decode_eq (h : z.Encoded b ptr) (hz : z.Inverts) : z.decode ptr.text = (b, true) := by
  rw [h.text_eq]
  exact hz b h.ne_nil h.four_dvd

end Z85.Encoded

lemma handle_of_handle (h : LONG) : tbHandleFromPtr (tbPtrFromHandle h) = h := by
  simp [tbHandleFromPtr, tbPtrFromHandle]

lemma call_z85DecodeStr_nonpos {s : Session Heap} {ptr : CString}
    (hlen : ptr.strlen < 0x7FFFFFFF) (dest : LONG) {destSize : LONG} (hsize : destSize ≤ 0) :
    H.call lib .zmqZ85DecodeStr [.str (some ptr), .int dest, .int destSize] s = (.long 0, s) := by
  let x : ParsedString := ⟨ptr, hlen⟩
  have hrun : (z85DecodeStrAction x dest destSize).run (H.answer lib) s = (0, s) := by
    unfold z85DecodeStrAction
    rw [if_pos (Or.inr (Or.inl hsize))]
    rfl
  exact Host.call_long .zmqZ85DecodeStr rfl (x, dest, destSize, ()) hrun

/-- A positive `LONG` is a number. -/
lemma exists_ofNat {x : LONG} (hx : ¬ x ≤ 0) : ∃ n : ℕ, n < 2 ^ 31 ∧ x = .ofNat n ∧ x.toInt = n := by
  have hpos := not_nonpos_iff.mp hx
  have hlt := x.toInt_lt
  refine ⟨x.toInt.toNat, by omega, ?_, by omega⟩
  rw [← Int32.toInt_inj, Int32.toInt_ofNat_of_lt (by omega)]
  omega

/-- The decoder is left with what the encoder read, if there is room for it. -/
lemma call_z85DecodeStr_encoded {z : Z85 lib} (hz : z.Inverts) {s : Session Heap} (hs : s.Ready)
    (hhelp : s.Helpers) {b : List UInt8} {ptr : CString} (h : z.Encoded b ptr)
    (hlen : 5 * b.length / 4 < TB_RETURN_STRING_MAX) {dest : LONG} (hdest : dest ≠ 0)
    {destSize : LONG} (hsize : (b.length : ℤ) ≤ destSize.toInt) :
    H.call lib .zmqZ85DecodeStr [.str (some ptr), .int dest, .int destSize] s =
      (.long dest, { s with lib := s.lib.write dest.toUInt32 b }) := by
  have hpos := h.length_pos
  have hsign : ¬ destSize ≤ 0 := not_nonpos_iff.mpr (by omega)
  obtain ⟨n, hn, rfl, hval⟩ := exists_ofNat hsign
  have hgood : ¬ (ptr.text = [] ∨ ¬ 5 ∣ ptr.text.length ∨ dest = 0 ∨
      n < 4 * ptr.text.length / 5) := by
    have hfive := h.five_dvd_strlen
    have hlong := h.strlen_pos
    have hroom := h.capacity_eq
    rw [← List.length_eq_zero_iff, ptr.length_text]
    rintro (hnil | hmod | hnull | hsmall)
    · omega
    · exact hmod hfive
    · exact hdest hnull
    · omega
  rw [call_z85DecodeStr_some z hs hhelp (by rwa [h.strlen_eq]) dest hn, Z85.stored, if_neg hgood,
    h.decode_eq hz]
  change (Value.long (tbHandleFromPtr (tbPtrFromHandle dest)), _) = _
  rw [handle_of_handle]
  rfl

lemma call_z85DecodeStr_small {z : Z85 lib} {s : Session Heap} (hs : s.Ready)
    (hhelp : s.Helpers) {b : List UInt8} {ptr : CString} (h : z.Encoded b ptr)
    (hlen : 5 * b.length / 4 < TB_RETURN_STRING_MAX) (dest : LONG) {destSize : LONG}
    (hsize : destSize.toInt < b.length) :
    H.call lib .zmqZ85DecodeStr [.str (some ptr), .int dest, .int destSize] s = (.long 0, s) := by
  have hstrlen : ptr.strlen < TB_RETURN_STRING_MAX := by rwa [h.strlen_eq]
  by_cases hsign : destSize ≤ 0
  · exact call_z85DecodeStr_nonpos (hstrlen.trans (by decide)) dest hsign
  · obtain ⟨n, hn, rfl, hval⟩ := exists_ofNat hsign
    have hbad : n < 4 * ptr.text.length / 5 := by
      rw [ptr.length_text, h.capacity_eq]
      omega
    rw [call_z85DecodeStr_some z hs hhelp hstrlen dest hn, Z85.stored,
      if_pos (Or.inr (Or.inr (Or.inr hbad)))]

/-- Every buffer whose text fits the returned string comes back, in front of any destination
that has room for it, and a destination that has less is left alone. -/
theorem z85Strings_roundTrip (H : Host) (lib : Library Heap) (z : Z85 lib) (hz : z.Inverts)
    (s : Session Heap) (hs : s.Ready) (hhelp : s.Helpers) (data : LONG) (hdata : data ≠ 0) (n : ℕ)
    (hpos : 0 < n) (h4 : 4 ∣ n) (hmax : 5 * n / 4 < TB_RETURN_STRING_MAX) : ∃ e,
      H.call lib .zmqZ85EncodeStr [.int data, .int (.ofNat n)] s = (.bstr (some e), s) ∧
      e.length = 5 * n / 4 ∧
      ∀ s' : Session Heap, s'.Ready → s'.Helpers → ∀ m : ScriptString, m.bytes = e →
        ∀ dest destSize : LONG,
          (dest ≠ 0 → (n : ℤ) ≤ destSize.toInt →
            H.call lib .zmqZ85DecodeStr [.str (some m.ptr), .int dest, .int destSize] s' =
              (.long dest, { s' with
                lib := s'.lib.write dest.toUInt32 (s.lib.read data.toUInt32 n) })) ∧
          (destSize.toInt < n →
            H.call lib .zmqZ85DecodeStr [.str (some m.ptr), .int dest, .int destSize] s' =
              (.long 0, s')) := by
  have hlen : (s.lib.read data.toUInt32 n).length = n := Memory.Flat.length_read _ _ _
  have htext : z.text s.lib data n = z.encode (s.lib.read data.toUInt32 n) :=
    if_pos ⟨hpos.ne', h4⟩
  refine ⟨z.encode (s.lib.read data.toUInt32 n), ?_, z.length_encode_read s.lib _ h4, ?_⟩
  · rw [call_z85EncodeStr z hs hhelp hdata hmax, htext]
  · intro s' hs' hhelp' m hm dest destSize
    have henc : z.Encoded (s.lib.read data.toUInt32 n) m.ptr := by
      refine ⟨?_, by rwa [hlen], ?_⟩
      · rw [← List.length_pos_iff, hlen]
        exact hpos
      · rw [← hm]
        exact m.points
    have hfits : 5 * (s.lib.read data.toUInt32 n).length / 4 < TB_RETURN_STRING_MAX := by
      rwa [hlen]
    constructor
    · intro hdest hsize
      apply call_z85DecodeStr_encoded hz hs' hhelp' henc hfits hdest
      rwa [hlen]
    · intro hsize
      apply call_z85DecodeStr_small hs' hhelp' henc hfits dest
      rwa [hlen]

lemma z85Functions_inverts : z85Functions.Inverts := fun _ => Base85.decode_encode

/-- The largest buffer, at address 64, and the string decoded to address 8192. -/
theorem z85Strings_roundTrip_largest : ∃ e,
    Host.bare.call z85Library .zmqZ85EncodeStr [.int 64, .int (.ofNat 3276)]
      (Session.resolved fun _ => 7) = (.bstr (some e), Session.resolved fun _ => 7) ∧
    e.length = 4095 ∧
    (Host.bare.call z85Library .zmqZ85DecodeStr
      [.str (some (.ofBytes e)), .int 8192, .int 3276] (Session.resolved fun _ => 7)).1 =
        .long 8192 := by
  obtain ⟨e, hencode, hlen, hdecode⟩ := z85Strings_roundTrip Host.bare z85Library z85Functions
    z85Functions_inverts (Session.resolved fun _ => 7) (Session.ready_resolved _)
    (Session.helpers_resolved _) 64 (by decide) 3276 (by decide) (by decide) (by decide)
  have hcall := (hdecode (Session.resolved fun _ => 7) (Session.ready_resolved _)
    (Session.helpers_resolved _) (.ofBytes e) rfl 8192 3276).1 (by decide) (by decide)
  exact ⟨e, hencode, hlen, congrArg Prod.fst hcall⟩

lemma call_z85Encode (z : Z85 lib) {s : Session Heap} (hs : s.Ready) (hhelp : s.Helpers)
    {dest data : LONG} (hdest : dest ≠ 0) (hdata : data ≠ 0) {n : ℕ} (hpos : 0 < n) (h4 : 4 ∣ n)
    (hmax : n < 2 ^ 31) (hapart : Apart dest.toUInt32 (5 * n / 4 + 1) data.toUInt32 n) :
    H.call lib .zmqZ85Encode [.int dest, .int data, .int (.ofNat n)] s =
      (.long dest, { s with
        lib := s.lib.write dest.toUInt32 (z.encode (s.lib.read data.toUInt32 n) ++ [0]) }) := by
  have hsize : (Int32.ofNat n).toUInt32.toNat = n := toNat_ofNat_size (by omega)
  have hgood : ¬ (dest = 0 ∨ data = 0 ∨ Int32.ofNat n ≤ 0 ∨ Int32.ofNat n &&& 3 ≠ 0) := by
    rw [ofNat_le_zero_iff hmax, ne_eq, int32_and_three, hsize]
    rintro (hnull | hnull | hzero | hmod)
    · exact hdest hnull
    · exact hdata hnull
    · omega
    · exact hmod h4
  have hlib := z.encode_heap s.lib (tbPtrFromHandle dest) data.toUInt32 (Int32.ofNat n).toUInt32
    (handle_ne_zero hdest) (by rwa [hsize]) (by rwa [hsize])
  have hapi : (zmqApiZ85Encode (.addr (tbPtrFromHandle dest)) (.addr (tbPtrFromHandle data))
      (Int32.ofNat n).toUInt32).run (H.answer lib) s = _ :=
    run_zmqApiZ85Encode hs hhelp (isNull_handle hdest) hdata hlib
  have hrun : (z85EncodeAction dest data (.ofNat n)).run (H.answer lib) s =
      (dest, { s with
        lib := s.lib.write dest.toUInt32 (z.encode (s.lib.read data.toUInt32 n) ++ [0]) }) := by
    unfold z85EncodeAction
    rw [if_neg hgood, Prog.run_bind, hapi, hsize]
    change (tbHandleFromPtr (tbPtrFromHandle dest), _) = _
    rw [handle_of_handle]
    rfl
  exact Host.call_long .zmqZ85Encode rfl (dest, data, .ofNat n, ()) hrun

lemma call_z85Decode_encoded {z : Z85 lib} (hz : z.Inverts) {s : Session Heap} (hs : s.Ready)
    (hhelp : s.Helpers) {b : List UInt8} {ptr : CString} (h : z.Encoded b ptr)
    (hshort : 5 * b.length / 4 < 256) {out : LONG} (hout : out ≠ 0) :
    H.call lib .zmqZ85Decode [.int out, .str (some ptr)] s =
      (.long out, { s with lib := s.lib.write out.toUInt32 b }) := by
  have hstrlen : ptr.strlen < 256 := by rwa [h.strlen_eq]
  let x : ParsedString := ⟨ptr, hstrlen.trans (by decide)⟩
  have hgood : ¬ (out = 0 ∨ x.len = 0 ∨ x.len % 5 ≠ 0 ∨ x.len.toNat ≥ 256) := by
    have hlong := h.strlen_pos
    have hfive := h.five_dvd_strlen
    have hlen : x.len.toNat = ptr.strlen := x.toNat_len
    rw [← UInt32.toNat_inj, ne_eq, ← UInt32.toNat_inj, UInt32.toNat_mod, hlen]
    change ¬ (out = 0 ∨ ptr.strlen = 0 ∨ ¬ ptr.strlen % 5 = 0 ∨ ptr.strlen ≥ 256)
    rintro (hnull | hzero | hmod | hover)
    · exact hout hnull
    · omega
    · omega
    · omega
  have hrun : (z85DecodeAction out x).run (H.answer lib) s =
      (out, { s with lib := s.lib.write out.toUInt32 b }) := by
    unfold z85DecodeAction
    rw [if_neg hgood, Prog.run_bind, Host.run_copyString hstrlen, Prog.run_bind,
      run_zmqApiZ85Decode z hs hhelp hout ptr.zero_notMem_text, h.decode_eq hz]
    change (tbHandleFromPtr (tbPtrFromHandle out), _) = _
    rw [handle_of_handle]
    rfl
  exact Host.call_long .zmqZ85Decode rfl (out, x, ()) hrun

/-- The decoder copies the text to a buffer of 256 bytes first. -/
lemma call_z85Decode_long {ptr : CString} (hlong : 256 ≤ ptr.strlen) (out : LONG)
    (s : Session Heap) :
    (H.call lib .zmqZ85Decode [.int out, .str (some ptr)] s).1 = .long 0 := by
  by_cases hparsed : ptr.strlen < 0x7FFFFFFF
  · let x : ParsedString := ⟨ptr, hparsed⟩
    have hover : x.len.toNat ≥ 256 := by
      rw [x.toNat_len]
      exact hlong
    have hrun : (z85DecodeAction out x).run (H.answer lib) s = (0, s) := by
      unfold z85DecodeAction
      rw [if_pos (Or.inr (Or.inr (Or.inr hover)))]
      rfl
    exact congrArg Prod.fst (Host.call_long .zmqZ85Decode rfl (out, x, ()) hrun)
  · obtain ⟨ts, hts⟩ := @Host.run_transact_refused _ _ H lib [.int] []
      Keyword.zmqZ85Decode.body.failure Keyword.zmqZ85Decode.body.action (out, ()) (some ptr)
      (Nat.not_lt.mp hparsed) [] s
    rw [Host.call, Keyword.exec_eq_transact]
    exact congrArg Prod.fst hts

/-- `ZmqZ85Decode` takes the text that `ZmqZ85Encode` stored at `dest`, and stores the bytes
that it was made of in front of any pointer. -/
def Host.Z85BuffersRoundTrip (H : Host) (lib : Library Heap) (s : Session Heap)
    (dest data : LONG) (n : ℕ) : Prop :=
  ∀ s', H.call lib .zmqZ85Encode [.int dest, .int data, .int (.ofNat n)] s = (.long dest, s') →
    ∀ m : ScriptString, m.bytes = s'.lib.read dest.toUInt32 (5 * n / 4) → ∀ out : LONG, out ≠ 0 →
      H.call lib .zmqZ85Decode [.int out, .str (some m.ptr)] s' =
        (.long out, { s' with lib := s'.lib.write out.toUInt32 (s.lib.read data.toUInt32 n) })

section Buffers

variable {z : Z85 lib} {s : Session Heap} {dest data : LONG} {n : ℕ}

/-- The bytes and the text of a string that was read from the encoder's buffer. -/
private lemma encoded_of_read (hpos : 0 < n) (h4 : 4 ∣ n) (hmax : n < 2 ^ 31) {m : ScriptString}
    (hm : m.bytes = (s.lib.write dest.toUInt32
      (z.encode (s.lib.read data.toUInt32 n) ++ [0])).read dest.toUInt32 (5 * n / 4)) :
    z.Encoded (s.lib.read data.toUInt32 n) m.ptr := by
  have hlen : (s.lib.read data.toUInt32 n).length = n := Memory.Flat.length_read _ _ _
  have hread : (s.lib.write dest.toUInt32 (z.encode (s.lib.read data.toUInt32 n) ++ [0])).read
      dest.toUInt32 (5 * n / 4) = z.encode (s.lib.read data.toUInt32 n) := by
    rw [← z.length_encode_read s.lib data.toUInt32 h4]
    apply Memory.Flat.read_write
    rw [z.length_encode_read s.lib data.toUInt32 h4]
    omega
  refine ⟨?_, by rwa [hlen], ?_⟩
  · rw [← List.length_pos_iff, hlen]
    exact hpos
  · rw [← hread, ← hm]
    exact m.points

lemma z85BuffersRoundTrip_short (hz : z.Inverts) (hs : s.Ready) (hhelp : s.Helpers)
    (hdest : dest ≠ 0) (hdata : data ≠ 0) (hpos : 0 < n) (h4 : 4 ∣ n) (hmax : n < 2 ^ 31)
    (hapart : Apart dest.toUInt32 (5 * n / 4 + 1) data.toUInt32 n) (hshort : 5 * n / 4 < 256) :
    H.Z85BuffersRoundTrip lib s dest data n := by
  intro s' hencode m hm out hout
  rw [call_z85Encode z hs hhelp hdest hdata hpos h4 hmax hapart] at hencode
  have hs' := (Prod.mk.inj hencode).2
  have hready : s'.Ready := by
    rw [← hs']
    exact hs.withLib _
  have hhelp' : s'.Helpers := by
    rw [← hs']
    exact hhelp
  rw [← hs'] at hm
  apply call_z85Decode_encoded hz hready hhelp' (encoded_of_read hpos h4 hmax hm) _ hout
  rwa [Memory.Flat.length_read]

lemma not_z85BuffersRoundTrip_long (z : Z85 lib) (hs : s.Ready) (hhelp : s.Helpers)
    (hdest : dest ≠ 0) (hdata : data ≠ 0) (hpos : 0 < n) (h4 : 4 ∣ n) (hmax : n < 2 ^ 31)
    (hapart : Apart dest.toUInt32 (5 * n / 4 + 1) data.toUInt32 n) (hlong : 256 ≤ 5 * n / 4) :
    ¬ H.Z85BuffersRoundTrip lib s dest data n := by
  intro h
  have hencode := @call_z85Encode H lib z s hs hhelp dest data hdest hdata n hpos h4 hmax hapart
  let m := ScriptString.ofBytes ((s.lib.write dest.toUInt32
    (z.encode (s.lib.read data.toUInt32 n) ++ [0])).read dest.toUInt32 (5 * n / 4))
  have hstrlen : 256 ≤ m.ptr.strlen := by
    have henc : z.Encoded (s.lib.read data.toUInt32 n) m.ptr := encoded_of_read hpos h4 hmax rfl
    rwa [henc.strlen_eq, Memory.Flat.length_read]
  have hcall := congrArg Prod.fst (h _ hencode m rfl 1 (by decide))
  rw [call_z85Decode_long hstrlen] at hcall
  simp at hcall

end Buffers

/-- The round trip fails from 256 characters on. The encoder knows no such limit. -/
theorem z85Buffers_roundTrip_iff (H : Host) (lib : Library Heap) (z : Z85 lib) (hz : z.Inverts)
    (s : Session Heap) (hs : s.Ready) (hhelp : s.Helpers) (dest data : LONG) (hdest : dest ≠ 0)
    (hdata : data ≠ 0) (n : ℕ) (hpos : 0 < n) (h4 : 4 ∣ n) (hmax : n < 2 ^ 31)
    (hapart : Apart dest.toUInt32 (5 * n / 4 + 1) data.toUInt32 n) :
    H.Z85BuffersRoundTrip lib s dest data n ↔ 5 * n / 4 < 256 := by
  constructor
  · intro h
    by_contra hover
    exact not_z85BuffersRoundTrip_long z hs hhelp hdest hdata hpos h4 hmax hapart
      (Nat.not_lt.mp hover) h
  · intro hshort
    exact z85BuffersRoundTrip_short hz hs hhelp hdest hdata hpos h4 hmax hapart hshort

lemma apart_of_le {p q : Ptr} {m n : ℕ} (hpq : q.toNat + n ≤ p.toNat) (hm : p.toNat + m ≤ 2 ^ 32) :
    Apart p m q n := by
  intro i hi j hj he
  have hnat := congrArg UInt32.toNat he
  rw [UInt32.toNat_add, UInt32.toNat_add, UInt32.toNat_ofNat_of_lt' (by rw [UInt32.size]; omega),
    UInt32.toNat_ofNat_of_lt' (by rw [UInt32.size]; omega)] at hnat
  omega

/-- 204 bytes are the most that come back. -/
theorem z85Buffers_roundTrip_iff_largest :
    Host.bare.Z85BuffersRoundTrip z85Library (Session.resolved fun _ => 7) 4096 64 204 ↔
      5 * 204 / 4 < 256 :=
  z85Buffers_roundTrip_iff Host.bare z85Library z85Functions z85Functions_inverts
    (Session.resolved fun _ => 7) (Session.ready_resolved _)
    (Session.helpers_resolved _) 4096 64 (by decide) (by decide) 204 (by decide)
    (by decide) (by decide) (apart_of_le (by decide) (by decide))

/-- The 260 characters of 208 bytes are stored, and not taken back. -/
theorem z85Buffers_refuse_260_characters :
    (Host.bare.call z85Library .zmqZ85Encode [.int 4096, .int 64, .int (.ofNat 208)]
      (Session.resolved fun _ => 7)).1 = .long 4096 ∧
    ¬ Host.bare.Z85BuffersRoundTrip z85Library (Session.resolved fun _ => 7) 4096 64 208 := by
  have hapart : Apart (4096 : LONG).toUInt32 (5 * 208 / 4 + 1) (64 : LONG).toUInt32 208 :=
    apart_of_le (by decide) (by decide)
  have hready := Session.ready_resolved fun _ : UInt32 => (7 : UInt8)
  have hhelp := Session.helpers_resolved fun _ : UInt32 => (7 : UInt8)
  constructor
  · rw [call_z85Encode z85Functions hready hhelp (by decide) (by decide) (by decide) (by decide)
      (by decide) hapart]
  · exact not_z85BuffersRoundTrip_long z85Functions hready hhelp (by decide) (by decide)
      (by decide) (by decide) (by decide) hapart (by decide)

end ThinBasicZmq
