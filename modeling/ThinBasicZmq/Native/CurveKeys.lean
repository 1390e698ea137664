import ThinBasicZmq.Codec.Base85
import ThinBasicZmq.Keywords.StrictTransaction
import ThinBasicZmq.Native.Interpreter

/-!
# Public keys of both implementations

`ZmqCurvePublicStr` of the SDK refuses a secret that does not have 40 characters. The one of
`Security.inc` hands every secret to `zmq_curve_public`, which decodes it into 32 bytes.
-/

namespace ThinBasicZmq

open Interaction

/-- A `zmq_curve_public` gets a secret of 40 characters. -/
def ZmqCall.KeySized : ZmqCall → Prop
  | .curvePublic _ secret => secret.cstring.map List.length = some ZMQ_CURVE_KEYSIZE_Z85
  | _ => True

/-- `zmq_curve_public` of a library: which secrets `zmq_z85_decode` accepts, and the public key
of a secret. -/
structure CurvePublic (lib : Library Heap) where
  accepts : List UInt8 → Bool
  key : List UInt8 → List UInt8
  length_key : ∀ t, (key t).length = ZMQ_CURVE_KEYSIZE_Z85
  zero_notMem_key : ∀ t, 0 ∉ key t
  accepted_local : ∀ mem cells secret t, ZMQ_CURVE_KEYSIZE_Z85 < cells.length →
    secret.cstring = some t → accepts t = true →
    lib (.curvePublic (.arr cells) secret) mem = ((0, key t ++ [0]), mem)
  accepted_heap : ∀ mem p secret t, p ≠ 0 → secret.cstring = some t → accepts t = true →
    lib (.curvePublic (.addr p) secret) mem = ((0, key t ++ [0]), mem.write p (key t ++ [0]))
  refused : ∀ mem z85Public secret t, secret.cstring = some t → accepts t = false →
    lib (.curvePublic z85Public secret) mem = ((-1, []), mem)

variable {H : Host} {lib : Library Heap}

/-- The key of an accepted secret, and the empty string for another one. -/
def CurvePublic.text (k : CurvePublic lib) (t : List UInt8) : List UInt8 :=
  if k.accepts t then k.key t else []

/-- Requests with key-sized secrets. -/
private def KeySizedReq : Req → Prop
  | .zmq _ c => c.KeySized
  | _ => True

private lemma keySizedReq_of_local {r : Req} (h : IsLocal r) : KeySizedReq r := by
  cases r <;> trivial

private lemma cstring_secretCopy (secret : ParsedString) :
    Ref.cstring (.arr (terminated (ZMQ_CURVE_KEYSIZE_Z85 + 1) secret.ptr.text)) =
      some secret.ptr.text := cstring?_terminated secret.ptr.zero_notMem_text _

private lemma curvePublicStrAction_keySized (secret : ParsedString) :
    (curvePublicStrAction secret).Only KeySizedReq := by
  have hresult {p : Sdk Bstr} (hp : p.Only IsResult) : p.Only KeySizedReq :=
    hp.mono fun _ hr => keySizedReq_of_local hr.isLocal
  unfold curvePublicStrAction
  by_cases hlen : secret.len.toNat ≠ ZMQ_CURVE_KEYSIZE_Z85
  · rw [if_pos hlen]
    exact hresult tbReturnEmpty_result
  · have hstrlen : secret.ptr.strlen = ZMQ_CURVE_KEYSIZE_Z85 := by
      rw [← secret.toNat_len]
      exact not_not.mp hlen
    rw [if_neg hlen]
    apply (copyString_settles (hstrlen.trans_lt (by decide))).bind_only
    · intro r hr
      exact keySizedReq_of_local hr.isLocal
    apply (store_only (fun _ _ _ => trivial) _ _ _).bind
    intro publicBuf
    apply Prog.Only.bind
    · refine ⟨trivial, fun _ => ⟨trivial, fun g => .ite trivial ⟨?_, fun _ => trivial⟩⟩⟩
      change (Ref.cstring _).map List.length = _
      rw [cstring_secretCopy, Option.map_some, CString.length_text, hstrlen]
    · intro a
      apply Prog.Only.ite (hresult tbReturnEmpty_result)
      apply (store_only (fun _ _ _ => trivial) _ _ _).bind
      intro buf
      exact hresult (tbReturnString_result _)

/-- Whatever the environment does, the SDK hands over secrets of 40 characters only. -/
theorem exec_curvePublicStr_keySized {tr : List Ev} {v : Value}
    (h : Keyword.zmqCurvePublicStr.exec.Trace tr v) :
    ∀ e ∈ tr, ∀ fn c, e.request = .zmq fn c → c.KeySized := by
  have hparsing : ∀ r, IsParsing r → KeySizedReq r := by
    intro r hr
    cases r <;> trivial
  have honly : ∀ e ∈ tr, KeySizedReq e.request := by
    apply exec_only hparsing _ _ h
    · intro r hr
      exact keySizedReq_of_local hr.isLocal
    · intro args
      exact (curvePublicStrAction_keySized args.1).bind fun _ => trivial
  intro e he fn c hc
  have := honly e he
  rwa [hc] at this

/-- A secret of 40 characters gets the answer of libzmq. -/
lemma run_curvePublicStrAction (k : CurvePublic lib) {s : Session Heap} (hs : s.Ready)
    (hhelp : s.Helpers) {secret : ParsedString}
    (hlen : secret.ptr.strlen = ZMQ_CURVE_KEYSIZE_Z85) :
    (curvePublicStrAction secret).run (H.answer lib) s = (some (k.text secret.ptr.text), s) := by
  have hcopy : (copyString (ZMQ_CURVE_KEYSIZE_Z85 + 1) secret).run (H.answer lib) s =
      (terminated (ZMQ_CURVE_KEYSIZE_Z85 + 1) secret.ptr.text, s) :=
    Host.run_copyString (hlen.trans_lt (by decide)) s
  have hstring := cstring_secretCopy secret
  generalize terminated (ZMQ_CURVE_KEYSIZE_Z85 + 1) secret.ptr.text = secretCopy at hcopy hstring
  have hstore : (store (localArray (ZMQ_CURVE_KEYSIZE_Z85 + 1)) 0 [0]).run (H.answer lib) s =
      (Memory.put (localArray (ZMQ_CURVE_KEYSIZE_Z85 + 1)) 0 [0], s) := rfl
  have hcells : (Memory.put (localArray (ZMQ_CURVE_KEYSIZE_Z85 + 1)) 0 [0]).length =
      ZMQ_CURVE_KEYSIZE_Z85 + 1 := by
    rw [Memory.length_put, length_localArray]
  generalize Memory.put (localArray (ZMQ_CURVE_KEYSIZE_Z85 + 1)) 0 [0] = publicBuf at hstore hcells
  have hapi {a : LONG × List UInt8} (ha : lib (.curvePublic (.arr publicBuf) (.arr secretCopy))
      s.lib = (a, s.lib)) :
      (zmqApiCurvePublic (.arr publicBuf) (.arr secretCopy)).run (H.answer lib) s = (a, s) :=
    Host.run_zmqApiOptional hs.loaded (hhelp.fn (by simp [zmqOptionalSymbols, ZmqCall.symbol]))
      rfl ha
  have hnot : ¬ secret.len.toNat ≠ ZMQ_CURVE_KEYSIZE_Z85 := by
    rw [secret.toNat_len, hlen, not_not]
  unfold curvePublicStrAction CurvePublic.text
  rw [if_neg hnot, Prog.run_bind, hcopy, Prog.run_bind, hstore, Prog.run_bind]
  cases haccepts : k.accepts secret.ptr.text with
  | false =>
    rw [hapi (k.refused s.lib _ _ _ hstring haccepts)]
    exact Host.run_tbReturnEmpty hs.alloc
  | true =>
    rw [hapi (k.accepted_local s.lib _ _ _ (by omega) hstring haccepts), if_pos rfl]
    have hput : Memory.put publicBuf 0 (k.key secret.ptr.text ++ [0]) =
        (k.key secret.ptr.text).map some ++ some 0 :: [] := by
      have hfull : (k.key secret.ptr.text ++ [0]).length = publicBuf.length := by
        rw [List.length_append, k.length_key, hcells, List.length_singleton]
      rw [Memory.put_zero hfull.le, hfull, List.drop_length, List.append_nil, List.map_append]
      rfl
    have hagain : Memory.put (Memory.put publicBuf 0 (k.key secret.ptr.text ++ [0]))
        ZMQ_CURVE_KEYSIZE_Z85 [0] = (k.key secret.ptr.text).map some ++ some 0 :: [] := by
      rw [hput, Memory.put_append_cons _ _ _ _ _ (by rw [List.length_map, k.length_key])]
    change (tbReturnString (some (Memory.put (Memory.put publicBuf 0 (k.key secret.ptr.text ++ [0]))
      ZMQ_CURVE_KEYSIZE_Z85 [0]))).run (H.answer lib) s = _
    rw [hagain]
    exact Host.run_tbReturnString hs.alloc [] (k.zero_notMem_key _)
      (by rw [k.length_key]; decide)

lemma native_curvePublicStr (k : CurvePublic lib) {heap : DWORD → Ptr}
    (hheap : heap (.ofNat (ZMQ_CURVE_KEYSIZE_Z85 + 1)) ≠ 0) (mem : Heap) {t : List UInt8}
    (h0 : 0 ∉ t) :
    ((Native.zmqCurvePublicStr t).run (Native.answer lib heap) mem).1 = k.text t := by
  have hstring : Ref.cstring (.str (.ofBytes t)) = some t := congrArg some (CString.text_ofBytes h0)
  unfold Native.zmqCurvePublicStr CurvePublic.text
  refine (congrArg (fun p : Native (List UInt8) => (p.run (Native.answer lib heap) mem).1)
    (if_pos hheap)).trans ?_
  cases haccepts : k.accepts t with
  | false =>
    have hlib : Native.answer lib heap (.zmq (.curvePublic
        (.addr (heap (.ofNat (ZMQ_CURVE_KEYSIZE_Z85 + 1)))) (.str (.ofBytes t)))) mem = _ :=
      k.refused mem _ _ t hstring haccepts
    exact congrArg Prod.fst (Prog.run_ask_of _ hlib)
  | true =>
    have hlib : Native.answer lib heap (.zmq (.curvePublic
        (.addr (heap (.ofNat (ZMQ_CURVE_KEYSIZE_Z85 + 1)))) (.str (.ofBytes t)))) mem = _ :=
      k.accepted_heap mem _ _ t hheap hstring haccepts
    refine (congrArg Prod.fst (Prog.run_ask_of _ hlib)).trans ?_
    have hkey : (k.key t).length < 2 ^ 32 := by
      rw [k.length_key]
      decide
    exact Memory.Flat.string_write mem _ (k.zero_notMem_key t) hkey hkey

/-- Whatever its length is, the secret is handed to `zmq_curve_public`. -/
lemma native_curvePublicStr_keySized {heap : DWORD → Ptr}
    (hheap : heap (.ofNat (ZMQ_CURVE_KEYSIZE_Z85 + 1)) ≠ 0) (mem : Heap) {t : List UInt8}
    (h0 : 0 ∉ t) :
    (∀ e ∈ (Native.zmqCurvePublicStr t).events (Native.answer lib heap) mem,
      ∀ c, e.request = .zmq c → c.KeySized) ↔ t.length = ZMQ_CURVE_KEYSIZE_Z85 := by
  have hstring : Ref.cstring (.str (.ofBytes t)) = some t := congrArg some (CString.text_ofBytes h0)
  have hsized (p : Ref) : (ZmqCall.curvePublic p (.str (.ofBytes t))).KeySized ↔
      t.length = ZMQ_CURVE_KEYSIZE_Z85 := by
    rw [ZmqCall.KeySized, hstring, Option.map_some, Option.some.injEq]
  constructor
  · intro h
    obtain ⟨e₁, x, rest, hevents⟩ : ∃ e₁ x rest,
        (Native.zmqCurvePublicStr t).events (Native.answer lib heap) mem = e₁ ::
          ⟨.zmq (.curvePublic (.addr (heap (.ofNat (ZMQ_CURVE_KEYSIZE_Z85 + 1))))
            (.str (.ofBytes t))), x⟩ :: rest :=
      ⟨_, _, _, congrArg (fun p : Native (List UInt8) => _ :: p.events (Native.answer lib heap) mem)
        (if_pos hheap)⟩
    rw [hevents] at h
    exact (hsized _).mp (h _ (List.mem_cons_of_mem _ List.mem_cons_self) _ rfl)
  · intro hlen
    have honly : (Native.zmqCurvePublicStr t).Only fun r => ∀ c, r = .zmq c → c.KeySized := by
      refine ⟨by simp, fun hPublic => .ite ⟨?_, fun a => ?_⟩ trivial⟩
      · rintro c ⟨rfl⟩
        exact (hsized _).mpr hlen
      · exact .ite ⟨by simp, fun _ => ⟨by simp, fun _ => trivial⟩⟩ ⟨by simp, fun _ => trivial⟩
    exact honly.trace (Prog.trace_events _ _ _)

/-- Both versions return the same string for `t`, and neither hands over a secret that does not
have 40 characters. -/
structure CurvePublicAgrees (H : Host) (lib : Library Heap) (heap : DWORD → Ptr)
    (s : Session Heap) (t : List UInt8) (p : Option CString) : Prop where
  same : ∃ b, (H.call lib .zmqCurvePublicStr [.str p] s).1 = .bstr b ∧
    b.chars = ((Native.zmqCurvePublicStr t).run (Native.answer lib heap) s.lib).1
  sdk : ∀ e ∈ H.callEvents lib .zmqCurvePublicStr [.str p] s,
    ∀ fn c, e.request = .zmq fn c → c.KeySized
  native : ∀ e ∈ (Native.zmqCurvePublicStr t).events (Native.answer lib heap) s.lib,
    ∀ c, e.request = .zmq c → c.KeySized

/-- The versions agree on secrets of 40 characters, and only on these. -/
theorem curvePublicStr_agrees_iff (H : Host) (lib : Library Heap) (k : CurvePublic lib)
    (heap : DWORD → Ptr) (hheap : heap (.ofNat (ZMQ_CURVE_KEYSIZE_Z85 + 1)) ≠ 0)
    (s : Session Heap) (hs : s.Ready) (hhelp : s.Helpers) (t : List UInt8) (h0 : 0 ∉ t)
    (p : Option CString) (hp : Designates t p) :
    CurvePublicAgrees H lib heap s t p ↔ t.length = ZMQ_CURVE_KEYSIZE_Z85 := by
  have hnative := @native_curvePublicStr_keySized lib heap hheap s.lib t h0
  constructor
  · intro h
    exact hnative.mp h.native
  · intro hlen
    refine ⟨?_, exec_curvePublicStr_keySized (Prog.trace_events _ _ _), hnative.mpr hlen⟩
    cases p with
    | none =>
      obtain rfl : t = [] := hp
      exact absurd hlen (by decide)
    | some ptr =>
      have htext := hp.text_eq h0
      have hstrlen : ptr.strlen = ZMQ_CURVE_KEYSIZE_Z85 := by rw [← ptr.length_text, htext, hlen]
      let secret : ParsedString := ⟨ptr, hstrlen.trans_lt (by decide)⟩
      have hcall : H.call lib .zmqCurvePublicStr [.str (some ptr)] s =
          (.bstr (some (k.text ptr.text)), s) :=
        Host.call_bstr .zmqCurvePublicStr rfl (secret, ())
          (run_curvePublicStrAction k hs hhelp hstrlen)
      refine ⟨some (k.text ptr.text), ?_, ?_⟩
      · rw [hcall]
      · rw [native_curvePublicStr k hheap s.lib h0, htext]
        rfl

/-- A `libzmq.dll` of which only `zmq_curve_public` is used. Its keys are no Curve25519 keys. -/
def curveLibrary : Library Heap
  | .curvePublic z85Public secret, mem =>
    match secret.cstring with
    | some t =>
      if (Base85.decode t).2 then
        let key := Base85.encode (((Base85.decode t).1 ++ List.replicate 32 0).take 32)
        match z85Public with
        | .addr p => ((0, key ++ [0]), mem.write p (key ++ [0]))
        | _ => ((0, key ++ [0]), mem)
      else ((-1, []), mem)
    | none => ((-1, []), mem)
  | c, mem => (c.failed, mem)

def curveFunction : CurvePublic curveLibrary where
  accepts t := (Base85.decode t).2
  key t := Base85.encode (((Base85.decode t).1 ++ List.replicate 32 0).take 32)
  length_key := by
    intro t
    have hlen : (((Base85.decode t).1 ++ List.replicate 32 0).take 32).length = 32 := by simp
    rw [Base85.length_encode (by rw [hlen]; decide), hlen]
    rfl
  zero_notMem_key _ := Base85.zero_notMem_encode _
  accepted_local := by
    intro mem cells secret t _ ht haccepts
    simp only [curveLibrary, ht, haccepts, if_true]
  accepted_heap := by
    intro mem p secret t _ ht haccepts
    simp only [curveLibrary, ht, haccepts, if_true]
  refused := by
    intro mem z85Public secret t ht haccepts
    simp only [curveLibrary, ht, haccepts, Bool.false_eq_true, if_false]

/-- A secret of five characters. -/
theorem curvePublicStr_agrees_iff_five :
    CurvePublicAgrees Host.bare curveLibrary (fun _ => 4096) (Session.resolved fun _ => 0)
        [72, 101, 108, 108, 111] (some (.ofBytes [72, 101, 108, 108, 111])) ↔
      [72, 101, 108, 108, 111].length = ZMQ_CURVE_KEYSIZE_Z85 :=
  curvePublicStr_agrees_iff Host.bare curveLibrary curveFunction (fun _ => 4096) (by decide)
    (Session.resolved fun _ => 0) (Session.ready_resolved _) (Session.helpers_resolved _)
    [72, 101, 108, 108, 111] (by decide) (some (.ofBytes [72, 101, 108, 108, 111])) ⟨[], rfl⟩

/-- For the valid Z85 text `Hello` the native function returns a key, the SDK an empty string. -/
theorem curvePublicStr_five_characters : ¬ ∀ (H : Host) (lib : Library Heap), CurvePublic lib →
    ∀ (heap : DWORD → Ptr) (s : Session Heap) (t : List UInt8) (p : Option CString),
      heap (.ofNat (ZMQ_CURVE_KEYSIZE_Z85 + 1)) ≠ 0 → s.Ready → s.Helpers → 0 ∉ t →
      Designates t p → ∃ b, (H.call lib .zmqCurvePublicStr [.str p] s).1 = .bstr b ∧
        b.chars = ((Native.zmqCurvePublicStr t).run (Native.answer lib heap) s.lib).1 := by
  intro h
  let t : List UInt8 := [72, 101, 108, 108, 111]
  let s : Session Heap := Session.resolved fun _ => 0
  obtain ⟨b, hb, hsame⟩ := h Host.bare curveLibrary curveFunction (fun _ => 4096) s t
    (some (.ofBytes t)) (by decide) (Session.ready_resolved _)
    (fun _ _ => by simp [s, Session.resolved]) (by decide) ⟨[], rfl⟩
  have hsdk : (Host.bare.call curveLibrary .zmqCurvePublicStr [.str (some (.ofBytes t))] s).1 =
      .bstr (some []) := rfl
  have hempty : b.chars = [] := by
    rw [hsdk] at hb
    rw [← Value.bstr.inj hb]
    rfl
  have hkey := @native_curvePublicStr _ curveFunction (fun _ => 4096) (by decide) s.lib t (by decide)
  have haccepts : curveFunction.accepts t = true := by decide
  rw [CurvePublic.text, if_pos haccepts] at hkey
  rw [hempty, hkey] at hsame
  have := congrArg List.length hsame
  rw [curveFunction.length_key] at this
  exact absurd this (by decide)

end ThinBasicZmq
