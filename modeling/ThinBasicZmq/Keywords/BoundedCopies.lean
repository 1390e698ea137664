import ThinBasicZmq.Keywords.StrictTransaction

/-!
# Bounded copies

Ten keywords copy their string parameter into a local array before they hand it to libzmq.
The copy stays inside the array and is complete, or nothing is copied and libzmq is not
called.
-/

namespace ThinBasicZmq

open Interaction

/-- The local array a string is copied to, and whether a NUL is stored behind it. -/
structure LocalCopy where
  cap : ℕ
  terminated : Bool

def Keyword.localCopy : Keyword → Option LocalCopy
  | .zmqBind | .zmqConnect | .zmqUnbind | .zmqDisconnect => some ⟨MAX_PATH, true⟩
  | .zmqSendStr => some ⟨TB_RETURN_STRING_MAX, false⟩
  | .zmqSetsockoptStr | .zmqZ85Decode => some ⟨256, true⟩
  | .zmqCurvePublic | .zmqCurvePublicStr => some ⟨ZMQ_CURVE_KEYSIZE_Z85 + 1, true⟩
  | .zmqZ85DecodeStr => some ⟨TB_RETURN_STRING_MAX, true⟩
  | _ => none

def LocalCopy.Fits (copy : LocalCopy) (s : CString) : Prop :=
  s.strlen + (if copy.terminated then 1 else 0) ≤ copy.cap

/-- The call gets exactly the bytes of the string. -/
def ZmqCall.Receives : ZmqCall → CString → Prop
  | .bind _ r, s | .unbind _ r, s | .connect _ r, s | .disconnect _ r, s
  | .curvePublic _ r, s | .z85Decode _ r, s => r.cstring = some s.text
  | .send _ r n _, s | .setsockopt _ _ r n, s =>
    n.toNat = s.strlen ∧ r.bytes n.toNat = some s.text
  | _, _ => False

/-- What the keyword returns for a string that it refuses. -/
def Keyword.RefusesWith : Keyword → Value → Prop
  | .zmqCurvePublicStr, v => ∃ b : Bstr, v = .bstr b ∧ b.chars = []
  | .zmqZ85Decode, v | .zmqZ85DecodeStr, v => v = .long 0
  | _, v => v = .long (-1)

/-- One of the values with which keywords fail. -/
def Value.IsFailure (v : Value) : Prop :=
  v = .long (-1) ∨ v = .long 0 ∨ ∃ b : Bstr, v = .bstr b ∧ b.chars = []

structure BoundedCopy (copy : LocalCopy) (k : Keyword) (tr : List Ev) (v : Value) : Prop where
  stores : ∀ e ∈ tr, ∀ cap off len, e.request = .store cap off len →
    cap = copy.cap ∧ off + len ≤ copy.cap
  received : ∀ e ∈ tr, ∀ fn c, e.request = .zmq fn c →
    ∃ s, Parsed.str s ∈ parsedValues tr ∧ c.Receives s
  refused : ∀ s, Parsed.str s ∈ parsedValues tr → ¬ copy.Fits s →
    (∀ e ∈ tr, ¬ IsZmq e.request) ∧ v.IsFailure ∧
      ((∀ e ∈ tr, e.rejects = false) → k.RefusesWith v)

/-- Every write to a local array is inside an array of capacity `cap`. -/
def StoresIn (cap : ℕ) : Req → Prop
  | .store cap' off len => cap' = cap ∧ off + len ≤ cap
  | _ => True

variable {α : Type} {cap : ℕ}

lemma StoreWithin.storesIn {r : Req} (h : StoreWithin cap r) : StoresIn cap r := by
  cases r <;> first | exact h | trivial

lemma IsResult.storesIn {r : Req} (h : IsResult r) : StoresIn cap r := by
  cases r <;> first | exact h.elim | trivial

private lemma zmqApi_storesIn {c : ZmqCall} {failed : c.Resp} :
    (zmqApi c (pure failed)).Only (StoresIn cap) := by
  rw [zmqApi_eq]
  exact ⟨trivial, fun _ => ⟨trivial, fun t => .ite ⟨trivial, fun _ => trivial⟩ trivial⟩⟩

private lemma zmqApiOptional_storesIn {c : ZmqCall} {args : List Ref} {failed : c.Resp} :
    (zmqApiOptional c args failed).Only (StoresIn cap) := by
  rw [zmqApiOptional_eq]
  exact ⟨trivial, fun _ => ⟨trivial, fun t => .ite trivial ⟨trivial, fun _ => trivial⟩⟩⟩

/-- `p` writes only inside the copy, and is nothing but `refuse` if the string does not fit. -/
structure Copies (copy : LocalCopy) (s : ParsedString) (refuse p : Sdk α) : Prop where
  stores : p.Only (StoresIn copy.cap)
  refused : ¬ copy.Fits s.ptr → p = refuse

/-- A guard that refuses every string which does not fit, and then the copy. -/
private lemma copies_guard {copy : LocalCopy} {s : ParsedString} {refuse p : Sdk α} {c : Prop}
    [Decidable c] (hc : ¬ c → copy.Fits s.ptr) (hr : refuse.Only (StoresIn copy.cap))
    (hp : ¬ c → p.Only (StoresIn copy.cap)) :
    Copies copy s refuse (if c then refuse else p) := by
  by_cases h : c
  · rw [if_pos h]
    exact ⟨hr, fun _ => rfl⟩
  · rw [if_neg h]
    exact ⟨hp h, fun hn => absurd (hc h) hn⟩

private lemma copyString_storesIn {s : ParsedString} {f : List Cell → Sdk α}
    (h : s.ptr.strlen < cap) (hf : (f (terminated cap s.ptr.text)).Only (StoresIn cap)) :
    (copyString cap s >>= f).Only (StoresIn cap) :=
  (copyString_settles h).bind_only (fun _ => StoreWithin.storesIn) hf

private lemma copies_endpoint {api : Ptr → Ref → Sdk LONG} {socket : LONG}
    {endpoint : ParsedString} (hapi : ∀ r, (api (tbPtrFromHandle socket) r).Only
      (StoresIn MAX_PATH)) :
    Copies ⟨MAX_PATH, true⟩ endpoint (pure (-1)) (endpointAction api socket endpoint) := by
  have hlen : ¬ endpoint.len.toNat ≥ MAX_PATH → endpoint.ptr.strlen < MAX_PATH := by
    rw [endpoint.toNat_len]
    omega
  unfold endpointAction
  apply copies_guard
  · exact hlen
  · trivial
  · intro h
    exact copyString_storesIn (hlen h) (hapi _)

private lemma copies_sendStr {socket flags : LONG} {msg : ParsedString} :
    Copies ⟨TB_RETURN_STRING_MAX, false⟩ msg (pure (-1)) (sendStrAction socket msg flags) := by
  -- No terminator: a string of exactly the capacity still fits.
  have hlen : ¬ msg.len.toNat > TB_RETURN_STRING_MAX →
      msg.ptr.strlen ≤ TB_RETURN_STRING_MAX := by
    rw [msg.toNat_len]
    omega
  unfold sendStrAction
  apply copies_guard
  · exact hlen
  · trivial
  · intro h
    have hcopy := copyBytes_settles (hlen h)
    rw [← msg.toNat_len] at hcopy
    exact hcopy.bind_only (fun _ => StoreWithin.storesIn) zmqApi_storesIn

private lemma copies_setsockoptStr {socket option : LONG} {value : ParsedString} :
    Copies ⟨256, true⟩ value (pure (-1)) (setsockoptStrAction socket option value) := by
  have hlen : ¬ value.len.toNat ≥ 256 → value.ptr.strlen < 256 := by
    rw [value.toNat_len]
    omega
  unfold setsockoptStrAction
  apply copies_guard
  · exact hlen
  · trivial
  · intro h
    exact copyString_storesIn (hlen h) zmqApi_storesIn

private lemma copies_curvePublic {publicBuf : LONG} {secret : ParsedString} :
    Copies ⟨ZMQ_CURVE_KEYSIZE_Z85 + 1, true⟩ secret (pure (-1))
      (curvePublicAction publicBuf secret) := by
  have hlen : ¬ (publicBuf = 0 ∨ secret.len.toNat ≠ ZMQ_CURVE_KEYSIZE_Z85) →
      secret.ptr.strlen = ZMQ_CURVE_KEYSIZE_Z85 := by
    rw [secret.toNat_len]
    tauto
  unfold curvePublicAction
  apply copies_guard
  · intro h
    exact Nat.succ_le_succ (hlen h).le
  · trivial
  · intro h
    have hlt : secret.ptr.strlen < ZMQ_CURVE_KEYSIZE_Z85 + 1 := by
      rw [hlen h]
      omega
    exact copyString_storesIn hlt (zmqApiOptional_storesIn.bind fun _ => trivial)

private lemma copies_curvePublicStr {secret : ParsedString} :
    Copies ⟨ZMQ_CURVE_KEYSIZE_Z85 + 1, true⟩ secret tbReturnEmpty
      (curvePublicStrAction secret) := by
  have hempty : tbReturnEmpty.Only (StoresIn (ZMQ_CURVE_KEYSIZE_Z85 + 1)) :=
    tbReturnEmpty_result.mono fun _ => IsResult.storesIn
  have hlen : ¬ secret.len.toNat ≠ ZMQ_CURVE_KEYSIZE_Z85 →
      secret.ptr.strlen = ZMQ_CURVE_KEYSIZE_Z85 := by
    rw [secret.toNat_len]
    omega
  have hreturn (buf : List Cell) : (tbReturnString buf).Only
      (StoresIn (ZMQ_CURVE_KEYSIZE_Z85 + 1)) :=
    (tbReturnString_result buf).mono fun _ => IsResult.storesIn
  unfold curvePublicStrAction
  apply copies_guard
  · intro h
    exact Nat.succ_le_succ (hlen h).le
  · exact hempty
  · intro h
    have hlt : secret.ptr.strlen < ZMQ_CURVE_KEYSIZE_Z85 + 1 := by
      rw [hlen h]
      omega
    apply copyString_storesIn hlt
    apply (store_settles _ (by simp)).bind_only
    · intro r hr
      rw [length_localArray] at hr
      exact hr.storesIn
    apply zmqApiOptional_storesIn.bind
    intro a
    apply Prog.Only.ite hempty
    refine Prog.Only.bind ⟨?_, fun _ => trivial⟩ hreturn
    simp [StoresIn]

private lemma copies_z85Decode {dest : LONG} {encoded : ParsedString} :
    Copies ⟨256, true⟩ encoded (pure 0) (z85DecodeAction dest encoded) := by
  have hlen : ¬ (dest = 0 ∨ encoded.len = 0 ∨ encoded.len % 5 ≠ 0 ∨
      encoded.len.toNat ≥ 256) → encoded.ptr.strlen < 256 := by
    rw [encoded.toNat_len]
    simp only [not_or]
    omega
  unfold z85DecodeAction
  apply copies_guard
  · exact hlen
  · trivial
  · intro h
    exact copyString_storesIn (hlen h) (zmqApiOptional_storesIn.bind fun _ => trivial)

private lemma copies_z85DecodeStr {dest destSize : LONG} {encoded : ParsedString} :
    Copies ⟨TB_RETURN_STRING_MAX, true⟩ encoded (pure 0)
      (z85DecodeStrAction encoded dest destSize) := by
  have hlen : ¬ (dest = 0 ∨ destSize ≤ 0 ∨ encoded.len = 0 ∨ encoded.len % 5 ≠ 0 ∨
      encoded.len.toNat ≥ TB_RETURN_STRING_MAX) →
      encoded.ptr.strlen < TB_RETURN_STRING_MAX := by
    rw [encoded.toNat_len]
    simp only [not_or]
    omega
  unfold z85DecodeStrAction
  apply copies_guard
  · exact hlen
  · trivial
  · intro h
    apply Prog.Only.ite
    · trivial
    · exact copyString_storesIn (hlen h) (zmqApiOptional_storesIn.bind fun _ => trivial)

lemma tbReturnEmpty_trace {tr : List Ev} {b : Bstr} (h : tbReturnEmpty.Trace tr b) :
    b.chars = [] := by
  obtain ⟨_, _, rfl, g, rest, rfl, h⟩ := h
  rcases Prog.trace_ite h with ⟨-, -, rfl⟩ | ⟨-, ok, _, rfl, -, rfl⟩
  · rfl
  · cases ok <;> rfl

private lemma Copies.map {β : Type} {copy : LocalCopy} {s : ParsedString} {refuse p : Sdk α}
    (h : Copies copy s refuse p) (f : α → β) : Copies copy s (f <$> refuse) (f <$> p) := by
  refine ⟨?_, fun hn => congrArg (f <$> ·) (h.refused hn)⟩
  rw [map_eq_pure_bind]
  exact h.stores.bind fun _ => trivial

/-- `s` is the string parameter, and `refuse` is what the keyword does if it does not fit. -/
structure CopiesParameter (copy : LocalCopy) (k : Keyword) (args : Args k.signature)
    (s : ParsedString) (refuse : Sdk Value) : Prop where
  mem : ∀ t, Parsed.str t ∈ Args.parsed k.signature args → t = s.ptr
  copies : Copies copy s refuse (k.body.action args)
  result : refuse.Only IsResult
  refusesWith : ∀ tr v, refuse.Trace tr v → k.RefusesWith v

private lemma pure_refusesWith {k : Keyword} {w : Value} (hw : k.RefusesWith w) (tr : List Ev)
    (v : Value) (h : (pure w : Sdk Value).Trace tr v) : k.RefusesWith v := h.2 ▸ hw

private lemma empty_refusesWith (tr : List Ev) (v : Value)
    (h : (Value.bstr <$> tbReturnEmpty).Trace tr v) : Keyword.zmqCurvePublicStr.RefusesWith v := by
  obtain ⟨b, hb, rfl⟩ := Prog.trace_map.mp h
  exact ⟨b, rfl, tbReturnEmpty_trace hb⟩

private lemma empty_result : (Value.bstr <$> tbReturnEmpty).Only IsResult := by
  rw [map_eq_pure_bind]
  exact tbReturnEmpty_result.bind fun _ => trivial

lemma copies_parameter {k : Keyword} {copy : LocalCopy} (hk : k.localCopy = some copy)
    (args : Args k.signature) : ∃ s refuse, CopiesParameter copy k args s refuse := by
  cases k <;> cases hk
  case zmqBind | zmqUnbind | zmqConnect | zmqDisconnect =>
    obtain ⟨_, endpoint, _⟩ := args
    exact ⟨endpoint, pure (.long (-1)), by simp [Args.parsed, Param.parsed],
      (copies_endpoint fun r => zmqApi_storesIn).map Value.long, trivial, pure_refusesWith rfl⟩
  case zmqSendStr =>
    obtain ⟨_, msg, _, _⟩ := args
    exact ⟨msg, pure (.long (-1)), by simp [Args.parsed, Param.parsed],
      copies_sendStr.map Value.long, trivial, pure_refusesWith rfl⟩
  case zmqSetsockoptStr =>
    obtain ⟨_, _, value, _⟩ := args
    exact ⟨value, pure (.long (-1)), by simp [Args.parsed, Param.parsed],
      copies_setsockoptStr.map Value.long, trivial, pure_refusesWith rfl⟩
  case zmqCurvePublic =>
    obtain ⟨_, secret, _⟩ := args
    exact ⟨secret, pure (.long (-1)), by simp [Args.parsed, Param.parsed],
      copies_curvePublic.map Value.long, trivial, pure_refusesWith rfl⟩
  case zmqCurvePublicStr =>
    obtain ⟨secret, _⟩ := args
    exact ⟨secret, Value.bstr <$> tbReturnEmpty, by simp [Args.parsed, Param.parsed],
      copies_curvePublicStr.map Value.bstr, empty_result, empty_refusesWith⟩
  case zmqZ85Decode =>
    obtain ⟨_, encoded, _⟩ := args
    exact ⟨encoded, pure (.long 0), by simp [Args.parsed, Param.parsed],
      copies_z85Decode.map Value.long, trivial, pure_refusesWith rfl⟩
  case zmqZ85DecodeStr =>
    obtain ⟨encoded, _, _, _⟩ := args
    exact ⟨encoded, pure (.long 0), by simp [Args.parsed, Param.parsed],
      copies_z85DecodeStr.map Value.long, trivial, pure_refusesWith rfl⟩

private lemma receives_of_eq {k : Keyword} {args : Args k.signature} {s : CString}
    {c c' : ZmqCall} (hc : DynCall.api c = .api c')
    (hs : Parsed.str s ∈ Args.parsed k.signature args) (hr : c'.Receives s) :
    ∃ t, Parsed.str t ∈ Args.parsed k.signature args ∧ c.Receives t := by
  injection hc with hc
  subst hc
  exact ⟨s, hs, hr⟩

lemma documented_receives {k : Keyword} {copy : LocalCopy} (hk : k.localCopy = some copy)
    {args : Args k.signature} {c : ZmqCall} (h : Documented cappedLen k args (.api c)) :
    ∃ s, Parsed.str s ∈ Args.parsed k.signature args ∧ c.Receives s := by
  cases k <;> cases hk
  case zmqBind | zmqUnbind | zmqConnect | zmqDisconnect | zmqCurvePublic | zmqZ85Decode =>
    obtain ⟨_, s, _⟩ := args
    obtain ⟨r, hc, hr⟩ := h
    exact receives_of_eq hc (by simp [Args.parsed, Param.parsed]) hr
  case zmqSendStr =>
    obtain ⟨_, s, _, _⟩ := args
    obtain ⟨r, n, hc, hr⟩ := h
    exact receives_of_eq hc (by simp [Args.parsed, Param.parsed]) hr
  case zmqSetsockoptStr =>
    obtain ⟨_, _, s, _⟩ := args
    obtain ⟨r, n, hc, hr⟩ := h
    exact receives_of_eq hc (by simp [Args.parsed, Param.parsed]) hr
  case zmqCurvePublicStr =>
    obtain ⟨s, _⟩ := args
    obtain ⟨p, r, hc, hr⟩ := h
    exact receives_of_eq hc (by simp [Args.parsed, Param.parsed]) hr
  case zmqZ85DecodeStr =>
    obtain ⟨s, _, _, _⟩ := args
    obtain ⟨r, hc, hr⟩ := h
    exact receives_of_eq hc (by simp [Args.parsed, Param.parsed]) hr

private lemma Keyword.RefusesWith.isFailure {k : Keyword} {v : Value} (h : k.RefusesWith v) :
    v.IsFailure := by
  cases k <;> first
    | exact Or.inl h
    | exact Or.inr (Or.inl h)
    | exact Or.inr (Or.inr h)

private lemma failure_isFailure (k : Keyword) {tr : List Ev} {v : Value}
    (h : k.body.failure.Trace tr v) : v.IsFailure := by
  cases k <;> first
    | exact Or.inl h.2
    | exact Or.inr (Or.inl h.2)
    | exact Or.inr (Or.inr ((Prog.trace_map.mp h).imp fun b hb => ⟨hb.2, tbReturnEmpty_trace hb.1⟩))

private lemma not_store_of_parsing {r : Req} (h : IsParsing r) {cap off len : ℕ} :
    r ≠ .store cap off len := by
  rintro rfl
  exact h

private lemma not_store_of_result {r : Req} (h : IsResult r) {cap off len : ℕ} :
    r ≠ .store cap off len := by
  rintro rfl
  exact h

private lemma boundedCopy_of_rejected {k : Keyword} {copy : LocalCopy} {tr₁ tr₂ : List Ev}
    {v : Value} (h : Rejected (signatureRequests k.signature) tr₁)
    (hfail : k.body.failure.Trace tr₂ v) : BoundedCopy copy k (tr₁ ++ tr₂) v := by
  have hresult := (failure_result _).trace hfail
  have hzmq : ∀ e ∈ tr₁ ++ tr₂, ¬ IsZmq e.request :=
    forall_of_parsing_of_result not_zmq_of_parsing not_zmq_of_result h.parsing hresult
  obtain ⟨e, he, hrejects⟩ := h.exists_rejects
  refine ⟨?_, ?_, ?_⟩
  · intro e he cap off len hreq
    rcases List.mem_append.mp he with he | he
    · exact absurd hreq (not_store_of_parsing (h.parsing e he))
    · exact absurd hreq (not_store_of_result (hresult e he))
  · intro e he fn c hreq
    exact absurd (hreq ▸ trivial) (hzmq e he)
  · intro s _ _
    refine ⟨hzmq, failure_isFailure k hfail, ?_⟩
    intro hall
    have := hall e (List.mem_append_left _ he)
    exact absurd this (by simp [hrejects])

private lemma boundedCopy_of_accepted {k : Keyword} {copy : LocalCopy}
    (hk : k.localCopy = some copy) {args : Args k.signature} {tr₁ tr₂ : List Ev} {v : Value}
    (h : Accepted (signatureRequests k.signature) (Args.parsed k.signature args) tr₁)
    (hact : (k.body.action args).Trace tr₂ v) : BoundedCopy copy k (tr₁ ++ tr₂) v := by
  obtain ⟨s, refuse, hp⟩ := copies_parameter hk args
  have hvalues := accepted_values h hact
  refine ⟨?_, ?_, ?_⟩
  · intro e he cap off len hreq
    rcases List.mem_append.mp he with he | he
    · exact absurd hreq (not_store_of_parsing (h.parsing e he))
    · have hstore := hp.copies.stores.trace hact e he
      rwa [hreq] at hstore
  · intro e he fn c hreq
    rcases List.mem_append.mp he with he | he
    · exact absurd (hreq ▸ trivial) (not_zmq_of_parsing _ (h.parsing e he))
    · have hdoc := (body_performs k args).within.trace hact e he
      rw [hreq] at hdoc
      rw [hvalues]
      exact documented_receives hk hdoc
  · intro t ht hfit
    rw [hvalues] at ht
    obtain rfl := hp.mem t ht
    rw [hp.copies.refused hfit] at hact
    have hrefuses := hp.refusesWith _ _ hact
    refine ⟨?_, hrefuses.isFailure, fun _ => hrefuses⟩
    exact forall_of_parsing_of_result not_zmq_of_parsing not_zmq_of_result h.parsing
      (hp.result.trace hact)

/-- Every run of the ten keywords, whatever string the host hands out. -/
theorem exec_boundedCopy (k : Keyword) (copy : LocalCopy) (hk : k.localCopy = some copy)
    (tr : List Ev) (v : Value) (h : k.exec.Trace tr v) : BoundedCopy copy k tr v := by
  rw [k.exec_eq_transact] at h
  rcases transact_trace h with ⟨tr₁, tr₂, rfl, hr, hfail⟩ | ⟨args, tr₁, tr₂, rfl, ha, hact⟩
  · exact boundedCopy_of_rejected hr hfail
  · exact boundedCopy_of_accepted hk ha hact

theorem exec_boundedCopy_sendStr :
    BoundedCopy ⟨TB_RETURN_STRING_MAX, false⟩ .zmqSendStr
      (Host.bare.callEvents (fun c s => (c.failed, s)) .zmqSendStr
        [.int 7, .str (some (.ofString "hello")), .int 0] (Session.resolved ()))
      (.long (-1)) :=
  exec_boundedCopy .zmqSendStr _ rfl _ _ (Prog.trace_events _ _ _)

end ThinBasicZmq
