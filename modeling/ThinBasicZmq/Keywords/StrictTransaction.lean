import Mathlib.Data.List.Infix
import ThinBasicZmq.Keywords.Documented
import ThinBasicZmq.Script.Session

/-!
# Every keyword is a strict transaction

The requests to the host come first and stop at the first rejected one; nothing else
happens unless all of them were accepted; then the documented operation is performed at
most once, on the parsed values.
-/

namespace ThinBasicZmq

open Interaction

variable {doc : DynCall → Prop}

section Accesses

variable {P : Req → Prop} (hstore : ∀ cap off len, P (.store cap off len))
  (hfetch : ∀ cap i cell, P (.fetch cap i cell))

include hstore hfetch

lemma zmqTrimLoop_only (path : List Cell) (len : ℕ) : (zmqTrimLoop path len).Only P := by
  induction len generalizing path with
  | zero => trivial
  | succ len ih =>
    apply (fetch_only hfetch path len).bind
    intro c
    apply Prog.Only.ite
    · apply (store_only hstore _ _ _).bind
      intro path
      exact ih path
    · trivial

lemma zmqTrimTrailingSlashes_only (path : List Cell) (maxLen : ℕ) :
    (zmqTrimTrailingSlashes path maxLen).Only P := by
  apply Prog.Only.ite
  · trivial
  apply (scanNul_only hfetch _ _ _).bind
  intro len
  exact .ite (store_only hstore _ _ _) (zmqTrimLoop_only hstore hfetch _ _)

lemma snprintf_only (buf str : List Cell) (suffix : CString) :
    (snprintf buf str suffix).Only P := by
  have hstored (bytes : List UInt8) (n : ℤ) :
      (store buf 0 bytes >>= fun buf => pure (n, buf)).Only P :=
    (store_only hstore _ _ _).bind fun _ => trivial
  apply (scanNul_only hfetch _ _ _).bind
  intro n
  apply (fetchBytes_only hfetch _ _ _).bind
  intro s
  exact .ite (hstored _ _) (.ite (hstored _ _) (hstored _ _))

end Accesses

section Binding

variable {P : Req → Prop} (hread : P .readZmq) (hwrite : ∀ t, P (.writeZmq t))
  (hget : ∀ m name, P (.getProcAddress m name))

include hread hwrite hget

lemma zmqBindSymbols_only (syms : List ZmqSymbol) : (zmqBindSymbols syms).Only P := by
  induction syms with
  | nil => trivial
  | cons s syms ih =>
    have hresolve : (zmqResolve s.exportName).Only P :=
      ⟨hread, fun _ => ⟨hget _ _, fun _ => trivial⟩⟩
    apply hresolve.bind
    intro fn
    exact ⟨hread, fun _ => ⟨hwrite _, fun _ => ih⟩⟩

lemma zmqBindRequiredSymbols_only : zmqBindRequiredSymbols.Only P := by
  apply (zmqBindSymbols_only hread hwrite hget _).bind
  intro _
  apply (zmqBindSymbols_only hread hwrite hget _).bind
  intro _
  exact ⟨hread, fun _ => trivial⟩

end Binding

/-- An operation of the loader: it is entered, and what it does is silent. -/
private lemma performs_enter {α : Type} {c : DynCall} {p : Sdk α} (hc : doc c)
    (hp : Silent p) : Performs doc (Prog.ask (.enter c) fun _ => p) where
  within := ⟨hc, fun _ => hp.within⟩
  enters := .ask trivial fun _ => hp.noEnter
  calls := .ask_of_not id fun _ => hp.noZmq.mono (by omega)

lemma performs_zmqDynLoadDirectory {dir : Option CString} {dirLen : DWORD}
    (hc : doc (.loadDirectory dir dirLen)) :
    Performs doc (zmqDynLoadDirectory dir dirLen) := by
  apply performs_enter hc
  cases dir with
  | none => trivial
  | some dir =>
    apply Silent.ite (silent_pure _)
    apply (silent_request ⟨id, id, id⟩).bind
    intro g
    apply Silent.ite (silent_pure _)
    apply (silent_of_local (store_local _ _ _)).bind
    intro folder
    apply (silent_of_local (store_local _ _ _)).bind
    intro folder
    apply (silent_of_local (zmqTrimTrailingSlashes_only (fun _ _ _ => trivial)
      (fun _ _ _ => trivial) _ _)).bind
    intro folder
    apply (silent_of_local (snprintf_only (fun _ _ _ => trivial) (fun _ _ _ => trivial) _ _ _)).bind
    intro out
    apply Silent.ite (silent_pure _)
    apply (silent_request ⟨id, id, id⟩).bind
    intro _
    apply (silent_request ⟨id, id, id⟩).bind
    intro (m : Option HMODULE)
    apply (silent_request ⟨id, id, id⟩).bind
    intro g
    apply (silent_request ⟨id, id, id⟩).bind
    intro _
    apply Silent.ite
    · exact (silent_request ⟨id, id, id⟩).bind fun _ => silent_pure _
    have hbind : Silent zmqBindRequiredSymbols :=
      zmqBindRequiredSymbols_only ⟨id, id, id⟩ (fun _ => ⟨id, id, id⟩) fun _ _ => ⟨id, id, id⟩
    apply hbind.bind
    intro ok
    apply Silent.ite
    · iterate 5
        apply (silent_request ⟨id, id, id⟩).bind
        intro _
      exact silent_pure _
    · iterate 2
        apply (silent_request ⟨id, id, id⟩).bind
        intro _
      exact silent_pure _

lemma performs_zmqDynUnload (hc : doc .unload) : Performs doc zmqDynUnload := by
  apply performs_enter hc
  apply (silent_request ⟨id, id, id⟩).bind
  intro g
  apply Silent.bind
  · exact Silent.ite (silent_pure _) (silent_request ⟨id, id, id⟩)
  intro _
  apply (silent_request ⟨id, id, id⟩).bind
  intro _
  exact silent_request ⟨id, id, id⟩

lemma performs_zmqDynIsLoaded (hc : doc .isLoaded) : Performs doc zmqDynIsLoaded := by
  apply performs_enter hc
  apply (silent_request ⟨id, id, id⟩).bind
  simp

lemma mapM_id_map_some (t : List UInt8) : (t.map some).mapM id = some t := by
  induction t with
  | nil => rfl
  | cons b t ih => simp [List.mapM_cons, ih]

lemma passesBytes_arr (s : ParsedString) (rest : List Cell) :
    PassesBytes (.arr (s.ptr.text.map some ++ rest)) s.len s := by
  refine ⟨s.toNat_len, ?_⟩
  rw [s.toNat_len]
  have hlen : s.ptr.strlen ≤ (s.ptr.text.map some ++ rest).length := by simp
  have htake : (s.ptr.text.map some ++ rest).take s.ptr.strlen = s.ptr.text.map some :=
    List.take_left' (by simp)
  simp only [Ref.bytes, hlen, if_true, htake, mapM_id_map_some]

lemma passesString_terminated (cap : ℕ) (s : ParsedString) :
    PassesString (.arr (terminated cap s.ptr.text)) s :=
  cstring?_terminated s.ptr.zero_notMem_text cap

/-- A bounded copy before an operation that gets it. -/
private lemma performs_copyString {α : Type} {cap : ℕ} {s : ParsedString} (h : s.len.toNat < cap)
    {f : List Cell → Sdk α} (hf : Performs doc (f (terminated cap s.ptr.text))) :
    Performs doc (copyString cap s >>= f) := by
  rw [s.toNat_len] at h
  exact performs_settles (copyString_settles h) (fun _ => StoreWithin.isLocal) hf

private lemma silent_tbReturnString (sz : Option (List Cell)) : Silent (tbReturnString sz) :=
  silent_of_result (tbReturnString_result sz)

private lemma performs_empty : Performs doc tbReturnEmpty := (silent_tbReturnString _).performs

private lemma performs_pure {α : Type} (a : α) : Performs doc (pure a : Sdk α) :=
  (silent_pure a).performs

private lemma performs_zmqApiStrerror {errnum : LONG} (hc : doc (.api (.strerrorFn errnum))) :
    Performs doc (zmqApiStrerror errnum) := by
  apply performs_zmqApi hc
  apply (silent_request ⟨id, id, id⟩).bind
  simp

private lemma performs_endpointAction {api : Ptr → Ref → Sdk LONG} {socket : LONG}
    {endpoint : ParsedString}
    (hapi : ∀ r, PassesString r endpoint → Performs doc (api (tbPtrFromHandle socket) r)) :
    Performs doc (endpointAction api socket endpoint) := by
  apply Performs.ite
  · intro _
    exact performs_pure _
  · intro h
    apply performs_copyString (by omega)
    exact hapi _ (passesString_terminated _ _)

private lemma performs_sendStrAction {socket flags : LONG} {msg : ParsedString}
    (hapi : ∀ r n, PassesBytes r n msg →
      doc (.api (.send (tbPtrFromHandle socket) r n flags))) :
    Performs doc (sendStrAction socket msg flags) := by
  apply Performs.ite
  · intro _
    exact performs_pure _
  · intro h
    have hlen : msg.ptr.strlen ≤ TB_RETURN_STRING_MAX := by
      rw [msg.toNat_len] at h
      omega
    apply performs_settles (copyBytes_settles hlen) fun _ => StoreWithin.isLocal
    exact performs_zmqApi (hapi _ _ (passesBytes_arr _ _)) (silent_pure _)

lemma performs_recvStrAction {socket maxLen flags : LONG} (hapi : ¬ maxLen ≤ 0 → ∀ r,
      doc (.api (.recv (tbPtrFromHandle socket) r (cappedLen maxLen) flags))) :
    Performs doc (recvStrAction socket maxLen flags) := by
  apply Performs.ite
  · intro _
    exact performs_empty
  · intro h
    apply (performs_zmqApi (hapi h _) (silent_pure _)).bind
    intro a
    exact Silent.ite (silent_tbReturnString _) (silent_of_result (tbReturnStringN_result _ _))

private lemma performs_setsockoptStrAction {socket option : LONG} {value : ParsedString}
    (hapi : ∀ r n, PassesBytes r n value →
      doc (.api (.setsockopt (tbPtrFromHandle socket) option r n))) :
    Performs doc (setsockoptStrAction socket option value) := by
  apply Performs.ite
  · intro _
    exact performs_pure _
  · intro h
    apply performs_copyString (by omega)
    exact performs_zmqApi (hapi _ _ (passesBytes_arr _ _)) (silent_pure _)

private lemma performs_curveKeypairAction {publicBuf secretBuf : LONG}
    (hapi : doc (.api (.curveKeypair (.addr (tbPtrFromHandle publicBuf))
      (.addr (tbPtrFromHandle secretBuf))))) :
    Performs doc (curveKeypairAction publicBuf secretBuf) := by
  apply Performs.ite
  · intro _
    exact performs_pure _
  · intro _
    apply (performs_zmqApiOptional hapi).bind
    simp

private lemma performs_curvePublicAction {publicBuf : LONG} {secret : ParsedString}
    (hapi : ∀ r, PassesString r secret →
      doc (.api (.curvePublic (.addr (tbPtrFromHandle publicBuf)) r))) :
    Performs doc (curvePublicAction publicBuf secret) := by
  apply Performs.ite
  · intro _
    exact performs_pure _
  · intro h
    have hlen : secret.len.toNat < ZMQ_CURVE_KEYSIZE_Z85 + 1 := by omega
    apply performs_copyString hlen
    apply (performs_zmqApiOptional (hapi _ (passesString_terminated _ _))).bind
    simp

private lemma performs_curvePublicStrAction {secret : ParsedString}
    (hapi : ∀ p r, PassesString r secret → doc (.api (.curvePublic p r))) :
    Performs doc (curvePublicStrAction secret) := by
  apply Performs.ite
  · intro _
    exact performs_empty
  · intro h
    apply performs_copyString (by omega)
    apply performs_settles (store_settles _ (by simp)) fun _ => StoreWithin.isLocal
    apply (performs_zmqApiOptional (hapi _ _ (passesString_terminated _ _))).bind
    intro a
    apply Silent.ite (silent_tbReturnString _)
    apply (silent_of_local (store_local _ _ _)).bind
    intro publicBuf
    exact silent_tbReturnString _

lemma performs_z85EncodeAction {dest data size : LONG}
    (hapi : ¬ size ≤ 0 → doc (.api (.z85Encode (.addr (tbPtrFromHandle dest))
      (.addr (tbPtrFromHandle data)) size.toUInt32))) :
    Performs doc (z85EncodeAction dest data size) := by
  apply Performs.ite
  · intro _
    exact performs_pure _
  · intro h
    have hsize : ¬ size ≤ 0 := fun hle => h (Or.inr (Or.inr (Or.inl hle)))
    apply (performs_zmqApiOptional (hapi hsize)).bind
    simp

private lemma performs_z85DecodeAction {dest : LONG} {encoded : ParsedString}
    (hapi : ∀ r, PassesString r encoded →
      doc (.api (.z85Decode (.addr (tbPtrFromHandle dest)) r))) :
    Performs doc (z85DecodeAction dest encoded) := by
  apply Performs.ite
  · intro _
    exact performs_pure _
  · intro h
    apply performs_copyString (by omega)
    apply (performs_zmqApiOptional (hapi _ (passesString_terminated _ _))).bind
    simp

lemma performs_z85DecodeStrAction {encoded : ParsedString} {dest destSize : LONG}
    (hapi : ¬ destSize ≤ 0 → ¬ destSize.toUInt32 < encoded.len * 4 / 5 → ∀ r,
      PassesString r encoded → encoded.ptr.strlen < TB_RETURN_STRING_MAX →
      doc (.api (.z85Decode (.addr (tbPtrFromHandle dest)) r))) :
    Performs doc (z85DecodeStrAction encoded dest destSize) := by
  apply Performs.ite
  · intro _
    exact performs_pure _
  intro h
  apply Performs.ite
  · intro _
    exact performs_pure _
  · intro hroom
    simp only [not_or] at h hroom
    have hlen : encoded.len.toNat < TB_RETURN_STRING_MAX := by omega
    apply performs_copyString hlen
    rw [encoded.toNat_len] at hlen
    apply (performs_zmqApiOptional (hapi h.2.1 hroom.2 _ (passesString_terminated _ _) hlen)).bind
    simp

lemma performs_z85EncodeStrAction {data size : LONG} (hapi : ¬ size ≤ 0 → ∀ p,
      doc (.api (.z85Encode p (.addr (tbPtrFromHandle data)) size.toUInt32))) :
    Performs doc (z85EncodeStrAction data size) := by
  apply Performs.ite
  · intro _
    exact performs_empty
  intro h
  apply Performs.ite
  · intro _
    exact performs_empty
  · intro _
    have hstore : 0 + [(0 : UInt8)].length ≤ (localArray TB_RETURN_STRING_MAX).length := by
      simp [TB_RETURN_STRING_MAX]
    apply performs_settles (store_settles _ hstore) fun _ => StoreWithin.isLocal
    have hsize : ¬ size ≤ 0 := fun hle => h (Or.inr (Or.inl hle))
    apply (performs_zmqApiOptional (hapi hsize _)).bind
    intro a
    exact Silent.ite (silent_tbReturnString _) (silent_tbReturnString _)

/-- The operation of a keyword is the documented one. -/
lemma body_performs (k : Keyword) (args : Args k.signature) :
    Performs (Documented cappedLen k args) (k.body.action args) := by
  cases k <;> apply Performs.map
  case zmqLibraryInit => exact performs_zmqDynLoadDirectory rfl
  case zmqLibraryShutdown =>
    apply Performs.bind
    · exact performs_zmqDynUnload rfl
    · simp
  case zmqLibraryLoaded => exact performs_zmqDynIsLoaded rfl
  case zmqStrerror =>
    apply Performs.bind
    · exact performs_zmqApiStrerror rfl
    · simp
  case zmqStrerrorString =>
    apply Performs.bind
    · exact performs_zmqApiStrerror rfl
    · intro a
      exact silent_tbReturnString _
  case zmqHas => exact performs_zmqApi ⟨_, rfl, rfl⟩ (silent_pure _)
  case zmqBind | zmqUnbind | zmqConnect | zmqDisconnect =>
    exact performs_endpointAction fun r hr => performs_zmqApi ⟨r, rfl, hr⟩ (silent_pure _)
  case zmqSendStr => exact performs_sendStrAction fun r n hr => ⟨r, n, rfl, hr⟩
  case zmqRecvStr => exact performs_recvStrAction fun _ r => ⟨r, rfl⟩
  case zmqSetsockoptStr => exact performs_setsockoptStrAction fun r n hr => ⟨r, n, rfl, hr⟩
  case zmqGetsockoptInt =>
    apply Performs.bind
    · exact performs_zmqApi rfl (silent_pure _)
    · intro a
      exact Silent.ite (silent_pure _) (silent_pure _)
  case zmqCurveKeypair => exact performs_curveKeypairAction rfl
  case zmqCurvePublic => exact performs_curvePublicAction fun r hr => ⟨r, rfl, hr⟩
  case zmqCurvePublicStr => exact performs_curvePublicStrAction fun p r hr => ⟨p, r, rfl, hr⟩
  case zmqZ85Encode => exact performs_z85EncodeAction fun _ => rfl
  case zmqZ85Decode => exact performs_z85DecodeAction fun r hr => ⟨r, rfl, hr⟩
  case zmqZ85EncodeStr => exact performs_z85EncodeStrAction fun _ p => ⟨p, rfl⟩
  case zmqZ85DecodeStr => exact performs_z85DecodeStrAction fun _ _ r hr _ => ⟨r, rfl, hr⟩
  case zmqErrno | zmqCtxTerm | zmqCtxShutdown | zmqCtxSet | zmqCtxGet | zmqClose | zmqSend |
      zmqSetsockoptInt =>
    exact performs_zmqApi rfl (silent_pure _)
  case zmqVersionMajor | zmqVersionMinor | zmqVersionPatch | zmqCtxNew | zmqSocket | zmqRecv =>
    apply Performs.bind
    · exact performs_zmqApi rfl (silent_pure _)
    · simp

/-! ## The phases of a keyword -/

/-- Neither a request of the parsing phase nor one for the string result. -/
def IsEffect (r : Req) : Prop := ¬ IsParsing r ∧ ¬ IsResult r

/-- The trace of a keyword that parses first and acts then. -/
structure StrictTransaction (recvLen : LONG → SizeT) (k : Keyword) (tr : List Ev) : Prop where
  requests : hostCalls tr <+: signatureRequests k.signature
  stops : ∀ before e after, tr = before ++ e :: after → e.rejects = true → hostCalls after = []
  effects : ∀ before e after, tr = before ++ e :: after → IsEffect e.request →
    hostCalls before = signatureRequests k.signature ∧ ∀ e' ∈ before, e'.rejects = false
  operation : hostCalls tr = signatureRequests k.signature → (∀ e ∈ tr, e.rejects = false) →
    ∃ args : Args k.signature, parsedValues tr = Args.parsed k.signature args ∧
      ∀ e ∈ tr, (∀ c, e.request = .enter c → Documented recvLen k args c) ∧
        ∀ fn c, e.request = .zmq fn c → Documented recvLen k args (.api c)
  once : tr.countP (fun e => IsEnter e.request) ≤ 1 ∧ tr.countP (fun e => IsZmq e.request) ≤ 1

lemma hostCalls_eq_nil {tr : List Ev} (h : ∀ e ∈ tr, ¬ IsHost e.request) :
    hostCalls tr = [] := by
  apply List.filterMap_eq_nil_iff.mpr
  intro e he
  have hn := h e he
  obtain ⟨r, x⟩ := e
  cases r <;> first | rfl | exact absurd trivial hn

lemma parsedValues_eq_nil {tr : List Ev} (h : ∀ e ∈ tr, ¬ IsHost e.request) :
    parsedValues tr = [] := by
  apply List.filterMap_eq_nil_iff.mpr
  intro e he
  have hn := h e he
  obtain ⟨r, x⟩ := e
  cases r <;> first | rfl | exact absurd trivial hn

lemma not_rejects {e : Ev} (h : ¬ IsHost e.request) : e.rejects = false := by
  obtain ⟨r, x⟩ := e
  cases r <;> first | rfl | exact absurd trivial h

private lemma countP_parsing {P : Req → Prop} [DecidablePred P] {tr : List Ev}
    (h : ∀ e ∈ tr, IsParsing e.request) (hP : ∀ r, IsParsing r → ¬ P r) :
    tr.countP (fun e => P e.request) = 0 := by
  apply List.countP_eq_zero.mpr
  intro e he
  simpa using hP _ (h e he)

lemma not_enter_of_parsing (r : Req) (h : IsParsing r) : ¬ IsEnter r := by
  cases r <;> first | exact id | exact h.elim

lemma not_zmq_of_parsing (r : Req) (h : IsParsing r) : ¬ IsZmq r := by
  cases r <;> first | exact id | exact h.elim

private lemma not_host_of_result (r : Req) (h : IsResult r) : ¬ IsHost r := by
  cases r <;> first | exact id | exact h.elim

lemma not_enter_of_result (r : Req) (h : IsResult r) : ¬ IsEnter r := h.isLocal.silent.2.1

lemma not_zmq_of_result (r : Req) (h : IsResult r) : ¬ IsZmq r := h.isLocal.silent.2.2

/-- A rejected call parses and makes its string result, and nothing else. -/
lemma forall_of_parsing_of_result {P : Req → Prop} {tr₁ tr₂ : List Ev}
    (hparse : ∀ r, IsParsing r → P r) (hresult : ∀ r, IsResult r → P r)
    (h₁ : ∀ e ∈ tr₁, IsParsing e.request) (h₂ : ∀ e ∈ tr₂, IsResult e.request) :
    ∀ e ∈ tr₁ ++ tr₂, P e.request := by
  intro e he
  rcases List.mem_append.mp he with he | he
  · exact hparse _ (h₁ e he)
  · exact hresult _ (h₂ e he)

/-- An event of a two-part trace is in the first or in the second part. -/
lemma append_eq_append_cons {tr₁ tr₂ before after : List Ev} {e : Ev}
    (h : tr₁ ++ tr₂ = before ++ e :: after) :
    (∃ mid, tr₁ = before ++ e :: mid ∧ after = mid ++ tr₂) ∨
    (∃ mid, before = tr₁ ++ mid ∧ tr₂ = mid ++ e :: after) := by
  rcases List.append_eq_append_iff.mp h with ⟨mid, h₁, h₂⟩ | ⟨mid, h₁, h₂⟩
  · exact Or.inr ⟨mid, h₁, h₂⟩
  · rcases List.cons_eq_append_iff.mp h₂ with ⟨rfl, h₃⟩ | ⟨mid', rfl, h₃⟩
    · exact Or.inr ⟨[], by simpa using h₁.symm, by simpa using h₃⟩
    · exact Or.inl ⟨mid', h₁, h₃⟩

lemma failure_result {sig : List Param} (b : Body sig) : b.failure.Only IsResult := by
  cases b with
  | long fail act => trivial
  | bstr act => exact tbReturnEmpty_result.bind fun _ => trivial

private lemma strict_of_rejected {recvLen : LONG → SizeT} {k : Keyword} {tr₁ tr₂ : List Ev}
    (h : Rejected (signatureRequests k.signature) tr₁) (h₂ : ∀ e ∈ tr₂, IsResult e.request) :
    StrictTransaction recvLen k (tr₁ ++ tr₂) := by
  have hhost : ∀ e ∈ tr₂, ¬ IsHost e.request := fun e he => not_host_of_result _ (h₂ e he)
  obtain ⟨before', e', rfl, he', hb'⟩ := h.last
  refine ⟨?_, ?_, ?_, ?_, ?_⟩
  · rw [hostCalls_append, hostCalls_eq_nil hhost, List.append_nil]
    exact h.calls_prefix
  · intro before e after heq he
    rcases append_eq_append_cons heq with ⟨mid, h₁, rfl⟩ | ⟨mid, rfl, rfl⟩
    · rcases append_eq_append_cons h₁ with ⟨mid', hmem, rfl⟩ | ⟨mid', -, hlast⟩
      · have : e.rejects = false := hb' e (by rw [hmem]; simp)
        exact absurd this (by simp [he])
      · have hmid : mid = [] := by
          rcases mid' with _ | ⟨_, _⟩ <;> simp_all
        simpa [hmid] using hostCalls_eq_nil hhost
    · have : e.rejects = false := not_rejects (hhost e (by simp))
      exact absurd this (by simp [he])
  · intro before e after heq he
    rcases append_eq_append_cons heq with ⟨mid, h₁, -⟩ | ⟨mid, -, rfl⟩
    · exact absurd (h.parsing e (by rw [h₁]; simp)) he.1
    · exact absurd (h₂ e (by simp)) he.2
  · intro _ hall
    exact absurd (hall e' (by simp)) (by simp [he'])
  · have hnone : ∀ (P : Req → Prop) [DecidablePred P], (∀ r, IsParsing r → ¬ P r) →
        (∀ r, IsResult r → ¬ P r) →
        (before' ++ [e'] ++ tr₂).countP (fun e => P e.request) = 0 := by
      intro P _ hP hR
      apply List.countP_eq_zero.mpr
      intro e he
      simpa using forall_of_parsing_of_result hP hR h.parsing h₂ e he
    have henter := hnone IsEnter not_enter_of_parsing not_enter_of_result
    have hzmq := hnone IsZmq not_zmq_of_parsing not_zmq_of_result
    omega

/-- The operation of a keyword makes no requests to the host. -/
lemma action_not_host {k : Keyword} {args : Args k.signature} {tr : List Ev} {v : Value}
    (h : (k.body.action args).Trace tr v) : ∀ e ∈ tr, ¬ IsHost e.request := by
  intro e he hh
  have hw := (body_performs k args).within.trace h e he
  obtain ⟨r, x⟩ := e
  cases r <;> first | exact hw | exact hh

lemma accepted_accepts {k : Keyword} {args : Args k.signature} {calls : List HostCall}
    {vals : List Parsed} {tr₁ tr₂ : List Ev} {v : Value} (h : Accepted calls vals tr₁)
    (hact : (k.body.action args).Trace tr₂ v) : ∀ e ∈ tr₁ ++ tr₂, e.rejects = false := by
  intro e he
  rcases List.mem_append.mp he with he | he
  · exact h.accepts e he
  · exact not_rejects (action_not_host hact e he)

lemma accepted_values {k : Keyword} {args : Args k.signature} {calls : List HostCall}
    {vals : List Parsed} {tr₁ tr₂ : List Ev} {v : Value} (h : Accepted calls vals tr₁)
    (hact : (k.body.action args).Trace tr₂ v) : parsedValues (tr₁ ++ tr₂) = vals := by
  rw [parsedValues_append, parsedValues_eq_nil (action_not_host hact), List.append_nil,
    h.values_eq]

private lemma strict_of_accepted {k : Keyword} {args : Args k.signature} {tr₁ tr₂ : List Ev}
    {v : Value} (h : Accepted (signatureRequests k.signature) (Args.parsed k.signature args) tr₁)
    (hact : (k.body.action args).Trace tr₂ v) : StrictTransaction cappedLen k (tr₁ ++ tr₂) := by
  have hp := body_performs k args
  have hwithin := hp.within.trace hact
  have hhost := action_not_host hact
  refine ⟨?_, ?_, ?_, ?_, ?_⟩
  · rw [hostCalls_append, hostCalls_eq_nil hhost, List.append_nil, h.calls_eq]
  · intro before e after heq he
    rcases append_eq_append_cons heq with ⟨mid, h₁, -⟩ | ⟨mid, -, rfl⟩
    · have : e.rejects = false := h.accepts e (by rw [h₁]; simp)
      exact absurd this (by simp [he])
    · have : e.rejects = false := not_rejects (hhost e (by simp))
      exact absurd this (by simp [he])
  · intro before e after heq he
    rcases append_eq_append_cons heq with ⟨mid, h₁, -⟩ | ⟨mid, rfl, rfl⟩
    · exact absurd (h.parsing e (by rw [h₁]; simp)) he.1
    · have hmid : ∀ e' ∈ mid, ¬ IsHost e'.request := fun e' he' => hhost e' (by simp [he'])
      refine ⟨?_, List.forall_mem_append.mpr ⟨h.accepts, fun e' he' => not_rejects (hmid e' he')⟩⟩
      rw [hostCalls_append, hostCalls_eq_nil hmid, List.append_nil, h.calls_eq]
  · intro _ _
    refine ⟨args, accepted_values h hact, ?_⟩
    · intro e he
      rcases List.mem_append.mp he with he | he
      · have hpar := h.parsing e he
        exact ⟨fun c hc => absurd (hc ▸ trivial) (not_enter_of_parsing _ hpar),
          fun fn c hc => absurd (hc ▸ trivial) (not_zmq_of_parsing _ hpar)⟩
      · have hw := hwithin e he
        exact ⟨fun c hc => by rwa [hc] at hw, fun fn c hc => by rwa [hc] at hw⟩
  · rw [List.countP_append, List.countP_append, countP_parsing h.parsing not_enter_of_parsing,
      countP_parsing h.parsing not_zmq_of_parsing, Nat.zero_add, Nat.zero_add]
    exact ⟨hp.enters.trace hact, hp.calls.trace hact⟩

/-- What holds of the requests of the operation holds of all requests that are not for a
parameter or a string result. -/
lemma exec_only {P : Req → Prop} (hparse : ∀ r, IsParsing r → P r) (hresult : ∀ r, IsResult r → P r)
    {k : Keyword} (hact : ∀ args, (k.body.action args).Only P) {tr : List Ev} {v : Value}
    (h : k.exec.Trace tr v) : ∀ e ∈ tr, P e.request := by
  rw [k.exec_eq_transact] at h
  rcases transact_trace h with ⟨tr₁, tr₂, rfl, hr, hfail⟩ | ⟨args, tr₁, tr₂, rfl, ha, hact'⟩
  · exact forall_of_parsing_of_result hparse hresult hr.parsing ((failure_result _).trace hfail)
  · intro e he
    rcases List.mem_append.mp he with he | he
    · exact hparse _ (ha.parsing e he)
    · exact (hact args).trace hact' e he

/-- Every run of every executor, whatever the host and libzmq answer. -/
theorem exec_strictTransaction (k : Keyword) (tr : List Ev) (v : Value) (h : k.exec.Trace tr v) :
    StrictTransaction cappedLen k tr := by
  rw [k.exec_eq_transact] at h
  rcases transact_trace h with ⟨tr₁, tr₂, rfl, hr, hfail⟩ | ⟨args, tr₁, tr₂, rfl, ha, hact⟩
  · exact strict_of_rejected hr ((failure_result _).trace hfail)
  · exact strict_of_accepted ha hact

/-- The events of `ZmqZ85DecodeStr("HelloWorld", dest, 8)`. -/
def decodeEvents : List Ev :=
  Host.bare.callEvents (fun c s => (c.failed, s)) .zmqZ85DecodeStr
    [.str (some (.ofString "HelloWorld")), .int 4096, .int 8] (Session.resolved ())

theorem exec_strictTransaction_z85DecodeStr :
    StrictTransaction cappedLen .zmqZ85DecodeStr decodeEvents ∧
      hostCalls decodeEvents = signatureRequests Keyword.zmqZ85DecodeStr.signature ∧
      decodeEvents.countP (fun e => IsZmq e.request) = 1 :=
  ⟨exec_strictTransaction .zmqZ85DecodeStr decodeEvents _ (Prog.trace_events _ _ _),
    by decide +kernel, by decide +kernel⟩

/-- The length of `ZmqRecvStr` reaches libzmq capped, not as it was parsed. -/
theorem exec_recvStr_caps_length : ¬ ∀ (k : Keyword) (tr : List Ev) (v : Value),
    k.exec.Trace tr v → StrictTransaction Int32.toUInt32 k tr := by
  intro h
  let s := Session.resolved ()
  let tr := Host.bare.callEvents (fun c s => (c.failed, s)) .zmqRecvStr
    [.int 7, .int 5000, .int 0] s
  have hstrict := h .zmqRecvStr tr _ (Prog.trace_events _ _ _)
  have hcalls : hostCalls tr = signatureRequests Keyword.zmqRecvStr.signature := by rfl
  have haccept : ∀ e ∈ tr, e.rejects = false := by decide
  obtain ⟨⟨socket, maxLen, flags, _⟩, hvalues, hop⟩ := hstrict.operation hcalls haccept
  have hmax : [Parsed.long 7, .long 5000, .long 0] = [.long socket, .long maxLen, .long flags] :=
    hvalues
  have hlen : 14 < tr.length := by decide
  have hreq : (tr[14]).request =
      .enter (.api (.recv 7 (.arr (localArray TB_RETURN_STRING_MAX)) 4096 0)) := rfl
  obtain ⟨r, hr⟩ := (hop _ (List.getElem_mem hlen)).1 _ hreq
  simp only [List.cons.injEq] at hmax
  obtain rfl : (5000 : LONG) = maxLen := Parsed.long.inj hmax.2.1
  injection hr with hrecv
  injection hrecv with _ _ hcapped _
  exact absurd hcapped (by decide)

end ThinBasicZmq
