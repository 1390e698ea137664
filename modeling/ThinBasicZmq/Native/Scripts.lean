import ThinBasicZmq.Native.SocketOptions
import ThinBasicZmq.Script.Multipart

/-!
# Scripts for both implementations

A script is one program, run by the keywords of the SDK module or by the functions of the native
includes, as far as it uses those that take the same arguments in both and return the same. What
the two give to libzmq differs in where strings are kept: the keywords copy them into local
arrays of limited size. `ZmqGetsockoptInt` has another result in the native includes, and
`ZmqCurvePublicStr`, `ZmqZ85EncodeStr` and `ZmqZ85DecodeStr` have modules of their own.
-/

namespace ThinBasicZmq

open Interaction

/-- A call of one of the 23 functions with the values of its arguments. -/
inductive ApiCall
  | errno
  | strerror (errnum : LONG)
  | strerrorString (errnum : LONG)
  | has (capability : ScriptString)
  | ctxNew
  | ctxTerm (context : LONG)
  | ctxShutdown (context : LONG)
  | ctxSet (context options optval : LONG)
  | ctxGet (context options : LONG)
  | socket (context stype : LONG)
  | close (hSocket : LONG)
  | bind (hSocket : LONG) (addr : ScriptString)
  | unbind (hSocket : LONG) (addr : ScriptString)
  | connect (hSocket : LONG) (addr : ScriptString)
  | disconnect (hSocket : LONG) (addr : ScriptString)
  | send (hSocket buf buflen flags : LONG)
  | recv (hSocket buf buflen flags : LONG)
  | setsockoptInt (hSocket options optval : LONG)
  | setsockoptStr (hSocket options : LONG) (optval : ScriptString)
  | curveKeypair (z85Public z85Secret : LONG)
  | curvePublic (z85Public : LONG) (z85Secret : ScriptString)
  | z85Encode (dest data size : LONG)
  | z85Decode (dest : LONG) (string : ScriptString)

namespace ApiCall

/-- The keyword of the SDK module. -/
def keyword : ApiCall → Keyword
  | errno => .zmqErrno
  | strerror _ => .zmqStrerror
  | strerrorString _ => .zmqStrerrorString
  | has _ => .zmqHas
  | ctxNew => .zmqCtxNew
  | ctxTerm _ => .zmqCtxTerm
  | ctxShutdown _ => .zmqCtxShutdown
  | ctxSet _ _ _ => .zmqCtxSet
  | ctxGet _ _ => .zmqCtxGet
  | socket _ _ => .zmqSocket
  | close _ => .zmqClose
  | bind _ _ => .zmqBind
  | unbind _ _ => .zmqUnbind
  | connect _ _ => .zmqConnect
  | disconnect _ _ => .zmqDisconnect
  | send _ _ _ _ => .zmqSend
  | recv _ _ _ _ => .zmqRecv
  | setsockoptInt _ _ _ => .zmqSetsockoptInt
  | setsockoptStr _ _ _ => .zmqSetsockoptStr
  | curveKeypair _ _ => .zmqCurveKeypair
  | curvePublic _ _ => .zmqCurvePublic
  | z85Encode _ _ _ => .zmqZ85Encode
  | z85Decode _ _ => .zmqZ85Decode

/-- What the keyword parses. The host has a pointer for every string, also for an empty one: where
`thinBasic_ParseString` leaves NULL is not looked at here. -/
def args : ApiCall → List Arg
  | errno | ctxNew => []
  | strerror x | strerrorString x | ctxTerm x | ctxShutdown x | close x => [.int x]
  | has t => [.str (some t.ptr)]
  | ctxGet x y | socket x y | curveKeypair x y => [.int x, .int y]
  | bind x t | unbind x t | connect x t | disconnect x t | curvePublic x t | z85Decode x t =>
    [.int x, .str (some t.ptr)]
  | ctxSet x y z | setsockoptInt x y z | z85Encode x y z => [.int x, .int y, .int z]
  | send x y z w | recv x y z w => [.int x, .int y, .int z, .int w]
  | setsockoptStr x y t => [.int x, .int y, .str (some t.ptr)]

/-- The function of the native includes. -/
def native : ApiCall → Native Value
  | errno => .long <$> Native.zmqErrno
  | strerror errnum => (fun r => .long (.ofUInt32 r.1)) <$> Native.zmqStrerror errnum
  | strerrorString errnum => (.bstr ∘ some) <$> Native.zmqStrerrorString errnum
  | has capability => .long <$> Native.zmqHas capability.bytes
  | ctxNew => .long <$> Native.zmqCtxNew
  | ctxTerm context => .long <$> Native.zmqCtxTerm context
  | ctxShutdown context => .long <$> Native.zmqCtxShutdown context
  | ctxSet context options optval => .long <$> Native.zmqCtxSet context options optval
  | ctxGet context options => .long <$> Native.zmqCtxGet context options
  | socket context stype => .long <$> Native.zmqSocket context stype
  | close hSocket => .long <$> Native.zmqClose hSocket
  | bind hSocket addr => .long <$> Native.zmqBind hSocket addr.bytes
  | unbind hSocket addr => .long <$> Native.zmqUnBind hSocket addr.bytes
  | connect hSocket addr => .long <$> Native.zmqConnect hSocket addr.bytes
  | disconnect hSocket addr => .long <$> Native.zmqDisConnect hSocket addr.bytes
  | send hSocket buf buflen flags => .long <$> Native.zmqSend hSocket buf buflen.toUInt32 flags
  | recv hSocket buf buflen flags => .long <$> Native.zmqRecv hSocket buf buflen.toUInt32 flags
  | setsockoptInt hSocket options optval =>
    .long <$> Native.zmqSetsockoptInt hSocket options optval
  | setsockoptStr hSocket options optval =>
    .long <$> Native.zmqSetsockoptStr hSocket options optval.bytes
  | curveKeypair z85Public z85Secret => .long <$> Native.zmqCurveKeypair z85Public z85Secret
  | curvePublic z85Public z85Secret => .long <$> Native.zmqCurvePublic z85Public z85Secret.bytes
  | z85Encode dest data size => .long <$> Native.zmqZ85Encode dest data size.toUInt32
  | z85Decode dest string => .long <$> Native.zmqZ85Decode dest string.bytes

/-- The limits of the keywords. -/
def Fits : ApiCall → Prop
  | has t => t.text.length < 0x7FFFFFFF
  | bind _ t | unbind _ t | connect _ t | disconnect _ t => t.text.length < MAX_PATH
  | send _ _ n _ | recv _ _ n _ => 0 ≤ n
  | setsockoptStr _ _ t => 0 ∉ t.bytes ∧ t.bytes.length < 256
  | curveKeypair p q => p ≠ 0 ∧ q ≠ 0
  | curvePublic p t => p ≠ 0 ∧ t.text.length = ZMQ_CURVE_KEYSIZE_Z85
  | z85Encode p q n => p ≠ 0 ∧ q ≠ 0 ∧ 0 < n ∧ n &&& 3 = 0
  | z85Decode p t => p ≠ 0 ∧ 0 < t.text.length ∧ 5 ∣ t.text.length ∧ t.text.length < 256
  | _ => True

end ApiCall

variable {L : Type}

/-- Two pointers to the same string. -/
def SameString (r r' : Ref) : Prop := ∃ t, r.cstring = some t ∧ r'.cstring = some t

/-- Two pointers to the same `n` bytes. -/
def SameBytes (n : ℕ) (r r' : Ref) : Prop := ∃ b, r.bytes n = some b ∧ r'.bytes n = some b

/-- libzmq reads strings up to their NUL and option values up to their length. -/
structure Reads (lib : Library L) : Prop where
  has : ∀ r r' l, SameString r r' → lib (.has r) l = lib (.has r') l
  bind : ∀ socket r r' l, SameString r r' → lib (.bind socket r) l = lib (.bind socket r') l
  unbind : ∀ socket r r' l, SameString r r' → lib (.unbind socket r) l = lib (.unbind socket r') l
  connect : ∀ socket r r' l, SameString r r' →
    lib (.connect socket r) l = lib (.connect socket r') l
  disconnect : ∀ socket r r' l, SameString r r' →
    lib (.disconnect socket r) l = lib (.disconnect socket r') l
  setsockopt : ∀ socket option r r' n l, SameBytes n.toNat r r' →
    lib (.setsockopt socket option r n) l = lib (.setsockopt socket option r' n) l
  curvePublic : ∀ z85Public r r' l, SameString r r' →
    lib (.curvePublic z85Public r) l = lib (.curvePublic z85Public r') l
  z85Decode : ∀ dest r r' l, SameString r r' →
    lib (.z85Decode dest r) l = lib (.z85Decode dest r') l

/-- The parts of the interpreter that the native functions use. -/
structure Interpreter (L : Type) where
  heapAlloc : DWORD → L → Ptr × L
  heapFree : Ptr → L → L
  peekAsciiz : Ptr → L → List UInt8

def Interpreter.answer (I : Interpreter L) (lib : Library L) :
    (r : NativeReq) → L → r.Resp × L
  | .zmq c, l => lib c l
  | .heapAlloc size, l => I.heapAlloc size l
  | .heapFree p, l => ((), I.heapFree p l)
  | .peekAsciiz p, l => (I.peekAsciiz p l, l)

/-- `zmq_strerror` returns a pointer to a message. -/
def Interpreter.Explains (I : Interpreter L) (lib : Library L) : Prop :=
  ∀ errnum l, (lib (.strerrorFn errnum) l).1.1 ≠ 0 ∧
    I.peekAsciiz (lib (.strerrorFn errnum) l).1.1 (lib (.strerrorFn errnum) l).2 =
      (lib (.strerrorFn errnum) l).1.2.text ∧
    (lib (.strerrorFn errnum) l).1.2.strlen < TB_RETURN_STRING_MAX

variable {H : Host} {lib : Library L} {I : Interpreter L}

lemma cstring_copy (cap : ℕ) (t : ScriptString) :
    Ref.cstring (.arr (terminated cap t.text)) = some t.text :=
  cstring?_terminated (Memory.zero_notMem_text t.bytes) cap

lemma sameString_copy (cap : ℕ) (t : ScriptString) :
    SameString (.arr (terminated cap t.text)) (.str (.ofBytes t.bytes)) :=
  ⟨t.text, cstring_copy cap t, congrArg some (Memory.text_append_terminator t.bytes [])⟩

lemma sameString_ptr (t : ScriptString) : SameString (.str t.ptr) (.str (.ofBytes t.bytes)) :=
  ⟨t.text, congrArg some t.text_ptr, congrArg some (Memory.text_append_terminator t.bytes [])⟩

namespace ApiCall

/-- The call made by the keyword. -/
def sdkCall (H : Host) (lib : Library L) (c : ApiCall) (s : Session L) : Value × Session L :=
  H.call lib c.keyword c.args s

/-- The call made by the declared function. -/
def nativeCall (I : Interpreter L) (lib : Library L) (c : ApiCall) (l : L) : Value × L :=
  c.native.run (I.answer lib) l

/-- Both return the same, and leave libzmq in the same state. -/
def Agrees (H : Host) (I : Interpreter L) (lib : Library L) (c : ApiCall) (s : Session L) : Prop :=
  c.sdkCall H lib s = ((c.nativeCall I lib s.lib).1, { s with lib := (c.nativeCall I lib s.lib).2 })

/-- A keyword that is one call of libzmq, whose answer it converts. -/
lemma agrees_of_api (c : ApiCall) (args : Args c.keyword.signature) {s : Session L} (hs : s.Ready)
    (z : ZmqCall) (notLoaded : Sdk z.Resp) (f : z.Resp → Value)
    (hargs : c.args = args.toList c.keyword.signature)
    (hact : c.keyword.body.action args = f <$> zmqApi z notLoaded)
    (hnative : c.nativeCall I lib s.lib = (f (lib z s.lib).1, (lib z s.lib).2)) :
    c.Agrees H I lib s := by
  unfold Agrees sdkCall
  rw [hargs, Host.call_eq, hact, Prog.run_map, Host.run_zmqApi hs.loaded, hnative]

/-- A keyword that copies its endpoint first. -/
lemma agrees_of_endpoint (c : ApiCall) (api : Ptr → Ref → Sdk LONG) {s : Session L}
    (answer : Ref → LONG × L) {hSocket : LONG} {t : ScriptString} (ht : t.text.length < MAX_PATH)
    (args : Args c.keyword.signature) (hargs : c.args = args.toList c.keyword.signature)
    (hact : c.keyword.body.action args =
      .long <$> endpointAction api hSocket (t.parsed (ht.trans (by decide))))
    (hapi : ∀ r, (api (tbPtrFromHandle hSocket) r).run (H.answer lib) s =
      ((answer r).1, { s with lib := (answer r).2 }))
    (hsame : ∀ r r', SameString r r' → answer r = answer r')
    (hnative : c.nativeCall I lib s.lib = (.long (answer (.str (.ofBytes t.bytes))).1,
      (answer (.str (.ofBytes t.bytes))).2)) : c.Agrees H I lib s := by
  have hcopy := hsame _ _ (sameString_copy MAX_PATH t)
  unfold Agrees sdkCall
  rw [hargs, Host.call_eq, hact, Prog.run_map, run_endpointAction hSocket ht (hapi _), hcopy, hnative]

lemma agrees_strerrorString (hI : I.Explains lib) {s : Session L} (hs : s.Ready) (errnum : LONG) :
    (strerrorString errnum).Agrees H I lib s := by
  obtain ⟨hp, hpeek, hlen⟩ := hI errnum s.lib
  have hnative : (strerrorString errnum).nativeCall I lib s.lib =
      (.bstr (some (I.peekAsciiz (lib (.strerrorFn errnum) s.lib).1.1
        (lib (.strerrorFn errnum) s.lib).2)), (lib (.strerrorFn errnum) s.lib).2) :=
    congrArg (fun q : Native (List UInt8) => ((fun b => Value.bstr (some b)) <$> q).run
      (I.answer lib) (lib (.strerrorFn errnum) s.lib).2) (if_pos hp)
  unfold Agrees
  rw [hnative, hpeek]
  generalize hanswer : lib (.strerrorFn errnum) s.lib = r at hlen
  obtain ⟨⟨p, msg⟩, l⟩ := r
  obtain ⟨after, hmem⟩ := Memory.eq_text_append msg.nul
  have hcells : msg.cells = msg.text.map some ++ some 0 :: after.map some := by
    rw [CString.cells]
    exact (congrArg (List.map some) hmem).trans (by simp [CString.text])
  have hapi : (zmqApiStrerror errnum).run (H.answer lib) s = ((p, msg), { s with lib := l }) := by
    refine (Host.run_zmqApi hs.loaded).trans ?_
    rw [hanswer]
  have hrun : (zmqApiStrerror errnum >>= fun r => tbReturnString (some r.2.cells)).run
      (H.answer lib) s = (some msg.text, { s with lib := l }) := by
    rw [Prog.run_bind, hapi]
    change (tbReturnString (some msg.cells)).run (H.answer lib) _ = _
    rw [hcells]
    exact Host.run_tbReturnString (hs.withLib l).alloc _ msg.zero_notMem_text hlen
  exact Host.call_bstr .zmqStrerrorString rfl (errnum, ()) hrun

lemma agrees_setsockoptStr (hlib : Reads lib) {s : Session L} (hs : s.Ready)
    (hSocket options : LONG) {t : ScriptString} (h0 : 0 ∉ t.bytes) (ht : t.bytes.length < 256) :
    (setsockoptStr hSocket options t).Agrees H I lib s := by
  have htext : t.text = t.bytes :=
    (Memory.text_append_terminator t.bytes []).symm.trans (Memory.text_append_zero h0 [])
  obtain ⟨optval, hcarries, hnative⟩ := native_setsockoptStr hSocket options
    (ht.trans (by decide) : t.bytes.length < 2 ^ 32)
  have hsame := hlib.setsockopt (tbPtrFromHandle hSocket) options _ _ (.ofNat t.bytes.length) s.lib
    ⟨t.bytes, (carriesBytes_terminated ht).1, hcarries.1⟩
  have hcall := @call_setsockoptStr _ H lib s hs hSocket options t (by rwa [htext])
  rw [htext, hsame] at hcall
  have hrun : (setsockoptStr hSocket options t).nativeCall I lib s.lib =
      (.long (lib (.setsockopt (tbPtrFromHandle hSocket) options optval (.ofNat t.bytes.length))
        s.lib).1, (lib (.setsockopt (tbPtrFromHandle hSocket) options optval
          (.ofNat t.bytes.length)) s.lib).2) :=
    congrArg (fun q : Native LONG => (Value.long <$> q).run (I.answer lib) s.lib) hnative
  unfold Agrees
  rw [hrun]
  exact hcall

lemma run_optional {s : Session L} (hs : s.Ready) (hhelp : s.Helpers) {c : ZmqCall}
    (hc : c.symbol ∈ zmqOptionalSymbols) {args : List Ref} {failed : c.Resp}
    (hargs : args.any Ref.isNull = false) :
    (zmqApiOptional c args failed).run (H.answer lib) s =
      ((lib c s.lib).1, { s with lib := (lib c s.lib).2 }) :=
  Host.run_zmqApiOptional hs.loaded (hhelp.fn hc) hargs rfl

lemma agrees_curveKeypair {s : Session L} (hs : s.Ready) (hhelp : s.Helpers) {p q : LONG}
    (hp : p ≠ 0) (hq : q ≠ 0) : (curveKeypair p q).Agrees H I lib s := by
  have hargs : [Ref.addr (tbPtrFromHandle p), .addr (tbPtrFromHandle q)].any Ref.isNull = false := by
    simp [isNull_handle hp, isNull_handle hq]
  have hrun : (curveKeypairAction p q).run (H.answer lib) s =
      ((lib (.curveKeypair (.addr (tbPtrFromHandle p)) (.addr (tbPtrFromHandle q))) s.lib).1.1,
        { s with lib := (lib (.curveKeypair (.addr (tbPtrFromHandle p)) (.addr (tbPtrFromHandle q)))
          s.lib).2 }) := by
    unfold curveKeypairAction zmqApiCurveKeypair
    rw [if_neg (by simp [hp, hq]), Prog.run_bind, run_optional hs hhelp (by
      simp [zmqOptionalSymbols, ZmqCall.symbol]) hargs]
    rfl
  exact Host.call_long .zmqCurveKeypair rfl (p, q, ()) hrun

lemma agrees_curvePublic (hlib : Reads lib) {s : Session L} (hs : s.Ready) (hhelp : s.Helpers)
    {p : LONG} (hp : p ≠ 0) {t : ScriptString} (ht : t.text.length = ZMQ_CURVE_KEYSIZE_Z85) :
    (curvePublic p t).Agrees H I lib s := by
  have hmax : t.text.length < 0x7FFFFFFF := by
    rw [ht]
    decide
  have hargs : [Ref.addr (tbPtrFromHandle p),
      .arr (terminated (ZMQ_CURVE_KEYSIZE_Z85 + 1) t.text)].any Ref.isNull = false := by
    rw [List.any_cons, isNull_handle hp]
    rfl
  have hguard : ¬ (p = 0 ∨ (t.parsed hmax).len.toNat ≠ ZMQ_CURVE_KEYSIZE_Z85) := by
    rw [ParsedString.toNat_len, ScriptString.strlen_parsed]
    simp [hp, ht]
  have hcopy := @Host.run_copyString _ H lib (ZMQ_CURVE_KEYSIZE_Z85 + 1) (t.parsed hmax)
    (by rw [ScriptString.strlen_parsed, ht]; decide) s
  rw [ScriptString.text_parsed] at hcopy
  have hrun : (curvePublicAction p (t.parsed hmax)).run (H.answer lib) s =
      ((lib (.curvePublic (.addr (tbPtrFromHandle p))
          (.arr (terminated (ZMQ_CURVE_KEYSIZE_Z85 + 1) t.text))) s.lib).1.1,
        { s with lib := (lib (.curvePublic (.addr (tbPtrFromHandle p))
          (.arr (terminated (ZMQ_CURVE_KEYSIZE_Z85 + 1) t.text))) s.lib).2 }) := by
    unfold curvePublicAction zmqApiCurvePublic
    rw [if_neg hguard, Prog.run_bind, hcopy, Prog.run_bind, run_optional hs hhelp (by
      simp [zmqOptionalSymbols, ZmqCall.symbol]) hargs]
    rfl
  rw [hlib.curvePublic _ _ _ _ (sameString_copy _ t)] at hrun
  exact Host.call_long .zmqCurvePublic rfl (p, t.parsed hmax, ()) hrun

lemma agrees_z85Encode {s : Session L} (hs : s.Ready) (hhelp : s.Helpers) {p q n : LONG}
    (hp : p ≠ 0) (hq : q ≠ 0) (hn : 0 < n) (h4 : n &&& 3 = 0) :
    (z85Encode p q n).Agrees H I lib s := by
  have hargs : [Ref.addr (tbPtrFromHandle p), .addr (tbPtrFromHandle q)].any Ref.isNull = false := by
    simp [isNull_handle hp, isNull_handle hq]
  have hguard : ¬ (p = 0 ∨ q = 0 ∨ n ≤ 0 ∨ n &&& 3 ≠ 0) := by
    simp [hp, hq, h4, Int32.not_le.mpr hn]
  have hrun : (z85EncodeAction p q n).run (H.answer lib) s =
      (.ofUInt32 (lib (.z85Encode (.addr (tbPtrFromHandle p)) (.addr (tbPtrFromHandle q)) n.toUInt32)
          s.lib).1.1,
        { s with lib := (lib (.z85Encode (.addr (tbPtrFromHandle p)) (.addr (tbPtrFromHandle q))
          n.toUInt32) s.lib).2 }) := by
    unfold z85EncodeAction zmqApiZ85Encode
    rw [if_neg hguard, Prog.run_bind, run_optional hs hhelp (by
      simp [zmqOptionalSymbols, ZmqCall.symbol]) hargs]
    rfl
  exact Host.call_long .zmqZ85Encode rfl (p, q, n, ()) hrun

lemma agrees_z85Decode (hlib : Reads lib) {s : Session L} (hs : s.Ready) (hhelp : s.Helpers)
    {p : LONG} (hp : p ≠ 0) {t : ScriptString} (hpos : 0 < t.text.length) (h5 : 5 ∣ t.text.length)
    (ht : t.text.length < 256) : (z85Decode p t).Agrees H I lib s := by
  let x := t.parsed (ht.trans (by decide))
  have hlen : x.len.toNat = t.text.length := by
    rw [ParsedString.toNat_len, ScriptString.strlen_parsed]
  have hargs : [Ref.addr (tbPtrFromHandle p), .arr (terminated 256 t.text)].any Ref.isNull =
      false := by
    rw [List.any_cons, isNull_handle hp]
    rfl
  have hguard : ¬ (p = 0 ∨ x.len = 0 ∨ x.len % 5 ≠ 0 ∨ x.len.toNat ≥ 256) := by
    rintro (h | h | h | h)
    · exact hp h
    · rw [h] at hlen
      have : t.text.length = 0 := hlen.symm
      omega
    · apply h
      rw [← UInt32.toNat_inj, UInt32.toNat_mod, hlen]
      exact Nat.mod_eq_zero_of_dvd h5
    · omega
  have hcopy := @Host.run_copyString _ H lib 256 x (by rwa [ScriptString.strlen_parsed]) s
  rw [ScriptString.text_parsed] at hcopy
  have hrun : (z85DecodeAction p x).run (H.answer lib) s =
      (.ofUInt32 (lib (.z85Decode (.addr (tbPtrFromHandle p)) (.arr (terminated 256 t.text)))
          s.lib).1.1,
        { s with lib := (lib (.z85Decode (.addr (tbPtrFromHandle p)) (.arr (terminated 256 t.text)))
          s.lib).2 }) := by
    unfold z85DecodeAction zmqApiZ85Decode
    rw [if_neg hguard, Prog.run_bind, hcopy, Prog.run_bind, run_optional hs hhelp (by
      simp [zmqOptionalSymbols, ZmqCall.symbol]) hargs]
    rfl
  rw [hlib.z85Decode _ _ _ _ (sameString_copy _ t)] at hrun
  exact Host.call_long .zmqZ85Decode rfl (p, x, ()) hrun

/-- Within the limits the two are the same. -/
theorem agrees_of_fits (hlib : Reads lib) (hI : I.Explains lib) {s : Session L} (hs : s.Ready)
    (hhelp : s.Helpers) (c : ApiCall) (hc : c.Fits) : c.Agrees H I lib s := by
  cases c with
  | errno => exact agrees_of_api errno () hs .errnoFn _ .long rfl rfl rfl
  | strerror errnum =>
    let msg := CString.ofString "libzmq not loaded"
    exact agrees_of_api (strerror errnum) (errnum, ()) hs (.strerrorFn errnum)
      (do
        let p : Ptr ← ask (.literalAddr msg)
        return (p, msg))
      (fun r => .long (tbHandleFromPtr r.1)) rfl
      (by simp [msg, keyword, Keyword.body, Body.action, zmqApiStrerror]) rfl
  | strerrorString errnum => exact agrees_strerrorString hI hs errnum
  | has t =>
    have hsame := hlib.has _ _ s.lib (sameString_ptr t)
    refine agrees_of_api (has t) (t.parsed hc, ()) hs (.has (.str t.ptr)) _ .long rfl rfl ?_
    rw [hsame]
    rfl
  | ctxNew =>
    exact agrees_of_api ctxNew () hs .ctxNew (pure (0 : Ptr)) (fun p => .long (tbHandleFromPtr p))
      rfl (by simp [keyword, Keyword.body, Body.action, zmqApiCtxNew]) rfl
  | ctxTerm context =>
    exact agrees_of_api (ctxTerm context) (context, ()) hs (.ctxTerm (tbPtrFromHandle context)) _
      .long rfl rfl rfl
  | ctxShutdown context =>
    exact agrees_of_api (ctxShutdown context) (context, ()) hs
      (.ctxShutdown (tbPtrFromHandle context)) _ .long rfl rfl rfl
  | ctxSet context options optval =>
    exact agrees_of_api (ctxSet context options optval) (context, options, optval, ()) hs
      (.ctxSet (tbPtrFromHandle context) options optval) _ .long rfl rfl rfl
  | ctxGet context options =>
    exact agrees_of_api (ctxGet context options) (context, options, ()) hs
      (.ctxGet (tbPtrFromHandle context) options) _ .long rfl rfl rfl
  | socket context stype =>
    exact agrees_of_api (socket context stype) (context, stype, ()) hs
      (.socket (tbPtrFromHandle context) stype) (pure (0 : Ptr))
      (fun p => .long (tbHandleFromPtr p)) rfl
      (by simp [keyword, Keyword.body, Body.action, zmqApiSocket]) rfl
  | close hSocket =>
    exact agrees_of_api (close hSocket) (hSocket, ()) hs (.close (tbPtrFromHandle hSocket)) _ .long
      rfl rfl rfl
  | bind hSocket t =>
    exact agrees_of_endpoint (bind hSocket t) zmqApiBind
      (fun r => lib (.bind (tbPtrFromHandle hSocket) r) s.lib) hc (hSocket, t.parsed _, ()) rfl rfl
      (fun r => Host.run_zmqApi hs.loaded) (fun r r' => hlib.bind _ r r' _) rfl
  | unbind hSocket t =>
    exact agrees_of_endpoint (unbind hSocket t) zmqApiUnbind
      (fun r => lib (.unbind (tbPtrFromHandle hSocket) r) s.lib) hc (hSocket, t.parsed _, ()) rfl
      rfl (fun r => Host.run_zmqApi hs.loaded) (fun r r' => hlib.unbind _ r r' _) rfl
  | connect hSocket t =>
    exact agrees_of_endpoint (connect hSocket t) zmqApiConnect
      (fun r => lib (.connect (tbPtrFromHandle hSocket) r) s.lib) hc (hSocket, t.parsed _, ()) rfl
      rfl (fun r => Host.run_zmqApi hs.loaded) (fun r r' => hlib.connect _ r r' _) rfl
  | disconnect hSocket t =>
    exact agrees_of_endpoint (disconnect hSocket t) zmqApiDisconnect
      (fun r => lib (.disconnect (tbPtrFromHandle hSocket) r) s.lib) hc (hSocket, t.parsed _, ()) rfl
      rfl (fun r => Host.run_zmqApi hs.loaded) (fun r r' => hlib.disconnect _ r r' _) rfl
  | send hSocket buf buflen flags =>
    exact agrees_of_api (send hSocket buf buflen flags) (hSocket, buf, buflen, flags, ()) hs
      (.send (tbPtrFromHandle hSocket) (.addr (tbPtrFromHandle buf)) buflen.toUInt32 flags) _ .long
      rfl rfl rfl
  | recv hSocket buf buflen flags =>
    exact agrees_of_api (recv hSocket buf buflen flags) (hSocket, buf, buflen, flags, ()) hs
      (.recv (tbPtrFromHandle hSocket) (.addr (tbPtrFromHandle buf)) buflen.toUInt32 flags)
      (pure ((-1 : LONG), [])) (fun r => .long r.1) rfl
      (by simp [keyword, Keyword.body, Body.action, zmqApiRecv]) rfl
  | setsockoptInt hSocket options optval =>
    exact agrees_of_api (setsockoptInt hSocket options optval) (hSocket, options, optval, ()) hs
      (.setsockopt (tbPtrFromHandle hSocket) options (.long optval) 4) _ .long rfl rfl rfl
  | setsockoptStr hSocket options t => exact agrees_setsockoptStr hlib hs hSocket options hc.1 hc.2
  | curveKeypair z85Public z85Secret => exact agrees_curveKeypair hs hhelp hc.1 hc.2
  | curvePublic z85Public t => exact agrees_curvePublic hlib hs hhelp hc.1 hc.2
  | z85Encode dest data size =>
    exact agrees_z85Encode hs hhelp hc.1 hc.2.1 hc.2.2.1 hc.2.2.2
  | z85Decode dest t => exact agrees_z85Decode hlib hs hhelp hc.1 hc.2.1 hc.2.2.1 hc.2.2.2

end ApiCall

/-- The keyword returns what the function of the native includes leaves in the caller's variable,
and `-1` where that function reports a failure. -/
lemma call_getsockoptInt_native {s : Session L} (hs : s.Ready) (hSocket options optval : LONG) :
    H.call lib .zmqGetsockoptInt [.int hSocket, .int options] s =
      let r := (Native.zmqGetsockoptInt hSocket options optval).run (I.answer lib) s.lib
      (.long (if r.1.1 = 0 then r.1.2 else -1), { s with lib := r.2 }) := by
  rw [call_getsockoptInt_answer hs hSocket options rfl]
  generalize hanswer : lib (.getsockopt (tbPtrFromHandle hSocket) options (.long 0) 4) s.lib = x
  have hnative : (Native.zmqGetsockoptInt hSocket options optval).run (I.answer lib) s.lib =
      ((x.1.1, if x.1.1 = 0 then x.1.2.getD 0 else optval), x.2) := by
    rw [← hanswer]
    rfl
  simp only [hnative]
  by_cases hrc : x.1.1 = 0
  · rw [if_pos hrc, if_pos hrc, if_pos hrc]
  · rw [if_neg hrc, if_neg hrc]

/-- What a script asks for: a call of the API, or anything that both interpreters do alike. -/
inductive ScriptReq (Own : Type)
  | api (c : ApiCall)
  | own (o : Own)

variable {Own α : Type} {R : Own → Type}

abbrev ScriptReq.Resp (R : Own → Type) : ScriptReq Own → Type
  | api _ => Value
  | own o => R o

def callApi (c : ApiCall) : Prog (ScriptReq.Resp R) Value := Prog.request (ScriptReq.api c)

def ScriptReq.Fits : ScriptReq Own → Prop
  | api c => c.Fits
  | own _ => True

/-- A script that uses the SDK module. -/
def Host.script (H : Host) (lib : Library L) (own : (o : Own) → L → R o × L) :
    (r : ScriptReq Own) → Session L → r.Resp R × Session L
  | .api c, s => c.sdkCall H lib s
  | .own o, s => ((own o s.lib).1, { s with lib := (own o s.lib).2 })

/-- A script that uses the native includes. -/
def Interpreter.script (I : Interpreter L) (lib : Library L) (own : (o : Own) → L → R o × L) :
    (r : ScriptReq Own) → L → r.Resp R × L
  | .api c, l => c.nativeCall I lib l
  | .own o, l => own o l

/-- A script whose calls keep to the limits of the keywords in its native run does the same in
both: the answers, its result and what it leaves behind in libzmq. It is a script of the 23
functions of `ApiCall`, whose strings reach the keywords as pointers other than NULL. -/
theorem script_run_eq (H : Host) (I : Interpreter L) (lib : Library L)
    (own : (o : Own) → L → R o × L) (hlib : Reads lib) (hI : I.Explains lib) (s : Session L)
    (hs : s.Ready) (hhelp : s.Helpers) (p : Prog (ScriptReq.Resp R) α)
    (hp : ∀ e ∈ p.events (I.script lib own) s.lib, e.request.Fits) :
    p.run (H.script lib own) s = ((p.run (I.script lib own) s.lib).1,
      { s with lib := (p.run (I.script lib own) s.lib).2 }) := by
  have hstep : ∀ (r : ScriptReq Own) (t : Session L) (l : L), t = { s with lib := l } → r.Fits →
      (H.script lib own r t).1 = (I.script lib own r l).1 ∧
        (H.script lib own r t).2 = { s with lib := (I.script lib own r l).2 } := by
    rintro r t l rfl hr
    cases r with
    | api c =>
      have hagrees : c.Agrees H I lib { s with lib := l } :=
        ApiCall.agrees_of_fits hlib hI (hs.withLib l) hhelp c hr
      exact ⟨congrArg Prod.fst hagrees, congrArg Prod.snd hagrees⟩
    | own o => exact ⟨rfl, rfl⟩
  obtain ⟨hvalue, hstate⟩ := Prog.run_related hstep p (rfl : s = { s with lib := s.lib }) hp
  rw [← hvalue, ← hstate]

/-- A `libzmq.dll` that keeps the endpoints its sockets are connected to. -/
def connectLibrary : Library (List (List UInt8))
  | .connect _ endpoint, l =>
    match endpoint.cstring with
    | some t => ((0 : LONG), t :: l)
    | none => ((-1 : LONG), l)
  | .disconnect _ endpoint, l =>
    match endpoint.cstring with
    | some t => if t ∈ l then ((0 : LONG), l.erase t) else ((-1 : LONG), l)
    | none => ((-1 : LONG), l)
  | .errnoFn, l => ((2 : LONG), l)
  | .strerrorFn _, l => (((1 : Ptr), CString.ofString "No such file or directory"), l)
  | c, l => (c.failed, l)

/-- An interpreter that has nothing but that message in its memory. -/
def connectInterpreter : Interpreter (List (List UInt8)) where
  heapAlloc _ l := ((0 : Ptr), l)
  heapFree _ l := l
  peekAsciiz _ _ := (CString.ofString "No such file or directory").text

lemma reads_connectLibrary : Reads connectLibrary where
  has _ _ _ _ := rfl
  bind _ _ _ _ _ := rfl
  unbind _ _ _ _ _ := rfl
  connect := by
    rintro socket r r' l ⟨t, hr, hr'⟩
    simp only [connectLibrary, hr, hr']
  disconnect := by
    rintro socket r r' l ⟨t, hr, hr'⟩
    simp only [connectLibrary, hr, hr']
  setsockopt _ _ _ _ _ _ _ := rfl
  curvePublic _ _ _ _ _ := rfl
  z85Decode _ _ _ _ _ := rfl

/-- Disconnects from an endpoint, and asks for the reason if that fails. -/
def disconnectScript (hSocket : LONG) (addr : ScriptString) :
    Prog (ScriptReq.Resp fun _ : Empty => Unit) Value := do
  let rc ← callApi (.disconnect hSocket addr)
  if rc = .long 0 then return rc
  match ← callApi .errno with
  | .long n => callApi (.strerrorString n)
  | v => return v

lemma disconnectScript_fits (hSocket : LONG) {addr : ScriptString}
    (h : addr.text.length < MAX_PATH) : (disconnectScript hSocket addr).Only ScriptReq.Fits := by
  refine ⟨h, fun rc => Prog.Only.ite trivial ⟨trivial, fun errnum => ?_⟩⟩
  cases errnum with
  | long n => exact ⟨trivial, fun _ => trivial⟩
  | bstr b => trivial

/-- An endpoint that the socket was never connected to. -/
theorem script_run_eq_disconnect :
    ((disconnectScript 7 (.ofBytes [97])).run
        (Host.bare.script connectLibrary fun o => o.elim) (Session.resolved [])).1 =
      .bstr (some (CString.ofString "No such file or directory").text) := by
  have hmessage : (CString.ofString "No such file or directory").strlen < TB_RETURN_STRING_MAX := by
    decide
  have hexplains : connectInterpreter.Explains connectLibrary :=
    fun _ _ => ⟨(by decide : (1 : Ptr) ≠ 0), rfl, hmessage⟩
  have hfits := (disconnectScript_fits 7 (by decide : (ScriptString.ofBytes [97]).text.length < 260)).trace
    (Prog.trace_events (connectInterpreter.script connectLibrary fun o => o.elim) _ [])
  have hrun := script_run_eq Host.bare connectInterpreter connectLibrary (fun o => o.elim)
    reads_connectLibrary hexplains (Session.resolved []) (Session.ready_resolved _)
    (Session.helpers_resolved _) (disconnectScript 7 (.ofBytes [97])) hfits
  exact (congrArg Prod.fst hrun).trans (by decide +kernel)

end ThinBasicZmq
