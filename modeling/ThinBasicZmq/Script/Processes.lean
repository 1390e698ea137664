import Mathlib.Data.Nat.Digits.Lemmas
import ThinBasicZmq.Interaction.Parties
import ThinBasicZmq.Keywords.Lengths
import ThinBasicZmq.Script.Multipart

/-!
# Scripts in processes of their own

Every process runs a script over a session of its own, and prints on its own console. The
libraries of all of them share the network. A call returns when the library lets it.
-/

namespace ThinBasicZmq

open Interaction

/-- What a script asks for. -/
inductive ScriptCall
  | keyword (k : Keyword) (args : List Arg)
  | printl (line : List UInt8)

abbrev ScriptCall.Resp : ScriptCall → Type
  | keyword _ _ => Value
  | printl _ => Unit

abbrev Script (α : Type) := Prog ScriptCall.Resp α

def Value.int : Value → LONG
  | .long v => v
  | .bstr _ => 0

namespace Script

def printl (line : List UInt8) : Script Unit := Prog.request (ScriptCall.printl line)

def zmqSendStr (hSocket : LONG) (msg : List UInt8) (flags : LONG) : Script Value :=
  Prog.request (ScriptCall.keyword .zmqSendStr
    [.int hSocket, .str (some (ScriptString.ofBytes msg).ptr), .int flags])

def zmqRecvStr (hSocket maxLen flags : LONG) : Script (List UInt8) :=
  Value.chars <$> (Prog.request (ScriptCall.keyword .zmqRecvStr
    [.int hSocket, .int maxLen, .int flags]) : Script Value)

def zmqDisconnect (hSocket : LONG) (addr : List UInt8) : Script Value :=
  Prog.request (ScriptCall.keyword .zmqDisconnect
    [.int hSocket, .str (some (ScriptString.ofBytes addr).ptr)])

def zmqLibraryInit (path : List UInt8) : Script LONG :=
  Value.int <$> (Prog.request (ScriptCall.keyword .zmqLibraryInit
    [.str (some (ScriptString.ofBytes path).ptr)]) : Script Value)

def zmqLibraryShutdown : Script Value := Prog.request (ScriptCall.keyword .zmqLibraryShutdown [])

def zmqCtxNew : Script LONG :=
  Value.int <$> (Prog.request (ScriptCall.keyword .zmqCtxNew []) : Script Value)

def zmqCtxShutdown (hContext : LONG) : Script Value :=
  Prog.request (ScriptCall.keyword .zmqCtxShutdown [.int hContext])

def zmqSocket (hContext stype : LONG) : Script LONG :=
  Value.int <$> (Prog.request (ScriptCall.keyword .zmqSocket
    [.int hContext, .int stype]) : Script Value)

def zmqClose (hSocket : LONG) : Script Value :=
  Prog.request (ScriptCall.keyword .zmqClose [.int hSocket])

/-- Prints the text in front of `ZmqStrerrorString(ZmqErrno())`. -/
def printlError (text : List UInt8) : Script Unit := do
  let errnum ← (Prog.request (ScriptCall.keyword .zmqErrno []) : Script Value)
  let msg ← (Prog.request (ScriptCall.keyword .zmqStrerrorString [.int errnum.int]) : Script Value)
  printl (text ++ msg.chars)

end Script

/-- Numbers are written without a NUL, and with at most 29 characters. -/
structure WritesNumbers (text : LONG → List UInt8) : Prop where
  zero_notMem : ∀ v, 0 ∉ text v
  length_le : ∀ v, (text v).length ≤ 29

/-- A number in decimal. -/
def decimal (v : LONG) : List UInt8 :=
  (if v.toInt < 0 then chars "-" else []) ++
    (if v.toInt = 0 then chars "0"
    else (Nat.digits 10 v.toInt.natAbs).reverse.map fun d => UInt8.ofNat (48 + d))

example : decimal (-120) = chars "-120" := by
  rfl

lemma writesNumbers_decimal : WritesNumbers decimal where
  zero_notMem v := by
    have hsign : (0 : UInt8) ∉ chars "-" := by decide
    have hzero : (0 : UInt8) ∉ chars "0" := by decide
    have hdigits : (0 : UInt8) ∉
        (Nat.digits 10 v.toInt.natAbs).reverse.map fun d => UInt8.ofNat (48 + d) := by
      simp only [List.mem_map, List.mem_reverse, not_exists, not_and]
      intro d hd h0
      have hlt := Nat.digits_lt_base (by omega : 1 < 10) hd
      have := congrArg UInt8.toNat h0
      rw [UInt8.toNat_ofNat', Nat.mod_eq_of_lt (by omega)] at this
      simp at this
    rw [decimal, List.mem_append, not_or]
    constructor
    · split
      · exact hsign
      · exact List.not_mem_nil
    · split
      · exact hzero
      · exact hdigits
  length_le v := by
    have hsign : (chars "-").length = 1 := rfl
    have hzero : (chars "0").length = 1 := rfl
    have hdigits : (Nat.digits 10 v.toInt.natAbs).length ≤ 10 := by
      rw [Nat.digits_length_le_iff (by omega)]
      have := v.toInt_lt
      have := v.le_toInt
      omega
    unfold decimal
    split <;> split <;> simp [hsign, hzero]
    · omega
    · omega

variable {κ L : Type} [DecidableEq κ]

structure Processes (κ L : Type) where
  sessions : Option κ → Session L
  console : Option κ → List (List UInt8)
  net : L

/-- Process `i` calls a keyword. `returns` says when a call that receives comes back. -/
def Processes.respondWhen (H : Option κ → Host) (lib : Option κ → Library L)
    (returns : L → Option κ → Prop) (i : Option κ) (w : Processes κ L) :
    (r : ScriptCall) → r.Resp → Processes κ L → Prop
  | .keyword k args, x, w' =>
    (k = .zmqRecvStr → returns w.net i) ∧
      ∃ s, (H i).call (lib i) k args { w.sessions i with lib := w.net } = (x, s) ∧
        w' = { w with sessions := Function.update w.sessions i s, net := s.lib }
  | .printl line, _, w' =>
    w' = { w with console := Function.update w.console i (w.console i ++ [line]) }

/-- One answer to a request, or none where the process has to wait. -/
def Processes.answerWhen (H : Option κ → Host) (lib : Option κ → Library L)
    (returns : L → Option κ → Prop) [∀ l i, Decidable (returns l i)] (i : Option κ)
    (w : Processes κ L) : (r : ScriptCall) → Option (r.Resp × Processes κ L)
  | .keyword k args =>
    if k = .zmqRecvStr → returns w.net i then
      let r := (H i).call (lib i) k args { w.sessions i with lib := w.net }
      some (r.1, { w with sessions := Function.update w.sessions i r.2, net := r.2.lib })
    else none
  | .printl line =>
    some ((), { w with console := Function.update w.console i (w.console i ++ [line]) })

lemma Processes.respond_answerWhen (H : Option κ → Host) (lib : Option κ → Library L)
    (returns : L → Option κ → Prop) [∀ l i, Decidable (returns l i)] (i : Option κ)
    (w : Processes κ L) (r : ScriptCall) (x : r.Resp × Processes κ L)
    (hx : Processes.answerWhen H lib returns i w r = some x) :
    Processes.respondWhen H lib returns i w r x.1 x.2 := by
  cases r with
  | keyword k args =>
    obtain ⟨hreturns, hanswer⟩ := Option.ite_none_right_eq_some.mp hx
    obtain rfl := Option.some.inj hanswer
    exact ⟨hreturns, _, rfl, rfl⟩
  | printl line =>
    obtain rfl := Option.some.inj hx
    rfl

lemma ready_update {sessions : Option κ → Session L} (h : ∀ i, (sessions i).Ready) (i : Option κ)
    {t : Session L} (ht : t.Ready) : ∀ j, (Function.update sessions i t j).Ready := by
  intro j
  by_cases hj : j = i
  · subst hj
    simpa using ht
  · simpa [hj] using h j

section

variable {H : Host} {lib : Library L}

lemma ofNat_length_ne {b : List UInt8} (hb : b.length ≤ TB_RETURN_STRING_MAX) :
    Int32.ofNat b.length ≠ -1 := by
  intro h
  have hint := congrArg Int32.toInt h
  rw [Int32.toInt_ofNat_of_lt (hb.trans_lt (by decide))] at hint
  have hneg : (-1 : LONG).toInt = -1 := rfl
  omega

lemma text_ofBytes_of_notMem {b : List UInt8} (h0 : 0 ∉ b) : (ScriptString.ofBytes b).text = b :=
  (Memory.text_append_terminator b []).symm.trans (Memory.text_append_zero h0 [])

lemma call_errno {s : Session L} (hs : s.Ready) : H.call lib .zmqErrno [] s =
    (.long (lib .errnoFn s.lib).1, { s with lib := (lib .errnoFn s.lib).2 }) :=
  Host.call_long .zmqErrno rfl () (Host.run_zmqApi hs.loaded)

lemma call_disconnect {s : Session L} (hs : s.Ready) (socket : LONG) {t : ScriptString}
    (ht : t.text.length < MAX_PATH) : ∃ endpoint,
      H.call lib .zmqDisconnect [.int socket, .str (some t.ptr)] s =
        (.long (lib (.disconnect (tbPtrFromHandle socket) endpoint) s.lib).1,
          { s with lib := (lib (.disconnect (tbPtrFromHandle socket) endpoint) s.lib).2 }) :=
  ⟨_, Host.call_long .zmqDisconnect rfl (socket, t.parsed (ht.trans (by decide)), ())
    (run_endpointAction socket ht (Host.run_zmqApi hs.loaded))⟩

/-- `ZmqStrerrorString` is one call of `zmq_strerror`, whatever text it returns. -/
lemma call_strerrorString {s : Session L} (hs : s.Ready) (errnum : LONG) :
    (H.call lib .zmqStrerrorString [.int errnum] s).2 =
      { s with lib := (lib (.strerrorFn errnum) s.lib).2 } := by
  let action : Sdk Bstr := zmqApiStrerror errnum >>= fun m => tbReturnString (some m.2.cells)
  have hcall : H.call lib .zmqStrerrorString [.int errnum] s =
      (Value.bstr <$> action).run (H.answer lib) s :=
    @Host.call_eq _ H lib .zmqStrerrorString (errnum, ()) s
  have hrun : (action.run (H.answer lib) s).2 =
      { s with lib := (lib (.strerrorFn errnum) s.lib).2 } := by
    rw [Prog.run_bind, Host.run_result (tbReturnString_result _)]
    exact congrArg Prod.snd (Host.run_zmqApi hs.loaded)
  rw [hcall, Prog.run_map]
  exact hrun

end

variable {H : Option κ → Host} {lib : Option κ → Library L} {returns : L → Option κ → Prop}
  {c w : Processes κ L} {i : Option κ}

/-- What `ZmqSendStr` does to the processes. -/
lemma respond_zmqSendStr (hs : (c.sessions i).Ready) (socket flags : LONG) {b : List UInt8}
    (h0 : 0 ∉ b) (hb : b.length ≤ TB_RETURN_STRING_MAX) {x : Value}
    (hw : Processes.respondWhen H lib returns i c (.keyword .zmqSendStr
      [.int socket, .str (some (ScriptString.ofBytes b).ptr), .int flags]) x w) :
    ∃ buf n t, buf.bytes n.toNat = some b ∧ t.Ready ∧
      x = .long (lib i (.send (tbPtrFromHandle socket) buf n flags) c.net).1 ∧
      w = { c with
        sessions := Function.update c.sessions i t
        net := (lib i (.send (tbPtrFromHandle socket) buf n flags) c.net).2 } := by
  obtain ⟨-, t, hcall, rfl⟩ := hw
  have htext := text_ofBytes_of_notMem h0
  obtain ⟨buf, n, hbytes, -, hsend⟩ := @call_sendStr _ (H i) (lib i) _ (hs.withLib c.net) socket
    flags (.ofBytes b) (by rwa [htext])
  rw [htext] at hbytes
  rw [hsend] at hcall
  obtain ⟨rfl, rfl⟩ := Prod.mk.inj hcall
  exact ⟨buf, n, _, hbytes, hs.withLib _, rfl, rfl⟩

/-- What `ZmqRecvStr` does to the processes. -/
lemma respond_recvStr (hs : (c.sessions i).Ready) (socket : LONG) {maxLen : LONG}
    (hpos : 0 < maxLen) (hmax : maxLen ≤ 4096) {n : LONG} {stored : List UInt8} {x : Value}
    (hrecv : (lib i (.recv (tbPtrFromHandle socket) (.arr (localArray TB_RETURN_STRING_MAX))
      maxLen.toUInt32 0) c.net).1 = (n, stored))
    (hw : Processes.respondWhen H lib returns i c (.keyword .zmqRecvStr
      [.int socket, .int maxLen, .int 0]) x w) :
    (∃ b, x = .bstr b ∧ (n < 0 → b = some []) ∧ (n = Int32.ofNat stored.length →
      stored.length ≤ maxLen.toUInt32.toNat → b = some stored)) ∧ ∃ t, t.Ready ∧
      w = { c with
        sessions := Function.update c.sessions i t
        net := (lib i (.recv (tbPtrFromHandle socket) (.arr (localArray TB_RETURN_STRING_MAX))
          maxLen.toUInt32 0) c.net).2 } := by
  obtain ⟨-, t, hcall, rfl⟩ := hw
  have hcapped : cappedLen maxLen = maxLen.toUInt32 := by
    rw [cappedLen, if_neg (Int32.not_lt.mpr hmax)]
  rw [← hcapped] at hrecv ⊢
  obtain ⟨b, hrecvStr, hfails, hfits⟩ := @call_recvStr _ (H i) (lib i) _ (hs.withLib c.net) socket
    maxLen 0 hpos _ _ _ (Prod.ext hrecv rfl)
  rw [hrecvStr] at hcall
  obtain ⟨rfl, rfl⟩ := Prod.mk.inj hcall
  exact ⟨⟨b, rfl, hfails, hfits⟩, _, hs.withLib _, rfl⟩

/-- What `ZmqRecvStr` does where `b` is received. -/
lemma respond_zmqRecvStr (hs : (c.sessions i).Ready) (socket : LONG) {maxLen : LONG}
    (hpos : 0 < maxLen) (hmax : maxLen ≤ 4096) {b : List UInt8}
    (hb : b.length ≤ maxLen.toUInt32.toNat) {x : Value}
    (hrecv : (lib i (.recv (tbPtrFromHandle socket) (.arr (localArray TB_RETURN_STRING_MAX))
      maxLen.toUInt32 0) c.net).1 = (Int32.ofNat b.length, b.take maxLen.toUInt32.toNat))
    (hw : Processes.respondWhen H lib returns i c (.keyword .zmqRecvStr
      [.int socket, .int maxLen, .int 0]) x w) :
    x = .bstr (some b) ∧ ∃ t, t.Ready ∧
      w = { c with
        sessions := Function.update c.sessions i t
        net := (lib i (.recv (tbPtrFromHandle socket) (.arr (localArray TB_RETURN_STRING_MAX))
          maxLen.toUInt32 0) c.net).2 } := by
  rw [List.take_of_length_le hb] at hrecv
  obtain ⟨⟨_, rfl, -, hfits⟩, ht⟩ := respond_recvStr hs socket hpos hmax hrecv hw
  exact ⟨congrArg Value.bstr (hfits rfl hb), ht⟩

/-- What `ZmqRecvStr` does where libzmq fails. -/
lemma respond_zmqRecvStr_failed (hs : (c.sessions i).Ready) (socket : LONG) {maxLen : LONG}
    (hpos : 0 < maxLen) (hmax : maxLen ≤ 4096) {x : Value}
    (hrecv : (lib i (.recv (tbPtrFromHandle socket) (.arr (localArray TB_RETURN_STRING_MAX))
      maxLen.toUInt32 0) c.net).1 = (-1, []))
    (hw : Processes.respondWhen H lib returns i c (.keyword .zmqRecvStr
      [.int socket, .int maxLen, .int 0]) x w) :
    x = .bstr (some []) ∧ ∃ t, t.Ready ∧
      w = { c with
        sessions := Function.update c.sessions i t
        net := (lib i (.recv (tbPtrFromHandle socket) (.arr (localArray TB_RETURN_STRING_MAX))
          maxLen.toUInt32 0) c.net).2 } := by
  obtain ⟨⟨_, rfl, hfails, -⟩, ht⟩ := respond_recvStr hs socket hpos hmax hrecv hw
  exact ⟨congrArg Value.bstr (hfails (by decide)), ht⟩

/-- What `ZmqDisconnect` does to the processes. -/
lemma respond_zmqDisconnect (hs : (c.sessions i).Ready) (socket : LONG) {addr : List UInt8}
    (h0 : 0 ∉ addr) (haddr : addr.length < MAX_PATH) {x : Value}
    (hw : Processes.respondWhen H lib returns i c (.keyword .zmqDisconnect
      [.int socket, .str (some (ScriptString.ofBytes addr).ptr)]) x w) :
    ∃ endpoint t, t.Ready ∧
      x = .long (lib i (.disconnect (tbPtrFromHandle socket) endpoint) c.net).1 ∧
      w = { c with
        sessions := Function.update c.sessions i t
        net := (lib i (.disconnect (tbPtrFromHandle socket) endpoint) c.net).2 } := by
  obtain ⟨-, t, hcall, rfl⟩ := hw
  obtain ⟨endpoint, hdisconnect⟩ := @call_disconnect _ (H i) (lib i) _ (hs.withLib c.net) socket
    (.ofBytes addr) (by rwa [text_ofBytes_of_notMem h0])
  rw [hdisconnect] at hcall
  obtain ⟨rfl, rfl⟩ := Prod.mk.inj hcall
  exact ⟨endpoint, _, hs.withLib _, rfl, rfl⟩

lemma console_grows {r : ScriptCall} {x : r.Resp}
    (hw : Processes.respondWhen H lib returns i c r x w) (j : Option κ) :
    c.console j <+: w.console j := by
  cases r with
  | keyword k args =>
    obtain ⟨-, t, -, rfl⟩ := hw
    exact List.prefix_refl _
  | printl line =>
    obtain rfl : w = _ := hw
    by_cases hj : j = i
    · subst hj
      simp
    · simp [hj]

/-- What is left of `printlError`. -/
inductive Reports (text : List UInt8) (p : Script Unit) : Prop
  | errno : p = Script.printlError text → Reports text p
  | strerror (errnum : LONG) :
      p = (do
        let msg ← (Prog.request (ScriptCall.keyword .zmqStrerrorString [.int errnum]) : Script Value)
        Script.printl (text ++ msg.chars)) → Reports text p
  | printl (msg : List UInt8) : p = Script.printl (text ++ msg) → Reports text p

/-- A call that only reads the last error. -/
def ReadsError : ZmqCall → Prop
  | .errnoFn | .strerrorFn _ => True
  | _ => False

/-- A step of `printlError` reads the error or prints it. -/
lemma Reports.reply {α : Type} {text : List UInt8} {p : Script Unit} {f : Unit → Script α}
    {r : ScriptCall} {next : r.Resp → Script α} (h : Reports text p) (hp : p >>= f = .ask r next)
    (hs : (c.sessions i).Ready) {x : r.Resp}
    (hw : Processes.respondWhen H lib returns i c r x w) :
    (∃ p' z t, Reports text p' ∧ next x = p' >>= f ∧ ReadsError z ∧ t.Ready ∧
      w = { c with
        sessions := Function.update c.sessions i t
        net := (lib i z c.net).2 }) ∨
    ∃ msg, next x = f () ∧
      w = { c with console := Function.update c.console i (c.console i ++ [text ++ msg]) } := by
  cases h with
  | errno he =>
    subst he
    cases hp
    obtain ⟨-, t, hcall, rfl⟩ := hw
    have herrno := @call_errno _ (H i) (lib i) _ (hs.withLib c.net)
    rw [hcall] at herrno
    obtain ⟨rfl, rfl⟩ := Prod.mk.inj herrno
    exact Or.inl ⟨_, .errnoFn, _, .strerror _ rfl, rfl, trivial, hs.withLib _, rfl⟩
  | strerror errnum he =>
    subst he
    cases hp
    obtain ⟨-, t, hcall, rfl⟩ := hw
    have hmsg := @call_strerrorString _ (H i) (lib i) _ (hs.withLib c.net) errnum
    rw [hcall] at hmsg
    obtain rfl : t = _ := hmsg
    exact Or.inl ⟨_, .strerrorFn errnum, _, .printl _ rfl, rfl, trivial, hs.withLib _, rfl⟩
  | printl msg he =>
    subst he
    cases hp
    obtain rfl : w = _ := hw
    exact Or.inr ⟨msg, rfl, rfl⟩

lemma Reports.ne_done {α : Type} {text : List UInt8} {p : Script Unit} (h : Reports text p)
    (f : Unit → Script α) (a : α) : p >>= f ≠ .done a := by
  cases h with
  | errno he =>
    subst he
    exact fun hp => nomatch hp
  | strerror errnum he =>
    subst he
    exact fun hp => nomatch hp
  | printl msg he =>
    subst he
    exact fun hp => nomatch hp

end ThinBasicZmq
