import ThinBasicZmq.Keywords.EncodeBuffer
import ThinBasicZmq.Keywords.Lengths
import ThinBasicZmq.Keywords.Requests

/-!
# What the keywords do

Behind its parameters a keyword fills local arrays, calls one function of libzmq and returns a
number or a string. How it does that is gone through once, for any judgement that has a rule
for each of these operations. The rules may rely on what the keyword keeps to: pointers to
memory that is large enough, and bytes that were written before they are returned.
-/

namespace ThinBasicZmq

open Interaction

namespace Ref

/-- An address that a script gave as a number. What is there is not the module's concern. -/
def FromScript : Ref → Prop
  | addr _ => True
  | _ => False

/-- A string that ends. -/
def Terminated : Ref → Prop
  | str _ => True
  | arr cells => Memory.cstring? cells ≠ none
  | addr _ | long _ => False

/-- `n` bytes with known contents. -/
def Readable (n : ℕ) : Ref → Prop
  | long _ => n ≤ 4
  | r => r.bytes n ≠ none

/-- `n` bytes of the module's own. -/
def Writable (n : ℕ) : Ref → Prop
  | arr cells => n ≤ cells.length
  | long _ => n ≤ 4
  | addr _ | str _ => False

end Ref

namespace ZmqCall

/-- The pointers to the module's own memory, and to strings of the host, are what the function
needs. Nothing is said about the buffers whose addresses a script gives, and a size for which
`5 * size` overflows is left out for `zmq_z85_encode`. -/
def InBounds : ZmqCall → Prop
  | bind _ endpoint | unbind _ endpoint | connect _ endpoint | disconnect _ endpoint =>
    endpoint.Terminated
  | has capability => capability.Terminated
  | send _ buf len _ => buf.FromScript ∨ buf.Readable len.toNat
  | recv _ buf len _ => buf.FromScript ∨ buf.Writable len.toNat
  | setsockopt _ _ optval optvallen => optval.Readable optvallen.toNat
  | getsockopt _ _ optval optvallen => optval.Writable optvallen.toNat
  | curveKeypair z85Public z85Secret =>
    (z85Public.FromScript ∨ z85Public.Writable (ZMQ_CURVE_KEYSIZE_Z85 + 1)) ∧
      (z85Secret.FromScript ∨ z85Secret.Writable (ZMQ_CURVE_KEYSIZE_Z85 + 1))
  | curvePublic z85Public z85Secret =>
    (z85Public.FromScript ∨ z85Public.Writable (ZMQ_CURVE_KEYSIZE_Z85 + 1)) ∧
      z85Secret.Terminated
  | z85Encode dest data size =>
    (dest.FromScript ∨ (5 * size.toNat < 2 ^ 32 → dest.Writable (5 * size.toNat / 4 + 1))) ∧
      (data.FromScript ∨ data.Readable size.toNat)
  | z85Decode dest string =>
    (dest.FromScript ∨ ∀ t, string.cstring = some t → dest.Writable (4 * t.length / 5)) ∧
      string.Terminated
  | _ => True

/-- The documented results that the keywords rely on: `zmq_recv` stores what it received, as
far as there is room, `zmq_curve_public` a whole key, and `zmq_z85_encode` a string. -/
def Answers : (c : ZmqCall) → c.Resp → Prop
  | recv _ _ len _, (n, stored) => ¬ n < 0 → stored.length = min n.toUInt32.toNat len.toNat
  | curvePublic _ _, (rc, stored) => rc = 0 → ZMQ_CURVE_KEYSIZE_Z85 ≤ stored.length
  | z85Encode _ _ _, (out, stored) => out ≠ 0 → 0 ∈ stored
  | _, _ => True

end ZmqCall

/-- The array starts with `n` written bytes. -/
def Written (n : ℕ) (cells : List Cell) : Prop :=
  ∃ (t : List UInt8) (rest : List Cell), cells = t.map some ++ rest ∧ n ≤ t.length

/-- The array starts with written bytes, up to a terminator or to the longest result. -/
def WrittenString (cells : List Cell) : Prop :=
  ∃ (t : List UInt8) (rest : List Cell), cells = t.map some ++ rest ∧
    (TB_RETURN_STRING_MAX ≤ t.length ∨ 0 ∈ t)

/-- A judgement with a rule for each operation of these keywords. Where libzmq is assumed to keep
to its documentation, the rules may rely on its answers. -/
structure Closed (documented : Prop) (W : ∀ {α : Type}, Sdk α → (α → Prop) → Prop) : Prop
    extends Prog.Calculus @W where
  isLoaded : W zmqDynIsLoaded fun _ => True
  literal : ∀ {sz : CString}, W (ask (.literalAddr sz)) fun _ => True
  writes : ∀ {cap : ℕ} {p : Sdk (List Cell)} {cells : List Cell} {Q : List Cell → Prop},
    p.Settles (StoreWithin cap) cells → Q cells → W p Q
  api : ∀ {c : ZmqCall} {notLoaded : Sdk c.Resp}, zmqRequiredSymbols.elem c.symbol = true →
    c.InBounds → W notLoaded c.Answers →
    W (zmqApi c notLoaded) fun x => documented → c.Answers x
  optional : ∀ {c : ZmqCall} {args : List Ref} {failed : c.Resp}, c.InBounds → c.Answers failed →
    W (zmqApiOptional c args failed) fun x => documented → c.Answers x
  returns : ∀ {cells : List Cell}, (documented → WrittenString cells) →
    W (tbReturnString (some cells)) fun _ => True
  returnsN : ∀ {cells : List Cell} {n : ℕ}, (documented → Written n cells) →
    W (tbReturnStringN (some cells) n) fun _ => True

lemma terminated_copy (cap : ℕ) (s : ParsedString) :
    (Ref.arr (terminated cap s.ptr.text)).Terminated := by
  change Memory.cstring? _ ≠ none
  rw [cstring?_terminated s.ptr.zero_notMem_text]
  exact Option.some_ne_none _

lemma readable_of_bytes {r : Ref} {n : ℕ} {b : List UInt8} (h : r.bytes n = some b) :
    r.Readable n := by
  cases r with
  | addr p => cases h
  | long v => cases h
  | str t =>
    change Ref.bytes n _ ≠ none
    simp [h]
  | arr cells =>
    change Ref.bytes n _ ≠ none
    simp [h]

/-- Whatever is stored into an array is what it starts with. -/
lemma put_zero_take (cells : List Cell) (stored : List UInt8) :
    Memory.put cells 0 stored = (stored.take cells.length).map some ++ cells.drop stored.length := by
  simp [Memory.put, List.map_take]

/-- An array that was filled, and terminated in its last byte. -/
lemma put_terminator {cells : List Cell} {stored : List UInt8} {n : ℕ} (hcells : cells.length = n + 1)
    (hstored : n ≤ stored.length) : Memory.put (Memory.put cells 0 stored) n [0] =
      (stored.take n ++ [0]).map some ++ [] := by
  have hlen : (Memory.put cells 0 stored).length = n + 1 := by rw [Memory.length_put, hcells]
  have htake : (Memory.put cells 0 stored).take n = (stored.take n).map some := by
    rw [put_zero_take, hcells, List.take_append_of_le_length (by simp; omega), ← List.map_take,
      List.take_take, Nat.min_eq_left (Nat.le_succ n)]
  have hdrop : (Memory.put cells 0 stored).drop (n + 1) = [] := List.drop_of_length_le hlen.le
  have hlast : ([0] : List UInt8).map some = [some 0] := rfl
  rw [Memory.put, htake, hlen, List.length_singleton, hdrop, hlast, Nat.add_sub_cancel_left]
  simp

namespace Closed

variable {α : Type} {documented : Prop} {W : ∀ {α : Type}, Sdk α → (α → Prop) → Prop}
  (hW : Closed documented @W)

include hW

lemma done (a : α) : W (pure a : Sdk α) fun _ => True := hW.ret trivial

lemma tbReturnEmpty : W tbReturnEmpty fun _ => True :=
  hW.returns fun _ => ⟨[0], [], rfl, Or.inr List.mem_cons_self⟩

/-- A function of libzmq, with the constant that stands for its result when nothing is loaded. -/
lemma required {c : ZmqCall} {failed : c.Resp} (hc : zmqRequiredSymbols.elem c.symbol = true)
    (hin : c.InBounds) (hfailed : c.Answers failed) :
    W (zmqApi c (pure failed)) fun x => documented → c.Answers x :=
  hW.api hc hin (hW.ret hfailed)

lemma alone {c : ZmqCall} {failed : c.Resp} (hc : zmqRequiredSymbols.elem c.symbol = true)
    (hin : c.InBounds) (hfailed : c.Answers failed) : W (zmqApi c (pure failed)) fun _ => True :=
  hW.mono (hW.required hc hin hfailed) fun _ _ => trivial

/-- A function of libzmq, with what the keyword makes of its answer. -/
lemma returned {c : ZmqCall} {failed : c.Resp} {f : c.Resp → α}
    (hc : zmqRequiredSymbols.elem c.symbol = true) (hin : c.InBounds) (hfailed : c.Answers failed) :
    W (zmqApi c (pure failed) >>= fun x => pure (f x)) fun _ => True :=
  hW.bind (hW.alone hc hin hfailed) fun _ _ => hW.done _

lemma strerror (errnum : LONG) : W (zmqApiStrerror errnum) fun _ => True := by
  have hcall : (ZmqCall.strerrorFn errnum).InBounds := trivial
  apply hW.mono
  · exact hW.api rfl hcall (hW.bind hW.literal fun _ _ => hW.ret trivial)
  · exact fun _ _ => trivial

/-- A function that may be missing, with what the keyword makes of its answer. -/
lemma afterOptional {c : ZmqCall} {args : List Ref} {failed : c.Resp} {f : c.Resp → α}
    (hin : c.InBounds) (hfailed : c.Answers failed) :
    W (zmqApiOptional c args failed >>= fun x => pure (f x)) fun _ => True :=
  hW.bind (hW.optional hin hfailed) fun _ _ => hW.done _

/-- A program that goes on with a copy of a string that fits. -/
lemma afterCopy {cap : ℕ} {s : ParsedString} {f : List Cell → Sdk α} (h : s.len.toNat < cap)
    (hf : W (f (terminated cap s.ptr.text)) fun _ => True) :
    W (copyString cap s >>= f) fun _ => True := by
  rw [s.toNat_len] at h
  have hcopy : W (copyString cap s) fun copy => copy = terminated cap s.ptr.text :=
    hW.writes (copyString_settles h) rfl
  apply hW.bind hcopy
  rintro _ rfl
  exact hf

/-- The first byte of a local array is cleared. -/
lemma firstByte {cap : ℕ} (hcap : 0 < cap) :
    W (store (localArray cap) 0 [0]) fun cells => cells.length = cap := by
  have hroom : 0 + [(0 : UInt8)].length ≤ (localArray cap).length := by
    rw [length_localArray]
    exact hcap
  apply hW.writes (store_settles _ hroom)
  rw [Memory.length_put, length_localArray]

lemma endpointAction {api : Ptr → Ref → Sdk LONG}
    (hapi : ∀ socket endpoint, endpoint.Terminated → W (api socket endpoint) fun _ => True)
    (socket : LONG) (endpoint : ParsedString) :
    W (endpointAction api socket endpoint) fun _ => True := by
  apply Prog.Calculus.ite fun _ => hW.done _
  intro hlen
  apply hW.afterCopy (Nat.not_le.mp hlen)
  exact hapi _ _ (terminated_copy _ _)

lemma sendStrAction (socket flags : LONG) (msg : ParsedString) :
    W (sendStrAction socket msg flags) fun _ => True := by
  apply Prog.Calculus.ite fun _ => hW.done _
  intro hlen
  rw [msg.toNat_len] at hlen
  let rest : List Cell := List.replicate (TB_RETURN_STRING_MAX - msg.ptr.strlen) none
  have hcopy : W (if msg.len > 0 then memcpy (localArray TB_RETURN_STRING_MAX) msg.ptr msg.len
      else pure (localArray TB_RETURN_STRING_MAX)) fun copy => copy = msg.ptr.text.map some ++ rest :=
    hW.writes (copyBytes_settles (Nat.not_lt.mp hlen)) rfl
  apply hW.bind hcopy
  rintro _ rfl
  have hcall : (ZmqCall.send (tbPtrFromHandle socket) (.arr (msg.ptr.text.map some ++ rest)) msg.len
      flags).InBounds := Or.inr (readable_of_bytes (passesBytes_arr msg rest).2)
  exact hW.alone rfl hcall trivial

lemma setsockoptStrAction (socket option : LONG) (value : ParsedString) :
    W (setsockoptStrAction socket option value) fun _ => True := by
  apply Prog.Calculus.ite fun _ => hW.done _
  intro hlen
  apply hW.afterCopy (Nat.not_le.mp hlen)
  have hcall : (ZmqCall.setsockopt (tbPtrFromHandle socket) option
      (.arr (terminated 256 value.ptr.text)) value.len).InBounds :=
    readable_of_bytes (passesBytes_arr value _).2
  exact hW.alone rfl hcall trivial

lemma getsockoptIntAction (socket option : LONG) :
    W (getsockoptIntAction socket option) fun _ => True := by
  have hcall : (ZmqCall.getsockopt (tbPtrFromHandle socket) option (.long 0) 4).InBounds :=
    Nat.le_refl 4
  apply hW.bind (hW.required rfl hcall trivial)
  intro (rc, stored) _
  exact Prog.Calculus.ite (fun _ => hW.done _) fun _ => hW.done _

/-- The bytes that were received are in the array, and no others are returned. -/
lemma recvStrAction (socket maxLen flags : LONG) :
    W (recvStrAction socket maxLen flags) fun _ => True := by
  apply Prog.Calculus.ite fun _ => hW.tbReturnEmpty
  intro hpos
  have hlen : (cappedLen maxLen).toNat ≤ TB_RETURN_STRING_MAX := by
    rw [toNat_cappedLen (not_nonpos_iff.mp hpos)]
    exact Nat.min_le_right _ _
  have hcall : (ZmqCall.recv (tbPtrFromHandle socket) (.arr (localArray TB_RETURN_STRING_MAX))
      (cappedLen maxLen) flags).InBounds := by
    right
    change _ ≤ (localArray TB_RETURN_STRING_MAX).length
    rwa [length_localArray]
  have hnone : ZmqCall.Answers (.recv (tbPtrFromHandle socket)
      (.arr (localArray TB_RETURN_STRING_MAX)) (cappedLen maxLen) flags) ((-1 : LONG), []) := by
    intro h
    exact absurd (by decide) h
  apply hW.bind (hW.required rfl hcall hnone)
  intro (n, stored) hanswer
  apply Prog.Calculus.ite fun _ => hW.tbReturnEmpty
  intro hn
  apply hW.returnsN
  intro hdoc
  have hstored : stored.length = min n.toUInt32.toNat (cappedLen maxLen).toNat := hanswer hdoc hn
  have hput : Memory.put (localArray TB_RETURN_STRING_MAX) 0 stored =
      stored.map some ++ (localArray TB_RETURN_STRING_MAX).drop stored.length := by
    apply Memory.put_zero
    rw [length_localArray]
    omega
  refine ⟨stored, _, hput, ?_⟩
  change (if n.toUInt32 > cappedLen maxLen then cappedLen maxLen else n.toUInt32).toNat ≤ _
  by_cases hgt : n.toUInt32 > cappedLen maxLen
  · rw [if_pos hgt]
    have := UInt32.lt_iff_toNat_lt.mp hgt
    omega
  · rw [if_neg hgt]
    have := UInt32.lt_iff_toNat_lt.not.mp hgt
    omega

lemma curveKeypairAction (publicBuf secretBuf : LONG) :
    W (curveKeypairAction publicBuf secretBuf) fun _ => True := by
  apply Prog.Calculus.ite fun _ => hW.done _
  intro _
  exact hW.afterOptional ⟨Or.inl trivial, Or.inl trivial⟩ trivial

lemma curvePublicAction (publicBuf : LONG) (secret : ParsedString) :
    W (curvePublicAction publicBuf secret) fun _ => True := by
  apply Prog.Calculus.ite fun _ => hW.done _
  intro hguard
  have hlen : secret.len.toNat = ZMQ_CURVE_KEYSIZE_Z85 := not_not.mp (not_or.mp hguard).2
  apply hW.afterCopy (by omega)
  apply hW.afterOptional
  · exact ⟨Or.inl trivial, terminated_copy _ _⟩
  · intro h
    exact absurd h (by decide)

lemma curvePublicStrAction (secret : ParsedString) :
    W (curvePublicStrAction secret) fun _ => True := by
  apply Prog.Calculus.ite fun _ => hW.tbReturnEmpty
  intro hguard
  have hlen : secret.len.toNat = ZMQ_CURVE_KEYSIZE_Z85 := not_not.mp hguard
  apply hW.afterCopy (by omega)
  apply hW.bind (hW.firstByte (Nat.succ_pos _))
  intro publicBuf hpublic
  have hcall : (ZmqCall.curvePublic (.arr publicBuf)
      (.arr (terminated (ZMQ_CURVE_KEYSIZE_Z85 + 1) secret.ptr.text))).InBounds :=
    ⟨Or.inr hpublic.ge, terminated_copy _ _⟩
  apply hW.bind (hW.optional hcall fun h => absurd h (by decide))
  intro (rc, stored) hanswer
  apply Prog.Calculus.ite fun _ => hW.tbReturnEmpty
  intro hrc
  let filled : List Cell := Memory.put publicBuf 0 stored
  have hfilled : filled.length = ZMQ_CURVE_KEYSIZE_Z85 + 1 := by rw [Memory.length_put, hpublic]
  have hstore : W (store filled ZMQ_CURVE_KEYSIZE_Z85 [0])
      fun cells => cells = Memory.put filled ZMQ_CURVE_KEYSIZE_Z85 [0] :=
    hW.writes (store_settles _ hfilled.ge) rfl
  apply hW.bind hstore
  rintro _ rfl
  apply hW.returns
  intro hdoc
  have hkey : ZMQ_CURVE_KEYSIZE_Z85 ≤ stored.length := hanswer hdoc (not_not.mp hrc)
  exact ⟨_, _, put_terminator hpublic hkey, Or.inr (by simp)⟩

lemma z85EncodeAction (dest data size : LONG) :
    W (z85EncodeAction dest data size) fun _ => True := by
  apply Prog.Calculus.ite fun _ => hW.done _
  intro _
  apply hW.afterOptional
  · exact ⟨Or.inl trivial, Or.inl trivial⟩
  · intro h
    exact absurd rfl h

/-- The decoder gets a copy of the text, and an address of the script to write to. -/
lemma decode {cap : ℕ} (dest : LONG) (encoded : ParsedString) (h : encoded.len.toNat < cap) :
    W (copyString cap encoded >>= fun copy =>
      zmqApiZ85Decode (.addr (tbPtrFromHandle dest)) (.arr copy) >>= fun x =>
        pure (tbHandleFromPtr x.1)) fun _ => True := by
  apply hW.afterCopy h
  exact hW.afterOptional ⟨Or.inl trivial, terminated_copy _ _⟩ trivial

lemma z85DecodeAction (dest : LONG) (encoded : ParsedString) :
    W (z85DecodeAction dest encoded) fun _ => True := by
  apply Prog.Calculus.ite fun _ => hW.done _
  intro hguard
  simp only [not_or] at hguard
  exact hW.decode dest encoded (Nat.not_le.mp hguard.2.2.2)

lemma z85DecodeStrAction (encoded : ParsedString) (dest destSize : LONG) :
    W (z85DecodeStrAction encoded dest destSize) fun _ => True := by
  apply Prog.Calculus.ite fun _ => hW.done _
  intro hguard
  simp only [not_or] at hguard
  apply Prog.Calculus.ite fun _ => hW.done _
  intro _
  exact hW.decode dest encoded (Nat.not_le.mp hguard.2.2.2.2)

lemma z85EncodeStrAction (data size : LONG) :
    W (z85EncodeStrAction data size) fun _ => True := by
  apply Prog.Calculus.ite fun _ => hW.tbReturnEmpty
  intro _
  apply Prog.Calculus.ite fun _ => hW.tbReturnEmpty
  intro hguard
  apply hW.bind (hW.firstByte (by decide))
  intro dest hdest
  have hcall : (ZmqCall.z85Encode (.arr dest) (.addr (tbPtrFromHandle data)) size.toUInt32).InBounds := by
    refine ⟨Or.inr fun hwrap => ?_, Or.inl trivial⟩
    have hlen : ¬ (size.toUInt32 * 5 / 4).toNat ≥ TB_RETURN_STRING_MAX := (not_or.mp hguard).2
    rw [toNat_encodedLen, Nat.mod_eq_of_lt hwrap] at hlen
    change _ ≤ dest.length
    omega
  apply hW.bind (hW.optional hcall fun h => absurd rfl h)
  intro (out, stored) hanswer
  apply Prog.Calculus.ite fun _ => hW.tbReturnEmpty
  intro hout
  apply hW.returns
  intro hdoc
  refine ⟨_, _, put_zero_take dest stored, ?_⟩
  rw [hdest]
  by_cases hlong : TB_RETURN_STRING_MAX ≤ stored.length
  · left
    rw [List.length_take, Nat.min_eq_left hlong]
  · right
    rw [List.take_of_length_le (Nat.le_of_not_le hlong)]
    exact hanswer hdoc hout

/-- What the keywords do, behind their parameters. -/
theorem action {k : Keyword} (hinit : k ≠ .zmqLibraryInit) (hshutdown : k ≠ .zmqLibraryShutdown)
    (args : Args k.signature) : W (k.body.action args) fun _ => True := by
  cases k <;> refine hW.map (Q := fun _ => True) ?_ fun _ _ => trivial
  case zmqLibraryInit => exact absurd rfl hinit
  case zmqLibraryShutdown => exact absurd rfl hshutdown
  case zmqLibraryLoaded => exact hW.isLoaded
  case zmqStrerror => exact hW.bind (hW.strerror _) fun _ _ => hW.done _
  case zmqStrerrorString =>
    apply hW.bind (hW.strerror _)
    intro (p, msg) _
    exact hW.returns fun _ => ⟨_, _, (List.append_nil _).symm, Or.inr msg.nul⟩
  case zmqBind | zmqUnbind | zmqConnect | zmqDisconnect =>
    apply hW.endpointAction
    intro socket endpoint hendpoint
    exact hW.alone rfl hendpoint trivial
  case zmqSendStr => exact hW.sendStrAction _ _ _
  case zmqRecvStr => exact hW.recvStrAction _ _ _
  case zmqSetsockoptInt => exact hW.alone rfl (Nat.le_refl 4) trivial
  case zmqSetsockoptStr => exact hW.setsockoptStrAction _ _ _
  case zmqGetsockoptInt => exact hW.getsockoptIntAction _ _
  case zmqCurveKeypair => exact hW.curveKeypairAction _ _
  case zmqCurvePublic => exact hW.curvePublicAction _ _
  case zmqCurvePublicStr => exact hW.curvePublicStrAction _
  case zmqZ85Encode => exact hW.z85EncodeAction _ _ _
  case zmqZ85Decode => exact hW.z85DecodeAction _ _
  case zmqZ85EncodeStr => exact hW.z85EncodeStrAction _ _
  case zmqZ85DecodeStr => exact hW.z85DecodeStrAction _ _ _
  case zmqSend => exact hW.alone rfl (Or.inl trivial) trivial
  case zmqErrno | zmqHas | zmqCtxTerm | zmqCtxShutdown | zmqCtxSet | zmqCtxGet | zmqClose =>
    exact hW.alone rfl trivial trivial
  case zmqRecv =>
    apply hW.returned rfl
    · exact Or.inl trivial
    · exact fun h => absurd (by decide) h
  case zmqVersionMajor | zmqVersionMinor | zmqVersionPatch | zmqCtxNew | zmqSocket =>
    exact hW.returned rfl trivial trivial

end Closed

/-- Work that does not leave the module. -/
def IsInner : Req → Prop
  | .zmq _ _ => False
  | r => IsWork r

lemma IsInner.isWork {r : Req} (h : IsInner r) : IsWork r := by
  cases r <;> trivial

lemma IsLocal.isInner {r : Req} (h : IsLocal r) : IsInner r := by
  cases r <;> trivial

/-- What holds of the work inside the module, and of a call while libzmq is loaded. -/
lemma closed_guarantees {A : (r : Req) → r.Resp → Prop} {P : Req → Prop}
    (hinner : ∀ r, IsInner r → P r)
    (hzmq : ∀ (g : ZmqApiTable) fn c, A .readZmq g → g.loaded ≠ 0 → P (.zmq fn c)) :
    Closed False fun {_} (p : Sdk _) Q => p.Guarantees A P Q where
  toCalculus := Prog.calculus_guarantees A P
  isLoaded := ⟨hinner _ trivial, fun _ _ => ⟨hinner _ trivial, fun _ _ => trivial⟩⟩
  literal := ⟨hinner _ trivial, fun _ _ => trivial⟩
  writes hp hQ := hp.guarantees (fun _ hr => hinner _ hr.isLocal.isInner) hQ
  api _ _ hn := by
    rw [zmqApi_eq]
    refine ⟨hinner _ trivial, fun _ _ => ⟨hinner _ trivial, fun g hg => ?_⟩⟩
    apply Prog.Guarantees.ite
    · exact fun h => ⟨hzmq g _ _ hg h, fun _ _ => False.elim⟩
    · exact fun _ => hn.mono fun _ _ => False.elim
  optional {_ _ _} _ _ := by
    rw [zmqApiOptional_eq]
    refine ⟨hinner _ trivial, fun _ _ => ⟨hinner _ trivial, fun g hg => ?_⟩⟩
    apply Prog.Guarantees.ite
    · exact fun _ => False.elim
    · exact fun h => ⟨hzmq g _ _ hg (not_or.mp h).1, fun _ _ => False.elim⟩
  returns _ := (tbReturnString_result _).guarantees fun _ hr => hinner _ hr.isLocal.isInner
  returnsN _ := (tbReturnStringN_result _ _).guarantees fun _ hr => hinner _ hr.isLocal.isInner

/-- The program makes only requests of this kind. -/
def Works {α : Type} (p : Sdk α) : Prop := p.Only IsWork

lemma works_of_result {α : Type} {p : Sdk α} (hp : p.Only IsResult) : Works p :=
  hp.mono fun _ => IsResult.isWork

lemma action_works {k : Keyword} (hinit : k ≠ .zmqLibraryInit) (hshutdown : k ≠ .zmqLibraryShutdown)
    (args : Args k.signature) : Works (k.body.action args) := by
  have hworks : Closed False fun {_} (p : Sdk _) Q => p.Guarantees (fun _ _ => True) IsWork Q :=
    closed_guarantees (fun _ => IsInner.isWork) fun _ _ _ _ _ => trivial
  exact (hworks.action hinit hshutdown args).only

variable {P : Req → Prop}

/-- A property of every request that the operation of some keyword can make. -/
lemma action_only (hwork : ∀ r, IsWork r → P r) (hload : ∀ dir n, (zmqDynLoadDirectory dir n).Only P)
    (hunload : zmqDynUnload.Only P) (k : Keyword) (args : Args k.signature) :
    (k.body.action args).Only P := by
  have hmap : ∀ {γ δ : Type} {p : Sdk γ} (f : γ → δ), p.Only P → (f <$> p).Only P := by
    intro γ δ p f hp
    rw [map_eq_pure_bind]
    exact hp.bind fun _ => trivial
  by_cases hinit : k = .zmqLibraryInit
  · subst hinit
    exact hmap _ (hload _ _)
  by_cases hshutdown : k = .zmqLibraryShutdown
  · subst hshutdown
    exact hmap _ (hunload.bind fun _ => trivial)
  · exact (action_works hinit hshutdown args).mono hwork

/-- A property of every request that some keyword can make. -/
lemma exec_requests (htext : ∀ r, AsksText r → P r) (hwork : ∀ r, IsWork r → P r)
    (hload : ∀ dir n, (zmqDynLoadDirectory dir n).Only P) (hunload : zmqDynUnload.Only P)
    (k : Keyword) : k.exec.Only P := by
  rw [k.exec_eq_transact, transact_eq_parseCall]
  apply ((parseCall_only _).mono htext).bind
  intro parsed
  cases parsed with
  | none =>
    apply (failure_result _).mono
    intro r hr
    exact hwork r hr.isWork
  | some args => exact action_only hwork hload hunload k args

end ThinBasicZmq
