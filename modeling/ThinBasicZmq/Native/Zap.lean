import Mathlib.Data.List.GetD
import ThinBasicZmq.Interaction.Execution
import ThinBasicZmq.Script.Multipart

/-!
# The authentication handler

`Plain.tbasic` answers the requests of libzmq's authentication protocol itself, on a REP socket
that it polls between its other work. A request and a reply are multipart messages, and
requests arrive at any time.
-/

namespace ThinBasicZmq

open Interaction

structure ZmqPollItemT where
  socket : LONG
  fd : LONG
  events : Int16
  revents : Int16

def ZMQ_POLLIN : Int16 := 1

/-- What the script asks for: calls of libzmq, and the contents of a new `Asciiz` variable. -/
inductive PlainReq
  | zmq (c : ZmqCall)
  | poll (items : ZmqPollItemT) (nitems timeout : LONG)
  | asciiz (size : ℕ)

/-- `poll` answers with what it leaves in `items`. -/
abbrev PlainReq.Resp : PlainReq → Type
  | zmq c => c.Resp
  | poll _ _ _ => LONG × ZmqPollItemT
  | asciiz _ => List UInt8

abbrev Plain (α : Type) := Prog PlainReq.Resp α

namespace Plain

def zmqSend (hSocket : LONG) (s : List UInt8) (flags : LONG) : Plain LONG :=
  Prog.request (PlainReq.zmq
    (.send hSocket.toUInt32 (.str (.ofBytes s)) (UInt32.ofNat s.length) flags))

def recvFrameStr (hSock : LONG) : Plain (List UInt8) := do
  let sBuf : List UInt8 ← Prog.request (PlainReq.asciiz 256)
  let r : LONG × List UInt8 ←
    Prog.request (PlainReq.zmq (.recv hSock.toUInt32 (.arr (sBuf.map some)) 256 0))
  let nBytes := r.1
  let sBuf := r.2 ++ sBuf.drop r.2.length
  if nBytes < 0 then return []
  -- `Left$(sBuf, nBytes)`
  else return (Memory.text sBuf).take nBytes.toInt.toNat

/-- Returns what it leaves in the global variable `nRc`. -/
def handleZapOnce (hSocketZap : LONG) (lpszUsername lpszPassword : List UInt8) : Plain LONG := do
  let r : LONG × ZmqPollItemT ← Prog.request (PlainReq.poll ⟨hSocketZap, 0, ZMQ_POLLIN, 0⟩ 1 50)
  let nRc := r.1
  if nRc ≤ 0 then return nRc
  let sVersion ← recvFrameStr hSocketZap
  if sVersion = [] then return nRc
  let sSequence ← recvFrameStr hSocketZap
  let _sDomain ← recvFrameStr hSocketZap
  let _sAddress ← recvFrameStr hSocketZap
  let _sRoutingId ← recvFrameStr hSocketZap
  let _sMechanism ← recvFrameStr hSocketZap
  let sUser ← recvFrameStr hSocketZap
  let sPass ← recvFrameStr hSocketZap
  let _ ← zmqSend hSocketZap sVersion ZMQ_SNDMORE
  let _ ← zmqSend hSocketZap sSequence ZMQ_SNDMORE
  let sEmpty := []
  if sUser = lpszUsername ∧ sPass = lpszPassword then
    let _ ← zmqSend hSocketZap (chars "200") ZMQ_SNDMORE
    let _ ← zmqSend hSocketZap (chars "OK") ZMQ_SNDMORE
    let _ ← zmqSend hSocketZap (chars "anonymous") ZMQ_SNDMORE
    let _ ← zmqSend hSocketZap sEmpty 0
    return nRc
  else
    let _ ← zmqSend hSocketZap (chars "400") ZMQ_SNDMORE
    let _ ← zmqSend hSocketZap (chars "Invalid username or password") ZMQ_SNDMORE
    let _ ← zmqSend hSocketZap sEmpty ZMQ_SNDMORE
    let _ ← zmqSend hSocketZap sEmpty 0
    return nRc

/-- The handler is called again and again, with other work of the script before each call. -/
def handleZap (hSocketZap : LONG) (lpszUsername lpszPassword : List UInt8) :
    List (Plain Unit) → Plain (List LONG)
  | [] => pure []
  | work :: rest => do
    work
    let nRc ← handleZapOnce hSocketZap lpszUsername lpszPassword
    let nRcs ← handleZap hSocketZap lpszUsername lpszPassword rest
    return nRc :: nRcs

end Plain

abbrev Message := List (List UInt8)

structure Rep where
  /-- all requests that have arrived so far -/
  requests : List Message
  /-- how many of them have been begun -/
  taken : ℕ
  /-- the frames of the last one that have not been received -/
  reading : Message
  /-- the last request is complete, and its reply is not -/
  replying : Bool
  reply : Message
  sent : List Message

namespace Rep

def arrive (v : Rep) (new : List Message) : Rep := { v with requests := v.requests ++ new }

def recv (v : Rep) (n : ℕ) : (LONG × List UInt8) × Rep :=
  if v.replying then ((-1, []), v)
  else
    match v.reading, v.requests[v.taken]? with
    | f :: rest, _ => ((Int32.ofNat f.length, f.take n),
        { v with reading := rest, replying := rest.isEmpty })
    | [], some (f :: rest) => ((Int32.ofNat f.length, f.take n),
        { v with taken := v.taken + 1, reading := rest, replying := rest.isEmpty })
    | [], _ => ((-1, []), v)

def send (v : Rep) (b : List UInt8) (more : Bool) : Rep :=
  if !v.replying then v
  else if more then { v with reply := v.reply ++ [b] }
  else { v with reply := [], sent := v.sent ++ [v.reply ++ [b]], replying := false }

def Readable (v : Rep) : Prop :=
  v.replying = false ∧ (v.reading ≠ [] ∨ v.taken < v.requests.length)

instance (v : Rep) : Decidable v.Readable :=
  inferInstanceAs (Decidable (v.replying = false ∧ (v.reading ≠ [] ∨ v.taken < v.requests.length)))

end Rep

/-- A frame up to its NUL. Frames that are missing are empty. -/
def frameText (q : Message) (i : ℕ) : List UInt8 := Memory.text (q.getD i [])

/-- What libzmq promises about its requests: at most eight frames, none of them longer than 255
bytes, and a version in front. -/
structure ZapRequest (q : Message) : Prop where
  length_le : q.length ≤ 8
  frame_le : ∀ f ∈ q, f.length ≤ 255
  version : frameText q 0 ≠ []

/-- The calls that have to do with a socket. -/
def PlainReq.On (socket : Ptr) : PlainReq → Prop
  | zmq (.recv s _ _ _) | zmq (.send s _ _ _) | zmq (.close s) | zmq (.bind s _)
  | zmq (.unbind s _) | zmq (.connect s _) | zmq (.disconnect s _) | zmq (.setsockopt s _ _ _) =>
    s = socket
  | zmq (.ctxTerm _) | zmq (.ctxShutdown _) => True
  | _ => False

/-- An environment in which `socket` is a REP socket that gets such requests. `zmq_poll` reports
it exactly if there is something to receive. -/
structure ZapSocket {W : Type} (E : Environment PlainReq.Resp W) (socket : Ptr) (view : W → Rep) :
    Prop where
  recv : ∀ {w buf n x w'}, E.respond w (.zmq (.recv socket buf n 0)) x w' →
    ∃ new, (∀ q ∈ new, ZapRequest q) ∧ (x, view w') = ((view w).arrive new).recv n.toNat
  send : ∀ {w buf n flags b x w'}, buf.bytes n.toNat = some b →
    E.respond w (.zmq (.send socket buf n flags)) x w' →
    ∃ new, (∀ q ∈ new, ZapRequest q) ∧
      view w' = ((view w).arrive new).send b (flags = ZMQ_SNDMORE)
  poll : ∀ {w} {items : ZmqPollItemT} {nitems timeout x w'}, items.socket.toUInt32 = socket →
    E.respond w (.poll items nitems timeout) x w' →
    ∃ new, (∀ q ∈ new, ZapRequest q) ∧ view w' = (view w).arrive new ∧
      (0 < x.1 ↔ (view w').Readable)
  other : ∀ {w r x w'}, ¬ r.On socket → E.respond w r x w' →
    ∃ new, (∀ q ∈ new, ZapRequest q) ∧ view w' = (view w).arrive new

/-- The frames of the reply to a request, for the configured name and password. -/
def zapReply (lpszUsername lpszPassword : List UInt8) (q : Message) : Message :=
  [frameText q 0, frameText q 1] ++
    if frameText q 6 = lpszUsername ∧ frameText q 7 = lpszPassword then
      [chars "200", chars "OK", chars "anonymous", []]
    else [chars "400", chars "Invalid username or password", [], []]

lemma zapReply_accepted {lpszUsername lpszPassword : List UInt8} {q : Message}
    (h : frameText q 6 = lpszUsername ∧ frameText q 7 = lpszPassword) :
    zapReply lpszUsername lpszPassword q =
      [frameText q 0, frameText q 1, chars "200", chars "OK", chars "anonymous", []] := by
  unfold zapReply
  rw [if_pos h]
  rfl

lemma zapReply_rejected {lpszUsername lpszPassword : List UInt8} {q : Message}
    (h : ¬ (frameText q 6 = lpszUsername ∧ frameText q 7 = lpszPassword)) :
    zapReply lpszUsername lpszPassword q =
      [frameText q 0, frameText q 1, chars "400", chars "Invalid username or password", [], []] := by
  unfold zapReply
  rw [if_neg h]
  rfl

namespace Rep

/-- Every request that was begun is answered, at most the last one excepted. -/
def Answers (answer : Message → Message) (v : Rep) : Prop :=
  ∃ j, j ≤ v.taken ∧ v.taken ≤ j + 1 ∧ v.sent = (v.requests.take j).map answer

/-- No request is being served. -/
structure AtRest (answer : Message → Message) (v : Rep) : Prop where
  valid : ∀ q ∈ v.requests, ZapRequest q
  taken : v.taken ≤ v.requests.length
  reading : v.reading = []
  replying : v.replying = false
  reply : v.reply = []
  sent : v.sent = (v.requests.take v.taken).map answer

/-- Of request `t`, which is `q`, `i` frames have been received, and the frames `fs` of its reply
have been sent. -/
structure Serving (answer : Message → Message) (t : ℕ) (q : Message) (i : ℕ) (fs : Message)
    (v : Rep) : Prop where
  valid : ∀ q ∈ v.requests, ZapRequest q
  taken : v.taken = t + 1
  request : v.requests[t]? = some q
  reading : v.reading = q.drop i
  replying : v.replying = (q.drop i).isEmpty
  reply : v.reply = fs
  sent : v.sent = (v.requests.take t).map answer

variable {answer : Message → Message} {v : Rep} {t : ℕ} {q : Message} {i : ℕ} {fs : Message}
  {new : List Message}

lemma AtRest.answers (h : v.AtRest answer) : v.Answers answer :=
  ⟨v.taken, le_rfl, Nat.le_succ _, h.sent⟩

lemma AtRest.readable_iff (h : v.AtRest answer) : v.Readable ↔ v.taken < v.requests.length := by
  simp [Rep.Readable, h.replying, h.reading]

lemma Serving.answers (h : v.Serving answer t q i fs) : v.Answers answer :=
  ⟨t, by rw [h.taken]; omega, h.taken.le, h.sent⟩

lemma AtRest.arrive (h : v.AtRest answer) (hnew : ∀ q ∈ new, ZapRequest q) :
    (v.arrive new).AtRest answer where
  valid q hq := (List.mem_append.mp hq).elim (h.valid q) (hnew q)
  taken := by
    have := h.taken
    simp only [Rep.arrive, List.length_append]
    omega
  reading := h.reading
  replying := h.replying
  reply := h.reply
  sent := by
    simp only [Rep.arrive, List.take_append_of_le_length h.taken]
    exact h.sent

lemma Serving.taken_le (h : v.Serving answer t q i fs) : v.taken ≤ v.requests.length := by
  have hlt := (List.getElem?_eq_some_iff.mp h.request).1
  rw [h.taken]
  omega

lemma Serving.arrive (h : v.Serving answer t q i fs) (hnew : ∀ q ∈ new, ZapRequest q) :
    (v.arrive new).Serving answer t q i fs where
  valid q hq := (List.mem_append.mp hq).elim (h.valid q) (hnew q)
  taken := h.taken
  request := by
    have hlt := (List.getElem?_eq_some_iff.mp h.request).1
    simp only [Rep.arrive, List.getElem?_append_left hlt]
    exact h.request
  reading := h.reading
  replying := h.replying
  reply := h.reply
  sent := by
    have hlt := (List.getElem?_eq_some_iff.mp h.request).1
    simp only [Rep.arrive, List.take_append_of_le_length hlt.le]
    exact h.sent

/-- The next frame of the request, or none when there is no more. -/
lemma Serving.recv (h : v.Serving answer t q i fs) (n : ℕ) :
    (v.recv n).2.Serving answer t q (i + 1) fs ∧
      (v.recv n).1 = match q[i]? with
        | some f => (Int32.ofNat f.length, f.take n)
        | none => (-1, []) := by
  by_cases hi : i < q.length
  · have hdrop : q.drop i = q[i] :: q.drop (i + 1) := List.drop_eq_getElem_cons hi
    have hreading := h.reading
    have hreplying := h.replying
    rw [hdrop] at hreading hreplying
    have hrecv : v.recv n = ((Int32.ofNat q[i].length, q[i].take n),
        { v with reading := q.drop (i + 1), replying := (q.drop (i + 1)).isEmpty }) := by
      rw [Rep.recv, hreading, hreplying]
      rfl
    rw [hrecv, List.getElem?_eq_getElem hi]
    exact ⟨⟨h.valid, h.taken, h.request, rfl, rfl, h.reply, h.sent⟩, rfl⟩
  · have hdrop : q.drop i = [] := List.drop_eq_nil_of_le (Nat.not_lt.mp hi)
    have hdrop' : q.drop (i + 1) = [] := List.drop_eq_nil_of_le (by omega)
    have hrecv : v.recv n = ((-1, []), v) := by
      simp [Rep.recv, h.replying, hdrop]
    rw [hrecv, List.getElem?_eq_none (Nat.not_lt.mp hi)]
    refine ⟨⟨h.valid, h.taken, h.request, ?_, ?_, h.reply, h.sent⟩, rfl⟩
    · rw [h.reading, hdrop, hdrop']
    · rw [h.replying, hdrop, hdrop']

/-- The first frame of the next request. -/
lemma AtRest.recv (h : v.AtRest answer) (hmore : v.taken < v.requests.length) (n : ℕ) :
    ∃ q, ZapRequest q ∧ (v.recv n).2.Serving answer v.taken q 1 [] ∧
      (v.recv n).1 = (Int32.ofNat (q.getD 0 []).length, (q.getD 0 []).take n) := by
  let q := v.requests[v.taken]
  have hq : v.requests[v.taken]? = some q := List.getElem?_eq_getElem hmore
  have hmem : q ∈ v.requests := List.getElem_mem hmore
  cases hframes : q with
  | nil =>
    have := (h.valid q hmem).version
    simp [hframes, frameText, Memory.text] at this
  | cons f rest =>
    have hrecv : v.recv n = ((Int32.ofNat f.length, f.take n),
        { v with taken := v.taken + 1, reading := rest, replying := rest.isEmpty }) := by
      simp [Rep.recv, h.reading, h.replying, hq, hframes]
    rw [hrecv]
    rw [hframes] at hq hmem
    exact ⟨f :: rest, h.valid _ hmem, ⟨h.valid, rfl, hq, rfl, rfl, h.reply, h.sent⟩, rfl⟩

/-- One more frame of the reply. -/
lemma Serving.send (h : v.Serving answer t q i fs) (hi : q.length ≤ i) (b : List UInt8) :
    (v.send b true).Serving answer t q i (fs ++ [b]) := by
  have hdrop : q.drop i = [] := List.drop_eq_nil_of_le hi
  have hsend : v.send b true = { v with reply := v.reply ++ [b] } := by
    simp [Rep.send, h.replying, hdrop]
  rw [hsend]
  exact ⟨h.valid, h.taken, h.request, h.reading, h.replying, by rw [h.reply], h.sent⟩

/-- The last frame of the reply. -/
lemma Serving.send_last (h : v.Serving answer t q i fs) (hi : q.length ≤ i) {b : List UInt8}
    (hb : fs ++ [b] = answer q) : (v.send b false).AtRest answer ∧ (v.send b false).taken = v.taken := by
  have hdrop : q.drop i = [] := List.drop_eq_nil_of_le hi
  have hsend : v.send b false =
      { v with reply := [], sent := v.sent ++ [v.reply ++ [b]], replying := false } := by
    simp [Rep.send, h.replying, hdrop]
  rw [hsend]
  refine ⟨⟨h.valid, h.taken_le, by rw [h.reading, hdrop], rfl, rfl, ?_⟩, rfl⟩
  -- the requests that were begun are those before, and the one that is answered now
  simp only [h.taken, h.sent, h.reply, hb, List.take_add_one, h.request, Option.toList_some,
    List.map_append, List.map_cons, List.map_nil]

end Rep

/-! ## The calls of the handler -/

variable {W : Type} {E : Environment PlainReq.Resp W} {view : W → Rep} {hSocketZap : LONG}
  {answer : Message → Message} {t : ℕ} {q : Message} {i : ℕ} {fs : Message} {w : W}

lemma Memory.take_text_append (f rest : List UInt8) :
    (Memory.text (f ++ rest)).take f.length = Memory.text f := by
  induction f with
  | nil => rfl
  | cons b f ih =>
    by_cases hb : b = 0
    · simp [Memory.text, hb]
    · simpa [Memory.text, hb] using ih

lemma toInt_ofNat_length {f : List UInt8} (hf : f.length ≤ 255) :
    (Int32.ofNat f.length).toInt = f.length :=
  Int32.toInt_ofNat_of_lt (by omega)

/-- What `RecvFrameStr` returns, and what it does to the socket. -/
lemma ensures_recvFrameStr {P : Rep → Prop} {Q : List UInt8 → Rep → Prop}
    (hE : ZapSocket E hSocketZap.toUInt32 view) (hP : ∀ v, P v → v.Answers answer)
    (harrive : ∀ v new, P v → (∀ q ∈ new, ZapRequest q) → P (v.arrive new))
    (hrecv : ∀ v, P v → (v.recv 256).2.Answers answer ∧
      ((∃ f : List UInt8, f.length ≤ 255 ∧
          (v.recv 256).1 = (Int32.ofNat f.length, f.take 256) ∧ Q (Memory.text f) (v.recv 256).2) ∨
        ((v.recv 256).1 = (-1, []) ∧ Q [] (v.recv 256).2))) (h : P (view w)) :
    E.Ensures (fun w => (view w).Answers answer) (fun a w => Q a (view w))
      (Plain.recvFrameStr hSocketZap) w := by
  refine ⟨hP _ h, ?_⟩
  intro sBuf w₁ hbuf
  have hoff : ¬ (PlainReq.asciiz 256).On hSocketZap.toUInt32 := fun hon => hon
  obtain ⟨new₁, hnew₁, hw₁⟩ := hE.other hoff hbuf
  have hP₁ := harrive _ _ h hnew₁
  rw [← hw₁] at hP₁
  refine ⟨hP _ hP₁, ?_⟩
  intro x w₂ hx
  obtain ⟨new₂, hnew₂, hboth⟩ := hE.recv hx
  have hx₂ : x = (((view w₁).arrive new₂).recv 256).1 := congrArg Prod.fst hboth
  have hw₂ : view w₂ = (((view w₁).arrive new₂).recv 256).2 := congrArg Prod.snd hboth
  have hP₂ := harrive _ _ hP₁ hnew₂
  obtain ⟨hanswers, hcases⟩ := hrecv _ hP₂
  rw [← hw₂] at hanswers hcases
  change E.Ensures _ _ (if x.1 < 0 then pure [] else
    pure ((Memory.text (x.2 ++ sBuf.drop x.2.length)).take x.1.toInt.toNat)) w₂
  rcases hcases with ⟨f, hf, hvalue, hQ⟩ | ⟨hvalue, hQ⟩
  · have hall : f.take 256 = f := List.take_of_length_le (by omega)
    have hxf : x = (Int32.ofNat f.length, f) := by rw [hx₂, hvalue, hall]
    have hpos : ¬ Int32.ofNat f.length < 0 := by
      rw [Int32.lt_iff_toInt_lt, toInt_ofNat_length hf]
      exact Int.not_lt.mpr (Int.natCast_nonneg _)
    rw [hxf, if_neg hpos, toInt_ofNat_length hf, Int.toNat_natCast, Memory.take_text_append]
    exact ⟨hanswers, hQ⟩
  · have hxf : x = (-1, []) := hx₂.trans hvalue
    rw [hxf, if_pos (by decide)]
    exact ⟨hanswers, hQ⟩

/-- One `ZmqSend` of the handler. -/
lemma ensures_zmqSend {P Q : Rep → Prop} (hE : ZapSocket E hSocketZap.toUInt32 view)
    (hP : ∀ v, P v → v.Answers answer)
    (harrive : ∀ v new, P v → (∀ q ∈ new, ZapRequest q) → P (v.arrive new)) {b : List UInt8}
    (hb : b.length < 2 ^ 32) {flags : LONG}
    (hsend : ∀ v, P v → (v.send b (flags = ZMQ_SNDMORE)).Answers answer ∧
      Q (v.send b (flags = ZMQ_SNDMORE))) (h : P (view w)) :
    E.Ensures (fun w => (view w).Answers answer) (fun _ w => Q (view w))
      (Plain.zmqSend hSocketZap b flags) w := by
  have hn : (UInt32.ofNat b.length).toNat = b.length := by
    rw [UInt32.toNat_ofNat']
    exact Nat.mod_eq_of_lt hb
  have hbytes : Ref.bytes (UInt32.ofNat b.length).toNat (.str (.ofBytes b)) = some b := by
    rw [hn]
    simp [Ref.bytes, CString.ofBytes]
  refine ⟨hP _ h, ?_⟩
  intro x w' hx
  obtain ⟨new, hnew, hw'⟩ := hE.send hbytes hx
  obtain ⟨hanswers, hQ⟩ := hsend _ (harrive _ _ h hnew)
  rw [← hw'] at hanswers hQ
  exact ⟨hanswers, hQ⟩

variable {α : Type} {t : ℕ} {f : List UInt8 → Plain α} {Q : α → W → Prop}

lemma length_frame_le (hq : ZapRequest q) (i : ℕ) : (q.getD i []).length ≤ 255 := by
  by_cases hi : i < q.length
  · rw [List.getD_eq_getElem q [] hi]
    exact hq.frame_le _ (List.getElem_mem hi)
  · rw [List.getD_eq_default q [] (Nat.not_lt.mp hi)]
    exact Nat.zero_le _

lemma ensures_recv_first (hE : ZapSocket E hSocketZap.toUInt32 view)
    (h : (view w).AtRest answer) (hmore : (view w).taken < (view w).requests.length)
    (hf : ∀ q w', ZapRequest q → (view w').Serving answer (view w).taken q 1 [] →
      E.Ensures (fun w => (view w).Answers answer) Q (f (frameText q 0)) w') :
    E.Ensures (fun w => (view w).Answers answer) Q
      (Plain.recvFrameStr hSocketZap >>= f) w := by
  let P (v : Rep) := v.AtRest answer ∧ v.taken = (view w).taken ∧ v.taken < v.requests.length
  apply Environment.ensures_bind
  apply Environment.Ensures.mono
  · apply ensures_recvFrameStr (P := P) (Q := fun a v => ∃ q, ZapRequest q ∧
      v.Serving answer (view w).taken q 1 [] ∧ a = frameText q 0) hE
    · intro v hv
      exact hv.1.answers
    · rintro v new ⟨hv, htaken, hlt⟩ hnew
      refine ⟨hv.arrive hnew, htaken, ?_⟩
      simp only [Rep.arrive, List.length_append]
      omega
    · rintro v ⟨hv, htaken, hlt⟩
      obtain ⟨q, hq, hserving, hvalue⟩ := hv.recv hlt 256
      rw [htaken] at hserving
      exact ⟨hserving.answers, Or.inl ⟨_, length_frame_le hq 0, hvalue, q, hq, hserving, rfl⟩⟩
    · exact ⟨h, rfl, hmore⟩
  · rintro a w' ⟨q, hq, hserving, rfl⟩
    exact hf q w' hq hserving

lemma ensures_recv_next (hE : ZapSocket E hSocketZap.toUInt32 view) (hq : ZapRequest q)
    (h : (view w).Serving answer t q i [])
    (hf : ∀ w', (view w').Serving answer t q (i + 1) [] →
      E.Ensures (fun w => (view w).Answers answer) Q (f (frameText q i)) w') :
    E.Ensures (fun w => (view w).Answers answer) Q
      (Plain.recvFrameStr hSocketZap >>= f) w := by
  apply Environment.ensures_bind
  apply Environment.Ensures.mono
  · apply ensures_recvFrameStr (P := Rep.Serving answer t q i []) (Q := fun a v =>
      v.Serving answer t q (i + 1) [] ∧ a = frameText q i) hE
    · intro v hv
      exact hv.answers
    · intro v new hv hnew
      exact hv.arrive hnew
    · intro v hv
      obtain ⟨hserving, hvalue⟩ := hv.recv 256
      refine ⟨hserving.answers, ?_⟩
      by_cases hi : i < q.length
      · rw [List.getElem?_eq_getElem hi] at hvalue
        have hframe : frameText q i = Memory.text q[i] := by
          rw [frameText, List.getD_eq_getElem q [] hi]
        exact Or.inl ⟨q[i], hq.frame_le _ (List.getElem_mem hi), hvalue, hserving, hframe.symm⟩
      · rw [List.getElem?_eq_none (Nat.not_lt.mp hi)] at hvalue
        have hframe : frameText q i = [] := by
          rw [frameText, List.getD_eq_default q [] (Nat.not_lt.mp hi)]
          rfl
        exact Or.inr ⟨hvalue, hserving, hframe.symm⟩
    · exact h
  · rintro a w' ⟨hserving, rfl⟩
    exact hf w' hserving

lemma ensures_send_next (hE : ZapSocket E hSocketZap.toUInt32 view) (hi : q.length ≤ i)
    (h : (view w).Serving answer t q i fs) {b : List UInt8} (hb : b.length < 2 ^ 32)
    {g : LONG → Plain α}
    (hg : ∀ x w', (view w').Serving answer t q i (fs ++ [b]) →
      E.Ensures (fun w => (view w).Answers answer) Q (g x) w') :
    E.Ensures (fun w => (view w).Answers answer) Q
      (Plain.zmqSend hSocketZap b ZMQ_SNDMORE >>= g) w := by
  apply Environment.ensures_bind
  apply Environment.Ensures.mono
  · apply ensures_zmqSend (P := Rep.Serving answer t q i fs)
      (Q := Rep.Serving answer t q i (fs ++ [b])) hE
    · intro v hv
      exact hv.answers
    · intro v new hv hnew
      exact hv.arrive hnew
    · exact hb
    · intro v hv
      have hsend := hv.send hi b
      exact ⟨hsend.answers, hsend⟩
    · exact h
  · intro x w' hw'
    exact hg x w' hw'

lemma ensures_send_last (hE : ZapSocket E hSocketZap.toUInt32 view) (hi : q.length ≤ i)
    (h : (view w).Serving answer t q i fs) {b : List UInt8} (hb : b.length < 2 ^ 32)
    (hreply : fs ++ [b] = answer q) {g : LONG → Plain α}
    (hg : ∀ x w', (view w').AtRest answer → (view w').taken = t + 1 →
      E.Ensures (fun w => (view w).Answers answer) Q (g x) w') :
    E.Ensures (fun w => (view w).Answers answer) Q (Plain.zmqSend hSocketZap b 0 >>= g) w := by
  apply Environment.ensures_bind
  apply Environment.Ensures.mono
  · apply ensures_zmqSend (P := Rep.Serving answer t q i fs)
      (Q := fun v => v.AtRest answer ∧ v.taken = t + 1) hE
    · intro v hv
      exact hv.answers
    · intro v new hv hnew
      exact hv.arrive hnew
    · exact hb
    · intro v hv
      obtain ⟨hrest, htaken⟩ := hv.send_last hi hreply
      exact ⟨hrest.answers, hrest, htaken.trans hv.taken⟩
    · exact h
  · rintro x w' ⟨hrest, htaken⟩
    exact hg x w' hrest htaken

/-- A run of the handler answers one request if it finds the socket readable, and if it answers
none then there is none left. -/
lemma ensures_handleZapOnce (lpszUsername lpszPassword : List UInt8)
    (hE : ZapSocket E hSocketZap.toUInt32 view)
    (h : (view w).AtRest (zapReply lpszUsername lpszPassword)) :
    E.Ensures (fun w => (view w).Answers (zapReply lpszUsername lpszPassword))
      (fun nRc w' => (view w').AtRest (zapReply lpszUsername lpszPassword) ∧
        (view w').taken = (view w).taken + (if 0 < nRc then 1 else 0) ∧
        (¬ 0 < nRc → (view w').taken = (view w').requests.length))
      (Plain.handleZapOnce hSocketZap lpszUsername lpszPassword) w := by
  refine ⟨h.answers, ?_⟩
  intro x w₁ hx
  obtain ⟨new, hnew, hw₁, hreadable⟩ := hE.poll rfl hx
  have h₁ := h.arrive hnew
  have htaken : (view w₁).taken = (view w).taken := by
    rw [hw₁]
    rfl
  rw [← hw₁] at h₁
  rw [h₁.readable_iff] at hreadable
  apply Environment.ensures_ite
  · intro hle
    have hnot : ¬ 0 < x.1 := Int32.not_lt.mpr hle
    refine ⟨h₁.answers, h₁, ?_, ?_⟩
    · rw [if_neg hnot, htaken]
      rfl
    · intro _
      exact le_antisymm h₁.taken (Nat.not_lt.mp (hreadable.not.mp hnot))
  intro hle
  have hpos : 0 < x.1 := Int32.not_le.mp hle
  have hmore : (view w₁).taken < (view w₁).requests.length := hreadable.mp hpos
  apply ensures_recv_first hE h₁ hmore
  intro q w₂ hq h₂
  rw [if_neg hq.version]
  apply ensures_recv_next hE hq h₂
  intro w₃ h₃
  apply ensures_recv_next hE hq h₃
  intro w₄ h₄
  apply ensures_recv_next hE hq h₄
  intro w₅ h₅
  apply ensures_recv_next hE hq h₅
  intro w₆ h₆
  apply ensures_recv_next hE hq h₆
  intro w₇ h₇
  apply ensures_recv_next hE hq h₇
  intro w₈ h₈
  apply ensures_recv_next hE hq h₈
  intro w₉ h₉
  have hi : q.length ≤ 1 + 1 + 1 + 1 + 1 + 1 + 1 + 1 := hq.length_le
  have hframe : ∀ i, (frameText q i).length < 2 ^ 32 := fun i =>
    ((Memory.length_text_le _).trans (length_frame_le hq i)).trans_lt (by omega)
  have hone : (view w).taken + 1 = (view w).taken + if 0 < x.1 then 1 else 0 := by
    rw [if_pos hpos]
  apply ensures_send_next hE hi h₉ (hframe 0)
  intro _ w₁₀ h₁₀
  apply ensures_send_next hE hi h₁₀ (hframe 1)
  intro _ w₁₁ h₁₁
  apply Environment.ensures_ite
  · intro hcredentials
    apply ensures_send_next hE hi h₁₁ (by decide)
    intro _ w₁₂ h₁₂
    apply ensures_send_next hE hi h₁₂ (by decide)
    intro _ w₁₃ h₁₃
    apply ensures_send_next hE hi h₁₃ (by decide)
    intro _ w₁₄ h₁₄
    apply ensures_send_last hE hi h₁₄ (by decide) (zapReply_accepted hcredentials).symm
    intro _ w' hrest htaken'
    exact ⟨hrest.answers, hrest, by rw [htaken', htaken, hone], fun hnot => absurd hpos hnot⟩
  · intro hcredentials
    apply ensures_send_next hE hi h₁₁ (by decide)
    intro _ w₁₂ h₁₂
    apply ensures_send_next hE hi h₁₂ (by decide)
    intro _ w₁₃ h₁₃
    apply ensures_send_next hE hi h₁₃ (by decide)
    intro _ w₁₄ h₁₄
    apply ensures_send_last hE hi h₁₄ (by decide) (zapReply_rejected hcredentials).symm
    intro _ w' hrest htaken'
    exact ⟨hrest.answers, hrest, by rw [htaken', htaken, hone], fun hnot => absurd hpos hnot⟩

namespace Rep

lemma requests_recv (v : Rep) (n : ℕ) : (v.recv n).2.requests = v.requests := by
  unfold Rep.recv
  split
  · rfl
  · split <;> rfl

lemma requests_send (v : Rep) (b : List UInt8) (more : Bool) :
    (v.send b more).requests = v.requests := by
  unfold Rep.send
  split
  · rfl
  · split <;> rfl

end Rep

/-- The calls that the handler makes. -/
def PlainReq.OfHandler (socket : Ptr) : PlainReq → Prop
  | poll items _ _ => items.socket.toUInt32 = socket
  | asciiz _ => True
  | zmq (.recv s _ _ flags) => s = socket ∧ flags = 0
  | zmq (.send s buf n _) => s = socket ∧ ∃ b, buf.bytes n.toNat = some b
  | zmq _ => False

/-- No request is lost. -/
lemma requests_respond {r : PlainReq} {x : r.Resp} {w' : W}
    (hE : ZapSocket E hSocketZap.toUInt32 view) (hr : r.OfHandler hSocketZap.toUInt32)
    (hx : E.respond w r x w') : (view w).requests <+: (view w').requests := by
  cases r with
  | poll items nitems timeout =>
    obtain ⟨new, -, hw', -⟩ := hE.poll hr hx
    exact ⟨new, (congrArg Rep.requests hw').symm⟩
  | asciiz size =>
    obtain ⟨new, -, hw'⟩ := hE.other id hx
    exact ⟨new, (congrArg Rep.requests hw').symm⟩
  | zmq c =>
    cases c with
    | recv socket buf n flags =>
      obtain ⟨rfl, rfl⟩ := hr
      obtain ⟨new, -, hboth⟩ := hE.recv hx
      have hw' : view w' = (((view w).arrive new).recv n.toNat).2 := congrArg Prod.snd hboth
      rw [hw', Rep.requests_recv]
      exact List.prefix_append _ new
    | send socket buf n flags =>
      obtain ⟨rfl, b, hb⟩ := hr
      obtain ⟨new, -, hw'⟩ := hE.send hb hx
      rw [hw', Rep.requests_send]
      exact List.prefix_append _ new
    | _ => exact hr.elim

lemma zmqSend_calls (s : List UInt8) (flags : LONG) :
    (Plain.zmqSend hSocketZap s flags).Only (PlainReq.OfHandler hSocketZap.toUInt32) := by
  have hle : (UInt32.ofNat s.length).toNat ≤ (CString.ofBytes s).mem.length := by
    rw [UInt32.toNat_ofNat']
    apply (Nat.mod_le _ _).trans
    simp [CString.ofBytes]
  exact ⟨⟨rfl, _, if_pos hle⟩, fun _ => trivial⟩

lemma recvFrameStr_calls :
    (Plain.recvFrameStr hSocketZap).Only (PlainReq.OfHandler hSocketZap.toUInt32) :=
  ⟨trivial, fun _ => ⟨⟨rfl, rfl⟩, fun _ => .ite trivial trivial⟩⟩

lemma handleZapOnce_calls (lpszUsername lpszPassword : List UInt8) :
    (Plain.handleZapOnce hSocketZap lpszUsername lpszPassword).Only
      (PlainReq.OfHandler hSocketZap.toUInt32) := by
  refine ⟨rfl, fun x => .ite trivial (recvFrameStr_calls.bind fun sVersion => .ite trivial ?_)⟩
  iterate 7
    apply recvFrameStr_calls.bind
    intro _
  iterate 2
    apply (zmqSend_calls _ _).bind
    intro _
  apply Prog.Only.ite
  · iterate 4
      apply (zmqSend_calls _ _).bind
      intro _
    trivial
  · iterate 4
      apply (zmqSend_calls _ _).bind
      intro _
    trivial

lemma ensures_requests (hE : ZapSocket E hSocketZap.toUInt32 view) {p : Plain α}
    (hp : p.Only (PlainReq.OfHandler hSocketZap.toUInt32)) :
    E.Ensures (fun w' => (view w).requests <+: (view w').requests)
      (fun _ w' => (view w).requests <+: (view w').requests) p w := by
  apply Environment.ensures_of_kept (I := fun w' => (view w).requests <+: (view w').requests) _ hp
    List.prefix_rfl
  intro r w₁ x w₂ hr h hx
  exact h.trans (requests_respond hE hr hx)

/-! ## All runs of the handler -/

/-- Work that has nothing to do with the handler's socket. -/
lemma ensures_work {p : Plain Unit} (hE : ZapSocket E hSocketZap.toUInt32 view)
    (hp : p.Only fun r => ¬ r.On hSocketZap.toUInt32) (h : (view w).AtRest answer) :
    E.Ensures (fun w => (view w).Answers answer) (fun _ w' => (view w').AtRest answer ∧
      (view w').taken = (view w).taken ∧ (view w).requests <+: (view w').requests) p w := by
  have hkept : E.Ensures (fun w' => (view w').AtRest answer ∧ (view w').taken = (view w).taken ∧
        (view w).requests <+: (view w').requests)
      (fun _ w' => (view w').AtRest answer ∧ (view w').taken = (view w).taken ∧
        (view w).requests <+: (view w').requests) p w := by
    apply Environment.ensures_of_kept _ hp ⟨h, rfl, List.prefix_rfl⟩
    rintro r w₁ x w₂ hr ⟨h₁, htaken, hprefix⟩ hx
    obtain ⟨new, hnew, hw₂⟩ := hE.other hr hx
    rw [hw₂]
    exact ⟨h₁.arrive hnew, htaken, hprefix.trans (List.prefix_append _ new)⟩
  exact hkept.weaken fun w' hw' => hw'.1.answers

/-- A call of the handler, with what was there before it. -/
structure Rep.Served (answer : Message → Message) (v v' : Rep) (nRc : LONG) : Prop where
  rest : v'.AtRest answer
  requests : v.requests <+: v'.requests
  taken : v'.taken = v.taken + if 0 < nRc then 1 else 0
  readable : v.Readable → 0 < nRc

lemma ensures_served (lpszUsername lpszPassword : List UInt8)
    (hE : ZapSocket E hSocketZap.toUInt32 view)
    (h : (view w).AtRest (zapReply lpszUsername lpszPassword)) :
    E.Ensures (fun w => (view w).Answers (zapReply lpszUsername lpszPassword))
      (fun nRc w' => (view w).Served (zapReply lpszUsername lpszPassword) (view w') nRc)
      (Plain.handleZapOnce hSocketZap lpszUsername lpszPassword) w := by
  have honce := (ensures_handleZapOnce lpszUsername lpszPassword hE h).and
    (ensures_requests (w := w) hE (handleZapOnce_calls lpszUsername lpszPassword))
  apply (honce.weaken fun _ h => h.1).mono
  rintro nRc w' ⟨⟨hrest, htaken, hnone⟩, hprefix⟩
  refine ⟨hrest, hprefix, htaken, ?_⟩
  intro hreadable
  have hlt := h.readable_iff.mp hreadable
  have hle := hprefix.length_le
  by_contra hnot
  have hall := hnone hnot
  rw [if_neg hnot] at htaken
  omega

/-- The rounds of the handler: nothing is in service, one request was answered for each round with
a positive result, and if there were enough requests at first then every round answered one. -/
lemma ensures_handleZap (lpszUsername lpszPassword : List UInt8)
    (hE : ZapSocket E hSocketZap.toUInt32 view)
    (h : (view w).AtRest (zapReply lpszUsername lpszPassword)) (works : List (Plain Unit))
    (hworks : ∀ p ∈ works, p.Only fun r => ¬ r.On hSocketZap.toUInt32) :
    E.Ensures (fun w => (view w).Answers (zapReply lpszUsername lpszPassword))
      (fun nRcs w' => (view w').AtRest (zapReply lpszUsername lpszPassword) ∧
        (view w').taken = (view w).taken + nRcs.countP (0 < ·) ∧
        min (view w).requests.length ((view w).taken + works.length) ≤ (view w').taken)
      (Plain.handleZap hSocketZap lpszUsername lpszPassword works) w := by
  induction works generalizing w with
  | nil => exact ⟨h.answers, h, rfl, min_le_right _ _⟩
  | cons p rest ih =>
    apply Environment.ensures_bind
    apply (ensures_work hE (hworks p List.mem_cons_self) h).mono
    rintro _ w₁ ⟨h₁, htaken₁, hprefix₁⟩
    apply Environment.ensures_bind
    apply (ensures_served lpszUsername lpszPassword hE h₁).mono
    rintro nRc w₂ h₂
    apply Environment.ensures_bind
    apply (ih h₂.rest fun q hq => hworks q (List.mem_cons_of_mem _ hq)).mono
    rintro nRcs w₃ ⟨h₃, htaken₃, hserved₃⟩
    have htaken₂ := h₂.taken
    have hle₁ := hprefix₁.length_le
    have hle₂ := h₂.requests.length_le
    refine ⟨h₃.answers, h₃, ?_, ?_⟩
    · rw [htaken₃, htaken₂, htaken₁, List.countP_cons]
      by_cases hpos : 0 < nRc
      · simp [hpos]
        omega
      · simp [hpos]
    · rw [List.length_cons]
      by_cases hpos : 0 < nRc
      · rw [if_pos hpos] at htaken₂
        omega
      · have hnone := (h₁.readable_iff.not.mp fun h => hpos (h₂.readable h))
        rw [if_neg hpos] at htaken₂
        omega

/-- Whenever requests arrive, and whatever the script does between the runs of its handler: at
every moment the replies that were sent are those to the first requests, one for each and in
their order, and behind the last run no request has been begun and not answered. A run that finds
the socket readable answers one request, so that of the requests that were there at first as many
are answered as there are runs, or all. -/
theorem zap_requests_answered (lpszUsername lpszPassword : List UInt8)
    (hE : ZapSocket E hSocketZap.toUInt32 view) :
    (∀ w, (view w).AtRest (zapReply lpszUsername lpszPassword) →
      E.Ensures (fun w => (view w).Answers (zapReply lpszUsername lpszPassword))
        (fun nRc w' => (view w).Served (zapReply lpszUsername lpszPassword) (view w') nRc)
        (Plain.handleZapOnce hSocketZap lpszUsername lpszPassword) w) ∧
    ∀ w works, (view w).AtRest (zapReply lpszUsername lpszPassword) →
      (∀ p ∈ works, p.Only fun r => ¬ r.On hSocketZap.toUInt32) →
      E.Ensures (fun w => (view w).Answers (zapReply lpszUsername lpszPassword))
        (fun nRcs w' => (view w').AtRest (zapReply lpszUsername lpszPassword) ∧
          (view w').taken = (view w).taken + nRcs.countP (0 < ·) ∧
          min (view w).requests.length ((view w).taken + works.length) ≤ (view w').taken)
        (Plain.handleZap hSocketZap lpszUsername lpszPassword works) w :=
  ⟨fun _ h => ensures_served lpszUsername lpszPassword hE h,
    fun _ works h hworks => ensures_handleZap lpszUsername lpszPassword hE h works hworks⟩

/-- A REP socket that gets requests at any time. -/
def zapEnvironment (socket : Ptr) : Environment PlainReq.Resp Rep where
  respond v r x v' := ∃ new : List Message, (∀ q ∈ new, ZapRequest q) ∧
    match r, x with
    | .zmq (.recv s _ n _), x =>
      if s = socket then (x, v') = (v.arrive new).recv n.toNat else v' = v.arrive new
    | .zmq (.send s buf n flags), _ =>
      if s = socket then
        ∀ b, buf.bytes n.toNat = some b → v' = (v.arrive new).send b (flags = ZMQ_SNDMORE)
      else v' = v.arrive new
    | .poll items _ _, x => v' = v.arrive new ∧
        (items.socket.toUInt32 = socket → (0 < x.1 ↔ v'.Readable))
    | _, _ => v' = v.arrive new

lemma zapSocket_zapEnvironment (socket : Ptr) : ZapSocket (zapEnvironment socket) socket id where
  recv := by
    rintro v buf n x v' ⟨new, hnew, hx⟩
    exact ⟨new, hnew, (if_pos rfl).mp hx⟩
  send := by
    rintro v buf n flags b x v' hb ⟨new, hnew, hx⟩
    exact ⟨new, hnew, (if_pos rfl).mp hx b hb⟩
  poll := by
    rintro v items nitems timeout x v' hitems ⟨new, hnew, hv', hreadable⟩
    exact ⟨new, hnew, hv', hreadable hitems⟩
  other := by
    rintro v r x v' hr ⟨new, hnew, hx⟩
    refine ⟨new, hnew, ?_⟩
    cases r with
    | poll items nitems timeout => exact hx.1
    | asciiz size => exact hx
    | zmq c =>
      cases c with
      | recv s buf n flags => exact (if_neg hr).mp hx
      | send s buf n flags => exact (if_neg hr).mp hx
      | _ => exact hx

/-- No request arrives. -/
def zapAnswer : (r : PlainReq) → Rep → r.Resp × Rep
  | .zmq (.recv s _ n _), v => if s = 7 then v.recv n.toNat else ((-1, []), v)
  | .zmq (.send s buf n flags), v =>
    (.ofNat n.toNat, if s = 7 then
      match buf.bytes n.toNat with
      | some b => v.send b (flags = ZMQ_SNDMORE)
      | none => v
    else v)
  | .zmq c, v => (c.failed, v)
  | .poll items _ _, v => ((if v.Readable then 1 else 0, items), v)
  | .asciiz size, v => (List.replicate size 0, v)

lemma respond_zapAnswer (r : PlainReq) (v : Rep) :
    (zapEnvironment 7).respond v r (zapAnswer r v).1 (zapAnswer r v).2 := by
  have harrive : v.arrive [] = v := by simp [Rep.arrive]
  refine ⟨[], by simp, ?_⟩
  rw [harrive]
  cases r with
  | poll items nitems timeout =>
    refine ⟨rfl, fun _ => ?_⟩
    by_cases h : v.Readable
    · simp [zapAnswer, h]
    · simp [zapAnswer, h]
  | asciiz size => rfl
  | zmq c =>
    cases c with
    | recv s buf n flags =>
      by_cases hs : s = 7
      · simp [zapAnswer, hs]
      · simp [zapAnswer, hs]
    | send s buf n flags =>
      by_cases hs : s = 7
      · simp only [zapAnswer, if_pos hs]
        intro b hb
        rw [hb]
      · simp only [zapAnswer, if_neg hs]
    | _ => rfl

/-- What libzmq asks about a client that has the configured name and password. -/
def loginRequest : Message :=
  [chars "1.0", chars "1", chars "global", chars "127.0.0.1", [], chars "PLAIN", chars "admin",
    chars "secret"]

lemma zapRequest_login : ZapRequest loginRequest where
  length_le := by decide
  frame_le := by decide
  version := by decide

/-- Of two rounds of the handler, the first finds a request and accepts it. -/
theorem zap_requests_answered_login : ∃ nRcs v,
    (zapEnvironment 7).Executes
      (Plain.handleZap 7 (chars "admin") (chars "secret") [pure (), pure ()])
      ⟨[loginRequest], 0, [], false, [], []⟩ nRcs v ∧
    v.sent = [[chars "1.0", chars "1", chars "200", chars "OK", chars "anonymous", []]] := by
  let start : Rep := ⟨[loginRequest], 0, [], false, [], []⟩
  let script := Plain.handleZap 7 (chars "admin") (chars "secret") [pure (), pure ()]
  have hexec : (zapEnvironment 7).Executes script start _ _ :=
    Environment.executes_run respond_zapAnswer script start
  have hrest : start.AtRest (zapReply (chars "admin") (chars "secret")) :=
    ⟨List.forall_mem_singleton.mpr zapRequest_login, Nat.zero_le _, rfl, rfl, rfl, rfl⟩
  have hworks : ∀ p ∈ [pure (), (pure () : Plain Unit)],
      p.Only fun r => ¬ r.On (Int32.toUInt32 7) := by
    intro p hp
    obtain rfl : p = pure () := by simpa using hp
    trivial
  obtain ⟨hend, -, hserved⟩ := ((zap_requests_answered (chars "admin") (chars "secret")
    (zapSocket_zapEnvironment 7)).2 start [pure (), pure ()] hrest hworks).executes hexec
  refine ⟨_, _, hexec, ?_⟩
  have hrequests : (script.run zapAnswer start).2.requests = [loginRequest] := by decide +kernel
  have htaken : (script.run zapAnswer start).2.taken = 1 := by
    have hle := hend.taken
    simp only [id, hrequests] at hle hserved
    exact le_antisymm hle hserved
  have hsent := hend.sent
  simp only [id, hrequests, htaken] at hsent
  exact hsent.trans (by decide)

end ThinBasicZmq
