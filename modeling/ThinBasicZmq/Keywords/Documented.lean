import ThinBasicZmq.Keywords.Copies
import ThinBasicZmq.Keywords.HostTrace

/-!
# The documented operation of a keyword

Each keyword documents one operation of libzmq or of the loader, and which of its
parameters goes where. Once its parameters are there, an executor performs that operation
at most once and asks the environment for nothing else than string results.
-/

namespace ThinBasicZmq

open Interaction

/-- The pointer designates a C string equal to the parsed one. -/
def PassesString (r : Ref) (s : ParsedString) : Prop := r.cstring = some s.ptr.text

/-- Pointer and length designate the bytes of the parsed string. -/
def PassesBytes (r : Ref) (n : SizeT) (s : ParsedString) : Prop :=
  n.toNat = s.ptr.strlen ∧ r.bytes n.toNat = some s.ptr.text

/-- The length of `ZmqRecvStr`, documented as capped at 4096. -/
def cappedLen (maxLen : LONG) : SizeT := (if maxLen > 4096 then 4096 else maxLen).toUInt32

/-- The operation of keyword `k` at the parsed values of its parameters. The length that
`ZmqRecvStr` passes on is a parameter of the description. -/
def Documented (recvLen : LONG → SizeT) : (k : Keyword) → Args k.signature → DynCall → Prop
  | .zmqLibraryInit, (path, _), c => c = .loadDirectory (some path.ptr) path.len
  | .zmqLibraryShutdown, _, c => c = .unload
  | .zmqLibraryLoaded, _, c => c = .isLoaded
  | .zmqErrno, _, c => c = .api .errnoFn
  | .zmqStrerror, (errnum, _), c | .zmqStrerrorString, (errnum, _), c =>
    c = .api (.strerrorFn errnum)
  | .zmqVersionMajor, _, c | .zmqVersionMinor, _, c | .zmqVersionPatch, _, c => c = .api .version
  | .zmqHas, (capability, _), c => ∃ r, c = .api (.has r) ∧ PassesString r capability
  | .zmqCtxNew, _, c => c = .api .ctxNew
  | .zmqCtxTerm, (ctx, _), c => c = .api (.ctxTerm (tbPtrFromHandle ctx))
  | .zmqCtxShutdown, (ctx, _), c => c = .api (.ctxShutdown (tbPtrFromHandle ctx))
  | .zmqCtxSet, (ctx, option, value, _), c =>
    c = .api (.ctxSet (tbPtrFromHandle ctx) option value)
  | .zmqCtxGet, (ctx, option, _), c => c = .api (.ctxGet (tbPtrFromHandle ctx) option)
  | .zmqSocket, (ctx, type, _), c => c = .api (.socket (tbPtrFromHandle ctx) type)
  | .zmqClose, (socket, _), c => c = .api (.close (tbPtrFromHandle socket))
  | .zmqBind, (socket, endpoint, _), c =>
    ∃ r, c = .api (.bind (tbPtrFromHandle socket) r) ∧ PassesString r endpoint
  | .zmqUnbind, (socket, endpoint, _), c =>
    ∃ r, c = .api (.unbind (tbPtrFromHandle socket) r) ∧ PassesString r endpoint
  | .zmqConnect, (socket, endpoint, _), c =>
    ∃ r, c = .api (.connect (tbPtrFromHandle socket) r) ∧ PassesString r endpoint
  | .zmqDisconnect, (socket, endpoint, _), c =>
    ∃ r, c = .api (.disconnect (tbPtrFromHandle socket) r) ∧ PassesString r endpoint
  | .zmqSend, (socket, buf, buflen, flags, _), c =>
    c = .api (.send (tbPtrFromHandle socket) (.addr (tbPtrFromHandle buf)) buflen.toUInt32 flags)
  | .zmqRecv, (socket, buf, buflen, flags, _), c =>
    c = .api (.recv (tbPtrFromHandle socket) (.addr (tbPtrFromHandle buf)) buflen.toUInt32 flags)
  | .zmqSendStr, (socket, msg, flags, _), c =>
    ∃ r n, c = .api (.send (tbPtrFromHandle socket) r n flags) ∧ PassesBytes r n msg
  | .zmqRecvStr, (socket, maxLen, flags, _), c =>
    ∃ r, c = .api (.recv (tbPtrFromHandle socket) r (recvLen maxLen) flags)
  | .zmqSetsockoptInt, (socket, option, value, _), c =>
    c = .api (.setsockopt (tbPtrFromHandle socket) option (.long value) 4)
  | .zmqSetsockoptStr, (socket, option, value, _), c =>
    ∃ r n, c = .api (.setsockopt (tbPtrFromHandle socket) option r n) ∧ PassesBytes r n value
  | .zmqGetsockoptInt, (socket, option, _), c =>
    c = .api (.getsockopt (tbPtrFromHandle socket) option (.long 0) 4)
  | .zmqCurveKeypair, (publicBuf, secretBuf, _), c =>
    c = .api (.curveKeypair (.addr (tbPtrFromHandle publicBuf)) (.addr (tbPtrFromHandle secretBuf)))
  | .zmqCurvePublic, (publicBuf, secret, _), c =>
    ∃ r, c = .api (.curvePublic (.addr (tbPtrFromHandle publicBuf)) r) ∧ PassesString r secret
  | .zmqCurvePublicStr, (secret, _), c =>
    ∃ p r, c = .api (.curvePublic p r) ∧ PassesString r secret
  | .zmqZ85Encode, (dest, data, size, _), c =>
    c = .api (.z85Encode (.addr (tbPtrFromHandle dest)) (.addr (tbPtrFromHandle data))
      size.toUInt32)
  | .zmqZ85Decode, (dest, encoded, _), c =>
    ∃ r, c = .api (.z85Decode (.addr (tbPtrFromHandle dest)) r) ∧ PassesString r encoded
  | .zmqZ85EncodeStr, (data, size, _), c =>
    ∃ p, c = .api (.z85Encode p (.addr (tbPtrFromHandle data)) size.toUInt32)
  | .zmqZ85DecodeStr, (encoded, dest, _, _), c =>
    ∃ r, c = .api (.z85Decode (.addr (tbPtrFromHandle dest)) r) ∧ PassesString r encoded

def IsEnter : Req → Prop
  | .enter _ => True
  | _ => False

def IsZmq : Req → Prop
  | .zmq _ _ => True
  | _ => False

instance : DecidablePred IsEnter := fun r => by cases r <;> unfold IsEnter <;> infer_instance

instance : DecidablePred IsZmq := fun r => by cases r <;> unfold IsZmq <;> infer_instance

/-- No request to the host, and no operation outside `doc`. -/
def Within (doc : DynCall → Prop) : Req → Prop
  | .host _ _ => False
  | .enter c => doc c
  | .zmq _ c => doc (.api c)
  | _ => True

variable {α β : Type}

/-- The operations of `p` are in `doc`, and there is at most one. -/
structure Performs (doc : DynCall → Prop) (p : Sdk α) : Prop where
  within : p.Only (Within doc)
  enters : p.AtMost IsEnter 1
  calls : p.AtMost IsZmq 1

/-- No operation at all. -/
def Silent (p : Sdk α) : Prop := p.Only fun r => ¬ IsHost r ∧ ¬ IsEnter r ∧ ¬ IsZmq r

lemma IsLocal.silent {r : Req} (h : IsLocal r) : ¬ IsHost r ∧ ¬ IsEnter r ∧ ¬ IsZmq r := by
  cases r <;> first | exact ⟨id, id, id⟩ | exact h.elim

lemma silent_of_local {p : Sdk α} (h : p.Only IsLocal) : Silent p := h.mono fun _ => IsLocal.silent

lemma silent_of_result {p : Sdk α} (h : p.Only IsResult) : Silent p :=
  silent_of_local (h.mono fun _ => IsResult.isLocal)

variable {doc : DynCall → Prop}

@[simp] lemma silent_pure (a : α) : Silent (pure a : Sdk α) := trivial

/-- A request that is none of the three kinds that count. -/
lemma silent_request {r : Req} (h : ¬ IsHost r ∧ ¬ IsEnter r ∧ ¬ IsZmq r) : Silent (ask r) :=
  ⟨h, fun _ => trivial⟩

lemma Silent.bind {p : Sdk α} {f : α → Sdk β} (hp : Silent p) (hf : ∀ a, Silent (f a)) :
    Silent (p >>= f) := Prog.Only.bind hp hf

lemma Silent.ite {c : Prop} [Decidable c] {p q : Sdk α} (hp : Silent p) (hq : Silent q) :
    Silent (if c then p else q) := Prog.Only.ite hp hq

lemma Silent.within {p : Sdk α} (h : Silent p) : p.Only (Within doc) := by
  apply h.mono
  rintro r ⟨hhost, henter, hzmq⟩
  cases r with
  | host fn c => exact hhost trivial
  | enter c => exact absurd trivial henter
  | zmq fn c => exact absurd trivial hzmq
  | _ => trivial

lemma Silent.noEnter {p : Sdk α} (h : Silent p) : p.AtMost IsEnter 0 := by
  apply Prog.Only.atMost
  exact h.mono fun _ hr => hr.2.1

lemma Silent.noZmq {p : Sdk α} (h : Silent p) : p.AtMost IsZmq 0 := by
  apply Prog.Only.atMost
  exact h.mono fun _ hr => hr.2.2

lemma Silent.performs {p : Sdk α} (h : Silent p) : Performs doc p where
  within := h.within
  enters := h.noEnter.mono (by omega)
  calls := h.noZmq.mono (by omega)

lemma Performs.bind {p : Sdk α} {f : α → Sdk β} (hp : Performs doc p) (hf : ∀ a, Silent (f a)) :
    Performs doc (p >>= f) where
  within := hp.within.bind fun a => (hf a).within
  enters := hp.enters.bind fun a => (hf a).noEnter
  calls := hp.calls.bind fun a => (hf a).noZmq

lemma Performs.map {p : Sdk α} (hp : Performs doc p) (f : α → β) : Performs doc (f <$> p) := by
  rw [map_eq_pure_bind]
  apply hp.bind
  simp

lemma Performs.ite {c : Prop} [Decidable c] {p q : Sdk α} (hp : c → Performs doc p)
    (hq : ¬ c → Performs doc q) : Performs doc (if c then p else q) := by
  split
  · exact hp ‹_›
  · exact hq ‹_›

/-- Local work with a known outcome before an operation. -/
lemma performs_settles {P : Req → Prop} {p : Sdk α} {f : α → Sdk β} {a : α}
    (hp : p.Settles P a) (hP : ∀ r, P r → IsLocal r) (hf : Performs doc (f a)) :
    Performs doc (p >>= f) := by
  induction p with
  | done a' =>
    obtain rfl : a = a' := hp
    exact hf
  | ask r next ih =>
    obtain ⟨hr, hnext⟩ := hp
    have hlocal := hP r hr
    have hafter := fun x => ih x (hnext x)
    constructor
    · refine ⟨?_, fun x => (hafter x).within⟩
      cases r <;> trivial
    · exact .ask_of_not hlocal.silent.2.1 fun x => (hafter x).enters
    · exact .ask_of_not hlocal.silent.2.2 fun x => (hafter x).calls

lemma zmqApi_eq (c : ZmqCall) (notLoaded : Sdk c.Resp) :
    zmqApi c notLoaded = .ask (.enter (.api c)) fun _ => .ask .readZmq fun g : ZmqApiTable =>
      if g.loaded ≠ 0 then ask (.zmq (g.fn c.symbol) c) else notLoaded := rfl

lemma zmqApiOptional_eq (c : ZmqCall) (args : List Ref) (failed : c.Resp) :
    zmqApiOptional c args failed =
      .ask (.enter (.api c)) fun _ => .ask .readZmq fun g : ZmqApiTable =>
        if g.loaded = 0 ∨ g.fn c.symbol = none ∨ args.any Ref.isNull then pure failed
        else ask (.zmq (g.fn c.symbol) c) := rfl

lemma performs_zmqApi {c : ZmqCall} {notLoaded : Sdk c.Resp} (hc : doc (.api c))
    (hn : Silent notLoaded) : Performs doc (zmqApi c notLoaded) := by
  rw [zmqApi_eq]
  constructor
  · exact ⟨hc, fun _ => ⟨trivial, fun g => .ite ⟨hc, fun _ => trivial⟩ hn.within⟩⟩
  · apply Prog.AtMost.ask trivial
    intro _
    apply Prog.AtMost.ask_of_not id
    intro g
    exact .ite (.ask_of_not id fun _ => trivial) hn.noEnter
  · apply Prog.AtMost.ask_of_not id
    intro _
    apply Prog.AtMost.ask_of_not id
    intro g
    exact .ite (.ask trivial fun _ => trivial) (hn.noZmq.mono (by omega))

lemma performs_zmqApiOptional {c : ZmqCall} {args : List Ref} {failed : c.Resp}
    (hc : doc (.api c)) : Performs doc (zmqApiOptional c args failed) := by
  rw [zmqApiOptional_eq]
  constructor
  · exact ⟨hc, fun _ => ⟨trivial, fun g => .ite trivial ⟨hc, fun _ => trivial⟩⟩⟩
  · apply Prog.AtMost.ask trivial
    intro _
    apply Prog.AtMost.ask_of_not id
    intro g
    exact .ite trivial (.ask_of_not id fun _ => trivial)
  · apply Prog.AtMost.ask_of_not id
    intro _
    apply Prog.AtMost.ask_of_not id
    intro g
    exact .ite trivial (.ask trivial fun _ => trivial)

/-- The call goes through the slot of the table that is read, if the library is loaded. -/
lemma zmqApi_trace {c : ZmqCall} {notLoaded : Sdk c.Resp} {tr : List Ev} {x : c.Resp}
    (h : (zmqApi c notLoaded).Trace tr x) : ∃ t : ZmqApiTable,
      (t.loaded ≠ 0 ∧
        tr = [⟨.enter (.api c), ()⟩, ⟨.readZmq, t⟩, ⟨.zmq (t.fn c.symbol) c, x⟩]) ∨
      (t.loaded = 0 ∧ ∃ tr', tr = ⟨.enter (.api c), ()⟩ :: ⟨.readZmq, t⟩ :: tr' ∧
        notLoaded.Trace tr' x) := by
  rw [zmqApi_eq] at h
  obtain ⟨_, rest, rfl, t, rest', rfl, h⟩ := h
  refine ⟨t, ?_⟩
  rcases Prog.trace_ite h with ⟨ht, y, rest, rfl, hdone⟩ | ⟨ht, h⟩
  · obtain ⟨rfl, rfl⟩ : rest = [] ∧ x = y := hdone
    exact Or.inl ⟨ht, rfl⟩
  · exact Or.inr ⟨not_not.mp ht, rest', rfl, h⟩

lemma zmqApiOptional_trace {c : ZmqCall} {args : List Ref} {failed : c.Resp} {tr : List Ev}
    {x : c.Resp} (h : (zmqApiOptional c args failed).Trace tr x) : ∃ t : ZmqApiTable,
      (t.loaded ≠ 0 ∧ t.fn c.symbol ≠ none ∧ args.any Ref.isNull = false ∧
        tr = [⟨.enter (.api c), ()⟩, ⟨.readZmq, t⟩, ⟨.zmq (t.fn c.symbol) c, x⟩]) ∨
      ((t.loaded = 0 ∨ t.fn c.symbol = none ∨ args.any Ref.isNull) ∧
        tr = [⟨.enter (.api c), ()⟩, ⟨.readZmq, t⟩] ∧ x = failed) := by
  rw [zmqApiOptional_eq] at h
  obtain ⟨_, rest, rfl, t, rest', rfl, h⟩ := h
  refine ⟨t, ?_⟩
  rcases Prog.trace_ite h with ⟨ht, h⟩ | ⟨ht, y, rest, rfl, hdone⟩
  · obtain ⟨rfl, rfl⟩ : rest' = [] ∧ x = failed := h
    exact Or.inr ⟨ht, rfl, rfl⟩
  · obtain ⟨rfl, rfl⟩ : rest = [] ∧ x = y := hdone
    simp only [not_or, Bool.not_eq_true] at ht
    exact Or.inl ⟨ht.1, ht.2.1, ht.2.2, rfl⟩

end ThinBasicZmq
