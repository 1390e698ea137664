import ThinBasicZmq.Keywords.StrictTransaction

/-!
# Success results

The keywords that return a status or a count, what their scripts read as success, and when
such a result is one that libzmq gave.
-/

namespace ThinBasicZmq

open Interaction

/-- The libzmq function whose result a status or count keyword returns. -/
def Keyword.reportsOn : Keyword → Option ZmqSymbol
  | .zmqCtxTerm => some .ctxTerm
  | .zmqCtxShutdown => some .ctxShutdown
  | .zmqCtxSet => some .ctxSet
  | .zmqCtxGet => some .ctxGet
  | .zmqClose => some .close
  | .zmqBind => some .bind
  | .zmqUnbind => some .unbind
  | .zmqConnect => some .connect
  | .zmqDisconnect => some .disconnect
  | .zmqSend | .zmqSendStr => some .send
  | .zmqRecv => some .recv
  | .zmqSetsockoptInt | .zmqSetsockoptStr => some .setsockopt
  | .zmqGetsockoptInt => some .getsockopt
  | .zmqCurveKeypair => some .curveKeypair
  | .zmqCurvePublic => some .curvePublic
  | _ => none

/-- The values that a script reads as success. -/
def Keyword.success : Keyword → LONG → Prop
  | .zmqSend, v | .zmqRecv, v | .zmqSendStr, v => 0 ≤ v
  | .zmqGetsockoptInt, v | .zmqCtxGet, v => v ≠ -1
  | _, v => v = 0

/-- The result of a call that succeeded. An option value is what the variable holds that
libzmq stored into. -/
def ZmqCall.result : (c : ZmqCall) → c.Resp → Option LONG
  | .send _ _ _ _, (n : LONG) | .recv _ _ _ _, (n, _) => if 0 ≤ n then some n else none
  | .ctxGet _ _, (v : LONG) => if v ≠ -1 then some v else none
  | .getsockopt _ _ optval _, (rc, stored) =>
    if rc ≠ 0 then none
    else match optval with
      | .long v => some (stored.getD v)
      | _ => none
  | .curveKeypair _ _, (rc, _, _) => if rc = 0 then some rc else none
  | .curvePublic _ _, (rc, _) => if rc = 0 then some rc else none
  | .ctxTerm _, (rc : LONG) | .ctxShutdown _, (rc : LONG) | .ctxSet _ _ _, (rc : LONG)
  | .close _, (rc : LONG) | .bind _ _, (rc : LONG) | .unbind _ _, (rc : LONG)
  | .connect _ _, (rc : LONG) | .disconnect _ _, (rc : LONG) | .setsockopt _ _ _ _, (rc : LONG) =>
    if rc = 0 then some rc else none
  | _, _ => none

/-- The libzmq function called, and its result if it succeeded. -/
def Ev.outcome : Ev → Option (ZmqSymbol × Option LONG)
  | ⟨.zmq _ c, x⟩ => some (c.symbol, c.result x)
  | _ => none

/-- A value that is read as success is the result of a successful call in the trace. -/
def Earned (k : Keyword) (f : ZmqSymbol) (tr : List Ev) (v : LONG) : Prop :=
  k.success v → ∃ e ∈ tr, e.outcome = some (f, some v)

/-- The keywords whose result for a call that is not well formed is `-1`. -/
def Keyword.failsWithMinusOne : Keyword → Bool
  | .zmqCtxSet | .zmqCtxGet | .zmqCurveKeypair | .zmqCurvePublic => true
  | _ => false

/-- Whatever it is answered, `p` returns only success values that it got from libzmq. -/
def Earns (k : Keyword) (f : ZmqSymbol) (p : Sdk LONG) : Prop :=
  ∀ tr v, p.Trace tr v → Earned k f tr v

variable {α : Type} {k : Keyword} {f : ZmqSymbol}

lemma Earns.bind {p : Sdk α} {q : α → Sdk LONG} (hq : ∀ a, Earns k f (q a)) :
    Earns k f (p >>= q) := by
  intro tr v h hs
  obtain ⟨tr₁, tr₂, a, rfl, -, h₂⟩ := (Prog.trace_bind _ _ _ _).mp h
  obtain ⟨e, he, ho⟩ := hq a _ _ h₂ hs
  exact ⟨e, List.mem_append_right _ he, ho⟩

lemma Earns.ite {c : Prop} [Decidable c] {p q : Sdk LONG} (hp : Earns k f p)
    (hq : Earns k f q) : Earns k f (if c then p else q) := by
  split
  · exact hp
  · exact hq

lemma earns_pure {v : LONG} (hv : ¬ k.success v) : Earns k f (pure v) := by
  rintro tr w ⟨-, rfl⟩ hs
  exact absurd hs hv

/-- The keyword returns what it makes of the answer. -/
lemma earns_zmqApi {c : ZmqCall} {failed : c.Resp} {g : c.Resp → LONG} (hf : c.symbol = f)
    (hfailed : ¬ k.success (g failed)) (hg : ∀ x, k.success (g x) → c.result x = some (g x)) :
    Earns k f (zmqApi c (pure failed) >>= fun x => pure (g x)) := by
  intro tr v h hs
  obtain ⟨tr₁, tr₂, x, rfl, h₁, -, rfl⟩ := (Prog.trace_bind _ _ _ _).mp h
  obtain ⟨t, ⟨-, rfl⟩ | ⟨-, tr', -, -, rfl⟩⟩ := zmqApi_trace h₁
  · exact ⟨⟨.zmq (t.fn c.symbol) c, x⟩, by simp, congrArg some (Prod.ext hf (hg x hs))⟩
  · exact absurd hs hfailed

lemma earns_zmqApiOptional {c : ZmqCall} {args : List Ref} {failed : c.Resp} {g : c.Resp → LONG}
    (hf : c.symbol = f) (hfailed : ¬ k.success (g failed))
    (hg : ∀ x, k.success (g x) → c.result x = some (g x)) :
    Earns k f (zmqApiOptional c args failed >>= fun x => pure (g x)) := by
  intro tr v h hs
  obtain ⟨tr₁, tr₂, x, rfl, h₁, -, rfl⟩ := (Prog.trace_bind _ _ _ _).mp h
  obtain ⟨t, ⟨-, -, -, rfl⟩ | ⟨-, -, rfl⟩⟩ := zmqApiOptional_trace h₁
  · exact ⟨⟨.zmq (t.fn c.symbol) c, x⟩, by simp, congrArg some (Prod.ext hf (hg x hs))⟩
  · exact absurd hs hfailed

instance (k : Keyword) (v : LONG) : Decidable (k.success v) := by
  cases k <;> unfold Keyword.success <;> infer_instance

lemma not_success_minusOne (k : Keyword) : ¬ k.success (-1) := by
  cases k <;> decide

lemma success_zero (k : Keyword) : k.success 0 := by
  cases k <;> decide

/-- The keyword returns the answer itself. -/
private lemma earns_answer {c : ZmqCall} {failed : c.Resp} {g : c.Resp → LONG} {p : Sdk LONG}
    (hp : p = zmqApi c (pure failed) >>= fun x => pure (g x)) (hf : c.symbol = f)
    (hfailed : g failed = -1) (hg : ∀ x, k.success (g x) → c.result x = some (g x)) :
    Earns k f p := by
  rw [hp]
  exact earns_zmqApi hf (hfailed ▸ not_success_minusOne k) hg

private lemma earns_getsockoptInt {socket option : LONG} :
    Earns .zmqGetsockoptInt .getsockopt (getsockoptIntAction socket option) := by
  intro tr v h hs
  obtain ⟨tr₁, tr₂, x, rfl, h₁, h₂⟩ := (Prog.trace_bind _ _ _ _).mp h
  rcases Prog.trace_ite h₂ with ⟨-, -, rfl⟩ | ⟨hrc, -, rfl⟩
  · exact absurd hs (not_success_minusOne _)
  · obtain ⟨t, ⟨-, rfl⟩ | ⟨-, tr', -, -, rfl⟩⟩ := zmqApi_trace h₁
    · let c : ZmqCall := .getsockopt (tbPtrFromHandle socket) option (.long 0) 4
      refine ⟨⟨.zmq (t.fn c.symbol) c, x⟩, by simp [c], ?_⟩
      exact congrArg (fun o => some (ZmqSymbol.getsockopt, o)) (if_neg hrc)
    · exact absurd (by decide) hrc

private lemma earns_curveKeypair {publicBuf secretBuf : LONG} :
    Earns .zmqCurveKeypair .curveKeypair (curveKeypairAction publicBuf secretBuf) := by
  unfold curveKeypairAction
  apply Earns.ite
  · exact earns_pure (not_success_minusOne _)
  · exact earns_zmqApiOptional rfl (not_success_minusOne _) fun x hx => if_pos hx

private lemma earns_curvePublic {publicBuf : LONG} {secret : ParsedString} :
    Earns .zmqCurvePublic .curvePublic (curvePublicAction publicBuf secret) := by
  unfold curvePublicAction
  apply Earns.ite
  · exact earns_pure (not_success_minusOne _)
  · apply Earns.bind
    intro copy
    exact earns_zmqApiOptional rfl (not_success_minusOne _) fun x hx => if_pos hx

lemma body_earns {k : Keyword} {f : ZmqSymbol} (hk : k.reportsOn = some f) :
    ∃ fail act, k.body = .long fail act ∧ fail = (if k.failsWithMinusOne then -1 else 0) ∧
      ∀ args, Earns k f (act args) := by
  cases k <;> cases hk <;> refine ⟨_, _, rfl, rfl, fun args => ?_⟩
  case zmqBind | zmqUnbind | zmqConnect | zmqDisconnect | zmqSendStr | zmqSetsockoptStr =>
    apply Earns.ite
    · exact earns_pure (not_success_minusOne _)
    · apply Earns.bind
      intro copy
      exact earns_answer (bind_pure _).symm rfl rfl fun x hx => if_pos hx
  case zmqGetsockoptInt => exact earns_getsockoptInt
  case zmqCurveKeypair => exact earns_curveKeypair
  case zmqCurvePublic => exact earns_curvePublic
  case zmqRecv => exact earns_answer rfl rfl rfl fun x hx => if_pos hx
  case zmqCtxTerm | zmqCtxShutdown | zmqCtxSet | zmqCtxGet | zmqClose | zmqSend |
      zmqSetsockoptInt =>
    exact earns_answer (bind_pure _).symm rfl rfl fun x hx => if_pos hx

private lemma outcome_eq_none {e : Ev} (h : IsParsing e.request) : e.outcome = none := by
  obtain ⟨r, x⟩ := e
  cases r <;> first | rfl | exact h.elim

/-- A status or count keyword reports only successes of libzmq exactly if the host refused
none of its requests, or if it is one of those that answer `-1` to a call which is not well
formed. The others answer `0`, which is a success value of each of them. -/
theorem exec_earned_iff (k : Keyword) (f : ZmqSymbol) (hk : k.reportsOn = some f) (tr : List Ev)
    (v : LONG) (h : k.exec.Trace tr (.long v)) :
    Earned k f tr v ↔ (∀ e ∈ tr, e.rejects = false) ∨ k.failsWithMinusOne = true := by
  obtain ⟨fail, act, hbody, hfail, hearns⟩ := body_earns hk
  rw [k.exec_eq_transact] at h
  rcases transact_trace h with ⟨tr₁, tr₂, rfl, hr, hv⟩ | ⟨args, tr₁, tr₂, rfl, ha, hv⟩
  · rw [hbody] at hv
    obtain ⟨rfl, hv⟩ : tr₂ = [] ∧ Value.long v = .long fail := hv
    obtain rfl : v = fail := Value.long.inj hv
    rw [List.append_nil]
    obtain ⟨e, he, hrejects⟩ := hr.exists_rejects
    have hnot : ¬ ∀ e' ∈ tr₁, e'.rejects = false := by
      intro hall
      rw [hall e he] at hrejects
      cases hrejects
    cases hm : k.failsWithMinusOne with
    | true =>
      rw [hm, if_pos rfl] at hfail
      constructor
      · intro _
        exact Or.inr rfl
      · intro _ hs
        exact absurd (hfail ▸ hs) (not_success_minusOne k)
    | false =>
      rw [hm, if_neg Bool.false_ne_true] at hfail
      constructor
      · intro hearned
        obtain ⟨e', he', ho⟩ := hearned (hfail ▸ success_zero k)
        rw [outcome_eq_none (hr.parsing e' he')] at ho
        cases ho
      · rintro (hall | hm')
        · exact absurd hall hnot
        · cases hm'
  · constructor
    · intro _
      exact Or.inl (accepted_accepts ha hv)
    · intro _ hs
      rw [hbody] at hv
      obtain ⟨w, hact, hw⟩ := Prog.trace_map.mp hv
      obtain rfl : v = w := Value.long.inj hw
      obtain ⟨e, he, ho⟩ := hearns args tr₂ v hact hs
      exact ⟨e, List.mem_append_right _ he, ho⟩

/-- A `libzmq.dll` that binds every socket. -/
def bindLibrary : Library Unit
  | .bind _ _, s => ((0 : LONG), s)
  | c, s => (c.failed, s)

/-- `ZmqBind(7, "tcp")` returns the `0` of `zmq_bind`. -/
theorem exec_earned_iff_bind : ∃ e ∈ Host.bare.callEvents bindLibrary .zmqBind
    [.int 7, .str (some (.ofString "tcp"))] (Session.resolved ()),
      e.outcome = some (.bind, some 0) := by
  have hearned := (exec_earned_iff .zmqBind .bind rfl (Host.bare.callEvents bindLibrary .zmqBind
    [.int 7, .str (some (.ofString "tcp"))] (Session.resolved ())) 0
      (Prog.trace_events _ _ _)).mpr
  exact hearned (Or.inl (by decide)) rfl

/-- `ZmqBind(7 "tcp")`, without the comma, returns `0`, and `zmq_bind` was not called. -/
theorem exec_bind_without_comma : ¬ ∀ (k : Keyword) (f : ZmqSymbol) (tr : List Ev) (v : LONG),
    k.reportsOn = some f → k.exec.Trace tr (.long v) → Earned k f tr v := by
  intro h
  let s : Session Unit := { Session.resolved () with
    tokens := [.openParens, .int 7, .str (some (.ofString "tcp")), .closeParens] }
  let tr : List Ev := Keyword.zmqBind.exec.events (Host.bare.answer fun c s => (c.failed, s)) s
  obtain ⟨e, he, ho⟩ := h .zmqBind .bind tr 0 rfl (Prog.trace_events _ _ s) rfl
  have hnone : ∀ e ∈ tr, e.outcome = none := by decide
  rw [hnone e he] at ho
  cases ho

end ThinBasicZmq
