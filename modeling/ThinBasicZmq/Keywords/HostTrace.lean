import ThinBasicZmq.Keywords.Transaction

/-!
# The host side of a transaction

What the requests to the host look like in a trace of the signature interpreter. Either
all requests of the signature were made and accepted, or a first one was rejected and none
was made after it.
-/

namespace ThinBasicZmq

open Interaction

/-- A value that the host answered to a parameter request. -/
inductive Parsed
  | long (v : LONG)
  | str (s : CString)
deriving DecidableEq

def Param.parsed : (p : Param) → p.Value → Parsed
  | .int, v => .long v
  | .str, s => .str s.ptr

def Args.parsed : (sig : List Param) → Args sig → List Parsed
  | [], _ => []
  | p :: ps, (a, rest) => p.parsed a :: Args.parsed ps rest

def Param.request : Param → HostCall
  | .int => .parseLong
  | .str => .parseString

/-- `t1, comma, t2, ..., comma, tk` -/
def paramRequests : List Param → List HostCall
  | [] => []
  | [p] => [p.request]
  | p :: q :: ps => p.request :: .checkComma 0 0 :: paramRequests (q :: ps)

/-- The requests of a keyword whose syntax is correct. -/
def signatureRequests (sig : List Param) : List HostCall :=
  .checkOpenParens 0 0 :: paramRequests sig ++ [.checkCloseParens 0 0]

def Ev.hostCall? : Ev → Option HostCall
  | ⟨.host _ c, _⟩ => some c
  | _ => none

/-- `r == 0` for the answer to a check. -/
def isZero (r : DWORD) : Bool := r == 0

/-- The host refused a request: a check failed, or a string is missing or too long. -/
def HostCall.refused : (c : HostCall) → c.Resp → Bool
  | .checkOpenParens _ _, r => isZero r
  | .checkCloseParens _ _, r => isZero r
  | .checkComma _ _, r => isZero r
  | .parseString, none => true
  | .parseString, some s => decide (0x7FFFFFFF ≤ s.strlen)
  | _, _ => false

def Ev.rejects : Ev → Bool
  | ⟨.host _ c, r⟩ => c.refused r
  | _ => false

def Ev.parsed? : Ev → Option Parsed
  | ⟨.host _ .parseLong, v⟩ => some (.long v)
  | ⟨.host _ .parseString, some s⟩ => some (.str s)
  | _ => none

def hostCalls (tr : List Ev) : List HostCall := tr.filterMap Ev.hostCall?

def parsedValues (tr : List Ev) : List Parsed := tr.filterMap Ev.parsed?

def IsHost : Req → Prop
  | .host _ _ => True
  | _ => False

/-- The requests of the parsing phase. -/
def IsParsing : Req → Prop
  | .host _ _ => True
  | .readTb => True
  | _ => False

/-- The host answered all of `calls`, in order, with the values `vals`. -/
structure Accepted (calls : List HostCall) (vals : List Parsed) (tr : List Ev) : Prop where
  parsing : ∀ e ∈ tr, IsParsing e.request
  calls_eq : hostCalls tr = calls
  values_eq : parsedValues tr = vals
  accepts : ∀ e ∈ tr, e.rejects = false

/-- The host rejected one of `calls`, and it was the last one made. -/
structure Rejected (calls : List HostCall) (tr : List Ev) : Prop where
  parsing : ∀ e ∈ tr, IsParsing e.request
  calls_prefix : hostCalls tr <+: calls
  last : ∃ before e, tr = before ++ [e] ∧ e.rejects = true ∧ ∀ e' ∈ before, e'.rejects = false

@[simp] lemma hostCalls_append (tr₁ tr₂ : List Ev) :
    hostCalls (tr₁ ++ tr₂) = hostCalls tr₁ ++ hostCalls tr₂ := List.filterMap_append

@[simp] lemma parsedValues_append (tr₁ tr₂ : List Ev) :
    parsedValues (tr₁ ++ tr₂) = parsedValues tr₁ ++ parsedValues tr₂ := List.filterMap_append

lemma Accepted.nil : Accepted [] [] [] :=
  ⟨by simp, rfl, rfl, by simp⟩

lemma Accepted.append {calls₁ calls₂ : List HostCall} {vals₁ vals₂ : List Parsed}
    {tr₁ tr₂ : List Ev} (h₁ : Accepted calls₁ vals₁ tr₁) (h₂ : Accepted calls₂ vals₂ tr₂) :
    Accepted (calls₁ ++ calls₂) (vals₁ ++ vals₂) (tr₁ ++ tr₂) where
  parsing := List.forall_mem_append.mpr ⟨h₁.parsing, h₂.parsing⟩
  calls_eq := by rw [hostCalls_append, h₁.calls_eq, h₂.calls_eq]
  values_eq := by rw [parsedValues_append, h₁.values_eq, h₂.values_eq]
  accepts := List.forall_mem_append.mpr ⟨h₁.accepts, h₂.accepts⟩

lemma Accepted.append_rejected {calls₁ calls₂ : List HostCall} {vals₁ : List Parsed}
    {tr₁ tr₂ : List Ev} (h₁ : Accepted calls₁ vals₁ tr₁) (h₂ : Rejected calls₂ tr₂) :
    Rejected (calls₁ ++ calls₂) (tr₁ ++ tr₂) where
  parsing := List.forall_mem_append.mpr ⟨h₁.parsing, h₂.parsing⟩
  calls_prefix := by
    rw [hostCalls_append, h₁.calls_eq]
    exact (List.prefix_append_right_inj _).mpr h₂.calls_prefix
  last := by
    obtain ⟨before, e, rfl, he, hb⟩ := h₂.last
    exact ⟨tr₁ ++ before, e, by simp, he, List.forall_mem_append.mpr ⟨h₁.accepts, hb⟩⟩

lemma Rejected.append {calls₁ : List HostCall} {tr : List Ev} (h : Rejected calls₁ tr)
    (calls₂ : List HostCall) : Rejected (calls₁ ++ calls₂) tr :=
  ⟨h.parsing, h.calls_prefix.trans (List.prefix_append _ _), h.last⟩

lemma Rejected.exists_rejects {calls : List HostCall} {tr : List Ev} (h : Rejected calls tr) :
    ∃ e ∈ tr, e.rejects = true := by
  obtain ⟨before, e, rfl, he, -⟩ := h.last
  exact ⟨e, by simp, he⟩

private lemma tbCall_trace {c : HostCall} {tr : List Ev} {r : c.Resp}
    (h : (tbCall c).Trace tr r) :
    ∃ t : TbThincoreApi, tr = [⟨.readTb, t⟩, ⟨.host (t.fn c.symbol) c, r⟩] := by
  obtain ⟨t, rest, rfl, x, rest', rfl, hdone⟩ := h
  obtain ⟨rfl, rfl⟩ : rest' = [] ∧ r = x := hdone
  exact ⟨t, rfl⟩

/-- A request that the host accepts when `ok`, with what it adds to the parsed values. -/
private def Answers (c : HostCall) (ok : Bool) (vals : List Parsed) (tr : List Ev) : Prop :=
  ∃ (t : TbThincoreApi) (r : c.Resp),
    tr = [⟨.readTb, t⟩, ⟨.host (t.fn c.symbol) c, r⟩] ∧
    Ev.rejects ⟨.host (t.fn c.symbol) c, r⟩ = !ok ∧
    (ok = true → parsedValues tr = vals)

private lemma Answers.accepted {c : HostCall} {vals : List Parsed} {tr : List Ev}
    (h : Answers c true vals tr) : Accepted [c] vals tr := by
  obtain ⟨t, r, rfl, hr, hv⟩ := h
  refine ⟨by simp [IsParsing], rfl, hv rfl, ?_⟩
  intro e he
  rcases List.mem_pair.mp he with rfl | rfl
  · rfl
  · exact hr

private lemma Answers.rejected {c : HostCall} {vals : List Parsed} {tr : List Ev}
    (h : Answers c false vals tr) : Rejected [c] tr := by
  obtain ⟨t, r, rfl, hr, -⟩ := h
  refine ⟨by simp [IsParsing], List.prefix_rfl, [⟨.readTb, t⟩], _, rfl, hr, ?_⟩
  rintro e' he'
  rw [List.mem_singleton.mp he']
  rfl

/-- A check reads the answer as a truth value. -/
private lemma check_answers {c : HostCall} {accepts : c.Resp → Bool}
    (hrefused : ∀ r, c.refused r = !accepts r)
    (hparsed : ∀ fn r, Ev.parsed? ⟨.host fn c, r⟩ = none) {tr : List Ev} {b : Bool}
    (h : (tbCall c >>= fun r => pure (accepts r)).Trace tr b) : Answers c b [] tr := by
  obtain ⟨tr₁, tr₂, r, rfl, h₁, rfl, rfl⟩ := (Prog.trace_bind _ _ _ _).mp h
  obtain ⟨t, rfl⟩ := tbCall_trace h₁
  refine ⟨t, r, rfl, hrefused r, ?_⟩
  intro _
  apply List.filterMap_eq_nil_iff.mpr
  intro e he
  rcases List.mem_pair.mp he with rfl | rfl
  · rfl
  · exact hparsed _ r

private lemma expectOpenParens_answers {tr : List Ev} {b : Bool}
    (h : tbExpectOpenParens.Trace tr b) : Answers (.checkOpenParens 0 0) b [] tr :=
  check_answers (fun _ => (Bool.not_not _).symm) (fun _ _ => rfl) h

private lemma expectCloseParens_answers {tr : List Ev} {b : Bool}
    (h : tbExpectCloseParens.Trace tr b) : Answers (.checkCloseParens 0 0) b [] tr :=
  check_answers (fun _ => (Bool.not_not _).symm) (fun _ _ => rfl) h

private lemma expectComma_answers {tr : List Ev} {b : Bool}
    (h : tbExpectComma.Trace tr b) : Answers (.checkComma 0 0) b [] tr :=
  check_answers (fun _ => (Bool.not_not _).symm) (fun _ _ => rfl) h

private lemma param_answers (p : Param) {tr : List Ev} {o : Option p.Value}
    (h : p.parse.Trace tr o) :
    Answers p.request o.isSome (o.elim [] fun a => [p.parsed a]) tr := by
  cases p with
  | int =>
    obtain ⟨tr₁, tr₂, r, rfl, h₁, rfl, rfl⟩ := (Prog.trace_bind _ _ _ _).mp h
    obtain ⟨t, rfl⟩ := tbCall_trace h₁
    exact ⟨t, r, rfl, rfl, fun _ => rfl⟩
  | str =>
    obtain ⟨tr₁, tr₂, r, rfl, h₁, h₂⟩ := (Prog.trace_bind _ _ _ _).mp h
    obtain ⟨t, rfl⟩ := tbCall_trace h₁
    cases r with
    | none =>
      obtain ⟨rfl, rfl⟩ := h₂
      exact ⟨t, none, rfl, rfl, fun h => by cases h⟩
    | some s =>
      by_cases hs : s.strlen < 0x7FFFFFFF
      · simp only [hs, dite_true] at h₂
        obtain ⟨rfl, rfl⟩ := h₂
        refine ⟨t, some s, rfl, ?_, fun _ => rfl⟩
        exact decide_eq_false (Nat.not_le.mpr hs)
      · simp only [hs, dite_false] at h₂
        obtain ⟨rfl, rfl⟩ := h₂
        refine ⟨t, some s, rfl, ?_, fun h => by cases h⟩
        exact decide_eq_true (Nat.not_lt.mp hs)

variable {α : Type}

lemma parseThen_trace {sig : List Param} {fail : Sdk α} {act : Args sig → Sdk α}
    {tr : List Ev} {v : α} (h : (parseThen sig fail act).Trace tr v) :
    (∃ tr₁ tr₂, tr = tr₁ ++ tr₂ ∧ Rejected (paramRequests sig) tr₁ ∧ fail.Trace tr₂ v) ∨
    (∃ args tr₁ tr₂, tr = tr₁ ++ tr₂ ∧ Accepted (paramRequests sig) (Args.parsed sig args) tr₁ ∧
      (act args).Trace tr₂ v) := by
  induction sig generalizing tr with
  | nil => exact Or.inr ⟨(), [], tr, rfl, Accepted.nil, h⟩
  | cons p ps ih =>
    cases ps with
    | nil =>
      obtain ⟨tr₁, tr₂, o, rfl, h₁, h₂⟩ := (Prog.trace_bind _ _ _ _).mp h
      have ha := param_answers p h₁
      cases o with
      | none => exact Or.inl ⟨tr₁, tr₂, rfl, ha.rejected, h₂⟩
      | some a => exact Or.inr ⟨(a, ()), tr₁, tr₂, rfl, ha.accepted, h₂⟩
    | cons q qs =>
      obtain ⟨tr₁, tr₂, o, rfl, h₁, h₂⟩ := (Prog.trace_bind _ _ _ _).mp h
      have ha := param_answers p h₁
      cases o with
      | none =>
        exact Or.inl ⟨tr₁, tr₂, rfl, ha.rejected.append _, h₂⟩
      | some a =>
        obtain ⟨tr₃, tr₄, b, rfl, h₃, h₄⟩ := (Prog.trace_bind _ _ _ _).mp h₂
        have hc := expectComma_answers h₃
        cases b with
        | false =>
          exact Or.inl ⟨tr₁ ++ tr₃, tr₄, by simp,
            (ha.accepted.append_rejected hc.rejected).append _, h₄⟩
        | true =>
          rcases ih h₄ with ⟨tr₅, tr₆, rfl, hr, hf⟩ | ⟨args, tr₅, tr₆, rfl, hacc, hact⟩
          · exact Or.inl ⟨tr₁ ++ (tr₃ ++ tr₅), tr₆, by simp,
              ha.accepted.append_rejected (hc.accepted.append_rejected hr), hf⟩
          · exact Or.inr ⟨(a, args), tr₁ ++ (tr₃ ++ tr₅), tr₆, by simp,
              ha.accepted.append (hc.accepted.append hacc), hact⟩

/-- A transaction either stops at the first rejected request or acts on accepted ones. -/
theorem transact_trace {sig : List Param} {fail : Sdk α} {act : Args sig → Sdk α}
    {tr : List Ev} {v : α} (h : (transact sig fail act).Trace tr v) :
    (∃ tr₁ tr₂, tr = tr₁ ++ tr₂ ∧ Rejected (signatureRequests sig) tr₁ ∧ fail.Trace tr₂ v) ∨
    (∃ args tr₁ tr₂, tr = tr₁ ++ tr₂ ∧
      Accepted (signatureRequests sig) (Args.parsed sig args) tr₁ ∧ (act args).Trace tr₂ v) := by
  obtain ⟨tr₁, tr₂, b, rfl, h₁, h₂⟩ := (Prog.trace_bind _ _ _ _).mp h
  have ho := expectOpenParens_answers h₁
  cases b with
  | false => exact Or.inl ⟨tr₁, tr₂, rfl, ho.rejected.append _, h₂⟩
  | true =>
    rcases parseThen_trace h₂ with ⟨tr₃, tr₄, rfl, hr, hf⟩ | ⟨args, tr₃, tr₄, rfl, hacc, hact⟩
    · exact Or.inl ⟨tr₁ ++ tr₃, tr₄, by simp,
        (ho.accepted.append_rejected (hr.append _)), hf⟩
    · obtain ⟨tr₅, tr₆, c, rfl, h₅, h₆⟩ := (Prog.trace_bind _ _ _ _).mp hact
      have hc := expectCloseParens_answers h₅
      have hop := ho.accepted.append hacc
      cases c with
      | false => exact Or.inl ⟨tr₁ ++ tr₃ ++ tr₅, tr₆, by simp, hop.append_rejected hc.rejected, h₆⟩
      | true =>
        have hall := hop.append hc.accepted
        exact Or.inr ⟨args, tr₁ ++ tr₃ ++ tr₅, tr₆, by simp, by simpa [signatureRequests] using hall, h₆⟩

end ThinBasicZmq
