import ThinBasicZmq.Keywords.BoundedCopies
import ThinBasicZmq.Keywords.Lengths

/-!
# The string that ZmqRecvStr returns

A frame may be longer than the length that the script asks for, and longer than the buffer of
4096 bytes. `zmq_recv` stores what there is room for and answers the length of the whole frame.
-/

namespace ThinBasicZmq

open Interaction

/-- `zmq_recv` fails, or it stores the start of the frame `f` and returns its length. -/
def Ev.Delivers (f : List UInt8) : Ev → Prop
  | ⟨.zmq _ (.recv _ _ len _), (n, stored)⟩ =>
    n < 0 ∨ n = Int32.ofNat f.length ∧ stored = f.take len.toNat
  | _ => True

/-- A call of `zmq_recv` that does not fail. -/
def Ev.receives : Ev → Bool
  | ⟨.zmq _ (.recv _ _ _ _), (n, _)⟩ => decide (¬ n < (0 : LONG))
  | _ => false

/-- What a call of `zmq_recv` stored. -/
def Ev.stored : Ev → List UInt8
  | ⟨.zmq _ (.recv _ _ _ _), (_, stored)⟩ => stored
  | _ => []

/-- `alloc_bstr` is missing, or it fails. -/
def Ev.refusesAlloc : Ev → Bool
  | ⟨.readTb, t⟩ => (TbThincoreApi.fn t .allocBstr).isNone
  | ⟨.allocBstr _ _, ok⟩ => !ok
  | _ => false

/-- A run of `ZmqRecvStr` for the frame `f` that returns `b`. -/
structure ReturnsPrefix (f : List UInt8) (tr : List Ev) (b : Bstr) : Prop where
  size : ∀ e ∈ tr, ∀ fn socket buf len flags, e.request = .zmq fn (.recv socket buf len flags) →
    1 ≤ len.toNat ∧ len.toNat ≤ TB_RETURN_STRING_MAX
  reads : ∀ e ∈ tr, ∀ i cell, e.request = .fetch TB_RETURN_STRING_MAX i cell →
    cell ≠ none ∧ ∃ e' ∈ tr, e'.receives = true ∧ i < e'.stored.length
  attempted : (∀ e ∈ tr, e.rejects = false ∧ e.findsUnloaded = false) →
    ∀ socket maxLen flags, parsedValues tr = [.long socket, .long maxLen, .long flags] →
      0 < maxLen.toInt → ∃ e ∈ tr, ∃ fn buf, e.request =
        .zmq fn (.recv (tbPtrFromHandle socket) buf (cappedLen maxLen) flags)
  received : (∃ e ∈ tr, e.receives = true) →
    ∃ socket maxLen flags, parsedValues tr = [.long socket, .long maxLen, .long flags] ∧
      0 < maxLen.toInt ∧
      (b = some (f.take (min f.length (min maxLen.toInt.toNat TB_RETURN_STRING_MAX))) ∨
        b = none ∧ ∃ e ∈ tr, e.refusesAlloc = true)
  otherwise : (¬ ∃ e ∈ tr, e.receives = true) → b.chars = []

/-- Neither a call of libzmq nor an access to the buffer. -/
private def Quiet : Req → Prop
  | .fetch cap _ _ => cap ≠ TB_RETURN_STRING_MAX
  | .zmq _ _ => False
  | _ => True

private lemma IsParsing.quiet {r : Req} (h : IsParsing r) : Quiet r := by
  cases r <;> trivial

private lemma tbReturnEmpty_quiet : tbReturnEmpty.Only Quiet := by
  refine ⟨?_, fun _ => ⟨trivial, fun g => ?_⟩⟩
  · change (CString.ofString "").cells.length ≠ TB_RETURN_STRING_MAX
    decide
  · apply Prog.Only.ite
    · trivial
    · exact ⟨trivial, fun _ => trivial⟩

private lemma Quiet.not_receives {e : Ev} (h : Quiet e.request) : e.receives = false := by
  obtain ⟨r, x⟩ := e
  cases r <;> first | rfl | exact h.elim

/-- The frame in the buffer becomes the result. -/
private lemma tbReturnStringN_trace {t : List UInt8} {rest : List Cell}
    (ht : t.length ≤ TB_RETURN_STRING_MAX) {tr : List Ev} {b : Bstr}
    (h : (tbReturnStringN (some (t.map some ++ rest)) t.length).Trace tr b) :
    (∀ e ∈ tr, IsResult e.request ∧
      ∀ cap i cell, e.request = .fetch cap i cell → cell ≠ none ∧ i < t.length) ∧
    (b = some t ∨ b = none ∧ ∃ e ∈ tr, e.refusesAlloc = true) := by
  change (Prog.ask .readTb fun g : TbThincoreApi =>
    if g.fn .allocBstr = none then pure none
    else if t.length = 0 then allocBstr (g.fn .allocBstr) []
    else if t.length > TB_RETURN_STRING_MAX then allocBstr (g.fn .allocBstr) []
    else fetchBytes (t.map some ++ rest) t.length 0 >>= allocBstr (g.fn .allocBstr)).Trace tr b at h
  obtain ⟨g, tr', rfl, h⟩ := h
  rcases Prog.trace_ite h with ⟨hnull, rfl, rfl⟩ | ⟨hfn, h⟩
  · refine ⟨?_, Or.inr ⟨rfl, ⟨.readTb, g⟩, by simp, ?_⟩⟩
    · intro e he
      rw [List.mem_singleton.mp he]
      exact ⟨trivial, fun cap i cell hreq => by cases hreq⟩
    · exact Option.isNone_iff_eq_none.mpr hnull
  · -- an empty frame and a longer one are both handed to the allocator as they are
    have hfetched : (fetchBytes (t.map some ++ rest) t.length 0 >>=
        allocBstr (g.fn .allocBstr)).Trace tr' b := by
      rcases Prog.trace_ite h with ⟨hnil, h⟩ | ⟨-, h⟩
      · rw [List.length_eq_zero_iff] at hnil
        subst hnil
        exact h
      · rcases Prog.trace_ite h with ⟨hlong, h⟩ | ⟨-, h⟩
        · exact absurd ht (Nat.not_le.mpr hlong)
        · exact h
    obtain ⟨tr₁, tr₂, rfl, hreads, ok, tr₃, rfl, rfl, rfl⟩ :=
      (fetchBytes_settles_below rfl (Nat.zero_add t.length).le).trace_bind hfetched
    constructor
    · intro e he
      simp only [List.mem_cons, List.mem_append, List.not_mem_nil, or_false] at he
      rcases he with rfl | he | rfl
      · exact ⟨trivial, fun cap i cell hreq => by cases hreq⟩
      · have hbelow := hreads e he
        obtain ⟨r, x⟩ := e
        cases r with
        | fetch cap i cell =>
          refine ⟨trivial, ?_⟩
          intro cap' i' cell' hreq
          obtain ⟨rfl, rfl, rfl⟩ := Req.fetch.inj hreq
          exact ⟨hbelow.2.2.2, hbelow.2.2.1⟩
        | _ => exact hbelow.elim
      · exact ⟨trivial, fun cap i cell hreq => by cases hreq⟩
    · cases ok with
      | true => exact Or.inl rfl
      | false => exact Or.inr ⟨rfl, ⟨.allocBstr (g.fn .allocBstr) t, false⟩, by simp, rfl⟩

/-- What comes behind the call: only the result, which is read from what was stored. -/
private def ReadsStored (n : LONG) (stored : List UInt8) (tr : List Ev) : Prop :=
  ∀ e ∈ tr, IsResult e.request ∧ ∀ i cell, e.request = .fetch TB_RETURN_STRING_MAX i cell →
    cell ≠ none ∧ ¬ n < 0 ∧ i < stored.length

/-- What the keyword makes of the answer to its call. -/
private def ResultOf (f : List UInt8) (len : SizeT) (n : LONG) (stored : List UInt8)
    (tr : List Ev) (b : Bstr) : Prop :=
  n < 0 ∧ b.chars = [] ∨
    ¬ n < 0 ∧ stored = f.take len.toNat ∧
      (b = some stored ∨ b = none ∧ ∃ e ∈ tr, e.refusesAlloc = true)

/-- The three clamps come to the length of what was stored. -/
private lemma toNat_copied {f : List UInt8} (hf : f.length < 2 ^ 31) (len : SizeT) :
    (if (Int32.ofNat f.length).toUInt32 > len then len
      else (Int32.ofNat f.length).toUInt32).toNat = (f.take len.toNat).length := by
  have hlength : (Int32.ofNat f.length).toUInt32.toNat = f.length := by
    rw [Int32.toUInt32_ofNat', UInt32.toNat_ofNat_of_lt' (by rw [UInt32.size]; omega)]
  rw [List.length_take]
  split
  · rename_i hgt
    rw [gt_iff_lt, UInt32.lt_iff_toNat_lt, hlength] at hgt
    omega
  · rename_i hle
    rw [gt_iff_lt, UInt32.lt_iff_toNat_lt, hlength] at hle
    omega

private lemma returned_trace {f : List UInt8} (hf : f.length < 2 ^ 31) {len : SizeT}
    (hlen : len.toNat ≤ TB_RETURN_STRING_MAX) {tr : List Ev} {b : Bstr}
    (h : (tbReturnStringN (some (Memory.put (localArray TB_RETURN_STRING_MAX) 0
      (f.take len.toNat))) (if (Int32.ofNat f.length).toUInt32 > len then len
        else (Int32.ofNat f.length).toUInt32).toNat).Trace tr b) :
    (∀ e ∈ tr, IsResult e.request ∧
      ∀ cap i cell, e.request = .fetch cap i cell → cell ≠ none ∧ i < (f.take len.toNat).length) ∧
    (b = some (f.take len.toNat) ∨ b = none ∧ ∃ e ∈ tr, e.refusesAlloc = true) := by
  have hroom : (f.take len.toNat).length ≤ TB_RETURN_STRING_MAX := by
    rw [List.length_take]
    omega
  rw [toNat_copied hf, Memory.put_zero (by rwa [length_localArray])] at h
  exact tbReturnStringN_trace hroom h

private lemma tbReturnEmpty_readsStored {tr : List Ev} {b : Bstr} (h : tbReturnEmpty.Trace tr b)
    (n : LONG) (stored : List UInt8) : ReadsStored n stored tr := by
  intro e he
  refine ⟨tbReturnEmpty_result.trace h e he, ?_⟩
  intro i cell hreq
  have hquiet := tbReturnEmpty_quiet.trace h e he
  rw [hreq] at hquiet
  exact absurd rfl hquiet

private lemma recvStrAction_trace {f : List UInt8} (hf : f.length < 2 ^ 31)
    {socket maxLen flags : LONG} {tr : List Ev} {b : Bstr}
    (h : (recvStrAction socket maxLen flags).Trace tr b) (hrecv : ∀ e ∈ tr, e.Delivers f) :
    ((0 < maxLen.toInt → ∃ e ∈ tr, e.findsUnloaded = true) ∧ (∀ e ∈ tr, Quiet e.request) ∧
      b.chars = []) ∨
    (0 < maxLen.toInt ∧ ∃ before fn buf n stored after,
      tr = before ++ ⟨.zmq fn (.recv (tbPtrFromHandle socket) buf (cappedLen maxLen) flags),
        (n, stored)⟩ :: after ∧
      (∀ e ∈ before, Quiet e.request) ∧ ReadsStored n stored after ∧
      ResultOf f (cappedLen maxLen) n stored after b) := by
  rcases Prog.trace_ite h with ⟨hnonpos, h⟩ | ⟨hpos, h⟩
  · refine Or.inl ⟨?_, tbReturnEmpty_quiet.trace h, tbReturnEmpty_trace h⟩
    intro hsign
    exact absurd hnonpos (not_nonpos_iff.mpr hsign)
  have hsign := not_nonpos_iff.mp hpos
  let c : ZmqCall := .recv (tbPtrFromHandle socket) (.arr (localArray TB_RETURN_STRING_MAX))
    (cappedLen maxLen) flags
  obtain ⟨tr₁, tr₂, ⟨n, stored⟩, rfl, h₁, h₂⟩ := (Prog.trace_bind _ _ _ _).mp h
  obtain ⟨t, ⟨-, rfl⟩ | ⟨ht, tr', rfl, rfl, hfailed⟩⟩ := zmqApi_trace h₁
  · refine Or.inr ⟨hsign, [⟨.enter (.api c), ()⟩, ⟨.readZmq, t⟩], t.fn c.symbol, _, n, stored, tr₂,
      rfl, ?_⟩
    have hquiet : ∀ e ∈ ([⟨.enter (.api c), ()⟩, ⟨.readZmq, t⟩] : List Ev), Quiet e.request := by
      intro e he
      rcases List.mem_pair.mp he with rfl | rfl
      · trivial
      · trivial
    refine ⟨hquiet, ?_⟩
    rcases Prog.trace_ite h₂ with ⟨hfail, h₂⟩ | ⟨hok, h₂⟩
    · exact ⟨tbReturnEmpty_readsStored h₂ n stored, Or.inl ⟨hfail, tbReturnEmpty_trace h₂⟩⟩
    · have hcall := hrecv ⟨.zmq (t.fn c.symbol) c, (n, stored)⟩
        (List.mem_append_left _ (by simp [c, cappedLen]))
      obtain ⟨rfl, rfl⟩ := hcall.resolve_left hok
      have hroom : (cappedLen maxLen).toNat ≤ TB_RETURN_STRING_MAX := by
        rw [toNat_cappedLen hsign]
        exact Nat.min_le_right _ _
      obtain ⟨hreads, hresult⟩ := returned_trace hf hroom h₂
      refine ⟨?_, Or.inr ⟨hok, rfl, hresult⟩⟩
      intro e he
      refine ⟨(hreads e he).1, ?_⟩
      intro i cell hreq
      obtain ⟨hcell, hi⟩ := (hreads e he).2 _ i cell hreq
      exact ⟨hcell, hok, hi⟩
  · -- the library is not loaded, and the answer is -1
    obtain ⟨rfl, rfl⟩ := Prod.mk.inj hfailed
    rcases Prog.trace_ite h₂ with ⟨-, h₂⟩ | ⟨hok, -⟩
    · refine Or.inl ⟨?_, ?_, tbReturnEmpty_trace h₂⟩
      · intro _
        exact ⟨⟨.readZmq, t⟩, by simp, decide_eq_true ht⟩
      · intro e he
        simp only [List.mem_append, List.mem_cons, List.not_mem_nil, or_false] at he
        rcases he with (rfl | rfl) | he
        · trivial
        · trivial
        · exact tbReturnEmpty_quiet.trace h₂ e he
    · exact absurd (by decide) hok

section Runs

variable {f : List UInt8} {tr : List Ev} {b : Bstr}

/-- A run without a call of libzmq. -/
private lemma returnsPrefix_of_quiet (hq : ∀ e ∈ tr, Quiet e.request) (hb : b.chars = [])
    (hno : (∀ e ∈ tr, e.rejects = false ∧ e.findsUnloaded = false) →
      ∀ socket maxLen flags, parsedValues tr = [.long socket, .long maxLen, .long flags] →
        ¬ 0 < maxLen.toInt) : ReturnsPrefix f tr b where
  size := by
    intro e he fn socket buf len flags hreq
    have := hq e he
    rw [hreq] at this
    exact this.elim
  reads := by
    intro e he i cell hreq
    have := hq e he
    rw [hreq] at this
    exact absurd rfl this
  attempted := by
    intro hall socket maxLen flags hvals hpos
    exact absurd hpos (hno hall socket maxLen flags hvals)
  received := by
    rintro ⟨e, he, hr⟩
    rw [(hq e he).not_receives] at hr
    cases hr
  otherwise := fun _ => hb

private lemma IsResult.not_receives {e : Ev} (h : IsResult e.request) : e.receives = false := by
  obtain ⟨r, x⟩ := e
  cases r <;> first | rfl | exact h.elim

/-- A run with one. -/
private lemma returnsPrefix_of_call {before after : List Ev} {fn : FARPROC} {buf : Ref}
    {socket maxLen flags n : LONG} {stored : List UInt8} (hpos : 0 < maxLen.toInt)
    (htr : tr = before ++ ⟨.zmq fn (.recv (tbPtrFromHandle socket) buf (cappedLen maxLen) flags),
      (n, stored)⟩ :: after)
    (hvals : parsedValues tr = [.long socket, .long maxLen, .long flags])
    (hbefore : ∀ e ∈ before, Quiet e.request) (hafter : ReadsStored n stored after)
    (hresult : ResultOf f (cappedLen maxLen) n stored after b) : ReturnsPrefix f tr b := by
  let call : Ev :=
    ⟨.zmq fn (.recv (tbPtrFromHandle socket) buf (cappedLen maxLen) flags), (n, stored)⟩
  have hcall : call ∈ tr := by
    rw [htr]
    simp [call]
  have hmem : ∀ e ∈ tr, Quiet e.request ∨ e = call ∨ e ∈ after := by
    intro e he
    rw [htr, List.mem_append, List.mem_cons] at he
    rcases he with he | he | he
    · exact Or.inl (hbefore e he)
    · exact Or.inr (Or.inl he)
    · exact Or.inr (Or.inr he)
  refine ⟨?_, ?_, ?_, ?_, ?_⟩
  · intro e he fn' socket' buf' len' flags' hreq
    rcases hmem e he with hq | rfl | he
    · rw [hreq] at hq
      exact hq.elim
    · obtain ⟨-, hc⟩ := Req.zmq.inj hreq
      obtain ⟨-, -, rfl, -⟩ := ZmqCall.recv.inj hc
      rw [toNat_cappedLen hpos, TB_RETURN_STRING_MAX]
      omega
    · have hr := (hafter e he).1
      rw [hreq] at hr
      exact hr.elim
  · intro e he i cell hreq
    rcases hmem e he with hq | rfl | he
    · rw [hreq] at hq
      exact absurd rfl hq
    · cases hreq
    · obtain ⟨hcell, hok, hi⟩ := (hafter e he).2 i cell hreq
      exact ⟨hcell, call, hcall, decide_eq_true hok, hi⟩
  · intro _ socket' maxLen' flags' hvals' _
    rw [hvals] at hvals'
    simp only [List.cons.injEq, Parsed.long.injEq] at hvals'
    obtain ⟨rfl, rfl, rfl, -⟩ := hvals'
    exact ⟨call, hcall, fn, buf, rfl⟩
  · rintro ⟨e, he, hr⟩
    have hok : ¬ n < 0 := by
      rcases hmem e he with hq | rfl | he
      · rw [hq.not_receives] at hr
        cases hr
      · exact of_decide_eq_true hr
      · rw [(hafter e he).1.not_receives] at hr
        cases hr
    refine ⟨socket, maxLen, flags, hvals, hpos, ?_⟩
    rcases hresult with ⟨hfail, -⟩ | ⟨-, rfl, hb⟩
    · exact absurd hfail hok
    · have htake : f.take (cappedLen maxLen).toNat =
          f.take (min f.length (min maxLen.toInt.toNat TB_RETURN_STRING_MAX)) := by
        rw [toNat_cappedLen hpos, List.take_eq_take_iff]
        omega
      rw [← htake]
      rcases hb with hb | ⟨hb, e', he', hrefuses⟩
      · exact Or.inl hb
      · refine Or.inr ⟨hb, e', ?_, hrefuses⟩
        rw [htr]
        simp [he']
  · intro hnone
    rcases hresult with ⟨-, hb⟩ | ⟨hok, -, -⟩
    · exact hb
    · exact absurd ⟨call, hcall, decide_eq_true hok⟩ hnone

end Runs

/-- `ZmqRecvStr` returns as much of the frame as was asked for and fits its buffer. -/
theorem exec_recvStr_returnsPrefix (f : List UInt8) (hf : f.length < 2 ^ 31) (tr : List Ev)
    (v : Value) (h : Keyword.zmqRecvStr.exec.Trace tr v) (hrecv : ∀ e ∈ tr, e.Delivers f) :
    ∃ b, v = .bstr b ∧ ReturnsPrefix f tr b := by
  rw [Keyword.exec_eq_transact] at h
  rcases transact_trace h with ⟨tr₁, tr₂, rfl, hr, hfail⟩ | ⟨args, tr₁, tr₂, rfl, ha, hact⟩
  · obtain ⟨b, hempty, rfl⟩ := Prog.trace_map.mp hfail
    refine ⟨b, rfl, returnsPrefix_of_quiet ?_ (tbReturnEmpty_trace hempty) ?_⟩
    · intro e he
      rcases List.mem_append.mp he with he | he
      · exact (hr.parsing e he).quiet
      · exact tbReturnEmpty_quiet.trace hempty e he
    · intro hall
      obtain ⟨e, he, hrejects⟩ := hr.exists_rejects
      rw [(hall e (List.mem_append_left _ he)).1] at hrejects
      cases hrejects
  · have hvals := accepted_values ha hact
    obtain ⟨socket, maxLen, flags, _⟩ := args
    obtain ⟨b, hb, rfl⟩ := Prog.trace_map.mp hact
    refine ⟨b, rfl, ?_⟩
    have hparse : ∀ e ∈ tr₁, Quiet e.request := fun e he => (ha.parsing e he).quiet
    rcases recvStrAction_trace hf hb fun e he => hrecv e (List.mem_append_right _ he) with
      ⟨hno, hq, hchars⟩ | ⟨hpos, before, fn, buf, n, stored, after, rfl, hbefore, hafter, hres⟩
    · apply returnsPrefix_of_quiet (List.forall_mem_append.mpr ⟨hparse, hq⟩) hchars
      intro hall socket' maxLen' flags' hvals' hpos
      rw [hvals] at hvals'
      simp only [Args.parsed, Param.parsed, List.cons.injEq, Parsed.long.injEq] at hvals'
      obtain ⟨rfl, rfl, rfl, -⟩ := hvals'
      obtain ⟨e, he, hun⟩ := hno hpos
      rw [(hall e (List.mem_append_right _ he)).2] at hun
      cases hun
    · have hfront : ∀ e ∈ tr₁ ++ before, Quiet e.request :=
        List.forall_mem_append.mpr ⟨hparse, hbefore⟩
      exact returnsPrefix_of_call hpos (List.append_assoc _ _ _).symm hvals hfront hafter hres

/-- A library in which the frame `f` is waiting. -/
def waiting (f : List UInt8) : Library Unit
  | .recv _ _ len _, s => ((Int32.ofNat f.length, f.take len.toNat), s)
  | c, s => (c.failed, s)

lemma waiting_delivers (f : List UInt8) {args : List Arg} {s : Session Unit} {e : Ev}
    (he : e ∈ Host.bare.callEvents (waiting f) .zmqRecvStr args s) : e.Delivers f := by
  obtain ⟨s', hanswer⟩ := Prog.answer_of_mem_events he
  obtain ⟨r, x⟩ := e
  cases r with
  | zmq fn c =>
    cases c with
    | recv socket buf len flags =>
      obtain rfl : x = (Int32.ofNat f.length, f.take len.toNat) := hanswer
      exact Or.inr ⟨rfl, rfl⟩
    | _ => trivial
  | _ => trivial

/-- Two bytes of a frame of three, one of which is NUL. -/
theorem exec_recvStr_returnsPrefix_two_of_three :
    ∃ b, (Host.bare.call (waiting [104, 0, 105]) .zmqRecvStr [.int 7, .int 2, .int 0]
        (Session.resolved ())).1 = .bstr b ∧
      ReturnsPrefix [104, 0, 105] (Host.bare.callEvents (waiting [104, 0, 105]) .zmqRecvStr
        [.int 7, .int 2, .int 0] (Session.resolved ())) b :=
  exec_recvStr_returnsPrefix [104, 0, 105] (by decide) _ _ (Prog.trace_events _ _ _)
    fun _ => waiting_delivers [104, 0, 105]

end ThinBasicZmq
