import ThinBasicZmq.Keywords.HostTrace
import ThinBasicZmq.Keywords.Copies

/-!
# Scripts

One process in which a script runs: the host reads the text of a call, the tables `g_tb` and
`g_zmq` are kept, and `libzmq.dll` is a machine with a state of its own. A keyword is run
by putting its call in front of the host.
-/

namespace ThinBasicZmq

open Interaction

/-- What the host reads, with the expressions evaluated. `ParseString` may leave `NULL`. -/
inductive Token
  | openParens | closeParens | comma
  | int (v : LONG)
  | str (s : Option CString)
deriving DecidableEq

inductive Arg
  | int (v : LONG)
  | str (s : Option CString)
deriving DecidableEq

def Arg.token : Arg → Token
  | int v => .int v
  | str s => .str s

/-- The text of a call with correct syntax. -/
def callTokens (args : List Arg) : List Token :=
  .openParens :: ((args.map Arg.token).intersperse .comma ++ [.closeParens])

/-- A string of the script, and the pointer that the host hands out for it. -/
structure ScriptString where
  bytes : List UInt8
  ptr : CString
  points : ∃ after, ptr.mem = bytes ++ 0 :: after

/-- The bytes before the first NUL. -/
def ScriptString.text (m : ScriptString) : List UInt8 := Memory.text m.bytes

def ScriptString.ofBytes (b : List UInt8) : ScriptString := ⟨b, .ofBytes b, [], rfl⟩

lemma ScriptString.text_ptr (m : ScriptString) : m.ptr.text = m.text := by
  obtain ⟨after, h⟩ := m.points
  unfold CString.text ScriptString.text
  rw [h, Memory.text_append_terminator]

lemma ScriptString.length_text_le (m : ScriptString) : m.text.length ≤ m.bytes.length :=
  Memory.length_text_le m.bytes

/-- The string as the executor gets it. -/
def ScriptString.parsed (m : ScriptString) (h : m.text.length < 0x7FFFFFFF) : ParsedString :=
  ⟨m.ptr, by rwa [← m.ptr.length_text, m.text_ptr]⟩

@[simp] lemma ScriptString.text_parsed {m : ScriptString} (h : m.text.length < 0x7FFFFFFF) :
    (m.parsed h).ptr.text = m.text := m.text_ptr

@[simp] lemma ScriptString.strlen_parsed {m : ScriptString} (h : m.text.length < 0x7FFFFFFF) :
    (m.parsed h).ptr.strlen = m.text.length := by
  rw [← CString.length_text, text_parsed]

/-- What is fixed about a process. -/
structure Host where
  /-- the answer to a check that succeeds -/
  accept : DWORD
  accept_ne : accept ≠ 0
  /-- what is found in cell `i` of a local array before it is written -/
  leftover : ℕ → UInt8
  literal : CString → Ptr
  loadLibrary : List Cell → Option HMODULE
  getModuleHandle : List Cell → Option HMODULE
  getProcAddress : Option HMODULE → String → FARPROC

/-- `libzmq.dll`: what it answers, and the state it is in afterwards. -/
abbrev Library (L : Type) := (c : ZmqCall) → L → c.Resp × L

/-- The answer of a call that fails. -/
def ZmqCall.failed : (c : ZmqCall) → c.Resp
  | .ctxNew | .socket _ _ => (0 : Ptr)
  | .strerrorFn _ => ((0 : Ptr), CString.ofString "")
  | .version => ((0 : LONG), (0 : LONG), (0 : LONG))
  | .recv _ _ _ _ | .curvePublic _ _ => ((-1 : LONG), [])
  | .getsockopt _ _ _ _ => ((-1 : LONG), none)
  | .curveKeypair _ _ => ((-1 : LONG), [], [])
  | .z85Encode _ _ _ | .z85Decode _ _ => ((0 : Ptr), [])
  | .ctxTerm _ | .ctxShutdown _ | .ctxSet _ _ _ | .ctxGet _ _ | .close _ | .bind _ _ | .unbind _ _
  | .connect _ _ | .disconnect _ _ | .send _ _ _ _ | .errnoFn | .has _ | .setsockopt _ _ _ _ =>
    (-1 : LONG)

structure Session (L : Type) where
  tokens : List Token
  tb : TbThincoreApi
  zmq : ZmqApiTable
  lib : L

/-- Both tables are set up. -/
structure Session.Ready {L : Type} (s : Session L) : Prop where
  alloc : s.tb.fn .allocBstr ≠ none
  loaded : s.zmq.loaded ≠ 0

lemma Session.Ready.withLib {L : Type} {s : Session L} (hs : s.Ready) (l : L) :
    { s with lib := l }.Ready := ⟨hs.alloc, hs.loaded⟩

/-- Everything was resolved from one `thinCore.dll` and one `libzmq.dll`. -/
def Session.resolved {L : Type} (lib : L) : Session L where
  tokens := []
  tb := ⟨some ⟨.thinCore, 0x10000⟩, 1, fun s => some ⟨⟨.thinCore, 0x10000⟩, s.exportName⟩⟩
  zmq := ⟨some ⟨.libzmq, 0x20000⟩, 1, fun s => some ⟨⟨.libzmq, 0x20000⟩, s.exportName⟩⟩
  lib := lib

lemma Session.ready_resolved {L : Type} (lib : L) : (Session.resolved lib).Ready :=
  ⟨by simp [resolved], by simp [resolved]⟩

namespace Host

variable {L : Type} (H : Host) (lib : Library L)

/-- A host that finds no libraries, and zeros on the stack. -/
def bare : Host where
  accept := 1
  accept_ne := by decide
  leftover _ := 0
  literal _ := 0
  loadLibrary _ := none
  getModuleHandle _ := none
  getProcAddress _ _ := none

/-- A request to the host consumes the next token if it is the requested one. -/
def parse : (c : HostCall) → List Token → c.Resp × List Token
  | .checkOpenParens _ _, .openParens :: ts => (H.accept, ts)
  | .checkCloseParens _ _, .closeParens :: ts => (H.accept, ts)
  | .checkComma _ _, .comma :: ts => (H.accept, ts)
  | .parseLong, .int v :: ts => (v, ts)
  | .parseString, .str s :: ts => (s, ts)
  | .checkOpenParens _ _, ts | .checkCloseParens _ _, ts | .checkComma _ _, ts =>
    ((0 : DWORD), ts)
  | .parseLong, ts => ((0 : LONG), ts)
  | .parseString, ts => ((none : Option CString), ts)
  | .addEquate _ _ _ _, ts | .loadSymbol _ _ _ _, ts | .loadSymbolFB _ _ _ _, ts =>
    ((1 : DWORD), ts)

def answer : (r : Req) → Session L → r.Resp × Session L
  | .readZmq, s => (s.zmq, s)
  | .writeZmq t, s => ((), { s with zmq := t })
  | .readTb, s => (s.tb, s)
  | .writeTb t, s => ((), { s with tb := t })
  | .getProcAddress m name, s => (H.getProcAddress m name, s)
  | .loadLibrary path, s => (H.loadLibrary path, s)
  | .freeLibrary _, s => ((), s)
  | .getModuleHandle name, s => (H.getModuleHandle name, s)
  | .setDllDirectory _, s => ((), s)
  | .enter _, s => ((), s)
  | .host _ c, s => ((H.parse c s.tokens).1, { s with tokens := (H.parse c s.tokens).2 })
  | .zmq _ c, s => ((lib c s.lib).1, { s with lib := (lib c s.lib).2 })
  | .allocBstr _ _, s => (true, s)
  | .store _ _ _, s => ((), s)
  | .fetch _ i _, s => (H.leftover i, s)
  | .literalAddr str, s => (H.literal str, s)

/-- The script calls `k(args)`. -/
def call (k : Keyword) (args : List Arg) (s : Session L) : Value × Session L :=
  k.exec.run (H.answer lib) { s with tokens := callTokens args ++ s.tokens }

def callEvents (k : Keyword) (args : List Arg) (s : Session L) : List Ev :=
  k.exec.events (H.answer lib) { s with tokens := callTokens args ++ s.tokens }

end Host

def Param.arg : (p : Param) → p.Value → Arg
  | .int, v => .int v
  | .str, s => .str (some s.ptr)

def Args.toList : (sig : List Param) → Args sig → List Arg
  | [], _ => []
  | p :: ps, (a, rest) => p.arg a :: Args.toList ps rest

namespace Host

variable {L α : Type} {H : Host} {lib : Library L}

@[simp] lemma run_tbExpectOpenParens (s : Session L) (ts : List Token) :
    tbExpectOpenParens.run (H.answer lib) { s with tokens := .openParens :: ts } =
      (true, { s with tokens := ts }) :=
  congrArg (·, { s with tokens := ts }) (bne_iff_ne.mpr H.accept_ne)

@[simp] lemma run_tbExpectCloseParens (s : Session L) (ts : List Token) :
    tbExpectCloseParens.run (H.answer lib) { s with tokens := .closeParens :: ts } =
      (true, { s with tokens := ts }) :=
  congrArg (·, { s with tokens := ts }) (bne_iff_ne.mpr H.accept_ne)

@[simp] lemma run_tbExpectComma (s : Session L) (ts : List Token) :
    tbExpectComma.run (H.answer lib) { s with tokens := .comma :: ts } =
      (true, { s with tokens := ts }) :=
  congrArg (·, { s with tokens := ts }) (bne_iff_ne.mpr H.accept_ne)

lemma run_tbParseInt (v : LONG) (s : Session L) (ts : List Token) :
    tbParseInt.run (H.answer lib) { s with tokens := .int v :: ts } =
      (some v, { s with tokens := ts }) := rfl

lemma run_tbParseString (x : ParsedString) (s : Session L) (ts : List Token) :
    tbParseString.run (H.answer lib) { s with tokens := .str (some x.ptr) :: ts } =
      (some x, { s with tokens := ts }) := by
  have hval : (if h : x.ptr.strlen < 0x7FFFFFFF then some ⟨x.ptr, h⟩ else none) = some x :=
    dif_pos x.bound
  exact congrArg (·, { s with tokens := ts }) hval

lemma run_param (p : Param) (a : p.Value) (s : Session L) (ts : List Token) :
    p.parse.run (H.answer lib) { s with tokens := (p.arg a).token :: ts } =
      (some a, { s with tokens := ts }) := by
  cases p with
  | int => exact run_tbParseInt a s ts
  | str => exact run_tbParseString a s ts

lemma run_parseThen {sig : List Param} {fail : Sdk α} {act : Args sig → Sdk α} (args : Args sig)
    (s : Session L) (ts : List Token) :
    (parseThen sig fail act).run (H.answer lib)
        { s with tokens := ((args.toList sig).map Arg.token).intersperse .comma ++ ts } =
      (act args).run (H.answer lib) { s with tokens := ts } := by
  induction sig generalizing s with
  | nil => rfl
  | cons p ps ih =>
    obtain ⟨a, rest⟩ := args
    cases ps with
    | nil =>
      change (p.parse >>= _).run (H.answer lib) { s with tokens := (p.arg a).token :: ts } = _
      rw [Prog.run_bind, run_param]
    | cons q qs =>
      obtain ⟨b, rest'⟩ := rest
      have htokens : (Args.toList (p :: q :: qs) (a, b, rest')).map Arg.token =
          (p.arg a).token :: ((Args.toList (q :: qs) (b, rest')).map Arg.token) := rfl
      have hnext : (Args.toList (q :: qs) (b, rest')).map Arg.token =
          (q.arg b).token :: ((Args.toList qs rest').map Arg.token) := rfl
      rw [htokens, hnext, List.intersperse_cons_cons, ← hnext]
      simp only [parseThen, Prog.run_bind, List.cons_append, run_param, run_tbExpectComma,
        Bool.not_true, Bool.false_eq_true, if_false]
      exact ih (b, rest') s

/-- A call with correct syntax gets the executor past its parameters. -/
theorem run_transact {sig : List Param} {fail : Sdk α} {act : Args sig → Sdk α}
    (args : Args sig) (s : Session L) :
    (transact sig fail act).run (H.answer lib)
        { s with tokens := callTokens (args.toList sig) ++ s.tokens } =
      (act args).run (H.answer lib) s := by
  unfold transact callTokens
  rw [Prog.run_bind, List.cons_append, run_tbExpectOpenParens]
  change (parseThen sig fail _).run _ _ = _
  rw [List.append_assoc, run_parseThen args s, Prog.run_bind, List.singleton_append,
    run_tbExpectCloseParens]
  rfl

theorem call_eq (k : Keyword) (args : Args k.signature) (s : Session L) :
    H.call lib k (args.toList k.signature) s = (k.body.action args).run (H.answer lib) s := by
  rw [call, k.exec_eq_transact]
  exact run_transact args s

lemma call_long (k : Keyword) {fail : LONG} {act : Args k.signature → Sdk LONG}
    (hk : k.body = .long fail act) (args : Args k.signature) {s s' : Session L} {v : LONG}
    (h : (act args).run (H.answer lib) s = (v, s')) :
    H.call lib k (args.toList k.signature) s = (.long v, s') := by
  rw [call_eq, hk]
  refine (Prog.run_map _ _ _ _).trans ?_
  rw [h]

lemma call_bstr (k : Keyword) {act : Args k.signature → Sdk Bstr} (hk : k.body = .bstr act)
    (args : Args k.signature) {s s' : Session L} {b : Bstr}
    (h : (act args).run (H.answer lib) s = (b, s')) :
    H.call lib k (args.toList k.signature) s = (.bstr b, s') := by
  rw [call_eq, hk]
  refine (Prog.run_map _ _ _ _).trans ?_
  rw [h]

/-- `tb_parse_string` takes no `NULL` pointer and no text that is too long. -/
def Refused : Option CString → Prop
  | none => True
  | some ptr => 0x7FFFFFFF ≤ ptr.strlen

lemma run_tbParseString_refused {p : Option CString} (hp : Refused p) (s : Session L)
    (ts : List Token) :
    tbParseString.run (H.answer lib) { s with tokens := .str p :: ts } =
      (none, { s with tokens := ts }) := by
  cases p with
  | none => rfl
  | some ptr =>
    have hval : (if h : ptr.strlen < 0x7FFFFFFF then some (⟨ptr, h⟩ : ParsedString) else none) =
        none := dif_neg (Nat.not_lt.mpr hp)
    exact congrArg (·, { s with tokens := ts }) hval

/-- Arguments that are followed by another one. -/
def leadingTokens (args : List Arg) : List Token := args.flatMap fun a => [a.token, .comma]

private lemma callTokens_append (args : List Arg) (b : Arg) (rest : List Arg) : ∃ ts,
    callTokens (args ++ b :: rest) = .openParens :: (leadingTokens args ++ b.token :: ts) := by
  induction args with
  | nil =>
    cases rest with
    | nil => exact ⟨[.closeParens], rfl⟩
    | cons c rest =>
      exact ⟨.comma :: (((c :: rest).map Arg.token).intersperse .comma ++ [.closeParens]), rfl⟩
  | cons a args ih =>
    obtain ⟨ts, hts⟩ := ih
    have htail := (List.cons.inj hts).2
    refine ⟨ts, ?_⟩
    cases args with
    | nil => exact congrArg (fun l => Token.openParens :: a.token :: .comma :: l) htail
    | cons a' args => exact congrArg (fun l => Token.openParens :: a.token :: .comma :: l) htail

lemma run_parseThen_refused {pre post : List Param} {fail : Sdk α}
    {act : Args (pre ++ .str :: post) → Sdk α} (args : Args pre) {p : Option CString}
    (hp : Refused p) (s : Session L) (ts : List Token) :
    (parseThen (pre ++ .str :: post) fail act).run (H.answer lib)
        { s with tokens := leadingTokens (args.toList pre) ++ .str p :: ts } =
      fail.run (H.answer lib) { s with tokens := ts } := by
  induction pre generalizing s with
  | nil =>
    cases post with
    | nil =>
      change (tbParseString >>= _).run (H.answer lib) { s with tokens := .str p :: ts } = _
      rw [Prog.run_bind, run_tbParseString_refused hp]
    | cons q post =>
      change (tbParseString >>= _).run (H.answer lib) { s with tokens := .str p :: ts } = _
      rw [Prog.run_bind, run_tbParseString_refused hp]
  | cons q pre ih =>
    obtain ⟨a, rest⟩ := args
    have hcomma {q : Sdk α} : (tbExpectComma >>= fun b => if !b then fail else q).run
        (H.answer lib)
        { s with tokens := .comma :: (leadingTokens (rest.toList pre) ++ .str p :: ts) } =
        q.run (H.answer lib)
          { s with tokens := leadingTokens (rest.toList pre) ++ .str p :: ts } := by
      rw [Prog.run_bind, run_tbExpectComma]
      rfl
    cases pre with
    | nil =>
      change (q.parse >>= _).run (H.answer lib) { s with tokens := (q.arg a).token :: _ } = _
      rw [Prog.run_bind, run_param]
      exact hcomma.trans (ih rest s)
    | cons q' pre =>
      change (q.parse >>= _).run (H.answer lib) { s with tokens := (q.arg a).token :: _ } = _
      rw [Prog.run_bind, run_param]
      exact hcomma.trans (ih rest s)

/-- A string that is refused ends the call, whatever comes behind it. -/
theorem run_transact_refused {pre post : List Param} {fail : Sdk α}
    {act : Args (pre ++ .str :: post) → Sdk α} (args : Args pre) {p : Option CString}
    (hp : Refused p) (rest : List Arg) (s : Session L) : ∃ ts,
      (transact (pre ++ .str :: post) fail act).run (H.answer lib)
          { s with tokens := callTokens (args.toList pre ++ .str p :: rest) ++ s.tokens } =
        fail.run (H.answer lib) { s with tokens := ts } := by
  obtain ⟨ts, hts⟩ := callTokens_append (args.toList pre) (.str p) rest
  refine ⟨ts ++ s.tokens, ?_⟩
  unfold transact
  rw [hts, List.cons_append, Prog.run_bind, run_tbExpectOpenParens, List.append_assoc]
  exact run_parseThen_refused args hp s _

lemma answer_local {r : Req} {s : Session L} (h : IsLocal r) : (H.answer lib r s).2 = s := by
  cases r <;> first | rfl | exact h.elim

lemma run_settles {P : Req → Prop} {p : Sdk α} {a : α} (hp : p.Settles P a)
    (hP : ∀ r, P r → IsLocal r) (s : Session L) : p.run (H.answer lib) s = (a, s) :=
  hp.run_eq (fun r _ hr => answer_local (hP r hr)) s

/-- Making a result changes nothing. -/
lemma run_result {p : Sdk α} (hp : p.Only IsResult) (s : Session L) :
    (p.run (H.answer lib) s).2 = s :=
  hp.run_state (fun _ _ hr => answer_local hr.isLocal) s

lemma run_copyString {cap : ℕ} {x : ParsedString} (hx : x.ptr.strlen < cap) (s : Session L) :
    (copyString cap x).run (H.answer lib) s = (terminated cap x.ptr.text, s) :=
  run_settles (copyString_settles hx) (fun _ => StoreWithin.isLocal) s

lemma run_zmqApi {c : ZmqCall} {notLoaded : Sdk c.Resp} {s : Session L}
    (hs : s.zmq.loaded ≠ 0) : (zmqApi c notLoaded).run (H.answer lib) s =
      ((lib c s.lib).1, { s with lib := (lib c s.lib).2 }) := by
  let q : Sdk c.Resp := ask (.zmq (s.zmq.fn c.symbol) c)
  have hif : (if s.zmq.loaded ≠ 0 then q else notLoaded) = q := if_pos hs
  exact congrArg (fun p : Sdk c.Resp => p.run (H.answer lib) s) hif

lemma run_zmqApiOptional {c : ZmqCall} {args : List Ref} {failed : c.Resp} {s : Session L}
    {x : c.Resp} {l : L} (hs : s.zmq.loaded ≠ 0) (hfn : s.zmq.fn c.symbol ≠ none)
    (hargs : args.any Ref.isNull = false) (h : lib c s.lib = (x, l)) :
    (zmqApiOptional c args failed).run (H.answer lib) s = (x, { s with lib := l }) := by
  let q : Sdk c.Resp := ask (.zmq (s.zmq.fn c.symbol) c)
  have hif : (if s.zmq.loaded = 0 ∨ s.zmq.fn c.symbol = none ∨ args.any Ref.isNull then
      pure failed else q) = q := if_neg (by simp [hs, hfn, hargs])
  have hq : q.run (H.answer lib) s = (x, { s with lib := l }) :=
    congrArg (fun a : c.Resp × L => (a.1, { s with lib := a.2 })) h
  exact (congrArg (fun p : Sdk c.Resp => p.run (H.answer lib) s) hif).trans hq

lemma run_tbReturnStringN {s : Session L} (hs : s.tb.fn .allocBstr ≠ none) {t : List UInt8}
    (rest : List Cell) (ht : t.length ≤ TB_RETURN_STRING_MAX) :
    (tbReturnStringN (some (t.map some ++ rest)) t.length).run (H.answer lib) s =
      (some t, s) := by
  change (if s.tb.fn .allocBstr = none then pure none else
    if t.length = 0 then allocBstr (s.tb.fn .allocBstr) []
    else if t.length > TB_RETURN_STRING_MAX then allocBstr (s.tb.fn .allocBstr) []
    else fetchBytes (t.map some ++ rest) t.length 0 >>= allocBstr (s.tb.fn .allocBstr)).run
      (H.answer lib) s = _
  rw [if_neg hs]
  by_cases h0 : t.length = 0
  · rw [if_pos h0, List.length_eq_zero_iff.mp h0]
    rfl
  · have hfetch : (fetchBytes (t.map some ++ rest) t.length 0).run (H.answer lib) s = (t, s) :=
      run_settles (fetchBytes_settles rfl) (fun _ => FetchWritten.isLocal) s
    rw [if_neg h0, if_neg (Nat.not_lt.mpr ht), Prog.run_bind, hfetch]
    rfl

lemma run_tbReturnStringN_none {s : Session L} (hs : s.tb.fn .allocBstr ≠ none) (len : ℕ) :
    (tbReturnStringN none len).run (H.answer lib) s = (some [], s) := by
  change (if s.tb.fn .allocBstr = none then pure none else
    allocBstr (s.tb.fn .allocBstr) []).run (H.answer lib) s = _
  rw [if_neg hs]
  rfl

lemma run_tbReturnString {s : Session L} (hs : s.tb.fn .allocBstr ≠ none) {t : List UInt8}
    (rest : List Cell) (h0 : 0 ∉ t) (ht : t.length < TB_RETURN_STRING_MAX) :
    (tbReturnString (some (t.map some ++ some 0 :: rest))).run (H.answer lib) s =
      (some t, s) := by
  cases t with
  | nil => exact run_tbReturnStringN_none hs 0
  | cons b t =>
    let cells : List Cell := (b :: t).map some ++ some 0 :: rest
    have hb : b ≠ 0 := fun he => h0 (by simp [he])
    have hscan : (scanNul cells TB_RETURN_STRING_MAX 0).run (H.answer lib) s =
        ((b :: t).length, s) := by
      have hset : (scanNul cells TB_RETURN_STRING_MAX 0).Settles (FetchWritten cells.length)
          (0 + (b :: t).length) := scanNul_settles rfl h0 ht
      rw [Nat.zero_add] at hset
      exact run_settles hset (fun _ => FetchWritten.isLocal) s
    change (if (b == 0) = true then tbReturnStringN none 0 else
      scanNul cells TB_RETURN_STRING_MAX 0 >>= fun len =>
        if len = 0 ∨ len ≥ TB_RETURN_STRING_MAX then pure none
        else tbReturnStringN (some cells) len).run (H.answer lib) s = _
    rw [if_neg (by simpa using hb), Prog.run_bind, hscan]
    change (if (b :: t).length = 0 ∨ (b :: t).length ≥ TB_RETURN_STRING_MAX then pure none
        else tbReturnStringN (some cells) (b :: t).length).run (H.answer lib) s = _
    rw [if_neg (by simp; omega)]
    exact run_tbReturnStringN hs _ ht.le

lemma run_tbReturnEmpty {s : Session L} (hs : s.tb.fn .allocBstr ≠ none) :
    tbReturnEmpty.run (H.answer lib) s = (some [], s) :=
  run_tbReturnString hs [] List.not_mem_nil (Nat.zero_lt_succ _)

end Host

end ThinBasicZmq
