import ThinBasicZmq.Loader.Serializability
import ThinBasicZmq.Model.Native

/-!
# The symbols that the host knows

`_LoadLocalSymbols` tells the host the names of the keywords, with the executor and the type of
the result, and the values of the equates. A later registration of a name takes the place of an
earlier one. What the host is told is compared with the heads of the executors in `tb_zmq_exec.c`
and with the constants of `Enums.inc`.
-/

namespace ThinBasicZmq

open Interaction Environment System

/-- What the host keeps for the name of a keyword. -/
structure HostSymbol where
  functionCode : Keyword
  dwReturnType : DWORD
  /-- the convention by which the host calls the code -/
  callConv : CallConv
deriving DecidableEq

/-- The registration of a name, if the event is one. The code that is registered with
`thinBasic_LoadSymbol_FB` is called as `__stdcall`, that of `_thinBasic_LoadSymbol` as
`__cdecl`. -/
def Ev.symbol? (name : String) : Ev → Option HostSymbol
  | ⟨.host _ (.loadSymbol n t k _), _⟩ => if n = name then some ⟨k, t, .cdecl⟩ else none
  | ⟨.host _ (.loadSymbolFB n t k _), _⟩ => if n = name then some ⟨k, t, .stdcall⟩ else none
  | _ => none

def Ev.equate? (name : String) : Ev → Option DWORD
  | ⟨.host _ (.addEquate n _ v _), _⟩ => if n = name then some v else none
  | _ => none

/-- The newest registration counts. -/
def hostSymbol (log : List Ev) (name : String) : Option HostSymbol := log.findSome? (Ev.symbol? name)

def hostEquate (log : List Ev) (name : String) : Option DWORD := log.findSome? (Ev.equate? name)

/-- How the host is to read a result of the type. -/
def ReturnType.dwReturnType : ReturnType → DWORD
  | .LONG => thinBasic_ReturnCodeLong
  | .voidPtr => thinBasic_ReturnString

def Value.returnType : Value → ReturnType
  | .long _ => .LONG
  | .bstr _ => .voidPtr

/-- The code is to be called, and its result read, as its head in `tb_zmq_exec.c` says. -/
def Keyword.hostSymbol (k : Keyword) : HostSymbol where
  functionCode := k
  dwReturnType := k.executor.returnType.dwReturnType
  callConv := k.executor.callConv

/-- The host knows every executor under the name of its function and every equate with the value
of its constant, and nothing else from this module. -/
structure Registered (log : List Ev) : Prop where
  keywords : ∀ k : Keyword, ∃ name, k.executor.name = "Exec_" ++ name ∧
    ThinBasicZmq.hostSymbol log name = some k.hostSymbol
  symbols : ∀ name sym, ThinBasicZmq.hostSymbol log name = some sym →
    sym.functionCode.executor.name = "Exec_" ++ name
  equates : ∀ e ∈ zmqEquates, hostEquate log e.1 = some e.2
  values : ∀ name v, hostEquate log name = some v →
    ∃ c, name = "%" ++ c ∧ (c, (v.toNat : ℤ)) ∈ Native.enums

namespace SymbolLine

def name : SymbolLine → String
  | symbol name _ _ | symbolFB name _ _ => name

def fn : SymbolLine → Keyword
  | symbol _ _ fn | symbolFB _ _ fn => fn

/-- What the host keeps after the line. -/
def hostSymbol : SymbolLine → HostSymbol
  | symbol _ returnType fn => ⟨fn, returnType, .cdecl⟩
  | symbolFB _ returnType fn => ⟨fn, returnType, .stdcall⟩

/-- A line says what is true of its executor. -/
structure Honest (l : SymbolLine) : Prop where
  name : l.fn.executor.name = "Exec_" ++ l.name
  symbol : l.hostSymbol = l.fn.hostSymbol

instance (l : SymbolLine) : Decidable l.Honest :=
  decidable_of_iff (l.fn.executor.name = "Exec_" ++ l.name ∧ l.hostSymbol = l.fn.hostSymbol)
    ⟨fun h => ⟨h.1, h.2⟩, fun h => ⟨h.name, h.symbol⟩⟩

end SymbolLine

lemma zmqSymbols_honest : ∀ l ∈ zmqSymbols, l.Honest := by decide +kernel

lemma zmqSymbols_complete (k : Keyword) : ∃ l ∈ zmqSymbols, l.fn = k := by
  have hin : k ∈ zmqSymbols.map SymbolLine.fn := by cases k <;> decide
  exact List.mem_map.mp hin

lemma zmqSymbols_functional {l l' : SymbolLine} (h : l ∈ zmqSymbols) (h' : l' ∈ zmqSymbols)
    (hname : l.name = l'.name) : l = l' := by
  have hnodup : (zmqSymbols.map SymbolLine.name).Nodup := by decide +kernel
  exact List.inj_on_of_nodup_map hnodup h h' hname

lemma zmqEquates_functional {n : String} {v v' : DWORD} (h : (n, v) ∈ zmqEquates)
    (h' : (n, v') ∈ zmqEquates) : v = v' := by
  have hnodup : (zmqEquates.map Prod.fst).Nodup := by decide +kernel
  have heq := List.inj_on_of_nodup_map hnodup h h' rfl
  exact (Prod.mk.inj heq).2

/-- The equates agree with the constants that the native includes have. -/
lemma zmqEquates_enums : ∀ e ∈ zmqEquates, ∃ c ∈ Native.enums, e.1 = "%" ++ c.1 ∧
    (e.2.toNat : ℤ) = c.2 := by
  decide +kernel

/-- Every registration in the history is one of this module. -/
def Own : Req → Prop
  | .host _ (.loadSymbol n t k o) => ∃ l ∈ zmqSymbols, .loadSymbol n t k o = l.call
  | .host _ (.loadSymbolFB n t k o) => ∃ l ∈ zmqSymbols, .loadSymbolFB n t k o = l.call
  | .host _ (.addEquate n _ v _) => (n, v) ∈ zmqEquates
  | _ => True

/-- The request that registers an equate. -/
def equateRegistration (e : String × DWORD) : HostCall :=
  .addEquate e.1 "" e.2 thinBasic_ConstTypeNumeric

/-- The host was called so. -/
def Has (log : List Ev) (c : HostCall) : Prop := ∃ e ∈ log, ∃ fn, e.request = .host fn c

/-- All registrations are in the history. -/
structure Present (log : List Ev) : Prop where
  symbols : ∀ l ∈ zmqSymbols, Has log l.call
  equates : ∀ e ∈ zmqEquates, Has log (equateRegistration e)

lemma symbol?_call {e : Ev} {l : SymbolLine} {fn : FARPROC} (h : e.request = .host fn l.call)
    (name : String) : e.symbol? name = if l.name = name then some l.hostSymbol else none := by
  obtain ⟨r, x⟩ := e
  obtain rfl : r = .host fn l.call := h
  cases l <;> rfl

/-- A name that is found was registered by this module. -/
lemma symbol?_own {e : Ev} {name : String} {sym : HostSymbol} (he : Own e.request)
    (h : e.symbol? name = some sym) : ∃ l ∈ zmqSymbols, l.name = name ∧ sym = l.hostSymbol := by
  have hline : ∃ l ∈ zmqSymbols, ∃ fn : FARPROC, e.request = .host fn l.call := by
    obtain ⟨r, x⟩ := e
    cases r with
    | host fn c =>
      cases c with
      | loadSymbol n t k o =>
        obtain ⟨l, hl, hcall⟩ := he
        exact ⟨l, hl, fn, congrArg (Req.host fn) hcall⟩
      | loadSymbolFB n t k o =>
        obtain ⟨l, hl, hcall⟩ := he
        exact ⟨l, hl, fn, congrArg (Req.host fn) hcall⟩
      | _ => cases h
    | _ => cases h
  obtain ⟨l, hl, fn, hcall⟩ := hline
  rw [symbol?_call hcall] at h
  by_cases hname : l.name = name
  · rw [if_pos hname] at h
    exact ⟨l, hl, hname, (Option.some.inj h).symm⟩
  · rw [if_neg hname] at h
    cases h

lemma equate?_own {e : Ev} {name : String} {v : DWORD} (he : Own e.request)
    (h : e.equate? name = some v) : (name, v) ∈ zmqEquates := by
  obtain ⟨r, x⟩ := e
  cases r with
  | host fn c =>
    cases c with
    | addEquate n t v' o =>
      have hif : (if n = name then some v' else none) = some v := h
      by_cases hname : n = name
      · rw [if_pos hname] at hif
        rw [← hname, ← Option.some.inj hif]
        exact he
      · rw [if_neg hname] at hif
        cases hif
    | _ => cases h
  | _ => cases h

lemma findSome?_eq_some {α β : Type} {f : α → Option β} {l : List α} {b : β}
    (hex : ∃ a ∈ l, (f a).isSome) (hall : ∀ a ∈ l, ∀ b', f a = some b' → b' = b) :
    l.findSome? f = some b := by
  obtain ⟨b', hb'⟩ := Option.isSome_iff_exists.mp (List.findSome?_isSome_iff.mpr hex)
  obtain ⟨a, ha, hfa⟩ := List.exists_of_findSome?_eq_some hb'
  rw [hb', hall a ha b' hfa]

/-- No line of the registration takes the name of another. -/
lemma hostSymbol_of_present {log : List Ev} (hown : ∀ e ∈ log, Own e.request) (h : Present log)
    {l : SymbolLine} (hl : l ∈ zmqSymbols) : hostSymbol log l.name = some l.hostSymbol := by
  apply findSome?_eq_some
  · obtain ⟨e, he, fn, hreq⟩ := h.symbols l hl
    refine ⟨e, he, ?_⟩
    rw [symbol?_call hreq, if_pos rfl]
    rfl
  · intro e he sym hsym
    obtain ⟨l', hl', hname, hsym'⟩ := symbol?_own (hown e he) hsym
    rw [hsym', zmqSymbols_functional hl' hl hname]

theorem registered_of_present {log : List Ev} (hown : ∀ e ∈ log, Own e.request)
    (h : Present log) : Registered log where
  keywords := by
    intro k
    obtain ⟨l, hl, rfl⟩ := zmqSymbols_complete k
    have hhonest := zmqSymbols_honest l hl
    refine ⟨l.name, hhonest.name, ?_⟩
    rw [hostSymbol_of_present hown h hl, hhonest.symbol]
  symbols := by
    intro name sym hsym
    obtain ⟨e, he, hfound⟩ := List.exists_of_findSome?_eq_some hsym
    obtain ⟨l, hl, rfl, rfl⟩ := symbol?_own (hown e he) hfound
    have hhonest := zmqSymbols_honest l hl
    rw [hhonest.symbol]
    exact hhonest.name
  equates := by
    rintro ⟨n, v⟩ hmem
    apply findSome?_eq_some
    · obtain ⟨e, he, fn, hreq⟩ := h.equates (n, v) hmem
      refine ⟨e, he, ?_⟩
      obtain ⟨r, x⟩ := e
      obtain rfl : r = _ := hreq
      change (if n = n then some v else none).isSome
      rw [if_pos rfl]
      rfl
    · intro e he v' hv'
      exact zmqEquates_functional (equate?_own (hown e he) hv') hmem
  values := by
    intro name v hv
    obtain ⟨e, he, hfound⟩ := List.exists_of_findSome?_eq_some hv
    obtain ⟨⟨c, w⟩, hmem, hname, hvalue⟩ := zmqEquates_enums _ (equate?_own (hown e he) hfound)
    refine ⟨c, hname, ?_⟩
    rw [hvalue]
    exact hmem

variable {s : Process × List Ev} {α : Type}

/-- The rules for programs whose history is written. -/
abbrev RecordsFrom (J : Process × List Ev → Prop) (Q : α → Process × List Ev → Prop) (p : Sdk α)
    (s : Process × List Ev) : Prop :=
  history.environment.Ensures J Q p s

/-- The history only has registrations of this module. -/
def OwnLog (s : Process × List Ev) : Prop := ∀ e ∈ s.2, Own e.request

/-- Between the keywords: what is in `g_tb` and in the host's table agree. -/
structure Known (s : Process × List Ev) : Prop where
  own : OwnLog s
  present : s.1.tb.loaded ≠ 0 → Present s.2

lemma Has.mono {log log' : List Ev} {c : HostCall} (h : Has log c) (hsub : ∀ e ∈ log, e ∈ log') :
    Has log' c := by
  obtain ⟨e, he, hfn⟩ := h
  exact ⟨e, hsub e he, hfn⟩

lemma history_mono {s' : Process × List Ev} {r : Req} {x : r.Resp}
    (h : history.respond s r x s') : ∀ e ∈ s.2, e ∈ s'.2 := by
  intro e he
  rw [h.2]
  split
  · exact he
  · exact List.mem_cons_of_mem _ he

lemma ownLog_step {s' : Process × List Ev} {r : Req} {x : r.Resp} (hr : Own r) (hs : OwnLog s)
    (h : history.respond s r x s') : OwnLog s' := by
  intro e he
  rw [h.2] at he
  by_cases htext : AsksText r
  · rw [if_pos htext] at he
    exact hs e he
  · rw [if_neg htext] at he
    rcases List.mem_cons.mp he with rfl | he
    · exact hr
    · exact hs e he

lemma records_own {p : Sdk α} (hp : p.Only Own) (hs : OwnLog s) :
    RecordsFrom OwnLog (fun _ => OwnLog) p s :=
  ensures_of_kept (fun _ _ _ _ hr hI hx => ownLog_step hr hI hx) hp hs

/-- A program that makes these calls to the host, whatever is answered. -/
def Announces (cs : List HostCall) (p : Sdk α) : Prop :=
  ∀ s : Process × List Ev, OwnLog s → RecordsFrom OwnLog
    (fun _ s' => OwnLog s' ∧ ∀ c, Has s.2 c ∨ c ∈ cs → Has s'.2 c) p s

lemma announces_pure (a : α) : Announces [] (pure a : Sdk α) := by
  intro s hs
  refine ⟨hs, hs, ?_⟩
  rintro c (hc | hc)
  · exact hc
  · cases hc

lemma Announces.bind {β : Type} {cs cs' : List HostCall} {p : Sdk α} {f : α → Sdk β}
    (hp : Announces cs p) (hf : ∀ a, Announces cs' (f a)) : Announces (cs ++ cs') (p >>= f) := by
  intro s hs
  apply ensures_bind
  apply Ensures.mono (hp s hs)
  rintro a s₁ ⟨hs₁, hfirst⟩
  apply Ensures.mono (hf a s₁ hs₁)
  rintro b s₂ ⟨hs₂, hsecond⟩
  refine ⟨hs₂, ?_⟩
  rintro c (hc | hc)
  · exact hsecond c (Or.inl (hfirst c (Or.inl hc)))
  · rcases List.mem_append.mp hc with hc | hc
    · exact hsecond c (Or.inl (hfirst c (Or.inr hc)))
    · exact hsecond c (Or.inr hc)

lemma announces_tbCall {c : HostCall} (hown : ∀ fn, Own (.host fn c))
    (htext : ∀ fn, ¬ AsksText (.host fn c)) : Announces [c] (tbCall c) := by
  intro s hs
  refine ⟨hs, ?_⟩
  intro g s₁ hx₁
  have hread : Own .readTb := trivial
  have hs₁ : OwnLog s₁ := ownLog_step hread hs hx₁
  refine ⟨hs₁, ?_⟩
  intro x s₂ hx₂
  have hs₂ : OwnLog s₂ := ownLog_step (hown _) hs₁ hx₂
  refine ⟨hs₂, hs₂, ?_⟩
  rintro c' (hc | hc)
  · exact (hc.mono (history_mono hx₁)).mono (history_mono hx₂)
  · obtain rfl := List.mem_singleton.mp hc
    refine ⟨⟨.host (g.fn c'.symbol) c', x⟩, ?_, _, rfl⟩
    rw [hx₂.2, if_neg (htext _)]
    exact List.mem_cons_self

lemma SymbolLine.own_call {l : SymbolLine} (hl : l ∈ zmqSymbols) (fn : FARPROC) :
    Own (.host fn l.call) := by
  cases l with
  | symbol name returnType k => exact ⟨_, hl, rfl⟩
  | symbolFB name returnType k => exact ⟨_, hl, rfl⟩

lemma announces_registerSymbols (symbols : List SymbolLine) (h : ∀ l ∈ symbols, l ∈ zmqSymbols) :
    Announces (symbols.map SymbolLine.call) (tbZmqRegisterSymbols symbols) := by
  induction symbols with
  | nil => exact announces_pure _
  | cons l symbols ih =>
    have hcall : Announces [l.call] (tbCall l.call) :=
      announces_tbCall (SymbolLine.own_call (h l List.mem_cons_self)) l.call_not_text
    apply hcall.bind
    intro _
    apply ih
    intro l' hl'
    exact h l' (List.mem_cons_of_mem _ hl')

lemma announces_registerEquates (es : List (String × DWORD)) (h : ∀ e ∈ es, e ∈ zmqEquates) :
    Announces (es.map equateRegistration) (tbZmqRegisterEquates es) := by
  induction es with
  | nil => exact announces_pure _
  | cons e es ih =>
    have hcall : Announces [equateRegistration e] (tbCall (equateRegistration e)) :=
      announces_tbCall (fun _ => h e List.mem_cons_self) fun _ => id
    apply hcall.bind
    intro _
    apply ih
    intro e' he'
    exact h e' (List.mem_cons_of_mem _ he')

/-- `g_tb` is marked as loaded at the very end. -/
lemma ensures_tbResolveExports_loaded {t : LONG} {s : Process} (ht : s.tb.loaded = t)
    (syms : List TbSymbol) :
    EnsuresFrom Anyhow (fun _ s' => s'.tb.loaded = t) (tbResolveExports syms) s := by
  induction syms generalizing s with
  | nil => exact ⟨trivial, ht⟩
  | cons sym syms ih =>
    have hresolve : (tbResolveExport sym.exportName).Only Passive :=
      ⟨trivial, fun _ => ⟨trivial, fun _ => trivial⟩⟩
    apply ensures_bind_passive hresolve trivial
    intro x
    apply ensures_readTb trivial
    apply ensures_writeTb trivial
    exact ih ht

lemma ensures_getOrLoadLibrary_loaded {t : LONG} {s : Process} (ht : s.tb.loaded = t)
    (name : List Cell) :
    EnsuresFrom Anyhow (fun _ s' => s'.tb.loaded = t) (getOrLoadLibrary name) s := by
  apply ensures_getOrLoadLibrary trivial
  · intro _ _
    exact ht
  · intro _
    exact ⟨trivial, ht⟩
  · intro _ m _
    refine ⟨trivial, ?_⟩
    change (s.world.load m).tb.loaded = t
    rw [World.tb_load]
    exact ht

lemma ensures_tbResolveAllocBstr_loaded {t : LONG} {s : Process} (ht : s.tb.loaded = t) :
    EnsuresFrom Anyhow (fun _ s' => s'.tb.loaded = t) tbResolveAllocBstr s := by
  apply ensures_bind
  apply Ensures.mono (ensures_getOrLoadLibrary_loaded ht _)
  intro x s' hs'
  cases x with
  | none => exact ⟨trivial, hs'⟩
  | some ole =>
    apply ensures_ask_passive
    · trivial
    · trivial
    intro fn
    apply ensures_readTb trivial
    apply ensures_writeTb trivial
    exact ⟨trivial, hs'⟩

lemma ensures_tbThincoreShutdown_loaded (s : Process) :
    EnsuresFrom Anyhow (fun _ s' => s'.tb.loaded = 0) tbThincoreShutdown s := by
  have hzero : ∀ s : Process, EnsuresFrom Anyhow (fun _ s' => s'.tb.loaded = 0)
      (ask (.writeTb .zero) >>= pure) s := by
    intro s
    apply ensures_writeTb trivial
    exact ⟨trivial, rfl⟩
  unfold tbThincoreShutdown
  apply ensures_readTb trivial
  apply ensures_ite
  · intro _
    exact hzero s
  intro _
  apply ensures_getModuleHandle trivial
  apply ensures_ite
  · intro _
    exact hzero s
  intro _
  apply ensures_freeLibrary trivial
  exact hzero _

/-- When it fails, `g_tb` is not loaded. -/
lemma ensures_tbThincoreInit_loaded (s : Process) :
    EnsuresFrom Anyhow (fun r s' => r = 0 → s'.tb.loaded = 0) tbThincoreInit s := by
  unfold tbThincoreInit
  apply ensures_readTb trivial
  apply ensures_ite
  · intro _
    refine ⟨trivial, ?_⟩
    intro hone
    exact absurd hone (by decide)
  intro hloaded
  have ht : s.tb.loaded = 0 := not_not.mp hloaded
  apply ensures_bind
  apply Ensures.mono (ensures_getOrLoadLibrary_loaded ht _)
  intro m s₁ _
  have hwritten : (s₁.withTb { s.world.tb with module := m }).tb.loaded = 0 := ht
  apply ensures_writeTb trivial
  apply ensures_ite
  · intro _
    exact ⟨trivial, fun _ => hwritten⟩
  intro _
  apply ensures_bind
  apply Ensures.mono (ensures_tbResolveExports_loaded hwritten _)
  intro _ s₂ hs₂
  apply ensures_bind
  apply Ensures.mono (ensures_tbResolveAllocBstr_loaded hs₂)
  intro _ s₃ hs₃
  apply ensures_readTb trivial
  apply ensures_ite
  · intro _
    apply ensures_bind
    apply Ensures.mono (ensures_tbThincoreShutdown_loaded s₃)
    intro _ s₄ hs₄
    exact ⟨trivial, fun _ => hs₄⟩
  · intro _
    apply ensures_writeTb trivial
    refine ⟨trivial, ?_⟩
    intro hone
    exact absurd hone (by decide)

lemma own_of_not_host {r : Req} (h : ¬ IsHost r) : Own r := by
  cases r <;> first | trivial | exact absurd trivial h

/-- A program that does not call the host, with what it does to the process. -/
lemma records_noHost {p : Sdk α} {G : α → Process → Prop} (hp : NoHost p) (hs : OwnLog s)
    (hG : EnsuresFrom Anyhow G p s.1) :
    RecordsFrom OwnLog (fun a s' => OwnLog s' ∧ G a s'.1) p s := by
  have hown : RecordsFrom OwnLog (fun _ => OwnLog) p s :=
    records_own (hp.mono fun _ => own_of_not_host) hs
  have hhosted : hosted.environment.Ensures (fun _ => True) G p s.1 := hG
  have hprocess : RecordsFrom (fun _ => True) (fun a s' => G a s'.1) p s := ensures_logged hhosted
  exact (hown.and hprocess).weaken fun _ h => h.1

lemma records_loadLocalSymbols (hs : OwnLog s) :
    RecordsFrom OwnLog (fun _ => Known) loadLocalSymbols s := by
  unfold loadLocalSymbols
  apply ensures_bind
  apply Ensures.mono (records_noHost tbThincoreInit_noHost hs (ensures_tbThincoreInit_loaded s.1))
  rintro r s₁ ⟨hs₁, hfailed⟩
  apply ensures_ite
  · intro hr
    exact ⟨hs₁, hs₁, fun hloaded => absurd (hfailed hr) hloaded⟩
  intro _
  apply ensures_bind
  apply Ensures.mono (announces_registerSymbols zmqSymbols (fun _ hl => hl) s₁ hs₁)
  rintro _ s₂ ⟨hs₂, hsymbols⟩
  apply ensures_bind
  apply Ensures.mono (announces_registerEquates zmqEquates (fun _ he => he) s₂ hs₂)
  rintro _ s₃ ⟨hs₃, hequates⟩
  refine ⟨hs₃, hs₃, fun _ => ⟨?_, ?_⟩⟩
  · intro l hl
    apply hequates
    exact Or.inl (hsymbols _ (Or.inr (List.mem_map_of_mem hl)))
  · intro e he
    exact hequates _ (Or.inr (List.mem_map_of_mem he))

lemma ensures_unLoadLocalSymbols_loaded (s : Process) :
    EnsuresFrom Anyhow (fun _ s' => s'.tb.loaded = 0) unLoadLocalSymbols s := by
  unfold unLoadLocalSymbols
  apply ensures_bind
  apply Ensures.mono ensures_zmqDynUnload
  intro _ s' _
  apply ensures_bind
  apply Ensures.mono (ensures_tbThincoreShutdown_loaded s')
  intro _ s'' hs''
  exact ⟨trivial, hs''⟩

lemma records_unLoadLocalSymbols (hs : OwnLog s) :
    RecordsFrom OwnLog (fun _ => Known) unLoadLocalSymbols s := by
  apply Ensures.mono (records_noHost unLoadLocalSymbols_noHost hs
    (ensures_unLoadLocalSymbols_loaded s.1))
  rintro _ s' ⟨hs', hzero⟩
  exact ⟨hs', fun hloaded => absurd hzero hloaded⟩

/-- A keyword returns what its executor's head says. -/
lemma exec_returnType (k : Keyword) {tr : List Ev} {v : Value} (h : k.exec.Trace tr v) :
    v.returnType = k.executor.returnType := by
  have hkind : ∀ v : Value, (∃ p : Sdk LONG, ∃ tr, (Value.long <$> p).Trace tr v) →
      v.returnType = .LONG := by
    rintro v ⟨p, tr, hp⟩
    obtain ⟨x, -, rfl⟩ := Prog.trace_map.mp hp
    rfl
  have hkind' : ∀ v : Value, (∃ p : Sdk Bstr, ∃ tr, (Value.bstr <$> p).Trace tr v) →
      v.returnType = .voidPtr := by
    rintro v ⟨p, tr, hp⟩
    obtain ⟨x, -, rfl⟩ := Prog.trace_map.mp hp
    rfl
  cases k <;> first | exact hkind v ⟨_, tr, h⟩ | exact hkind' v ⟨_, tr, h⟩

lemma AsksText.own {r : Req} (h : AsksText r) : Own r := by
  cases r with
  | host fn c => cases c <;> trivial
  | _ => trivial

lemma IsWork.own {r : Req} (h : IsWork r) : Own r := by
  cases r <;> trivial

lemma exec_own (k : Keyword) : k.exec.Only Own := by
  apply exec_requests
  · intro r hr
    exact hr.own
  · intro r hr
    exact hr.own
  · exact zmqDynLoadDirectory_only (fun _ => IsWork.own) (fun _ => trivial) (fun _ _ => trivial)
      (fun _ => trivial) (fun _ => trivial) fun _ => trivial
  · exact zmqDynUnload_only trivial (fun _ => trivial) (fun _ => trivial) (fun _ => trivial) trivial

/-- A result of a keyword comes while its symbol is known, and is what the symbol says. -/
def Typed : Returned → Process × List Ev → Prop
  | .entry _, _ => True
  | .keyword k v, s => Registered s.2 ∧ v.returnType.dwReturnType = k.hostSymbol.dwReturnType

lemma records_exec (hs : Known s) (hloaded : s.1.tb.loaded ≠ 0) (k : Keyword) :
    RecordsFrom OwnLog (fun r s' => Known s' ∧ Typed r s') k.program s := by
  have hkept : RecordsFrom (fun s' => OwnLog s' ∧ Present s'.2) (fun _ s' => OwnLog s' ∧ Present s'.2)
      k.exec s := by
    apply ensures_of_kept _ (exec_own k) ⟨hs.own, hs.present hloaded⟩
    rintro r s x s' hr ⟨hown, hpresent⟩ hx
    refine ⟨ownLog_step hr hown hx, ?_, ?_⟩
    · intro l hl
      exact (hpresent.symbols l hl).mono (history_mono hx)
    · intro e he
      exact (hpresent.equates e he).mono (history_mono hx)
  apply ensures_map
  apply Ensures.mono ((hkept.returns fun tr v => exec_returnType k).weaken fun _ h => h.1)
  rintro v s' ⟨⟨hown, hpresent⟩, htype⟩
  exact ⟨⟨hown, fun _ => hpresent⟩, registered_of_present hown hpresent,
    congrArg ReturnType.dwReturnType htype⟩

/-- Whatever is nested: between the keywords the host knows every keyword and equate while
`g_tb` is loaded, and what a keyword returns is what the host was told. -/
theorem symbols_registered (l : Loader) (c : Config Req.Resp (Process × List Ev) Returned)
    (hc : history.Reachable (⟨.initial, l⟩, []) c) :
    (history.Between c → c.world.1.world.tb.loaded ≠ 0 → Registered c.world.2) ∧
    ∀ k v fs, c.frames = .done (.keyword k v) :: fs →
      Registered c.world.2 ∧ v.returnType.dwReturnType = k.hostSymbol.dwReturnType := by
  have hdefers : history.Deferring AsksText (fun s => s.1.tb) fun g => g.loaded ≠ 0 :=
    hosted_deferring.logged
  have hstart : Known (⟨.initial, l⟩, []) := by
    refine ⟨by simp [OwnLog], ?_⟩
    intro hloaded
    exact absurd rfl hloaded
  have hopens : ∀ s p, Known s → history.opens s p →
      RecordsFrom OwnLog (fun r s' => Known s' ∧ Typed r s') p s := by
    rintro s p hs (rfl | rfl | ⟨hloaded, k, rfl⟩)
    · apply ensures_map
      apply Ensures.mono (records_loadLocalSymbols hs.own)
      intro _ s' hs'
      exact ⟨hs', trivial⟩
    · apply ensures_map
      apply Ensures.mono (records_unLoadLocalSymbols hs.own)
      intro _ s' hs'
      exact ⟨hs', trivial⟩
    · exact records_exec hs hloaded k
  have hrun := fun {c} => @sequential_ensures _ _ _ _ history _ Known OwnLog _ hopens hstart
    (fun _ hs => hs.own) (fun _ _ h => h.1) c
  constructor
  · intro hb hloaded
    have hknown := (hrun (hdefers.sequential_between hc hb)).2.1 rfl
    exact registered_of_present hknown.own (hknown.present hloaded)
  · intro k v fs hframes
    have hinner := hdefers.sequential_innermost hc
    rw [hframes] at hinner
    exact ((hrun hinner).2.2 _ rfl).2

/-- The module has been loaded where everything was found. -/
def loadedHistory (n : ℕ) : Process × List Ev :=
  (loadLocalSymbols.run noting (startedWith n, [])).2

lemma reachable_loadedHistory (n : ℕ) :
    history.Reachable (startedWith n, []) ⟨loadedHistory n, []⟩ := by
  have hrun := history.steps_run respond_noting (Returned.entry <$> loadLocalSymbols)
    (startedWith n, []) []
  rw [Prog.run_map] at hrun
  exact hrun.head (.start (Or.inl rfl))

theorem symbols_registered_loaded :
    history.Reachable (startedWith 1, []) ⟨loadedHistory 1, []⟩ ∧
    hostSymbol (loadedHistory 1).2 "ZmqRecvStr" =
      some ⟨.zmqRecvStr, thinBasic_ReturnString, .stdcall⟩ ∧
    hostEquate (loadedHistory 1).2 "%ZMQ_LINGER" = some 17 := by
  have hregistered : ∀ n, (loadedHistory n).1.world.tb.loaded ≠ 0 →
      Registered (loadedHistory n).2 := by
    intro n hloaded
    exact (symbols_registered _ _ (reachable_loadedHistory n)).1 trivial hloaded
  have hone : (loadedHistory 1).1.world.tb.loaded = 1 := by decide +kernel
  have hloaded : (loadedHistory 1).1.world.tb.loaded ≠ 0 := by
    rw [hone]
    decide
  obtain ⟨name, hname, hsymbol⟩ := (hregistered 1 hloaded).keywords .zmqRecvStr
  obtain rfl : "ZmqRecvStr" = name := (String.append_right_inj "Exec_").mp hname
  exact ⟨reachable_loadedHistory 1, hsymbol,
    (hregistered 1 hloaded).equates ("%ZMQ_LINGER", 17) (by decide)⟩

end ThinBasicZmq
