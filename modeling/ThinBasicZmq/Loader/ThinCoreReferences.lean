import ThinBasicZmq.Loader.LibraryInit

/-!
# References to thinCore

`tb_thincore_init` finds `thinCore.dll` with `GetModuleHandleA` when the interpreter has loaded
it, and takes a reference of its own otherwise. `tb_thincore_shutdown` asks the loader again.
-/

namespace ThinBasicZmq

open Interaction Environment

/-- The runs of the entry points in a process that holds `n` references to `thinCore.dll`. -/
inductive EntryRun (n : ℕ) : Process → Prop
  | start {l : Loader} : l.count .thinCore = n → l.calls = [] → EntryRun n ⟨.initial, l⟩
  | load {s v s'} : EntryRun n s → counted.Executes loadLocalSymbols s v s' → EntryRun n s'
  | unload {s v s'} : EntryRun n s → counted.Executes unLoadLocalSymbols s v s' → EntryRun n s'

/-- The references to `thinCore.dll` are the `n` of the others and those that were taken. -/
structure Ledger (n : ℕ) (l : Loader) : Prop where
  count : l.count .thinCore = n + l.taken .thinCore
  /-- A library that is there is not loaded again. -/
  own : 0 < n → l.taken .thinCore = 0

/-- What holds between two requests: the handle in `g_tb` is the current one. -/
structure Books (n : ℕ) (s : Process) : Prop where
  ledger : Ledger n s.loader
  module : ∀ m, s.world.tb.module = some m → s.loader.handle .thinCore = some m
  zmq : s.world.zmq.module = none

/-- The others keep their references. -/
def NotBelow (n : ℕ) (l : Loader) : Prop := n ≤ l.count .thinCore

lemma dllOf_thinCoreDll : dllOf thinCoreDll = .thinCore := if_pos rfl

namespace Ledger

variable {n : ℕ} {l : Loader} {path : List Cell} {m : HMODULE}

lemma notBelow (h : Ledger n l) : NotBelow n l := by
  unfold NotBelow
  rw [h.count]
  omega

lemma count_eq_iff (h : Ledger n l) : l.count .thinCore = n ↔ 0 < n ∨ l.taken .thinCore = 0 := by
  have hcount := h.count
  constructor
  · intro heq
    right
    omega
  · rintro (hn | hzero)
    · rw [hcount, h.own hn, Nat.add_zero]
    · rw [hcount, hzero, Nat.add_zero]

/-- What happens to other libraries is not in the ledger. -/
lemma of_eq {l' : Loader} (h : Ledger n l) (hcount : l'.count .thinCore = l.count .thinCore)
    (htaken : l'.taken .thinCore = l.taken .thinCore) : Ledger n l' := by
  constructor
  · rw [hcount, htaken]
    exact h.count
  · rw [htaken]
    exact h.own

lemma miss (h : Ledger n l) : Ledger n (l.miss path) := by
  have htaken : (l.miss path).taken .thinCore = l.taken .thinCore :=
    List.countP_cons_of_neg (by simp)
  exact h.of_eq rfl htaken

/-- `thinCore.dll` is loaded where it was not there. -/
lemma map_self (h : Ledger n l) (habsent : l.handle .thinCore = none) (hm : m.dll = .thinCore)
    (hpath : dllOf path = .thinCore) : Ledger n (l.map path m) := by
  have hzero : l.count .thinCore = 0 := by
    unfold Loader.handle at habsent
    by_contra hne
    rw [if_neg hne] at habsent
    cases habsent
  have htaken : (l.map path m).taken .thinCore = l.taken .thinCore + 1 :=
    List.countP_cons_of_pos (by simp [hpath])
  have hcount : (l.map path m).count .thinCore = l.count .thinCore + 1 := by
    rw [← hm]
    exact Loader.count_map_self
  have hold := h.count
  constructor
  · rw [htaken, hcount]
    omega
  · intro hn
    omega

lemma map_of_ne (h : Ledger n l) (hm : Dll.thinCore ≠ m.dll) (hpath : dllOf path ≠ .thinCore) :
    Ledger n (l.map path m) := by
  have htaken : (l.map path m).taken .thinCore = l.taken .thinCore :=
    List.countP_cons_of_neg (by simp [hpath])
  exact h.of_eq (Loader.count_map_of_ne hm) htaken

end Ledger

variable {n : ℕ} {s : Process}

/-- The loader is asked for a library, and asked to load it when it is not there. -/
lemma ensures_getOrLoadLibrary {J : Loader → Prop} {Q : Option HMODULE → Process → Prop}
    {name : List Cell} (hJ : J s.loader)
    (hfound : ∀ m, s.loader.handle (dllOf name) = some m → Q (some m) s)
    (hmiss : s.loader.handle (dllOf name) = none →
      J (s.loader.miss name) ∧ Q none ⟨s.world, s.loader.miss name⟩)
    (hmap : s.loader.handle (dllOf name) = none → ∀ m : HMODULE, m.dll = dllOf name →
      J (s.loader.map name m) ∧ Q (some m) ⟨s.world.load m, s.loader.map name m⟩) :
    EnsuresFrom J Q (getOrLoadLibrary name) s := by
  unfold getOrLoadLibrary
  apply ensures_getModuleHandle hJ
  cases h : s.loader.handle (dllOf name) with
  | none =>
    have hload : EnsuresFrom J Q (ask (.loadLibrary name) >>= pure) s :=
      ensures_loadLibrary hJ (hmiss h) (hmap h)
    rwa [bind_pure] at hload
  | some m => exact ⟨hJ, hfound m h⟩

lemma tbZmqRegisterSymbols_only (symbols : List SymbolLine) :
    (tbZmqRegisterSymbols symbols).Only Passive := by
  induction symbols with
  | nil => trivial
  | cons l symbols ih =>
    refine ⟨trivial, fun _ => ⟨?_, fun _ => ih⟩⟩
    cases l <;> trivial

lemma tbZmqRegisterEquates_only (equates : List (String × DWORD)) :
    (tbZmqRegisterEquates equates).Only Passive := by
  induction equates with
  | nil => trivial
  | cons e equates ih => exact ⟨trivial, fun _ => ⟨trivial, fun _ => ih⟩⟩

namespace Books

lemma withTb {t : TbThincoreApi} (h : Books n s)
    (hm : ∀ m, t.module = some m → s.loader.handle .thinCore = some m) : Books n (s.withTb t) :=
  ⟨h.ledger, hm, h.zmq⟩

lemma miss {path : List Cell} (h : Books n s) : Books n ⟨s.world, s.loader.miss path⟩ :=
  ⟨h.ledger.miss, h.module, h.zmq⟩

/-- Another library is loaded. -/
lemma map_of_ne {path : List Cell} {m : HMODULE} (h : Books n s) (hm : m.dll = dllOf path)
    (hpath : dllOf path ≠ .thinCore) : Books n ⟨s.world.load m, s.loader.map path m⟩ := by
  have hne : Dll.thinCore ≠ m.dll := by
    rw [hm]
    exact hpath.symm
  refine ⟨h.ledger.map_of_ne hne hpath, ?_, ?_⟩
  · intro m' hm'
    rw [World.tb_load] at hm'
    change (s.loader.map path m).handle .thinCore = _
    rw [Loader.handle_map_of_ne hne]
    exact h.module m' hm'
  · rw [World.zmq_load]
    exact h.zmq

/-- `thinCore.dll` is loaded where it was not there. -/
lemma map_self {path : List Cell} {m : HMODULE} (h : Books n s)
    (habsent : s.loader.handle .thinCore = none) (hm : m.dll = dllOf path)
    (hpath : dllOf path = .thinCore) : Books n ⟨s.world.load m, s.loader.map path m⟩ := by
  refine ⟨h.ledger.map_self habsent (hm.trans hpath) hpath, ?_, ?_⟩
  · intro m' hm'
    rw [World.tb_load] at hm'
    rw [h.module m' hm'] at habsent
    cases habsent
  · rw [World.zmq_load]
    exact h.zmq

lemma ensures_tbResolveExports (h : Books n s) (syms : List TbSymbol) :
    EnsuresFrom (NotBelow n) (fun _ => Books n) (tbResolveExports syms) s := by
  induction syms generalizing s with
  | nil => exact ⟨h.ledger.notBelow, h⟩
  | cons sym syms ih =>
    have hresolve : (tbResolveExport sym.exportName).Only Passive :=
      ⟨trivial, fun _ => ⟨trivial, fun _ => trivial⟩⟩
    apply ensures_bind_passive hresolve h.ledger.notBelow
    intro x
    apply ensures_readTb h.ledger.notBelow
    apply ensures_writeTb h.ledger.notBelow
    exact ih (h.withTb h.module)

lemma ensures_tbResolveAllocBstr (h : Books n s) :
    EnsuresFrom (NotBelow n) (fun _ => Books n) tbResolveAllocBstr s := by
  have hfound : EnsuresFrom (NotBelow n) (fun _ => Books n) (getOrLoadLibrary oleaut32Dll) s := by
    apply ensures_getOrLoadLibrary h.ledger.notBelow
    · intro _ _
      exact h
    · intro _
      exact ⟨h.miss.ledger.notBelow, h.miss⟩
    · intro _ m hm
      have hmap := h.map_of_ne hm (by decide)
      exact ⟨hmap.ledger.notBelow, hmap⟩
  unfold tbResolveAllocBstr
  apply ensures_bind
  apply Ensures.mono hfound
  intro x s' hs'
  have hbelow := hs'.ledger.notBelow
  cases x with
  | none => exact ⟨hbelow, hs'⟩
  | some ole =>
    apply ensures_ask_passive
    · trivial
    · exact hbelow
    intro fn
    apply ensures_readTb hbelow
    apply ensures_writeTb hbelow
    exact ⟨hbelow, hs'.withTb hs'.module⟩

/-- The handle in `g_tb` always is the one the loader returns: nothing is freed. -/
lemma ensures_tbThincoreShutdown (h : Books n s) :
    EnsuresFrom (NotBelow n) (fun _ s' => Books n s' ∧ s'.loader = s.loader) tbThincoreShutdown
      s := by
  have hbelow := h.ledger.notBelow
  have hzero : Books n (s.withTb .zero) := h.withTb (fun _ hm => by cases hm)
  unfold tbThincoreShutdown
  apply ensures_readTb hbelow
  by_cases hm : s.world.tb.module = none
  · rw [if_pos hm]
    apply ensures_writeTb hbelow
    exact ⟨hbelow, hzero, rfl⟩
  · obtain ⟨m, hsome⟩ := Option.ne_none_iff_exists'.mp hm
    have hcurrent : s.world.tb.module = s.loader.handle (dllOf thinCoreDll) := by
      rw [hsome, dllOf_thinCoreDll, h.module m hsome]
    rw [if_neg hm]
    apply ensures_getModuleHandle hbelow
    rw [if_pos hcurrent]
    apply ensures_writeTb hbelow
    exact ⟨hbelow, hzero, rfl⟩

lemma ensures_tbThincoreInit (h : Books n s) :
    EnsuresFrom (NotBelow n) (fun _ => Books n) tbThincoreInit s := by
  have hbelow := h.ledger.notBelow
  -- the handle is that of the library, found or loaded
  have hfound : EnsuresFrom (NotBelow n) (fun x s' => Books n s' ∧
      ∀ m, x = some m → s'.loader.handle .thinCore = some m) (getOrLoadLibrary thinCoreDll) s := by
    apply ensures_getOrLoadLibrary hbelow
    · intro m hm
      refine ⟨h, ?_⟩
      rintro _ ⟨rfl⟩
      exact hm
    · intro _
      refine ⟨h.miss.ledger.notBelow, h.miss, ?_⟩
      intro m hm
      cases hm
    · intro habsent m hm
      have hmap := h.map_self habsent hm dllOf_thinCoreDll
      refine ⟨hmap.ledger.notBelow, hmap, ?_⟩
      rintro _ ⟨rfl⟩
      rw [← dllOf_thinCoreDll, ← hm]
      exact Loader.handle_map_self
  unfold tbThincoreInit
  apply ensures_readTb hbelow
  apply ensures_ite
  · intro _
    exact ⟨hbelow, h⟩
  intro _
  apply ensures_bind
  apply Ensures.mono hfound
  rintro x s' ⟨hs', hx⟩
  have hbelow' := hs'.ledger.notBelow
  have hwritten : Books n (s'.withTb { s.world.tb with module := x }) := hs'.withTb hx
  apply ensures_writeTb hbelow'
  apply ensures_ite
  · intro _
    exact ⟨hbelow', hwritten⟩
  intro _
  apply ensures_bind
  apply Ensures.mono (hwritten.ensures_tbResolveExports _)
  intro _ s₁ hs₁
  apply ensures_bind
  apply Ensures.mono hs₁.ensures_tbResolveAllocBstr
  intro _ s₂ hs₂
  apply ensures_readTb hs₂.ledger.notBelow
  apply ensures_ite
  · -- an export is missing
    intro _
    apply ensures_bind
    apply Ensures.mono hs₂.ensures_tbThincoreShutdown
    rintro _ s₃ ⟨hs₃, -⟩
    exact ⟨hs₃.ledger.notBelow, hs₃⟩
  · intro _
    apply ensures_writeTb hs₂.ledger.notBelow
    exact ⟨hs₂.ledger.notBelow, hs₂.withTb hs₂.module⟩

lemma ensures_zmqDynUnload (h : Books n s) :
    EnsuresFrom (NotBelow n) (fun _ s' => Books n s' ∧ s'.loader.calls = s.loader.calls)
      zmqDynUnload s := by
  have hbelow := h.ledger.notBelow
  unfold zmqDynUnload
  apply ensures_ask_passive
  · trivial
  · exact hbelow
  intro _
  apply ensures_readZmq hbelow
  rw [if_pos h.zmq]
  apply ensures_writeZmq hbelow
  apply ensures_setDllDirectory
  · exact hbelow
  exact ⟨hbelow, ⟨h.ledger.of_eq rfl rfl, h.module, rfl⟩, rfl⟩

lemma ensures_unLoadLocalSymbols (h : Books n s) :
    EnsuresFrom (NotBelow n) (fun _ s' => Books n s' ∧ s'.loader.calls = s.loader.calls)
      unLoadLocalSymbols s := by
  unfold unLoadLocalSymbols
  apply ensures_bind
  apply Ensures.mono h.ensures_zmqDynUnload
  rintro _ s' ⟨hs', hcalls⟩
  apply ensures_bind
  apply Ensures.mono hs'.ensures_tbThincoreShutdown
  rintro _ s'' ⟨hs'', hloader⟩
  refine ⟨hs''.ledger.notBelow, hs'', ?_⟩
  rw [hloader, hcalls]

lemma ensures_loadLocalSymbols (h : Books n s) :
    EnsuresFrom (NotBelow n) (fun _ => Books n) loadLocalSymbols s := by
  unfold loadLocalSymbols
  apply ensures_bind
  apply Ensures.mono h.ensures_tbThincoreInit
  intro _ s' hs'
  have hbelow := hs'.ledger.notBelow
  apply ensures_ite
  · intro _
    exact ⟨hbelow, hs'⟩
  intro _
  apply ensures_bind_passive (tbZmqRegisterSymbols_only _) hbelow
  intro _
  apply ensures_bind_passive (tbZmqRegisterEquates_only _) hbelow
  intro _
  exact ⟨hbelow, hs'⟩

end Books

lemma EntryRun.books (h : EntryRun n s) : Books n s := by
  induction h with
  | @start l hcount hcalls =>
    have htaken : l.taken .thinCore = 0 := by
      unfold Loader.taken
      rw [hcalls]
      rfl
    refine ⟨⟨?_, fun _ => htaken⟩, ?_, rfl⟩
    · rw [htaken, hcount, Nat.add_zero]
    · intro m hm
      cases hm
  | load _ hx ih => exact ih.ensures_loadLocalSymbols.executes hx
  | unload _ hx ih => exact (ih.ensures_unLoadLocalSymbols.executes hx).1

/-- Whether the interpreter holds references or not: they are never given back, and the module
has given back its own exactly when it had none to take. -/
theorem thinCore_balanced_iff (n : ℕ) (s : Process) (h : EntryRun n s) :
    (∀ p, p = loadLocalSymbols ∨ p = unLoadLocalSymbols → ∀ p' s', counted.Reaches p s p' s' →
      n ≤ s'.loader.count .thinCore) ∧
    (∀ v s', counted.Executes unLoadLocalSymbols s v s' →
      (s'.loader.count .thinCore = n ↔ 0 < n ∨ s.loader.taken .thinCore = 0)) ∧
    (∀ s', counted.Executes tbThincoreInit s 0 s' → counted.Executes loadLocalSymbols s 0 s' ∧
      (s'.loader.count .thinCore = n ↔ 0 < n ∨ s'.loader.taken .thinCore = 0)) := by
  have hbooks := h.books
  refine ⟨?_, ?_, ?_⟩
  · rintro p (rfl | rfl) p' s' hr
    · exact (hbooks.ensures_loadLocalSymbols.reaches hr).inv
    · exact (hbooks.ensures_unLoadLocalSymbols.reaches hr).inv
  · intro v s' hx
    obtain ⟨hs', hcalls⟩ := hbooks.ensures_unLoadLocalSymbols.executes hx
    have htaken : s'.loader.taken .thinCore = s.loader.taken .thinCore := by
      unfold Loader.taken
      rw [hcalls]
    rw [hs'.ledger.count_eq_iff, htaken]
  · intro s' hx
    have hs' := hbooks.ensures_tbThincoreInit.executes hx
    exact ⟨hx.bind .refl, hs'.ledger.count_eq_iff⟩

/-- A process whose interpreter holds `n` references to `thinCore.dll`. -/
def startedWith (n : ℕ) : Process where
  world := .initial
  loader := ⟨fun d => if d = .thinCore then n else 0, fun _ => 0x10000, none, []⟩

/-- The module has been loaded, with every library and export there. -/
def hostedBy (n : ℕ) : Process :=
  (loadLocalSymbols.run (answering fun _ => true) (startedWith n)).2

/-- And unloaded. -/
def leftBy (n : ℕ) : Process :=
  (unLoadLocalSymbols.run (answering fun _ => true) (hostedBy n)).2

lemma entryRun_hostedBy (n : ℕ) : EntryRun n (hostedBy n) := by
  have hcount : (startedWith n).loader.count .thinCore = n := rfl
  have hstart : EntryRun n (startedWith n) := .start hcount rfl
  exact hstart.load (executes_run (respond_answering _) loadLocalSymbols (startedWith n))

lemma executes_leftBy (n : ℕ) : counted.Executes unLoadLocalSymbols (hostedBy n)
    (unLoadLocalSymbols.run (answering fun _ => true) (hostedBy n)).1 (leftBy n) :=
  executes_run (respond_answering _) unLoadLocalSymbols (hostedBy n)

/-- The interpreter has loaded `thinCore.dll` once. -/
theorem thinCore_balanced_iff_hostedBy_one : (leftBy 1).loader.count .thinCore = 1 :=
  ((thinCore_balanced_iff 1 (hostedBy 1) (entryRun_hostedBy 1)).2.1 _ _ (executes_leftBy 1)).mpr
    (Or.inl one_pos)

/-- The reference that `LoadLibraryA` has taken is kept. -/
theorem thinCore_not_balanced : EntryRun 0 (hostedBy 0) ∧
    (∃ v, counted.Executes unLoadLocalSymbols (hostedBy 0) v (leftBy 0)) ∧
    (leftBy 0).loader.count .thinCore = 1 :=
  ⟨entryRun_hostedBy 0, ⟨_, executes_leftBy 0⟩, by decide +kernel⟩

end ThinBasicZmq
