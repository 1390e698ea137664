import ThinBasicZmq.Loader.Serializability

/-!
# The references of the module over its whole life

However often scripts load and unload `libzmq.dll` and the host loads and unloads the module,
also from inside of arguments: the references of others are never given back, `libzmq.dll` is
referenced once while it is loaded and not otherwise, and of `thinCore.dll` and
`oleaut32.dll` at most one reference is ever taken.
-/

namespace ThinBasicZmq

open Interaction Environment System

/-- What others hold stays, and the module's own part is bounded. -/
def Solvent (l₀ l : Loader) : Prop :=
  ∀ d, l₀.count d ≤ l.count d ∧
    l.count d ≤ if d = .libzmq then l₀.count d + 1 else max (l₀.count d) 1

namespace Process

/-- The references on `libzmq.dll` that `g_zmq` stands for. -/
def held (s : Process) : ℕ := if s.world.zmq.module = none then 0 else 1

end Process

/-- The handles in the two tables are the current ones, and account for the references. -/
structure Accounts (l₀ : Loader) (s : Process) : Prop where
  libzmq : s.loader.count .libzmq = l₀.count .libzmq + s.held
  borrowed : ∀ d, d ≠ .libzmq →
    l₀.count d ≤ s.loader.count d ∧ s.loader.count d ≤ max (l₀.count d) 1
  zmqModule : ∀ m, s.world.zmq.module = some m → m.dll = .libzmq ∧ s.loader.handle .libzmq = some m
  tbModule : ∀ m, s.world.tb.module = some m → s.loader.handle .thinCore = some m

/-- Between two operations the table is in use exactly while it is loaded. -/
structure Settled (l₀ : Loader) (s : Process) : Prop extends Accounts l₀ s where
  unloaded : s.world.zmq.loaded = 0 → s.world.zmq = .zero
  loaded : s.world.zmq.loaded ≠ 0 → s.world.zmq.module ≠ none

variable {l₀ : Loader} {s : Process} {α : Type}

lemma Loader.handle_eq_none {l : Loader} {d : Dll} (h : l.handle d = none) : l.count d = 0 := by
  unfold Loader.handle at h
  by_contra hne
  rw [if_neg hne] at h
  cases h

namespace Accounts

lemma solvent (h : Accounts l₀ s) : Solvent l₀ s.loader := by
  intro d
  by_cases hd : d = .libzmq
  · have hheld : s.held ≤ 1 := by
      unfold Process.held
      split <;> omega
    have hcount := h.libzmq
    rw [hd, if_pos rfl]
    omega
  · rw [if_neg hd]
    exact h.borrowed d hd

lemma withTb {t : TbThincoreApi} (h : Accounts l₀ s)
    (hm : ∀ m, t.module = some m → s.loader.handle .thinCore = some m) :
    Accounts l₀ (s.withTb t) := ⟨h.libzmq, h.borrowed, h.zmqModule, hm⟩

lemma withZmq {t : ZmqApiTable} (h : Accounts l₀ s) (hm : t.module = s.world.zmq.module) :
    Accounts l₀ (s.withZmq t) := by
  have hheld : (s.withZmq t).held = s.held := by
    change (if t.module = none then 0 else 1) = _
    rw [hm]
    rfl
  refine ⟨?_, h.borrowed, ?_, h.tbModule⟩
  · rw [hheld]
    exact h.libzmq
  · intro m htable
    exact h.zmqModule m (hm.symm.trans htable)

lemma miss {path : List Cell} (h : Accounts l₀ s) : Accounts l₀ ⟨s.world, s.loader.miss path⟩ :=
  ⟨h.libzmq, h.borrowed, h.zmqModule, h.tbModule⟩

lemma setDirectory {path : Option (List Cell)} (h : Accounts l₀ s) :
    Accounts l₀ ⟨s.world, { s.loader with directory := path }⟩ :=
  ⟨h.libzmq, h.borrowed, h.zmqModule, h.tbModule⟩

/-- A library of the host is loaded where it was not there. -/
lemma map {path : List Cell} {m : HMODULE} (h : Accounts l₀ s)
    (habsent : s.loader.handle m.dll = none) (hm : m.dll ≠ .libzmq) :
    Accounts l₀ ⟨s.world.load m, s.loader.map path m⟩ := by
  have hzero := Loader.handle_eq_none habsent
  have hheld : Process.held ⟨s.world.load m, s.loader.map path m⟩ = s.held := by
    unfold Process.held
    rw [World.zmq_load]
  refine ⟨?_, ?_, ?_, ?_⟩
  · rw [hheld, ← h.libzmq]
    exact Loader.count_map_of_ne hm.symm
  · intro d hd
    by_cases hdm : d = m.dll
    · have hold := h.borrowed d hd
      have hcount : (s.loader.map path m).count d = 1 := by
        rw [hdm, Loader.count_map_self, hzero]
      change l₀.count d ≤ (s.loader.map path m).count d ∧ (s.loader.map path m).count d ≤ _
      rw [hcount]
      rw [hdm] at hold ⊢
      omega
    · change l₀.count d ≤ (s.loader.map path m).count d ∧ (s.loader.map path m).count d ≤ _
      rw [Loader.count_map_of_ne hdm]
      exact h.borrowed d hd
  · intro m' hm'
    rw [World.zmq_load] at hm'
    change m'.dll = .libzmq ∧ (s.loader.map path m).handle .libzmq = some m'
    rw [Loader.handle_map_of_ne hm.symm]
    exact h.zmqModule m' hm'
  · intro m' hm'
    rw [World.tb_load] at hm'
    have hthin := h.tbModule m' hm'
    have hne : Dll.thinCore ≠ m.dll := by
      intro he
      rw [← he, hthin] at habsent
      cases habsent
    change (s.loader.map path m).handle .thinCore = some m'
    rw [Loader.handle_map_of_ne hne]
    exact hthin

/-- `libzmq.dll` is loaded, and its handle is kept in the table. -/
lemma load {path : List Cell} {m : HMODULE} {t : ZmqApiTable} (h : Accounts l₀ s)
    (hnone : s.world.zmq.module = none) (hm : m.dll = .libzmq) (ht : t.module = some m) :
    Accounts l₀ (Process.withZmq ⟨s.world.load m, s.loader.map path m⟩ t) := by
  have hne : Dll.thinCore ≠ m.dll := by
    rw [hm]
    decide
  have hheld : s.held = 0 := if_pos hnone
  have hheld' : Process.held (Process.withZmq ⟨s.world.load m, s.loader.map path m⟩ t) = 1 := by
    change (if t.module = none then 0 else 1) = 1
    rw [ht]
    rfl
  refine ⟨?_, ?_, ?_, ?_⟩
  · have hcount : (s.loader.map path m).count .libzmq = s.loader.count .libzmq + 1 := by
      rw [← hm]
      exact Loader.count_map_self
    rw [hheld']
    change (s.loader.map path m).count .libzmq = _
    rw [hcount, h.libzmq, hheld]
  · intro d hd
    change l₀.count d ≤ (s.loader.map path m).count d ∧ (s.loader.map path m).count d ≤ _
    rw [Loader.count_map_of_ne (by rw [hm]; exact hd)]
    exact h.borrowed d hd
  · intro m' hm'
    obtain rfl : m = m' := Option.some.inj (ht.symm.trans hm')
    refine ⟨hm, ?_⟩
    rw [← hm]
    exact Loader.handle_map_self
  · intro m' hm'
    have htb : s.world.tb.module = some m' := by
      rw [← World.tb_load s.world m]
      exact hm'
    change (s.loader.map path m).handle .thinCore = some m'
    rw [Loader.handle_map_of_ne hne]
    exact h.tbModule m' htb

/-- The reference that the table stands for is given back. -/
lemma free {m : HMODULE} {t : ZmqApiTable} (h : Accounts l₀ s)
    (hm : s.world.zmq.module = some m) (ht : t.module = none) :
    Accounts l₀ (Process.withZmq ⟨s.world.free (some m), s.loader.unmap (some m)⟩ t) := by
  obtain ⟨hdll, hhandle⟩ := h.zmqModule m hm
  have hunmap : s.loader.unmap (some m) =
      { s.loader with count := Function.update s.loader.count m.dll (s.loader.count m.dll - 1) } := by
    apply Loader.unmap_of_handle
    rw [hdll]
    exact hhandle
  have hkept : ∀ d, d ≠ .libzmq → (s.loader.unmap (some m)).count d = s.loader.count d := by
    intro d hd
    rw [hunmap]
    exact Function.update_of_ne (by rw [hdll]; exact hd) _ _
  have hheld : s.held = 1 := if_neg (by rw [hm]; simp)
  have hheld' :
      Process.held (Process.withZmq ⟨s.world.free (some m), s.loader.unmap (some m)⟩ t) = 0 :=
    if_pos ht
  refine ⟨?_, ?_, ?_, ?_⟩
  · have hcount : (s.loader.unmap (some m)).count .libzmq = s.loader.count .libzmq - 1 := by
      rw [hunmap, ← hdll]
      exact Function.update_self _ _ _
    have hold := h.libzmq
    rw [hheld']
    change (s.loader.unmap (some m)).count .libzmq = _
    rw [hcount]
    omega
  · intro d hd
    change l₀.count d ≤ (s.loader.unmap (some m)).count d ∧ (s.loader.unmap (some m)).count d ≤ _
    rw [hkept d hd]
    exact h.borrowed d hd
  · intro m' hm'
    rw [show t.module = some m' from hm'] at ht
    cases ht
  · intro m' hm'
    have htb : s.world.tb.module = some m' := by
      rw [← World.tb_free s.world (some m)]
      exact hm'
    have hsame : (s.loader.unmap (some m)).handle .thinCore = s.loader.handle .thinCore := by
      unfold Loader.handle
      rw [hkept .thinCore (by decide), hunmap]
    exact hsame.trans (h.tbModule m' htb)

/-- In the middle of a load. -/
lemma solvent_load {path : List Cell} {m : HMODULE} (h : Accounts l₀ s)
    (hnone : s.world.zmq.module = none) (hm : m.dll = .libzmq) :
    Solvent l₀ (s.loader.map path m) := by
  have hload : Accounts l₀ (Process.withZmq ⟨s.world.load m, s.loader.map path m⟩
    { s.world.zmq with module := some m }) := h.load hnone hm rfl
  exact hload.solvent

end Accounts

namespace Settled

lemma withTb {t : TbThincoreApi} (h : Settled l₀ s)
    (hm : ∀ m, t.module = some m → s.loader.handle .thinCore = some m) :
    Settled l₀ (s.withTb t) := ⟨h.toAccounts.withTb hm, h.unloaded, h.loaded⟩

lemma miss {path : List Cell} (h : Settled l₀ s) : Settled l₀ ⟨s.world, s.loader.miss path⟩ :=
  ⟨h.toAccounts.miss, h.unloaded, h.loaded⟩

lemma map {path : List Cell} {m : HMODULE} (h : Settled l₀ s)
    (habsent : s.loader.handle m.dll = none) (hm : m.dll ≠ .libzmq) :
    Settled l₀ ⟨s.world.load m, s.loader.map path m⟩ := by
  refine ⟨h.toAccounts.map habsent hm, ?_, ?_⟩
  · change (s.world.load m).zmq.loaded = 0 → (s.world.load m).zmq = .zero
    rw [World.zmq_load]
    exact h.unloaded
  · change (s.world.load m).zmq.loaded ≠ 0 → (s.world.load m).zmq.module ≠ none
    rw [World.zmq_load]
    exact h.loaded

/-- A table that is zero stands for no library. -/
lemma of_zero (h : Accounts l₀ s) (hzero : s.world.zmq = .zero) : Settled l₀ s := by
  refine ⟨h, fun _ => hzero, ?_⟩
  intro hloaded
  rw [hzero] at hloaded
  exact absurd rfl hloaded

lemma module_none (h : Settled l₀ s) (hloaded : s.world.zmq.loaded = 0) :
    s.world.zmq.module = none := by
  rw [h.unloaded hloaded]
  rfl

/-! ## The functions of tb_thincore.c -/

/-- The condition for the functions that leave the process settled. -/
abbrev Settles (l₀ : Loader) (p : Sdk α) (s : Process) : Prop :=
  EnsuresFrom (Solvent l₀) (fun _ => Settled l₀) p s

lemma settles_tbResolveExports (h : Settled l₀ s) (syms : List TbSymbol) :
    Settles l₀ (tbResolveExports syms) s := by
  induction syms generalizing s with
  | nil => exact ⟨h.solvent, h⟩
  | cons sym syms ih =>
    have hresolve : (tbResolveExport sym.exportName).Only Passive :=
      ⟨trivial, fun _ => ⟨trivial, fun _ => trivial⟩⟩
    apply ensures_bind_passive hresolve h.solvent
    intro x
    apply ensures_readTb h.solvent
    apply ensures_writeTb h.solvent
    apply ih
    exact h.withTb h.tbModule

/-- A library of the host is found, or loaded where it was not there. -/
lemma ensures_getOrLoadLibrary (h : Settled l₀ s) {name : List Cell} (hname : dllOf name ≠ .libzmq) :
    EnsuresFrom (Solvent l₀) (fun x s' => Settled l₀ s' ∧
      ∀ m, x = some m → s'.loader.handle (dllOf name) = some m) (getOrLoadLibrary name) s := by
  apply ThinBasicZmq.ensures_getOrLoadLibrary h.solvent
  · intro m hm
    refine ⟨h, ?_⟩
    rintro _ ⟨rfl⟩
    exact hm
  · intro _
    refine ⟨h.miss.solvent, h.miss, ?_⟩
    intro m hm
    cases hm
  · intro habsent m hm
    have hmap : Settled l₀ ⟨s.world.load m, s.loader.map name m⟩ := by
      apply h.map
      · rwa [hm]
      · rwa [hm]
    refine ⟨hmap.solvent, hmap, ?_⟩
    rintro _ ⟨rfl⟩
    rw [← hm]
    exact Loader.handle_map_self

lemma settles_tbResolveAllocBstr (h : Settled l₀ s) : Settles l₀ tbResolveAllocBstr s := by
  unfold tbResolveAllocBstr
  apply ensures_bind
  apply Ensures.mono (h.ensures_getOrLoadLibrary (by decide))
  rintro x s' ⟨hs', -⟩
  cases x with
  | none => exact ⟨hs'.solvent, hs'⟩
  | some ole =>
    apply ensures_ask_passive
    · trivial
    · exact hs'.solvent
    intro fn
    apply ensures_readTb hs'.solvent
    apply ensures_writeTb hs'.solvent
    exact ⟨hs'.solvent, hs'.withTb hs'.tbModule⟩

lemma settles_tbThincoreShutdown (h : Settled l₀ s) : Settles l₀ tbThincoreShutdown s := by
  have hzero : Settled l₀ (s.withTb .zero) := h.withTb (fun _ hm => by cases hm)
  unfold tbThincoreShutdown
  apply ensures_readTb h.solvent
  by_cases hm : s.world.tb.module = none
  · rw [if_pos hm]
    apply ensures_writeTb h.solvent
    exact ⟨h.solvent, hzero⟩
  · -- the handle is the current one, and nothing is freed
    obtain ⟨m, hsome⟩ := Option.ne_none_iff_exists'.mp hm
    have hcurrent : s.world.tb.module = s.loader.handle (dllOf thinCoreDll) := by
      rw [hsome, dllOf_thinCoreDll, h.tbModule m hsome]
    rw [if_neg hm]
    apply ensures_getModuleHandle h.solvent
    rw [if_pos hcurrent]
    apply ensures_writeTb h.solvent
    exact ⟨h.solvent, hzero⟩

lemma settles_tbThincoreInit (h : Settled l₀ s) : Settles l₀ tbThincoreInit s := by
  unfold tbThincoreInit
  apply ensures_readTb h.solvent
  apply ensures_ite
  · intro _
    exact ⟨h.solvent, h⟩
  intro _
  apply ensures_bind
  apply Ensures.mono (h.ensures_getOrLoadLibrary (by decide))
  rintro x s' ⟨hs', hx⟩
  have hwritten : Settled l₀ (s'.withTb { s.world.tb with module := x }) := by
    apply hs'.withTb
    intro m hm
    rw [← dllOf_thinCoreDll]
    exact hx m hm
  apply ensures_writeTb hs'.solvent
  apply ensures_ite
  · intro _
    exact ⟨hs'.solvent, hwritten⟩
  intro _
  apply ensures_bind
  apply Ensures.mono (hwritten.settles_tbResolveExports _)
  intro _ s₁ hs₁
  apply ensures_bind
  apply Ensures.mono hs₁.settles_tbResolveAllocBstr
  intro _ s₂ hs₂
  apply ensures_readTb hs₂.solvent
  apply ensures_ite
  · -- an export is missing
    intro _
    apply ensures_bind
    apply Ensures.mono hs₂.settles_tbThincoreShutdown
    intro _ s₃ hs₃
    exact ⟨hs₃.solvent, hs₃⟩
  · intro _
    apply ensures_writeTb hs₂.solvent
    exact ⟨hs₂.solvent, hs₂.withTb hs₂.tbModule⟩

/-! ## The functions of zmq_dynload.c -/

lemma settles_zmqDynUnload (h : Settled l₀ s) : Settles l₀ zmqDynUnload s := by
  unfold zmqDynUnload
  apply ensures_ask_passive
  · trivial
  · exact h.solvent
  intro _
  apply ensures_readZmq h.solvent
  by_cases hm : s.world.zmq.module = none
  · have hzero : Settled l₀ (s.withZmq .zero) := .of_zero (h.withZmq hm.symm) rfl
    rw [if_pos hm]
    apply ensures_writeZmq h.solvent
    apply ensures_setDllDirectory
    · exact h.solvent
    exact ⟨h.solvent, .of_zero hzero.setDirectory rfl⟩
  · obtain ⟨m, hsome⟩ := Option.ne_none_iff_exists'.mp hm
    have hfree : Accounts l₀ (Process.withZmq ⟨s.world.free (some m), s.loader.unmap (some m)⟩ .zero) :=
      h.free hsome rfl
    rw [if_neg hm, hsome]
    apply ensures_freeLibrary h.solvent
    apply ensures_writeZmq hfree.solvent
    apply ensures_setDllDirectory
    · exact hfree.solvent
    exact ⟨hfree.solvent, .of_zero hfree.setDirectory rfl⟩

end Settled

namespace Accounts

/-- Filling the slots changes nothing else in the table. -/
lemma ensures_zmqBindSymbols {m : Option HMODULE} (h : Accounts l₀ s)
    (hm : s.world.zmq.module = m) (syms : List ZmqSymbol) :
    EnsuresFrom (Solvent l₀) (fun _ s' => Accounts l₀ s' ∧ s'.world.zmq.module = m)
      (zmqBindSymbols syms) s := by
  induction syms generalizing s with
  | nil => exact ⟨h.solvent, h, hm⟩
  | cons sym syms ih =>
    have hresolve : (zmqResolve sym.exportName).Only Passive :=
      ⟨trivial, fun _ => ⟨trivial, fun _ => trivial⟩⟩
    apply ensures_bind_passive hresolve h.solvent
    intro x
    apply ensures_readZmq h.solvent
    apply ensures_writeZmq h.solvent
    apply ih
    · exact h.withZmq rfl
    · exact hm

lemma ensures_zmqBindRequiredSymbols {m : Option HMODULE} (h : Accounts l₀ s)
    (hm : s.world.zmq.module = m) :
    EnsuresFrom (Solvent l₀) (fun _ s' => Accounts l₀ s' ∧ s'.world.zmq.module = m)
      zmqBindRequiredSymbols s := by
  apply ensures_bind
  apply Ensures.mono (h.ensures_zmqBindSymbols hm _)
  rintro _ s₁ ⟨hs₁, hm₁⟩
  apply ensures_bind
  apply Ensures.mono (hs₁.ensures_zmqBindSymbols hm₁ _)
  rintro _ s₂ ⟨hs₂, hm₂⟩
  apply ensures_readZmq hs₂.solvent
  exact ⟨hs₂.solvent, hs₂, hm₂⟩

end Accounts

/-- The composed path is the whole array. -/
lemma ensures_snprintf {J : Loader → Prop} (hJ : J s.loader) (buf str : List Cell)
    (suffix : CString) :
    EnsuresFrom J (fun r s' => r.2.length = buf.length ∧ s' = s) (snprintf buf str suffix) s := by
  have hstored (bytes : List UInt8) (n : ℤ) :
      EnsuresFrom J (fun r s' => r.2.length = buf.length ∧ s' = s)
        (store buf 0 bytes >>= fun buf => pure (n, buf)) s := by
    apply ensures_ask_passive
    · trivial
    · exact hJ
    intro _
    exact ⟨hJ, Memory.length_put buf 0 bytes, rfl⟩
  unfold snprintf
  apply ensures_bind_passive (scanNul_only (fun _ _ _ => trivial) _ _ _) hJ
  intro n
  apply ensures_bind_passive (fetchBytes_only (fun _ _ _ => trivial) _ _ _) hJ
  intro text
  apply ensures_ite
  · intro _
    exact hstored _ _
  intro _
  apply ensures_ite
  · intro _
    exact hstored _ _
  · intro _
    exact hstored _ _

namespace Settled

lemma settles_zmqDynLoadDirectory (h : Settled l₀ s) (dir : Option CString) (dirLen : DWORD) :
    Settles l₀ (zmqDynLoadDirectory dir dirLen) s := by
  unfold zmqDynLoadDirectory
  apply ensures_ask_passive
  · trivial
  · exact h.solvent
  intro _
  cases dir with
  | none => exact ⟨h.solvent, h⟩
  | some dir =>
    apply ensures_ite
    · intro _
      exact ⟨h.solvent, h⟩
    intro _
    apply ensures_readZmq h.solvent
    apply ensures_ite
    · intro _
      exact ⟨h.solvent, h⟩
    intro hloaded
    have hzero : s.world.zmq = .zero := h.unloaded (not_not.mp hloaded)
    have hnone : s.world.zmq.module = none := h.module_none (not_not.mp hloaded)
    apply ensures_bind_passive (memcpy_only (fun _ _ _ => trivial) _ _ _) h.solvent
    intro folder
    apply ensures_bind_passive (store_only (fun _ _ _ => trivial) _ _ _) h.solvent
    intro folder
    apply ensures_bind_passive (zmqTrimTrailingSlashes_only (fun _ _ _ => trivial)
      (fun _ _ _ => trivial) _ _) h.solvent
    intro folder
    apply ensures_bind
    apply Ensures.mono (ensures_snprintf h.solvent _ _ _)
    rintro ⟨n, dllPath⟩ s' ⟨hlength, hs'⟩
    have hpath : dllOf dllPath = .libzmq := dllOf_of_length (hlength.trans (length_localArray _))
    rw [hs']
    apply ensures_ite
    · intro _
      exact ⟨h.solvent, h⟩
    intro _
    have hset : Accounts l₀ ⟨s.world, { s.loader with directory := some folder }⟩ := h.setDirectory
    apply ensures_setDllDirectory h.solvent
    apply ensures_loadLibrary
    · exact hset.solvent
    · -- the library is not found
      apply ensures_readZmq
      · exact hset.solvent
      apply ensures_writeZmq
      · exact hset.solvent
      rw [if_pos rfl]
      apply ensures_setDllDirectory
      · exact hset.solvent
      refine ⟨hset.solvent, .of_zero (hset.miss.withZmq hnone.symm).setDirectory ?_⟩
      change { s.world.zmq with module := none } = ZmqApiTable.zero
      rw [hzero]
      rfl
    intro m hm
    have hdll : m.dll = .libzmq := hm.trans hpath
    have hsolvent : Solvent l₀ (Loader.map { s.loader with directory := some folder } dllPath m) :=
      hset.solvent_load hnone hdll
    apply ensures_readZmq
    · exact hsolvent
    apply ensures_writeZmq
    · exact hsolvent
    rw [if_neg (by simp)]
    apply ensures_bind
    apply Ensures.mono (Accounts.ensures_zmqBindRequiredSymbols (hset.load hnone hdll rfl) rfl)
    rintro ok s₁ ⟨hs₁, hm₁⟩
    have hsome : s₁.world.zmq.module = some m := hm₁
    apply ensures_ite
    · -- an export is missing, and the reference is given back
      intro _
      apply ensures_readZmq hs₁.solvent
      rw [hsome]
      have hfree : Accounts l₀ (Process.withZmq ⟨s₁.world.free (some m), s₁.loader.unmap (some m)⟩ .zero) :=
        hs₁.free hsome rfl
      apply ensures_freeLibrary hs₁.solvent
      apply ensures_writeZmq hfree.solvent
      apply ensures_setDllDirectory
      · exact hfree.solvent
      apply ensures_writeZmq
      · exact hfree.solvent
      exact ⟨hfree.solvent, .of_zero hfree.setDirectory rfl⟩
    · intro _
      apply ensures_readZmq hs₁.solvent
      apply ensures_writeZmq hs₁.solvent
      refine ⟨hs₁.solvent, hs₁.withZmq rfl, ?_, ?_⟩
      · intro (hone : (1 : LONG) = 0)
        exact absurd hone (by decide)
      · intro _ hnone
        rw [show s₁.world.zmq.module = none from hnone] at hsome
        cases hsome

/-! ## Entry points and keywords -/

lemma settles_loadLocalSymbols (h : Settled l₀ s) : Settles l₀ loadLocalSymbols s := by
  unfold loadLocalSymbols
  apply ensures_bind
  apply Ensures.mono h.settles_tbThincoreInit
  intro _ s' hs'
  apply ensures_ite
  · intro _
    exact ⟨hs'.solvent, hs'⟩
  intro _
  apply ensures_bind_passive (tbZmqRegisterSymbols_only _) hs'.solvent
  intro _
  apply ensures_bind_passive (tbZmqRegisterEquates_only _) hs'.solvent
  intro _
  exact ⟨hs'.solvent, hs'⟩

lemma settles_unLoadLocalSymbols (h : Settled l₀ s) : Settles l₀ unLoadLocalSymbols s := by
  unfold unLoadLocalSymbols
  apply ensures_bind
  apply Ensures.mono h.settles_zmqDynUnload
  intro _ s' hs'
  apply ensures_bind
  apply Ensures.mono hs'.settles_tbThincoreShutdown
  intro _ s'' hs''
  exact ⟨hs''.solvent, hs''⟩

lemma settles_map {β : Type} {p : Sdk α} (h : Settles l₀ p s) (f : α → β) :
    Settles l₀ (f <$> p) s := by
  rw [map_eq_pure_bind]
  apply ensures_bind
  apply Ensures.mono h
  intro _ s' hs'
  exact ⟨hs'.solvent, hs'⟩

lemma settles_works {p : Sdk α} (h : Settled l₀ s) (hp : Works p) : Settles l₀ p s := by
  apply ensures_passive _ h.solvent
  · intro _
    exact h
  · apply hp.mono
    intro r hr
    cases r <;> trivial

lemma settles_action (h : Settled l₀ s) (k : Keyword) (args : Args k.signature) :
    Settles l₀ (k.body.action args) s := by
  by_cases hinit : k = .zmqLibraryInit
  · subst hinit
    exact settles_map (h.settles_zmqDynLoadDirectory _ _) _
  by_cases hshutdown : k = .zmqLibraryShutdown
  · subst hshutdown
    apply settles_map
    apply ensures_bind
    apply Ensures.mono h.settles_zmqDynUnload
    intro _ s' hs'
    exact ⟨hs'.solvent, hs'⟩
  · exact h.settles_works (action_works hinit hshutdown args)

lemma settles_exec (h : Settled l₀ s) (k : Keyword) : Settles l₀ k.exec s := by
  rw [k.exec_eq_transact, transact_eq_parseCall]
  apply ensures_bind_passive _ h.solvent
  · intro parsed
    cases parsed with
    | none => exact h.settles_works (works_of_result (failure_result _))
    | some args => exact h.settles_action k args
  · apply (parseCall_only _).mono
    intro r hr
    cases r <;> trivial

lemma settles_started (h : Settled l₀ s) {p : Sdk Returned} (hp : Started p) : Settles l₀ p s := by
  cases hp with
  | load => exact settles_map h.settles_loadLocalSymbols _
  | unload => exact settles_map h.settles_unLoadLocalSymbols _
  | keyword k => exact settles_map (h.settles_exec k) _

end Settled

lemma settled_start (l : Loader) : Settled l ⟨.initial, l⟩ := by
  refine .of_zero ⟨rfl, ?_, ?_, ?_⟩ rfl
  · intro d _
    exact ⟨le_rfl, le_max_left _ _⟩
  · intro m hm
    cases hm
  · intro m hm
    cases hm

/-- In every run, from every state of the loader: at each moment all references of others are
there and the module's own are bounded, and between the keywords `libzmq.dll` has one more
reference than at first while it is loaded, and as many as at first otherwise. -/
theorem references_accounted (l : Loader) (c : Config Req.Resp Process Returned)
    (hc : hosted.Reachable ⟨.initial, l⟩ c) :
    Solvent l c.world.loader ∧
    (hosted.Between c → c.world.loader.count .libzmq =
      l.count .libzmq + if c.world.world.zmq.loaded = 0 then 0 else 1) := by
  have hruns : ∀ {c : Config Req.Resp Process Returned},
      hosted.sequential.Reachable ⟨.initial, l⟩ c →
      Solvent l c.world.loader ∧ (c.frames = [] → Settled l c.world) := by
    intro c hc
    have hopens : ∀ s p, Settled l s → hosted.opens s p → Settled.Settles l p s := by
      intro s p hs hp
      exact hs.settles_started (started_of_opens hp)
    obtain ⟨hsolvent, hidle, -⟩ := sequential_ensures hopens (settled_start l)
      (fun s hs => hs.solvent) (fun _ _ h => h) hc
    exact ⟨hsolvent, hidle⟩
  refine ⟨(hruns (hosted_deferring.sequential_innermost hc)).1, ?_⟩
  intro hb
  have hs := (hruns (hosted_deferring.sequential_between hc hb)).2 rfl
  rw [hs.libzmq]
  unfold Process.held
  by_cases hloaded : c.world.world.zmq.loaded = 0
  · rw [if_pos hloaded, if_pos (hs.module_none hloaded)]
  · rw [if_neg hloaded, if_neg (hs.loaded hloaded)]

lemma reachable_argument {s : Process} (hs : s.world.tb.loaded ≠ 0) (k : Keyword) : ∃ p,
    hosted.Reachable s ⟨(k.program.run noting (s, [])).2.1, [p]⟩ ∧
      hosted.Between ⟨(k.program.run noting (s, [])).2.1, [p]⟩ := by
  obtain ⟨p, hreach, hbetween⟩ := reachable_close_argument hs k
  exact ⟨p, reachable_of_logged hreach, between_of_logged hbetween⟩

lemma reachable_hostedBy (n : ℕ) : hosted.Reachable (startedWith n) ⟨hostedBy n, []⟩ := by
  have hload := hosted.steps_run (respond_answering fun _ => true)
    (Returned.entry <$> loadLocalSymbols) (startedWith n) []
  rw [Prog.run_map] at hload
  exact hload.head (.start (Or.inl rfl))

/-- `ZmqClose(ZmqLibraryInit("zmq"))`, after the inner keyword. -/
theorem references_accounted_nested_init : ∃ c : Config Req.Resp Process Returned,
    hosted.Reachable (startedWith 1) c ∧ c.frames ≠ [] ∧ c.world.loader.count .libzmq = 1 := by
  obtain ⟨p, hreach, hbetween⟩ := reachable_argument ready_hostedBy .zmqLibraryInit
  have hc := (reachable_hostedBy 1).trans hreach
  have hloaded : (Keyword.zmqLibraryInit.program.run noting
      (hostedBy 1, [])).2.1.world.zmq.loaded = 1 := by decide +kernel
  refine ⟨_, hc, by simp, ?_⟩
  rw [(references_accounted (startedWith 1).loader _ hc).2 hbetween, hloaded]
  rfl

end ThinBasicZmq
