import ThinBasicZmq.Interaction.Guarantee
import ThinBasicZmq.Keywords.StrictTransaction
import ThinBasicZmq.Loader.World

/-!
# The state of the libzmq table

Loading and unloading keep `g_zmq` consistent with the module that is mapped. The table is
either zero, or each of its slots was resolved from one module that was loaded once more
than it was freed.
-/

namespace ThinBasicZmq

open Interaction System

namespace World

structure LoadedFrom (w : World) (m : HMODULE) : Prop where
  flag : w.zmq.loaded = 1
  module : w.zmq.module = some m
  dll : m.dll = .libzmq
  refs : w.loads = m :: w.frees
  required : ∀ s ∈ zmqRequiredSymbols, w.zmq.fn s ≠ none
  resolved : ∀ s, w.zmq.fn s = none ∨ w.zmq.fn s = some ⟨m, s.exportName⟩

def ZmqInv (w : World) : Prop := (w.zmq = .zero ∧ w.loads = w.frees) ∨ ∃ m, w.LoadedFrom m

/-- The slot for string results. -/
def AllocInv (fn : TbSymbol → FARPROC) : Prop := fn .allocBstr = none ∨
  ∃ m, fn .allocBstr = some ⟨m, TbSymbol.allocBstr.exportName⟩ ∧ m.dll = .oleaut32

structure TbInv (w : World) : Prop where
  module : ∀ m, w.tb.module = some m → m.dll = .thinCore
  alloc : AllocInv w.tb.fn
  required : w.tb.loaded ≠ 0 → ∀ s ∈ tbRequiredSymbols,
    ∃ m, w.tb.fn s = some ⟨m, s.exportName⟩ ∧ m.dll = .thinCore

/-- Outside of the keywords. -/
structure Idle (w : World) : Prop where
  zmqInv : w.ZmqInv
  tbInv : w.TbInv

/-- While keywords run. -/
structure Busy (w : World) : Prop extends w.Idle where
  ready : w.tb.loaded ≠ 0

lemma TbInv.of_eq {w w' : World} (h : w.TbInv) (ht : w'.tb = w.tb) : w'.TbInv :=
  ⟨by rw [ht]; exact h.module, by rw [ht]; exact h.alloc, by rw [ht]; exact h.required⟩

lemma ZmqInv.withTb {w : World} (h : w.ZmqInv) (t : TbThincoreApi) :
    { w with tb := t }.ZmqInv := by
  rcases h with h | ⟨m, hm⟩
  · exact Or.inl h
  · exact Or.inr ⟨m, hm.flag, hm.module, hm.dll, hm.refs, hm.required, hm.resolved⟩

lemma idle_initial : initial.Idle := by
  refine ⟨Or.inl ⟨rfl, rfl⟩, ?_, Or.inl rfl, fun h => absurd rfl h⟩
  intro m hm
  cases hm

lemma LoadedFrom.live_iff {w : World} {m : HMODULE} (h : w.LoadedFrom m) (m' : HMODULE) :
    w.Live m' ↔ m' = m := by
  rw [Live, h.refs, List.count_cons]
  by_cases hm : m = m'
  · simp [hm]
  · simp [hm, Ne.symm hm]

lemma ZmqInv.loaderInvariant {w : World} (h : w.ZmqInv) : LoaderInvariant w := by
  rcases h with ⟨hzero, hrefs⟩ | ⟨m, hm⟩
  · have hflag : w.zmq.loaded = 0 := by
      rw [hzero]
      rfl
    refine ⟨Or.inl hflag, ?_, ?_⟩
    · intro _
      exact ⟨hzero, by rw [hrefs]⟩
    · intro h
      exact absurd (hflag.symm.trans h) (by decide)
  · have hlength : w.loads.length = w.frees.length + 1 := by
      rw [hm.refs]
      rfl
    refine ⟨Or.inr hm.flag, ?_, ?_⟩
    · intro h
      exact absurd (hm.flag.symm.trans h) (by decide)
    · intro _
      refine ⟨hlength, m, hm.module, hm.dll, hm.live_iff, ?_, fun s _ => hm.resolved s⟩
      intro s hs
      exact (hm.resolved s).resolve_left (hm.required s hs)

end World

variable {α β : Type} {Q : α → World → Prop} {w : World}

/-- Run from `w`, the program makes no faulty request and ends with `Q`. -/
abbrev SafeFrom (Q : α → World → Prop) (p : Sdk α) (w : World) : Prop :=
  process.Safe World.Busy Q p w

/-- Requests that neither use nor change anything in the world. -/
def Harmless : Req → Prop
  | .setDllDirectory _ | .enter _ | .store _ _ _ | .fetch _ _ _ | .literalAddr _ => True
  | _ => False

lemma safe_of_harmless {p : Sdk α}
    (hp : p.Guarantees (fun _ _ => True) Harmless fun a => Q a w) : SafeFrom Q p w := by
  induction p with
  | done a => exact hp
  | ask r next ih =>
    obtain ⟨hr, hnext⟩ := hp
    have hargument : ¬ r.IsArgument := by
      cases r <;> first | exact id | exact hr.elim
    apply (safe_ask hargument).mpr
    constructor
    · cases r <;> first | exact id | exact hr.elim
    · intro x w' hx
      have hw : w' = w := by
        cases r <;> first | exact hx | exact hr.elim
      rw [hw]
      exact ih x (hnext x trivial)

lemma safe_bind_of_harmless {p : Sdk β} {f : β → Sdk α} (hp : p.Only Harmless)
    (h : ∀ b, SafeFrom Q (f b) w) : SafeFrom Q (p >>= f) w := by
  apply safe_bind.mpr
  apply safe_of_harmless
  exact (hp.guarantees fun _ => id).mono fun b _ => h b

lemma safe_harmless {r : Req} {f : r.Resp → Sdk α} (hr : Harmless r)
    (h : ∀ x, SafeFrom Q (f x) w) : SafeFrom Q (ask r >>= f) w := by
  apply safe_bind_of_harmless _ h
  exact ⟨hr, fun _ => trivial⟩

lemma safe_readZmq {f : ZmqApiTable → Sdk α} (h : SafeFrom Q (f w.zmq) w) :
    SafeFrom Q (ask .readZmq >>= f) w := by
  apply (safe_ask id).mpr
  refine ⟨id, ?_⟩
  rintro x w' ⟨rfl, rfl⟩
  exact h

lemma safe_readTb {f : TbThincoreApi → Sdk α} (h : SafeFrom Q (f w.tb) w) :
    SafeFrom Q (ask .readTb >>= f) w := by
  apply (safe_ask id).mpr
  refine ⟨id, ?_⟩
  rintro x w' ⟨rfl, rfl⟩
  exact h

lemma safe_writeZmq {t : ZmqApiTable} {f : Unit → Sdk α} (h : SafeFrom Q (f ()) { w with zmq := t }) :
    SafeFrom Q (ask (.writeZmq t) >>= f) w := by
  apply (safe_ask id).mpr
  refine ⟨id, ?_⟩
  rintro x w' rfl
  exact h

lemma safe_writeTb {t : TbThincoreApi} {f : Unit → Sdk α} (h : SafeFrom Q (f ()) { w with tb := t }) :
    SafeFrom Q (ask (.writeTb t) >>= f) w := by
  apply (safe_ask id).mpr
  refine ⟨id, ?_⟩
  rintro x w' rfl
  exact h

section Resolving

variable {Symbol : Type} {name : Symbol → String} {m : HMODULE} {old fn : Symbol → FARPROC}

/-- The slots `syms` were resolved from `m`, each to its own export or to nothing. -/
structure Resolved (name : Symbol → String) (m : HMODULE) (syms : List Symbol)
    (old fn : Symbol → FARPROC) : Prop where
  slots : ∀ s ∈ syms, fn s = none ∨ fn s = some ⟨m, name s⟩
  kept : ∀ s, s ∉ syms → fn s = old s

lemma Resolved.nil : Resolved name m [] old old := ⟨by simp, fun _ _ => rfl⟩

lemma Resolved.cons [DecidableEq Symbol] {s : Symbol} {syms : List Symbol} {x : FARPROC}
    (hx : x = none ∨ x = some ⟨m, name s⟩)
    (h : Resolved name m syms (Function.update old s x) fn) :
    Resolved name m (s :: syms) old fn := by
  constructor
  · intro s' hs'
    by_cases hmem : s' ∈ syms
    · exact h.slots s' hmem
    · obtain rfl : s' = s := by simpa [hmem] using hs'
      have hsame : fn s' = x := by rw [h.kept s' hmem, Function.update_self]
      rwa [hsame]
  · intro s' hs'
    rw [List.mem_cons, not_or] at hs'
    rw [h.kept s' hs'.2, Function.update_of_ne hs'.1]

end Resolving

/-- The world with other libzmq slots. -/
def World.withSlots (w : World) (fn : ZmqSymbol → FARPROC) : World :=
  { w with zmq := { w.zmq with fn := fn } }

lemma safe_zmqResolve {m : HMODULE} {name : String} {Q : FARPROC → World → Prop}
    (hm : w.zmq.module = some m) (hlive : w.Live m)
    (h : ∀ fn, (fn = none ∨ fn = some ⟨m, name⟩) → Q fn w) : SafeFrom Q (zmqResolve name) w := by
  apply safe_readZmq
  rw [hm]
  apply (safe_ask id).mpr
  constructor
  · exact not_not.mpr fun _ => hlive
  · rintro fn w' ⟨hfn, rfl⟩
    exact h fn hfn

lemma safe_zmqBindSymbols {m : HMODULE} (syms : List ZmqSymbol) (hm : w.zmq.module = some m)
    (hlive : w.Live m) :
    SafeFrom (fun _ w' => ∃ fn, w' = w.withSlots fn ∧
      Resolved ZmqSymbol.exportName m syms w.zmq.fn fn) (zmqBindSymbols syms) w := by
  induction syms generalizing w with
  | nil => exact ⟨w.zmq.fn, rfl, .nil⟩
  | cons s syms ih =>
    apply safe_bind.mpr
    apply safe_zmqResolve hm hlive
    intro x hx
    apply safe_readZmq
    apply safe_writeZmq
    apply (@ih (w.withSlots (Function.update w.zmq.fn s x)) hm hlive).mono
    rintro _ w' ⟨fn, rfl, hfn⟩
    exact ⟨fn, rfl, hfn.cons hx⟩

lemma mem_symbols (s : ZmqSymbol) : s ∈ zmqRequiredSymbols ∨ s ∈ zmqOptionalSymbols := by
  cases s <;> decide

lemma safe_zmqBindRequiredSymbols {m : HMODULE} (hm : w.zmq.module = some m) (hlive : w.Live m) :
    SafeFrom (fun ok w' => ∃ fn, w' = w.withSlots fn ∧
      (∀ s, fn s = none ∨ fn s = some ⟨m, s.exportName⟩) ∧
      (ok = true → ∀ s ∈ zmqRequiredSymbols, fn s ≠ none)) zmqBindRequiredSymbols w := by
  apply safe_bind.mpr
  apply (safe_zmqBindSymbols zmqRequiredSymbols hm hlive).mono
  rintro _ w' ⟨fn, rfl, hrequired⟩
  apply safe_bind.mpr
  apply (@safe_zmqBindSymbols (w.withSlots fn) m zmqOptionalSymbols hm hlive).mono
  rintro _ w' ⟨fn', rfl, hoptional⟩
  apply safe_readZmq
  refine ⟨fn', rfl, ?_, ?_⟩
  · intro s
    by_cases hs : s ∈ zmqOptionalSymbols
    · exact hoptional.slots s hs
    · rw [hoptional.kept s hs]
      exact hrequired.slots s ((mem_symbols s).resolve_right hs)
  · intro hok s hs hnone
    have hsome : (fn' s).isSome = true := List.all_eq_true.mp hok s hs
    rw [hnone] at hsome
    cases hsome

lemma safe_freeLibrary {m : HMODULE} {f : Unit → Sdk α} (hdll : m.dll = .libzmq)
    (hlive : w.Live m) (h : SafeFrom Q (f ()) { w with frees := m :: w.frees }) :
    SafeFrom Q (ask (.freeLibrary (some m)) >>= f) w := by
  apply (safe_ask id).mpr
  refine ⟨not_not.mpr fun _ => hlive, ?_⟩
  rintro x w' rfl
  have hfree : w.free (some m) = { w with frees := m :: w.frees } := if_pos hdll
  rw [hfree]
  exact h

theorem safe_zmqDynUnload (h : w.ZmqInv) :
    SafeFrom (fun _ w' => w'.ZmqInv ∧ w'.tb = w.tb) zmqDynUnload w := by
  unfold zmqDynUnload
  apply safe_harmless
  · trivial
  intro _
  apply safe_readZmq
  rcases h with ⟨hzero, hrefs⟩ | ⟨m, hm⟩
  · have hmodule : w.zmq.module = none := by
      rw [hzero]
      rfl
    rw [if_pos hmodule]
    apply safe_writeZmq
    apply safe_harmless
    · trivial
    intro _
    exact ⟨Or.inl ⟨rfl, hrefs⟩, rfl⟩
  · rw [if_neg (by rw [hm.module]; simp), hm.module]
    apply safe_freeLibrary hm.dll ((hm.live_iff m).mpr rfl)
    apply safe_writeZmq
    apply safe_harmless
    · trivial
    intro _
    exact ⟨Or.inl ⟨rfl, hm.refs⟩, rfl⟩

lemma safe_store {cells : List Cell} {off : ℕ} {bytes : List UInt8}
    {Q : List Cell → World → Prop} (h : Q (Memory.put cells off bytes) w) :
    SafeFrom Q (store cells off bytes) w := by
  apply safe_harmless
  · trivial
  intro _
  exact h

/-- The composed path is the whole array. -/
lemma safe_snprintf {buf str : List Cell} {suffix : CString} :
    SafeFrom (fun r w' => r.2.length = buf.length ∧ w' = w) (snprintf buf str suffix) w := by
  unfold snprintf
  apply safe_bind_of_harmless (scanNul_only (fun _ _ _ => trivial) _ _ _)
  intro n
  apply safe_bind_of_harmless (fetchBytes_only (fun _ _ _ => trivial) _ _ _)
  intro s
  have hlen : ∀ bytes, (Memory.put buf 0 bytes).length = buf.length := Memory.length_put buf 0
  apply safe_ite
  · intro _
    exact safe_bind.mpr (safe_store ⟨hlen _, rfl⟩)
  intro _
  apply safe_ite
  · intro _
    exact safe_bind.mpr (safe_store ⟨hlen _, rfl⟩)
  · intro _
    exact safe_bind.mpr (safe_store ⟨hlen _, rfl⟩)

lemma dllOf_of_length {path : List Cell} (h : path.length = MAX_PATH) : dllOf path = .libzmq := by
  have hne : ∀ name : List Cell, name.length ≠ MAX_PATH → path ≠ name := by
    intro name hname he
    exact hname (he ▸ h)
  rw [dllOf, if_neg (hne _ (by decide)), if_neg (hne _ (by decide))]

lemma safe_loadLibrary {path : List Cell} {f : Option HMODULE → Sdk α}
    (hpath : dllOf path = .libzmq) (hnone : SafeFrom Q (f none) w)
    (hsome : ∀ m : HMODULE, m.dll = .libzmq →
      SafeFrom Q (f (some m)) { w with loads := m :: w.loads }) :
    SafeFrom Q (ask (.loadLibrary path) >>= f) w := by
  apply (safe_ask id).mpr
  refine ⟨id, ?_⟩
  rintro x w' (⟨rfl, rfl⟩ | ⟨m, hm, rfl, rfl⟩)
  · exact hnone
  · rw [hpath] at hm
    have hload : w.load m = { w with loads := m :: w.loads } := if_pos hm
    rw [hload]
    exact hsome m hm

/-- The module of a library that is being loaded. -/
lemma live_of_load {m : HMODULE} (hloads : w.loads = m :: w.frees) : w.Live m := by
  rw [World.Live, hloads, List.count_cons_self]
  exact Nat.lt_succ_self _

theorem safe_zmqDynLoadDirectory (h : w.ZmqInv) (dir : Option CString) (dirLen : DWORD) :
    SafeFrom (fun _ w' => w'.ZmqInv ∧ w'.tb = w.tb) (zmqDynLoadDirectory dir dirLen) w := by
  unfold zmqDynLoadDirectory
  apply safe_harmless
  · trivial
  intro _
  cases dir with
  | none => exact ⟨h, rfl⟩
  | some dir =>
    apply safe_ite
    · intro _
      exact ⟨h, rfl⟩
    intro _
    apply safe_readZmq
    apply safe_ite
    · intro _
      exact ⟨h, rfl⟩
    intro hloaded
    obtain ⟨hzero, hrefs⟩ : w.zmq = .zero ∧ w.loads = w.frees := by
      rcases h with h | ⟨m, hm⟩
      · exact h
      · exact absurd hm.flag (by rw [not_not.mp hloaded]; decide)
    apply safe_bind_of_harmless (memcpy_only (fun _ _ _ => trivial) _ _ _)
    intro folder
    apply safe_bind_of_harmless (store_only (fun _ _ _ => trivial) _ _ _)
    intro folder
    apply safe_bind_of_harmless
      (zmqTrimTrailingSlashes_only (fun _ _ _ => trivial) (fun _ _ _ => trivial) _ _)
    intro folder
    apply safe_bind.mpr
    apply safe_snprintf.mono
    rintro ⟨n, dllPath⟩ w' ⟨hpath, rfl⟩
    apply safe_ite
    · intro _
      exact ⟨h, rfl⟩
    intro _
    apply safe_harmless
    · trivial
    intro _
    apply safe_loadLibrary (dllOf_of_length (hpath.trans (length_localArray _)))
    · -- the library is not found
      apply safe_readZmq
      apply safe_writeZmq
      rw [if_pos rfl]
      apply safe_harmless
      · trivial
      intro _
      refine ⟨Or.inl ⟨?_, hrefs⟩, rfl⟩
      rw [hzero]
      rfl
    intro m hdll
    apply safe_readZmq
    apply safe_writeZmq
    rw [if_neg (by simp)]
    have hlive : World.Live { w' with
        zmq := { w'.zmq with module := some m }, loads := m :: w'.loads } m := by
      apply live_of_load
      rw [hrefs]
    apply safe_bind.mpr
    apply (safe_zmqBindRequiredSymbols rfl hlive).mono
    rintro ok w'' ⟨fn, rfl, hresolved, hrequired⟩
    apply safe_ite
    · -- an export is missing, and the library is freed again
      intro _
      apply safe_readZmq
      refine safe_freeLibrary hdll hlive ?_
      apply safe_writeZmq
      apply safe_harmless
      · trivial
      intro _
      apply safe_writeZmq
      exact ⟨Or.inl ⟨rfl, congrArg (m :: ·) hrefs⟩, rfl⟩
    · intro hok
      apply safe_readZmq
      apply safe_writeZmq
      refine ⟨Or.inr ⟨m, ?_⟩, rfl⟩
      exact ⟨rfl, rfl, hdll, congrArg (m :: ·) hrefs, hrequired (by simpa using hok), hresolved⟩

end ThinBasicZmq
