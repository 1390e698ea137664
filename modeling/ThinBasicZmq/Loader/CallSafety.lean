import ThinBasicZmq.Loader.KeywordCalls

/-!
# No call through a pointer that is not resolved

The entry points set up and tear down the two tables. Together with the keywords they keep
the tables consistent with the loader in every run of the process.
-/

namespace ThinBasicZmq

open Interaction System

variable {α : Type} {Q : α → World → Prop} {w : World}

/-- The world with other thinCore slots. -/
def World.withTbSlots (w : World) (fn : TbSymbol → FARPROC) : World :=
  { w with tb := { w.tb with fn := fn } }

/-- A library that is not `libzmq.dll` is found without a trace in the world. -/
lemma safe_getOrLoadLibrary {name : List Cell} {Q : Option HMODULE → World → Prop}
    (hname : dllOf name ≠ .libzmq) (h : ∀ x, (∀ m ∈ x, m.dll = dllOf name) → Q x w) :
    SafeFrom Q (getOrLoadLibrary name) w := by
  have hsome : ∀ m : HMODULE, m.dll = dllOf name → Q (some m) w := by
    intro m hm
    apply h
    intro m' hm'
    rwa [← Option.some.inj hm']
  apply (safe_ask id).mpr
  refine ⟨id, ?_⟩
  rintro x w' ⟨hx | ⟨m, hm, hx⟩, (hw : w' = w)⟩
  · rw [hx, hw]
    apply (safe_request id).mpr
    refine ⟨id, ?_⟩
    rintro y w'' (⟨rfl, rfl⟩ | ⟨m, hm, rfl, rfl⟩)
    · apply h
      simp
    · have hload : w.load m = w := if_neg (by rw [hm]; exact hname)
      rw [hload]
      exact hsome m hm
  · rw [hx, hw]
    exact hsome m hm

lemma safe_tbResolveExports {m : HMODULE} (syms : List TbSymbol) (hm : w.tb.module = some m)
    (hdll : m.dll = .thinCore) :
    SafeFrom (fun _ w' => ∃ fn, w' = w.withTbSlots fn ∧
      Resolved TbSymbol.exportName m syms w.tb.fn fn) (tbResolveExports syms) w := by
  induction syms generalizing w with
  | nil => exact ⟨w.tb.fn, rfl, .nil⟩
  | cons s syms ih =>
    apply safe_bind.mpr
    apply safe_readTb
    rw [hm]
    apply (safe_request id).mpr
    constructor
    · apply not_not.mpr
      intro h
      rw [hdll] at h
      cases h
    rintro x w' ⟨hx, rfl⟩
    apply safe_readTb
    apply safe_writeTb
    apply (@ih (w'.withTbSlots (Function.update w'.tb.fn s x)) hm).mono
    rintro _ w'' ⟨fn, rfl, hfn⟩
    exact ⟨fn, rfl, hfn.cons hx⟩

lemma safe_tbResolveAllocBstr (h : World.AllocInv w.tb.fn) :
    SafeFrom (fun _ w' => ∃ fn, w' = w.withTbSlots fn ∧ World.AllocInv fn ∧
      ∀ s, s ≠ .allocBstr → fn s = w.tb.fn s) tbResolveAllocBstr w := by
  apply safe_bind.mpr
  apply safe_getOrLoadLibrary (by decide)
  intro x hx
  cases x with
  | none => exact ⟨w.tb.fn, rfl, h, fun _ _ => rfl⟩
  | some ole =>
    have hole : ole.dll = .oleaut32 := hx ole rfl
    apply (safe_ask id).mpr
    constructor
    · apply not_not.mpr
      intro hdll
      rw [hole] at hdll
      cases hdll
    rintro fn w' ⟨hfn, rfl⟩
    apply safe_readTb
    apply (safe_request id).mpr
    refine ⟨id, ?_⟩
    rintro _ w'' rfl
    refine ⟨_, rfl, ?_, fun s hs => Function.update_of_ne hs _ _⟩
    rw [World.AllocInv, Function.update_self]
    exact hfn.imp_right fun hsome => ⟨ole, hsome, hole⟩

lemma safe_tbThincoreShutdown (h : ∀ m, w.tb.module = some m → m.dll = .thinCore) :
    SafeFrom (fun _ w' => w' = { w with tb := .zero }) tbThincoreShutdown w := by
  have hzero : SafeFrom (fun _ w' => w' = { w with tb := .zero }) (ask (.writeTb .zero)) w := by
    apply (safe_request id).mpr
    exact ⟨id, fun _ _ hx => hx⟩
  unfold tbThincoreShutdown
  apply safe_readTb
  apply safe_ite
  · intro _
    exact hzero
  intro hm
  apply (safe_ask id).mpr
  refine ⟨id, ?_⟩
  rintro x w' ⟨-, (hw : w' = w)⟩
  rw [hw]
  apply safe_ite
  · intro _
    exact hzero
  intro _
  obtain ⟨m, hsome⟩ := Option.ne_none_iff_exists'.mp hm
  have hdll : m.dll ≠ .libzmq := by
    rw [h m hsome]
    decide
  rw [hsome]
  apply (safe_ask id).mpr
  constructor
  · apply not_not.mpr
    intro hz
    exact absurd hz hdll
  rintro _ w'' (hw'' : w'' = w.free (some m))
  have hfree : w.free (some m) = w := if_neg hdll
  rwa [hw'', hfree]

/-- `tb_thincore_init` reports success exactly when `g_tb` is ready for use. -/
lemma safe_tbThincoreInit (hw : w.Idle) :
    SafeFrom (fun r w' => w'.Idle ∧ (r ≠ 0 → w'.tb.loaded ≠ 0)) tbThincoreInit w := by
  unfold tbThincoreInit
  apply safe_readTb
  apply safe_ite
  · intro hloaded
    exact ⟨hw, fun _ => hloaded⟩
  intro hloaded
  have hzero : w.tb.loaded = 0 := not_not.mp hloaded
  apply safe_bind.mpr
  apply safe_getOrLoadLibrary (by decide)
  intro x hx
  apply safe_writeTb
  apply safe_ite
  · -- neither found nor loaded
    intro hnone
    refine ⟨⟨hw.zmqInv.withTb _, ?_, hw.tbInv.alloc, ?_⟩, fun h => absurd rfl h⟩
    · intro m hm
      cases hnone.symm.trans hm
    · intro h
      exact absurd hzero h
  intro hsome
  obtain ⟨m, rfl⟩ := Option.ne_none_iff_exists'.mp hsome
  have hdll : m.dll = .thinCore := hx m rfl
  have hmodule : ∀ m', some m = some m' → m'.dll = .thinCore := by
    intro m' h
    rwa [← Option.some.inj h]
  apply safe_bind.mpr
  apply (safe_tbResolveExports tbRequiredSymbols rfl hdll).mono
  rintro _ w' ⟨fn, rfl, hfn⟩
  have halloc : World.AllocInv fn := by
    rw [World.AllocInv, hfn.kept .allocBstr (by decide)]
    exact hw.tbInv.alloc
  apply safe_bind.mpr
  apply (safe_tbResolveAllocBstr halloc).mono
  rintro _ w' ⟨fn', rfl, halloc', hkept⟩
  apply safe_readTb
  apply safe_ite
  · -- an export is missing
    intro _
    apply safe_bind.mpr
    apply (safe_tbThincoreShutdown hmodule).mono
    rintro _ w' rfl
    refine ⟨⟨hw.zmqInv.withTb _, ?_, Or.inl rfl, fun h => absurd rfl h⟩, fun h => absurd rfl h⟩
    intro m h
    cases h
  intro hall
  have hone : (1 : LONG) ≠ 0 := by decide
  apply safe_writeTb
  refine ⟨⟨hw.zmqInv.withTb _, hmodule, halloc', ?_⟩, fun _ => hone⟩
  intro _ s hs
  have hslot : fn' s = fn s := by
    apply hkept
    rintro rfl
    exact absurd hs (by decide)
  have hbound : fn' s ≠ none := by
    intro hnone
    apply hall
    apply List.any_eq_true.mpr
    exact ⟨s, hs, Option.isNone_iff_eq_none.mpr hnone⟩
  rw [hslot] at hbound
  refine ⟨m, ?_, hdll⟩
  exact hslot.trans ((hfn.slots s hs).resolve_left hbound)

lemma sound_registerSymbols (symbols : List SymbolLine) :
    Sound (tbZmqRegisterSymbols symbols) fun _ => True := by
  induction symbols with
  | nil => exact calculus_sound.ret trivial
  | cons l symbols ih =>
    apply calculus_sound.bind (sound_tbCall _)
    intro _ _
    exact ih

lemma sound_registerEquates (equates : List (String × DWORD)) :
    Sound (tbZmqRegisterEquates equates) fun _ => True := by
  induction equates with
  | nil => exact calculus_sound.ret trivial
  | cons e equates ih =>
    apply calculus_sound.bind (sound_tbCall _)
    intro _ _
    exact ih

theorem safe_loadLocalSymbols (hw : w.Idle) : SafeFrom (fun _ w' => w'.Idle) loadLocalSymbols w := by
  apply safe_bind.mpr
  apply (safe_tbThincoreInit hw).mono
  rintro r w' ⟨hidle, hready⟩
  apply safe_ite
  · intro _
    exact hidle
  intro hr
  have hregister : Sound (tbZmqRegisterSymbols zmqSymbols >>= fun _ =>
      tbZmqRegisterEquates zmqEquates >>= fun _ => pure (0 : DWORD)) fun _ => True := by
    apply calculus_sound.bind (sound_registerSymbols _)
    intro _ _
    apply calculus_sound.bind (sound_registerEquates _)
    intro _ _
    exact calculus_sound.ret trivial
  apply (hregister w' ⟨hidle, hready hr⟩).mono
  intro _ w'' h
  exact h.1.toIdle

theorem safe_unLoadLocalSymbols (hw : w.Idle) :
    SafeFrom (fun _ w' => w'.Idle) unLoadLocalSymbols w := by
  apply safe_bind.mpr
  apply (safe_zmqDynUnload hw.zmqInv).mono
  rintro _ w' ⟨hz, ht⟩
  apply safe_bind.mpr
  apply (safe_tbThincoreShutdown (hw.tbInv.of_eq ht).module).mono
  rintro _ w'' rfl
  refine ⟨hz.withTb _, ?_, Or.inl rfl, fun h => absurd rfl h⟩
  intro m h
  cases h

lemma safe_discarded {P : World → Prop} {p : Sdk α} (h : SafeFrom (fun _ => P) p w) :
    SafeFrom (fun _ => P) (discarded p) w := by
  rw [discarded, map_eq_pure_bind]
  exact safe_bind.mpr (h.mono fun _ _ hP => hP)

theorem process_keeps : Keeps process World.Busy World.Idle where
  opens := by
    rintro w p hw (rfl | rfl | ⟨hready, k, rfl⟩)
    · exact safe_discarded (safe_loadLocalSymbols hw)
    · exact safe_discarded (safe_unLoadLocalSymbols hw)
    · exact safe_discarded ((sound_exec k w ⟨hw, hready⟩).mono fun _ _ h => h.1.toIdle)
  nests := by
    rintro w p hw ⟨k, rfl⟩
    exact safe_discarded ((sound_exec k w hw).mono fun _ _ h => h.1)

/-- Whatever is started, nested and answered: the loader's books and the table agree, and no
call or handle is a bad one. -/
theorem loader_callSafety (c : Config Req.Resp World Unit)
    (hc : process.Reachable World.initial c) :
    (process.Between c → LoaderInvariant c.world) ∧ ¬ process.Faulty c := by
  constructor
  · intro hb
    rcases process_keeps.between World.idle_initial hc hb with h | h
    · exact h.zmqInv.loaderInvariant
    · exact h.zmqInv.loaderInvariant
  · exact process_keeps.not_faulty World.idle_initial hc

/-- A process in which everything succeeds. -/
def obliging : (r : Req) → World → r.Resp × World
  | .readZmq, w => (w.zmq, w)
  | .writeZmq t, w => ((), { w with zmq := t })
  | .readTb, w => (w.tb, w)
  | .writeTb t, w => ((), { w with tb := t })
  | .getProcAddress m name, w => (m.map (⟨·, name⟩), w)
  | .loadLibrary path, w => (some ⟨dllOf path, 0x10000⟩, w.load ⟨dllOf path, 0x10000⟩)
  | .freeLibrary m, w => ((), w.free m)
  | .getModuleHandle _, w => (none, w)
  | .setDllDirectory _, w | .enter _, w | .store _ _ _, w => ((), w)
  | .host _ .parseLong, w => ((0 : LONG), w)
  | .host _ .parseString, w => (some (CString.ofString "zmq"), w)
  | .host _ (.addEquate _ _ _ _), w | .host _ (.loadSymbol _ _ _ _), w
  | .host _ (.loadSymbolFB _ _ _ _), w | .host _ (.checkOpenParens _ _), w
  | .host _ (.checkCloseParens _ _), w | .host _ (.checkComma _ _), w => ((1 : DWORD), w)
  | .zmq _ c, w => (c.failed, w)
  | .allocBstr _ _, w => (true, w)
  | .fetch _ _ _, w => ((0 : UInt8), w)
  | .literalAddr _, w => ((0 : Ptr), w)

lemma responds_obliging (r : Req) (w : World) :
    process.respond w r (obliging r w).1 (obliging r w).2 := by
  cases r with
  | readZmq | readTb => exact ⟨rfl, rfl⟩
  | getProcAddress m name => exact ⟨Or.inr rfl, rfl⟩
  | loadLibrary path => exact Or.inr ⟨_, rfl, rfl, rfl⟩
  | getModuleHandle name => exact ⟨Or.inl rfl, rfl⟩
  | host fn c => cases c <;> rfl
  | writeZmq | writeTb | freeLibrary | setDllDirectory | enter | zmq | allocBstr | store | fetch
  | literalAddr => rfl

/-- The host has loaded the module. -/
def hostedWorld : World := ((discarded loadLocalSymbols).run obliging World.initial).2

/-- A script has loaded libzmq. -/
def bootedWorld : World := ((discarded Keyword.zmqLibraryInit.exec).run obliging hostedWorld).2

lemma hostedWorld_ready : hostedWorld.tb.loaded = 1 := by rfl

/-- The module can be loaded, and then libzmq. -/
lemma reachable_loaded : ∃ w, process.Reachable World.initial ⟨w, []⟩ ∧ w.zmq.loaded = 1 := by
  have hhost : process.Reachable World.initial ⟨hostedWorld, []⟩ :=
    (steps_run process responds_obliging _ _ _).head (.start (Or.inl rfl))
  have hready : hostedWorld.tb.loaded ≠ 0 := by
    rw [hostedWorld_ready]
    decide
  refine ⟨bootedWorld, hhost.trans ?_, by decide +kernel⟩
  exact (steps_run process responds_obliging _ _ _).head
    (.start (Or.inr (Or.inr ⟨hready, .zmqLibraryInit, rfl⟩)))

theorem loader_callSafety_init : ∃ w, process.Reachable World.initial ⟨w, []⟩ ∧
    w.zmq.loaded = 1 ∧ LoaderInvariant w := by
  obtain ⟨w, hw, hloaded⟩ := reachable_loaded
  exact ⟨w, hw, hloaded, (loader_callSafety ⟨w, []⟩ hw).1 trivial⟩

end ThinBasicZmq
