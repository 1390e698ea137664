import ThinBasicZmq.Loader.CallSafety
import ThinBasicZmq.Loader.References

/-!
# What a load leaves behind

`zmq_dyn_load_directory` sets the search directory, takes a reference and fills the table, and
has to undo each of them where it fails. `zmq_dyn_unload` gives back what a load has taken.
-/

namespace ThinBasicZmq

open Interaction Environment

/-- The path is there, and neither empty nor too long for the buffer. -/
def AcceptsPath (dir : Option CString) (dirLen : DWORD) : Prop :=
  dir ≠ none ∧ dirLen ≠ 0 ∧ dirLen.toNat < MAX_PATH

/-- No condition on the loader in the middle of an execution. -/
abbrev Anyhow : Loader → Prop := fun _ => True

/-- How `zmq_dyn_load_directory` may end: with what value, and in which process. -/
inductive LoadOutcome (dir : Option CString) (dirLen : DWORD) (s : Process) : LONG → Process → Prop
  | refused : ¬ AcceptsPath dir dirLen → LoadOutcome dir dirLen s 0 s
  | present : AcceptsPath dir dirLen → s.world.zmq.loaded ≠ 0 → LoadOutcome dir dirLen s 1 s
  | overlong : AcceptsPath dir dirLen → s.world.zmq.loaded = 0 → LoadOutcome dir dirLen s 0 s
  | failed {s'} : AcceptsPath dir dirLen → s.world.zmq.loaded = 0 → s'.world.zmq = .zero →
      s'.loader.count = s.loader.count → s'.loader.directory = none →
      s'.loader.calls ≠ s.loader.calls → LoadOutcome dir dirLen s 0 s'
  | loaded {s' m} : AcceptsPath dir dirLen → s.world.zmq.loaded = 0 →
      s'.world.zmq.loaded = 1 → s'.world.zmq.module = some m →
      (s'.loader.unmap (some m)).count = s.loader.count → LoadOutcome dir dirLen s 1 s'

variable {s : Process}

lemma ensures_zmqBindSymbols (syms : List ZmqSymbol) :
    EnsuresFrom Anyhow (fun _ s' => ∃ fn, s' = s.withZmq { s.world.zmq with fn := fn })
      (zmqBindSymbols syms) s := by
  induction syms generalizing s with
  | nil => exact ⟨trivial, s.world.zmq.fn, rfl⟩
  | cons sym syms ih =>
    have hresolve : (zmqResolve sym.exportName).Only Passive :=
      ⟨trivial, fun _ => ⟨trivial, fun _ => trivial⟩⟩
    apply ensures_bind_passive hresolve trivial
    intro x
    apply ensures_readZmq trivial
    apply ensures_writeZmq trivial
    apply Ensures.mono ih
    rintro _ s' ⟨fn, rfl⟩
    exact ⟨fn, rfl⟩

lemma ensures_zmqBindRequiredSymbols :
    EnsuresFrom Anyhow (fun _ s' => ∃ fn, s' = s.withZmq { s.world.zmq with fn := fn })
      zmqBindRequiredSymbols s := by
  apply ensures_bind
  apply Ensures.mono (ensures_zmqBindSymbols _)
  rintro _ s' ⟨fn, rfl⟩
  apply ensures_bind
  apply Ensures.mono (ensures_zmqBindSymbols _)
  rintro _ s' ⟨fn', rfl⟩
  apply ensures_readZmq trivial
  exact ⟨trivial, fn', rfl⟩

lemma ensures_zmqDynLoadDirectory (hzero : s.world.zmq.loaded = 0 → s.world.zmq = .zero)
    (dir : Option CString) (dirLen : DWORD) :
    EnsuresFrom Anyhow (LoadOutcome dir dirLen s) (zmqDynLoadDirectory dir dirLen) s := by
  unfold zmqDynLoadDirectory
  apply ensures_ask_passive
  · trivial
  · trivial
  intro _
  cases dir with
  | none => exact ⟨trivial, .refused fun h => h.1 rfl⟩
  | some dir =>
    apply ensures_ite
    · intro hlen
      refine ⟨trivial, .refused ?_⟩
      rintro ⟨-, hne, hlt⟩
      rcases hlen with hz | hlong
      · exact hne hz
      · omega
    intro hlen
    have haccepts : AcceptsPath (some dir) dirLen := by
      rw [not_or, not_le] at hlen
      exact ⟨by simp, hlen.1, hlen.2⟩
    apply ensures_readZmq trivial
    apply ensures_ite
    · intro hloaded
      exact ⟨trivial, .present haccepts hloaded⟩
    intro hloaded
    have hflag : s.world.zmq.loaded = 0 := not_not.mp hloaded
    apply ensures_bind_passive (memcpy_only (fun _ _ _ => trivial) _ _ _) trivial
    intro folder
    apply ensures_bind_passive (store_only (fun _ _ _ => trivial) _ _ _) trivial
    intro folder
    apply ensures_bind_passive (zmqTrimTrailingSlashes_only (fun _ _ _ => trivial)
      (fun _ _ _ => trivial) _ _) trivial
    intro folder
    apply ensures_bind_passive (snprintf_only (fun _ _ _ => trivial) (fun _ _ _ => trivial) _ _ _)
      trivial
    rintro ⟨n, dllPath⟩
    apply ensures_ite
    · intro _
      exact ⟨trivial, .overlong haccepts hflag⟩
    intro _
    apply ensures_setDllDirectory trivial
    apply ensures_loadLibrary trivial
    · -- the library is not found
      apply ensures_readZmq trivial
      apply ensures_writeZmq trivial
      rw [if_pos rfl]
      apply ensures_setDllDirectory trivial
      refine ⟨trivial, .failed haccepts hflag ?_ rfl rfl (List.cons_ne_self _ _)⟩
      change { s.world.zmq with module := none } = ZmqApiTable.zero
      rw [hzero hflag]
      rfl
    intro m _
    apply ensures_readZmq trivial
    apply ensures_writeZmq trivial
    rw [if_neg (by simp)]
    apply ensures_bind
    apply Ensures.mono ensures_zmqBindRequiredSymbols
    rintro ok s' ⟨fn, rfl⟩
    apply ensures_ite
    · -- an export is missing, and the reference is given back
      intro _
      apply ensures_readZmq trivial
      apply ensures_freeLibrary trivial
      apply ensures_writeZmq trivial
      apply ensures_setDllDirectory trivial
      apply ensures_writeZmq trivial
      refine ⟨trivial, .failed haccepts hflag rfl Loader.count_unmap_map rfl ?_⟩
      change (Loader.unmap _ (some m)).calls ≠ s.loader.calls
      rw [Loader.calls_unmap]
      exact List.cons_ne_self _ _
    · intro _
      apply ensures_readZmq trivial
      apply ensures_writeZmq trivial
      exact ⟨trivial, .loaded haccepts hflag rfl rfl Loader.count_unmap_map⟩

lemma ensures_zmqDynUnload :
    EnsuresFrom Anyhow (fun _ s' => s'.world.zmq = .zero ∧
      s'.loader.count = (s.loader.unmap s.world.zmq.module).count ∧ s'.loader.directory = none)
      zmqDynUnload s := by
  unfold zmqDynUnload
  apply ensures_ask_passive
  · trivial
  · trivial
  intro _
  apply ensures_readZmq trivial
  by_cases hm : s.world.zmq.module = none
  · rw [if_pos hm, hm]
    apply ensures_writeZmq trivial
    apply ensures_setDllDirectory trivial
    exact ⟨trivial, rfl, rfl, rfl⟩
  · rw [if_neg hm]
    apply ensures_freeLibrary trivial
    apply ensures_writeZmq trivial
    apply ensures_setDllDirectory trivial
    exact ⟨trivial, rfl, rfl, rfl⟩

/-- A call of `zmq_dyn_load_directory` that returns `v` and goes from process `s` to `s'`. -/
structure LoadGuarantee (dir : Option CString) (dirLen : DWORD) (s : Process) (v : LONG)
    (s' : Process) : Prop where
  value : v = 0 ∨ v = 1
  /-- A path that is not accepted is refused, also when the library is loaded. -/
  refused : ¬ AcceptsPath dir dirLen → v = 0 ∧ s' = s
  truthful : AcceptsPath dir dirLen → (v = 1 ↔ s'.world.zmq.loaded = 1)
  table : v = 0 → s'.world.zmq = s.world.zmq
  references : v = 0 → s'.loader.count = s.loader.count
  /-- Where `LoadLibraryA` was tried, a failure leaves the default search directory. -/
  directory : v = 0 → s'.loader.directory =
    if s'.loader.calls = s.loader.calls then s.loader.directory else none
  /-- Unloading leaves it, too, and gives back what was taken. -/
  undone : ∀ s'', counted.Executes zmqDynUnload s' () s'' → s''.loader.directory = none ∧
    s''.world.zmq = .zero ∧
    (v = 1 → s.world.zmq.loaded = 0 → s''.loader.count = s.loader.count)

/-- Each exit keeps what is promised. -/
private lemma loadGuarantee_of_outcome {dir : Option CString} {dirLen : DWORD} {v : LONG}
    {s' : Process} (hflag : s.world.zmq.loaded = 0 ∨ s.world.zmq.loaded = 1)
    (hzero : s.world.zmq.loaded = 0 → s.world.zmq = .zero) (h : LoadOutcome dir dirLen s v s') :
    LoadGuarantee dir dirLen s v s' := by
  have hundone (hback : v = 1 → s.world.zmq.loaded = 0 →
      (s'.loader.unmap s'.world.zmq.module).count = s.loader.count) :
      ∀ s'', counted.Executes zmqDynUnload s' () s'' → s''.loader.directory = none ∧
        s''.world.zmq = .zero ∧
        (v = 1 → s.world.zmq.loaded = 0 → s''.loader.count = s.loader.count) := by
    intro s'' hs''
    obtain ⟨htable, hcount, hdir⟩ := ensures_zmqDynUnload.executes hs''
    rw [hcount]
    exact ⟨hdir, htable, hback⟩
  have hone : (1 : LONG) ≠ 0 := by decide
  cases h with
  | refused hrefused =>
    exact ⟨Or.inl rfl, fun _ => ⟨rfl, rfl⟩, fun h => absurd h hrefused, fun _ => rfl, fun _ => rfl,
      fun _ => (if_pos rfl).symm, hundone fun h => absurd h.symm hone⟩
  | present haccepts hloaded =>
    refine ⟨Or.inr rfl, fun h => absurd haccepts h, ?_, fun h => absurd h hone,
      fun h => absurd h hone, fun h => absurd h hone, hundone fun _ h => absurd h hloaded⟩
    intro _
    exact iff_of_true rfl (hflag.resolve_left hloaded)
  | overlong haccepts hloaded =>
    refine ⟨Or.inl rfl, fun h => absurd haccepts h, ?_, fun _ => rfl, fun _ => rfl,
      fun _ => (if_pos rfl).symm, hundone fun h => absurd h.symm hone⟩
    intro _
    exact iff_of_false hone.symm (by rw [hloaded]; exact hone.symm)
  | failed haccepts hloaded htable hcount hdir hcalls =>
    refine ⟨Or.inl rfl, fun h => absurd haccepts h, ?_, fun _ => ?_, fun _ => hcount, fun _ => ?_,
      hundone fun h => absurd h.symm hone⟩
    · intro _
      exact iff_of_false (by decide) (by rw [htable]; decide)
    · rw [htable, hzero hloaded]
    · rw [if_neg hcalls, hdir]
  | @loaded _ m haccepts hloaded hset hmodule hcount =>
    refine ⟨Or.inr rfl, fun h => absurd haccepts h, ?_, fun h => absurd h hone,
      fun h => absurd h hone, fun h => absurd h hone, hundone fun _ _ => ?_⟩
    · intro _
      exact iff_of_true rfl hset
    · rw [hmodule]
      exact hcount

/-- From every state of the module that a run reaches, whatever the loader holds and answers:
the result tells whether the library is loaded, and a failure undoes the load. -/
theorem zmqDynLoadDirectory_atomic (c : Config Req.Resp World Unit)
    (hc : process.Reachable World.initial c) (hb : process.Between c) (l : Loader)
    (dir : Option CString) (dirLen : DWORD) (v : LONG) (s' : Process)
    (h : counted.Executes (zmqDynLoadDirectory dir dirLen) ⟨c.world, l⟩ v s') :
    LoadGuarantee dir dirLen ⟨c.world, l⟩ v s' := by
  have hinv : LoaderInvariant c.world := by
    rcases process_keeps.between World.idle_initial hc hb with h | h
    · exact h.zmqInv.loaderInvariant
    · exact h.zmqInv.loaderInvariant
  have hzero : c.world.zmq.loaded = 0 → c.world.zmq = .zero := fun h => (hinv.unloaded h).1
  have houtcome := (@ensures_zmqDynLoadDirectory ⟨c.world, l⟩ hzero dir dirLen).executes h
  exact loadGuarantee_of_outcome hinv.flag hzero houtcome

/-- `LoadLibraryA` finds the libraries in `found`. -/
def Process.load (s : Process) (found : Dll → Bool) (path : List Cell) :
    Option HMODULE × Process :=
  let m : HMODULE := ⟨dllOf path, s.loader.base (dllOf path)⟩
  if found m.dll then (some m, ⟨s.world.load m, s.loader.map path m⟩)
  else (none, ⟨s.world, s.loader.miss path⟩)

/-- A process in which all but `LoadLibraryA` succeeds. -/
def answering (found : Dll → Bool) : (r : Req) → Process → r.Resp × Process
  | .loadLibrary path, s => s.load found path
  | .getModuleHandle name, s => (s.loader.handle (dllOf name), s)
  | .freeLibrary m, s => ((), ⟨s.world.free m, s.loader.unmap m⟩)
  | .setDllDirectory path, s => ((), ⟨s.world, { s.loader with directory := path }⟩)
  | r, s => ((obliging r s.world).1, ⟨(obliging r s.world).2, s.loader⟩)

lemma respond_load (s : Process) (found : Dll → Bool) (path : List Cell) :
    counted.respond s (.loadLibrary path) (s.load found path).1 (s.load found path).2 := by
  unfold Process.load
  by_cases h : found (dllOf path)
  · rw [if_pos h]
    exact ⟨Or.inr ⟨_, rfl, rfl, rfl⟩, Or.inr ⟨_, rfl, fun _ => rfl, rfl, rfl⟩⟩
  · rw [if_neg h]
    exact ⟨Or.inl ⟨rfl, rfl⟩, Or.inl ⟨rfl, rfl⟩⟩

lemma respond_answering (found : Dll → Bool) (r : Req) (s : Process) :
    counted.respond s r (answering found r s).1 (answering found r s).2 := by
  have hworld := responds_obliging r s.world
  cases r with
  | loadLibrary path => exact respond_load s found path
  | getModuleHandle name =>
    refine ⟨⟨?_, rfl⟩, rfl, rfl⟩
    change s.loader.handle (dllOf name) = none ∨
      ∃ m : HMODULE, m.dll = dllOf name ∧ s.loader.handle (dllOf name) = some m
    unfold Loader.handle
    by_cases h : s.loader.count (dllOf name) = 0
    · exact Or.inl (if_pos h)
    · exact Or.inr ⟨_, rfl, if_neg h⟩
  | freeLibrary | setDllDirectory => exact ⟨rfl, rfl⟩
  | readZmq | writeZmq | readTb | writeTb | getProcAddress | enter | host | zmq | allocBstr | store
  | fetch | literalAddr => exact ⟨hworld, rfl⟩

lemma executes_answering {α : Type} (found : Dll → Bool) {p : Sdk α} {s : Process} {v : α}
    (h : (p.run (answering found) s).1 = v) :
    counted.Executes p s v (p.run (answering found) s).2 := by
  rw [← h]
  exact executes_run (respond_answering found) p s

/-- A process that was started with a search directory of its own. -/
def toolsProcess : Process where
  world := .initial
  loader := ⟨fun _ => 0, fun _ => 0x10000, some (CString.ofString "C:\\Tools").cells, []⟩

def zmqDirectory : CString := .ofString "zmq"

/-- The process after `ZmqLibraryInit("zmq")`. -/
def loadedFrom (found : Dll → Bool) : Process :=
  ((zmqDynLoadDirectory (some zmqDirectory) 3).run (answering found) toolsProcess).2

lemma executes_missing : counted.Executes (zmqDynLoadDirectory (some zmqDirectory) 3) toolsProcess
    0 (loadedFrom fun _ => false) :=
  executes_answering _ (by decide +kernel)

lemma executes_found : counted.Executes (zmqDynLoadDirectory (some zmqDirectory) 3) toolsProcess
    1 (loadedFrom fun _ => true) :=
  executes_answering _ (by decide +kernel)

theorem zmqDynLoadDirectory_atomic_missing :
    LoadGuarantee (some zmqDirectory) 3 toolsProcess 0 (loadedFrom fun _ => false) :=
  zmqDynLoadDirectory_atomic ⟨.initial, []⟩ .refl trivial toolsProcess.loader _ _ _ _
    executes_missing

/-- The path is looked at before the table, and the search directory that was set is lost, both
when a load fails and when it is undone. -/
theorem zmqDynLoadDirectory_not_atomic :
    (∃ w, process.Reachable World.initial ⟨w, []⟩ ∧ w.zmq.loaded = 1 ∧
      ∀ l, counted.Executes (zmqDynLoadDirectory (some (.ofString "")) 0) ⟨w, l⟩ 0 ⟨w, l⟩) ∧
    (∃ s', counted.Executes (zmqDynLoadDirectory (some zmqDirectory) 3) toolsProcess 0 s' ∧
      s'.loader.directory ≠ toolsProcess.loader.directory) ∧
    (∃ s' s'', counted.Executes (zmqDynLoadDirectory (some zmqDirectory) 3) toolsProcess 1 s' ∧
      counted.Executes zmqDynUnload s' () s'' ∧
      s''.loader.directory ≠ toolsProcess.loader.directory) := by
  obtain ⟨w, hw, hloaded⟩ := reachable_loaded
  have hset : none ≠ toolsProcess.loader.directory := by decide
  have hlost : (loadedFrom fun _ => false).loader.directory = none := by decide +kernel
  have hunload : counted.Executes zmqDynUnload (loadedFrom fun _ => true) () _ :=
    executes_answering (fun _ => true) (Subsingleton.elim _ _)
  refine ⟨⟨w, hw, hloaded, ?_⟩, ⟨_, executes_missing, ?_⟩, ⟨_, _, executes_found, hunload, ?_⟩⟩
  · intro l
    have henter : counted.respond ⟨w, l⟩ (.enter (.loadDirectory (some (.ofString "")) 0)) ()
        ⟨w, l⟩ := ⟨rfl, rfl⟩
    exact .step henter .refl
  · rwa [hlost]
  · rwa [(ensures_zmqDynUnload.executes hunload).2.2]

end ThinBasicZmq
