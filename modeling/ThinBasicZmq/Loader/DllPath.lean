import ThinBasicZmq.Keywords.StrictTransaction
import ThinBasicZmq.Loader.TrimSlashes

/-!
# The path of libzmq.dll

The directory that a script names is copied, freed of its trailing slashes, and extended by
the name of the library, in two arrays of `MAX_PATH` bytes.
-/

namespace ThinBasicZmq

open Interaction

/-- What is asked of a run of `zmq_dyn_load_directory` at an unloaded library: the path given
to `LoadLibraryA` and the directory given to `SetDllDirectoryA` are complete strings, and a
path that has no room is refused. -/
structure PathCorrect (dir : List UInt8) (tr : List Ev) (v : LONG) : Prop where
  path : ∀ before m path after, tr = before ++ ⟨.loadLibrary path, m⟩ :: after →
    path.length = MAX_PATH ∧
      Memory.cstring? path = some (trimSlashes dir ++ libzmqDll.text) ∧
      ∃ folder, ⟨.setDllDirectory (some folder), ()⟩ ∈ before ∧
        Memory.cstring? folder = some (trimSlashes dir)
  directory : ∀ e ∈ tr, ∀ folder, e.request = .setDllDirectory (some folder) →
    Memory.cstring? folder = some (trimSlashes dir)
  refused : MAX_PATH < (trimSlashes dir ++ libzmqDll.text).length + 1 →
    v = 0 ∧ ∀ e ∈ tr, ∀ path, e.request ≠ .loadLibrary path

lemma zmqTrimTrailingSlashes_settles {t : List UInt8} (h0 : 0 ∉ t) (ht : t.length < MAX_PATH) :
    ∃ rest, (zmqTrimTrailingSlashes (terminated MAX_PATH t) MAX_PATH).Settles IsLocal
      ((trimSlashes t).map some ++ some 0 :: rest) := by
  have hsettles := (zmqTrimTrailingSlashes_terminated h0 ht
    (List.replicate (MAX_PATH - (t.length + 1)) none)).mono fun _ => AccessBelow.isLocal
  rw [clearSlashes_append_zero] at hsettles
  exact ⟨_, hsettles⟩

/-- The result of `_snprintf` into a fresh array of `cap` bytes. -/
def formatted (cap : ℕ) (out : List UInt8) : ℤ × List Cell :=
  if out.length < cap then (out.length, terminated cap out)
  else if out.length = cap then (out.length, out.map some)
  else (-1, (out.take cap).map some)

lemma formatted_of_lt {cap : ℕ} {out : List UInt8} (h : out.length < cap) :
    formatted cap out = ((out.length : ℤ), terminated cap out) := if_pos h

lemma formatted_of_eq {cap : ℕ} {out : List UInt8} (h : out.length = cap) :
    formatted cap out = ((out.length : ℤ), out.map some) := by
  rw [formatted, if_neg (by omega), if_pos h]

lemma formatted_of_gt {cap : ℕ} {out : List UInt8} (h : cap < out.length) :
    formatted cap out = (-1, (out.take cap).map some) := by
  rw [formatted, if_neg (by omega), if_neg (by omega)]

private lemma put_localArray {cap : ℕ} {out : List UInt8} (h : out.length = cap) :
    Memory.put (localArray cap) 0 out = out.map some := by
  rw [Memory.put_zero (by simp [h]), List.drop_of_length_le (by simp [h]), List.append_nil]

lemma snprintf_settles {cap : ℕ} {t : List UInt8} {rest : List Cell} (h0 : 0 ∉ t)
    (suffix : CString) :
    (snprintf (localArray cap) (t.map some ++ some 0 :: rest) suffix).Settles IsLocal
      (formatted cap (t ++ suffix.text)) := by
  let str : List Cell := t.map some ++ some 0 :: rest
  have hscan : (scanNul str str.length 0).Settles IsLocal (0 + t.length) :=
    (scanNul_settles rfl h0 (by simp [str])).mono fun _ => FetchWritten.isLocal
  have hbytes : (fetchBytes str t.length 0).Settles IsLocal t :=
    (fetchBytes_settles rfl).mono fun _ => FetchWritten.isLocal
  rw [Nat.zero_add] at hscan
  apply hscan.bind
  apply hbytes.bind
  have hstore : ∀ bytes : List UInt8, bytes.length ≤ cap →
      (store (localArray cap) 0 bytes).Settles IsLocal (Memory.put (localArray cap) 0 bytes) := by
    intro bytes hb
    exact (store_settles _ (by simpa using hb)).mono fun _ => StoreWithin.isLocal
  let out := t ++ suffix.text
  rw [length_localArray]
  rcases lt_trichotomy out.length cap with hlt | heq | hgt
  · have hroom : (out ++ [0]).length ≤ cap := by
      rw [List.length_append]
      exact hlt
    have hput : Memory.put (localArray cap) 0 (out ++ [0]) = terminated cap out := by
      rw [Memory.put_zero (by rwa [length_localArray])]
      simp [terminated, localArray]
    rw [formatted_of_lt hlt, if_pos hlt, ← hput]
    exact (hstore _ hroom).bind rfl
  · rw [formatted_of_eq heq, if_neg heq.not_lt, if_pos heq, ← put_localArray heq]
    exact (hstore _ heq.le).bind rfl
  · have htake : (out.take cap).length = cap := by
      rw [List.length_take]
      omega
    rw [formatted_of_gt hgt, if_neg hgt.not_gt, if_neg hgt.ne', ← put_localArray htake]
    exact (hstore _ htake.le).bind rfl

/-- The function from its call of `SetDllDirectoryA` on. -/
private def loadFrom (folder dllPath : List Cell) : Sdk LONG := do
  ask (.setDllDirectory (some folder))
  let m : Option HMODULE ← ask (.loadLibrary dllPath)
  let g ← ask .readZmq
  ask (.writeZmq { g with module := m })
  if m = none then
    ask (.setDllDirectory none)
    return 0
  if !(← zmqBindRequiredSymbols) then
    let g ← ask .readZmq
    ask (.freeLibrary g.module)
    ask (.writeZmq { g with module := none })
    ask (.setDllDirectory none)
    ask (.writeZmq .zero)
    return 0
  let g ← ask .readZmq
  ask (.writeZmq { g with loaded := 1 })
  return 1

/-- Neither a library is loaded nor a directory set. -/
private def NoLoad : Req → Prop
  | .loadLibrary _ | .setDllDirectory (some _) => False
  | _ => True

private lemma IsLocal.noLoad {r : Req} (h : IsLocal r) : NoLoad r := by
  cases r <;> trivial

private lemma NoLoad.ne_load {r : Req} (h : NoLoad r) (path : List Cell) :
    r ≠ .loadLibrary path := by
  rintro rfl
  exact h

private lemma NoLoad.ne_set {r : Req} (h : NoLoad r) (folder : List Cell) :
    r ≠ .setDllDirectory (some folder) := by
  rintro rfl
  exact h

private lemma loadFrom_trace {folder dllPath : List Cell} {tr : List Ev} {v : LONG}
    (h : (loadFrom folder dllPath).Trace tr v) : ∃ m rest,
      tr = ⟨.setDllDirectory (some folder), ()⟩ :: ⟨.loadLibrary dllPath, m⟩ :: rest ∧
        ∀ e ∈ rest, NoLoad e.request := by
  obtain ⟨_, _, rfl, m, rest, rfl, h⟩ := h
  refine ⟨m, rest, rfl, Prog.Only.trace ?_ h⟩
  refine ⟨trivial, fun g => ⟨trivial, fun _ => .ite ⟨trivial, fun _ => trivial⟩ ?_⟩⟩
  have hbind : zmqBindRequiredSymbols.Only NoLoad :=
    zmqBindRequiredSymbols_only trivial (fun _ => trivial) fun _ _ => trivial
  apply hbind.bind
  intro ok
  apply Prog.Only.ite
  · exact ⟨trivial, fun _ => ⟨trivial, fun _ => ⟨trivial, fun _ => ⟨trivial, fun _ =>
      ⟨trivial, fun _ => trivial⟩⟩⟩⟩⟩
  · exact ⟨trivial, fun _ => ⟨trivial, fun _ => trivial⟩⟩

/-- The first two events of every run with `0 < dirLen < MAX_PATH`. -/
def openingEvents (dir : CString) (dirLen : DWORD) (t : ZmqApiTable) : List Ev :=
  [⟨.enter (.loadDirectory (some dir) dirLen), ()⟩, ⟨.readZmq, t⟩]

/-- At an unloaded library the two arrays are prepared first, and then either the path was
too long or the library is loaded. -/
private lemma loadDirectory_trace {dir : CString} {dirLen : DWORD}
    (hdir : dirLen.toNat = dir.strlen) (hpos : 0 < dirLen) (hmax : dirLen.toNat < MAX_PATH)
    {t : ZmqApiTable} (ht : t.loaded = 0) {rest : List Ev} {v : LONG}
    (h : (zmqDynLoadDirectory (some dir) dirLen).Trace (openingEvents dir dirLen t ++ rest) v) :
    ∃ folder tr₁ tr₂, rest = tr₁ ++ tr₂ ∧ (∀ e ∈ tr₁, IsLocal e.request) ∧
      Memory.cstring? folder = some (trimSlashes dir.text) ∧
      (let out := formatted MAX_PATH (trimSlashes dir.text ++ libzmqDll.text)
       (if out.1 < 0 then pure 0 else loadFrom folder out.2).Trace tr₂ v) := by
  have hdir0 : 0 ∉ dir.text := dir.zero_notMem_text
  have hlen : dir.text.length < MAX_PATH := by rwa [dir.length_text, ← hdir]
  let s : ParsedString := ⟨dir, by rw [← dir.length_text]; exact hlen.trans (by decide)⟩
  have hs : s.len = dirLen := by
    rw [← UInt32.toNat_inj, s.toNat_len, hdir]
  obtain ⟨tail, htrim⟩ := zmqTrimTrailingSlashes_settles hdir0 hlen
  obtain ⟨_, _, hcons, h⟩ := h
  obtain ⟨-, rfl⟩ := List.cons.inj hcons
  rcases Prog.trace_ite h with ⟨hg, -⟩ | ⟨-, t', rest', hcons', h⟩
  · rcases hg with h0 | hbig
    · exact absurd hpos (by simp [h0])
    · exact absurd hmax (Nat.not_lt.mpr hbig)
  obtain ⟨hread, rfl⟩ := List.cons.inj hcons'
  obtain rfl : t = t' := by injection hread
  rcases Prog.trace_ite h with ⟨hl, -⟩ | ⟨-, h⟩
  · exact absurd ht hl
  have hprepare : (copyString MAX_PATH s >>= fun folder =>
      zmqTrimTrailingSlashes folder MAX_PATH >>= fun folder =>
        snprintf (localArray MAX_PATH) folder libzmqDll >>= fun out =>
          if out.1 < 0 then pure 0 else loadFrom folder out.2).Trace rest v := by
    rw [copyString, hs, bind_assoc]
    exact h
  obtain ⟨tr₁, tr₂, rfl, h₁, h₂⟩ := (copyString_settles hlen).trace_bind hprepare
  obtain ⟨tr₃, tr₄, rfl, h₃, h₄⟩ := htrim.trace_bind h₂
  obtain ⟨tr₅, tr₆, rfl, h₅, h₆⟩ :=
    (snprintf_settles (zero_notMem_trimSlashes hdir0) libzmqDll).trace_bind h₄
  refine ⟨_, tr₁ ++ (tr₃ ++ tr₅), tr₆, by simp, ?_, ?_, h₆⟩
  · have hcopy : ∀ e ∈ tr₁, IsLocal e.request := fun e he => (h₁ e he).isLocal
    exact List.forall_mem_append.mpr ⟨hcopy, List.forall_mem_append.mpr ⟨h₃, h₅⟩⟩
  · exact Memory.cstring?_append_zero (zero_notMem_trimSlashes hdir0) _

private lemma pathCorrect_of_load {dir : List UInt8} {pre tail : List Ev} {v : LONG}
    {folder dllPath : List Cell} {m : Option HMODULE} (hpre : ∀ e ∈ pre, NoLoad e.request)
    (htail : ∀ e ∈ tail, NoLoad e.request) (hlength : dllPath.length = MAX_PATH)
    (hpath : Memory.cstring? dllPath = some (trimSlashes dir ++ libzmqDll.text))
    (hfolder : Memory.cstring? folder = some (trimSlashes dir))
    (hroom : ¬ MAX_PATH < (trimSlashes dir ++ libzmqDll.text).length + 1) :
    PathCorrect dir
      (pre ++ ⟨.setDllDirectory (some folder), ()⟩ :: ⟨.loadLibrary dllPath, m⟩ :: tail) v := by
  refine ⟨?_, ?_, fun h => absurd h hroom⟩
  · -- The only event of this kind is the one shown.
    intro before m' path after heq
    rcases append_eq_append_cons heq with ⟨mid, h₁, -⟩ | ⟨mid, rfl, h₂⟩
    · exact absurd rfl ((hpre ⟨.loadLibrary path, m'⟩ (by rw [h₁]; simp)).ne_load path)
    rcases mid with _ | ⟨e₁, _ | ⟨e₂, mid⟩⟩
    · cases h₂
    · obtain ⟨rfl, h₃⟩ := List.cons.inj h₂
      obtain ⟨h₄, -⟩ := List.cons.inj h₃
      injection h₄ with h₄
      injection h₄ with h₄
      subst h₄
      exact ⟨hlength, hpath, folder, by simp, hfolder⟩
    · obtain ⟨-, h₃⟩ := List.cons.inj h₂
      obtain ⟨-, h₄⟩ := List.cons.inj h₃
      exact absurd rfl ((htail ⟨.loadLibrary path, m'⟩ (by rw [h₄]; simp)).ne_load path)
  · intro e he folder' hreq
    rcases List.mem_append.mp he with he | he
    · exact absurd hreq ((hpre e he).ne_set _)
    rcases List.mem_cons.mp he with rfl | he
    · injection hreq with hreq
      injection hreq with hreq
      rwa [← hreq]
    rcases List.mem_cons.mp he with rfl | he
    · cases hreq
    · exact absurd hreq ((htail e he).ne_set _)

private lemma pathCorrect_of_no_load {dir : List UInt8} {tr : List Ev}
    (h : ∀ e ∈ tr, NoLoad e.request) : PathCorrect dir tr 0 := by
  refine ⟨?_, ?_, fun _ => ⟨rfl, ?_⟩⟩
  · rintro before m path after rfl
    exact (h ⟨.loadLibrary path, m⟩ (by simp)).elim
  · exact fun e he folder hreq => absurd hreq ((h e he).ne_set folder)
  · exact fun e he path => (h e he).ne_load path

private lemma length_composed (dir : List UInt8) :
    (trimSlashes dir ++ libzmqDll.text).length = MAX_PATH ↔ (trimSlashes dir).length = 249 := by
  have hsuffix : libzmqDll.text.length = 11 := by decide
  rw [List.length_append, hsuffix, MAX_PATH]
  omega

section

variable {dir : CString} {dirLen : DWORD} {t : ZmqApiTable} {rest : List Ev} {v : LONG}

lemma pathCorrect_of_length_ne (hdir : dirLen.toNat = dir.strlen) (hpos : 0 < dirLen)
    (hmax : dirLen.toNat < MAX_PATH) (ht : t.loaded = 0)
    (h : (zmqDynLoadDirectory (some dir) dirLen).Trace (openingEvents dir dirLen t ++ rest) v)
    (hne : (trimSlashes dir.text).length ≠ 249) :
    PathCorrect dir.text (openingEvents dir dirLen t ++ rest) v := by
  obtain ⟨folder, tr₁, tr₂, rfl, hlocal, hfolder, hload⟩ := loadDirectory_trace hdir hpos hmax ht h
  have hpre : ∀ e ∈ openingEvents dir dirLen t ++ tr₁, NoLoad e.request := by
    have hopening : ∀ e ∈ openingEvents dir dirLen t, NoLoad e.request := by
      simp [openingEvents, NoLoad]
    intro e he
    rcases List.mem_append.mp he with he | he
    · exact hopening e he
    · exact (hlocal e he).noLoad
  have hout0 : 0 ∉ trimSlashes dir.text ++ libzmqDll.text := by
    intro hm
    rcases List.mem_append.mp hm with hm | hm
    · exact zero_notMem_trimSlashes dir.zero_notMem_text hm
    · exact libzmqDll.zero_notMem_text hm
  rw [← List.append_assoc]
  dsimp only at hload
  rcases lt_trichotomy (trimSlashes dir.text ++ libzmqDll.text).length MAX_PATH with
    hlt | heq | hgt
  · rw [formatted_of_lt hlt, if_neg (Int.not_lt.mpr (Int.natCast_nonneg _))] at hload
    obtain ⟨m, tail, rfl, htail⟩ := loadFrom_trace hload
    exact pathCorrect_of_load hpre htail (length_terminated hlt)
      (cstring?_terminated hout0 MAX_PATH) hfolder (Nat.not_lt.mpr hlt)
  · exact absurd ((length_composed _).mp heq) hne
  · rw [formatted_of_gt hgt, if_pos (by decide : (-1 : ℤ) < 0)] at hload
    obtain ⟨rfl, rfl⟩ := hload
    rw [List.append_nil]
    exact pathCorrect_of_no_load hpre

/-- The path fills the array and has no terminator, and the library is loaded from it. -/
lemma not_pathCorrect_of_length_eq (hdir : dirLen.toNat = dir.strlen) (hpos : 0 < dirLen)
    (hmax : dirLen.toNat < MAX_PATH) (ht : t.loaded = 0)
    (h : (zmqDynLoadDirectory (some dir) dirLen).Trace (openingEvents dir dirLen t ++ rest) v)
    (heq : (trimSlashes dir.text).length = 249) :
    ¬ PathCorrect dir.text (openingEvents dir dirLen t ++ rest) v := by
  obtain ⟨folder, tr₁, tr₂, rfl, -, -, hload⟩ := loadDirectory_trace hdir hpos hmax ht h
  have hout := (length_composed _).mpr heq
  dsimp only at hload
  rw [formatted_of_eq hout, if_neg (Int.not_lt.mpr (Int.natCast_nonneg _))] at hload
  obtain ⟨m, tail, rfl, -⟩ := loadFrom_trace hload
  intro hcorrect
  have hno := (hcorrect.refused (hout ▸ Nat.lt_succ_self _)).2
  exact absurd rfl (hno ⟨.loadLibrary _, m⟩ (by simp) _)

end

/-- At an unloaded library, the path and the directory are right exactly if the trimmed
directory does not have 249 bytes, the length at which the 11 bytes of `\libzmq.dll` fill the
array. -/
theorem loadDirectory_pathCorrect_iff (dir : CString) (dirLen : DWORD)
    (hdir : dirLen.toNat = dir.strlen) (hpos : 0 < dirLen) (hmax : dirLen.toNat < MAX_PATH)
    (t : ZmqApiTable) (ht : t.loaded = 0) (rest : List Ev) (v : LONG)
    (h : (zmqDynLoadDirectory (some dir) dirLen).Trace (openingEvents dir dirLen t ++ rest) v) :
    PathCorrect dir.text (openingEvents dir dirLen t ++ rest) v ↔
      (trimSlashes dir.text).length ≠ 249 := by
  constructor
  · intro hcorrect heq
    exact not_pathCorrect_of_length_eq hdir hpos hmax ht h heq hcorrect
  · exact pathCorrect_of_length_ne hdir hpos hmax ht h

/-- A session in which nothing was resolved. -/
private def unloaded : Session Unit := ⟨[], .zero, .zero, ()⟩

private def loadEvents (dir : CString) (dirLen : DWORD) : List Ev :=
  (zmqDynLoadDirectory (some dir) dirLen).events (Host.bare.answer fun c s => (c.failed, s))
    unloaded

private lemma loadEvents_trace {dir : CString} {dirLen : DWORD} (hpos : dirLen ≠ 0)
    (hmax : dirLen.toNat < MAX_PATH) : ∃ rest v,
      (zmqDynLoadDirectory (some dir) dirLen).Trace (openingEvents dir dirLen .zero ++ rest) v := by
  have hopen : (loadEvents dir dirLen).take 2 = openingEvents dir dirLen .zero := by
    have hguard : ¬ (dirLen = 0 ∨ dirLen.toNat ≥ MAX_PATH) := by
      rintro (h | h)
      · exact hpos h
      · exact absurd hmax (Nat.not_lt.mpr h)
    unfold loadEvents zmqDynLoadDirectory
    simp only [Prog.request_bind, Prog.events, if_neg hguard]
    rfl
  have htrace : (zmqDynLoadDirectory (some dir) dirLen).Trace (loadEvents dir dirLen) _ :=
    Prog.trace_events _ _ _
  rw [← List.take_append_drop 2 (loadEvents dir dirLen), hopen] at htrace
  exact ⟨_, _, htrace⟩

theorem loadDirectory_pathCorrect_iff_trailing_slash :
    ∃ rest v, PathCorrect (CString.ofString "C:\\zmq\\").text
      (openingEvents (.ofString "C:\\zmq\\") 7 .zero ++ rest) v := by
  obtain ⟨rest, v, htrace⟩ := @loadEvents_trace (.ofString "C:\\zmq\\") 7 (by decide) (by decide)
  exact ⟨rest, v, (loadDirectory_pathCorrect_iff _ 7 (by decide) (by decide) (by decide) .zero rfl
    rest v htrace).mpr (by decide)⟩

/-- A directory name of 249 letters. -/
theorem loadDirectory_unterminated : ¬ ∀ (dir : CString) (dirLen : DWORD) (t : ZmqApiTable)
    (rest : List Ev) (v : LONG), dirLen.toNat = dir.strlen → 0 < dirLen →
      dirLen.toNat < MAX_PATH → t.loaded = 0 →
      (zmqDynLoadDirectory (some dir) dirLen).Trace (openingEvents dir dirLen t ++ rest) v →
      PathCorrect dir.text (openingEvents dir dirLen t ++ rest) v := by
  intro hall
  let name : List UInt8 := List.replicate 249 97
  have h0 : (0 : UInt8) ∉ name := fun h => absurd (List.eq_of_mem_replicate h) (by decide)
  let dir : CString := .ofBytes name
  have htext : dir.text = name := CString.text_ofBytes h0
  have hdir : (249 : DWORD).toNat = dir.strlen := by
    rw [← dir.length_text, htext, List.length_replicate]
    rfl
  have htrim : trimSlashes dir.text = name := by
    rw [htext, trimSlashes, List.rdropWhile_eq_self_iff]
    intro hne
    rw [List.getLast_replicate]
    decide
  obtain ⟨rest, v, htrace⟩ := @loadEvents_trace dir 249 (by decide) (by decide)
  refine not_pathCorrect_of_length_eq hdir (by decide) (by decide) rfl htrace ?_
    (hall dir 249 .zero rest v hdir (by decide) (by decide) rfl htrace)
  rw [htrim, List.length_replicate]

end ThinBasicZmq
