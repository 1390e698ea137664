import ThinBasicZmq.Keywords.Accesses
import ThinBasicZmq.Loader.DllPath
import ThinBasicZmq.Loader.Serializability

/-!
# Memory safety of the module

What each function does to its local arrays is put together: in no run of the process, with
keywords nested in the arguments of others, is there an access that is not inside its array.
-/

namespace ThinBasicZmq

open Interaction System

variable {α : Type}

/-- An access to an array of capacity `cap`. -/
def AccessOf (cap : ℕ) : Req → Prop
  | .store cap' _ _ | .fetch cap' _ _ => cap' = cap
  | _ => False

lemma inBounds_of_access {cap : ℕ} {r : Req} (h : AccessBelow cap r ∧ AccessOf cap r) :
    r.InBounds := by
  cases r with
  | store cap' off len =>
    obtain ⟨hle, rfl⟩ := h
    exact hle
  | fetch cap' i cell =>
    obtain ⟨⟨hi, hcell⟩, rfl⟩ := h
    exact ⟨hi, hcell⟩
  | _ => exact h.1.elim

lemma scanNul_access (cells : List Cell) (n i : ℕ) :
    (scanNul cells n i).Only (AccessOf cells.length) := by
  induction n generalizing i with
  | zero => trivial
  | succ n ih => exact ⟨rfl, fun x => .ite trivial (ih _)⟩

lemma zmqTrimLoop_access (path : List Cell) (len : ℕ) :
    (zmqTrimLoop path len).Only (AccessOf path.length) := by
  induction len generalizing path with
  | zero => trivial
  | succ len ih =>
    refine ⟨rfl, fun x => ?_⟩
    apply Prog.Only.ite
    · refine ⟨rfl, fun _ => ?_⟩
      have hloop := ih (Memory.put path len [0])
      rwa [Memory.length_put] at hloop
    · trivial

lemma zmqTrimTrailingSlashes_access (path : List Cell) (maxLen : ℕ) :
    (zmqTrimTrailingSlashes path maxLen).Only (AccessOf path.length) := by
  apply Prog.Only.ite
  · trivial
  apply (scanNul_access path maxLen 0).bind
  intro len
  apply Prog.Only.ite
  · exact ⟨rfl, fun _ => trivial⟩
  · exact zmqTrimLoop_access path len

/-- The trimmed copy of a directory is a string. -/
lemma inBounds_trim {t : List UInt8} (h0 : 0 ∉ t) (ht : t.length < MAX_PATH) :
    InBounds (zmqTrimTrailingSlashes (terminated MAX_PATH t) MAX_PATH) fun folder =>
      ∃ rest, folder = (trimSlashes t).map some ++ some 0 :: rest := by
  have hsettles := (zmqTrimTrailingSlashes_terminated h0 ht
    (List.replicate (MAX_PATH - (t.length + 1)) none)).and (zmqTrimTrailingSlashes_access _ _)
  rw [clearSlashes_append_zero] at hsettles
  apply hsettles.guarantees _ ⟨_, rfl⟩
  have hlen : (terminated MAX_PATH t).length = MAX_PATH := length_terminated ht
  intro r hr
  exact inBounds_of_access ⟨hr.1, hlen ▸ hr.2⟩

lemma inBounds_store {cells : List Cell} {off : ℕ} {bytes : List UInt8}
    (h : off + bytes.length ≤ cells.length) : InBounds (store cells off bytes) fun _ => True :=
  (store_settles cells h).guarantees (fun _ => StoreWithin.inBounds) trivial

lemma inBounds_snprintf {cap : ℕ} {t : List UInt8} {rest : List Cell} (h0 : 0 ∉ t)
    (suffix : CString) :
    InBounds (snprintf (localArray cap) (t.map some ++ some 0 :: rest) suffix) fun _ => True := by
  let str : List Cell := t.map some ++ some 0 :: rest
  have hscan : InBounds (scanNul str str.length 0) fun n => n = t.length := by
    have hsettles : (scanNul str str.length 0).Settles (FetchWritten str.length) (0 + t.length) :=
      scanNul_settles rfl h0 (by simp [str])
    exact hsettles.guarantees (fun _ => FetchWritten.inBounds) (Nat.zero_add _)
  have hbytes : InBounds (fetchBytes str t.length 0) fun _ => True := by
    have hsettles : (fetchBytes str t.length 0).Settles (FetchWritten str.length) t :=
      fetchBytes_settles rfl
    exact hsettles.guarantees (fun _ => FetchWritten.inBounds) trivial
  apply hscan.bind
  rintro _ rfl
  apply hbytes.bind
  intro s _
  apply Prog.Guarantees.ite
  · intro hlt
    apply (inBounds_store _).bind
    · intro _ _
      trivial
    · simp at hlt ⊢
      omega
  intro hge
  apply Prog.Guarantees.ite
  · intro heq
    apply (inBounds_store _).bind
    · intro _ _
      trivial
    · omega
  · intro _
    apply (inBounds_store _).bind
    · intro _ _
      trivial
    · simp

/-- A request that is about no memory of the module. -/
def NoMemory : Req → Prop
  | .store _ _ _ | .fetch _ _ _ | .zmq _ _ | .getModuleHandle _ | .setDllDirectory (some _) => False
  | _ => True

lemma NoMemory.inBounds {r : Req} (h : NoMemory r) : r.InBounds := by
  match r with
  | .store _ _ _ | .fetch _ _ _ | .zmq _ _ | .getModuleHandle _ | .setDllDirectory (some _) =>
    exact h.elim
  | .readZmq | .writeZmq _ | .readTb | .writeTb _ | .getProcAddress _ _ | .loadLibrary _
  | .freeLibrary _ | .setDllDirectory none | .enter _ | .host _ _ | .allocBstr _ _
  | .literalAddr _ => trivial

lemma inBounds_zmqDynLoadDirectory (path : ParsedString) :
    InBounds (zmqDynLoadDirectory (some path.ptr) path.len) fun _ => True := by
  refine ⟨trivial, fun _ _ => ?_⟩
  apply Prog.Guarantees.ite
  · intro _
    trivial
  intro hguard
  have hlen : path.len.toNat < MAX_PATH := Nat.not_le.mp (not_or.mp hguard).2
  have hstrlen : path.ptr.text.length < MAX_PATH := by rwa [path.ptr.length_text, ← path.toNat_len]
  refine ⟨trivial, fun g _ => ?_⟩
  apply Prog.Guarantees.ite
  · intro _
    trivial
  intro _
  have hcopy : ∀ f : List Cell → Sdk LONG, (memcpy (localArray MAX_PATH) path.ptr path.len >>=
      fun folder => store folder path.len.toNat [0] >>= f) = copyString MAX_PATH path >>= f :=
    fun f => (bind_assoc _ _ _).symm
  rw [hcopy]
  apply closed_inBounds.afterCopy hlen
  apply (inBounds_trim path.ptr.zero_notMem_text hstrlen).bind
  rintro _ ⟨rest, rfl⟩
  have h0 := zero_notMem_trimSlashes path.ptr.zero_notMem_text
  apply (inBounds_snprintf h0 libzmqDll).bind
  intro (n, dllPath) _
  apply Prog.Guarantees.ite
  · intro _
    trivial
  intro _
  have hfolder : Memory.cstring? ((trimSlashes path.ptr.text).map some ++ some 0 :: rest) ≠ none := by
    rw [Memory.cstring?_append_zero h0]
    exact Option.some_ne_none _
  refine ⟨hfolder, fun _ _ => ⟨trivial, fun m _ => ⟨trivial, fun g _ => ⟨trivial, fun _ _ => ?_⟩⟩⟩⟩
  apply Prog.Only.guarantees _ fun _ => NoMemory.inBounds
  apply Prog.Only.ite
  · exact ⟨trivial, fun _ => trivial⟩
  apply (zmqBindRequiredSymbols_only trivial (fun _ => trivial) fun _ _ => trivial).bind
  intro ok
  apply Prog.Only.ite
  · exact ⟨trivial, fun _ => ⟨trivial, fun _ => ⟨trivial, fun _ => ⟨trivial, fun _ =>
      ⟨trivial, fun _ => trivial⟩⟩⟩⟩⟩
  · exact ⟨trivial, fun _ => ⟨trivial, fun _ => trivial⟩⟩

lemma inBounds_exec (k : Keyword) : InBounds k.exec fun _ => True := by
  have htext : InBounds (parseCall k.signature) fun _ => True :=
    (parseCall_only _).guarantees fun _ => AsksText.inBounds
  rw [k.exec_eq_transact, transact_eq_parseCall]
  apply htext.bind
  intro parsed _
  cases parsed with
  | none =>
    cases k.body with
    | long fail act => trivial
    | bstr act => exact inBounds_map closed_inBounds.tbReturnEmpty _
  | some args =>
    by_cases hinit : k = .zmqLibraryInit
    · subst hinit
      exact inBounds_map (inBounds_zmqDynLoadDirectory args.1) _
    · exact inBounds_action hinit args

lemma inBounds_libraryName (name : List Cell) (h : name = thinCoreDll ∨ name = oleaut32Dll) :
    (Req.getModuleHandle name).InBounds := by
  rcases h with rfl | rfl
  · change Memory.cstring? thinCoreDll ≠ none
    decide
  · change Memory.cstring? oleaut32Dll ≠ none
    decide

lemma inBounds_loadLocalSymbols : loadLocalSymbols.Only Req.InBounds :=
  loadLocalSymbols_only trivial (fun _ => trivial) (fun _ _ => trivial) inBounds_libraryName
    (fun _ => trivial) (fun _ => trivial) fun _ _ _ => trivial

lemma inBounds_unLoadLocalSymbols : unLoadLocalSymbols.Only Req.InBounds :=
  unLoadLocalSymbols_only trivial (fun _ => trivial) inBounds_libraryName (fun _ => trivial)
    zmqDynUnload_inBounds

/-- The hosted module over a libzmq that keeps to its documentation. -/
def documented : System Req.Resp Process Returned where
  respond s r x s' := hosted.respond s r x s' ∧ r.Answered x
  fault := hosted.fault
  reentrant := hosted.reentrant
  opens := hosted.opens
  nests := hosted.nests

lemma inBounds_of_started {p : Sdk Returned} (h : Started p) : InBounds p fun _ => True := by
  cases h with
  | load => exact inBounds_map (inBounds_loadLocalSymbols.guarantees fun _ => id) _
  | unload => exact inBounds_map (inBounds_unLoadLocalSymbols.guarantees fun _ => id) _
  | keyword k => exact inBounds_map (inBounds_exec k) _

/-- In every run of the process, whatever the host, the loader and libzmq answer, every access to
a local array is inside of it, every byte that is read was written before, and every pointer to an
array of the module or to a string of the host that libzmq is given is to memory of the size that
it reads or writes. The addresses that a script gives as numbers are passed on as they are. -/
theorem accesses_inBounds (s : Process) (c : Config Req.Resp Process Returned)
    (hc : documented.Reachable s c) (r : Req) (next : r.Resp → Sdk Returned)
    (fs : List (Sdk Returned)) (hframes : c.frames = .ask r next :: fs) : r.InBounds := by
  have hall : ∀ p ∈ c.frames, InBounds p fun _ => True := by
    apply guarantees_reachable _ _ _ hc
    · intro w r x w' hx
      exact hx.2
    · intro w p hp
      exact inBounds_of_started (started_of_opens hp)
    · rintro w p ⟨k, rfl⟩
      exact inBounds_of_started (.keyword k)
  rw [hframes] at hall
  exact (hall _ List.mem_cons_self).1

lemma answered_answering (found : Dll → Bool) (r : Req) (s : Process) :
    r.Answered (answering found r s).1 := by
  cases r with
  | zmq fn c =>
    cases c with
    | recv | curvePublic => exact fun h => absurd h (by decide)
    | z85Encode => exact fun h => absurd rfl h
    | _ => trivial
  | _ => trivial

lemma respond_documented (r : Req) (s : Process) : documented.respond s r
    (answering (fun _ => true) r s).1 (answering (fun _ => true) r s).2 :=
  ⟨respond_answering _ r s, answered_answering _ r s⟩

/-- A script has loaded libzmq. -/
def bootedBy (n : ℕ) : Process :=
  (Keyword.zmqLibraryInit.program.run (answering fun _ => true) (hostedBy n)).2

def Ev.zmqCall? : Ev → Option ZmqCall
  | ⟨.zmq _ c, _⟩ => some c
  | _ => none

/-- `ZmqBind` has checked and copied its endpoint, and is about to pass the copy to libzmq. -/
theorem accesses_inBounds_bind : ∃ s fn next, documented.Reachable (bootedBy 1)
      ⟨s, [.ask (.zmq fn (.bind 0 (.arr (terminated MAX_PATH zmqDirectory.text)))) next]⟩ ∧
    (Ref.arr (terminated MAX_PATH zmqDirectory.text)).Terminated := by
  have hopens : documented.opens (bootedBy 1) Keyword.zmqBind.program := by
    refine Or.inr (Or.inr ⟨?_, .zmqBind, rfl⟩)
    have hloaded : (bootedBy 1).world.tb.loaded = 1 := by decide +kernel
    rw [hloaded]
    decide
  have hcalls : (Keyword.zmqBind.program.events (answering fun _ => true) (bootedBy 1)).filterMap
      Ev.zmqCall? = [.bind 0 (.arr (terminated MAX_PATH zmqDirectory.text))] := by
    decide +kernel
  obtain ⟨e, he, hcall⟩ := List.mem_filterMap.mp (hcalls ▸ List.mem_singleton_self _)
  obtain ⟨s, next, hsteps⟩ := documented.steps_events respond_documented _ _ [] he
  have hreach := hsteps.head (.start hopens)
  obtain ⟨r, x⟩ := e
  cases r with
  | zmq fn c =>
    obtain rfl : c = _ := Option.some.inj hcall
    exact ⟨s, fn, next, hreach, accesses_inBounds (bootedBy 1) _ hreach _ _ _ rfl⟩
  | _ => cases hcall

end ThinBasicZmq
