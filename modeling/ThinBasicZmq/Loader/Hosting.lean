import ThinBasicZmq.Interaction.Serial
import ThinBasicZmq.Keywords.Actions
import ThinBasicZmq.Loader.References

/-!
# The hosted module

The whole life of the module in a process: the host starts its entry points and its keywords,
keywords start other keywords while the host evaluates their arguments, and everything the
module does apart from asking for the text of a call is written down.
-/

namespace ThinBasicZmq

open Interaction System

/-- What the host gets back. -/
inductive Returned
  | entry (v : DWORD)
  | keyword (k : Keyword) (v : Value)

/-- The programs of the module, with their results. -/
inductive Started : Sdk Returned → Prop
  | load : Started (.entry <$> loadLocalSymbols)
  | unload : Started (.entry <$> unLoadLocalSymbols)
  | keyword (k : Keyword) : Started (.keyword k <$> k.exec)

/-- The host starts entry points, and keywords while `g_tb` is loaded. While it evaluates an
argument it starts keywords only. -/
def hosted : System Req.Resp Process Returned where
  respond := counted.respond
  fault s := s.world.Faults
  reentrant := Req.IsArgument
  opens s p := p = .entry <$> loadLocalSymbols ∨ p = .entry <$> unLoadLocalSymbols ∨
    s.world.tb.loaded ≠ 0 ∧ ∃ k : Keyword, p = .keyword k <$> k.exec
  nests _ p := ∃ k : Keyword, p = .keyword k <$> k.exec

/-- The same, with a history of everything but the requests for the text of the calls. -/
def history : System Req.Resp (Process × List Ev) Returned := hosted.logged AsksText

lemma started_of_opens {s : Process} {p : Sdk Returned} (h : hosted.opens s p) : Started p := by
  rcases h with rfl | rfl | ⟨-, k, rfl⟩
  · exact .load
  · exact .unload
  · exact .keyword k

variable {α : Type}

/-- No argument is asked for. -/
abbrev NoArgument (p : Sdk α) : Prop := p.Only fun r => ¬ Req.IsArgument r

lemma IsWork.not_argument {r : Req} (h : IsWork r) : ¬ Req.IsArgument r := by
  cases r <;> first | exact id | exact h.elim

/-- Every keyword asks for its parameters first, and for none once it has done something else. -/
lemma defers_exec (k : Keyword) : k.exec.Defers AsksText Req.IsArgument := by
  rw [k.exec_eq_transact, transact_eq_parseCall]
  apply (parseCall_only _).bind_defers
  intro parsed
  cases parsed with
  | none =>
    apply Prog.Only.defers
    apply (failure_result _).mono
    intro r hr
    exact hr.isWork.not_argument
  | some args =>
    apply Prog.Only.defers
    apply action_only
    · intro r hr
      exact hr.not_argument
    · exact zmqDynLoadDirectory_only (fun _ => IsWork.not_argument) (fun _ => id) (fun _ _ => id)
        (fun _ => id) (fun _ => id) fun _ => id
    · exact zmqDynUnload_only id (fun _ => id) (fun _ => id) (fun _ => id) id

section EntryPoints

variable {P : Req → Prop} (hread : P .readTb) (hwrite : ∀ t, P (.writeTb t))
  (hget : ∀ m name, P (.getProcAddress m name))
  (hname : ∀ name, name = thinCoreDll ∨ name = oleaut32Dll → P (.getModuleHandle name))
  (hload : ∀ path, P (.loadLibrary path)) (hfree : ∀ m, P (.freeLibrary m))

include hread hwrite hget in
lemma tbResolveExports_only (syms : List TbSymbol) : (tbResolveExports syms).Only P := by
  induction syms with
  | nil => trivial
  | cons s syms ih =>
    exact ⟨hread, fun _ => ⟨hget _ _, fun _ => ⟨hread, fun _ => ⟨hwrite _, fun _ => ih⟩⟩⟩⟩

include hname hload in
lemma getOrLoadLibrary_only {name : List Cell} (h : name = thinCoreDll ∨ name = oleaut32Dll) :
    (getOrLoadLibrary name).Only P := by
  refine ⟨hname name h, ?_⟩
  intro (x : Option HMODULE)
  cases x with
  | none => exact ⟨hload _, fun _ => trivial⟩
  | some m => trivial

include hread hwrite hname hfree in
lemma tbThincoreShutdown_only : tbThincoreShutdown.Only P := by
  refine ⟨hread, fun g => ?_⟩
  apply Prog.Only.ite
  · exact ⟨hwrite _, fun _ => trivial⟩
  refine ⟨hname _ (Or.inl rfl), fun current => ?_⟩
  apply Prog.Only.ite
  · exact ⟨hwrite _, fun _ => trivial⟩
  · exact ⟨hfree _, fun _ => ⟨hwrite _, fun _ => trivial⟩⟩

include hread hwrite hget hname hload in
lemma tbResolveAllocBstr_only : tbResolveAllocBstr.Only P := by
  apply (getOrLoadLibrary_only hname hload (Or.inr rfl)).bind
  intro x
  cases x with
  | none => trivial
  | some ole => exact ⟨hget _ _, fun _ => ⟨hread, fun _ => ⟨hwrite _, fun _ => trivial⟩⟩⟩

include hread hwrite hget hname hload hfree in
lemma tbThincoreInit_only : tbThincoreInit.Only P := by
  refine ⟨hread, fun g => ?_⟩
  apply Prog.Only.ite
  · trivial
  apply (getOrLoadLibrary_only hname hload (Or.inl rfl)).bind
  intro m
  refine ⟨hwrite _, fun _ => ?_⟩
  apply Prog.Only.ite
  · trivial
  apply (tbResolveExports_only hread hwrite hget _).bind
  intro _
  apply (tbResolveAllocBstr_only hread hwrite hget hname hload).bind
  intro _
  refine ⟨hread, fun g => ?_⟩
  apply Prog.Only.ite
  · exact (tbThincoreShutdown_only hread hwrite hname hfree).bind fun _ => trivial
  · exact ⟨hwrite _, fun _ => trivial⟩

include hread hwrite hname hfree in
lemma unLoadLocalSymbols_only (hunload : zmqDynUnload.Only P) : unLoadLocalSymbols.Only P :=
  hunload.bind fun _ => (tbThincoreShutdown_only hread hwrite hname hfree).bind fun _ => trivial

variable (hhost : ∀ fn c, ¬ AsksText (.host fn c) → P (.host fn c))

lemma SymbolLine.call_not_text (l : SymbolLine) (fn : FARPROC) : ¬ AsksText (.host fn l.call) := by
  cases l <;> exact id

include hread hhost in
lemma registerSymbols_only (symbols : List SymbolLine) :
    (tbZmqRegisterSymbols symbols).Only P := by
  induction symbols with
  | nil => trivial
  | cons l symbols ih =>
    apply (tbCall_only hread fun _ => hhost _ _ (l.call_not_text _)).bind
    intro _
    exact ih

include hread hhost in
lemma registerEquates_only (equates : List (String × DWORD)) :
    (tbZmqRegisterEquates equates).Only P := by
  induction equates with
  | nil => trivial
  | cons e equates ih =>
    apply (tbCall_only hread fun _ => hhost _ _ id).bind
    intro _
    exact ih

include hread hwrite hget hname hload hfree hhost in
lemma loadLocalSymbols_only : loadLocalSymbols.Only P := by
  apply (tbThincoreInit_only hread hwrite hget hname hload hfree).bind
  intro r
  apply Prog.Only.ite
  · trivial
  apply (registerSymbols_only hread hhost _).bind
  intro _
  apply (registerEquates_only hread hhost _).bind
  intro _
  trivial

end EntryPoints

/-- The host is not called. -/
abbrev NoHost (p : Sdk α) : Prop := p.Only fun r => ¬ IsHost r

lemma tbThincoreInit_noHost : NoHost tbThincoreInit :=
  tbThincoreInit_only id (fun _ => id) (fun _ _ => id) (fun _ _ => id) (fun _ => id) fun _ => id

lemma unLoadLocalSymbols_noHost : NoHost unLoadLocalSymbols := by
  apply unLoadLocalSymbols_only id (fun _ => id) (fun _ _ => id) fun _ => id
  exact zmqDynUnload_only id (fun _ => id) (fun _ => id) (fun _ => id) id

lemma loadLocalSymbols_noArgument : NoArgument loadLocalSymbols := by
  apply loadLocalSymbols_only id (fun _ => id) (fun _ _ => id) (fun _ _ => id) (fun _ => id)
    fun _ => id
  intro fn c hc
  cases c <;> first | exact id | exact absurd trivial hc

lemma unLoadLocalSymbols_noArgument : NoArgument unLoadLocalSymbols := by
  apply unLoadLocalSymbols_noHost.mono
  intro r hr
  cases r <;> first | exact id | exact absurd trivial hr

lemma World.tb_free (w : World) (m : Option HMODULE) : (w.free m).tb = w.tb := by
  unfold World.free
  split
  · rfl
  · split <;> rfl

/-- Only writing `g_tb` changes it. -/
lemma World.Responds.tb_eq {w w' : World} {r : Req} {x : r.Resp} (h : w.Responds r x w')
    (hr : ∀ t, r ≠ .writeTb t) : w'.tb = w.tb := by
  cases r with
  | writeTb t => exact absurd rfl (hr t)
  | loadLibrary path =>
    rcases h with ⟨-, rfl⟩ | ⟨m, -, -, rfl⟩
    · rfl
    · exact World.tb_load w m
  | freeLibrary m =>
    obtain rfl : w' = w.free m := h
    exact World.tb_free w m
  | readZmq | readTb | getProcAddress | getModuleHandle => rw [h.2]
  | writeZmq t =>
    obtain rfl : w' = { w with zmq := t } := h
    rfl
  | setDllDirectory | enter | host | zmq | allocBstr | store | fetch | literalAddr =>
    obtain rfl : w' = w := h
    rfl

/-- What a keyword finds out about the process before it acts. -/
def Process.tb (s : Process) : TbThincoreApi := s.world.tb

/-- `g_tb` is written by the entry points only. -/
lemma exec_respects (k : Keyword) : k.exec.Only (hosted.Respects Process.tb) := by
  have hexec : k.exec.Only fun r => ∀ t, r ≠ .writeTb t := by
    apply exec_requests
    · rintro r hr t rfl
      exact hr
    · rintro r hr t rfl
      exact hr
    · apply zmqDynLoadDirectory_only
      · rintro r hr t rfl
        exact hr
      all_goals simp
    · apply zmqDynUnload_only <;> simp
  apply hexec.mono
  intro r hr s x s' hx
  exact hx.1.tb_eq hr

lemma counted_text (s s' : Process) (r : Req) (x : r.Resp) (hr : AsksText r) (ht : s'.tb = s.tb)
    (h : counted.respond s r x s) : counted.respond s' r x s' := by
  cases r with
  | readTb => exact ⟨⟨h.1.1.trans ht.symm, rfl⟩, rfl⟩
  | host fn c => exact ⟨rfl, rfl⟩
  | _ => exact hr.elim

/-- Keywords look at `g_tb` and at the text of their call, and then act undisturbed. -/
theorem hosted_deferring : hosted.Deferring AsksText Process.tb fun g => g.loaded ≠ 0 where
  still := by
    intro s r x s' hr hx
    apply respond_passive r x s s' _ hx
    cases r <;> trivial
  looks := by
    intro s s' r x hr ht hx
    exact counted_text s s' r x hr ht hx
  opens := by
    rintro s p (rfl | rfl | ⟨hready, k, rfl⟩)
    · left
      rw [map_eq_pure_bind]
      exact loadLocalSymbols_noArgument.bind fun _ => trivial
    · left
      rw [map_eq_pure_bind]
      exact unLoadLocalSymbols_noArgument.bind fun _ => trivial
    · right
      refine ⟨(defers_exec k).map _, hready, ?_⟩
      intro s' hs'
      right
      right
      refine ⟨?_, k, rfl⟩
      rwa [show s'.world.tb = s.world.tb from hs']
  nests := by
    rintro s p ⟨k, rfl⟩
    refine ⟨(defers_exec k).map _, ?_, ?_⟩
    · rw [map_eq_pure_bind]
      exact (exec_respects k).bind fun _ => trivial
    · intro s' hs'
      exact Or.inr (Or.inr ⟨hs', k, rfl⟩)

end ThinBasicZmq
