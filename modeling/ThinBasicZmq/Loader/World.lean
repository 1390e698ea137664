import ThinBasicZmq.Interaction.Reentrant
import ThinBasicZmq.Model.Module

/-!
# The process around the module

The process loader and the host as an environment that answers as it likes: each
`LoadLibraryA`, `GetModuleHandleA` and `GetProcAddress` may fail, and while the host
evaluates an argument it may run other keywords. Calls through pointers that were not
resolved from a mapped library are errors.
-/

namespace ThinBasicZmq

open Interaction

/-- The library that a file name means. -/
def dllOf (path : List Cell) : Dll :=
  if path = thinCoreDll then .thinCore
  else if path = oleaut32Dll then .oleaut32
  else .libzmq

/-- The two tables, and the handles of `libzmq.dll` that were given out and given back, newest
first. -/
structure World where
  zmq : ZmqApiTable
  tb : TbThincoreApi
  loads : List HMODULE
  frees : List HMODULE

namespace World

def initial : World := ⟨.zero, .zero, [], []⟩

/-- The handle was given out more often than it was given back. -/
def Live (w : World) (m : HMODULE) : Prop := w.frees.count m < w.loads.count m

def load (w : World) (m : HMODULE) : World :=
  if m.dll = .libzmq then { w with loads := m :: w.loads } else w

def free (w : World) : Option HMODULE → World
  | none => w
  | some m => if m.dll = .libzmq then { w with frees := m :: w.frees } else w

/-- A handle that may be used: that of `libzmq.dll` only while it is mapped. -/
def Valid (w : World) : Option HMODULE → Prop
  | none => False
  | some m => m.dll = .libzmq → w.Live m

/-- What a request may be answered, and the world after it. -/
def Responds (w : World) : (r : Req) → r.Resp → World → Prop
  | .readZmq, x, w' => x = w.zmq ∧ w' = w
  | .writeZmq t, _, w' => w' = { w with zmq := t }
  | .readTb, x, w' => x = w.tb ∧ w' = w
  | .writeTb t, _, w' => w' = { w with tb := t }
  | .getProcAddress m name, x, w' => (x = none ∨ x = m.map (⟨·, name⟩)) ∧ w' = w
  | .loadLibrary path, x, w' =>
    (x = none ∧ w' = w) ∨ ∃ m : HMODULE, m.dll = dllOf path ∧ x = some m ∧ w' = w.load m
  | .freeLibrary m, _, w' => w' = w.free m
  | .getModuleHandle name, x, w' =>
    (x = none ∨ ∃ m : HMODULE, m.dll = dllOf name ∧ x = some m) ∧ w' = w
  | .setDllDirectory _, _, w' | .enter _, _, w' | .host _ _, _, w' | .zmq _ _, _, w'
  | .allocBstr _ _, _, w' | .store _ _ _, _, w' | .fetch _ _ _, _, w' | .literalAddr _, _, w' =>
    w' = w

/-- The requests that use a pointer or a handle which is not what it should be. -/
def Faults (w : World) : Req → Prop
  | .getProcAddress m _ | .freeLibrary m => ¬ w.Valid m
  | .zmq fn c => ¬ ∃ m, fn = some ⟨m, c.symbol.exportName⟩ ∧ m.dll = .libzmq ∧ w.Live m
  | .host fn c => ¬ ∃ m, fn = some ⟨m, c.symbol.exportName⟩ ∧ m.dll = .thinCore
  | .allocBstr fn _ => ¬ ∃ m, fn = some ⟨m, TbSymbol.allocBstr.exportName⟩ ∧ m.dll = .oleaut32
  | _ => False

end World

/-- The host evaluates an argument. -/
def Req.IsArgument : Req → Prop
  | .host _ .parseLong | .host _ .parseString => True
  | _ => False

/-- A function whose result nobody looks at. -/
def discarded {α : Type} (p : Sdk α) : Sdk Unit := (fun _ => ()) <$> p

/-- The host starts entry points and, when `tb_thincore_init` has succeeded and
`_UnLoadLocalSymbols` did not run since, keywords. In the middle of a keyword only keywords are
started. -/
def process : System Req.Resp World Unit where
  respond w := w.Responds
  fault w := w.Faults
  reentrant := Req.IsArgument
  opens w p := p = discarded loadLocalSymbols ∨ p = discarded unLoadLocalSymbols ∨
    w.tb.loaded ≠ 0 ∧ ∃ k : Keyword, p = discarded k.exec
  nests _ p := ∃ k : Keyword, p = discarded k.exec

/-- What is true of `g_zmq` and of the loader's references. -/
structure LoaderInvariant (w : World) : Prop where
  flag : w.zmq.loaded = 0 ∨ w.zmq.loaded = 1
  unloaded : w.zmq.loaded = 0 → w.zmq = .zero ∧ w.loads.length = w.frees.length
  loaded : w.zmq.loaded = 1 → w.loads.length = w.frees.length + 1 ∧
    ∃ m, w.zmq.module = some m ∧ m.dll = .libzmq ∧ (∀ m', w.Live m' ↔ m' = m) ∧
      (∀ s ∈ zmqRequiredSymbols, w.zmq.fn s = some ⟨m, s.exportName⟩) ∧
      ∀ s ∈ zmqOptionalSymbols, w.zmq.fn s = none ∨ w.zmq.fn s = some ⟨m, s.exportName⟩

end ThinBasicZmq
