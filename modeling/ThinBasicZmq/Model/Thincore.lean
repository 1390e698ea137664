import ThinBasicZmq.Model.Types
import Mathlib.Logic.Function.Basic

/-!
# Binding to thinCore

The functions of `tb_thincore.c` and `tb_parse.h`: the exports of `thinCore.dll` are
resolved into `g_tb` at run time, the arguments of a keyword are requested from the host
through them, and string results are allocated as byte strings of `oleaut32.dll`.
-/

namespace ThinBasicZmq

def thinCoreDll : List Cell := (CString.ofString "thinCore.dll").cells

def oleaut32Dll : List Cell := (CString.ofString "oleaut32.dll").cells

def tbResolveExport (name : String) : Sdk FARPROC := do
  let g ← ask .readTb
  ask (.getProcAddress g.module name)

/-- The exports of `thinCore.dll`, in the order in which `tb_thincore_init` resolves them. -/
def tbRequiredSymbols : List TbSymbol :=
  [.addEquate, .loadSymbol, .loadSymbolFB, .parseLong, .parseString, .checkOpenParens,
    .checkCloseParens, .checkComma]

def tbResolveExports : List TbSymbol → Sdk Unit
  | [] => return ()
  | s :: rest => do
    let fn ← tbResolveExport s.exportName
    let g ← ask .readTb
    ask (.writeTb { g with fn := Function.update g.fn s fn })
    tbResolveExports rest

/-- `GetModuleHandleA`, and `LoadLibraryA` when it returns `NULL`. -/
def getOrLoadLibrary (name : List Cell) : Sdk (Option HMODULE) := do
  match ← ask (.getModuleHandle name) with
  | some m => return some m
  | none => ask (.loadLibrary name)

def tbResolveAllocBstr : Sdk Unit := do
  match ← getOrLoadLibrary oleaut32Dll with
  | none => return ()
  | some ole =>
    let fn ← ask (.getProcAddress (some ole) TbSymbol.allocBstr.exportName)
    let g ← ask .readTb
    ask (.writeTb { g with fn := Function.update g.fn .allocBstr fn })

def tbThincoreShutdown : Sdk Unit := do
  let g ← ask .readTb
  if g.module = none then
    ask (.writeTb .zero)
  else
    let current : Option HMODULE ← ask (.getModuleHandle thinCoreDll)
    if g.module = current then
      ask (.writeTb .zero)
    else
      ask (.freeLibrary g.module)
      ask (.writeTb .zero)

def tbThincoreInit : Sdk LONG := do
  let g ← ask .readTb
  if g.loaded ≠ 0 then return 1
  let m ← getOrLoadLibrary thinCoreDll
  ask (.writeTb { g with module := m })
  if m = none then return 0
  tbResolveExports tbRequiredSymbols
  tbResolveAllocBstr
  let g ← ask .readTb
  if tbRequiredSymbols.any fun s => (g.fn s).isNone then
    tbThincoreShutdown
    return 0
  ask (.writeTb { g with loaded := 1 })
  return 1

/-- `tb_AddEquate`, `tb_LoadSymbol`, `tb_LoadSymbolFB`, `tb_ParseLong`, `tb_ParseString`,
`tb_CheckOpenParens`, `tb_CheckCloseParens` and `tb_CheckComma`: each calls through its own
slot of `g_tb`. -/
def tbCall (c : HostCall) : Sdk c.Resp := do
  let g ← ask .readTb
  ask (.host (g.fn c.symbol) c)

/-! ## Parameters, tb_parse.h -/

def thinBasic_FALSE : DWORD := 0

def tbExpectOpenParens : Sdk Bool := do
  let r : DWORD ← tbCall (.checkOpenParens thinBasic_FALSE thinBasic_FALSE)
  return r != 0

def tbExpectCloseParens : Sdk Bool := do
  let r : DWORD ← tbCall (.checkCloseParens thinBasic_FALSE thinBasic_FALSE)
  return r != 0

def tbExpectComma : Sdk Bool := do
  let r : DWORD ← tbCall (.checkComma thinBasic_FALSE thinBasic_FALSE)
  return r != 0

/-- The answer is the value that `*out` has after `*out = 0` and `tb_ParseLong(out)`. The
only failure of the source, a `NULL` argument, never happens. -/
def tbParseInt : Sdk (Option LONG) := do
  let v : LONG ← tbCall .parseLong
  return some v

/-- The `char *` and the `DWORD` length that `tb_parse_string` hands out on success. -/
structure ParsedString where
  ptr : CString
  bound : ptr.strlen < 0x7FFFFFFF

namespace ParsedString

def len (s : ParsedString) : DWORD := .ofNat s.ptr.strlen

@[simp] lemma toNat_len (s : ParsedString) : s.len.toNat = s.ptr.strlen := by
  have := s.bound
  simp only [len, UInt32.toNat_ofNat']
  omega

end ParsedString

def tbParseString : Sdk (Option ParsedString) := do
  let out : Option CString ← tbCall .parseString
  match out with
  | none => return none
  | some s => return if h : s.strlen < 0x7FFFFFFF then some ⟨s, h⟩ else none

/-! ## String results -/

def allocBstr (fn : FARPROC) (sz : List UInt8) : Sdk Bstr := do
  let ok : Bool ← ask (.allocBstr fn sz)
  return if ok then some sz else none

def tbReturnStringN (sz : Option (List Cell)) (len : ℕ) : Sdk Bstr := do
  let g ← ask .readTb
  let alloc := g.fn .allocBstr
  if alloc = none then return none
  match sz with
  | none => allocBstr alloc []
  | some sz =>
    if len = 0 then allocBstr alloc []
    else if len > TB_RETURN_STRING_MAX then allocBstr alloc []
    else do
      let b ← fetchBytes sz len 0
      allocBstr alloc b

def tbReturnString (sz : Option (List Cell)) : Sdk Bstr := do
  match sz with
  | none => tbReturnStringN none 0
  | some sz =>
    if (← fetch sz 0) == 0 then tbReturnStringN none 0
    else
      let len ← scanNul sz TB_RETURN_STRING_MAX 0
      if len = 0 ∨ len ≥ TB_RETURN_STRING_MAX then return none
      tbReturnStringN (some sz) len

/-- `tb_return_string("")` -/
def tbReturnEmpty : Sdk Bstr := tbReturnString (some (CString.ofString "").cells)

end ThinBasicZmq
