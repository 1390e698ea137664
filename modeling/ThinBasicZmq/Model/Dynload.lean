import ThinBasicZmq.Model.Types
import Mathlib.Logic.Function.Basic

/-!
# Binding to libzmq

The functions of `zmq_dynload.c`: `libzmq.dll` is loaded from a directory into `g_zmq`, and
each `zmq_api_*` function calls through its slot when the library is loaded.
-/

namespace ThinBasicZmq

def zmqResolve (name : String) : Sdk FARPROC := do
  let g ← ask .readZmq
  ask (.getProcAddress g.module name)

/-- The exports without which the library is refused, in the order of the source. -/
def zmqRequiredSymbols : List ZmqSymbol :=
  [.ctxNew, .ctxTerm, .ctxShutdown, .ctxSet, .ctxGet, .socket, .close, .bind, .unbind, .connect,
    .disconnect, .send, .recv, .errnoFn, .strerrorFn, .version, .has, .setsockopt, .getsockopt]

/-- Older builds may lack the CURVE and Z85 helpers. -/
def zmqOptionalSymbols : List ZmqSymbol :=
  [.curveKeypair, .curvePublic, .z85Encode, .z85Decode]

def zmqBindSymbols : List ZmqSymbol → Sdk Unit
  | [] => return ()
  | s :: rest => do
    let fn ← zmqResolve s.exportName
    let g ← ask .readZmq
    ask (.writeZmq { g with fn := Function.update g.fn s fn })
    zmqBindSymbols rest

def zmqBindRequiredSymbols : Sdk Bool := do
  zmqBindSymbols zmqRequiredSymbols
  zmqBindSymbols zmqOptionalSymbols
  let g ← ask .readZmq
  return zmqRequiredSymbols.all fun s => (g.fn s).isSome

def isSlash (c : UInt8) : Bool := c == 92 || c == 47

/-- `while (len > 0 && (path[len - 1] == '\\' || path[len - 1] == '/'))` -/
def zmqTrimLoop (path : List Cell) : ℕ → Sdk (List Cell)
  | 0 => return path
  | len + 1 => do
    if isSlash (← fetch path len) then
      let path ← store path len [0]
      zmqTrimLoop path len
    else
      return path

def zmqTrimTrailingSlashes (path : List Cell) (maxLen : ℕ) : Sdk (List Cell) := do
  if maxLen = 0 then return path
  let len ← scanNul path maxLen 0
  if len ≥ maxLen then store path 0 [0]
  else zmqTrimLoop path len

/-- `_snprintf(buf, sizeof(buf), "%s" suffix, str)` of the Microsoft C runtime: a text longer
than the buffer is cut and gives a negative result, and a text exactly as long as the
buffer is stored without a terminating NUL. -/
def snprintf (buf str : List Cell) (suffix : CString) : Sdk (ℤ × List Cell) := do
  let n ← scanNul str str.length 0
  let s ← fetchBytes str n 0
  let out := s ++ suffix.text
  if out.length < buf.length then
    return (out.length, ← store buf 0 (out ++ [0]))
  else if out.length = buf.length then
    return (out.length, ← store buf 0 out)
  else
    return (-1, ← store buf 0 (out.take buf.length))

def libzmqDll : CString := .ofString "\\libzmq.dll"

def zmqDynLoadDirectory (dir : Option CString) (dirLen : DWORD) : Sdk LONG := do
  ask (.enter (.loadDirectory dir dirLen))
  let some dir := dir | return 0
  if dirLen = 0 ∨ dirLen.toNat ≥ MAX_PATH then return 0
  let g ← ask .readZmq
  if g.loaded ≠ 0 then return 1
  let folder ← memcpy (localArray MAX_PATH) dir dirLen
  let folder ← store folder dirLen.toNat [0]
  let folder ← zmqTrimTrailingSlashes folder MAX_PATH
  let (n, dllPath) ← snprintf (localArray MAX_PATH) folder libzmqDll
  if n < 0 then return 0
  ask (.setDllDirectory (some folder))
  let m : Option HMODULE ← ask (.loadLibrary dllPath)
  let g ← ask .readZmq
  ask (.writeZmq { g with module := m })
  if m = none then
    ask (.setDllDirectory none)
    return 0
  if !(← zmqBindRequiredSymbols) then
    let g ← ask .readZmq
    ask (.freeLibrary g.module)
    ask (.writeZmq { g with module := none })
    ask (.setDllDirectory none)
    ask (.writeZmq .zero)
    return 0
  let g ← ask .readZmq
  ask (.writeZmq { g with loaded := 1 })
  return 1

def zmqDynUnload : Sdk Unit := do
  ask (.enter .unload)
  let g ← ask .readZmq
  (if g.module = none then pure () else ask (.freeLibrary g.module))
  ask (.writeZmq .zero)
  ask (.setDllDirectory none)

def zmqDynIsLoaded : Sdk LONG := do
  ask (.enter .isLoaded)
  let g ← ask .readZmq
  return g.loaded

/-- `g_zmq.loaded ? g_zmq.f(..) : notLoaded` -/
def zmqApi (c : ZmqCall) (notLoaded : Sdk c.Resp) : Sdk c.Resp := do
  ask (.enter (.api c))
  let g ← ask .readZmq
  if g.loaded ≠ 0 then ask (.zmq (g.fn c.symbol) c) else notLoaded

/-- The functions that may be missing, and that refuse `NULL` arguments. -/
def zmqApiOptional (c : ZmqCall) (args : List Ref) (failed : c.Resp) : Sdk c.Resp := do
  ask (.enter (.api c))
  let g ← ask .readZmq
  if g.loaded = 0 ∨ g.fn c.symbol = none ∨ args.any Ref.isNull then return failed
  ask (.zmq (g.fn c.symbol) c)

def zmqApiCtxNew : Sdk Ptr := zmqApi .ctxNew (pure (0 : Ptr))

def zmqApiCtxTerm (context : Ptr) : Sdk LONG := zmqApi (.ctxTerm context) (pure (-1 : LONG))

def zmqApiCtxShutdown (context : Ptr) : Sdk LONG :=
  zmqApi (.ctxShutdown context) (pure (-1 : LONG))

def zmqApiCtxSet (context : Ptr) (option optval : LONG) : Sdk LONG :=
  zmqApi (.ctxSet context option optval) (pure (-1 : LONG))

def zmqApiCtxGet (context : Ptr) (option : LONG) : Sdk LONG :=
  zmqApi (.ctxGet context option) (pure (-1 : LONG))

def zmqApiSocket (context : Ptr) (type : LONG) : Sdk Ptr :=
  zmqApi (.socket context type) (pure (0 : Ptr))

def zmqApiClose (socket : Ptr) : Sdk LONG := zmqApi (.close socket) (pure (-1 : LONG))

def zmqApiBind (socket : Ptr) (endpoint : Ref) : Sdk LONG :=
  zmqApi (.bind socket endpoint) (pure (-1 : LONG))

def zmqApiUnbind (socket : Ptr) (endpoint : Ref) : Sdk LONG :=
  zmqApi (.unbind socket endpoint) (pure (-1 : LONG))

def zmqApiConnect (socket : Ptr) (endpoint : Ref) : Sdk LONG :=
  zmqApi (.connect socket endpoint) (pure (-1 : LONG))

def zmqApiDisconnect (socket : Ptr) (endpoint : Ref) : Sdk LONG :=
  zmqApi (.disconnect socket endpoint) (pure (-1 : LONG))

def zmqApiSend (socket : Ptr) (buf : Ref) (len : SizeT) (flags : LONG) : Sdk LONG :=
  zmqApi (.send socket buf len flags) (pure (-1 : LONG))

def zmqApiRecv (socket : Ptr) (buf : Ref) (len : SizeT) (flags : LONG) :
    Sdk (LONG × List UInt8) :=
  zmqApi (.recv socket buf len flags) (pure ((-1 : LONG), []))

def zmqApiErrno : Sdk LONG := zmqApi .errnoFn (pure (-1 : LONG))

def zmqApiStrerror (errnum : LONG) : Sdk (Ptr × CString) :=
  zmqApi (.strerrorFn errnum) do
    let msg := CString.ofString "libzmq not loaded"
    let p : Ptr ← ask (.literalAddr msg)
    return (p, msg)

def zmqApiVersion : Sdk (LONG × LONG × LONG) :=
  zmqApi .version (pure ((0 : LONG), (0 : LONG), (0 : LONG)))

def zmqApiHas (capability : Ref) : Sdk LONG := zmqApi (.has capability) (pure (0 : LONG))

def zmqApiSetsockopt (socket : Ptr) (option : LONG) (optval : Ref) (optvallen : SizeT) :
    Sdk LONG :=
  zmqApi (.setsockopt socket option optval optvallen) (pure (-1 : LONG))

def zmqApiGetsockopt (socket : Ptr) (option : LONG) (optval : Ref) (optvallen : SizeT) :
    Sdk (LONG × Option LONG) :=
  zmqApi (.getsockopt socket option optval optvallen) (pure ((-1 : LONG), none))

def zmqApiCurveKeypair (z85Public z85Secret : Ref) : Sdk (LONG × List UInt8 × List UInt8) :=
  zmqApiOptional (.curveKeypair z85Public z85Secret) [z85Public, z85Secret] ((-1 : LONG), [], [])

def zmqApiCurvePublic (z85Public z85Secret : Ref) : Sdk (LONG × List UInt8) :=
  zmqApiOptional (.curvePublic z85Public z85Secret) [z85Public, z85Secret] ((-1 : LONG), [])

def zmqApiZ85Encode (dest data : Ref) (size : SizeT) : Sdk (Ptr × List UInt8) :=
  zmqApiOptional (.z85Encode dest data size) [dest, data] ((0 : Ptr), [])

def zmqApiZ85Decode (dest string : Ref) : Sdk (Ptr × List UInt8) :=
  zmqApiOptional (.z85Decode dest string) [dest, string] ((0 : Ptr), [])

end ThinBasicZmq
