import Mathlib.Data.UInt
import ThinBasicZmq.Interaction.Prog
import ThinBasicZmq.Memory.Cells

/-!
# Data of the SDK module

The types of the C sources: machine integers of the 32-bit target, the two global tables
`g_zmq` and `g_tb`, and the requests that the code makes to everything outside it: the
process loader, `thinCore.dll`, `oleaut32.dll` and `libzmq.dll`. An export that was
resolved is kept as the module and the symbol it was resolved from.
-/

namespace ThinBasicZmq

abbrev LONG := Int32
abbrev DWORD := UInt32
abbrev SizeT := UInt32
/-- A 32-bit address, `0` for `NULL`. -/
abbrev Ptr := UInt32
abbrev Cell := Option UInt8
/-- The `BSTR` a string keyword returns in `EAX`, `none` for `NULL`. -/
abbrev Bstr := Option (List UInt8)

/-- A `NULL` `BSTR` is the empty string. -/
def Bstr.chars (b : Bstr) : List UInt8 := b.getD []

lemma not_nonpos_iff {x : LONG} : ¬ x ≤ 0 ↔ 0 < x.toInt := by
  rw [Int32.le_iff_toInt_le]
  exact not_le

def TB_RETURN_STRING_MAX : ℕ := 4096
def MAX_PATH : ℕ := 260
def ZMQ_CURVE_KEYSIZE_Z85 : ℕ := 40

/-- What a valid `char *` points to: the bytes from it on, with a terminating NUL among them. -/
structure CString where
  mem : List UInt8
  nul : 0 ∈ mem
deriving DecidableEq

namespace CString

/-- The bytes before the first NUL. -/
def text (s : CString) : List UInt8 := Memory.text s.mem

def strlen (s : CString) : ℕ := s.text.length

/-- A pointer to the bytes `b` followed by a NUL. -/
def ofBytes (b : List UInt8) : CString := ⟨b ++ [0], by simp⟩

/-- A string literal of ASCII characters. -/
def ofString (s : String) : CString := ofBytes (s.toList.map fun c => UInt8.ofNat c.toNat)

@[simp] lemma length_text (s : CString) : s.text.length = s.strlen := rfl

lemma take_strlen (s : CString) : s.mem.take s.strlen = s.text := Memory.take_length_text s.mem

lemma zero_notMem_text (s : CString) : 0 ∉ s.text := Memory.zero_notMem_text s.mem

@[simp] lemma text_ofBytes {b : List UInt8} (h : 0 ∉ b) : (ofBytes b).text = b :=
  Memory.text_append_zero h []

/-- The string as the cells of an array. -/
def cells (s : CString) : List Cell := s.mem.map some

end CString

/-- The bytes of a string literal of a script. -/
def chars (s : String) : List UInt8 := s.toList.map fun c => UInt8.ofNat c.toNat

inductive Dll
  | thinCore | oleaut32 | libzmq
deriving DecidableEq

/-- An `HMODULE` other than `NULL`: which library it is and where it is mapped. -/
structure HMODULE where
  dll : Dll
  base : Ptr
deriving DecidableEq

/-- What a function pointer other than `NULL` points to. -/
structure Export where
  module : HMODULE
  symbol : String
deriving DecidableEq

abbrev FARPROC := Option Export

/-- The exports of libzmq, as `zmq_dynload.c` resolves them. -/
inductive ZmqSymbol
  | ctxNew | ctxTerm | ctxShutdown | ctxSet | ctxGet | socket | close | bind | unbind | connect
  | disconnect | send | recv | errnoFn | strerrorFn | version | has | setsockopt | getsockopt
  | curveKeypair | curvePublic | z85Encode | z85Decode
deriving DecidableEq

def ZmqSymbol.exportName : ZmqSymbol → String
  | ctxNew => "zmq_ctx_new"
  | ctxTerm => "zmq_ctx_term"
  | ctxShutdown => "zmq_ctx_shutdown"
  | ctxSet => "zmq_ctx_set"
  | ctxGet => "zmq_ctx_get"
  | socket => "zmq_socket"
  | close => "zmq_close"
  | bind => "zmq_bind"
  | unbind => "zmq_unbind"
  | connect => "zmq_connect"
  | disconnect => "zmq_disconnect"
  | send => "zmq_send"
  | recv => "zmq_recv"
  | errnoFn => "zmq_errno"
  | strerrorFn => "zmq_strerror"
  | version => "zmq_version"
  | has => "zmq_has"
  | setsockopt => "zmq_setsockopt"
  | getsockopt => "zmq_getsockopt"
  | curveKeypair => "zmq_curve_keypair"
  | curvePublic => "zmq_curve_public"
  | z85Encode => "zmq_z85_encode"
  | z85Decode => "zmq_z85_decode"

/-- `g_zmq`: the function pointers are the slots of `fn`. -/
structure ZmqApiTable where
  module : Option HMODULE
  loaded : LONG
  fn : ZmqSymbol → FARPROC

/-- The table after `memset(&g_zmq, 0, sizeof(g_zmq))`. -/
def ZmqApiTable.zero : ZmqApiTable := ⟨none, 0, fun _ => none⟩

/-- The slots of `g_tb`, `tb_thincore.c`. -/
inductive TbSymbol
  | addEquate | loadSymbol | loadSymbolFB | parseLong | parseString | checkOpenParens
  | checkCloseParens | checkComma | allocBstr
deriving DecidableEq

def TbSymbol.exportName : TbSymbol → String
  | addEquate => "_thinBasic_AddEquate"
  | loadSymbol => "_thinBasic_LoadSymbol"
  | loadSymbolFB => "thinBasic_LoadSymbol_FB"
  | parseLong => "thinBasic_ParseLong"
  | parseString => "thinBasic_ParseString"
  | checkOpenParens => "thinBasic_CheckOpenParens"
  | checkCloseParens => "thinBasic_CheckCloseParens"
  | checkComma => "thinBasic_CheckComma"
  | allocBstr => "SysAllocStringByteLen"

/-- `g_tb`. -/
structure TbThincoreApi where
  module : Option HMODULE
  loaded : LONG
  fn : TbSymbol → FARPROC

def TbThincoreApi.zero : TbThincoreApi := ⟨none, 0, fun _ => none⟩

/-- The keywords of `thinBasic_ZeroMQ.c`. -/
inductive Keyword
  | zmqLibraryInit | zmqLibraryShutdown | zmqLibraryLoaded
  | zmqErrno | zmqStrerror | zmqStrerrorString
  | zmqVersionMajor | zmqVersionMinor | zmqVersionPatch | zmqHas
  | zmqCtxNew | zmqCtxTerm | zmqCtxShutdown | zmqCtxSet | zmqCtxGet
  | zmqSocket | zmqClose | zmqBind | zmqUnbind | zmqConnect | zmqDisconnect
  | zmqSend | zmqRecv | zmqSendStr | zmqRecvStr
  | zmqSetsockoptInt | zmqSetsockoptStr | zmqGetsockoptInt
  | zmqCurveKeypair | zmqCurvePublic | zmqCurvePublicStr
  | zmqZ85Encode | zmqZ85Decode | zmqZ85EncodeStr | zmqZ85DecodeStr
deriving DecidableEq

/-! ## Calls that leave the code -/

/-- A pointer argument, with what the code knows about the memory behind it. -/
inductive Ref
  /-- an address that the script gave as a handle -/
  | addr (p : Ptr)
  /-- a string of the host or a string literal -/
  | str (s : CString)
  /-- a local array, with its cells at the time of the call -/
  | arr (cells : List Cell)
  /-- a local 32-bit integer -/
  | long (v : LONG)
deriving DecidableEq

namespace Ref

def isNull : Ref → Bool
  | addr p => p == 0
  | _ => false

/-- The C string the pointer designates, where the code knows it. -/
def cstring : Ref → Option (List UInt8)
  | str s => some s.text
  | arr cells => Memory.cstring? cells
  | _ => none

/-- The first `n` bytes behind the pointer, where the code knows them. -/
def bytes (n : ℕ) : Ref → Option (List UInt8)
  | str s => if n ≤ s.mem.length then some (s.mem.take n) else none
  | arr cells => if n ≤ cells.length then (cells.take n).mapM id else none
  | _ => none

end Ref

/-- The calls into libzmq, with their arguments. -/
inductive ZmqCall
  | ctxNew
  | ctxTerm (context : Ptr)
  | ctxShutdown (context : Ptr)
  | ctxSet (context : Ptr) (option optval : LONG)
  | ctxGet (context : Ptr) (option : LONG)
  | socket (context : Ptr) (type : LONG)
  | close (socket : Ptr)
  | bind (socket : Ptr) (endpoint : Ref)
  | unbind (socket : Ptr) (endpoint : Ref)
  | connect (socket : Ptr) (endpoint : Ref)
  | disconnect (socket : Ptr) (endpoint : Ref)
  | send (socket : Ptr) (buf : Ref) (len : SizeT) (flags : LONG)
  | recv (socket : Ptr) (buf : Ref) (len : SizeT) (flags : LONG)
  | errnoFn
  | strerrorFn (errnum : LONG)
  | version
  | has (capability : Ref)
  | setsockopt (socket : Ptr) (option : LONG) (optval : Ref) (optvallen : SizeT)
  | getsockopt (socket : Ptr) (option : LONG) (optval : Ref) (optvallen : SizeT)
  | curveKeypair (z85Public z85Secret : Ref)
  | curvePublic (z85Public z85Secret : Ref)
  | z85Encode (dest data : Ref) (size : SizeT)
  | z85Decode (dest string : Ref)
deriving DecidableEq

namespace ZmqCall

def symbol : ZmqCall → ZmqSymbol
  | ctxNew => .ctxNew
  | ctxTerm _ => .ctxTerm
  | ctxShutdown _ => .ctxShutdown
  | ctxSet _ _ _ => .ctxSet
  | ctxGet _ _ => .ctxGet
  | socket _ _ => .socket
  | close _ => .close
  | bind _ _ => .bind
  | unbind _ _ => .unbind
  | connect _ _ => .connect
  | disconnect _ _ => .disconnect
  | send _ _ _ _ => .send
  | recv _ _ _ _ => .recv
  | errnoFn => .errnoFn
  | strerrorFn _ => .strerrorFn
  | version => .version
  | has _ => .has
  | setsockopt _ _ _ _ => .setsockopt
  | getsockopt _ _ _ _ => .getsockopt
  | curveKeypair _ _ => .curveKeypair
  | curvePublic _ _ => .curvePublic
  | z85Encode _ _ _ => .z85Encode
  | z85Decode _ _ => .z85Decode

/-- The returned value, with the bytes that libzmq stored through its pointer arguments. -/
abbrev Resp : ZmqCall → Type
  | ctxNew | socket _ _ => Ptr
  | strerrorFn _ => Ptr × CString
  | version => LONG × LONG × LONG
  | recv _ _ _ _ | curvePublic _ _ => LONG × List UInt8
  | getsockopt _ _ _ _ => LONG × Option LONG
  | curveKeypair _ _ => LONG × List UInt8 × List UInt8
  | z85Encode _ _ _ | z85Decode _ _ => Ptr × List UInt8
  | _ => LONG

end ZmqCall

/-- The calls into thinCore, with their arguments. -/
inductive HostCall
  | addEquate (szEquate szStringValue : String) (dwNumericValue dwConstType : DWORD)
  | loadSymbol (szFunctionName : String) (dwReturnType : DWORD) (functionCode : Keyword)
      (dwForceOverWrite : DWORD)
  | loadSymbolFB (szFunctionName : String) (dwReturnType : DWORD) (functionCode : Keyword)
      (dwForceOverWrite : DWORD)
  | parseLong
  | parseString
  | checkOpenParens (hideError autoPutBack : DWORD)
  | checkCloseParens (hideError autoPutBack : DWORD)
  | checkComma (hideError autoPutBack : DWORD)
deriving DecidableEq

namespace HostCall

def symbol : HostCall → TbSymbol
  | addEquate _ _ _ _ => .addEquate
  | loadSymbol _ _ _ _ => .loadSymbol
  | loadSymbolFB _ _ _ _ => .loadSymbolFB
  | parseLong => .parseLong
  | parseString => .parseString
  | checkOpenParens _ _ => .checkOpenParens
  | checkCloseParens _ _ => .checkCloseParens
  | checkComma _ _ => .checkComma

/-- `parseLong` and `parseString` answer with what they leave behind their argument. -/
abbrev Resp : HostCall → Type
  | parseLong => LONG
  | parseString => Option CString
  | _ => DWORD

end HostCall

/-- The calls into zmq_dynload.c, with their arguments. -/
inductive DynCall
  | loadDirectory (dir : Option CString) (dirLen : DWORD)
  | unload
  | isLoaded
  | api (c : ZmqCall)
deriving DecidableEq

/-- Everything the code asks of its environment, and the accesses to its local arrays. -/
inductive Req
  | readZmq
  | writeZmq (t : ZmqApiTable)
  | readTb
  | writeTb (t : TbThincoreApi)
  | getProcAddress (module : Option HMODULE) (name : String)
  | loadLibrary (path : List Cell)
  | freeLibrary (module : Option HMODULE)
  | getModuleHandle (name : List Cell)
  | setDllDirectory (path : Option (List Cell))
  /-- control enters a function of zmq_dynload.c -/
  | enter (c : DynCall)
  | host (fn : FARPROC) (c : HostCall)
  | zmq (fn : FARPROC) (c : ZmqCall)
  /-- `SysAllocStringByteLen`; the answer is whether there was memory -/
  | allocBstr (fn : FARPROC) (sz : List UInt8)
  /-- the bytes `off .. off + len - 1` of a local array of capacity `cap` are written -/
  | store (cap off len : ℕ)
  /-- byte `i` of a local array of capacity `cap` is read; the answer is what is found there
  when `cell` is not a byte that the code wrote -/
  | fetch (cap i : ℕ) (cell : Cell)
  /-- the address of a string literal -/
  | literalAddr (s : CString)

abbrev Req.Resp : Req → Type
  | readZmq => ZmqApiTable
  | readTb => TbThincoreApi
  | getProcAddress _ _ => FARPROC
  | loadLibrary _ | getModuleHandle _ => Option HMODULE
  | host _ c => c.Resp
  | zmq _ c => c.Resp
  | allocBstr _ _ => Bool
  | fetch _ _ _ => UInt8
  | literalAddr _ => Ptr
  | _ => Unit

/-- A C function of the module. -/
abbrev Sdk (α : Type) := Interaction.Prog Req.Resp α

abbrev Ev := Interaction.Event Req.Resp

abbrev ask (r : Req) : Sdk r.Resp := Interaction.Prog.request r

/-- An uninitialised local array. -/
def localArray (cap : ℕ) : List Cell := List.replicate cap none

def store (cells : List Cell) (off : ℕ) (bytes : List UInt8) : Sdk (List Cell) := do
  ask (.store cells.length off bytes.length)
  return Memory.put cells off bytes

/-- `memcpy` of the first `len` bytes behind `src` to the start of a local array. -/
def memcpy (dst : List Cell) (src : CString) (len : DWORD) : Sdk (List Cell) :=
  store dst 0 (src.mem.take len.toNat)

def fetch (cells : List Cell) (i : ℕ) : Sdk UInt8 := do
  let cell := cells[i]?.join
  let found ← ask (.fetch cells.length i cell)
  return cell.getD found

/-- `for (; len < max; len++) if (sz[len] == 0) break;` with `n = max - len` turns left. -/
def scanNul (cells : List Cell) : ℕ → ℕ → Sdk ℕ
  | 0, len => return len
  | n + 1, len => do
    if (← fetch cells len) == 0 then return len
    scanNul cells n (len + 1)

/-- The bytes `i .. i + n - 1`. -/
def fetchBytes (cells : List Cell) : ℕ → ℕ → Sdk (List UInt8)
  | 0, _ => return []
  | n + 1, i => do
    let b ← fetch cells i
    return b :: (← fetchBytes cells n (i + 1))

end ThinBasicZmq
