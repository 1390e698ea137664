import ThinBasicZmq.Model.Exec

/-!
# The module entry points

The functions of `thinBasic_ZeroMQ.c`: the host calls `_LoadLocalSymbols` after it has loaded
the module and `_UnLoadLocalSymbols` before it lets go of it. In between it runs the
executors of the registered keywords.
-/

namespace ThinBasicZmq

/-- What an executor leaves in `EAX`. -/
inductive Value
  | long (v : LONG)
  | bstr (b : Bstr)
deriving DecidableEq

/-- The type in an executor's head. -/
inductive ReturnType
  | LONG
  | voidPtr
deriving DecidableEq

inductive CallConv
  | cdecl
  | stdcall
deriving DecidableEq

/-- The head of an executor's function, `returnType callConv name(void)`. -/
structure Executor where
  returnType : ReturnType
  callConv : CallConv
  name : String
deriving DecidableEq

namespace Keyword

/-- The heads of the functions of `tb_zmq_exec.c`, in their order there. -/
def executor : Keyword → Executor
  | .zmqLibraryInit => ⟨.LONG, .cdecl, "Exec_ZmqLibraryInit"⟩
  | .zmqLibraryShutdown => ⟨.LONG, .cdecl, "Exec_ZmqLibraryShutdown"⟩
  | .zmqLibraryLoaded => ⟨.LONG, .cdecl, "Exec_ZmqLibraryLoaded"⟩
  | .zmqErrno => ⟨.LONG, .cdecl, "Exec_ZmqErrno"⟩
  | .zmqStrerror => ⟨.LONG, .cdecl, "Exec_ZmqStrerror"⟩
  | .zmqStrerrorString => ⟨.voidPtr, .stdcall, "Exec_ZmqStrerrorString"⟩
  | .zmqVersionMajor => ⟨.LONG, .cdecl, "Exec_ZmqVersionMajor"⟩
  | .zmqVersionMinor => ⟨.LONG, .cdecl, "Exec_ZmqVersionMinor"⟩
  | .zmqVersionPatch => ⟨.LONG, .cdecl, "Exec_ZmqVersionPatch"⟩
  | .zmqHas => ⟨.LONG, .cdecl, "Exec_ZmqHas"⟩
  | .zmqCtxNew => ⟨.LONG, .cdecl, "Exec_ZmqCtxNew"⟩
  | .zmqCtxTerm => ⟨.LONG, .cdecl, "Exec_ZmqCtxTerm"⟩
  | .zmqCtxShutdown => ⟨.LONG, .cdecl, "Exec_ZmqCtxShutdown"⟩
  | .zmqSocket => ⟨.LONG, .cdecl, "Exec_ZmqSocket"⟩
  | .zmqClose => ⟨.LONG, .cdecl, "Exec_ZmqClose"⟩
  | .zmqBind => ⟨.LONG, .cdecl, "Exec_ZmqBind"⟩
  | .zmqConnect => ⟨.LONG, .cdecl, "Exec_ZmqConnect"⟩
  | .zmqUnbind => ⟨.LONG, .cdecl, "Exec_ZmqUnbind"⟩
  | .zmqDisconnect => ⟨.LONG, .cdecl, "Exec_ZmqDisconnect"⟩
  | .zmqSend => ⟨.LONG, .cdecl, "Exec_ZmqSend"⟩
  | .zmqRecv => ⟨.LONG, .cdecl, "Exec_ZmqRecv"⟩
  | .zmqSendStr => ⟨.LONG, .cdecl, "Exec_ZmqSendStr"⟩
  | .zmqRecvStr => ⟨.voidPtr, .stdcall, "Exec_ZmqRecvStr"⟩
  | .zmqSetsockoptInt => ⟨.LONG, .cdecl, "Exec_ZmqSetsockoptInt"⟩
  | .zmqSetsockoptStr => ⟨.LONG, .cdecl, "Exec_ZmqSetsockoptStr"⟩
  | .zmqGetsockoptInt => ⟨.LONG, .cdecl, "Exec_ZmqGetsockoptInt"⟩
  | .zmqCurveKeypair => ⟨.LONG, .cdecl, "Exec_ZmqCurveKeypair"⟩
  | .zmqCurvePublic => ⟨.LONG, .cdecl, "Exec_ZmqCurvePublic"⟩
  | .zmqZ85Encode => ⟨.LONG, .cdecl, "Exec_ZmqZ85Encode"⟩
  | .zmqZ85Decode => ⟨.LONG, .cdecl, "Exec_ZmqZ85Decode"⟩
  | .zmqZ85EncodeStr => ⟨.voidPtr, .stdcall, "Exec_ZmqZ85EncodeStr"⟩
  | .zmqZ85DecodeStr => ⟨.LONG, .cdecl, "Exec_ZmqZ85DecodeStr"⟩
  | .zmqCurvePublicStr => ⟨.voidPtr, .stdcall, "Exec_ZmqCurvePublicStr"⟩
  | .zmqCtxSet => ⟨.LONG, .cdecl, "Exec_ZmqCtxSet"⟩
  | .zmqCtxGet => ⟨.LONG, .cdecl, "Exec_ZmqCtxGet"⟩

/-- The bodies of the same functions. -/
def exec : Keyword → Sdk Value
  | .zmqLibraryInit => .long <$> execZmqLibraryInit
  | .zmqLibraryShutdown => .long <$> execZmqLibraryShutdown
  | .zmqLibraryLoaded => .long <$> execZmqLibraryLoaded
  | .zmqErrno => .long <$> execZmqErrno
  | .zmqStrerror => .long <$> execZmqStrerror
  | .zmqStrerrorString => .bstr <$> execZmqStrerrorString
  | .zmqVersionMajor => .long <$> execZmqVersionMajor
  | .zmqVersionMinor => .long <$> execZmqVersionMinor
  | .zmqVersionPatch => .long <$> execZmqVersionPatch
  | .zmqHas => .long <$> execZmqHas
  | .zmqCtxNew => .long <$> execZmqCtxNew
  | .zmqCtxTerm => .long <$> execZmqCtxTerm
  | .zmqCtxShutdown => .long <$> execZmqCtxShutdown
  | .zmqCtxSet => .long <$> execZmqCtxSet
  | .zmqCtxGet => .long <$> execZmqCtxGet
  | .zmqSocket => .long <$> execZmqSocket
  | .zmqClose => .long <$> execZmqClose
  | .zmqBind => .long <$> execZmqBind
  | .zmqUnbind => .long <$> execZmqUnbind
  | .zmqConnect => .long <$> execZmqConnect
  | .zmqDisconnect => .long <$> execZmqDisconnect
  | .zmqSend => .long <$> execZmqSend
  | .zmqRecv => .long <$> execZmqRecv
  | .zmqSendStr => .long <$> execZmqSendStr
  | .zmqRecvStr => .bstr <$> execZmqRecvStr
  | .zmqSetsockoptInt => .long <$> execZmqSetsockoptInt
  | .zmqSetsockoptStr => .long <$> execZmqSetsockoptStr
  | .zmqGetsockoptInt => .long <$> execZmqGetsockoptInt
  | .zmqCurveKeypair => .long <$> execZmqCurveKeypair
  | .zmqCurvePublic => .long <$> execZmqCurvePublic
  | .zmqCurvePublicStr => .bstr <$> execZmqCurvePublicStr
  | .zmqZ85Encode => .long <$> execZmqZ85Encode
  | .zmqZ85Decode => .long <$> execZmqZ85Decode
  | .zmqZ85EncodeStr => .bstr <$> execZmqZ85EncodeStr
  | .zmqZ85DecodeStr => .long <$> execZmqZ85DecodeStr

end Keyword

def thinBasic_ForceOverWrite : DWORD := 1
def thinBasic_ReturnString : DWORD := 30
def thinBasic_ReturnCodeLong : DWORD := 5
def thinBasic_ConstTypeNumeric : DWORD := 3

/-- One line of `tb_zmq_register_symbols`: a call of `tb_zmq_register_symbol` or, for the keywords
that return a string, of `tb_LoadSymbolFB`. -/
inductive SymbolLine
  | symbol (name : String) (returnType : DWORD) (fn : Keyword)
  | symbolFB (name : String) (returnType : DWORD) (fn : Keyword)
deriving DecidableEq

def SymbolLine.call : SymbolLine → HostCall
  | symbol name returnType fn => .loadSymbol name returnType fn thinBasic_ForceOverWrite
  | symbolFB name returnType fn => .loadSymbolFB name returnType fn thinBasic_ForceOverWrite

def zmqSymbols : List SymbolLine :=
  [.symbol "ZmqLibraryInit" thinBasic_ReturnCodeLong .zmqLibraryInit,
    .symbol "ZmqLibraryShutdown" thinBasic_ReturnCodeLong .zmqLibraryShutdown,
    .symbol "ZmqLibraryLoaded" thinBasic_ReturnCodeLong .zmqLibraryLoaded,
    .symbol "ZmqErrno" thinBasic_ReturnCodeLong .zmqErrno,
    .symbol "ZmqStrerror" thinBasic_ReturnCodeLong .zmqStrerror,
    .symbolFB "ZmqStrerrorString" thinBasic_ReturnString .zmqStrerrorString,
    .symbol "ZmqVersionMajor" thinBasic_ReturnCodeLong .zmqVersionMajor,
    .symbol "ZmqVersionMinor" thinBasic_ReturnCodeLong .zmqVersionMinor,
    .symbol "ZmqVersionPatch" thinBasic_ReturnCodeLong .zmqVersionPatch,
    .symbol "ZmqHas" thinBasic_ReturnCodeLong .zmqHas,
    .symbol "ZmqCtxNew" thinBasic_ReturnCodeLong .zmqCtxNew,
    .symbol "ZmqCtxTerm" thinBasic_ReturnCodeLong .zmqCtxTerm,
    .symbol "ZmqCtxShutdown" thinBasic_ReturnCodeLong .zmqCtxShutdown,
    .symbol "ZmqCtxSet" thinBasic_ReturnCodeLong .zmqCtxSet,
    .symbol "ZmqCtxGet" thinBasic_ReturnCodeLong .zmqCtxGet,
    .symbol "ZmqSocket" thinBasic_ReturnCodeLong .zmqSocket,
    .symbol "ZmqClose" thinBasic_ReturnCodeLong .zmqClose,
    .symbol "ZmqBind" thinBasic_ReturnCodeLong .zmqBind,
    .symbol "ZmqUnbind" thinBasic_ReturnCodeLong .zmqUnbind,
    .symbol "ZmqConnect" thinBasic_ReturnCodeLong .zmqConnect,
    .symbol "ZmqDisconnect" thinBasic_ReturnCodeLong .zmqDisconnect,
    .symbol "ZmqSend" thinBasic_ReturnCodeLong .zmqSend,
    .symbol "ZmqRecv" thinBasic_ReturnCodeLong .zmqRecv,
    .symbol "ZmqSendStr" thinBasic_ReturnCodeLong .zmqSendStr,
    .symbolFB "ZmqRecvStr" thinBasic_ReturnString .zmqRecvStr,
    .symbol "ZmqSetsockoptInt" thinBasic_ReturnCodeLong .zmqSetsockoptInt,
    .symbol "ZmqSetsockoptStr" thinBasic_ReturnCodeLong .zmqSetsockoptStr,
    .symbol "ZmqGetsockoptInt" thinBasic_ReturnCodeLong .zmqGetsockoptInt,
    .symbol "ZmqCurveKeypair" thinBasic_ReturnCodeLong .zmqCurveKeypair,
    .symbol "ZmqCurvePublic" thinBasic_ReturnCodeLong .zmqCurvePublic,
    .symbolFB "ZmqCurvePublicStr" thinBasic_ReturnString .zmqCurvePublicStr,
    .symbol "ZmqZ85Encode" thinBasic_ReturnCodeLong .zmqZ85Encode,
    .symbol "ZmqZ85Decode" thinBasic_ReturnCodeLong .zmqZ85Decode,
    .symbolFB "ZmqZ85EncodeStr" thinBasic_ReturnString .zmqZ85EncodeStr,
    .symbol "ZmqZ85DecodeStr" thinBasic_ReturnCodeLong .zmqZ85DecodeStr]

def tbZmqRegisterSymbols : List SymbolLine → Sdk Unit
  | [] => return ()
  | l :: rest => do
    let _ ← tbCall l.call
    tbZmqRegisterSymbols rest

def zmqEquates : List (String × DWORD) :=
  [("%ZMQ_PAIR", 0), ("%ZMQ_PUB", 1), ("%ZMQ_SUB", 2), ("%ZMQ_REQ", 3), ("%ZMQ_REP", 4),
    ("%ZMQ_DEALER", 5), ("%ZMQ_ROUTER", 6), ("%ZMQ_PULL", 7), ("%ZMQ_PUSH", 8), ("%ZMQ_XPUB", 9),
    ("%ZMQ_XSUB", 10), ("%ZMQ_STREAM", 11), ("%ZMQ_SUBSCRIBE", 6), ("%ZMQ_UNSUBSCRIBE", 7),
    ("%ZMQ_LINGER", 17), ("%ZMQ_RCVTIMEO", 27), ("%ZMQ_SNDTIMEO", 28), ("%ZMQ_DONTWAIT", 1),
    ("%ZMQ_SNDMORE", 2), ("%ZMQ_RCVMORE", 13), ("%ZMQ_MECHANISM", 43), ("%ZMQ_PLAIN_SERVER", 44),
    ("%ZMQ_PLAIN_USERNAME", 45), ("%ZMQ_PLAIN_PASSWORD", 46), ("%ZMQ_CURVE_SERVER", 47),
    ("%ZMQ_CURVE_PUBLICKEY", 48), ("%ZMQ_CURVE_SECRETKEY", 49), ("%ZMQ_CURVE_SERVERKEY", 50),
    ("%ZMQ_ZAP_DOMAIN", 55), ("%ZMQ_NULL", 0), ("%ZMQ_PLAIN", 1), ("%ZMQ_CURVE", 2),
    ("%ZMQ_CURVE_KEYSIZE", 32), ("%ZMQ_CURVE_KEYSIZE_Z85", 40), ("%ZMQ_IO_THREADS", 1),
    ("%ZMQ_MAX_SOCKETS", 2), ("%ZMQ_IO_THREADS_DFLT", 1), ("%ZMQ_MAX_SOCKETS_DFLT", 1023)]

def tbZmqRegisterEquates : List (String × DWORD) → Sdk Unit
  | [] => return ()
  | (name, value) :: rest => do
    let _ ← tbCall (.addEquate name "" value thinBasic_ConstTypeNumeric)
    tbZmqRegisterEquates rest

def unLoadLocalSymbols : Sdk DWORD := do
  zmqDynUnload
  tbThincoreShutdown
  return 0

def loadLocalSymbols : Sdk DWORD := do
  if (← tbThincoreInit) = 0 then return 0
  tbZmqRegisterSymbols zmqSymbols
  tbZmqRegisterEquates zmqEquates
  return 0

end ThinBasicZmq
