import ThinBasicZmq.Model.Types

/-!
# The native includes

The functions of `Runtime.inc`, `Context.inc`, `Socket.inc` and `Security.inc` that the SDK
module has its own version of. They are ThinBasic code: their exports are bound by the
interpreter, their buffers come from its heap, and strings carry their length. A string that is
passed `ByVal … As Asciiz` is copied, with a NUL behind it. Its constants are in `Enums.inc`.
-/

namespace ThinBasicZmq

/-- What the ThinBasic code asks of its environment. -/
inductive NativeReq
  | zmq (c : ZmqCall)
  | heapAlloc (size : DWORD)
  | heapFree (p : Ptr)
  /-- `Peek$(ASCIIZ, p)` -/
  | peekAsciiz (p : Ptr)

abbrev NativeReq.Resp : NativeReq → Type
  | zmq c => c.Resp
  | heapAlloc _ => Ptr
  | heapFree _ => Unit
  | peekAsciiz _ => List UInt8

abbrev Native (α : Type) := Interaction.Prog NativeReq.Resp α

namespace Native

abbrev ask (r : NativeReq) : Native r.Resp := Interaction.Prog.request r

/-! ## Runtime.inc -/

def zmqErrno : Native LONG := ask (.zmq .errnoFn)

def zmqStrerror (errnum : LONG) : Native (Ptr × CString) := ask (.zmq (.strerrorFn errnum))

def zmqHas (capability : List UInt8) : Native LONG :=
  ask (.zmq (.has (.str (.ofBytes capability))))

def zmqStrerrorString (errnum : LONG) : Native (List UInt8) := do
  let (pErr, _) ← zmqStrerror errnum
  if pErr ≠ 0 then ask (.peekAsciiz pErr) else return []

/-! ## Context.inc -/

def zmqCtxNew : Native LONG := do
  let p : Ptr ← ask (.zmq .ctxNew)
  return .ofUInt32 p

def zmqCtxTerm (context : LONG) : Native LONG := ask (.zmq (.ctxTerm context.toUInt32))

def zmqCtxShutdown (context : LONG) : Native LONG := ask (.zmq (.ctxShutdown context.toUInt32))

def zmqCtxSet (context options optval : LONG) : Native LONG :=
  ask (.zmq (.ctxSet context.toUInt32 options optval))

def zmqCtxGet (context options : LONG) : Native LONG :=
  ask (.zmq (.ctxGet context.toUInt32 options))

/-! ## Socket.inc -/

def zmqSocket (context stype : LONG) : Native LONG := do
  let p : Ptr ← ask (.zmq (.socket context.toUInt32 stype))
  return .ofUInt32 p

def zmqBind (hSocket : LONG) (addr : List UInt8) : Native LONG :=
  ask (.zmq (.bind hSocket.toUInt32 (.str (.ofBytes addr))))

def zmqUnBind (hSocket : LONG) (addr : List UInt8) : Native LONG :=
  ask (.zmq (.unbind hSocket.toUInt32 (.str (.ofBytes addr))))

def zmqConnect (hSocket : LONG) (addr : List UInt8) : Native LONG :=
  ask (.zmq (.connect hSocket.toUInt32 (.str (.ofBytes addr))))

def zmqDisConnect (hSocket : LONG) (addr : List UInt8) : Native LONG :=
  ask (.zmq (.disconnect hSocket.toUInt32 (.str (.ofBytes addr))))

def zmqRecv (hSocket buf : LONG) (buflen : DWORD) (flags : LONG) : Native LONG := do
  let (n, _) : LONG × List UInt8 ←
    ask (.zmq (.recv hSocket.toUInt32 (.addr buf.toUInt32) buflen flags))
  return n

def zmqSend (hSocket buf : LONG) (buflen : DWORD) (flags : LONG) : Native LONG :=
  ask (.zmq (.send hSocket.toUInt32 (.addr buf.toUInt32) buflen flags))

def zmqClose (hSocket : LONG) : Native LONG := ask (.zmq (.close hSocket.toUInt32))

def zmqSetsockoptInt (hSocket options optval : LONG) : Native LONG :=
  ask (.zmq (.setsockopt hSocket.toUInt32 options (.long optval) 4))

/-- The result, and what is in `optval` afterwards. -/
def zmqGetsockoptInt (hSocket options optval : LONG) : Native (LONG × LONG) := do
  let lOptVal : LONG := 0
  let (lResult, stored) : LONG × Option LONG ←
    ask (.zmq (.getsockopt hSocket.toUInt32 options (.long lOptVal) 4))
  return (lResult, if lResult = 0 then stored.getD lOptVal else optval)

def zmqSetsockoptStr (hSocket options : LONG) (optval : List UInt8) : Native LONG :=
  ask (.zmq (.setsockopt hSocket.toUInt32 options (.arr (optval.map some)) (.ofNat optval.length)))

/-! ## Security.inc -/

def zmqZ85Encode (dest data : LONG) (size : DWORD) : Native LONG := do
  let (out, _) : Ptr × List UInt8 ←
    ask (.zmq (.z85Encode (.addr dest.toUInt32) (.addr data.toUInt32) size))
  return .ofUInt32 out

def zmqZ85Decode (dest : LONG) (lpszString : List UInt8) : Native LONG := do
  let (out, _) : Ptr × List UInt8 ←
    ask (.zmq (.z85Decode (.addr dest.toUInt32) (.str (.ofBytes lpszString))))
  return .ofUInt32 out

def zmqCurveKeypair (z85Public z85Secret : LONG) : Native LONG := do
  let (rc, _, _) : LONG × List UInt8 × List UInt8 ←
    ask (.zmq (.curveKeypair (.addr z85Public.toUInt32) (.addr z85Secret.toUInt32)))
  return rc

def zmqCurvePublic (z85Public : LONG) (z85Secret : List UInt8) : Native LONG := do
  let (rc, _) : LONG × List UInt8 ←
    ask (.zmq (.curvePublic (.addr z85Public.toUInt32) (.str (.ofBytes z85Secret))))
  return rc

def zmqZ85EncodeStr (pData : LONG) (nLen : DWORD) : Native (List UInt8) := do
  if nLen ≤ 0 then return []
  if nLen &&& 3 ≠ 0 then return []
  let nDestSize : DWORD := .ofNat (nLen.toNat * 5 / 4 + 1)
  let hDest : Ptr ← ask (.heapAlloc nDestSize)
  if hDest ≠ 0 then
    let (out, _) : Ptr × List UInt8 ←
      ask (.zmq (.z85Encode (.addr hDest) (.addr pData.toUInt32) nLen))
    let sOut : List UInt8 ← if out ≠ 0 then ask (.peekAsciiz hDest) else pure []
    ask (.heapFree hDest)
    return sOut
  else
    return []

/-- A string passed `ByVal … As Asciiz` ends at its first NUL. -/
def zmqZ85DecodeStr (lpszString : List UInt8) (pDest : LONG) (nDestSize : DWORD) :
    Native LONG := do
  let nNeedSize : DWORD := .ofNat (lpszString.length * 4 / 5)
  if nNeedSize ≤ 0 ∨ nDestSize < nNeedSize ∨ pDest = 0 then return 0
  let (out, _) : Ptr × List UInt8 ←
    ask (.zmq (.z85Decode (.addr pDest.toUInt32) (.str (.ofBytes lpszString))))
  return .ofUInt32 out

def zmqCurvePublicStr (z85Secret : List UInt8) : Native (List UInt8) := do
  let hPublic : Ptr ← ask (.heapAlloc (.ofNat (ZMQ_CURVE_KEYSIZE_Z85 + 1)))
  if hPublic ≠ 0 then
    let (rc, _) : LONG × List UInt8 ←
      ask (.zmq (.curvePublic (.addr hPublic) (.str (.ofBytes z85Secret))))
    let sOut : List UInt8 ← if rc = 0 then ask (.peekAsciiz hPublic) else pure []
    ask (.heapFree hPublic)
    return sOut
  else
    return []

/-- The constants of `Enums.inc` for sockets, contexts, transfers and security. -/
def enums : List (String × ℤ) :=
  [("ZMQ_PAIR", 0), ("ZMQ_PUB", 1), ("ZMQ_SUB", 2), ("ZMQ_REQ", 3), ("ZMQ_REP", 4),
    ("ZMQ_DEALER", 5), ("ZMQ_ROUTER", 6), ("ZMQ_PULL", 7), ("ZMQ_PUSH", 8), ("ZMQ_XPUB", 9),
    ("ZMQ_XSUB", 10), ("ZMQ_STREAM", 11), ("ZMQ_AFFINITY", 4), ("ZMQ_ROUTING_ID", 5),
    ("ZMQ_SUBSCRIBE", 6), ("ZMQ_UNSUBSCRIBE", 7), ("ZMQ_RATE", 8), ("ZMQ_RECOVERY_IVL", 9),
    ("ZMQ_SNDBUF", 11), ("ZMQ_RCVBUF", 12), ("ZMQ_RCVMORE", 13), ("ZMQ_FD", 14),
    ("ZMQ_EVENTS", 15), ("ZMQ_TYPE", 16), ("ZMQ_LINGER", 17), ("ZMQ_RECONNECT_IVL", 18),
    ("ZMQ_BACKLOG", 19), ("ZMQ_RECONNECT_IVL_MAX", 21), ("ZMQ_MAXMSGSIZE", 22),
    ("ZMQ_SNDHWM", 23), ("ZMQ_RCVHWM", 24), ("ZMQ_MULTICAST_HOPS", 25), ("ZMQ_RCVTIMEO", 27),
    ("ZMQ_SNDTIMEO", 28), ("ZMQ_LAST_ENDPOINT", 32), ("ZMQ_ROUTER_MANDATORY", 33),
    ("ZMQ_TCP_KEEPALIVE", 34), ("ZMQ_TCP_KEEPALIVE_CNT", 35), ("ZMQ_TCP_KEEPALIVE_IDLE", 36),
    ("ZMQ_TCP_KEEPALIVE_INTVL", 37), ("ZMQ_IMMEDIATE", 39), ("ZMQ_XPUB_VERBOSE", 40),
    ("ZMQ_ROUTER_RAW", 41), ("ZMQ_IPV6", 42), ("ZMQ_MECHANISM", 43), ("ZMQ_PLAIN_SERVER", 44),
    ("ZMQ_PLAIN_USERNAME", 45), ("ZMQ_PLAIN_PASSWORD", 46), ("ZMQ_CURVE_SERVER", 47),
    ("ZMQ_CURVE_PUBLICKEY", 48), ("ZMQ_CURVE_SECRETKEY", 49), ("ZMQ_CURVE_SERVERKEY", 50),
    ("ZMQ_PROBE_ROUTER", 51), ("ZMQ_REQ_CORRELATE", 52), ("ZMQ_REQ_RELAXED", 53),
    ("ZMQ_CONFLATE", 54), ("ZMQ_ZAP_DOMAIN", 55), ("ZMQ_ROUTER_HANDOVER", 56), ("ZMQ_TOS", 57),
    ("ZMQ_CONNECT_ROUTING_ID", 61), ("ZMQ_GSSAPI_SERVER", 62), ("ZMQ_GSSAPI_PRINCIPAL", 63),
    ("ZMQ_GSSAPI_SERVICE_PRINCIPAL", 64), ("ZMQ_GSSAPI_PLAINTEXT", 65),
    ("ZMQ_HANDSHAKE_IVL", 66), ("ZMQ_SOCKS_PROXY", 68), ("ZMQ_XPUB_NODROP", 69),
    ("ZMQ_BLOCKY", 70), ("ZMQ_XPUB_MANUAL", 71), ("ZMQ_XPUB_WELCOME_MSG", 72),
    ("ZMQ_STREAM_NOTIFY", 73), ("ZMQ_INVERT_MATCHING", 74), ("ZMQ_HEARTBEAT_IVL", 75),
    ("ZMQ_HEARTBEAT_TTL", 76), ("ZMQ_HEARTBEAT_TIMEOUT", 77), ("ZMQ_XPUB_VERBOSER", 78),
    ("ZMQ_CONNECT_TIMEOUT", 79), ("ZMQ_TCP_MAXRT", 80), ("ZMQ_THREAD_SAFE", 81),
    ("ZMQ_MULTICAST_MAXTPDU", 84), ("ZMQ_VMCI_BUFFER_SIZE", 85),
    ("ZMQ_VMCI_BUFFER_MIN_SIZE", 86), ("ZMQ_VMCI_BUFFER_MAX_SIZE", 87),
    ("ZMQ_VMCI_CONNECT_TIMEOUT", 88), ("ZMQ_USE_FD", 89), ("ZMQ_GSSAPI_PRINCIPAL_NAMETYPE", 90),
    ("ZMQ_GSSAPI_SERVICE_PRINCIPAL_NAMETYPE", 91), ("ZMQ_BINDTODEVICE", 92),
    ("ZMQ_IO_THREADS", 1), ("ZMQ_MAX_SOCKETS", 2), ("ZMQ_SOCKET_LIMIT", 3),
    ("ZMQ_THREAD_PRIORITY", 3), ("ZMQ_THREAD_SCHED_POLICY", 4), ("ZMQ_MAX_MSGSZ", 5),
    ("ZMQ_MSG_T_SIZE", 6), ("ZMQ_THREAD_AFFINITY_CPU_ADD", 7),
    ("ZMQ_THREAD_AFFINITY_CPU_REMOVE", 8), ("ZMQ_THREAD_NAME_PREFIX", 9),
    ("ZMQ_IO_THREADS_DFLT", 1), ("ZMQ_MAX_SOCKETS_DFLT", 1023), ("ZMQ_THREAD_PRIORITY_DFLT", -1),
    ("ZMQ_THREAD_SCHED_POLICY_DFLT", -1), ("ZMQ_DONTWAIT", 1), ("ZMQ_SNDMORE", 2),
    ("ZMQ_NULL", 0), ("ZMQ_PLAIN", 1), ("ZMQ_CURVE", 2), ("ZMQ_GSSAPI", 3),
    ("ZMQ_CURVE_KEYSIZE", 32), ("ZMQ_CURVE_KEYSIZE_Z85", 40)]

end Native

end ThinBasicZmq
