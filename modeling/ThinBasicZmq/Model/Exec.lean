import ThinBasicZmq.Model.Thincore
import ThinBasicZmq.Model.Dynload

/-!
# Keyword executors

The functions of `tb_zmq_exec.c`. An executor asks the host for a parenthesis, its
parameters and the separators between them, gives up at the first one that is missing, and
then calls its function of `zmq_dynload.c`. What an executor does behind its closing
parenthesis has a name of its own where it is more than a call. Executors of the source with
the same body up to the called function share one definition here.
-/

namespace ThinBasicZmq

def tbPtrFromHandle (handle : LONG) : Ptr := handle.toUInt32

def tbHandleFromPtr (ptr : Ptr) : LONG := .ofUInt32 ptr

/-- `memcpy(copy, s, len); copy[len] = 0;` into a fresh local array of `cap` bytes. -/
def copyString (cap : ℕ) (s : ParsedString) : Sdk (List Cell) := do
  let copy ← memcpy (localArray cap) s.ptr s.len
  store copy s.len.toNat [0]

def execUnit (op : Sdk LONG) : Sdk LONG := do
  if !(← tbExpectOpenParens) then return 0
  if !(← tbExpectCloseParens) then return 0
  op

def execZmqLibraryShutdown : Sdk LONG := execUnit do
  zmqDynUnload
  return 1

def execZmqLibraryLoaded : Sdk LONG := execUnit zmqDynIsLoaded

def execZmqErrno : Sdk LONG := execUnit zmqApiErrno

def execZmqVersionMajor : Sdk LONG := execUnit do
  let (major, _, _) ← zmqApiVersion
  return major

def execZmqVersionMinor : Sdk LONG := execUnit do
  let (_, minor, _) ← zmqApiVersion
  return minor

def execZmqVersionPatch : Sdk LONG := execUnit do
  let (_, _, patch) ← zmqApiVersion
  return patch

def execZmqCtxNew : Sdk LONG := execUnit do
  return tbHandleFromPtr (← zmqApiCtxNew)

def execInt (op : LONG → Sdk LONG) : Sdk LONG := do
  if !(← tbExpectOpenParens) then return 0
  let some x ← tbParseInt | return 0
  if !(← tbExpectCloseParens) then return 0
  op x

def execZmqStrerror : Sdk LONG := execInt fun errnum => do
  let (p, _) ← zmqApiStrerror errnum
  return tbHandleFromPtr p

def execZmqCtxTerm : Sdk LONG := execInt fun ctx => zmqApiCtxTerm (tbPtrFromHandle ctx)

def execZmqCtxShutdown : Sdk LONG := execInt fun ctx => zmqApiCtxShutdown (tbPtrFromHandle ctx)

def execZmqClose : Sdk LONG := execInt fun socket => zmqApiClose (tbPtrFromHandle socket)

def execZmqStrerrorString : Sdk Bstr := do
  if !(← tbExpectOpenParens) then return ← tbReturnEmpty
  let some errnum ← tbParseInt | tbReturnEmpty
  if !(← tbExpectCloseParens) then return ← tbReturnEmpty
  let (_, msg) ← zmqApiStrerror errnum
  tbReturnString (some msg.cells)

def execZmqLibraryInit : Sdk LONG := do
  if !(← tbExpectOpenParens) then return 0
  let some path ← tbParseString | return 0
  if !(← tbExpectCloseParens) then return 0
  zmqDynLoadDirectory (some path.ptr) path.len

def execZmqHas : Sdk LONG := do
  if !(← tbExpectOpenParens) then return 0
  let some capability ← tbParseString | return 0
  if !(← tbExpectCloseParens) then return 0
  zmqApiHas (.str capability.ptr)

def execZmqCtxSet : Sdk LONG := do
  if !(← tbExpectOpenParens) then return -1
  let some ctx ← tbParseInt | return -1
  if !(← tbExpectComma) then return -1
  let some option ← tbParseInt | return -1
  if !(← tbExpectComma) then return -1
  let some value ← tbParseInt | return -1
  if !(← tbExpectCloseParens) then return -1
  zmqApiCtxSet (tbPtrFromHandle ctx) option value

def execZmqCtxGet : Sdk LONG := do
  if !(← tbExpectOpenParens) then return -1
  let some ctx ← tbParseInt | return -1
  if !(← tbExpectComma) then return -1
  let some option ← tbParseInt | return -1
  if !(← tbExpectCloseParens) then return -1
  zmqApiCtxGet (tbPtrFromHandle ctx) option

def execZmqSocket : Sdk LONG := do
  if !(← tbExpectOpenParens) then return 0
  let some ctx ← tbParseInt | return 0
  if !(← tbExpectComma) then return 0
  let some type ← tbParseInt | return 0
  if !(← tbExpectCloseParens) then return 0
  return tbHandleFromPtr (← zmqApiSocket (tbPtrFromHandle ctx) type)

def endpointAction (api : Ptr → Ref → Sdk LONG) (socket : LONG) (endpoint : ParsedString) :
    Sdk LONG := do
  if endpoint.len.toNat ≥ MAX_PATH then return -1
  let endpointCopy ← copyString MAX_PATH endpoint
  api (tbPtrFromHandle socket) (.arr endpointCopy)

/-- The body of the four keywords that hand an endpoint to libzmq. -/
def execEndpoint (api : Ptr → Ref → Sdk LONG) : Sdk LONG := do
  if !(← tbExpectOpenParens) then return 0
  let some socket ← tbParseInt | return 0
  if !(← tbExpectComma) then return 0
  let some endpoint ← tbParseString | return 0
  if !(← tbExpectCloseParens) then return 0
  endpointAction api socket endpoint

def execZmqBind : Sdk LONG := execEndpoint zmqApiBind

def execZmqConnect : Sdk LONG := execEndpoint zmqApiConnect

def execZmqUnbind : Sdk LONG := execEndpoint zmqApiUnbind

def execZmqDisconnect : Sdk LONG := execEndpoint zmqApiDisconnect

/-- The body of `ZmqSend` and `ZmqRecv`. -/
def execBuffer (api : Ptr → Ref → SizeT → LONG → Sdk LONG) : Sdk LONG := do
  if !(← tbExpectOpenParens) then return 0
  let some socket ← tbParseInt | return 0
  if !(← tbExpectComma) then return 0
  let some buf ← tbParseInt | return 0
  if !(← tbExpectComma) then return 0
  let some buflen ← tbParseInt | return 0
  if !(← tbExpectComma) then return 0
  let some flags ← tbParseInt | return 0
  if !(← tbExpectCloseParens) then return 0
  api (tbPtrFromHandle socket) (.addr (tbPtrFromHandle buf)) buflen.toUInt32 flags

def execZmqSend : Sdk LONG := execBuffer zmqApiSend

def execZmqRecv : Sdk LONG := execBuffer fun socket buf len flags => do
  let (n, _) ← zmqApiRecv socket buf len flags
  return n

def sendStrAction (socket : LONG) (msg : ParsedString) (flags : LONG) : Sdk LONG := do
  if msg.len.toNat > TB_RETURN_STRING_MAX then return -1
  let copy := localArray TB_RETURN_STRING_MAX
  let copy ← (if msg.len > 0 then memcpy copy msg.ptr msg.len else pure copy)
  zmqApiSend (tbPtrFromHandle socket) (.arr copy) msg.len flags

def execZmqSendStr : Sdk LONG := do
  if !(← tbExpectOpenParens) then return 0
  let some socket ← tbParseInt | return 0
  if !(← tbExpectComma) then return 0
  let some msg ← tbParseString | return 0
  if !(← tbExpectComma) then return 0
  let some flags ← tbParseInt | return 0
  if !(← tbExpectCloseParens) then return 0
  sendStrAction socket msg flags

def recvStrAction (socket maxLen flags : LONG) : Sdk Bstr := do
  if maxLen ≤ 0 then return ← tbReturnEmpty
  let maxLen := if maxLen > 4096 then 4096 else maxLen
  let buf := localArray TB_RETURN_STRING_MAX
  let (n, stored) ← zmqApiRecv (tbPtrFromHandle socket) (.arr buf) maxLen.toUInt32 flags
  let buf := Memory.put buf 0 stored
  if n < 0 then return ← tbReturnEmpty
  let copied := n.toUInt32
  let copied := if copied > maxLen.toUInt32 then maxLen.toUInt32 else copied
  tbReturnStringN (some buf) copied.toNat

def execZmqRecvStr : Sdk Bstr := do
  if !(← tbExpectOpenParens) then return ← tbReturnEmpty
  let some socket ← tbParseInt | tbReturnEmpty
  if !(← tbExpectComma) then return ← tbReturnEmpty
  let some maxLen ← tbParseInt | tbReturnEmpty
  if !(← tbExpectComma) then return ← tbReturnEmpty
  let some flags ← tbParseInt | tbReturnEmpty
  if !(← tbExpectCloseParens) then return ← tbReturnEmpty
  recvStrAction socket maxLen flags

def execZmqSetsockoptInt : Sdk LONG := do
  if !(← tbExpectOpenParens) then return 0
  let some socket ← tbParseInt | return 0
  if !(← tbExpectComma) then return 0
  let some option ← tbParseInt | return 0
  if !(← tbExpectComma) then return 0
  let some value ← tbParseInt | return 0
  if !(← tbExpectCloseParens) then return 0
  zmqApiSetsockopt (tbPtrFromHandle socket) option (.long value) 4

def setsockoptStrAction (socket option : LONG) (value : ParsedString) : Sdk LONG := do
  if value.len.toNat ≥ 256 then return -1
  let valueCopy ← copyString 256 value
  zmqApiSetsockopt (tbPtrFromHandle socket) option (.arr valueCopy) value.len

def execZmqSetsockoptStr : Sdk LONG := do
  if !(← tbExpectOpenParens) then return 0
  let some socket ← tbParseInt | return 0
  if !(← tbExpectComma) then return 0
  let some option ← tbParseInt | return 0
  if !(← tbExpectComma) then return 0
  let some value ← tbParseString | return 0
  if !(← tbExpectCloseParens) then return 0
  setsockoptStrAction socket option value

def getsockoptIntAction (socket option : LONG) : Sdk LONG := do
  let optval : LONG := 0
  let (rc, stored) ← zmqApiGetsockopt (tbPtrFromHandle socket) option (.long optval) 4
  if rc ≠ 0 then return -1
  return stored.getD optval

def execZmqGetsockoptInt : Sdk LONG := do
  if !(← tbExpectOpenParens) then return 0
  let some socket ← tbParseInt | return 0
  if !(← tbExpectComma) then return 0
  let some option ← tbParseInt | return 0
  if !(← tbExpectCloseParens) then return 0
  getsockoptIntAction socket option

def curveKeypairAction (publicBuf secretBuf : LONG) : Sdk LONG := do
  if publicBuf = 0 ∨ secretBuf = 0 then return -1
  let (rc, _, _) ←
    zmqApiCurveKeypair (.addr (tbPtrFromHandle publicBuf)) (.addr (tbPtrFromHandle secretBuf))
  return rc

def execZmqCurveKeypair : Sdk LONG := do
  if !(← tbExpectOpenParens) then return -1
  let some publicBuf ← tbParseInt | return -1
  if !(← tbExpectComma) then return -1
  let some secretBuf ← tbParseInt | return -1
  if !(← tbExpectCloseParens) then return -1
  curveKeypairAction publicBuf secretBuf

def curvePublicAction (publicBuf : LONG) (secret : ParsedString) : Sdk LONG := do
  if publicBuf = 0 ∨ secret.len.toNat ≠ ZMQ_CURVE_KEYSIZE_Z85 then return -1
  let secretCopy ← copyString (ZMQ_CURVE_KEYSIZE_Z85 + 1) secret
  let (rc, _) ← zmqApiCurvePublic (.addr (tbPtrFromHandle publicBuf)) (.arr secretCopy)
  return rc

def execZmqCurvePublic : Sdk LONG := do
  if !(← tbExpectOpenParens) then return -1
  let some publicBuf ← tbParseInt | return -1
  if !(← tbExpectComma) then return -1
  let some secret ← tbParseString | return -1
  if !(← tbExpectCloseParens) then return -1
  curvePublicAction publicBuf secret

def curvePublicStrAction (secret : ParsedString) : Sdk Bstr := do
  if secret.len.toNat ≠ ZMQ_CURVE_KEYSIZE_Z85 then return ← tbReturnEmpty
  let secretCopy ← copyString (ZMQ_CURVE_KEYSIZE_Z85 + 1) secret
  let publicBuf ← store (localArray (ZMQ_CURVE_KEYSIZE_Z85 + 1)) 0 [0]
  let (rc, stored) ← zmqApiCurvePublic (.arr publicBuf) (.arr secretCopy)
  let publicBuf := Memory.put publicBuf 0 stored
  if rc ≠ 0 then return ← tbReturnEmpty
  let publicBuf ← store publicBuf ZMQ_CURVE_KEYSIZE_Z85 [0]
  tbReturnString (some publicBuf)

def execZmqCurvePublicStr : Sdk Bstr := do
  if !(← tbExpectOpenParens) then return ← tbReturnEmpty
  let some secret ← tbParseString | tbReturnEmpty
  if !(← tbExpectCloseParens) then return ← tbReturnEmpty
  curvePublicStrAction secret

def z85EncodeAction (dest data size : LONG) : Sdk LONG := do
  if dest = 0 ∨ data = 0 ∨ size ≤ 0 ∨ size &&& 3 ≠ 0 then return 0
  let (out, _) ←
    zmqApiZ85Encode (.addr (tbPtrFromHandle dest)) (.addr (tbPtrFromHandle data)) size.toUInt32
  return tbHandleFromPtr out

def execZmqZ85Encode : Sdk LONG := do
  if !(← tbExpectOpenParens) then return 0
  let some dest ← tbParseInt | return 0
  if !(← tbExpectComma) then return 0
  let some data ← tbParseInt | return 0
  if !(← tbExpectComma) then return 0
  let some size ← tbParseInt | return 0
  if !(← tbExpectCloseParens) then return 0
  z85EncodeAction dest data size

def z85DecodeAction (dest : LONG) (encoded : ParsedString) : Sdk LONG := do
  if dest = 0 ∨ encoded.len = 0 ∨ encoded.len % 5 ≠ 0 ∨ encoded.len.toNat ≥ 256 then return 0
  let encodedCopy ← copyString 256 encoded
  let (out, _) ← zmqApiZ85Decode (.addr (tbPtrFromHandle dest)) (.arr encodedCopy)
  return tbHandleFromPtr out

def execZmqZ85Decode : Sdk LONG := do
  if !(← tbExpectOpenParens) then return 0
  let some dest ← tbParseInt | return 0
  if !(← tbExpectComma) then return 0
  let some encoded ← tbParseString | return 0
  if !(← tbExpectCloseParens) then return 0
  z85DecodeAction dest encoded

/-- What is left of `ZmqZ85EncodeStr` behind its guards. -/
def encodeInto (data size : LONG) : Sdk Bstr := do
  let dest ← store (localArray TB_RETURN_STRING_MAX) 0 [0]
  let (out, stored) ← zmqApiZ85Encode (.arr dest) (.addr (tbPtrFromHandle data)) size.toUInt32
  let dest := Memory.put dest 0 stored
  if out = 0 then return ← tbReturnEmpty
  tbReturnString (some dest)

def z85EncodeStrAction (data size : LONG) : Sdk Bstr := do
  if data = 0 ∨ size ≤ 0 ∨ size &&& 3 ≠ 0 then return ← tbReturnEmpty
  let encodedLen : SizeT := size.toUInt32 * 5 / 4
  if encodedLen = 0 ∨ encodedLen.toNat ≥ TB_RETURN_STRING_MAX then return ← tbReturnEmpty
  encodeInto data size

def execZmqZ85EncodeStr : Sdk Bstr := do
  if !(← tbExpectOpenParens) then return ← tbReturnEmpty
  let some data ← tbParseInt | tbReturnEmpty
  if !(← tbExpectComma) then return ← tbReturnEmpty
  let some size ← tbParseInt | tbReturnEmpty
  if !(← tbExpectCloseParens) then return ← tbReturnEmpty
  z85EncodeStrAction data size

def z85DecodeStrAction (encoded : ParsedString) (dest destSize : LONG) : Sdk LONG := do
  if dest = 0 ∨ destSize ≤ 0 ∨ encoded.len = 0 ∨ encoded.len % 5 ≠ 0 ∨
      encoded.len.toNat ≥ TB_RETURN_STRING_MAX then return 0
  let need : DWORD := encoded.len * 4 / 5
  if need = 0 ∨ destSize.toUInt32 < need then return 0
  let encodedCopy ← copyString TB_RETURN_STRING_MAX encoded
  let (out, _) ← zmqApiZ85Decode (.addr (tbPtrFromHandle dest)) (.arr encodedCopy)
  return tbHandleFromPtr out

def execZmqZ85DecodeStr : Sdk LONG := do
  if !(← tbExpectOpenParens) then return 0
  let some encoded ← tbParseString | return 0
  if !(← tbExpectComma) then return 0
  let some dest ← tbParseInt | return 0
  if !(← tbExpectComma) then return 0
  let some destSize ← tbParseInt | return 0
  if !(← tbExpectCloseParens) then return 0
  z85DecodeStrAction encoded dest destSize

end ThinBasicZmq
