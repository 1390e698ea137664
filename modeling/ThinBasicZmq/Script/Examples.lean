import ThinBasicZmq.Script.PubSub
import ThinBasicZmq.Script.PushPull
import ThinBasicZmq.Script.RequestReply

/-!
# The example scripts of the SDK

The scripts from their first line to their last one. `Sleep`, `Randomize` and `Console_Read` do
nothing to libzmq.
-/

namespace ThinBasicZmq

open Interaction

/-- A value that the module has registered. -/
def equate (name : String) : LONG := .ofUInt32 ((zmqEquates.lookup name).getD 0)

example : equate "%ZMQ_LINGER" = 17 := by
  decide

/-- How a run of a script comes to its end: behind the last line, by `Stop`, or not at all, where
it is cut off in an endless loop. -/
inductive Exit
  | ended | stopped | running
deriving DecidableEq

/-- What the scripts take from their surroundings. -/
structure Setting where
  lpszLibPath : List UInt8
  /-- how numbers are written -/
  text : LONG → List UInt8
  /-- `Str$` -/
  str : LONG → List UInt8
  /-- the random numbers of the publisher -/
  quotes : ℕ → LONG × LONG
  /-- `StrPtr` of a variable of fixed length -/
  strPtr : String → LONG
  /-- what libzmq has left in it -/
  content : String → List UInt8
  /-- the rounds of an endless loop that are looked at -/
  rounds : ℕ

namespace Script

def zmqErrno : Script LONG :=
  Value.int <$> (Prog.request (ScriptCall.keyword .zmqErrno []) : Script Value)

def zmqStrerrorString (errnum : LONG) : Script (List UInt8) :=
  Value.chars <$> (Prog.request (ScriptCall.keyword .zmqStrerrorString
    [.int errnum]) : Script Value)

/-- `ZmqVersionMajor` and the like. -/
def zmqVersion (k : Keyword) : Script LONG :=
  Value.int <$> (Prog.request (ScriptCall.keyword k []) : Script Value)

def zmqHas (capability : List UInt8) : Script LONG :=
  Value.int <$> (Prog.request (ScriptCall.keyword .zmqHas
    [.str (some (ScriptString.ofBytes capability).ptr)]) : Script Value)

def zmqCtxSet (hContext options optval : LONG) : Script LONG :=
  Value.int <$> (Prog.request (ScriptCall.keyword .zmqCtxSet
    [.int hContext, .int options, .int optval]) : Script Value)

def zmqCtxGet (hContext options : LONG) : Script LONG :=
  Value.int <$> (Prog.request (ScriptCall.keyword .zmqCtxGet
    [.int hContext, .int options]) : Script Value)

def zmqBind (hSocket : LONG) (addr : List UInt8) : Script LONG :=
  Value.int <$> (Prog.request (ScriptCall.keyword .zmqBind
    [.int hSocket, .str (some (ScriptString.ofBytes addr).ptr)]) : Script Value)

def zmqConnect (hSocket : LONG) (addr : List UInt8) : Script LONG :=
  Value.int <$> (Prog.request (ScriptCall.keyword .zmqConnect
    [.int hSocket, .str (some (ScriptString.ofBytes addr).ptr)]) : Script Value)

def zmqUnbind (hSocket : LONG) (addr : List UInt8) : Script LONG :=
  Value.int <$> (Prog.request (ScriptCall.keyword .zmqUnbind
    [.int hSocket, .str (some (ScriptString.ofBytes addr).ptr)]) : Script Value)

def zmqSetsockoptInt (hSocket options optval : LONG) : Script Value :=
  Prog.request (ScriptCall.keyword .zmqSetsockoptInt [.int hSocket, .int options, .int optval])

def zmqSetsockoptStr (hSocket options : LONG) (optval : List UInt8) : Script LONG :=
  Value.int <$> (Prog.request (ScriptCall.keyword .zmqSetsockoptStr
    [.int hSocket, .int options, .str (some (ScriptString.ofBytes optval).ptr)]) : Script Value)

def zmqGetsockoptInt (hSocket options : LONG) : Script LONG :=
  Value.int <$> (Prog.request (ScriptCall.keyword .zmqGetsockoptInt
    [.int hSocket, .int options]) : Script Value)

def zmqCurveKeypair (z85Public z85Secret : LONG) : Script LONG :=
  Value.int <$> (Prog.request (ScriptCall.keyword .zmqCurveKeypair
    [.int z85Public, .int z85Secret]) : Script Value)

def zmqCurvePublicStr (z85Secret : List UInt8) : Script (List UInt8) :=
  Value.chars <$> (Prog.request (ScriptCall.keyword .zmqCurvePublicStr
    [.str (some (ScriptString.ofBytes z85Secret).ptr)]) : Script Value)

def zmqZ85EncodeStr (data size : LONG) : Script (List UInt8) :=
  Value.chars <$> (Prog.request (ScriptCall.keyword .zmqZ85EncodeStr
    [.int data, .int size]) : Script Value)

def zmqZ85DecodeStr (encoded : List UInt8) (dest destSize : LONG) : Script LONG :=
  Value.int <$> (Prog.request (ScriptCall.keyword .zmqZ85DecodeStr
    [.str (some (ScriptString.ofBytes encoded).ptr), .int dest, .int destSize]) : Script Value)

section

variable (e : Setting)

/-- The lines in front of all the others, where the library is loaded. -/
def withLibrary (rest : Script Exit) : Script Exit := do
  let rc ← zmqLibraryInit e.lpszLibPath
  if rc = 0 then
    printl (chars "Failed to load libzmq from " ++ e.lpszLibPath)
    return .stopped
  else rest

/-- The first rounds of an endless loop. -/
def rounds {α : Type} (body : α → Script α) : ℕ → α → Script Exit
  | 0, _ => return .running
  | n + 1, a => do
    let a ← body a
    rounds body n a

def completed : Script Exit := do
  printl (chars "Completed!")
  return .ended

def unload : Script Exit := do
  let _ ← zmqLibraryShutdown
  completed

/-- The last lines of the scripts with one socket. -/
def closeSocket (hSocket hContext : LONG) (last : Script Exit) : Script Exit := do
  let _ ← zmqClose hSocket
  let _ ← zmqCtxShutdown hContext
  let _ ← zmqLibraryShutdown
  last

/-- The last lines of the scripts with two sockets. -/
def closeSockets (first second hContext : LONG) : Script Exit := do
  let _ ← zmqClose first
  closeSocket second hContext completed

/-- A socket without a linger period, in a context of its own. -/
def withSocket (stype : LONG) (rest : LONG → LONG → Script Exit) : Script Exit := withLibrary e do
  let hContext ← zmqCtxNew
  let hSocket ← zmqSocket hContext stype
  let _ ← zmqSetsockoptInt hSocket (equate "%ZMQ_LINGER") 0
  rest hContext hSocket

/-- `ZmqSdkReqClient.tbasic` -/
def zmqSdkReqClient : Script Exit := withSocket e (equate "%ZMQ_REQ") fun hContext hSocket => do
  let lpszServerAddr := chars "tcp://127.0.0.1:1740"
  let rc ← zmqConnect hSocket lpszServerAddr
  if rc ≠ 0 then
    printlError (chars "Connect failed: ")
    closeSocket hSocket hContext completed
  else
    printl (chars "Connect to Server: " ++ lpszServerAddr)
    reqClient hSocket 11
    closeSocket hSocket hContext completed

/-- `ZmqSdkRepServer.tbasic` -/
def zmqSdkRepServer : Script Exit := withSocket e (equate "%ZMQ_REP") fun hContext hSocket => do
  let lpszServerAddr := chars "tcp://*:1740"
  let rc ← zmqBind hSocket lpszServerAddr
  if rc ≠ 0 then
    printlError (chars "Bind failed: ")
    closeSocket hSocket hContext (return .ended)
  else
    printl (chars "Bind an IP address: " ++ lpszServerAddr)
    rounds (repServer e.text hSocket) e.rounds 0

/-- `ZmqSdkPubServer.tbasic` -/
def zmqSdkPubServer : Script Exit := withSocket e (equate "%ZMQ_PUB") fun hContext hSocket => do
  let lpszServerAddr := chars "tcp://*:1741"
  let rc ← zmqBind hSocket lpszServerAddr
  if rc ≠ 0 then
    printlError (chars "Bind failed: ")
    closeSocket hSocket hContext (return .ended)
  else
    printl (chars "Bind an IP address: " ++ lpszServerAddr)
    rounds (PubSub.pubRound e.str e.quotes hSocket) e.rounds 0

/-- `ZmqSdkSubClient.tbasic` -/
def zmqSdkSubClient : Script Exit := withSocket e (equate "%ZMQ_SUB") fun hContext hSocket => do
  let lpszServerAddr := chars "tcp://127.0.0.1:1741"
  let lpszSubscribe := chars "quotes"
  let rc ← zmqSetsockoptStr hSocket (equate "%ZMQ_SUBSCRIBE") lpszSubscribe
  if rc ≠ 0 then
    printlError (chars "Subscribe failed: ")
    closeSocket hSocket hContext (return .ended)
  else
    let rc ← zmqConnect hSocket lpszServerAddr
    if rc ≠ 0 then
      printlError (chars "Connect failed: ")
      closeSocket hSocket hContext (return .ended)
    else
      printl (chars "Connected: " ++ lpszServerAddr ++ chars " (subscribe=" ++ lpszSubscribe ++
        chars ")")
      rounds (fun _ => subClient hSocket) e.rounds ()

/-- `ZmqSdkPushClient.tbasic` -/
def zmqSdkPushClient : Script Exit := withSocket e (equate "%ZMQ_PUSH") fun hContext hSocket => do
  let rc ← zmqConnect hSocket PushPull.lpszServerAddr
  if rc ≠ 0 then
    printlError (chars "Connect failed: ")
    closeSocket hSocket hContext completed
  else
    printl (chars "Connect to Sink: " ++ PushPull.lpszServerAddr)
    pushClient e.text hSocket PushPull.lpszServerAddr PushPull.PUSHES 0
    closeSocket hSocket hContext completed

/-- `ZmqSdkPullServer.tbasic`. What comes behind its loop is reached only where it is not
entered. -/
def zmqSdkPullServer : Script Exit := withSocket e (equate "%ZMQ_PULL") fun hContext hSocket => do
  let lpszServerAddr := chars "tcp://*:1743"
  let rc ← zmqBind hSocket lpszServerAddr
  if rc ≠ 0 then
    printlError (chars "Bind failed: ")
    let _ ← zmqUnbind hSocket lpszServerAddr
    closeSocket hSocket hContext (return .ended)
  else
    printl (chars "Bind an IP address: " ++ lpszServerAddr)
    rounds (pullServer e.text hSocket) e.rounds 0

/-- One side of `ZmqSdkMultipart.tbasic` receives. -/
def multipartRecv (hSocket : LONG) : Script (List UInt8 × List UInt8) := do
  let lpszRecv1 ← zmqRecvStr hSocket 256 0
  let rcvm ← zmqGetsockoptInt hSocket ZMQ_RCVMORE
  if rcvm ≠ 0 then
    let lpszRecv2 ← zmqRecvStr hSocket 256 0
    return (lpszRecv1, lpszRecv2)
  else return (lpszRecv1, [])

/-- What the server of `ZmqSdkMultipart.tbasic` prints. -/
def multipartServer (lpszRecv1 lpszRecv2 : List UInt8) : Script Unit := do
  let got := chars "Server got: [" ++ lpszRecv1 ++ chars "], [" ++ lpszRecv2 ++ chars "]"
  if lpszRecv1.length = 0 then
    printlError (chars "Server recv frame1 failed or empty: ")
    printl got
  else printl got

/-- `ZmqSdkMultipart.tbasic` -/
def zmqSdkMultipart : Script Exit := do
  let lpszServerAddr := chars "tcp://127.0.0.1:1751"
  let rc ← zmqLibraryInit e.lpszLibPath
  if rc = 0 then
    printl (chars "Failed to load libzmq from " ++ e.lpszLibPath)
    let errno ← zmqErrno
    let errnum ← zmqErrno
    let msg ← zmqStrerrorString errnum
    printl (chars "errno: " ++ e.text errno ++ chars " (" ++ msg ++ chars ")")
    return .stopped
  else
    let hContext ← zmqCtxNew
    let hSocketRep ← zmqSocket hContext (equate "%ZMQ_REP")
    let hSocketReq ← zmqSocket hContext (equate "%ZMQ_REQ")
    let _ ← zmqSetsockoptInt hSocketRep (equate "%ZMQ_LINGER") 0
    let _ ← zmqSetsockoptInt hSocketReq (equate "%ZMQ_LINGER") 0
    let _ ← zmqBind hSocketRep lpszServerAddr
    let _ ← zmqConnect hSocketReq lpszServerAddr
    let _ ← zmqSendStr hSocketReq (chars "frame-1") ZMQ_SNDMORE
    let rc ← zmqSendStr hSocketReq (chars "frame-2") 0
    if rc = .long (-1) then
      printlError (chars "Client send frame2 failed: ")
      return .stopped
    else
      let (lpszRecv1, lpszRecv2) ← multipartRecv hSocketRep
      multipartServer lpszRecv1 lpszRecv2
      let _ ← zmqSendStr hSocketRep (chars "reply-1") ZMQ_SNDMORE
      let rc ← zmqSendStr hSocketRep (chars "reply-2") 0
      if rc = .long (-1) then
        printlError (chars "Server send frame2 failed: ")
        return .stopped
      else
        let (lpszRecv1, lpszRecv2) ← multipartRecv hSocketReq
        printl (chars "Client got reply: [" ++ lpszRecv1 ++ chars "], [" ++ lpszRecv2 ++ chars "]")
        closeSockets hSocketReq hSocketRep hContext

/-- The loop of `ZmqSdkPushPull.tbasic`, with the number of rounds that are left. -/
def pushPullJobs (hPush hPull : LONG) : ℕ → LONG → LONG → Script LONG
  | 0, _, nGot => return nGot
  | n + 1, i, nGot => do
    let rc ← zmqSendStr hPush (chars "Job " ++ e.text i) 0
    if rc = .long (-1) then
      printlError (chars "Send failed: ")
      return nGot
    else
      let lpszRecv ← zmqRecvStr hPull 64 0
      if lpszRecv.length = 0 then
        printlError (chars "Recv failed: ")
        return nGot
      else
        printl (chars "Pulled: " ++ lpszRecv)
        pushPullJobs hPush hPull n (i + 1) (nGot + 1)

/-- `ZmqSdkPushPull.tbasic` between its sockets and their end. -/
def pushPullSession (hPush hPull : LONG) : Script Unit := do
  let lpszBindAddr := chars "tcp://127.0.0.1:1743"
  let rc ← zmqBind hPull lpszBindAddr
  if rc ≠ 0 then printlError (chars "Bind failed: ")
  else
    let rc ← zmqConnect hPush lpszBindAddr
    if rc ≠ 0 then printlError (chars "Connect failed: ")
    else
      printl (chars "PUSH/PULL on " ++ lpszBindAddr)
      let nGot ← pushPullJobs e hPush hPull 5 1 0
      printl (chars "Jobs: " ++ e.text nGot)
      let rc ← zmqDisconnect hPush lpszBindAddr
      (if rc ≠ .long 0 then printlError (chars "Disconnect failed: ")
        else printl (chars "Disconnected PUSH"))
      let rc ← zmqUnbind hPull lpszBindAddr
      if rc ≠ 0 then printlError (chars "Unbind failed: ") else printl (chars "Unbound PULL")

/-- `ZmqSdkPushPull.tbasic` -/
def zmqSdkPushPull : Script Exit := withLibrary e do
  let hContext ← zmqCtxNew
  let hPull ← zmqSocket hContext (equate "%ZMQ_PULL")
  let hPush ← zmqSocket hContext (equate "%ZMQ_PUSH")
  let _ ← zmqSetsockoptInt hPull (equate "%ZMQ_LINGER") 0
  let _ ← zmqSetsockoptInt hPush (equate "%ZMQ_LINGER") 0
  let _ ← zmqSetsockoptInt hPull (equate "%ZMQ_RCVTIMEO") 2000
  pushPullSession e hPush hPull
  closeSockets hPush hPull hContext

/-- The loop of `ZmqSdkCurve.tbasic`, with the number of rounds that are left. -/
def curveReplies (hSocketReq hSocketRep : LONG) : ℕ → LONG → Script LONG
  | 0, nReplyCount => return nReplyCount
  | n + 1, nReplyCount => do
    let rc ← zmqSendStr hSocketReq (chars "From Curve Client") 0
    if rc = .long (-1) then
      printlError (chars "Send failed: ")
      return nReplyCount
    else
      let lpszRecv ← zmqRecvStr hSocketRep 64 0
      if lpszRecv.length = 0 then
        printlError (chars "REP recv failed: ")
        return nReplyCount
      else
        printl (chars "REP received: " ++ lpszRecv)
        let _ ← zmqSendStr hSocketRep (chars "Curve Hi") 0
        let lpszRecv ← zmqRecvStr hSocketReq 64 0
        if lpszRecv.length = 0 then
          printlError (chars "REQ recv failed: ")
          return nReplyCount
        else
          printl (chars "Client Reply: " ++ lpszRecv)
          curveReplies hSocketReq hSocketRep n (nReplyCount + 1)

/-- `Left$(.., %ZMQ_CURVE_KEYSIZE_Z85)` of a variable that holds a key. -/
def key (name : String) : List UInt8 := (e.content name).take ZMQ_CURVE_KEYSIZE_Z85

/-- `ZmqSdkCurve.tbasic` between its sockets and their end. -/
def curveSession (hSocketReq hSocketRep : LONG) : Script Unit := do
  let lpszClientAddr := chars "tcp://127.0.0.1:1742"
  let _ ← zmqSetsockoptInt hSocketRep (equate "%ZMQ_LINGER") 0
  let _ ← zmqSetsockoptInt hSocketReq (equate "%ZMQ_LINGER") 0
  let _ ← zmqSetsockoptInt hSocketRep (equate "%ZMQ_RCVTIMEO") 2000
  let _ ← zmqSetsockoptInt hSocketReq (equate "%ZMQ_RCVTIMEO") 2000
  let _ ← zmqSetsockoptInt hSocketReq (equate "%ZMQ_SNDTIMEO") 2000
  let _ ← zmqSetsockoptInt hSocketRep (equate "%ZMQ_CURVE_SERVER") 1
  let _ ← zmqSetsockoptStr hSocketRep (equate "%ZMQ_CURVE_SECRETKEY") (key e "lpszServerSecret")
  let _ ← zmqSetsockoptStr hSocketReq (equate "%ZMQ_CURVE_PUBLICKEY") (key e "lpszClientPublic")
  let _ ← zmqSetsockoptStr hSocketReq (equate "%ZMQ_CURVE_SECRETKEY") (key e "lpszClientSecret")
  let _ ← zmqSetsockoptStr hSocketReq (equate "%ZMQ_CURVE_SERVERKEY") (key e "lpszServerPublic")
  let _ ← zmqBind hSocketRep lpszClientAddr
  let _ ← zmqConnect hSocketReq lpszClientAddr
  let nMechanism ← zmqGetsockoptInt hSocketReq (equate "%ZMQ_MECHANISM")
  printl (chars "Client mechanism: " ++ e.text nMechanism ++ chars " (CURVE=" ++
    e.text (equate "%ZMQ_CURVE") ++ chars ")")
  printl (chars "CURVE REQ/REP on " ++ lpszClientAddr)
  printl (chars "Server Public: " ++ key e "lpszServerPublic")
  let nReplyCount ← curveReplies hSocketReq hSocketRep 3 0
  printl (chars "Curve replies: " ++ e.text nReplyCount)

/-- `ZmqSdkCurve.tbasic`. Both operands of its `Or` are evaluated. -/
def zmqSdkCurve : Script Exit := withLibrary e do
  let has ← zmqHas (chars "curve")
  if has = 0 then
    printl (chars "libzmq was built without CURVE support (zmq_has(\"curve\") = 0).")
    unload
  else
    let rcServer ← zmqCurveKeypair (e.strPtr "lpszServerPublic") (e.strPtr "lpszServerSecret")
    let rcClient ← zmqCurveKeypair (e.strPtr "lpszClientPublic") (e.strPtr "lpszClientSecret")
    if rcServer ≠ 0 ∨ rcClient ≠ 0 then
      printlError (chars "CurveKeypair failed: ")
      unload
    else
      let hContext ← zmqCtxNew
      let hSocketRep ← zmqSocket hContext (equate "%ZMQ_REP")
      let hSocketReq ← zmqSocket hContext (equate "%ZMQ_REQ")
      curveSession e hSocketReq hSocketRep
      closeSockets hSocketReq hSocketRep hContext

/-- `ZmqSdkSmoke.tbasic` between its sockets and their end. -/
def smokeSession (hSocketReq hSocketRep : LONG) : Script Unit := do
  let lpszServerAddr := chars "tcp://127.0.0.1:1735"
  let _ ← zmqSetsockoptInt hSocketRep (equate "%ZMQ_LINGER") 0
  let _ ← zmqSetsockoptInt hSocketReq (equate "%ZMQ_LINGER") 0
  let _ ← zmqBind hSocketRep lpszServerAddr
  let _ ← zmqConnect hSocketReq lpszServerAddr
  let _ ← zmqSendStr hSocketReq (chars "From SDK Client") 0
  let lpszRecv ← zmqRecvStr hSocketRep 64 0
  smokeReply lpszRecv
  let lpszRecv ← zmqRecvStr hSocketReq 64 0
  if lpszRecv.length > 0 then printl (chars "REQ reply: " ++ lpszRecv)
where
  smokeReply (lpszRecv : List UInt8) : Script Unit := do
    if lpszRecv.length > 0 then
      printl (chars "REP received: " ++ lpszRecv)
      let _ ← zmqSendStr hSocketRep (chars "Hi from SDK") 0

/-- `ZmqSdkSmoke.tbasic`, which goes on without the library and does not shut its context down. -/
def zmqSdkSmoke : Script Exit := do
  let _ ← zmqLibraryInit e.lpszLibPath
  let nMajor ← zmqVersion .zmqVersionMajor
  let nMinor ← zmqVersion .zmqVersionMinor
  let nPatch ← zmqVersion .zmqVersionPatch
  printl (chars "ZmqSdkSmoke starting...")
  printl (chars "libzmq version: " ++ e.text nMajor ++ chars "." ++ e.text nMinor ++ chars "." ++
    e.text nPatch)
  let msg ← zmqStrerrorString 0
  printl (chars "strerror(0): " ++ msg)
  let hContext ← zmqCtxNew
  let hSocketRep ← zmqSocket hContext (equate "%ZMQ_REP")
  let hSocketReq ← zmqSocket hContext (equate "%ZMQ_REQ")
  smokeSession hSocketReq hSocketRep
  let _ ← zmqClose hSocketReq
  let _ ← zmqClose hSocketRep
  unload

/-- `ZmqSdkCtx.tbasic` -/
def zmqSdkCtx : Script Exit := withLibrary e do
  let hContext ← zmqCtxNew
  let nIoBefore ← zmqCtxGet hContext (equate "%ZMQ_IO_THREADS")
  let nMaxSockets ← zmqCtxGet hContext (equate "%ZMQ_MAX_SOCKETS")
  printl (chars "IO threads (default): " ++ e.text nIoBefore ++ chars " (DFLT=" ++
    e.text (equate "%ZMQ_IO_THREADS_DFLT") ++ chars ")")
  printl (chars "Max sockets: " ++ e.text nMaxSockets ++ chars " (DFLT=" ++
    e.text (equate "%ZMQ_MAX_SOCKETS_DFLT") ++ chars ")")
  let rc ← zmqCtxSet hContext (equate "%ZMQ_IO_THREADS") 2
  ctxResult hContext rc
  let _ ← zmqCtxShutdown hContext
  unload
where
  ctxResult (hContext rc : LONG) : Script Unit := do
    if rc ≠ 0 then printlError (chars "CtxSet failed: ")
    else
      let nIoAfter ← zmqCtxGet hContext (equate "%ZMQ_IO_THREADS")
      printl (chars "IO threads (after set 2): " ++ e.text nIoAfter)
      if nIoAfter = 2 then printl (chars "CtxSet/Get OK")

/-- What `ZmqSdkCurvePublic.tbasic` does with a library. -/
def curvePublicSession : Script Unit := do
  let has ← zmqHas (chars "curve")
  if has = 0 then
    printl (chars "libzmq was built without CURVE support (zmq_has(\"curve\") = 0).")
  else
    let rc ← zmqCurveKeypair (e.strPtr "lpszPublic") (e.strPtr "lpszSecret")
    if rc ≠ 0 then printlError (chars "CurveKeypair failed: ")
    else
      let lpszDerived ← zmqCurvePublicStr (key e "lpszSecret")
      if lpszDerived.length = 0 then printlError (chars "CurvePublicStr failed: ")
      else
        printl (chars "Public Key : " ++ key e "lpszPublic")
        printl (chars "Secret Key : " ++ key e "lpszSecret")
        printl (chars "Derived Pub: " ++ lpszDerived)
        if key e "lpszPublic" = lpszDerived then
          printl (chars "CurvePublic matches CurveKeypair public key.")

/-- `ZmqSdkCurvePublic.tbasic` -/
def zmqSdkCurvePublic : Script Exit := withLibrary e do
  curvePublicSession e
  unload

/-- What `ZmqSdkZ85.tbasic` does with a library. -/
def z85Session : Script Unit := do
  let lpszEncoded ← zmqZ85EncodeStr (e.strPtr "lpszData") 8
  if lpszEncoded.length = 0 then printlError (chars "Z85 Encode failed: ")
  else
    printl (chars "Z85 Encode: " ++ lpszEncoded)
    let pDec ← zmqZ85DecodeStr lpszEncoded (e.strPtr "lpszDecoded") 8
    if pDec = 0 then printlError (chars "Z85 Decode failed: ")
    else
      let lpszDecoded := (e.content "lpszDecoded").take 8
      printl (chars "Z85 Decode: " ++ lpszDecoded)
      if lpszDecoded = chars "TestData" then printl (chars "Round-trip OK")

/-- `ZmqSdkZ85.tbasic` -/
def zmqSdkZ85 : Script Exit := withLibrary e do
  z85Session e
  unload

end

end Script

inductive SdkExample
  | ctx | curve | curvePublic | multipart | pubServer | pullServer | pushClient | pushPull | repServer
  | reqClient | smoke | subClient | z85
deriving DecidableEq

def SdkExample.script (e : Setting) : SdkExample → Script Exit
  | ctx => Script.zmqSdkCtx e
  | curve => Script.zmqSdkCurve e
  | curvePublic => Script.zmqSdkCurvePublic e
  | multipart => Script.zmqSdkMultipart e
  | pubServer => Script.zmqSdkPubServer e
  | pullServer => Script.zmqSdkPullServer e
  | pushClient => Script.zmqSdkPushClient e
  | pushPull => Script.zmqSdkPushPull e
  | repServer => Script.zmqSdkRepServer e
  | reqClient => Script.zmqSdkReqClient e
  | smoke => Script.zmqSdkSmoke e
  | subClient => Script.zmqSdkSubClient e
  | z85 => Script.zmqSdkZ85 e

end ThinBasicZmq
