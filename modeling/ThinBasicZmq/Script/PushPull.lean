import ThinBasicZmq.Protocol.Pipes
import ThinBasicZmq.Script.Processes

/-!
# Pushing and pulling

Any number of processes push numbered messages to one process that pulls and counts them. A
client stops at the first message that it cannot push, and disconnects in any case.
-/

namespace ThinBasicZmq

open Interaction

namespace Script

/-- What comes behind the loop of the client. -/
def pushDisconnect (hSocket : LONG) (lpszServerAddr : List UInt8) : Script Unit := do
  let rc ← zmqDisconnect hSocket lpszServerAddr
  if rc ≠ .long 0 then printlError (chars "Disconnect failed: ")
  else printl (chars "Disconnected")

/-- The loop of the client from `i` on, with the number of rounds that are left. `text` is how
the interpreter writes a number. -/
def pushClient (text : LONG → List UInt8) (hSocket : LONG) (lpszServerAddr : List UInt8) :
    ℕ → LONG → Script Unit
  | 0, _ => pushDisconnect hSocket lpszServerAddr
  | n + 1, i => do
    let lpszSendMessage := chars "Push " ++ text i
    let rc ← zmqSendStr hSocket lpszSendMessage 0
    if rc = .long (-1) then
      printlError (chars "Send failed: ")
      pushDisconnect hSocket lpszServerAddr
    else
      printl (chars "Pushed: " ++ lpszSendMessage)
      pushClient text hSocket lpszServerAddr n (i + 1)

/-- The body of the sink's loop. -/
def pullServer (text : LONG → List UInt8) (hSocket lTotal : LONG) : Script LONG := do
  let lpszRecv ← zmqRecvStr hSocket 64 0
  if lpszRecv.length > 0 then
    let lTotal := lTotal + 1
    printl (chars "Pulled #" ++ text lTotal ++ chars ": " ++ lpszRecv)
    return lTotal
  else return lTotal

end Script

variable {κ L : Type} [DecidableEq κ]

/-- The libraries of a process with a PULL socket (`none`) and of processes with PUSH sockets. A
call may fail. What was pushed is lost only if the client disconnects before it has arrived. -/
structure PushPull (lib : Option κ → Library L) (hSocket : Option κ → LONG) where
  queue : L → κ → List (List UInt8)
  /-- a call that receives comes back -/
  returns : L → Option κ → Prop
  push : ∀ l k buf n b, buf.bytes n.toNat = some b → b.length ≤ TB_RETURN_STRING_MAX →
    (lib (some k) (.send (tbPtrFromHandle (hSocket (some k))) buf n 0) l).1 = -1 ∧
      queue (lib (some k) (.send (tbPtrFromHandle (hSocket (some k))) buf n 0) l).2 = queue l ∨
    (lib (some k) (.send (tbPtrFromHandle (hSocket (some k))) buf n 0) l).1 ≠ -1 ∧
      queue (lib (some k) (.send (tbPtrFromHandle (hSocket (some k))) buf n 0) l).2 =
        Function.update (queue l) k (queue l k ++ [b])
  pull : ∀ l buf n, returns l none →
    (lib none (.recv (tbPtrFromHandle (hSocket none)) buf n 0) l).1 = (-1, []) ∧
      queue (lib none (.recv (tbPtrFromHandle (hSocket none)) buf n 0) l).2 = queue l ∨
    ∃ k b rest, queue l k = b :: rest ∧
      (lib none (.recv (tbPtrFromHandle (hSocket none)) buf n 0) l).1 =
        (Int32.ofNat b.length, b.take n.toNat) ∧
      queue (lib none (.recv (tbPtrFromHandle (hSocket none)) buf n 0) l).2 =
        Function.update (queue l) k rest
  disconnect : ∀ l k endpoint, ∃ rest, rest <+: queue l k ∧
    queue (lib (some k) (.disconnect (tbPtrFromHandle (hSocket (some k))) endpoint) l).2 =
      Function.update (queue l) k rest
  error : ∀ l i c, ReadsError c → queue (lib i c l).2 = queue l

namespace PushPull

variable {lib : Option κ → Library L} {hSocket : Option κ → LONG}

/-- The sink counts. -/
abbrev Kept : Option κ → Type
  | none => LONG
  | some _ => Unit

abbrev Scripts (κ L : Type) := Parties.Config ScriptCall.Resp (Processes κ L) (@Kept κ)

/-- The sink starts its loop again, and the clients stop. -/
def processes (H : Option κ → Host) (R : PushPull lib hSocket) (text : LONG → List UInt8) :
    Parties ScriptCall.Resp (Processes κ L) (@Kept κ) where
  respond := Processes.respondWhen H lib R.returns
  again
    | none, lTotal => some (Script.pullServer text (hSocket none) lTotal)
    | some _, _ => none

def lpszServerAddr : List UInt8 := chars "tcp://127.0.0.1:1743"

/-- The rounds of `For i = 0 To 10`. -/
def PUSHES : ℕ := 11

/-- The scripts behind their setup. -/
def scripts (text : LONG → List UInt8) (hSocket : Option κ → LONG) :
    (i : Option κ) → Prog ScriptCall.Resp (Kept i)
  | none => Script.pullServer text (hSocket none) 0
  | some k => Script.pushClient text (hSocket (some k)) lpszServerAddr PUSHES 0

/-- Sockets without messages, and nothing printed. -/
structure Fresh (R : PushPull lib hSocket) (w : Processes κ L) : Prop where
  ready : ∀ i, (w.sessions i).Ready
  console : ∀ i, w.console i = []
  queue : R.queue w.net = fun _ => []

end PushPull

end ThinBasicZmq
