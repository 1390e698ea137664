import ThinBasicZmq.Protocol.Turns
import ThinBasicZmq.Script.Processes

/-!
# Requests and replies

A server process and any number of client processes, each with a script of its own, one
REP socket and one REQ socket for each client. Between the calls of the scripts everything
may happen in any order. What the sockets do is libzmq's, and is described by what its calls
do to the messages on their way.
-/

namespace ThinBasicZmq

open Interaction

namespace Script

/-- The body of the server's loop. `text` is how the interpreter writes a number. -/
def repServer (text : LONG → List UInt8) (hSocket lTotal : LONG) : Script LONG := do
  let lTotal := lTotal + 1
  let lpszRecv ← zmqRecvStr hSocket 32 0
  if lpszRecv.length > 0 then
    printl (chars "Received: " ++ lpszRecv)
    let lpszSendMessage := chars "Hi " ++ text lTotal
    let _ ← zmqSendStr hSocket lpszSendMessage 0
    return lTotal
  else return lTotal

/-- The loop of the client, with the number of rounds that are left. -/
def reqClient (hSocket : LONG) : ℕ → Script Unit
  | 0 => pure ()
  | n + 1 => do
    let lpszSendMessage := chars "From SDK Client"
    let _ ← zmqSendStr hSocket lpszSendMessage 0
    let lpszRecv ← zmqRecvStr hSocket 32 0
    if lpszRecv.length > 0 then
      printl (chars "Reply From Server: " ++ lpszRecv)
      reqClient hSocket n
    else reqClient hSocket n

end Script

variable {κ L : Type} [DecidableEq κ]

/-- The messages between a REP socket and the REQ sockets of the clients. -/
@[ext] structure Exchange (κ : Type) where
  /-- sent and not yet taken by the REP socket -/
  requests : κ → Option (List UInt8)
  replies : κ → Option (List UInt8)
  /-- whose request the REP socket has to answer before it takes the next one -/
  current : Option κ
  /-- the REQ sockets that have to receive a reply before they send again -/
  waiting : κ → Bool

namespace Exchange

def empty : Exchange κ := ⟨fun _ => none, fun _ => none, none, fun _ => false⟩

def ask (x : Exchange κ) (k : κ) (b : List UInt8) : Exchange κ :=
  { x with
    requests := Function.update x.requests k (some b), waiting := Function.update x.waiting k true }

def receive (x : Exchange κ) (k : κ) : Exchange κ :=
  { x with requests := Function.update x.requests k none, current := some k }

def answer (x : Exchange κ) (k : κ) (b : List UInt8) : Exchange κ :=
  { x with replies := Function.update x.replies k (some b), current := none }

def collect (x : Exchange κ) (k : κ) : Exchange κ :=
  { x with
    replies := Function.update x.replies k none, waiting := Function.update x.waiting k false }

/-- A call that receives returns: there is a message, or the socket is not in the state for it. -/
def Returns (x : Exchange κ) : Option κ → Prop
  | none => x.current = none → ∃ k, x.requests k ≠ none
  | some k => x.waiting k = true → x.replies k ≠ none

end Exchange

/-- The libraries of a server process (`none`) and of client processes, with connected
sockets. `L` is the state of all of them and of the network. -/
structure ReqRep (lib : Option κ → Library L) (hSocket : Option κ → LONG) where
  exchange : L → Exchange κ
  ask : ∀ l k buf n b, buf.bytes n.toNat = some b → (exchange l).waiting k = false →
    exchange (lib (some k) (.send (tbPtrFromHandle (hSocket (some k))) buf n 0) l).2 =
      (exchange l).ask k b
  /-- the REP socket takes one of the requests that are there -/
  receive : ∀ l buf n, (exchange l).current = none → (∃ k, (exchange l).requests k ≠ none) →
    ∃ k b, (exchange l).requests k = some b ∧
      (lib none (.recv (tbPtrFromHandle (hSocket none)) buf n 0) l).1 =
        (Int32.ofNat b.length, b.take n.toNat) ∧
      exchange (lib none (.recv (tbPtrFromHandle (hSocket none)) buf n 0) l).2 =
        (exchange l).receive k
  answer : ∀ l k buf n b, buf.bytes n.toNat = some b → (exchange l).current = some k →
    exchange (lib none (.send (tbPtrFromHandle (hSocket none)) buf n 0) l).2 =
      (exchange l).answer k b
  collect : ∀ l k buf n b, (exchange l).replies k = some b →
    (lib (some k) (.recv (tbPtrFromHandle (hSocket (some k))) buf n 0) l).1 =
      (Int32.ofNat b.length, b.take n.toNat) ∧
    exchange (lib (some k) (.recv (tbPtrFromHandle (hSocket (some k))) buf n 0) l).2 =
      (exchange l).collect k

/-- What a script keeps from one run of its loop to the next: the server counts. -/
abbrev Kept : Option κ → Type
  | none => LONG
  | some _ => Unit

variable {lib : Option κ → Library L} {hSocket : Option κ → LONG}

/-- A call that receives returns when its socket does. -/
def Processes.respond (H : Option κ → Host) (R : ReqRep lib hSocket) :
    (i : Option κ) → Processes κ L → (r : ScriptCall) → r.Resp → Processes κ L → Prop :=
  Processes.respondWhen H lib fun l i => (R.exchange l).Returns i

abbrev Scripts (κ L : Type) := Parties.Config ScriptCall.Resp (Processes κ L) (@Kept κ)

/-- The server starts its loop again, and the clients stop. -/
def processes (H : Option κ → Host) (R : ReqRep lib hSocket) (text : LONG → List UInt8) :
    Parties ScriptCall.Resp (Processes κ L) (@Kept κ) where
  respond := Processes.respond H R
  again
    | none, lTotal => some (Script.repServer text (hSocket none) lTotal)
    | some _, _ => none

end ThinBasicZmq
