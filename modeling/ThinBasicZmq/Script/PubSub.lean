import ThinBasicZmq.Protocol.Broadcast
import ThinBasicZmq.Script.Processes

/-!
# Publishing

A process that publishes quotes, and any number of processes that subscribe to them. A quote is
a message of two frames, and the script of a subscriber reads frames in pairs, without asking
where a message ends.
-/

namespace ThinBasicZmq

open Interaction

namespace Script

/-- The body of the publisher's loop, with the random numbers of this run. `str` is `Str$`. -/
def pubServer (str : LONG → List UInt8) (hSocket nBid nAsk : LONG) : Script Unit := do
  let lpszTopic := chars "quotes"
  let lpszSendMessage := chars "Bid:" ++ str nBid ++ chars ",Ask:" ++ str nAsk
  let rc ← zmqSendStr hSocket lpszTopic ZMQ_SNDMORE
  if rc = .long (-1) then printlError (chars "Send topic failed: ")
  else
    let rc ← zmqSendStr hSocket lpszSendMessage 0
    if rc = .long (-1) then printlError (chars "Send message failed: ")
    else printl (chars "Published: " ++ lpszSendMessage)

/-- The body of the subscriber's loop. -/
def subClient (hSocket : LONG) : Script Unit := do
  let lpszTopicFrame ← zmqRecvStr hSocket 256 0
  if lpszTopicFrame.length = 0 then printlError (chars "Recv topic failed: ")
  else
    let lpszMessageFrame ← zmqRecvStr hSocket 256 0
    if lpszMessageFrame.length = 0 then printlError (chars "Recv message failed: ")
    else printl lpszMessageFrame

end Script

variable {κ L : Type} [DecidableEq κ]

/-- A call that sends fails, or the socket has taken the frame. -/
def Sends (x sent y : Broadcast.Feed κ (List UInt8)) (rc : LONG) : Prop :=
  rc = -1 ∧ x.Loses y ∨ rc ≠ -1 ∧ sent.Loses y

/-- What a call that receives answers. -/
def received (n : ℕ) : Option (List UInt8) → LONG × List UInt8
  | some b => (Int32.ofNat b.length, b.take n)
  | none => (-1, [])

/-- The libraries of a process with a PUB socket (`none`) and of processes with SUB sockets. A
call may fail, and the network loses messages as it likes, but it delivers them whole. -/
structure PubSub (lib : Option κ → Library L) (hSocket : Option κ → LONG) where
  feed : L → Broadcast.Feed κ (List UInt8)
  /-- a call that receives comes back -/
  returns : L → Option κ → Prop
  more : ∀ l buf n b, buf.bytes n.toNat = some b → b.length ≤ TB_RETURN_STRING_MAX →
    Sends (feed l) ((feed l).more b)
      (feed (lib none (.send (tbPtrFromHandle (hSocket none)) buf n ZMQ_SNDMORE) l).2)
      (lib none (.send (tbPtrFromHandle (hSocket none)) buf n ZMQ_SNDMORE) l).1
  last : ∀ l buf n b, buf.bytes n.toNat = some b → b.length ≤ TB_RETURN_STRING_MAX →
    Sends (feed l) ((feed l).last b)
      (feed (lib none (.send (tbPtrFromHandle (hSocket none)) buf n 0) l).2)
      (lib none (.send (tbPtrFromHandle (hSocket none)) buf n 0) l).1
  recv : ∀ l k buf n, returns l (some k) → ∃ x o y, (feed l).Loses x ∧ x.Receives k o y ∧
    y.Loses (feed (lib (some k) (.recv (tbPtrFromHandle (hSocket (some k))) buf n 0) l).2) ∧
    (lib (some k) (.recv (tbPtrFromHandle (hSocket (some k))) buf n 0) l).1 = received n.toNat o
  error : ∀ l i c, ReadsError c → (feed l).Loses (feed (lib i c l).2)

namespace PubSub

variable {lib : Option κ → Library L} {hSocket : Option κ → LONG}

/-- The publisher counts the runs of its loop, which get new random numbers. -/
abbrev Kept : Option κ → Type
  | none => ℕ
  | some _ => Unit

def pubRound (str : LONG → List UInt8) (quotes : ℕ → LONG × LONG) (hSocket : LONG) (n : ℕ) :
    Script ℕ := do
  Script.pubServer str hSocket (quotes n).1 (quotes n).2
  return n + 1

abbrev Scripts (κ L : Type) := Parties.Config ScriptCall.Resp (Processes κ L) (@Kept κ)

/-- The loops have no end. -/
def processes (H : Option κ → Host) (R : PubSub lib hSocket) (str : LONG → List UInt8)
    (quotes : ℕ → LONG × LONG) :
    Parties ScriptCall.Resp (Processes κ L) (@Kept κ) where
  respond := Processes.respondWhen H lib R.returns
  again
    | none, n => some (pubRound str quotes (hSocket none) n)
    | some k, _ => some (Script.subClient (hSocket (some k)))

/-- The scripts behind their setup. -/
def scripts (str : LONG → List UInt8) (quotes : ℕ → LONG × LONG) (hSocket : Option κ → LONG) :
    (i : Option κ) → Prog ScriptCall.Resp (Kept i)
  | none => pubRound str quotes (hSocket none) 0
  | some k => Script.subClient (hSocket (some k))

/-- Sockets without messages, and nothing printed. -/
structure Fresh (R : PubSub lib hSocket) (w : Processes κ L) : Prop where
  ready : ∀ i, (w.sessions i).Ready
  console : ∀ i, w.console i = []
  feed : R.feed w.net = .empty

end PubSub

end ThinBasicZmq
