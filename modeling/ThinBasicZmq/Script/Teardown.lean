import ThinBasicZmq.Script.Examples
import ThinBasicZmq.Script.Handles

/-!
# What the example scripts leave behind

Every example script uses the handles it has, and gives back what it has opened, whatever the
library, libzmq and the host answer. The exceptions are in the scripts themselves.
-/

namespace ThinBasicZmq

open Interaction

variable {L α : Type} {H : Host} {lib : Library L} {contexts sockets : List LONG}

namespace Script

lemma works_request {r : ScriptCall} (h : WorksOn contexts sockets r) :
    (Prog.request r : Script r.Resp).Only (WorksOn contexts sockets) := ⟨h, fun _ => trivial⟩

lemma works_printl (line : List UInt8) : (printl line).Only (WorksOn contexts sockets) :=
  works_request (.printl line)

lemma works_printlError (text : List UInt8) :
    (printlError text).Only (WorksOn contexts sockets) :=
  ⟨.none _ rfl, fun _ => ⟨.none _ rfl, fun _ => works_printl _⟩⟩

/-- A keyword with its value, or its string. -/
lemma works_map {k : Keyword} {args : List Arg} (h : WorksOn contexts sockets (.keyword k args))
    (f : Value → α) : (f <$> (Prog.request (ScriptCall.keyword k args) : Script Value)).Only
      (WorksOn contexts sockets) := (works_request h).bind fun _ => trivial

section

variable {hSocket : LONG} (h : hSocket ∈ sockets)

include h

lemma works_zmqSendStr (msg : List UInt8) (flags : LONG) :
    (zmqSendStr hSocket msg flags).Only (WorksOn contexts sockets) :=
  works_request (.socket _ rfl h)

lemma works_zmqRecvStr (maxLen flags : LONG) :
    (zmqRecvStr hSocket maxLen flags).Only (WorksOn contexts sockets) :=
  works_map (.socket _ rfl h) _

lemma works_zmqBind (addr : List UInt8) : (zmqBind hSocket addr).Only (WorksOn contexts sockets) :=
  works_map (.socket _ rfl h) _

lemma works_zmqConnect (addr : List UInt8) :
    (zmqConnect hSocket addr).Only (WorksOn contexts sockets) := works_map (.socket _ rfl h) _

lemma works_zmqUnbind (addr : List UInt8) :
    (zmqUnbind hSocket addr).Only (WorksOn contexts sockets) := works_map (.socket _ rfl h) _

lemma works_zmqDisconnect (addr : List UInt8) :
    (zmqDisconnect hSocket addr).Only (WorksOn contexts sockets) := works_request (.socket _ rfl h)

lemma works_zmqSetsockoptInt (options optval : LONG) :
    (zmqSetsockoptInt hSocket options optval).Only (WorksOn contexts sockets) :=
  works_request (.socket _ rfl h)

lemma works_zmqSetsockoptStr (options : LONG) (optval : List UInt8) :
    (zmqSetsockoptStr hSocket options optval).Only (WorksOn contexts sockets) :=
  works_map (.socket _ rfl h) _

lemma works_zmqGetsockoptInt (options : LONG) :
    (zmqGetsockoptInt hSocket options).Only (WorksOn contexts sockets) :=
  works_map (.socket _ rfl h) _

lemma works_repServer (text : LONG → List UInt8) (lTotal : LONG) :
    (repServer text hSocket lTotal).Only (WorksOn contexts sockets) := by
  apply (works_zmqRecvStr h _ _).bind
  intro lpszRecv
  apply Prog.Only.ite
  · apply (works_printl _).bind
    intro _
    exact (works_zmqSendStr h _ _).bind fun _ => trivial
  · trivial

lemma works_reqClient (n : ℕ) : (reqClient hSocket n).Only (WorksOn contexts sockets) := by
  induction n with
  | zero => trivial
  | succ n ih =>
    apply (works_zmqSendStr h _ _).bind
    intro _
    apply (works_zmqRecvStr h _ _).bind
    intro lpszRecv
    exact .ite ((works_printl _).bind fun _ => ih) ih

lemma works_pubServer (str : LONG → List UInt8) (nBid nAsk : LONG) :
    (pubServer str hSocket nBid nAsk).Only (WorksOn contexts sockets) := by
  apply (works_zmqSendStr h _ _).bind
  intro rc
  apply Prog.Only.ite (works_printlError _)
  apply (works_zmqSendStr h _ _).bind
  intro rc
  exact .ite (works_printlError _) (works_printl _)

lemma works_subClient : (subClient hSocket).Only (WorksOn contexts sockets) := by
  apply (works_zmqRecvStr h _ _).bind
  intro lpszTopicFrame
  apply Prog.Only.ite (works_printlError _)
  apply (works_zmqRecvStr h _ _).bind
  intro lpszMessageFrame
  exact .ite (works_printlError _) (works_printl _)

lemma works_pullServer (text : LONG → List UInt8) (lTotal : LONG) :
    (pullServer text hSocket lTotal).Only (WorksOn contexts sockets) := by
  apply (works_zmqRecvStr h _ _).bind
  intro lpszRecv
  exact .ite ((works_printl _).bind fun _ => trivial) trivial

lemma works_pushDisconnect (addr : List UInt8) :
    (pushDisconnect hSocket addr).Only (WorksOn contexts sockets) := by
  apply (works_zmqDisconnect h _).bind
  intro rc
  exact .ite (works_printlError _) (works_printl _)

lemma works_pushClient (text : LONG → List UInt8) (addr : List UInt8) (n : ℕ) (i : LONG) :
    (pushClient text hSocket addr n i).Only (WorksOn contexts sockets) := by
  induction n generalizing i with
  | zero => exact works_pushDisconnect h _
  | succ n ih =>
    apply (works_zmqSendStr h _ _).bind
    intro rc
    apply Prog.Only.ite
    · exact (works_printlError _).bind fun _ => works_pushDisconnect h _
    · exact (works_printl _).bind fun _ => ih _

lemma works_multipartRecv : (multipartRecv hSocket).Only (WorksOn contexts sockets) := by
  apply (works_zmqRecvStr h _ _).bind
  intro lpszRecv1
  apply (works_zmqGetsockoptInt h _).bind
  intro rcvm
  exact .ite ((works_zmqRecvStr h _ _).bind fun _ => trivial) trivial

end

section

variable {hSocketReq hSocketRep : LONG} (hreq : hSocketReq ∈ sockets) (hrep : hSocketRep ∈ sockets)

include hreq hrep

lemma works_pushPullJobs (e : Setting) (n : ℕ) (i nGot : LONG) :
    (pushPullJobs e hSocketReq hSocketRep n i nGot).Only (WorksOn contexts sockets) := by
  induction n generalizing i nGot with
  | zero => trivial
  | succ n ih =>
    apply (works_zmqSendStr hreq _ _).bind
    intro rc
    apply Prog.Only.ite
    · exact (works_printlError _).bind fun _ => trivial
    apply (works_zmqRecvStr hrep _ _).bind
    intro lpszRecv
    apply Prog.Only.ite
    · exact (works_printlError _).bind fun _ => trivial
    · exact (works_printl _).bind fun _ => ih _ _

lemma works_pushPullSession (e : Setting) :
    (pushPullSession e hSocketReq hSocketRep).Only (WorksOn contexts sockets) := by
  apply (works_zmqBind hrep _).bind
  intro rc
  apply Prog.Only.ite (works_printlError _)
  apply (works_zmqConnect hreq _).bind
  intro rc
  apply Prog.Only.ite (works_printlError _)
  apply (works_printl _).bind
  intro _
  apply (works_pushPullJobs hreq hrep e _ _ _).bind
  intro nGot
  apply (works_printl _).bind
  intro _
  apply (works_zmqDisconnect hreq _).bind
  intro rc
  apply Prog.Only.bind (.ite (works_printlError _) (works_printl _))
  intro _
  apply (works_zmqUnbind hrep _).bind
  intro rc
  exact .ite (works_printlError _) (works_printl _)

lemma works_curveReplies (n : ℕ) (nReplyCount : LONG) :
    (curveReplies hSocketReq hSocketRep n nReplyCount).Only (WorksOn contexts sockets) := by
  induction n generalizing nReplyCount with
  | zero => trivial
  | succ n ih =>
    apply (works_zmqSendStr hreq _ _).bind
    intro rc
    apply Prog.Only.ite
    · exact (works_printlError _).bind fun _ => trivial
    apply (works_zmqRecvStr hrep _ _).bind
    intro lpszRecv
    apply Prog.Only.ite
    · exact (works_printlError _).bind fun _ => trivial
    apply (works_printl _).bind
    intro _
    apply (works_zmqSendStr hrep _ _).bind
    intro _
    apply (works_zmqRecvStr hreq _ _).bind
    intro lpszRecv
    apply Prog.Only.ite
    · exact (works_printlError _).bind fun _ => trivial
    · exact (works_printl _).bind fun _ => ih _

lemma works_curveSession (e : Setting) :
    (curveSession e hSocketReq hSocketRep).Only (WorksOn contexts sockets) := by
  apply (works_zmqSetsockoptInt hrep _ _).bind
  intro _
  apply (works_zmqSetsockoptInt hreq _ _).bind
  intro _
  apply (works_zmqSetsockoptInt hrep _ _).bind
  intro _
  apply (works_zmqSetsockoptInt hreq _ _).bind
  intro _
  apply (works_zmqSetsockoptInt hreq _ _).bind
  intro _
  apply (works_zmqSetsockoptInt hrep _ _).bind
  intro _
  apply (works_zmqSetsockoptStr hrep _ _).bind
  intro _
  apply (works_zmqSetsockoptStr hreq _ _).bind
  intro _
  apply (works_zmqSetsockoptStr hreq _ _).bind
  intro _
  apply (works_zmqSetsockoptStr hreq _ _).bind
  intro _
  apply (works_zmqBind hrep _).bind
  intro _
  apply (works_zmqConnect hreq _).bind
  intro _
  apply (works_zmqGetsockoptInt hreq _).bind
  intro nMechanism
  apply (works_printl _).bind
  intro _
  apply (works_printl _).bind
  intro _
  apply (works_printl _).bind
  intro _
  apply (works_curveReplies hreq hrep _ _).bind
  intro nReplyCount
  exact works_printl _

lemma works_smokeSession :
    (smokeSession hSocketReq hSocketRep).Only (WorksOn contexts sockets) := by
  apply (works_zmqSetsockoptInt hrep _ _).bind
  intro _
  apply (works_zmqSetsockoptInt hreq _ _).bind
  intro _
  apply (works_zmqBind hrep _).bind
  intro _
  apply (works_zmqConnect hreq _).bind
  intro _
  apply (works_zmqSendStr hreq _ _).bind
  intro _
  apply (works_zmqRecvStr hrep _ _).bind
  intro lpszRecv
  apply Prog.Only.bind
  · apply Prog.Only.ite
    · apply (works_printl _).bind
      intro _
      exact (works_zmqSendStr hrep _ _).bind fun _ => trivial
    · trivial
  intro _
  apply (works_zmqRecvStr hreq _ _).bind
  intro lpszRecv
  exact .ite (works_printl _) trivial

end

lemma works_multipartServer (lpszRecv1 lpszRecv2 : List UInt8) :
    (multipartServer lpszRecv1 lpszRecv2).Only (WorksOn contexts sockets) :=
  .ite ((works_printlError _).bind fun _ => works_printl _) (works_printl _)

lemma works_curvePublicSession (e : Setting) :
    (curvePublicSession e).Only (WorksOn contexts sockets) := by
  apply (works_map (.none _ rfl) _).bind
  intro has
  apply Prog.Only.ite (works_printl _)
  apply (works_map (.none _ rfl) _).bind
  intro rc
  apply Prog.Only.ite (works_printlError _)
  apply (works_map (.none _ rfl) _).bind
  intro lpszDerived
  apply Prog.Only.ite (works_printlError _)
  apply (works_printl _).bind
  intro _
  apply (works_printl _).bind
  intro _
  apply (works_printl _).bind
  intro _
  exact .ite (works_printl _) trivial

lemma works_z85Session (e : Setting) : (z85Session e).Only (WorksOn contexts sockets) := by
  apply (works_map (.none _ rfl) _).bind
  intro lpszEncoded
  apply Prog.Only.ite (works_printlError _)
  apply (works_printl _).bind
  intro _
  apply (works_map (.none _ rfl) _).bind
  intro pDec
  apply Prog.Only.ite (works_printlError _)
  apply (works_printl _).bind
  intro _
  exact .ite (works_printl _) trivial

/-- What a script leaves behind. `Stop` is only reached without the library. -/
def Leaves (loops : Prop) : Exit → Session (L × Option OpenHandles) → Prop
  | .ended, s => Released [] s
  | .stopped, s => Unopened s
  | .running, s => loops ∧ s.lib.2 ≠ none

lemma holding_ne_none {s : Session (L × Option OpenHandles)} (hs : Holding contexts sockets s) :
    s.lib.2 ≠ none := by
  cases hs with
  | loaded hl hg => simp [hg]
  | unloaded hz hg => simp [hg]

variable {β : Type} {Q : β → Session (L × Option OpenHandles) → Prop} {e : Setting}
  {loops : Prop}

/-- A part that works on open handles, with what comes behind it. -/
lemma triple_works {p : Script α} {f : α → Script β} (hp : p.Only (WorksOn contexts sockets))
    (hf : ∀ a, (f a).Triple (H.runs lib.watched) (Holding contexts sockets) Q) :
    (p >>= f).Triple (H.runs lib.watched) (Holding contexts sockets) Q :=
  (keeps_of_worksOn hp).bind hf

/-- A call whose failure is reported before the script goes to its last lines. -/
lemma triple_checked {op : Script LONG} {text : List UInt8} {failed rest : Script β}
    (hop : op.Only (WorksOn contexts sockets))
    (hfailed : failed.Triple (H.runs lib.watched) (Holding contexts sockets) Q)
    (hrest : rest.Triple (H.runs lib.watched) (Holding contexts sockets) Q) :
    (op >>= fun rc => if rc ≠ 0 then printlError text >>= fun _ => failed else rest).Triple
      (H.runs lib.watched) (Holding contexts sockets) Q :=
  triple_works hop fun _ => .ite (fun _ => triple_works (works_printlError _) fun _ => hfailed)
    fun _ => hrest

lemma triple_completed :
    completed.Triple (H.runs lib.watched) (Released contexts)
      fun x s => x = .ended ∧ Released contexts s :=
  fun _ hs => ⟨rfl, hs⟩

lemma triple_unload :
    unload.Triple (H.runs lib.watched) (Holding contexts [])
      fun x s => x = .ended ∧ Released contexts s :=
  triple_zmqLibraryShutdown.bind fun _ => triple_completed

lemma leaves_of_released {x : Exit} {s : Session (L × Option OpenHandles)}
    (h : x = .ended ∧ Released [] s) : Leaves loops x s := by
  obtain ⟨rfl, hs⟩ := h
  exact hs

lemma triple_unload_leaves :
    unload.Triple (H.runs lib.watched) (Holding [] []) (Leaves loops) :=
  triple_unload.conseq (fun _ => id) fun _ _ => leaves_of_released

lemma triple_closeSocket {hSocket hContext : LONG} {last : Script Exit}
    (hlast : last.Triple (H.runs lib.watched) (Released []) (Leaves loops)) :
    (closeSocket hSocket hContext last).Triple (H.runs lib.watched) (Holding [hContext] [hSocket])
      (Leaves loops) :=
  triple_zmqClose.bind fun _ => triple_zmqCtxShutdown.bind fun _ =>
    triple_zmqLibraryShutdown.bind fun _ => hlast

lemma triple_closeSocket_completed {hSocket hContext : LONG} :
    (closeSocket hSocket hContext completed).Triple (H.runs lib.watched)
      (Holding [hContext] [hSocket]) (Leaves loops) :=
  triple_closeSocket fun _ hs => hs

lemma triple_closeSocket_ended {hSocket hContext : LONG} :
    (closeSocket hSocket hContext (return .ended)).Triple (H.runs lib.watched)
      (Holding [hContext] [hSocket]) (Leaves loops) :=
  triple_closeSocket fun _ hs => hs

lemma triple_closeSockets {first second hContext : LONG} :
    (closeSockets first second hContext).Triple (H.runs lib.watched)
      (Holding [hContext] [first, second]) (Leaves loops) :=
  triple_zmqClose.bind fun _ => triple_closeSocket_completed

/-- An endless loop whose rounds work on open handles. -/
lemma triple_rounds {body : α → Script α} (hbody : ∀ a, (body a).Only (WorksOn contexts sockets))
    (n : ℕ) (a : α) :
    (rounds body n a).Triple (H.runs lib.watched) (Holding contexts sockets) (Leaves True) := by
  induction n generalizing a with
  | zero => exact fun _ hs => ⟨trivial, holding_ne_none hs⟩
  | succ n ih => exact triple_works (hbody a) ih

/-- The library is there, or the script stops. -/
lemma triple_withLibrary {rest : Script Exit}
    (hrest : rest.Triple (H.runs lib.watched) (Holding [] []) (Leaves loops)) :
    (withLibrary e rest).Triple (H.runs lib.watched) Unopened (Leaves loops) := by
  refine (triple_zmqLibraryInit _).bind fun rc => .ite (fun hrc => ?_) fun _ => ?_
  · exact fun s hs => hs.2 hrc
  · exact hrest.conseq (fun s hs => hs.1) fun _ _ => id

lemma triple_withSocket {stype : LONG} {rest : LONG → LONG → Script Exit}
    (hrest : ∀ hContext hSocket, (rest hContext hSocket).Triple (H.runs lib.watched)
      (Holding [hContext] [hSocket]) (Leaves loops)) :
    (withSocket e stype rest).Triple (H.runs lib.watched) Unopened (Leaves loops) := by
  apply triple_withLibrary
  refine triple_zmqCtxNew.bind fun hContext => ?_
  refine (triple_zmqSocket List.mem_cons_self _).bind fun hSocket => ?_
  exact triple_works (works_zmqSetsockoptInt List.mem_cons_self _ _) fun _ => hrest hContext hSocket

/-! ## The scripts -/

lemma triple_zmqSdkReqClient :
    (zmqSdkReqClient e).Triple (H.runs lib.watched) Unopened (Leaves loops) := by
  apply triple_withSocket
  intro hContext hSocket
  refine triple_checked (works_zmqConnect List.mem_cons_self _) triple_closeSocket_completed ?_
  refine triple_works (works_printl _) fun _ => ?_
  exact triple_works (works_reqClient List.mem_cons_self _) fun _ => triple_closeSocket_completed

lemma triple_zmqSdkRepServer :
    (zmqSdkRepServer e).Triple (H.runs lib.watched) Unopened (Leaves True) := by
  apply triple_withSocket
  intro hContext hSocket
  refine triple_checked (works_zmqBind List.mem_cons_self _) triple_closeSocket_ended ?_
  refine triple_works (works_printl _) fun _ => ?_
  exact triple_rounds (fun _ => works_repServer List.mem_cons_self _ _) _ _

lemma triple_zmqSdkPubServer :
    (zmqSdkPubServer e).Triple (H.runs lib.watched) Unopened (Leaves True) := by
  apply triple_withSocket
  intro hContext hSocket
  refine triple_checked (works_zmqBind List.mem_cons_self _) triple_closeSocket_ended ?_
  refine triple_works (works_printl _) fun _ => ?_
  refine triple_rounds (fun n => ?_) _ _
  exact (works_pubServer List.mem_cons_self _ _ _).bind fun _ => trivial

lemma triple_zmqSdkSubClient :
    (zmqSdkSubClient e).Triple (H.runs lib.watched) Unopened (Leaves True) := by
  apply triple_withSocket
  intro hContext hSocket
  refine triple_checked (works_zmqSetsockoptStr List.mem_cons_self _ _) triple_closeSocket_ended ?_
  refine triple_checked (works_zmqConnect List.mem_cons_self _) triple_closeSocket_ended ?_
  refine triple_works (works_printl _) fun _ => ?_
  exact triple_rounds (fun _ => works_subClient List.mem_cons_self) _ _

lemma triple_zmqSdkPushClient :
    (zmqSdkPushClient e).Triple (H.runs lib.watched) Unopened (Leaves loops) := by
  apply triple_withSocket
  intro hContext hSocket
  refine triple_checked (works_zmqConnect List.mem_cons_self _) triple_closeSocket_completed ?_
  refine triple_works (works_printl _) fun _ => ?_
  exact triple_works (works_pushClient List.mem_cons_self _ _ _ _) fun _ =>
    triple_closeSocket_completed

lemma triple_zmqSdkPullServer :
    (zmqSdkPullServer e).Triple (H.runs lib.watched) Unopened (Leaves True) := by
  apply triple_withSocket
  intro hContext hSocket
  refine triple_checked (works_zmqBind List.mem_cons_self _) ?_ ?_
  · exact triple_works (works_zmqUnbind List.mem_cons_self _) fun _ => triple_closeSocket_ended
  · refine triple_works (works_printl _) fun _ => ?_
    exact triple_rounds (fun _ => works_pullServer List.mem_cons_self _ _) _ _

lemma triple_zmqSdkPushPull :
    (zmqSdkPushPull e).Triple (H.runs lib.watched) Unopened (Leaves loops) := by
  apply triple_withLibrary
  refine triple_zmqCtxNew.bind fun hContext => ?_
  refine (triple_zmqSocket List.mem_cons_self _).bind fun hPull => ?_
  refine (triple_zmqSocket List.mem_cons_self _).bind fun hPush => ?_
  have hpush : hPush ∈ [hPush, hPull] := List.mem_cons_self
  have hpull : hPull ∈ [hPush, hPull] := List.mem_cons_of_mem _ List.mem_cons_self
  refine triple_works (works_zmqSetsockoptInt hpull _ _) fun _ => ?_
  refine triple_works (works_zmqSetsockoptInt hpush _ _) fun _ => ?_
  refine triple_works (works_zmqSetsockoptInt hpull _ _) fun _ => ?_
  exact triple_works (works_pushPullSession hpush hpull e) fun _ => triple_closeSockets

lemma triple_zmqSdkCurve : (zmqSdkCurve e).Triple (H.runs lib.watched) Unopened (Leaves loops) := by
  apply triple_withLibrary
  refine triple_works (works_map (.none _ rfl) _) fun has => ?_
  refine .ite (fun _ => ?_) fun _ => ?_
  · exact triple_works (works_printl _) fun _ => triple_unload_leaves
  refine triple_works (works_map (.none _ rfl) _) fun rcServer => ?_
  refine triple_works (works_map (.none _ rfl) _) fun rcClient => ?_
  refine .ite (fun _ => ?_) fun _ => ?_
  · exact triple_works (works_printlError _) fun _ => triple_unload_leaves
  refine triple_zmqCtxNew.bind fun hContext => ?_
  refine (triple_zmqSocket List.mem_cons_self _).bind fun hSocketRep => ?_
  refine (triple_zmqSocket List.mem_cons_self _).bind fun hSocketReq => ?_
  refine triple_works (works_curveSession List.mem_cons_self
    (List.mem_cons_of_mem _ List.mem_cons_self) e) fun _ => ?_
  exact triple_closeSockets

lemma triple_zmqSdkCtx : (zmqSdkCtx e).Triple (H.runs lib.watched) Unopened (Leaves loops) := by
  apply triple_withLibrary
  refine triple_zmqCtxNew.bind fun hContext => ?_
  have hcontext : hContext ∈ [hContext] := List.mem_cons_self
  refine triple_works (works_map (.context _ rfl hcontext) _) fun nIoBefore => ?_
  refine triple_works (works_map (.context _ rfl hcontext) _) fun nMaxSockets => ?_
  refine triple_works (works_printl _) fun _ => ?_
  refine triple_works (works_printl _) fun _ => ?_
  refine triple_works (works_map (.context _ rfl hcontext) _) fun rc => ?_
  refine triple_works ?_ fun _ => triple_zmqCtxShutdown.bind fun _ => triple_unload_leaves
  apply Prog.Only.ite (works_printlError _)
  apply (works_map (.context _ rfl hcontext) _).bind
  intro nIoAfter
  apply (works_printl _).bind
  intro _
  exact .ite (works_printl _) trivial

lemma triple_zmqSdkCurvePublic :
    (zmqSdkCurvePublic e).Triple (H.runs lib.watched) Unopened (Leaves loops) := by
  apply triple_withLibrary
  exact triple_works (works_curvePublicSession e) fun _ => triple_unload_leaves

lemma triple_zmqSdkZ85 : (zmqSdkZ85 e).Triple (H.runs lib.watched) Unopened (Leaves loops) := by
  apply triple_withLibrary
  exact triple_works (works_z85Session e) fun _ => triple_unload_leaves

/-- Here `Stop` is also reached with open handles. -/
lemma triple_zmqSdkMultipart :
    (zmqSdkMultipart e).Triple (H.runs lib.watched) Unopened fun x s =>
      x = .ended ∧ Released [] s ∨ x = .stopped ∧ s.lib.2 ≠ none := by
  have hstopped : ∀ contexts sockets, (return .stopped : Script Exit).Triple (H.runs lib.watched)
      (Holding contexts sockets) fun x s =>
        x = .ended ∧ Released [] s ∨ x = .stopped ∧ s.lib.2 ≠ none :=
    fun _ _ _ hs => Or.inr ⟨rfl, holding_ne_none hs⟩
  refine .bind ((triple_zmqLibraryInit _).conseq (fun _ => id) fun _ _ hs => hs.1) fun rc => ?_
  refine .ite (fun _ => ?_) fun _ => ?_
  · refine triple_works (works_printl _) fun _ => ?_
    refine triple_works (works_map (.none _ rfl) _) fun errno => ?_
    refine triple_works (works_map (.none _ rfl) _) fun errnum => ?_
    refine triple_works (works_map (.none _ rfl) _) fun msg => ?_
    exact triple_works (works_printl _) fun _ => hstopped _ _
  refine triple_zmqCtxNew.bind fun hContext => ?_
  refine (triple_zmqSocket List.mem_cons_self _).bind fun hSocketRep => ?_
  refine (triple_zmqSocket List.mem_cons_self _).bind fun hSocketReq => ?_
  have hreq : hSocketReq ∈ [hSocketReq, hSocketRep] := List.mem_cons_self
  have hrep : hSocketRep ∈ [hSocketReq, hSocketRep] := List.mem_cons_of_mem _ List.mem_cons_self
  refine triple_works (works_zmqSetsockoptInt hrep _ _) fun _ => ?_
  refine triple_works (works_zmqSetsockoptInt hreq _ _) fun _ => ?_
  refine triple_works (works_zmqBind hrep _) fun _ => ?_
  refine triple_works (works_zmqConnect hreq _) fun _ => ?_
  refine triple_works (works_zmqSendStr hreq _ _) fun _ => ?_
  refine triple_works (works_zmqSendStr hreq _ _) fun rc => ?_
  refine .ite (fun _ => ?_) fun _ => ?_
  · exact triple_works (works_printlError _) fun _ => hstopped _ _
  refine triple_works (works_multipartRecv hrep) fun got => ?_
  refine triple_works (works_multipartServer _ _) fun _ => ?_
  refine triple_works (works_zmqSendStr hrep _ _) fun _ => ?_
  refine triple_works (works_zmqSendStr hrep _ _) fun rc => ?_
  refine .ite (fun _ => ?_) fun _ => ?_
  · exact triple_works (works_printlError _) fun _ => hstopped _ _
  refine triple_works (works_multipartRecv hreq) fun reply => ?_
  refine triple_works (works_printl _) fun _ => ?_
  exact triple_zmqClose.bind fun _ => triple_zmqClose.bind fun _ => triple_zmqCtxShutdown.bind
    fun _ => triple_zmqLibraryShutdown.bind fun _ => fun s hs => Or.inl ⟨rfl, hs⟩

/-- One context is left. -/
lemma triple_zmqSdkSmoke :
    (zmqSdkSmoke e).Triple (H.runs lib.watched) Unopened fun x s =>
      x = .ended ∧ ∃ hContext, Released [hContext] s := by
  refine .bind ((triple_zmqLibraryInit _).conseq (fun _ => id) fun _ _ hs => hs.1) fun _ => ?_
  refine triple_works (works_map (.none _ rfl) _) fun nMajor => ?_
  refine triple_works (works_map (.none _ rfl) _) fun nMinor => ?_
  refine triple_works (works_map (.none _ rfl) _) fun nPatch => ?_
  refine triple_works (works_printl _) fun _ => ?_
  refine triple_works (works_printl _) fun _ => ?_
  refine triple_works (works_map (.none _ rfl) _) fun msg => ?_
  refine triple_works (works_printl _) fun _ => ?_
  refine triple_zmqCtxNew.bind fun hContext => ?_
  refine (triple_zmqSocket List.mem_cons_self _).bind fun hSocketRep => ?_
  refine (triple_zmqSocket List.mem_cons_self _).bind fun hSocketReq => ?_
  refine triple_works (works_smokeSession List.mem_cons_self
    (List.mem_cons_of_mem _ List.mem_cons_self)) fun _ => ?_
  refine triple_zmqClose.bind fun _ => triple_zmqClose.bind fun _ => ?_
  exact triple_unload.conseq (fun _ => id) fun x s hs => ⟨hs.1, hContext, hs.2⟩

end Script

namespace SdkExample

/-- The scripts with an endless loop. -/
def Loops : SdkExample → Prop
  | pubServer | pullServer | repServer | subClient => True
  | ctx | curve | curvePublic | multipart | pushClient | pushPull | reqClient | smoke | z85 => False

/-- What is true behind every script. -/
def Ends (x : SdkExample) (exit : Exit) (s : Session (L × Option OpenHandles)) : Prop :=
  ∃ g, s.lib.2 = some g ∧
    (exit = .ended → s.zmq = .zero ∧ g.sockets = [] ∧ (x ≠ smoke → g.contexts = [])) ∧
    (exit = .stopped → x ≠ multipart → s.zmq = .zero ∧ g = .empty) ∧
    (exit = .running → x.Loops)

lemma ends_of_leaves {x : SdkExample} {exit : Exit} {s : Session (L × Option OpenHandles)}
    (h : Script.Leaves x.Loops exit s) : x.Ends exit s := by
  cases exit with
  | ended =>
    obtain ⟨hz, g, hg, hsockets, hcontexts⟩ := h
    exact ⟨g, hg, fun _ => ⟨hz, hsockets, fun _ => hcontexts rfl⟩, nofun, nofun⟩
  | stopped =>
    obtain ⟨hz, hg⟩ := h
    exact ⟨_, hg, nofun, fun _ _ => ⟨hz, rfl⟩, nofun⟩
  | running =>
    obtain ⟨hloops, hsome⟩ := h
    obtain ⟨g, hg⟩ := Option.ne_none_iff_exists'.mp hsome
    exact ⟨g, hg, nofun, nofun, fun _ => hloops⟩

/-- Every script, from its first line on. -/
lemma triple_script (x : SdkExample) (e : Setting) :
    (x.script e).Triple (H.runs lib.watched) Unopened x.Ends := by
  have hleaves : ∀ {p : Script Exit},
      p.Triple (H.runs lib.watched) Unopened (Script.Leaves x.Loops) →
        p.Triple (H.runs lib.watched) Unopened x.Ends :=
    fun hp => hp.conseq (fun _ => id) fun _ _ => ends_of_leaves
  cases x with
  | ctx => exact hleaves Script.triple_zmqSdkCtx
  | curve => exact hleaves Script.triple_zmqSdkCurve
  | curvePublic => exact hleaves Script.triple_zmqSdkCurvePublic
  | multipart =>
    refine Script.triple_zmqSdkMultipart.conseq (fun _ => id) ?_
    rintro _ s (⟨rfl, hz, g, hg, hsockets, hcontexts⟩ | ⟨rfl, hsome⟩)
    · exact ⟨g, hg, fun _ => ⟨hz, hsockets, fun _ => hcontexts rfl⟩, nofun, nofun⟩
    · obtain ⟨g, hg⟩ := Option.ne_none_iff_exists'.mp hsome
      exact ⟨g, hg, nofun, fun _ h => absurd rfl h, nofun⟩
  | pubServer => exact hleaves Script.triple_zmqSdkPubServer
  | pullServer => exact hleaves Script.triple_zmqSdkPullServer
  | pushClient => exact hleaves Script.triple_zmqSdkPushClient
  | pushPull => exact hleaves Script.triple_zmqSdkPushPull
  | repServer => exact hleaves Script.triple_zmqSdkRepServer
  | reqClient => exact hleaves Script.triple_zmqSdkReqClient
  | smoke =>
    refine Script.triple_zmqSdkSmoke.conseq (fun _ => id) ?_
    rintro _ s ⟨rfl, hContext, hz, g, hg, hsockets, -⟩
    exact ⟨g, hg, fun _ => ⟨hz, hsockets, fun h => absurd rfl h⟩, nofun, nofun⟩
  | subClient => exact hleaves Script.triple_zmqSdkSubClient
  | z85 => exact hleaves Script.triple_zmqSdkZ85

end SdkExample

/-- A session in which nothing is loaded, with an empty record of open handles. -/
def Session.unopened (s : Session L) : Session (L × Option OpenHandles) where
  tokens := s.tokens
  tb := s.tb
  zmq := .zero
  lib := (s.lib, some .empty)

/-- Whatever the host, the loader and libzmq answer: none of the example scripts uses a handle
that is not open, or shuts a context down that still has sockets. One that reaches its end has
closed its sockets, shut its context down and unloaded libzmq, and one that stops early has opened
nothing. `ZmqSdkSmoke` leaves its context, and `ZmqSdkMultipart` may stop with open handles. -/
theorem sdk_examples_release (x : SdkExample) (e : Setting) (H : Host) (lib : Library L)
    (s : Session L) :
    let r := (x.script e).run (H.runs lib.watched) s.unopened
    (x.script e).run (H.runs lib) { s with zmq := .zero } = (r.1, r.2.unwatched) ∧
      ∃ g, r.2.lib.2 = some g ∧
        (r.1 = .ended → r.2.zmq = .zero ∧ g.sockets = [] ∧ (x ≠ .smoke → g.contexts = [])) ∧
        (r.1 = .stopped → x ≠ .multipart → r.2.zmq = .zero ∧ g = .empty) ∧
        (r.1 = .running → x.Loops) := by
  intro r
  obtain ⟨hexit, hstate⟩ := run_watched (H := H) (x.script e) s.unopened
  constructor
  · exact Prod.ext hexit.symm hstate.symm
  · exact x.triple_script e s.unopened ⟨rfl, rfl⟩

/-- A host that finds libzmq with everything in it. -/
def loadingHost : Host where
  __ := Host.bare
  loadLibrary _ := some ⟨.libzmq, 0x20000⟩
  getProcAddress m name := m.map fun m => ⟨m, name⟩

/-- A `libzmq.dll` that creates contexts and sockets, and refuses everything else. -/
def handlesOnly : Library Unit
  | .ctxNew, s => ((1 : Ptr), s)
  | .socket _ _, s => ((2 : Ptr), s)
  | c, s => (c.failed, s)

def plainSetting : Setting where
  lpszLibPath := chars "x86"
  text := decimal
  str := decimal
  quotes _ := (1000, 1000)
  strPtr _ := 1
  content _ := []
  rounds := 1

/-- The run of an example script there. -/
def exampleRun (x : SdkExample) : Exit × Session (Unit × Option OpenHandles) :=
  (x.script plainSetting).run (loadingHost.runs handlesOnly.watched) (Session.resolved ()).unopened

example : (exampleRun .smoke).1 = .ended ∧ (exampleRun .smoke).2.lib.2 = some ⟨[1], []⟩ := by
  decide +kernel

example : (exampleRun .multipart).1 = .stopped ∧
    (exampleRun .multipart).2.lib.2 = some ⟨[1], [2, 2]⟩ := by
  decide +kernel

end ThinBasicZmq
