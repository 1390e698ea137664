import ThinBasicZmq.Script.Lockstep

/-!
# Empty requests

The server's script takes an empty string for a call that failed, and answers nothing. A REP
socket has to answer what it has received before it receives again, so one empty request, from
whatever client, is the last one.
-/

namespace ThinBasicZmq

open Interaction Script

variable {κ L : Type} [DecidableEq κ] {H : Option κ → Host} {lib : Option κ → Library L}
  {hSocket : Option κ → LONG} {R : ReqRep lib hSocket} {text : LONG → List UInt8}

/-- The sockets keep to their protocol whatever the clients do. -/
structure ReqRep.Strict (R : ReqRep lib hSocket) : Prop where
  /-- a REP socket that has to answer does not receive -/
  busy : ∀ l buf n, (R.exchange l).current ≠ none →
    (lib none (.recv (tbPtrFromHandle (hSocket none)) buf n 0) l).1 = (-1, []) ∧
    R.exchange (lib none (.recv (tbPtrFromHandle (hSocket none)) buf n 0) l).2 = R.exchange l
  /-- no call in a client process answers a request -/
  client : ∀ l k c, (R.exchange (lib (some k) c l).2).current = (R.exchange l).current ∧
    ∀ j b, (R.exchange (lib (some k) c l).2).replies j = some b →
      (R.exchange l).replies j = some b

/-- What the calls of libzmq preserve, a keyword preserves. -/
lemma call_preserves {H : Host} {lib : Library L} {P : L → Prop} (hP : ∀ c l, P l → P (lib c l).2)
    (k : Keyword) (args : List Arg) {s : Session L} (hs : P s.lib) :
    P (H.call lib k args s).2.lib := by
  have hanswer : ∀ r (s : Session L), P s.lib → P (H.answer lib r s).2.lib := by
    intro r s hs
    cases r with
    | zmq fn c => exact hP c s.lib hs
    | _ => exact hs
  exact Prog.run_preserves (P := fun s : Session L => P s.lib) hanswer _ hs

/-- The server has not answered the request of `k` and is back in its loop. -/
structure Silenced (R : ReqRep lib hSocket) (text : LONG → List UInt8) (w : Processes κ L) (k : κ)
    (c : Scripts κ L) : Prop where
  ready : (c.world.sessions none).Ready
  server : ∃ lTotal, c.progs none = repServer text (hSocket none) lTotal ∨
    c.progs none = pure lTotal
  current : (R.exchange c.world.net).current = some k
  replies : ∀ j b, (R.exchange c.world.net).replies j = some b →
    (R.exchange w.net).replies j = some b
  console : c.world.console none = w.console none

variable {w : Processes κ L} {k : κ} {c c' : Scripts κ L}

/-- A step of a client. -/
lemma Silenced.client_step (hR : R.Strict) (h : Silenced R text w k c) {j : κ} {r : ScriptCall}
    {x : r.Resp} {v : Processes κ L} (hv : Processes.respond H R (some j) c.world r x v)
    (p : Script Unit) : Silenced R text w k ⟨v, Function.update c.progs (some j) p⟩ := by
  obtain ⟨lTotal, hserver⟩ := h.server
  have hprog : ∃ lTotal, Function.update c.progs (some j) p none =
      repServer text (hSocket none) lTotal ∨
        Function.update c.progs (some j) p none = pure lTotal := ⟨lTotal, by simpa using hserver⟩
  cases r with
  | printl line =>
    obtain rfl : v = _ := hv
    refine ⟨h.ready, hprog, h.current, h.replies, ?_⟩
    simpa using h.console
  | keyword kw args =>
    obtain ⟨-, t, hcall, rfl⟩ := hv
    have hkept := call_preserves (H := H (some j)) (P := fun l => (R.exchange l).current = some k ∧
      ∀ i b, (R.exchange l).replies i = some b → (R.exchange w.net).replies i = some b)
      (fun z l hl => ⟨(hR.client l j z).1.trans hl.1, fun i b hb =>
        hl.2 i b ((hR.client l j z).2 i b hb)⟩) kw args
      (s := { c.world.sessions (some j) with lib := c.world.net }) ⟨h.current, h.replies⟩
    rw [hcall] at hkept
    refine ⟨?_, hprog, hkept.1, hkept.2, h.console⟩
    simpa using h.ready

/-- A call of the server. -/
lemma Silenced.server_step (hR : R.Strict) (h : Silenced R text w k c) {lTotal : LONG} {x : Value}
    {v : Processes κ L} (hv : Processes.respond H R none c.world
      (.keyword .zmqRecvStr [.int (hSocket none), .int 32, .int 0]) x v) :
    Silenced R text w k ⟨v, Function.update c.progs none
      (repServerRest text (hSocket none) lTotal x.chars)⟩ := by
  have hbusy : (R.exchange c.world.net).current ≠ none := by simp [h.current]
  obtain ⟨hrecv, hnet⟩ := hR.busy c.world.net (.arr (localArray TB_RETURN_STRING_MAX)) 32 hbusy
  obtain ⟨rfl, t, ht, rfl⟩ :=
    respond_zmqRecvStr_failed h.ready _ (by decide) (by decide) hrecv hv
  refine ⟨?_, ⟨lTotal, Or.inr ?_⟩, ?_, ?_, h.console⟩
  · simp only [Function.update_self]
    exact ht
  · simp only [Function.update_self]
    rfl
  · exact (congrArg Exchange.current hnet).trans h.current
  · intro j b hb
    exact h.replies j b ((congrFun (congrArg Exchange.replies hnet) j).symm.trans hb)

/-- What one step preserves. -/
lemma Silenced.step (hR : R.Strict) (h : Silenced R text w k c)
    (hs : (processes H R text).Step c c') : Silenced R text w k c' := by
  cases hs with
  | @reply i r next x v hp hv =>
    cases i with
    | some j => exact h.client_step hR hv (next x)
    | none =>
      obtain ⟨lTotal, hserver | hserver⟩ := h.server
      · have hprog := hserver.symm.trans hp
        rw [repServer_eq] at hprog
        cases hprog
        exact h.server_step hR hv
      · have hprog := hserver.symm.trans hp
        cases hprog
  | @again i st p hp hag =>
    cases i with
    | some j => cases hag
    | none =>
      cases hag
      refine ⟨h.ready, ⟨st, Or.inl ?_⟩, h.current, h.replies, h.console⟩
      simp only [Function.update_self]

/-- The server takes an empty request, and goes on without an answer. -/
lemma silenced_of_taken {lTotal : LONG} (hready : (c.world.sessions none).Ready)
    (hfree : (R.exchange c.world.net).current = none)
    (hempty : (R.exchange c.world.net).requests k = some []) {x : Value} {v : Processes κ L}
    (hv : Processes.respond H R none c.world
      (.keyword .zmqRecvStr [.int (hSocket none), .int 32, .int 0]) x v)
    (htaken : (R.exchange v.net).current = some k) :
    Silenced R text c.world k ⟨v, Function.update c.progs none
      (repServerRest text (hSocket none) lTotal x.chars)⟩ := by
  obtain ⟨j, b, hb, hrecv, hnet⟩ := R.receive c.world.net
    (.arr (localArray TB_RETURN_STRING_MAX)) 32 hfree (hv.1 rfl hfree)
  -- the request that was taken is the empty one
  obtain ⟨-, t, ht, rfl⟩ := respond_recvStr hready _ (by decide) (by decide) hrecv hv
  have htaken := (congrArg Exchange.current hnet).symm.trans htaken
  obtain rfl : j = k := Option.some.inj htaken
  obtain rfl : [] = b := Option.some.inj (hempty.symm.trans hb)
  obtain ⟨rfl, u, hu, hw⟩ := respond_zmqRecvStr hready _ (by decide) (by decide)
    (Nat.zero_le _) hrecv hv
  rw [hw]
  refine ⟨?_, ⟨lTotal, Or.inr ?_⟩, ?_, ?_, rfl⟩
  · simp only [Function.update_self]
    exact hu
  · simp only [Function.update_self]
    rfl
  · exact congrArg Exchange.current hnet
  · intro i b hb
    exact (congrFun (congrArg Exchange.replies hnet) i).symm.trans hb

/-- Once the server has taken an empty request, it prints nothing more, it takes no other request
and no client gets a reply that was not on its way, whatever the scripts of the clients are. -/
theorem empty_request_silences (H : Option κ → Host) (R : ReqRep lib hSocket) (hR : R.Strict)
    {lTotal : LONG} (hready : (c.world.sessions none).Ready)
    (hserver : c.progs none = repServer text (hSocket none) lTotal)
    (hfree : (R.exchange c.world.net).current = none)
    (hempty : (R.exchange c.world.net).requests k = some [])
    (hstep : (processes H R text).Step c c') (htaken : (R.exchange c'.world.net).current = some k) :
    ∀ c'', (processes H R text).Reachable c' c'' →
      (R.exchange c''.world.net).current = some k ∧
      c''.world.console none = c.world.console none ∧
      ∀ j b, (R.exchange c''.world.net).replies j = some b →
        (R.exchange c.world.net).replies j = some b := by
  have hstart : Silenced R text c.world k c' := by
    cases hstep with
    | @reply i r next x v hp hv =>
      cases i with
      | some j =>
        -- a step of a client takes no request
        have hnone : (R.exchange v.net).current = none := by
          cases r with
          | printl line =>
            obtain rfl : v = _ := hv
            exact hfree
          | keyword kw args =>
            obtain ⟨-, t, hcall, rfl⟩ := hv
            have hkept := call_preserves (H := H (some j))
              (P := fun l => (R.exchange l).current = none)
              (fun z l hl => (hR.client l j z).1.trans hl) kw args
              (s := { c.world.sessions (some j) with lib := c.world.net }) hfree
            rwa [hcall] at hkept
        rw [hnone] at htaken
        cases htaken
      | none =>
        have hprog := hserver.symm.trans hp
        rw [repServer_eq] at hprog
        cases hprog
        exact silenced_of_taken hready hfree hempty hv htaken
    | @again i st p hp hag =>
      rw [hfree] at htaken
      cases htaken
  intro c'' hreach
  have hsilent : Silenced R text c.world k c'' := by
    induction hreach with
    | refl => exact hstart
    | tail _ hs ih => exact ih.step hR hs
  exact ⟨hsilent.current, hsilent.console, hsilent.replies⟩

lemma strict_exchangeSockets {n : ℕ} (hSocket : Option (Fin n) → LONG) :
    (exchangeSockets hSocket).Strict where
  busy l buf len hcurrent := by
    have hcurrent : l.current ≠ none := hcurrent
    obtain ⟨k, hk⟩ := Option.ne_none_iff_exists'.mp hcurrent
    simp [exchangeSockets, exchangeLibrary, hk]
  client l k c := by
    cases c with
    | send socket buf len flags =>
      simp only [exchangeSockets, exchangeLibrary, id_eq]
      split
      · exact ⟨rfl, fun j b hb => hb⟩
      · exact ⟨rfl, fun j b hb => hb⟩
    | recv socket buf len flags =>
      simp only [exchangeSockets, exchangeLibrary, id_eq]
      split
      · refine ⟨rfl, ?_⟩
        intro j b hb
        by_cases hj : j = k
        · simp [Exchange.collect, hj] at hb
        · simpa [Exchange.collect, hj] using hb
      · exact ⟨rfl, fun j b hb => hb⟩
    | _ => exact ⟨rfl, fun j b hb => hb⟩

/-- One of two clients has sent an empty string. -/
def emptyRequest : Scripts (Fin 2) (Exchange (Fin 2)) where
  world := { twoClients with net := Exchange.empty.ask 0 [] }
  progs := scripts decimal fun _ => 1

theorem empty_request_silences_two_clients :
    ∃ c', (processes (fun _ => Host.bare) (exchangeSockets fun _ => 1) decimal).Step
        emptyRequest c' ∧
      ∀ c'', (processes (fun _ => Host.bare) (exchangeSockets fun _ => 1) decimal).Reachable
        c' c'' → c''.world.console none = [] := by
  have hready : (emptyRequest.world.sessions none).Ready := Session.ready_resolved _
  have hprog : emptyRequest.progs none = .ask (.keyword .zmqRecvStr [.int 1, .int 32, .int 0])
      fun v => repServerRest decimal 1 (0 + 1) v.chars := rfl
  have hrequest : (emptyRequest.world.net.requests 0) = some [] := rfl
  have hresponse : ∃ x w, Processes.respond (fun _ => Host.bare) (exchangeSockets fun _ => 1) none
      emptyRequest.world (.keyword .zmqRecvStr [.int 1, .int 32, .int 0]) x w :=
    ⟨_, _, fun _ _ => ⟨0, by simp [exchangeSockets, hrequest]⟩, _, rfl, rfl⟩
  obtain ⟨x, w, hw⟩ := hresponse
  have htaken : w.net.current = some 0 := by
    obtain ⟨-, t, -, rfl⟩ := respond_recvStr hready 1 (by decide) (by decide) rfl hw
    rfl
  refine ⟨_, .reply hprog hw, ?_⟩
  intro c'' hc''
  exact (empty_request_silences (fun _ => Host.bare) (exchangeSockets fun _ => 1)
    (strict_exchangeSockets _) hready hprog rfl (k := 0) hrequest (.reply hprog hw) htaken
    c'' hc'').2.1

end ThinBasicZmq
