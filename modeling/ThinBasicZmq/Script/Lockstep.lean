import ThinBasicZmq.Script.RequestReply

/-!
# The scripts run in turns

The state of all processes is determined by whose turn it is, so their runs are runs of the
clients and the server that count.
-/

namespace ThinBasicZmq

open Interaction Script

variable {κ L : Type} [DecidableEq κ] {H : Option κ → Host} {lib : Option κ → Library L}
  {hSocket : Option κ → LONG} {R : ReqRep lib hSocket} {text : LONG → List UInt8}

/-- The rounds of `For i = 0 To 10`. -/
def ROUNDS : ℕ := 11

def requestText : List UInt8 := chars "From SDK Client"

def replyText (text : LONG → List UInt8) (t : ℕ) : List UInt8 :=
  chars "Hi " ++ text (Int32.ofNat t)

def serverLine : List UInt8 := chars "Received: " ++ requestText

def clientLine (text : LONG → List UInt8) (t : ℕ) : List UInt8 :=
  chars "Reply From Server: " ++ replyText text t

def requestOf : Turns.Phase → Option (List UInt8)
  | .requested => some requestText
  | _ => none

def replyOf (text : LONG → List UInt8) : Turns.Phase → Option (List UInt8)
  | .answered t => some (replyText text t)
  | _ => none

def waitingOf : Turns.Phase → Bool
  | .requested | .served | .answered _ => true
  | _ => false

def currentOf : Turns.Server κ → Option κ
  | .received k | .logged k => some k
  | _ => none

def exchangeOf (text : LONG → List UInt8) (s : Turns.State κ) : Exchange κ where
  requests k := requestOf (s.client k).phase
  replies k := replyOf text (s.client k).phase
  current := currentOf s.server
  waiting k := waitingOf (s.client k).phase

def serverProg (text : LONG → List UInt8) (h : LONG) (n : ℕ) : Turns.Server κ → Script LONG
  | .free => repServer text h (Int32.ofNat n)
  | .received _ => do
    printl serverLine
    let _ ← zmqSendStr h (replyText text n) 0
    return Int32.ofNat n
  | .logged _ => do
    let _ ← zmqSendStr h (replyText text n) 0
    return Int32.ofNat n
  | .resting => pure (Int32.ofNat n)

/-- The rest of the server's loop when a message is there. -/
def repServerRest (text : LONG → List UInt8) (h lTotal : LONG) (lpszRecv : List UInt8) :
    Script LONG := do
  if lpszRecv.length > 0 then
    printl (chars "Received: " ++ lpszRecv)
    let _ ← zmqSendStr h (chars "Hi " ++ text lTotal) 0
    return lTotal
  else return lTotal

/-- The rest of the round of a client that has received. -/
def reqClientRest (h : LONG) (n : ℕ) (lpszRecv : List UInt8) : Script Unit := do
  if lpszRecv.length > 0 then
    printl (chars "Reply From Server: " ++ lpszRecv)
    reqClient h n
  else reqClient h n

/-- The rest of the round of a client that has asked. -/
def reqClientRecv (h : LONG) (n : ℕ) : Script Unit := do
  let lpszRecv ← zmqRecvStr h 32 0
  reqClientRest h n lpszRecv

def clientProg (text : LONG → List UInt8) (h : LONG) (c : Turns.Client) : Script Unit :=
  match c.phase with
  | .idle => reqClient h (ROUNDS - c.got.length)
  | .requested | .served | .answered _ => reqClientRecv h (ROUNDS - c.got.length - 1)
  | .collected t => do
    printl (clientLine text t)
    reqClient h (ROUNDS - c.got.length - 1)

/-- The requests that the server has printed. -/
def logged (s : Turns.State κ) : ℕ :=
  match s.server with
  | .received _ => s.order.length - 1
  | _ => s.order.length

structure Follows (R : ReqRep lib hSocket) (text : LONG → List UInt8) (c : Scripts κ L)
    (s : Turns.State κ) : Prop where
  inv : s.Inv ROUNDS
  ready : ∀ i, (c.world.sessions i).Ready
  net : R.exchange c.world.net = exchangeOf text s
  server : c.progs none = serverProg text (hSocket none) s.order.length s.server
  client : ∀ k, c.progs (some k) = clientProg text (hSocket (some k)) (s.client k)
  log : c.world.console none = List.replicate (logged s) serverLine
  printed : ∀ k, c.world.console (some k) = (s.client k).got.map (clientLine text)

variable {s : Turns.State κ} {k : κ} {got : List ℕ}

lemma exchangeOf_set (s : Turns.State κ) (k : κ) (c : Turns.Client) :
    exchangeOf text (s.set k c) =
      ⟨Function.update (exchangeOf text s).requests k (requestOf c.phase),
        Function.update (exchangeOf text s).replies k (replyOf text c.phase),
        (exchangeOf text s).current,
        Function.update (exchangeOf text s).waiting k (waitingOf c.phase)⟩ := by
  ext j : 2
  · by_cases hj : j = k <;> simp [exchangeOf, Turns.State.set, hj]
  · by_cases hj : j = k <;> simp [exchangeOf, Turns.State.set, hj]
  · rfl
  · by_cases hj : j = k <;> simp [exchangeOf, Turns.State.set, hj]

lemma exchangeOf_ask (hk : s.client k = ⟨.idle, got⟩) :
    exchangeOf text (s.set k ⟨.requested, got⟩) = (exchangeOf text s).ask k requestText := by
  rw [exchangeOf_set]
  simp [Exchange.ask, exchangeOf, hk, requestOf, replyOf, waitingOf]

omit [DecidableEq κ] in
lemma exchangeOf_server (s : Turns.State κ) (v : Turns.Server κ) (order : List κ) :
    exchangeOf text { s with server := v, order := order } =
      { exchangeOf text s with current := currentOf v } := rfl

lemma exchangeOf_receive (hk : s.client k = ⟨.requested, got⟩) :
    exchangeOf text { s.set k ⟨.served, got⟩ with
      server := .received k, order := s.order ++ [k] } = (exchangeOf text s).receive k := by
  rw [exchangeOf_server, exchangeOf_set]
  simp [Exchange.receive, exchangeOf, hk, requestOf, replyOf, waitingOf, currentOf]

lemma exchangeOf_answer (hk : s.client k = ⟨.served, got⟩) :
    exchangeOf text { s.set k ⟨.answered s.order.length, got⟩ with server := .resting } =
      (exchangeOf text s).answer k (replyText text s.order.length) := by
  rw [exchangeOf_server, exchangeOf_set]
  simp [Exchange.answer, exchangeOf, hk, requestOf, replyOf, waitingOf, currentOf]

lemma exchangeOf_collect {t : ℕ} (hk : s.client k = ⟨.answered t, got⟩) :
    exchangeOf text (s.set k ⟨.collected t, got⟩) = (exchangeOf text s).collect k := by
  rw [exchangeOf_set]
  simp [Exchange.collect, exchangeOf, hk, requestOf, replyOf, waitingOf]

lemma exchangeOf_finish {t : ℕ} (hk : s.client k = ⟨.collected t, got⟩) :
    exchangeOf text (s.set k ⟨.idle, got ++ [t]⟩) = exchangeOf text s := by
  rw [exchangeOf_set]
  simp [exchangeOf, hk, requestOf, replyOf, waitingOf]

lemma zero_notMem_requestText : 0 ∉ requestText := by decide

lemma zero_notMem_replyText (ht : WritesNumbers text) (t : ℕ) : 0 ∉ replyText text t := by
  have hhi : 0 ∉ chars "Hi " := by decide
  simp [replyText, hhi, ht.zero_notMem]

lemma length_replyText (ht : WritesNumbers text) (t : ℕ) :
    0 < (replyText text t).length ∧ (replyText text t).length ≤ 32 := by
  have hhi : (chars "Hi ").length = 3 := rfl
  have := ht.length_le (Int32.ofNat t)
  rw [replyText, List.length_append, hhi]
  omega

lemma reqClient_succ (h : LONG) (n : ℕ) : reqClient h (n + 1) =
    .ask (.keyword .zmqSendStr
      [.int h, .str (some (ScriptString.ofBytes requestText).ptr), .int 0])
      fun _ => reqClientRecv h n := rfl

lemma reqClientRecv_eq (h : LONG) (n : ℕ) : reqClientRecv h n =
    .ask (.keyword .zmqRecvStr [.int h, .int 32, .int 0]) fun v => reqClientRest h n v.chars := rfl

lemma repServer_eq (h lTotal : LONG) : repServer text h lTotal =
    .ask (.keyword .zmqRecvStr [.int h, .int 32, .int 0])
      fun v => repServerRest text h (lTotal + 1) v.chars := rfl

omit [DecidableEq κ] in
lemma repServerRest_request (h : LONG) (n : ℕ) (k : κ) :
    repServerRest text h (Int32.ofNat n + 1) requestText =
      serverProg text h (n + 1) (.received k) := by
  have hcount : Int32.ofNat n + 1 = Int32.ofNat (n + 1) := (Int32.ofNat_add n 1).symm
  rw [hcount]
  exact if_pos (by decide)

lemma reqClientRest_reply (hnum : WritesNumbers text) (h : LONG) (t : ℕ) (got : List ℕ) :
    reqClientRest h (ROUNDS - got.length - 1) (replyText text t) =
      clientProg text h ⟨.collected t, got⟩ :=
  if_pos (length_replyText hnum t).1

variable {c : Scripts κ L}

/-- A client moves on. -/
lemma Follows.client_moves (h : Follows R text c s) {t : Turns.Client} {p : Script Unit}
    {w : Processes κ L} (hinv : (s.set k t).Inv ROUNDS) (hready : ∀ i, (w.sessions i).Ready)
    (hnet : R.exchange w.net = exchangeOf text (s.set k t))
    (hp : p = clientProg text (hSocket (some k)) t)
    (hconsole : ∀ i, i ≠ some k → w.console i = c.world.console i)
    (hprinted : w.console (some k) = t.got.map (clientLine text)) :
    Follows R text ⟨w, Function.update c.progs (some k) p⟩ (s.set k t) := by
  refine ⟨hinv, hready, hnet, ?_, ?_, ?_, ?_⟩
  · simpa [Turns.State.set] using h.server
  · intro j
    by_cases hj : j = k
    · subst hj
      simpa [Turns.State.set] using hp
    · simpa [Turns.State.set, hj] using h.client j
  · exact (hconsole none (by simp)).trans h.log
  · intro j
    by_cases hj : j = k
    · subst hj
      simpa [Turns.State.set] using hprinted
    · rw [hconsole (some j) (by simpa using hj), h.printed j]
      simp [Turns.State.set, hj]

/-- The server moves on, and what the clients do next stays the same. -/
lemma Follows.server_moves (h : Follows R text c s) {s' : Turns.State κ} {p : Script LONG}
    {w : Processes κ L} (hinv : s'.Inv ROUNDS) (hready : ∀ i, (w.sessions i).Ready)
    (hnet : R.exchange w.net = exchangeOf text s')
    (hp : p = serverProg text (hSocket none) s'.order.length s'.server)
    (hclient : ∀ j, clientProg text (hSocket (some j)) (s'.client j) =
      clientProg text (hSocket (some j)) (s.client j) ∧ (s'.client j).got = (s.client j).got)
    (hconsole : ∀ j, w.console (some j) = c.world.console (some j))
    (hlog : w.console none = List.replicate (logged s') serverLine) :
    Follows R text ⟨w, Function.update c.progs none p⟩ s' := by
  refine ⟨hinv, hready, hnet, ?_, ?_, hlog, ?_⟩
  · simpa using hp
  · intro j
    rw [(hclient j).1]
    simpa using h.client j
  · intro j
    rw [hconsole j, (hclient j).2]
    exact h.printed j

lemma Follows.ask (h : Follows R text c s) (hk : s.client k = ⟨.idle, got⟩)
    (hlt : got.length < ROUNDS) {x : Value} {w : Processes κ L}
    (hw : Processes.respond H R (some k) c.world (.keyword .zmqSendStr [.int (hSocket (some k)),
      .str (some (ScriptString.ofBytes requestText).ptr), .int 0]) x w) :
    Follows R text ⟨w, Function.update c.progs (some k)
      (reqClientRecv (hSocket (some k)) (ROUNDS - got.length - 1))⟩ (s.set k ⟨.requested, got⟩) := by
  obtain ⟨buf, n, t, hbytes, ht, -, rfl⟩ := respond_zmqSendStr (h.ready _) _ 0
    zero_notMem_requestText (by decide) hw
  have hwaiting : (R.exchange c.world.net).waiting k = false := by
    simp [h.net, exchangeOf, hk, waitingOf]
  apply h.client_moves
  · exact h.inv.step (.ask hk hlt)
  · exact ready_update h.ready _ ht
  · rw [exchangeOf_ask hk, ← h.net]
    exact R.ask _ _ _ _ _ hbytes hwaiting
  · rfl
  · intro i _
    rfl
  · simpa [hk] using h.printed k

lemma Follows.collect (hnum : WritesNumbers text) (h : Follows R text c s) {t : ℕ}
    (hk : s.client k = ⟨.answered t, got⟩) {x : Value} {w : Processes κ L}
    (hw : Processes.respond H R (some k) c.world (.keyword .zmqRecvStr
      [.int (hSocket (some k)), .int 32, .int 0]) x w) :
    x = .bstr (some (replyText text t)) ∧
    Follows R text ⟨w, Function.update c.progs (some k)
      (clientProg text (hSocket (some k)) ⟨.collected t, got⟩)⟩ (s.set k ⟨.collected t, got⟩) := by
  have hreply : (R.exchange c.world.net).replies k = some (replyText text t) := by
    simp [h.net, exchangeOf, hk, replyOf]
  obtain ⟨hrecv, hnet⟩ := R.collect c.world.net k (.arr (localArray TB_RETURN_STRING_MAX)) 32 _
    hreply
  obtain ⟨rfl, u, hu, rfl⟩ := respond_zmqRecvStr (h.ready _) _ (by decide) (by decide)
    (length_replyText hnum t).2 hrecv hw
  refine ⟨rfl, ?_⟩
  apply h.client_moves
  · exact h.inv.step (.collect hk)
  · exact ready_update h.ready _ hu
  · rw [exchangeOf_collect hk, ← h.net]
    exact hnet
  · rfl
  · intro i _
    rfl
  · simpa [hk] using h.printed k

lemma Follows.finish (H : Option κ → Host) (h : Follows R text c s) {t : ℕ}
    (hk : s.client k = ⟨.collected t, got⟩) {w : Processes κ L}
    (hw : Processes.respond H R (some k) c.world (.printl (clientLine text t)) () w) :
    Follows R text ⟨w, Function.update c.progs (some k)
      (reqClient (hSocket (some k)) (ROUNDS - got.length - 1))⟩ (s.set k ⟨.idle, got ++ [t]⟩) := by
  obtain rfl : w = _ := hw
  have hprinted := h.printed k
  rw [hk] at hprinted
  apply h.client_moves
  · exact h.inv.step (.finish hk)
  · exact h.ready
  · rw [exchangeOf_finish hk, ← h.net]
  · simp [clientProg, Nat.sub_sub]
  · intro i hi
    simp [hi]
  · simp [hprinted]

lemma Follows.receive (h : Follows R text c s) (hfree : s.server = .free)
    {x : Value} {w : Processes κ L}
    (hw : Processes.respond H R none c.world (.keyword .zmqRecvStr
      [.int (hSocket none), .int 32, .int 0]) x w) :
    x = .bstr (some requestText) ∧ ∃ s', Turns.Step ROUNDS s s' ∧
      Follows R text ⟨w, Function.update c.progs none
        (serverProg text (hSocket none) s'.order.length s'.server)⟩ s' ∧
      ∃ k, s'.server = .received k ∧ s'.order.length = s.order.length + 1 := by
  have hcurrent : (R.exchange c.world.net).current = none := by
    simp [h.net, exchangeOf, hfree, currentOf]
  obtain ⟨k, b, hb, hrecv, hnet⟩ := R.receive c.world.net
    (.arr (localArray TB_RETURN_STRING_MAX)) 32 hcurrent (hw.1 rfl hcurrent)
  -- the request that was taken is one of a client that has asked
  obtain ⟨got, hk, rfl⟩ : ∃ got, s.client k = ⟨.requested, got⟩ ∧ b = requestText := by
    rw [h.net] at hb
    cases hclient : s.client k with
    | mk phase got =>
      cases phase <;> simp [exchangeOf, hclient, requestOf] at hb
      exact ⟨got, rfl, hb.symm⟩
  obtain ⟨rfl, t, ht, rfl⟩ := respond_zmqRecvStr (h.ready _) _ (by decide) (by decide)
    (by decide) hrecv hw
  have hstep : Turns.Step ROUNDS s _ := .receive hfree hk
  refine ⟨rfl, _, hstep, ?_, k, rfl, by simp⟩
  apply h.server_moves
  · exact h.inv.step hstep
  · exact ready_update h.ready _ ht
  · rw [exchangeOf_receive hk, ← h.net]
    exact hnet
  · rfl
  · intro j
    by_cases hj : j = k
    · subst hj
      simp [Turns.State.set, hk, clientProg]
    · simp [Turns.State.set, hj]
  · intro j
    rfl
  · simpa [logged, hfree] using h.log

lemma Follows.logs (H : Option κ → Host) (h : Follows R text c s)
    (hserver : s.server = .received k) {w : Processes κ L}
    (hw : Processes.respond H R none c.world (.printl serverLine) () w) :
    Follows R text ⟨w, Function.update c.progs none
      (serverProg text (hSocket none) s.order.length (.logged k))⟩ { s with server := .logged k } := by
  obtain rfl : w = _ := hw
  have hk : (s.client k).phase = .served := (h.inv.served k).mpr (Or.inl hserver)
  apply h.server_moves
  · exact h.inv.step (.log hserver)
  · exact h.ready
  · rw [h.net]
    simp [exchangeOf, hserver, currentOf]
  · rfl
  · intro j
    exact ⟨rfl, rfl⟩
  · intro j
    simp
  · have hlog := h.log
    obtain ⟨n, hn⟩ := Nat.exists_eq_succ_of_ne_zero
      (List.length_pos_iff.mpr (h.inv.order_ne_nil hk)).ne'
    rw [logged, hserver] at hlog
    simp [logged, hlog, hn, List.replicate_succ']

lemma Follows.answer (hnum : WritesNumbers text) (h : Follows R text c s)
    (hserver : s.server = .logged k) (hk : s.client k = ⟨.served, got⟩) {x : Value}
    {w : Processes κ L}
    (hw : Processes.respond H R none c.world (.keyword .zmqSendStr [.int (hSocket none),
      .str (some (ScriptString.ofBytes (replyText text s.order.length)).ptr), .int 0]) x w) :
    Follows R text ⟨w, Function.update c.progs none (pure (Int32.ofNat s.order.length))⟩
      { s.set k ⟨.answered s.order.length, got⟩ with server := .resting } := by
  obtain ⟨buf, n, t, hbytes, ht, -, rfl⟩ := respond_zmqSendStr (h.ready _) _ 0
    (zero_notMem_replyText hnum _) ((length_replyText hnum _).2.trans (by decide)) hw
  have hcurrent : (R.exchange c.world.net).current = some k := by
    simp [h.net, exchangeOf, hserver, currentOf]
  apply h.server_moves
  · exact h.inv.step (.answer hserver hk)
  · exact ready_update h.ready _ ht
  · rw [exchangeOf_answer hk, ← h.net]
    exact R.answer _ _ _ _ _ hbytes hcurrent
  · rfl
  · intro j
    by_cases hj : j = k
    · subst hj
      simp [Turns.State.set, hk, clientProg]
    · simp [Turns.State.set, hj]
  · intro j
    rfl
  · simpa [logged, hserver, Turns.State.set] using h.log

lemma Follows.rest (h : Follows R text c s) (hserver : s.server = .resting) :
    Follows R text ⟨c.world, Function.update c.progs none
      (repServer text (hSocket none) (Int32.ofNat s.order.length))⟩
      { s with server := .free } := by
  apply h.server_moves
  · exact h.inv.step (.rest hserver)
  · exact h.ready
  · rw [h.net]
    simp [exchangeOf, hserver, currentOf]
  · rfl
  · intro j
    exact ⟨rfl, rfl⟩
  · intro j
    rfl
  · simpa [logged, hserver] using h.log

theorem follows_step (H : Option κ → Host) (hnum : WritesNumbers text) :
    Simulates (Follows R text) (processes H R text).Step (Turns.Step ROUNDS) := by
  intro c s c' h hstep
  cases hstep with
  | @reply i r next x w hp hw =>
    cases i with
    | none =>
      have hprog := h.server.symm.trans hp
      cases hserver : s.server with
      | free =>
        rw [hserver, serverProg, repServer_eq] at hprog
        cases hprog
        obtain ⟨rfl, s', hs', hfollows, k, hk, hlen⟩ := h.receive hserver hw
        rw [hk, hlen, ← repServerRest_request] at hfollows
        exact ⟨s', hs', hfollows⟩
      | received k =>
        rw [hserver] at hprog
        cases hprog
        exact ⟨_, .log hserver, h.logs H hserver hw⟩
      | logged k =>
        have hk : s.client k = ⟨.served, (s.client k).got⟩ := by
          rw [← (h.inv.served k).mpr (Or.inr hserver)]
        rw [hserver] at hprog
        cases hprog
        exact ⟨_, .answer hserver hk, h.answer hnum hserver hk hw⟩
      | resting =>
        rw [hserver] at hprog
        cases hprog
    | some k =>
      have hprog := (h.client k).symm.trans hp
      have hbound := h.inv.bound k
      -- a client that waits for its reply gets nothing else
      have hreplies : (R.exchange c.world.net).replies k = replyOf text (s.client k).phase := by
        rw [h.net]
        rfl
      have hwaiting : (R.exchange c.world.net).waiting k = waitingOf (s.client k).phase := by
        rw [h.net]
        rfl
      cases hclient : s.client k with
      | mk phase got =>
      rw [hclient] at hprog hreplies hwaiting hbound
      cases phase with
      | idle =>
        by_cases hlt : got.length < ROUNDS
        · obtain ⟨n, hn⟩ : ∃ n, ROUNDS - got.length = n + 1 := ⟨ROUNDS - got.length - 1, by omega⟩
          rw [clientProg, hn, reqClient_succ] at hprog
          cases hprog
          have hfollows := h.ask hclient hlt hw
          rw [hn] at hfollows
          exact ⟨_, .ask hclient hlt, hfollows⟩
        · have hn : ROUNDS - got.length = 0 := by omega
          rw [clientProg, hn] at hprog
          cases hprog
      | requested =>
        cases hprog
        exact absurd hreplies (hw.1 rfl hwaiting)
      | served =>
        cases hprog
        exact absurd hreplies (hw.1 rfl hwaiting)
      | answered t =>
        rw [clientProg, reqClientRecv_eq] at hprog
        cases hprog
        obtain ⟨rfl, hfollows⟩ := h.collect hnum hclient hw
        rw [← reqClientRest_reply hnum] at hfollows
        exact ⟨_, .collect hclient, hfollows⟩
      | collected t =>
        cases hprog
        exact ⟨_, .finish hclient, h.finish H hclient hw⟩
  | @again i st p hp hag =>
    cases i with
    | none =>
      have hprog := h.server.symm.trans hp
      cases hserver : s.server with
      | resting =>
        rw [hserver] at hprog
        cases hprog
        cases hag
        exact ⟨_, .rest hserver, h.rest hserver⟩
      | free =>
        rw [hserver] at hprog
        cases hprog
      | received k =>
        rw [hserver] at hprog
        cases hprog
      | logged k =>
        rw [hserver] at hprog
        cases hprog
    | some k => cases hag

/-- A turn that is possible is a step of the party whose turn it is. -/
lemma Follows.enabled (H : Option κ → Host) (h : Follows R text c s) {s' : Turns.State κ}
    (hs : Turns.Step ROUNDS s s') : ∃ c', (processes H R text).Step c c' := by
  have hnet := h.net
  cases hs with
  | @ask k got hk hlt =>
    obtain ⟨n, hn⟩ : ∃ n, ROUNDS - got.length = n + 1 := ⟨ROUNDS - got.length - 1, by omega⟩
    have hprog := h.client k
    rw [hk, clientProg, hn, reqClient_succ] at hprog
    exact ⟨_, .reply hprog ⟨(fun hkw => nomatch hkw), _, rfl, rfl⟩⟩
  | @receive k got hfree hk =>
    have hprog := h.server
    rw [hfree, serverProg, repServer_eq] at hprog
    have hrequest : (R.exchange c.world.net).requests k ≠ none := by
      simp [hnet, exchangeOf, hk, requestOf]
    exact ⟨_, .reply hprog ⟨fun _ _ => ⟨k, hrequest⟩, _, rfl, rfl⟩⟩
  | @log k hserver =>
    have hprog := h.server
    rw [hserver] at hprog
    exact ⟨_, .reply (x := ()) hprog rfl⟩
  | @answer k got hserver hk =>
    have hprog := h.server
    rw [hserver] at hprog
    exact ⟨_, .reply hprog ⟨(fun hkw => nomatch hkw), _, rfl, rfl⟩⟩
  | rest hserver =>
    have hprog := h.server
    rw [hserver] at hprog
    exact ⟨_, .again hprog rfl⟩
  | @collect k t got hk =>
    have hprog := h.client k
    rw [hk, clientProg, reqClientRecv_eq] at hprog
    have hreply : (R.exchange c.world.net).replies k ≠ none := by
      simp [hnet, exchangeOf, hk, replyOf]
    exact ⟨_, .reply hprog ⟨fun _ _ => hreply, _, rfl, rfl⟩⟩
  | @finish k t got hk =>
    have hprog := h.client k
    rw [hk] at hprog
    exact ⟨_, .reply (x := ()) hprog rfl⟩

/-- The scripts behind their setup. -/
def scripts (text : LONG → List UInt8) (hSocket : Option κ → LONG) :
    (i : Option κ) → Prog ScriptCall.Resp (Kept i)
  | none => repServer text (hSocket none) 0
  | some k => reqClient (hSocket (some k)) ROUNDS

/-- Sockets without messages, and nothing printed. -/
structure Processes.Fresh (R : ReqRep lib hSocket) (w : Processes κ L) : Prop where
  ready : ∀ i, (w.sessions i).Ready
  console : ∀ i, w.console i = []
  net : R.exchange w.net = .empty

lemma follows_start {w : Processes κ L} (hw : w.Fresh R) :
    Follows R text ⟨w, scripts text hSocket⟩ Turns.start where
  inv := Turns.inv_start
  ready := hw.ready
  net := hw.net
  server := rfl
  client _ := rfl
  log := hw.console none
  printed k := hw.console (some k)

/-- What is printed when the requests were taken in this order: all of it, or all but the last
line. -/
structure Printed (R : ReqRep lib hSocket) (text : LONG → List UInt8) (order : List κ)
    (w : Processes κ L) : Prop where
  server : ∃ rest, rest.length ≤ 1 ∧
    List.replicate order.length serverLine = w.console none ++ rest
  client : ∀ k, ∃ rest, rest.length ≤ 1 ∧
    (Turns.turns order k).map (clientLine text) = w.console (some k) ++ rest
  current : ∀ k, (R.exchange w.net).current = some k → order.getLast? = some k

/-- Every client has stopped, with all its rounds answered and printed. -/
def Served (text : LONG → List UInt8) (order : List κ) (c : Scripts κ L) : Prop :=
  ∀ k, c.progs (some k) = pure () ∧ order.count k = ROUNDS ∧
    c.world.console (some k) = (Turns.turns order k).map (clientLine text)

lemma Follows.printed_order (h : Follows R text c s) : Printed R text s.order c.world := by
  refine ⟨?_, ?_, ?_⟩
  · rw [h.log]
    refine ⟨List.replicate (s.order.length - logged s) serverLine, ?_, ?_⟩
    · rw [List.length_replicate, logged]
      cases s.server with
      | received k =>
        dsimp only
        omega
      | _ => simp
    · rw [← List.replicate_add]
      congr 1
      rw [logged]
      cases s.server <;> simp
  · intro k
    rw [h.printed k, h.inv.turns k, List.map_append]
    refine ⟨_, ?_, rfl⟩
    cases (s.client k).phase <;> simp [Turns.Phase.current]
  · intro k hk
    rw [h.net] at hk
    apply h.inv.getLast?_order
    apply (h.inv.served k).mpr
    cases hserver : s.server <;> simp_all [exchangeOf, currentOf]

lemma Follows.served_of_finished (h : Follows R text c s) (hs : s.Finished ROUNDS) :
    Served text s.order c := by
  intro k
  obtain ⟨hphase, hgot⟩ := hs k
  have hturns := h.inv.turns k
  have hprog := h.client k
  rw [hphase, Turns.Phase.current, List.append_nil] at hturns
  rw [clientProg, hphase, hgot, Nat.sub_self] at hprog
  refine ⟨hprog, ?_, ?_⟩
  · rw [← Turns.length_turns, hturns, hgot]
  · rw [h.printed k, hturns]

/-- However the processes are scheduled, the server answers the requests one after another with
the numbers `1, 2, ..`, each reply is printed by the client whose request it answers, in that
order, the processes never wait for each other, and after finitely many steps every client has
printed its replies. The order in which the requests were taken only grows along a run. -/
theorem requests_served_in_turn [Fintype κ] (H : Option κ → Host) (R : ReqRep lib hSocket)
    (hnum : WritesNumbers text) (w : Processes κ L) (hw : w.Fresh R) :
    (∀ c, (processes H R text).Reachable ⟨w, scripts text hSocket⟩ c → ∃ order : List κ,
      Printed R text order c.world ∧
        ((∃ c', (processes H R text).Step c c') ∨ Served text order c)) ∧
    (∀ (run : ℕ → Scripts κ L) (n : ℕ), run 0 = ⟨w, scripts text hSocket⟩ →
      (∀ m < n, (processes H R text).Step (run m) (run (m + 1))) → ∃ order : ℕ → List κ,
        order 0 = [] ∧ (∀ m < n, order m <+: order (m + 1)) ∧
        ∀ m ≤ n, Printed R text (order m) (run m).world ∧
          ((∃ c', (processes H R text).Step (run m) c') ∨ Served text (order m) (run m))) ∧
    ¬ ∃ run : ℕ → Scripts κ L, run 0 = ⟨w, scripts text hSocket⟩ ∧
      ∀ n, (processes H R text).Step (run n) (run (n + 1)) := by
  have hserved : ∀ c s, Follows R text c s → Printed R text s.order c.world ∧
      ((∃ c', (processes H R text).Step c c') ∨ Served text s.order c) := by
    intro c s hs
    refine ⟨hs.printed_order, ?_⟩
    rcases hs.inv.progress with ⟨s', hstep⟩ | hfin
    · exact Or.inl (hs.enabled H hstep)
    · exact Or.inr (hs.served_of_finished hfin)
  refine ⟨?_, ?_, ?_⟩
  · intro c hc
    obtain ⟨s, -, hs⟩ := (follows_step H hnum).reachable (follows_start hw) hc
    exact ⟨s.order, hserved c s hs⟩
  · intro run n hstart hrun
    have hfollows : Follows R text (run 0) Turns.start := hstart ▸ follows_start hw
    obtain ⟨path, hpath, hsteps, hrel⟩ := (follows_step H hnum).run hfollows hrun
    refine ⟨fun m => (path m).order, congrArg Turns.State.order hpath, ?_, ?_⟩
    · intro m hm
      exact (hsteps m hm).order_grows
    · intro m hm
      exact hserved _ _ (hrel m hm)
  · apply (follows_step H hnum).finite (Turns.State.left ROUNDS) (follows_start hw)
    intro c s s' h hs
    have := Turns.left_step h.inv hs
    omega

/-- The sockets of some numbered clients. -/
def exchangeLibrary {n : ℕ} : Option (Fin n) → Library (Exchange (Fin n))
  | some k, .send _ buf len _, x =>
    match x.waiting k, buf.bytes len.toNat with
    | false, some b => (Int32.ofNat b.length, x.ask k b)
    | _, _ => ((-1 : LONG), x)
  | some k, .recv _ _ len _, x =>
    match x.replies k with
    | some b => ((Int32.ofNat b.length, b.take len.toNat), x.collect k)
    | none => (((-1 : LONG), []), x)
  | none, .send _ buf len _, x =>
    match x.current, buf.bytes len.toNat with
    | some k, some b => (Int32.ofNat b.length, x.answer k b)
    | _, _ => ((-1 : LONG), x)
  | none, .recv _ _ len _, x =>
    match x.current, (List.finRange n).find? fun k => (x.requests k).isSome with
    | none, some k =>
      ((Int32.ofNat ((x.requests k).getD []).length, ((x.requests k).getD []).take len.toNat),
        x.receive k)
    | _, _ => (((-1 : LONG), []), x)
  | _, c, x => (c.failed, x)

def exchangeSockets {n : ℕ} (hSocket : Option (Fin n) → LONG) :
    ReqRep exchangeLibrary hSocket where
  exchange := id
  ask l k buf n b hb hw := by
    have hw : l.waiting k = false := hw
    simp [exchangeLibrary, hb, hw]
  receive l buf len hcurrent hrequest := by
    have hcurrent : l.current = none := hcurrent
    obtain ⟨j, hj⟩ := hrequest
    have hsome : ((List.finRange n).find? fun k => (l.requests k).isSome).isSome := by
      rw [List.find?_isSome]
      exact ⟨j, List.mem_finRange j, Option.isSome_iff_ne_none.mpr hj⟩
    obtain ⟨k, hk⟩ := Option.isSome_iff_exists.mp hsome
    have hfound := List.find?_some hk
    obtain ⟨b, hb⟩ := Option.isSome_iff_exists.mp hfound
    refine ⟨k, b, hb, ?_, ?_⟩
    · simp [exchangeLibrary, hcurrent, hk, hb]
    · simp [exchangeLibrary, hcurrent, hk]
  answer l k buf n b hb hcurrent := by
    have hcurrent : l.current = some k := hcurrent
    simp [exchangeLibrary, hb, hcurrent]
  collect l k buf n b hb := by
    have hb : l.replies k = some b := hb
    simp [exchangeLibrary, hb]

def twoClients : Processes (Fin 2) (Exchange (Fin 2)) where
  sessions _ := Session.resolved .empty
  console _ := []
  net := .empty

lemma fresh_twoClients (h : LONG) :
    twoClients.Fresh (exchangeSockets fun _ => h) where
  ready _ := Session.ready_resolved _
  console _ := rfl
  net := by
    unfold exchangeSockets
    rfl

instance (x : Exchange (Fin 2)) : ∀ i, Decidable (x.Returns i)
  | none => inferInstanceAs (Decidable (x.current = none → ∃ k, x.requests k ≠ none))
  | some k => inferInstanceAs (Decidable (x.waiting k = true → x.replies k ≠ none))

/-- Both clients ask before the server takes a request, and the second one prints its reply
first. -/
theorem requests_served_in_turn_two_clients :
    (∃ c, (processes (fun _ => Host.bare) (exchangeSockets fun _ => 1) decimal).Reachable
        ⟨twoClients, scripts decimal fun _ => 1⟩ c ∧
      c.world.console (some 0) = [] ∧
      c.world.console (some 1) = [chars "Reply From Server: Hi 2"] ∧
      ∃ order, Printed (exchangeSockets fun _ => 1) decimal order c.world ∧
        ((∃ c', (processes (fun _ => Host.bare) (exchangeSockets fun _ => 1) decimal).Step c c') ∨
          Served decimal order c)) ∧
    ¬ ∃ run : ℕ → Scripts (Fin 2) (Exchange (Fin 2)),
      run 0 = ⟨twoClients, scripts decimal fun _ => 1⟩ ∧
        ∀ n, (processes (fun _ => Host.bare) (exchangeSockets fun _ => 1) decimal).Step (run n)
          (run (n + 1)) := by
  obtain ⟨hserved, -, hfinite⟩ := requests_served_in_turn (fun _ => Host.bare)
    (exchangeSockets fun _ => 1) writesNumbers_decimal twoClients (fresh_twoClients 1)
  have hconsoles : (((processes (fun _ => Host.bare) (exchangeSockets fun _ => 1)
      decimal).schedule
        (Processes.answerWhen (fun _ => Host.bare) exchangeLibrary fun x i => x.Returns i)
        ⟨twoClients, scripts decimal fun _ => 1⟩
        [some 0, some 1, none, none, none, none, none, none, none, some 1, some 1]).map
          fun c => (c.world.console (some 0), c.world.console (some 1))) =
            some ([], [chars "Reply From Server: Hi 2"]) := by
    decide +kernel
  obtain ⟨c, hc, hprinted⟩ := Option.map_eq_some_iff.mp hconsoles
  obtain ⟨hfirst, hsecond⟩ := Prod.mk.inj hprinted
  have hreach := Parties.reachable_of_schedule (Processes.respond_answerWhen _ _ _) hc
  exact ⟨⟨c, hreach, hfirst, hsecond, hserved c hreach⟩, hfinite⟩

end ThinBasicZmq
