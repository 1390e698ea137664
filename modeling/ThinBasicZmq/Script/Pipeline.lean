import ThinBasicZmq.Script.PushPull

/-!
# Messages through the pipes

The sink prints what comes out of the pipes under consecutive numbers, and the messages of each
client in the order in which the client has pushed them.
-/

namespace ThinBasicZmq

namespace PushPull

open Interaction Script

variable {κ L : Type} [DecidableEq κ] {H : Option κ → Host} {lib : Option κ → Library L}
  {hSocket : Option κ → LONG} {R : PushPull lib hSocket} {text : LONG → List UInt8}

/-- The `i`-th message of a client. -/
def pushText (text : LONG → List UInt8) (i : ℕ) : List UInt8 :=
  chars "Push " ++ text (Int32.ofNat i)

def pushedLine (text : LONG → List UInt8) (i : ℕ) : List UInt8 :=
  chars "Pushed: " ++ pushText text i

/-- The line of the sink about the `n`-th message that it takes, the `i`-th of its client. -/
def pulledLine (text : LONG → List UInt8) (n i : ℕ) : List UInt8 :=
  chars "Pulled #" ++ text (Int32.ofNat n) ++ chars ": " ++ pushText text i

/-- The lines of the sink when it has taken messages from these clients. -/
def pulledLines (text : LONG → List UInt8) (taken : List κ) : List (List UInt8) :=
  (Pipes.numbered taken).mapIdx fun n p => pulledLine text (n + 1) p.2

def pushedLines (text : LONG → List UInt8) (n : ℕ) : List (List UInt8) :=
  (List.range n).map (pushedLine text)

/-- The lines of a client about its messages, without its reports. -/
def pushes (console : List (List UInt8)) : List (List UInt8) :=
  console.filter (chars "Pushed: ").isPrefixOf

lemma pulledLines_concat (taken : List κ) (k : κ) :
    pulledLines text (taken ++ [k]) =
      pulledLines text taken ++ [pulledLine text (taken.length + 1) (taken.count k)] := by
  rw [pulledLines, Pipes.numbered_concat, List.mapIdx_concat, Pipes.length_numbered]
  rfl

lemma pushedLines_succ (n : ℕ) :
    pushedLines text (n + 1) = pushedLines text n ++ [pushedLine text n] := by
  simp [pushedLines, List.range_succ]

lemma pushes_pushedLines (n : ℕ) : pushes (pushedLines text n) = pushedLines text n := by
  apply List.filter_eq_self.mpr
  intro line hline
  obtain ⟨i, -, rfl⟩ := List.mem_map.mp hline
  exact List.isPrefixOf_iff_prefix.mpr (List.prefix_append _ _)

lemma pushes_report {line : List UInt8} (h : (chars "Pushed: ").isPrefixOf line = false)
    (console : List (List UInt8)) : pushes (console ++ [line]) = pushes console := by
  simp [pushes, List.filter_append, h]

lemma zero_notMem_pushText (hnum : WritesNumbers text) (i : ℕ) : 0 ∉ pushText text i := by
  have hpush : (0 : UInt8) ∉ chars "Push " := by decide
  simp [pushText, hpush, hnum.zero_notMem]

lemma length_pushText (hnum : WritesNumbers text) (i : ℕ) :
    0 < (pushText text i).length ∧ (pushText text i).length ≤ 64 := by
  have hpush : (chars "Push ").length = 5 := rfl
  have := hnum.length_le (Int32.ofNat i)
  simp only [pushText, List.length_append, hpush]
  omega

/-- The rest of a client behind its call of `ZmqDisconnect`. -/
inductive Leaves (p : Script Unit) : Prop
  | failed : Reports (chars "Disconnect failed: ") p → Leaves p
  | disconnected : p = printl (chars "Disconnected") → Leaves p
  | done : p = pure () → Leaves p

/-- Where a client is that has pushed so many messages. -/
inductive ClientAt (text : LONG → List UInt8) (h : LONG) (p : Script Unit)
    (console : List (List UInt8)) (sent : ℕ) (closed : Bool) : Prop
  | idle : p = pushClient text h lpszServerAddr (PUSHES - sent) (Int32.ofNat sent) →
      console = pushedLines text sent → closed = false → ClientAt text h p console sent closed
  | pushed (n : ℕ) : sent = n + 1 →
      p = printl (pushedLine text n) >>= (fun _ =>
        pushClient text h lpszServerAddr (PUSHES - (n + 1)) (Int32.ofNat (n + 1))) →
      console = pushedLines text n → closed = false → ClientAt text h p console sent closed
  | failed {q} : Reports (chars "Send failed: ") q →
      p = q >>= (fun _ => pushDisconnect h lpszServerAddr) →
      console = pushedLines text sent → closed = false → ClientAt text h p console sent closed
  | leaving : p = pushDisconnect h lpszServerAddr → pushes console = pushedLines text sent →
      closed = false → ClientAt text h p console sent closed
  | left : Leaves p → pushes console = pushedLines text sent → ClientAt text h p console sent closed

/-- Where the sink is. -/
inductive SinkAt (text : LONG → List UInt8) (h : LONG) (p : Script LONG)
    (console : List (List UInt8)) (taken : List κ) : Prop
  | idle : p = pullServer text h (Int32.ofNat taken.length) → console = pulledLines text taken →
      SinkAt text h p console taken
  | pulled (before : List κ) (k : κ) : taken = before ++ [k] →
      p = printl (pulledLine text taken.length (before.count k)) >>=
        (fun _ => pure (Int32.ofNat taken.length)) →
      console = pulledLines text before → SinkAt text h p console taken
  | done : p = pure (Int32.ofNat taken.length) → console = pulledLines text taken →
      SinkAt text h p console taken

structure Follows (R : PushPull lib hSocket) (text : LONG → List UInt8) (c : Scripts κ L)
    (s : Pipes.State κ) : Prop where
  inv : s.Inv
  ready : ∀ i, (c.world.sessions i).Ready
  carries : Pipes.Carries (pushText text) (R.queue c.world.net) s
  sink : SinkAt text (hSocket none) (c.progs none) (c.world.console none) s.taken
  client : ∀ k, ClientAt text (hSocket (some k)) (c.progs (some k)) (c.world.console (some k))
    (s.sender k).sent (s.sender k).closed
  bound : ∀ k, (s.sender k).sent ≤ PUSHES

/-- The rest of a round of a client that has called `ZmqSendStr`. -/
def afterSend (text : LONG → List UInt8) (h : LONG) (n i : ℕ) (rc : Value) : Script Unit := do
  if rc = .long (-1) then
    printlError (chars "Send failed: ")
    pushDisconnect h lpszServerAddr
  else
    printl (pushedLine text i)
    pushClient text h lpszServerAddr n (Int32.ofNat (i + 1))

lemma pushClient_succ (h : LONG) (n i : ℕ) :
    pushClient text h lpszServerAddr (n + 1) (Int32.ofNat i) =
      .ask (.keyword .zmqSendStr
        [.int h, .str (some (ScriptString.ofBytes (pushText text i)).ptr), .int 0])
        fun rc => afterSend text h n i rc := by
  have hcount : Int32.ofNat i + 1 = Int32.ofNat (i + 1) := (Int32.ofNat_add i 1).symm
  unfold afterSend
  rw [← hcount]
  rfl

lemma pushDisconnect_eq (h : LONG) : pushDisconnect h lpszServerAddr =
    .ask (.keyword .zmqDisconnect
      [.int h, .str (some (ScriptString.ofBytes lpszServerAddr).ptr)])
      fun rc => if rc ≠ .long 0 then printlError (chars "Disconnect failed: ")
        else printl (chars "Disconnected") := rfl

/-- The rest of the sink's loop when it has received. -/
def afterRecv (text : LONG → List UInt8) (n : ℕ) (lpszRecv : List UInt8) : Script LONG := do
  if lpszRecv.length > 0 then
    printl (chars "Pulled #" ++ text (Int32.ofNat (n + 1)) ++ chars ": " ++ lpszRecv)
    return Int32.ofNat (n + 1)
  else return Int32.ofNat n

lemma pullServer_eq (h : LONG) (n : ℕ) : pullServer text h (Int32.ofNat n) =
    .ask (.keyword .zmqRecvStr [.int h, .int 64, .int 0])
      fun v => afterRecv text n v.chars := by
  have hcount : Int32.ofNat n + 1 = Int32.ofNat (n + 1) := (Int32.ofNat_add n 1).symm
  unfold afterRecv
  rw [← hcount]
  rfl

variable {c : Scripts κ L} {s t : Pipes.State κ} {k : κ} {w : Processes κ L}

/-- A client moves on. -/
lemma Follows.client_moves (h : Follows R text c s) {p : Script Unit} (hinv : t.Inv)
    (htaken : t.taken = s.taken) (hother : ∀ j, j ≠ k → t.sender j = s.sender j)
    (hready : ∀ i, (w.sessions i).Ready)
    (hcarries : Pipes.Carries (pushText text) (R.queue w.net) t)
    (hconsole : ∀ i, i ≠ some k → w.console i = c.world.console i)
    (hat : ClientAt text (hSocket (some k)) p (w.console (some k)) (t.sender k).sent
      (t.sender k).closed)
    (hbound : (t.sender k).sent ≤ PUSHES) :
    Follows R text ⟨w, Function.update c.progs (some k) p⟩ t := by
  refine ⟨hinv, hready, hcarries, ?_, ?_, ?_⟩
  · rw [hconsole none (by simp), htaken]
    simpa using h.sink
  · intro j
    by_cases hj : j = k
    · subst hj
      simpa using hat
    · rw [hconsole (some j) (by simpa using hj), hother j hj]
      simpa [hj] using h.client j
  · intro j
    by_cases hj : j = k
    · subst hj
      exact hbound
    · rw [hother j hj]
      exact h.bound j

/-- The sink moves on. -/
lemma Follows.sink_moves (h : Follows R text c s) {p : Script LONG} (hinv : t.Inv)
    (hsent : ∀ j, (t.sender j).sent = (s.sender j).sent)
    (hclosed : ∀ j, (t.sender j).closed = (s.sender j).closed)
    (hready : ∀ i, (w.sessions i).Ready)
    (hcarries : Pipes.Carries (pushText text) (R.queue w.net) t)
    (hconsole : ∀ j, w.console (some j) = c.world.console (some j))
    (hat : SinkAt text (hSocket none) p (w.console none) t.taken) :
    Follows R text ⟨w, Function.update c.progs none p⟩ t := by
  refine ⟨hinv, hready, hcarries, by simpa using hat, ?_, ?_⟩
  · intro j
    rw [hconsole j, hsent j, hclosed j]
    simpa using h.client j
  · intro j
    rw [hsent j]
    exact h.bound j

/-- A client prints a line. -/
lemma Follows.client_prints (h : Follows R text c s) {line : List UInt8} {p : Script Unit}
    (hat : ClientAt text (hSocket (some k)) p (c.world.console (some k) ++ [line])
      (s.sender k).sent (s.sender k).closed) :
    Follows R text ⟨{ c.world with
      console := Function.update c.world.console (some k)
        (c.world.console (some k) ++ [line]) }, Function.update c.progs (some k) p⟩ s :=
  h.client_moves h.inv rfl (fun _ _ => rfl) h.ready h.carries (fun i hi => by simp [hi])
    (by simpa using hat) (h.bound k)

/-- A client reads the last error. -/
lemma Follows.client_reads (h : Follows R text c s) {z : ZmqCall} (hz : ReadsError z)
    {u : Session L} (hu : u.Ready) {p : Script Unit}
    (hat : ClientAt text (hSocket (some k)) p (c.world.console (some k)) (s.sender k).sent
      (s.sender k).closed) :
    Follows R text ⟨{ c.world with
      sessions := Function.update c.world.sessions (some k) u
      net := (lib (some k) z c.world.net).2 }, Function.update c.progs (some k) p⟩ s := by
  have hcarries : Pipes.Carries (pushText text) (R.queue (lib (some k) z c.world.net).2) s := by
    rw [R.error _ _ z hz]
    exact h.carries
  exact h.client_moves h.inv rfl (fun _ _ => rfl) (ready_update h.ready _ hu) hcarries
    (fun _ _ => rfl) hat (h.bound k)

/-- A client comes back from a call that changes its pipe. -/
lemma Follows.client_calls (h : Follows R text c s) {x : Pipes.Sender} (hinv : (s.set k x).Inv)
    {l : L} (hcarries : Pipes.Carries (pushText text) (R.queue l) (s.set k x)) {u : Session L}
    (hu : u.Ready) {p : Script Unit}
    (hat : ClientAt text (hSocket (some k)) p (c.world.console (some k)) x.sent x.closed)
    (hbound : x.sent ≤ PUSHES) :
    Follows R text ⟨{ c.world with
      sessions := Function.update c.world.sessions (some k) u
      net := l }, Function.update c.progs (some k) p⟩ (s.set k x) :=
  h.client_moves hinv rfl (fun j hj => by simp [Pipes.State.set, hj]) (ready_update h.ready _ hu)
    hcarries (fun _ _ => rfl) (by simpa [Pipes.State.set] using hat)
    (by simpa [Pipes.State.set] using hbound)

lemma Follows.push (hnum : WritesNumbers text) (h : Follows R text c s) {n : ℕ}
    (hn : PUSHES - (s.sender k).sent = n + 1)
    (hconsole : c.world.console (some k) = pushedLines text (s.sender k).sent)
    (hclosed : (s.sender k).closed = false) {x : Value}
    (hw : Processes.respondWhen H lib R.returns (some k) c.world (.keyword .zmqSendStr
      [.int (hSocket (some k)),
        .str (some (ScriptString.ofBytes (pushText text (s.sender k).sent)).ptr), .int 0]) x w) :
    ∃ t, Relation.ReflTransGen Pipes.Step s t ∧
      Follows R text ⟨w, Function.update c.progs (some k)
        (afterSend text (hSocket (some k)) n (s.sender k).sent x)⟩ t := by
  have hlen : (pushText text (s.sender k).sent).length ≤ TB_RETURN_STRING_MAX :=
    (length_pushText hnum _).2.trans (by decide)
  obtain ⟨buf, m, u, hbytes, hu, rfl, rfl⟩ := respond_zmqSendStr (h.ready _) (hSocket (some k)) 0
    (zero_notMem_pushText hnum _) hlen hw
  rcases R.push c.world.net k buf m _ hbytes hlen with ⟨hrc, hqueue⟩ | ⟨hrc, hqueue⟩
  · have hcarries : Pipes.Carries (pushText text) (R.queue (lib (some k)
        (.send (tbPtrFromHandle (hSocket (some k))) buf m 0) c.world.net).2) s := by
      rw [hqueue]
      exact h.carries
    refine ⟨s, .refl, ?_⟩
    unfold afterSend
    rw [if_pos (by rw [hrc])]
    exact h.client_moves h.inv rfl (fun _ _ => rfl) (ready_update h.ready _ hu) hcarries
      (fun _ _ => rfl) (.failed (.errno rfl) rfl hconsole hclosed) (h.bound k)
  · have hsender : s.sender k = ⟨(s.sender k).sent, (s.sender k).coming, false⟩ := by
      rw [← hclosed]
    have hcarries := h.carries.send h.inv hsender
    rw [← hqueue] at hcarries
    have hstep : Pipes.Step s _ := .send hsender
    refine ⟨_, .single hstep, ?_⟩
    unfold afterSend
    rw [if_neg (by simpa using hrc)]
    have hleft : n = PUSHES - ((s.sender k).sent + 1) := by omega
    exact h.client_calls (h.inv.step hstep) hcarries hu
      (.pushed _ rfl (by rw [hleft]) hconsole rfl) (by dsimp only; omega)

lemma Follows.disconnect (h : Follows R text c s)
    (hconsole : pushes (c.world.console (some k)) = pushedLines text (s.sender k).sent) {x : Value}
    (hw : Processes.respondWhen H lib R.returns (some k) c.world (.keyword .zmqDisconnect
      [.int (hSocket (some k)), .str (some (ScriptString.ofBytes lpszServerAddr).ptr)]) x w) :
    ∃ t, Relation.ReflTransGen Pipes.Step s t ∧
      Follows R text ⟨w, Function.update c.progs (some k)
        (if x ≠ .long 0 then printlError (chars "Disconnect failed: ")
        else printl (chars "Disconnected"))⟩ t := by
  obtain ⟨endpoint, u, hu, rfl, rfl⟩ := respond_zmqDisconnect (h.ready _) (hSocket (some k))
    (by decide : 0 ∉ lpszServerAddr) (by decide) hw
  obtain ⟨rest, hrest, hqueue⟩ := R.disconnect c.world.net k endpoint
  have hsender : s.sender k = ⟨(s.sender k).sent, (s.sender k).coming, (s.sender k).closed⟩ := rfl
  obtain ⟨r, hr, hcarries⟩ := h.carries.close hsender hrest
  rw [← hqueue] at hcarries
  have hstep : Pipes.Step s _ := .close hsender hr
  refine ⟨_, .single hstep, ?_⟩
  have hleaves : Leaves (if (Value.long (lib (some k) (.disconnect
      (tbPtrFromHandle (hSocket (some k))) endpoint) c.world.net).1) ≠ .long 0 then
        printlError (chars "Disconnect failed: ") else printl (chars "Disconnected")) := by
    split
    · exact .failed (.errno rfl)
    · exact .disconnected rfl
  exact h.client_calls (h.inv.step hstep) hcarries hu (.left hleaves hconsole) (h.bound k)

lemma Follows.client_step (hnum : WritesNumbers text) (h : Follows R text c s)
    {r : ScriptCall} {next : r.Resp → Script Unit} (hp : c.progs (some k) = .ask r next)
    {x : r.Resp} (hw : Processes.respondWhen H lib R.returns (some k) c.world r x w) :
    ∃ t, Relation.ReflTransGen Pipes.Step s t ∧
      Follows R text ⟨w, Function.update c.progs (some k) (next x)⟩ t := by
  cases h.client k with
  | idle hprog hconsole hclosed =>
    cases hn : PUSHES - (s.sender k).sent with
    | zero =>
      -- all messages are pushed
      rw [hprog, hn, pushClient, pushDisconnect_eq] at hp
      cases hp
      exact h.disconnect (by rw [hconsole, pushes_pushedLines]) hw
    | succ n =>
      rw [hprog, hn, pushClient_succ] at hp
      cases hp
      exact h.push hnum hn hconsole hclosed hw
  | pushed n hsent hprog hconsole hclosed =>
    rw [hprog] at hp
    cases hp
    obtain rfl : w = _ := hw
    refine ⟨s, .refl, h.client_prints (.idle ?_ ?_ hclosed)⟩
    · rw [hsent]
      rfl
    · rw [hsent, pushedLines_succ, hconsole]
  | failed hq hprog hconsole hclosed =>
    obtain ⟨q', z, u, hq', hnext, hz, hu, rfl⟩ | ⟨msg, hnext, rfl⟩ :=
      hq.reply (hprog.symm.trans hp) (h.ready (some k)) hw
    · rw [hnext]
      exact ⟨s, .refl, h.client_reads hz hu (.failed hq' rfl hconsole hclosed)⟩
    · rw [hnext]
      refine ⟨s, .refl, h.client_prints (.leaving rfl ?_ hclosed)⟩
      rw [pushes_report rfl, hconsole, pushes_pushedLines]
  | leaving hprog hconsole hclosed =>
    rw [hprog, pushDisconnect_eq] at hp
    cases hp
    exact h.disconnect hconsole hw
  | left hleaves hconsole =>
    cases hleaves with
    | failed hq =>
      obtain ⟨q', z, u, hq', hnext, hz, hu, rfl⟩ | ⟨msg, hnext, rfl⟩ :=
        hq.reply ((bind_pure _).trans hp) (h.ready (some k)) hw
      · rw [hnext, bind_pure]
        exact ⟨s, .refl, h.client_reads hz hu (.left (.failed hq') hconsole)⟩
      · rw [hnext]
        exact ⟨s, .refl, h.client_prints (.left (.done rfl) ((pushes_report rfl _).trans hconsole))⟩
    | disconnected hprog =>
      rw [hprog] at hp
      cases hp
      obtain rfl : w = _ := hw
      exact ⟨s, .refl, h.client_prints (.left (.done rfl) ((pushes_report rfl _).trans hconsole))⟩
    | done hprog =>
      rw [hprog] at hp
      cases hp

lemma Follows.pull (hnum : WritesNumbers text) (h : Follows R text c s)
    (hconsole : c.world.console none = pulledLines text s.taken) {x : Value}
    (hw : Processes.respondWhen H lib R.returns none c.world (.keyword .zmqRecvStr
      [.int (hSocket none), .int 64, .int 0]) x w) :
    ∃ t, Relation.ReflTransGen Pipes.Step s t ∧
      Follows R text ⟨w, Function.update c.progs none (afterRecv text s.taken.length x.chars)⟩ t := by
  rcases R.pull c.world.net (.arr (localArray TB_RETURN_STRING_MAX)) 64 (hw.1 rfl) with
    ⟨hrecv, hqueue⟩ | ⟨k, b, rest, hk, hrecv, hqueue⟩
  · obtain ⟨rfl, u, hu, rfl⟩ := respond_zmqRecvStr_failed (h.ready _) (hSocket none)
      (by decide) (by decide) hrecv hw
    have hcarries : Pipes.Carries (pushText text) (R.queue (lib none
        (.recv (tbPtrFromHandle (hSocket none)) (.arr (localArray TB_RETURN_STRING_MAX)) 64 0)
          c.world.net).2) s := by
      rw [hqueue]
      exact h.carries
    exact ⟨s, .refl, h.sink_moves h.inv (fun _ => rfl) (fun _ => rfl)
      (ready_update h.ready _ hu) hcarries (fun _ => rfl) (.done rfl hconsole)⟩
  · obtain ⟨n, m, closed, hsender, rfl, hcarries⟩ := h.carries.take hk
    rw [← hqueue] at hcarries
    have hlen := length_pushText hnum (s.taken.count k)
    obtain ⟨rfl, u, hu, rfl⟩ := respond_zmqRecvStr (h.ready _) (hSocket none) (by decide)
      (by decide) hlen.2 hrecv hw
    have hstep : Pipes.Step s _ := .take hsender
    have hsame : ∀ j, ((s.set k ⟨n, m, closed⟩).sender j).sent = (s.sender j).sent ∧
        ((s.set k ⟨n, m, closed⟩).sender j).closed = (s.sender j).closed := by
      intro j
      by_cases hj : j = k
      · subst hj
        simp [Pipes.State.set, hsender]
      · simp [Pipes.State.set, hj]
    have hprog : afterRecv text s.taken.length
        (Value.bstr (some (pushText text (s.taken.count k)))).chars =
          printl (pulledLine text (s.taken ++ [k]).length (s.taken.count k)) >>=
            fun _ => pure (Int32.ofNat (s.taken ++ [k]).length) := by
      rw [List.length_append, List.length_singleton]
      exact if_pos hlen.1
    exact ⟨_, .single hstep, h.sink_moves (h.inv.step hstep) (fun j => (hsame j).1)
      (fun j => (hsame j).2) (ready_update h.ready _ hu) hcarries (fun _ => rfl)
      (.pulled s.taken k rfl hprog hconsole)⟩

lemma Follows.sink_step (hnum : WritesNumbers text) (h : Follows R text c s)
    {r : ScriptCall} {next : r.Resp → Script LONG} (hp : c.progs none = .ask r next)
    {x : r.Resp} (hw : Processes.respondWhen H lib R.returns none c.world r x w) :
    ∃ t, Relation.ReflTransGen Pipes.Step s t ∧
      Follows R text ⟨w, Function.update c.progs none (next x)⟩ t := by
  cases h.sink with
  | idle hprog hconsole =>
    rw [hprog, pullServer_eq] at hp
    cases hp
    exact h.pull hnum hconsole hw
  | pulled before k htaken hprog hconsole =>
    rw [hprog] at hp
    cases hp
    obtain rfl : w = _ := hw
    refine ⟨s, .refl, h.sink_moves h.inv (fun _ => rfl) (fun _ => rfl) h.ready h.carries
      (fun j => by simp) (.done rfl ?_)⟩
    simp [hconsole, htaken, pulledLines_concat]
  | done hprog hconsole =>
    rw [hprog] at hp
    cases hp

/-- Every step is at most one step of the pipes. -/
theorem follows_step (H : Option κ → Host) (hnum : WritesNumbers text) :
    Simulates (Follows R text) (processes H R text).Step (Relation.ReflTransGen Pipes.Step) := by
  intro c s c' h hstep
  cases hstep with
  | @reply i r next x w hp hw =>
    cases i with
    | none => exact h.sink_step hnum hp hw
    | some k => exact h.client_step hnum hp hw
  | @again i st p hp hag =>
    cases i with
    | some k => cases hag
    | none =>
      cases hag
      cases h.sink with
      | idle hprog hconsole =>
        rw [hprog, pullServer_eq] at hp
        cases hp
      | pulled before k htaken hprog hconsole =>
        rw [hprog] at hp
        cases hp
      | done hprog hconsole =>
        obtain rfl : Int32.ofNat s.taken.length = st := Prog.done.inj (hprog.symm.trans hp)
        exact ⟨s, .refl, h.sink_moves h.inv (fun _ => rfl) (fun _ => rfl) h.ready h.carries
          (fun _ => rfl) (.idle rfl hconsole)⟩

lemma follows_start (hw : Fresh R w) :
    Follows R text ⟨w, scripts text hSocket⟩ Pipes.start where
  inv := Pipes.inv_start
  ready := hw.ready
  carries := by
    rw [hw.queue]
    exact Pipes.carries_start
  sink := .idle rfl (hw.console none)
  client k := .idle rfl (hw.console (some k)) rfl
  bound _ := Nat.zero_le _

/-- All lines are printed, or all but the last one, and no others. -/
def AllButLast (lines console : List (List UInt8)) : Prop :=
  lines = console ∨ ∃ line, lines = console ++ [line]

/-- What was pulled, when `sent k` are the messages that client `k` has pushed. -/
structure Pulled (R : PushPull lib hSocket) (text : LONG → List UInt8) (taken : List κ)
    (sent : κ → ℕ) (c : Scripts κ L) : Prop where
  sink : AllButLast (pulledLines text taken) (c.world.console none)
  client : ∀ k, AllButLast (pushedLines text (sent k)) (pushes (c.world.console (some k)))
  bound : ∀ k, sent k ≤ PUSHES
  /-- none is pulled that was not pushed -/
  le : ∀ k, taken.count k ≤ sent k
  /-- none is lost of a client that has not disconnected -/
  waiting : ∀ k, Leaves (c.progs (some k)) ∨ R.queue c.world.net k =
    (List.range' (taken.count k) (sent k - taken.count k)).map (pushText text)

lemma ClientAt.allButLast {h : LONG} {p : Script Unit} {console : List (List UInt8)} {sent : ℕ}
    {closed : Bool} (hat : ClientAt text h p console sent closed) :
    AllButLast (pushedLines text sent) (pushes console) := by
  cases hat with
  | pushed n hsent _ hconsole _ =>
    rw [hsent, pushedLines_succ, hconsole, pushes_pushedLines]
    exact Or.inr ⟨_, rfl⟩
  | idle _ hconsole _ | failed _ _ hconsole _ =>
    rw [hconsole, pushes_pushedLines]
    exact Or.inl rfl
  | leaving _ hconsole _ | left _ hconsole => exact Or.inl hconsole.symm

lemma ClientAt.leaves {h : LONG} {p : Script Unit} {console : List (List UInt8)} {sent : ℕ}
    {closed : Bool} (hat : ClientAt text h p console sent closed) :
    Leaves p ∨ closed = false := by
  cases hat with
  | left hleaves _ => exact Or.inl hleaves
  | idle _ _ hclosed | pushed _ _ _ _ hclosed | failed _ _ _ hclosed | leaving _ _ hclosed =>
    exact Or.inr hclosed

lemma Follows.pulled (h : Follows R text c s) :
    Pulled R text s.taken (fun k => (s.sender k).sent) c where
  sink := by
    cases h.sink with
    | idle _ hconsole | done _ hconsole => exact Or.inl hconsole.symm
    | pulled before k htaken _ hconsole =>
      rw [htaken, pulledLines_concat, hconsole]
      exact Or.inr ⟨_, rfl⟩
  client k := (h.client k).allButLast
  bound := h.bound
  le k := (Nat.le_add_right _ _).trans (h.inv.le k)
  waiting k := by
    rcases (h.client k).leaves with hleaves | hclosed
    · exact Or.inl hleaves
    · right
      have hcoming : (s.sender k).coming = (s.sender k).sent - s.taken.count k :=
        Nat.eq_sub_of_add_eq' (h.inv.eq k hclosed)
      rw [h.carries k, hcoming]

/-- However the processes are scheduled and whichever calls fail, the sink prints consecutive
numbers, the messages of each client come in the order in which they were pushed, none of them
twice, and what a client has printed of its pushes is pulled or still on its way until the client
disconnects. -/
theorem messages_pulled_in_order (H : Option κ → Host) (R : PushPull lib hSocket)
    (hnum : WritesNumbers text) {w : Processes κ L} (hw : Fresh R w) {c : Scripts κ L}
    (hc : (processes H R text).Reachable ⟨w, scripts text hSocket⟩ c) :
    ∃ taken sent, Pulled R text taken sent c := by
  obtain ⟨s, -, hfollows⟩ := (follows_step H hnum).reachable (follows_start hw) hc
  exact ⟨s.taken, _, hfollows.pulled⟩

/-- The sockets of some numbered clients. -/
def pipeLibrary {n : ℕ} : Option (Fin n) → Library (Fin n → List (List UInt8))
  | some k, .send _ buf len _, x =>
    match buf.bytes len.toNat with
    | some b => (Int32.ofNat b.length, Function.update x k (x k ++ [b]))
    | none => ((-1 : LONG), x)
  | some _, .disconnect _ _, x => ((0 : LONG), x)
  | none, .recv _ _ len _, x =>
    match (List.finRange n).find? fun k => !(x k).isEmpty with
    | some k =>
      ((Int32.ofNat ((x k).headD []).length, ((x k).headD []).take len.toNat),
        Function.update x k (x k).tail)
    | none => (((-1 : LONG), []), x)
  | _, c, x => (c.failed, x)

def pipeSockets {n : ℕ} (hSocket : Option (Fin n) → LONG) : PushPull pipeLibrary hSocket where
  queue := id
  returns x i := i = none → ∃ k, x k ≠ []
  push l k buf m b hbytes hb := by
    refine Or.inr ⟨?_, ?_⟩
    · simpa [pipeLibrary, hbytes] using ofNat_length_ne hb
    · simp [pipeLibrary, hbytes]
  pull l buf m _ := by
    cases hfind : (List.finRange n).find? fun k => !(l k).isEmpty with
    | none => simp [pipeLibrary, hfind]
    | some k =>
      have hne := List.find?_some hfind
      obtain ⟨b, rest, hk⟩ := List.exists_cons_of_ne_nil
        (by simpa using hne : l k ≠ [])
      refine Or.inr ⟨k, b, rest, hk, ?_, ?_⟩
      · simp [pipeLibrary, hfind, hk]
      · simp [pipeLibrary, hfind, hk]
  disconnect l k endpoint := ⟨l k, List.prefix_refl _, by simp [pipeLibrary]⟩
  error l i c hc := by
    cases i <;> cases c <;> first | exact hc.elim | rfl

def twoClients : Scripts (Fin 2) (Fin 2 → List (List UInt8)) where
  world := ⟨fun _ => Session.resolved fun _ => [], fun _ => [], fun _ => []⟩
  progs := scripts decimal fun _ => 1

lemma fresh_twoClients : Fresh (pipeSockets fun _ => 1) twoClients.world where
  ready _ := Session.ready_resolved _
  console _ := rfl
  queue := rfl

instance (x : Fin 2 → List (List UInt8)) (i : Option (Fin 2)) :
    Decidable ((pipeSockets fun _ : Option (Fin 2) => (1 : LONG)).returns x i) :=
  inferInstanceAs (Decidable (i = none → ∃ k, x k ≠ []))

/-- Both clients have pushed a message, and client `1` has printed its line when the sink prints
the message of the other one. -/
theorem messages_pulled_in_order_two_clients :
    ∃ c, (processes (fun _ => Host.bare) (pipeSockets fun _ => 1) decimal).Reachable twoClients c ∧
      c.world.console none = [chars "Pulled #1: Push 0"] ∧
      ∃ taken sent, Pulled (pipeSockets fun _ => 1) decimal taken sent c := by
  have hconsole : (((processes (fun _ => Host.bare) (pipeSockets fun _ => 1) decimal).schedule
      (Processes.answerWhen (fun _ => Host.bare) pipeLibrary (pipeSockets fun _ => 1).returns)
      twoClients [some 1, some 0, some 1, none, none]).map fun c => c.world.console none) =
        some [chars "Pulled #1: Push 0"] := by
    decide +kernel
  obtain ⟨c, hc, hprinted⟩ := Option.map_eq_some_iff.mp hconsole
  have hreach := Parties.reachable_of_schedule (Processes.respond_answerWhen _ _ _) hc
  exact ⟨c, hreach, hprinted, messages_pulled_in_order (fun _ => Host.bare) (pipeSockets fun _ => 1)
    writesNumbers_decimal fresh_twoClients hreach⟩

end PushPull

end ThinBasicZmq
