import ThinBasicZmq.Interaction.Triple
import ThinBasicZmq.Keywords.Actions
import ThinBasicZmq.Script.Processes

/-!
# Open handles

A record of the contexts and sockets that are open in libzmq, kept by watching its calls. A
script has handles of its own, and the keywords stand between the two: they convert handles,
and call nothing while libzmq is not loaded.
-/

namespace ThinBasicZmq

open Interaction

/-- The contexts that are not shut down, and the sockets that are not closed. A `NULL` that was
returned counts as a handle. -/
structure OpenHandles where
  contexts : List Ptr
  sockets : List Ptr
deriving DecidableEq

namespace OpenHandles

def empty : OpenHandles := ⟨[], []⟩

/-- A handle is used while it is open, and a context is shut down when no socket is left. -/
def Allows (g : OpenHandles) : ZmqCall → Prop
  | .ctxTerm context | .ctxShutdown context => context ∈ g.contexts ∧ g.sockets = []
  | .ctxSet context _ _ | .ctxGet context _ | .socket context _ => context ∈ g.contexts
  | .close socket | .bind socket _ | .unbind socket _ | .connect socket _ | .disconnect socket _
  | .send socket _ _ _ | .recv socket _ _ _ | .setsockopt socket _ _ _
  | .getsockopt socket _ _ _ => socket ∈ g.sockets
  | .ctxNew | .errnoFn | .strerrorFn _ | .version | .has _ | .curveKeypair _ _ | .curvePublic _ _
  | .z85Encode _ _ _ | .z85Decode _ _ => True

instance (g : OpenHandles) (c : ZmqCall) : Decidable (g.Allows c) := by
  cases c <;> unfold Allows <;> infer_instance

/-- What is open after a call. A close or a shutdown counts whatever libzmq answers. -/
def after (g : OpenHandles) : (c : ZmqCall) → c.Resp → OpenHandles
  | .ctxNew, p => { g with contexts := p :: g.contexts }
  | .ctxTerm context, _ | .ctxShutdown context, _ =>
    { g with contexts := g.contexts.erase context }
  | .socket _ _, p => { g with sockets := p :: g.sockets }
  | .close socket, _ => { g with sockets := g.sockets.erase socket }
  | .ctxSet _ _ _, _ | .ctxGet _ _, _ | .bind _ _, _ | .unbind _ _, _ | .connect _ _, _
  | .disconnect _ _, _ | .send _ _ _ _, _ | .recv _ _ _ _, _ | .errnoFn, _ | .strerrorFn _, _
  | .version, _ | .has _, _ | .setsockopt _ _ _ _, _ | .getsockopt _ _ _ _, _
  | .curveKeypair _ _, _ | .curvePublic _ _, _ | .z85Encode _ _ _, _ | .z85Decode _ _, _ => g

/-- Allowed, and without a change. -/
def Ignores (g : OpenHandles) (c : ZmqCall) : Prop := g.Allows c ∧ ∀ x, g.after c x = g

end OpenHandles

variable {L α : Type}

/-- The library together with what is open in it. Nothing is recorded any more after a call that
was not allowed. -/
def Library.watched (lib : Library L) : Library (L × Option OpenHandles) := fun c l =>
  ((lib c l.1).1, (lib c l.1).2,
    l.2.bind fun g => if g.Allows c then some (g.after c (lib c l.1).1) else none)

/-- A script in a process of its own. -/
def Host.runs (H : Host) (lib : Library L) : (r : ScriptCall) → Session L → r.Resp × Session L
  | .keyword k args, s => H.call lib k args s
  | .printl _, s => ((), s)

def Session.unwatched (s : Session (L × Option OpenHandles)) : Session L := { s with lib := s.lib.1 }

variable {H : Host} {lib : Library L}

lemma answer_watched (r : Req) (s : Session (L × Option OpenHandles)) :
    (H.answer lib.watched r s).1 = (H.answer lib r s.unwatched).1 ∧
      (H.answer lib.watched r s).2.unwatched = (H.answer lib r s.unwatched).2 := by
  cases r <;> exact ⟨rfl, rfl⟩

/-- A script runs in the same way whether it is watched or not. -/
theorem run_watched (p : Script α) (s : Session (L × Option OpenHandles)) :
    (p.run (H.runs lib.watched) s).1 = (p.run (H.runs lib) s.unwatched).1 ∧
      (p.run (H.runs lib.watched) s).2.unwatched = (p.run (H.runs lib) s.unwatched).2 := by
  refine Prog.run_image ?_ p s
  intro r t
  cases r with
  | keyword k args => exact Prog.run_image answer_watched k.exec _
  | printl line => exact ⟨rfl, rfl⟩

/-- The handles as libzmq has them. -/
def OpenHandles.of (contexts sockets : List LONG) : OpenHandles :=
  ⟨contexts.map tbPtrFromHandle, sockets.map tbPtrFromHandle⟩

/-- The script has these handles open. Without libzmq they mean nothing, and nothing is open. -/
inductive Holding (contexts sockets : List LONG) (s : Session (L × Option OpenHandles)) : Prop
  | loaded : s.zmq.loaded ≠ 0 → s.lib.2 = some (.of contexts sockets) → Holding contexts sockets s
  | unloaded : s.zmq = .zero → s.lib.2 = some .empty → Holding contexts sockets s

variable {contexts sockets : List LONG}

lemma Holding.congr {s t : Session (L × Option OpenHandles)} (hs : Holding contexts sockets s)
    (hzmq : t.zmq = s.zmq) (hlib : t.lib = s.lib) : Holding contexts sockets t := by
  cases hs with
  | loaded hl hg => exact .loaded (by rwa [hzmq]) (by rwa [hlib])
  | unloaded hz hg => exact .unloaded (by rwa [hzmq]) (by rwa [hlib])

lemma answer_inner {r : Req} (h : IsInner r) (s : Session L) : (H.answer lib r s).2 = s := by
  cases r <;> first | rfl | exact h.elim

variable (H lib) in
lemma answer_text {r : Req} (h : AsksText r) (s : Session L) :
    (H.answer lib r s).2.zmq = s.zmq ∧ (H.answer lib r s).2.lib = s.lib := by
  cases r <;> first | exact ⟨rfl, rfl⟩ | exact h.elim

/-- What is read while libzmq is not loaded. -/
def Unloaded : (r : Req) → r.Resp → Prop
  | .readZmq, g => g.loaded = 0
  | _, _ => True

/-- Nothing is called while libzmq is not loaded. -/
lemma closed_guarded :
    Closed False fun {_} (p : Sdk _) Q => p.Guarantees Unloaded IsInner Q :=
  closed_guarantees (fun _ => id) fun _ _ _ hg h => absurd hg h

/-- Keywords that call only what the open handles allow without a change. -/
lemma keeps_action {k : Keyword} (hinit : k ≠ .zmqLibraryInit) (hshutdown : k ≠ .zmqLibraryShutdown)
    (args : Args k.signature) (hdoc : ∀ c, Documented cappedLen k args (.api c) →
      (OpenHandles.of contexts sockets).Ignores c) :
    (k.body.action args).Keeps (H.answer lib.watched) (Holding contexts sockets) := by
  intro s hs
  cases hs with
  | loaded hl hg =>
    have hkeeps : (k.body.action args).Keeps (H.answer lib.watched)
        fun t => t.zmq = s.zmq ∧ t.lib.2 = some (OpenHandles.of contexts sockets) := by
      apply ((action_works hinit hshutdown args).and (body_performs k args).within).keeps
      rintro r t ⟨hwork, hwithin⟩ ⟨hzmq, hlib⟩
      cases r with
      | zmq fn c =>
        obtain ⟨hallows, hafter⟩ := hdoc c hwithin
        refine ⟨hzmq, ?_⟩
        change t.lib.2.bind _ = _
        rw [hlib, Option.bind_some, if_pos hallows, hafter]
      | _ => first | exact ⟨hzmq, hlib⟩ | exact hwork.elim
    obtain ⟨hzmq, hlib⟩ := hkeeps s ⟨rfl, hg⟩
    exact .loaded (by rwa [hzmq]) hlib
  | unloaded hz hg =>
    have hkeeps := (closed_guarded.action hinit hshutdown args).triple (h := H.answer lib.watched)
      (I := fun t => t.zmq = .zero ∧ t.lib.2 = some OpenHandles.empty) ?_ ?_
    · obtain ⟨-, hzmq, hlib⟩ := hkeeps s ⟨hz, hg⟩
      exact .unloaded hzmq hlib
    · rintro r t ⟨hzmq, -⟩
      cases r with
      | readZmq => exact congrArg ZmqApiTable.loaded hzmq
      | _ => trivial
    · intro r t hr ht
      rwa [answer_inner hr]

def Args.first : (sig : List Param) → Args sig → Option LONG
  | .int :: _, (v, _) => some v
  | _, _ => none

/-- A program whose result is known, whatever it is answered. -/
abbrev Yields (p : Sdk α) (Q : α → Prop) : Prop :=
  p.Guarantees (fun _ _ => True) (fun _ => True) Q

lemma yields_of_forall {p : Sdk α} {Q : α → Prop} (hQ : ∀ a, Q a) : Yields p Q := by
  induction p with
  | done a => exact hQ a
  | ask r next ih => exact ⟨trivial, fun x _ => ih x⟩

variable (H lib) in
lemma Yields.run {p : Sdk α} {Q : α → Prop} (hp : Yields p Q) (s : Session L) :
    Q (p.run (H.answer lib) s).1 :=
  (hp.triple (I := fun _ => True) (fun _ _ _ => trivial) (fun _ _ _ _ => trivial) s trivial).1

lemma yields_parseThen {sig : List Param} {fail : Sdk α} {act : Args sig → Sdk α} {Q : α → Prop}
    (hfail : Yields fail Q) (hact : ∀ args, Yields (act args) Q) :
    Yields (parseThen sig fail act) Q := by
  induction sig with
  | nil => exact hact ()
  | cons p ps ih =>
    cases ps with
    | nil =>
      apply (yields_of_forall (Q := fun _ => True) fun _ => trivial).bind
      rintro (_ | a) -
      · exact hfail
      · exact hact (a, ())
    | cons q qs =>
      apply (yields_of_forall (Q := fun _ => True) fun _ => trivial).bind
      rintro (_ | a) -
      · exact hfail
      apply (yields_of_forall (Q := fun _ => True) fun _ => trivial).bind
      intro b _
      apply Prog.Guarantees.ite
      · exact fun _ => hfail
      · exact fun _ => ih fun args => hact (a, args)

lemma eq_of_yields {sig : List Param} {v u : LONG} {p : Sdk (Option (Args sig))} {args : Args sig}
    (hp : Yields p fun r => ∀ a, r = some a → Args.first sig a = some v) {s : Session L}
    (hargs : (p.run (H.answer lib) s).1 = some args) (hu : Args.first sig args = some u) :
    u = v := by
  have hfirst := hp.run H lib s args hargs
  rw [hfirst] at hu
  exact (Option.some.inj hu).symm

/-- A call starts with the parameter that its text starts with. -/
lemma first_of_parseCall {sig : List Param} {v : LONG} {rest : List Arg} {s : Session L}
    {args : Args sig}
    (hargs : ((parseCall sig).run (H.answer lib)
      { s with tokens := callTokens (.int v :: rest) ++ s.tokens }).1 = some args) {u : LONG}
    (hu : Args.first sig args = some u) : u = v := by
  obtain ⟨ts, hts⟩ : ∃ ts, callTokens (.int v :: rest) = .openParens :: .int v :: ts := by
    cases rest <;> exact ⟨_, rfl⟩
  have hclose : ∀ a : Args sig, Args.first sig a = some v → Yields
      (tbExpectCloseParens >>= fun b => if !b then pure none else pure (some a))
      fun r : Option (Args sig) => ∀ a, r = some a → Args.first sig a = some v := by
    intro a ha
    apply (yields_of_forall (Q := fun _ => True) fun _ => trivial).bind
    intro b _
    apply Prog.Guarantees.ite
    · intro _ a' ha'
      cases ha'
    · rintro - a' ⟨⟩
      exact ha
  rw [hts, parseCall, transact, List.cons_append, Prog.run_bind,
    Host.run_tbExpectOpenParens] at hargs
  cases sig with
  | nil => cases hu
  | cons p ps =>
    cases p with
    | str => cases hu
    | int =>
      cases ps with
      | nil =>
        exact eq_of_yields (s := { s with tokens := ts ++ s.tokens }) (hclose (v, ()) rfl) hargs hu
      | cons q qs =>
        have hrest : Yields (tbExpectComma >>= fun b => if !b then pure none
            else parseThen (q :: qs) (pure none) fun rest => tbExpectCloseParens >>= fun b =>
              if !b then pure none else pure (some ((v, rest) : Args (.int :: q :: qs))))
            fun r => ∀ a, r = some a → Args.first (.int :: q :: qs) a = some v := by
          apply (yields_of_forall (Q := fun _ => True) fun _ => trivial).bind
          intro b _
          apply Prog.Guarantees.ite
          · intro _ a ha
            cases ha
          · intro _
            apply yields_parseThen
            · intro a ha
              cases ha
            · exact fun rest => hclose (v, rest) rfl
        exact eq_of_yields (s := { s with tokens := ts ++ s.tokens }) hrest hargs hu

/-- What a keyword does with the handle that it gets. -/
inductive HandleUse
  | none | context | socket | changes

def Keyword.handleUse : Keyword → HandleUse
  | .zmqLibraryInit | .zmqLibraryShutdown | .zmqCtxNew | .zmqCtxTerm | .zmqCtxShutdown | .zmqSocket
  | .zmqClose => .changes
  | .zmqCtxSet | .zmqCtxGet => .context
  | .zmqBind | .zmqUnbind | .zmqConnect | .zmqDisconnect | .zmqSend | .zmqRecv | .zmqSendStr
  | .zmqRecvStr | .zmqSetsockoptInt | .zmqSetsockoptStr | .zmqGetsockoptInt => .socket
  | .zmqLibraryLoaded | .zmqErrno | .zmqStrerror | .zmqStrerrorString | .zmqVersionMajor
  | .zmqVersionMinor | .zmqVersionPatch | .zmqHas | .zmqCurveKeypair | .zmqCurvePublic
  | .zmqCurvePublicStr | .zmqZ85Encode | .zmqZ85Decode | .zmqZ85EncodeStr
  | .zmqZ85DecodeStr => .none

lemma ignores_none {k : Keyword} (hk : k.handleUse = .none) {args : Args k.signature}
    {c : ZmqCall} (hc : Documented cappedLen k args (.api c)) :
    (OpenHandles.of contexts sockets).Ignores c := by
  cases k <;> cases hk
  case zmqLibraryLoaded => exact nomatch hc
  case zmqHas | zmqCurvePublic | zmqZ85Decode | zmqZ85DecodeStr =>
    obtain ⟨r, hr, -⟩ := hc
    cases hr
    exact ⟨trivial, fun _ => rfl⟩
  case zmqCurvePublicStr =>
    obtain ⟨q, r, hr, -⟩ := hc
    cases hr
    exact ⟨trivial, fun _ => rfl⟩
  case zmqZ85EncodeStr =>
    obtain ⟨r, hr⟩ := hc
    cases hr
    exact ⟨trivial, fun _ => rfl⟩
  all_goals
    cases hc
    exact ⟨trivial, fun _ => rfl⟩

lemma ignores_context {k : Keyword} (hk : k.handleUse = .context) {args : Args k.signature}
    {h : LONG} (hh : h ∈ contexts) (hfirst : ∀ u, Args.first _ args = some u → u = h) {c : ZmqCall}
    (hc : Documented cappedLen k args (.api c)) : (OpenHandles.of contexts sockets).Ignores c := by
  have hp := List.mem_map_of_mem (f := tbPtrFromHandle) hh
  cases k <;> cases hk <;> cases hc <;> obtain rfl := hfirst _ rfl <;> exact ⟨hp, fun _ => rfl⟩

lemma ignores_socket {k : Keyword} (hk : k.handleUse = .socket) {args : Args k.signature}
    {h : LONG} (hh : h ∈ sockets) (hfirst : ∀ u, Args.first _ args = some u → u = h) {c : ZmqCall}
    (hc : Documented cappedLen k args (.api c)) : (OpenHandles.of contexts sockets).Ignores c := by
  have hp := List.mem_map_of_mem (f := tbPtrFromHandle) hh
  cases k <;> cases hk <;> obtain rfl := hfirst _ rfl
  case zmqBind | zmqUnbind | zmqConnect | zmqDisconnect =>
    obtain ⟨r, hr, -⟩ := hc
    cases hr
    exact ⟨hp, fun _ => rfl⟩
  case zmqSendStr | zmqSetsockoptStr =>
    obtain ⟨r, n, hr, -⟩ := hc
    cases hr
    exact ⟨hp, fun _ => rfl⟩
  case zmqRecvStr =>
    obtain ⟨r, hr⟩ := hc
    cases hr
    exact ⟨hp, fun _ => rfl⟩
  all_goals
    cases hc
    exact ⟨hp, fun _ => rfl⟩

variable (H lib) in
/-- Reading the text of a call, and what is done without its parameters. -/
lemma run_text {p : Sdk α} (hp : p.Only AsksText) (s : Session L) :
    (p.run (H.answer lib) s).2.zmq = s.zmq ∧ (p.run (H.answer lib) s).2.lib = s.lib := by
  refine hp.keeps (I := fun t => t.zmq = s.zmq ∧ t.lib = s.lib) ?_ s ⟨rfl, rfl⟩
  rintro r t hr ⟨hzmq, hlib⟩
  obtain ⟨hzmq', hlib'⟩ := answer_text H lib hr t
  exact ⟨hzmq'.trans hzmq, hlib'.trans hlib⟩

lemma run_failure {sig : List Param} (b : Body sig) (s : Session L) :
    (b.failure.run (H.answer lib) s).2 = s :=
  (failure_result b).run_state (fun _ t hr => answer_inner hr.isLocal.isInner t) s

/-- A call whose parameters, if they are there, lead to calls that change no handles. -/
lemma call_keeps {k : Keyword} (hk : k.handleUse ≠ .changes) {args : List Arg}
    {s : Session (L × Option OpenHandles)} (hs : Holding contexts sockets s)
    (hdoc : ∀ a c, ((parseCall k.signature).run (H.answer lib.watched)
      { s with tokens := callTokens args ++ s.tokens }).1 = some a →
        Documented cappedLen k a (.api c) → (OpenHandles.of contexts sockets).Ignores c) :
    Holding contexts sockets (H.call lib.watched k args s).2 := by
  rw [Host.call, k.exec_eq_transact, transact_eq_parseCall, Prog.run_bind]
  obtain ⟨hzmq, hlib⟩ := run_text H lib.watched (parseCall_only k.signature)
    { s with tokens := callTokens args ++ s.tokens }
  have ht := hs.congr hzmq hlib
  generalize (parseCall k.signature).run (H.answer lib.watched) _ = q at hdoc ht
  obtain ⟨_ | a, t⟩ := q
  · change Holding _ _ (k.body.failure.run (H.answer lib.watched) t).2
    rwa [run_failure]
  · have hinit : k ≠ .zmqLibraryInit := by
      rintro rfl
      exact hk rfl
    have hshutdown : k ≠ .zmqLibraryShutdown := by
      rintro rfl
      exact hk rfl
    exact keeps_action hinit hshutdown a (hdoc a · rfl) t ht

/-- A call of a script that works on these handles, and neither opens nor closes any. -/
inductive WorksOn (contexts sockets : List LONG) : ScriptCall → Prop
  | printl (line : List UInt8) : WorksOn contexts sockets (.printl line)
  | none {k : Keyword} (args : List Arg) : k.handleUse = .none →
      WorksOn contexts sockets (.keyword k args)
  | context {k : Keyword} {h : LONG} (rest : List Arg) : k.handleUse = .context → h ∈ contexts →
      WorksOn contexts sockets (.keyword k (.int h :: rest))
  | socket {k : Keyword} {h : LONG} (rest : List Arg) : k.handleUse = .socket → h ∈ sockets →
      WorksOn contexts sockets (.keyword k (.int h :: rest))

/-- What one call preserves. -/
lemma WorksOn.keeps {r : ScriptCall} (hr : WorksOn contexts sockets r)
    {s : Session (L × Option OpenHandles)} (hs : Holding contexts sockets s) :
    Holding contexts sockets (H.runs lib.watched r s).2 := by
  cases hr with
  | printl line => exact hs
  | none args hk => exact call_keeps (by simp [hk]) hs fun a c _ hc => ignores_none hk hc
  | context rest hk hh =>
    exact call_keeps (by simp [hk]) hs fun a c ha hc =>
      ignores_context hk hh (fun u hu => first_of_parseCall ha hu) hc
  | socket rest hk hh =>
    exact call_keeps (by simp [hk]) hs fun a c ha hc =>
      ignores_socket hk hh (fun u hu => first_of_parseCall ha hu) hc

theorem keeps_of_worksOn {p : Script α} (hp : p.Only (WorksOn contexts sockets)) :
    p.Keeps (H.runs lib.watched) (Holding contexts sockets) :=
  hp.keeps fun _ _ hr hs => hr.keeps hs

lemma run_zmqApi_unloaded {c : ZmqCall} {notLoaded : Sdk c.Resp} {s : Session L}
    (hs : s.zmq.loaded = 0) :
    (zmqApi c notLoaded).run (H.answer lib) s = notLoaded.run (H.answer lib) s := by
  let q : Sdk c.Resp := ask (.zmq (s.zmq.fn c.symbol) c)
  have hif : (if s.zmq.loaded ≠ 0 then q else notLoaded) = notLoaded := if_neg (not_not.mpr hs)
  have hrun := congrArg (fun p : Sdk c.Resp => p.run (H.answer lib) s) hif
  exact hrun

/-- A keyword that is one call of libzmq, with what the call changes. -/
lemma call_changes {k : Keyword} (args : Args k.signature) {z : ZmqCall} {x : z.Resp}
    {f : z.Resp → Value} (hact : k.body.action args = f <$> zmqApi z (pure x))
    {C S : Value → List LONG} (hallows : (OpenHandles.of contexts sockets).Allows z)
    (hafter : ∀ y, (OpenHandles.of contexts sockets).after z y = .of (C (f y)) (S (f y)))
    {s : Session (L × Option OpenHandles)} (hs : Holding contexts sockets s) :
    Holding (C (H.call lib.watched k (args.toList k.signature) s).1)
      (S (H.call lib.watched k (args.toList k.signature) s).1)
      (H.call lib.watched k (args.toList k.signature) s).2 := by
  rw [Host.call_eq, hact, Prog.run_map]
  cases hs with
  | loaded hl hg =>
    rw [Host.run_zmqApi hl]
    refine .loaded hl ?_
    change s.lib.2.bind _ = _
    rw [hg, Option.bind_some, if_pos hallows, hafter]
    rfl
  | unloaded hz hg =>
    rw [run_zmqApi_unloaded (by rw [hz]; rfl)]
    exact .unloaded hz hg

lemma tbPtrFromHandle_tbHandleFromPtr (p : Ptr) : tbPtrFromHandle (tbHandleFromPtr p) = p := by
  simp [tbPtrFromHandle, tbHandleFromPtr]

namespace Script

lemma triple_zmqCtxNew : zmqCtxNew.Triple (H.runs lib.watched) (Holding contexts sockets)
    fun h => Holding (h :: contexts) sockets := by
  apply Prog.Triple.map
  intro s hs
  refine call_changes (k := .zmqCtxNew) () (z := .ctxNew) (x := (0 : Ptr))
    (f := fun p => .long (tbHandleFromPtr p)) (by simp [Keyword.body, Body.action, zmqApiCtxNew])
    (C := fun v => v.int :: contexts) (S := fun _ => sockets) trivial ?_ hs
  intro y
  simp [OpenHandles.of, OpenHandles.after, Value.int, tbPtrFromHandle_tbHandleFromPtr]

lemma triple_zmqSocket {hContext : LONG} (h : hContext ∈ contexts) (stype : LONG) :
    (zmqSocket hContext stype).Triple (H.runs lib.watched) (Holding contexts sockets)
      fun h => Holding contexts (h :: sockets) := by
  apply Prog.Triple.map
  intro s hs
  refine call_changes (k := .zmqSocket) (hContext, stype, ())
    (z := .socket (tbPtrFromHandle hContext) stype) (x := (0 : Ptr))
    (f := fun p => .long (tbHandleFromPtr p)) (by simp [Keyword.body, Body.action, zmqApiSocket])
    (C := fun _ => contexts) (S := fun v => v.int :: sockets) (List.mem_map_of_mem h) ?_ hs
  intro y
  simp [OpenHandles.of, OpenHandles.after, Value.int, tbPtrFromHandle_tbHandleFromPtr]

lemma triple_zmqClose {hSocket : LONG} :
    (zmqClose hSocket).Triple (H.runs lib.watched) (Holding contexts (hSocket :: sockets))
      fun _ => Holding contexts sockets := by
  intro s hs
  refine call_changes (k := .zmqClose) (hSocket, ()) (z := .close (tbPtrFromHandle hSocket))
    (x := (-1 : LONG)) (f := .long) rfl (C := fun _ => contexts) (S := fun _ => sockets)
    List.mem_cons_self ?_ hs
  intro y
  exact congrArg (OpenHandles.mk _) (List.erase_cons_head _ _)

lemma triple_zmqCtxShutdown {hContext : LONG} :
    (zmqCtxShutdown hContext).Triple (H.runs lib.watched) (Holding (hContext :: contexts) [])
      fun _ => Holding contexts [] := by
  intro s hs
  refine call_changes (k := .zmqCtxShutdown) (hContext, ())
    (z := .ctxShutdown (tbPtrFromHandle hContext)) (x := (-1 : LONG)) (f := .long) rfl
    (C := fun _ => contexts) (S := fun _ => []) ⟨List.mem_cons_self, rfl⟩ ?_ hs
  intro y
  exact congrArg (OpenHandles.mk · _) (List.erase_cons_head _ _)

end Script

/-- The state in which a script starts. -/
def Unopened (s : Session (L × Option OpenHandles)) : Prop := s.zmq = .zero ∧ s.lib.2 = some .empty

/-- The state in which a script ends: every socket is closed, and of the contexts at most these
are left. -/
structure Released (contexts : List LONG) (s : Session (L × Option OpenHandles)) : Prop where
  zmq : s.zmq = .zero
  handles : ∃ g, s.lib.2 = some g ∧ g.sockets = [] ∧ (contexts = [] → g.contexts = [])

lemma Unopened.keeps {p : Sdk α} (hp : p.Only IsInner) :
    p.Keeps (H.answer lib.watched) Unopened := by
  apply hp.keeps
  intro r t hr ht
  rwa [answer_inner hr]

/-- What `zmq_dyn_load_directory` returns and leaves in the table. -/
def LoadedAs (rc : LONG) (s : Session (L × Option OpenHandles)) : Prop :=
  s.lib.2 = some .empty ∧ (rc = 0 ∧ s.zmq = .zero ∨ rc = 1 ∧ s.zmq.loaded ≠ 0)

lemma triple_loadDirectory (dir : Option CString) (dirLen : DWORD) :
    (zmqDynLoadDirectory dir dirLen).Triple (H.answer lib.watched) Unopened LoadedAs := by
  have hfailed : (pure 0 : Sdk LONG).Triple (H.answer lib.watched) Unopened LoadedAs :=
    Prog.triple_pure fun s hs => ⟨hs.2, Or.inl ⟨rfl, hs.1⟩⟩
  have hlocal : ∀ {β : Type} {p : Sdk β}, p.Only IsLocal →
      p.Keeps (H.answer lib.watched) Unopened :=
    fun hp => Unopened.keeps (hp.mono fun _ => IsLocal.isInner)
  have hbind : zmqBindRequiredSymbols.Keeps (H.answer lib.watched)
      fun s => s.lib.2 = some .empty := by
    refine (zmqBindRequiredSymbols_only (P := fun r => ¬ IsZmq r) id (fun _ => id)
      fun _ _ => id).keeps ?_
    intro r t hr ht
    cases r <;> first | exact ht | exact absurd trivial hr
  unfold zmqDynLoadDirectory
  refine Prog.triple_request (R := fun _ => Unopened) (fun s hs => hs) fun _ => ?_
  cases dir with
  | none => exact hfailed
  | some dir =>
    refine .ite (fun _ => hfailed) fun _ => ?_
    refine Prog.triple_request (R := fun g s => g = .zero ∧ Unopened s) (fun s hs => ⟨hs.1, hs⟩)
      fun g => .assume ?_
    rintro rfl
    refine .ite (fun hloaded => absurd rfl hloaded) fun _ => ?_
    refine (hlocal (memcpy_only (fun _ _ _ => trivial) _ _ _)).bind fun folder => ?_
    refine (hlocal (store_local _ _ _)).bind fun folder => ?_
    have htrim := zmqTrimTrailingSlashes_only (P := IsLocal) (fun _ _ _ => trivial)
      (fun _ _ _ => trivial)
    refine (hlocal (htrim _ _)).bind fun folder => ?_
    refine (hlocal (snprintf_only (fun _ _ _ => trivial) (fun _ _ _ => trivial) _ _ _)).bind
      fun ⟨n, dllPath⟩ => ?_
    refine .ite (fun _ => hfailed) fun _ => ?_
    refine Prog.triple_request (R := fun _ => Unopened) (fun s hs => hs) fun _ => ?_
    refine Prog.triple_request (R := fun _ => Unopened) (fun s hs => hs) fun m => ?_
    refine Prog.triple_request (R := fun g s => g = .zero ∧ s.lib.2 = some .empty)
      (fun s hs => hs) fun g => .assume ?_
    rintro rfl
    refine Prog.triple_request (R := fun _ s => s.zmq = { ZmqApiTable.zero with module := m } ∧
      s.lib.2 = some .empty) (fun s hs => ⟨rfl, hs⟩) fun _ => ?_
    refine .ite ?_ fun _ => ?_
    · rintro rfl
      exact Prog.triple_request (R := fun _ => Unopened) (fun s hs => hs) fun _ => hfailed
    refine .bind (hbind.conseq (fun s hs => hs.2) fun _ _ => id) fun ok => ?_
    refine .ite ?_ ?_
    · -- every step before the last one keeps the handles, and the last one empties the table
      intro _ s hs
      exact ⟨hs, Or.inl ⟨rfl, rfl⟩⟩
    · intro _ s hs
      exact ⟨hs, Or.inr ⟨rfl, (by decide : (1 : LONG) ≠ 0)⟩⟩

lemma LoadedAs.holding {rc : LONG} {s : Session (L × Option OpenHandles)} (hs : LoadedAs rc s) :
    Holding [] [] s ∧ (rc = 0 → Unopened s) := by
  obtain ⟨hg, ⟨rfl, hz⟩ | ⟨rfl, hl⟩⟩ := hs
  · exact ⟨.unloaded hz hg, fun _ => ⟨hz, hg⟩⟩
  · exact ⟨.loaded hl hg, fun h => absurd h (by decide)⟩

lemma run_zmqDynUnload (s : Session L) :
    zmqDynUnload.run (H.answer lib) s = ((), { s with zmq := .zero }) := by
  have hfree : (if s.zmq.module = none then pure () else ask (.freeLibrary s.zmq.module) :
      Sdk Unit).run (H.answer lib) s = ((), s) := by
    split <;> rfl
  have hrun : zmqDynUnload.run (H.answer lib) s =
      ((if s.zmq.module = none then pure () else ask (.freeLibrary s.zmq.module) : Sdk Unit) >>=
        fun _ => ask (.writeZmq .zero) >>= fun _ => ask (.setDllDirectory none)).run
          (H.answer lib) s := rfl
  rw [hrun, Prog.run_bind, hfree]
  rfl

namespace Script

/-- The script is told whether libzmq is loaded. -/
lemma triple_zmqLibraryInit (path : List UInt8) :
    (zmqLibraryInit path).Triple (H.runs lib.watched) Unopened
      fun rc s => Holding [] [] s ∧ (rc = 0 → Unopened s) := by
  apply Prog.Triple.map
  intro s hs
  change (fun v t => Holding [] [] t ∧ (Value.int v = 0 → Unopened t))
    (H.call lib.watched .zmqLibraryInit [.str (some (ScriptString.ofBytes path).ptr)] s).1
    (H.call lib.watched .zmqLibraryInit [.str (some (ScriptString.ofBytes path).ptr)] s).2
  rw [Host.call, Keyword.exec_eq_transact, transact_eq_parseCall, Prog.run_bind]
  obtain ⟨hzmq, hlib⟩ := run_text H lib.watched
    (parseCall_only Keyword.zmqLibraryInit.signature)
    { s with tokens := callTokens [.str (some (ScriptString.ofBytes path).ptr)] ++ s.tokens }
  generalize (parseCall Keyword.zmqLibraryInit.signature).run
    (H.answer lib.watched) _ = q at hzmq hlib
  obtain ⟨parsed, t⟩ := q
  have ht : Unopened t := ⟨hzmq.trans hs.1, (congrArg Prod.snd hlib).trans hs.2⟩
  cases parsed with
  | none => exact ⟨.unloaded ht.1 ht.2, fun _ => ht⟩
  | some args =>
    refine Prog.Triple.map (Q := fun v t => Holding [] [] t ∧ (Value.int v = 0 → Unopened t))
      ((triple_loadDirectory _ _).conseq (fun _ => id) ?_) t ht
    exact fun rc u hu => hu.holding

lemma triple_zmqLibraryShutdown :
    zmqLibraryShutdown.Triple (H.runs lib.watched) (Holding contexts [])
      fun _ => Released contexts := by
  intro s hs
  change Released contexts (H.call lib.watched .zmqLibraryShutdown [] s).2
  have hcall : (H.call lib.watched .zmqLibraryShutdown [] s).2 = { s with zmq := .zero } := by
    refine (congrArg Prod.snd (Host.call_eq .zmqLibraryShutdown () s)).trans ?_
    change ((Value.long <$> (zmqDynUnload >>= fun _ => pure 1) : Sdk Value).run _ s).2 = _
    rw [Prog.run_map, Prog.run_bind, run_zmqDynUnload]
    rfl
  rw [hcall]
  refine ⟨rfl, ?_⟩
  cases hs with
  | loaded hl hg =>
    refine ⟨_, hg, rfl, ?_⟩
    rintro rfl
    rfl
  | unloaded hz hg => exact ⟨_, hg, rfl, fun _ => rfl⟩

end Script

end ThinBasicZmq
