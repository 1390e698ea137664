import ThinBasicZmq.Interaction.Guarantee
import ThinBasicZmq.Keywords.StrictTransaction

/-!
# The requests of the keywords

A keyword first asks for the text of its call, and nothing else. Behind its parameters it reads the
two tables, calls through their slots and works on its local arrays; only the loader functions do
more than that.
-/

namespace ThinBasicZmq

open Interaction

variable {α β : Type} {P : Req → Prop}

/-- A request for the text of a call. -/
def AsksText : Req → Prop
  | .readTb => True
  | .host _ (.addEquate _ _ _ _) | .host _ (.loadSymbol _ _ _ _)
  | .host _ (.loadSymbolFB _ _ _ _) => False
  | .host _ _ => True
  | _ => False

instance : DecidablePred AsksText
  | .readTb | .host _ .parseLong | .host _ .parseString | .host _ (.checkOpenParens _ _)
  | .host _ (.checkCloseParens _ _) | .host _ (.checkComma _ _) => .isTrue trivial
  | .host _ (.addEquate _ _ _ _) | .host _ (.loadSymbol _ _ _ _)
  | .host _ (.loadSymbolFB _ _ _ _) | .readZmq | .writeZmq _ | .writeTb _ | .getProcAddress _ _
  | .loadLibrary _ | .freeLibrary _ | .getModuleHandle _ | .setDllDirectory _ | .enter _
  | .zmq _ _ | .allocBstr _ _ | .store _ _ _ | .fetch _ _ _ | .literalAddr _ => .isFalse id

/-- A request of a keyword that neither loads nor unloads, behind its parameters. -/
def IsWork : Req → Prop
  | .readZmq | .readTb | .enter _ | .zmq _ _ | .allocBstr _ _ | .store _ _ _ | .fetch _ _ _
  | .literalAddr _ => True
  | _ => False

lemma IsLocal.isWork {r : Req} (h : IsLocal r) : IsWork r := by
  cases r <;> trivial

lemma IsResult.isWork {r : Req} (h : IsResult r) : IsWork r := h.isLocal.isWork

lemma tbCall_only (hread : P .readTb) {c : HostCall} (hc : ∀ fn, P (.host fn c)) :
    (tbCall c).Only P := ⟨hread, fun _ => ⟨hc _, fun _ => trivial⟩⟩

section Text

variable {W : ∀ {α : Type}, Sdk α → (α → Prop) → Prop} (hW : Prog.Calculus @W)
  (hcall : ∀ c : HostCall, (∀ fn, AsksText (.host fn c)) → W (tbCall c) fun _ => True)

include hW hcall

lemma asks_param (p : Param) : W p.parse fun _ => True := by
  cases p with
  | int => exact hW.bind (hcall .parseLong fun _ => trivial) fun _ _ => hW.ret trivial
  | str =>
    apply hW.bind (hcall .parseString fun _ => trivial)
    intro out _
    cases out <;> exact hW.ret trivial

lemma asks_expectComma : W tbExpectComma fun _ => True :=
  hW.bind (hcall (.checkComma _ _) fun _ => trivial) fun _ _ => hW.ret trivial

lemma asks_parseThen {Q : α → Prop} {sig : List Param} {fail : Sdk α} {act : Args sig → Sdk α}
    (hfail : W fail Q) (hact : ∀ args, W (act args) Q) : W (parseThen sig fail act) Q := by
  induction sig with
  | nil => exact hact ()
  | cons p ps ih =>
    cases ps with
    | nil =>
      apply hW.bind (asks_param hW hcall p)
      intro a _
      cases a with
      | none => exact hfail
      | some a => exact hact (a, ())
    | cons q qs =>
      apply hW.bind (asks_param hW hcall p)
      intro a _
      cases a with
      | none => exact hfail
      | some a =>
        apply hW.bind (asks_expectComma hW hcall)
        intro b _
        apply Prog.Calculus.ite fun _ => hfail
        intro _
        apply ih
        intro args
        exact hact (a, args)

/-- A transaction asks for the text of a call, and fails or acts. -/
lemma asks_transact {Q : α → Prop} {sig : List Param} {fail : Sdk α} {act : Args sig → Sdk α}
    (hfail : W fail Q) (hact : ∀ args, W (act args) Q) : W (transact sig fail act) Q := by
  have hopen : W tbExpectOpenParens fun _ => True :=
    hW.bind (hcall (.checkOpenParens _ _) fun _ => trivial) fun _ _ => hW.ret trivial
  have hclose : W tbExpectCloseParens fun _ => True :=
    hW.bind (hcall (.checkCloseParens _ _) fun _ => trivial) fun _ _ => hW.ret trivial
  apply hW.bind hopen
  intro b _
  apply Prog.Calculus.ite fun _ => hfail
  intro _
  apply asks_parseThen hW hcall hfail
  intro args
  apply hW.bind hclose
  intro b _
  exact Prog.Calculus.ite (fun _ => hfail) fun _ => hact args

end Text

lemma parseThen_bind {sig : List Param} (fail : Sdk α) (act : Args sig → Sdk α) (f : α → Sdk β) :
    parseThen sig fail act >>= f = parseThen sig (fail >>= f) fun args => act args >>= f := by
  induction sig with
  | nil => rfl
  | cons p ps ih =>
    cases ps with
    | nil =>
      unfold parseThen
      rw [bind_assoc]
      apply bind_congr
      intro a
      cases a <;> rfl
    | cons q qs =>
      unfold parseThen
      rw [bind_assoc]
      apply bind_congr
      intro a
      cases a with
      | none => rfl
      | some a =>
        simp only [bind_assoc]
        apply bind_congr
        intro b
        cases b with
        | false => rfl
        | true => exact ih _

/-- The parameters of a call, if its text is accepted. -/
def parseCall (sig : List Param) : Sdk (Option (Args sig)) :=
  transact sig (pure none) fun args => pure (some args)

lemma parseCall_only (sig : List Param) : (parseCall sig).Only AsksText := by
  have hW := Prog.calculus_guarantees (fun (r : Req) (_ : r.Resp) => True) AsksText
  have hasks : (parseCall sig).Guarantees (fun _ _ => True) AsksText fun _ => True := by
    apply asks_transact hW
    · exact fun c hc => (tbCall_only trivial hc).guarantees fun _ => id
    · exact hW.ret trivial
    · exact fun _ => hW.ret trivial
  exact hasks.only

/-- A transaction asks for the text of its call, and goes on from there. -/
theorem transact_eq_parseCall (sig : List Param) (fail : Sdk α) (act : Args sig → Sdk α) :
    transact sig fail act = parseCall sig >>= fun parsed => parsed.elim fail act := by
  unfold parseCall transact
  rw [bind_assoc]
  apply bind_congr
  intro b
  cases b with
  | false => rfl
  | true =>
    refine Eq.trans ?_ (parseThen_bind _ _ _).symm
    change parseThen sig fail _ = parseThen sig fail _
    congr 1
    funext args
    rw [bind_assoc]
    apply bind_congr
    intro b
    cases b <;> rfl

lemma zmqDynUnload_only (hread : P .readZmq) (henter : ∀ c, P (.enter c))
    (hwrite : ∀ t, P (.writeZmq t)) (hfree : ∀ m, P (.freeLibrary m))
    (hset : P (.setDllDirectory none)) : zmqDynUnload.Only P := by
  refine ⟨henter _, fun _ => ⟨hread, fun g => ?_⟩⟩
  have hfreed : (if g.module = none then pure () else ask (.freeLibrary g.module) : Sdk Unit).Only
      P := .ite trivial ⟨hfree _, fun _ => trivial⟩
  apply hfreed.bind
  intro _
  exact ⟨hwrite _, fun _ => ⟨hset, fun _ => trivial⟩⟩

lemma zmqDynLoadDirectory_only (hwork : ∀ r, IsWork r → P r) (hwrite : ∀ t, P (.writeZmq t))
    (hget : ∀ m name, P (.getProcAddress m name)) (hload : ∀ path, P (.loadLibrary path))
    (hfree : ∀ m, P (.freeLibrary m)) (hset : ∀ path, P (.setDllDirectory path))
    (dir : Option CString) (dirLen : DWORD) : (zmqDynLoadDirectory dir dirLen).Only P := by
  have hstore : ∀ cap off len, P (.store cap off len) := fun _ _ _ => hwork _ trivial
  have hfetch : ∀ cap i cell, P (.fetch cap i cell) := fun _ _ _ => hwork _ trivial
  have hread : P .readZmq := hwork _ trivial
  refine ⟨hwork _ trivial, fun _ => ?_⟩
  cases dir with
  | none => trivial
  | some dir =>
    apply Prog.Only.ite
    · trivial
    refine ⟨hread, fun g => ?_⟩
    apply Prog.Only.ite
    · trivial
    apply (memcpy_only hstore _ _ _).bind
    intro folder
    apply (store_only hstore _ _ _).bind
    intro folder
    apply (zmqTrimTrailingSlashes_only hstore hfetch _ _).bind
    intro folder
    apply (snprintf_only hstore hfetch _ _ _).bind
    rintro ⟨n, dllPath⟩
    apply Prog.Only.ite
    · trivial
    refine ⟨hset _, fun _ => ⟨hload _, fun m => ⟨hread, fun g => ⟨hwrite _, fun _ => ?_⟩⟩⟩⟩
    apply Prog.Only.ite
    · exact ⟨hset _, fun _ => trivial⟩
    apply (zmqBindRequiredSymbols_only hread hwrite hget).bind
    intro ok
    apply Prog.Only.ite
    · exact ⟨hread, fun _ => ⟨hfree _, fun _ => ⟨hwrite _, fun _ => ⟨hset _, fun _ =>
        ⟨hwrite _, fun _ => trivial⟩⟩⟩⟩⟩
    · exact ⟨hread, fun _ => ⟨hwrite _, fun _ => trivial⟩⟩

end ThinBasicZmq
