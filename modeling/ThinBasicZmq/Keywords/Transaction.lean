import ThinBasicZmq.Model.Module

/-!
# Keywords as transactions

One generic interpreter: ask the host for an opening parenthesis, the parameters of a
signature with commas between them and a closing parenthesis, stop at the first answer that
is not acceptable, and act on the parameters when all are there. Every executor is this
interpreter at the signature of its keyword.
-/

namespace ThinBasicZmq

open Interaction

inductive Param
  | int | str
deriving DecidableEq

abbrev Param.Value : Param → Type
  | int => LONG
  | str => ParsedString

def Param.parse : (p : Param) → Sdk (Option p.Value)
  | int => tbParseInt
  | str => tbParseString

abbrev Args : List Param → Type
  | [] => Unit
  | p :: ps => p.Value × Args ps

variable {α β : Type}

/-- The parameters and the commas between them. -/
def parseThen : (sig : List Param) → (fail : Sdk α) → (act : Args sig → Sdk α) → Sdk α
  | [], _, act => act ()
  | [p], fail, act => do
    let some a ← p.parse | fail
    act (a, ())
  | p :: q :: ps, fail, act => do
    let some a ← p.parse | fail
    if !(← tbExpectComma) then fail
    else parseThen (q :: ps) fail fun rest => act (a, rest)

def transact (sig : List Param) (fail : Sdk α) (act : Args sig → Sdk α) : Sdk α := do
  if !(← tbExpectOpenParens) then fail
  else parseThen sig fail fun args => do
    if !(← tbExpectCloseParens) then fail
    else act args

/-- An executor behind its signature. -/
inductive Body (sig : List Param)
  | long (fail : LONG) (act : Args sig → Sdk LONG)
  | bstr (act : Args sig → Sdk Bstr)

namespace Body

variable {sig : List Param}

def program : Body sig → Sdk Value
  | long fail act => .long <$> transact sig (pure fail) act
  | bstr act => .bstr <$> transact sig tbReturnEmpty act

def failure : Body sig → Sdk Value
  | long fail _ => pure (.long fail)
  | bstr _ => .bstr <$> tbReturnEmpty

def action : Body sig → Args sig → Sdk Value
  | long _ act, args => .long <$> act args
  | bstr act, args => .bstr <$> act args

end Body

namespace Keyword

abbrev signature : Keyword → List Param
  | .zmqLibraryShutdown | .zmqLibraryLoaded | .zmqErrno | .zmqVersionMajor | .zmqVersionMinor
  | .zmqVersionPatch | .zmqCtxNew => []
  | .zmqStrerror | .zmqStrerrorString | .zmqCtxTerm | .zmqCtxShutdown | .zmqClose => [.int]
  | .zmqLibraryInit | .zmqHas | .zmqCurvePublicStr => [.str]
  | .zmqCtxGet | .zmqSocket | .zmqGetsockoptInt | .zmqCurveKeypair | .zmqZ85EncodeStr =>
    [.int, .int]
  | .zmqBind | .zmqUnbind | .zmqConnect | .zmqDisconnect | .zmqCurvePublic | .zmqZ85Decode =>
    [.int, .str]
  | .zmqCtxSet | .zmqRecvStr | .zmqSetsockoptInt | .zmqZ85Encode => [.int, .int, .int]
  | .zmqSend | .zmqRecv => [.int, .int, .int, .int]
  | .zmqSendStr => [.int, .str, .int]
  | .zmqSetsockoptStr => [.int, .int, .str]
  | .zmqZ85DecodeStr => [.str, .int, .int]

/-- What the executor does on its own account: the value of a numeric keyword whose
parameters are not there, and what it does when they are. A string keyword returns the
empty string in the first case. -/
def body : (k : Keyword) → Body k.signature
  | .zmqLibraryInit => .long 0 fun (path, _) => zmqDynLoadDirectory (some path.ptr) path.len
  | .zmqLibraryShutdown => .long 0 fun _ => do
    zmqDynUnload
    return 1
  | .zmqLibraryLoaded => .long 0 fun _ => zmqDynIsLoaded
  | .zmqErrno => .long 0 fun _ => zmqApiErrno
  | .zmqStrerror => .long 0 fun (errnum, _) => do
    let (p, _) ← zmqApiStrerror errnum
    return tbHandleFromPtr p
  | .zmqStrerrorString => .bstr fun (errnum, _) => do
    let (_, msg) ← zmqApiStrerror errnum
    tbReturnString (some msg.cells)
  | .zmqVersionMajor => .long 0 fun _ => do
    let (major, _, _) ← zmqApiVersion
    return major
  | .zmqVersionMinor => .long 0 fun _ => do
    let (_, minor, _) ← zmqApiVersion
    return minor
  | .zmqVersionPatch => .long 0 fun _ => do
    let (_, _, patch) ← zmqApiVersion
    return patch
  | .zmqHas => .long 0 fun (capability, _) => zmqApiHas (.str capability.ptr)
  | .zmqCtxNew => .long 0 fun _ => do
    return tbHandleFromPtr (← zmqApiCtxNew)
  | .zmqCtxTerm => .long 0 fun (ctx, _) => zmqApiCtxTerm (tbPtrFromHandle ctx)
  | .zmqCtxShutdown => .long 0 fun (ctx, _) => zmqApiCtxShutdown (tbPtrFromHandle ctx)
  | .zmqCtxSet => .long (-1) fun (ctx, option, value, _) =>
    zmqApiCtxSet (tbPtrFromHandle ctx) option value
  | .zmqCtxGet => .long (-1) fun (ctx, option, _) => zmqApiCtxGet (tbPtrFromHandle ctx) option
  | .zmqSocket => .long 0 fun (ctx, type, _) => do
    return tbHandleFromPtr (← zmqApiSocket (tbPtrFromHandle ctx) type)
  | .zmqClose => .long 0 fun (socket, _) => zmqApiClose (tbPtrFromHandle socket)
  | .zmqBind => .long 0 fun (socket, endpoint, _) => endpointAction zmqApiBind socket endpoint
  | .zmqUnbind => .long 0 fun (socket, endpoint, _) => endpointAction zmqApiUnbind socket endpoint
  | .zmqConnect => .long 0 fun (socket, endpoint, _) =>
    endpointAction zmqApiConnect socket endpoint
  | .zmqDisconnect => .long 0 fun (socket, endpoint, _) =>
    endpointAction zmqApiDisconnect socket endpoint
  | .zmqSend => .long 0 fun (socket, buf, buflen, flags, _) =>
    zmqApiSend (tbPtrFromHandle socket) (.addr (tbPtrFromHandle buf)) buflen.toUInt32 flags
  | .zmqRecv => .long 0 fun (socket, buf, buflen, flags, _) => do
    let (n, _) ←
      zmqApiRecv (tbPtrFromHandle socket) (.addr (tbPtrFromHandle buf)) buflen.toUInt32 flags
    return n
  | .zmqSendStr => .long 0 fun (socket, msg, flags, _) => sendStrAction socket msg flags
  | .zmqRecvStr => .bstr fun (socket, maxLen, flags, _) => recvStrAction socket maxLen flags
  | .zmqSetsockoptInt => .long 0 fun (socket, option, value, _) =>
    zmqApiSetsockopt (tbPtrFromHandle socket) option (.long value) 4
  | .zmqSetsockoptStr => .long 0 fun (socket, option, value, _) =>
    setsockoptStrAction socket option value
  | .zmqGetsockoptInt => .long 0 fun (socket, option, _) => getsockoptIntAction socket option
  | .zmqCurveKeypair => .long (-1) fun (publicBuf, secretBuf, _) =>
    curveKeypairAction publicBuf secretBuf
  | .zmqCurvePublic => .long (-1) fun (publicBuf, secret, _) => curvePublicAction publicBuf secret
  | .zmqCurvePublicStr => .bstr fun (secret, _) => curvePublicStrAction secret
  | .zmqZ85Encode => .long 0 fun (dest, data, size, _) => z85EncodeAction dest data size
  | .zmqZ85Decode => .long 0 fun (dest, encoded, _) => z85DecodeAction dest encoded
  | .zmqZ85EncodeStr => .bstr fun (data, size, _) => z85EncodeStrAction data size
  | .zmqZ85DecodeStr => .long 0 fun (encoded, dest, destSize, _) =>
    z85DecodeStrAction encoded dest destSize

end Keyword

private lemma map_ite (f : α → β) (c : Prop) [Decidable c] (p q : Sdk α) :
    f <$> (if c then p else q) = if c then f <$> p else f <$> q := by
  split <;> rfl

private lemma map_parseThen (f : α → β) (sig : List Param) (fail : Sdk α)
    (act : Args sig → Sdk α) :
    f <$> parseThen sig fail act = parseThen sig (f <$> fail) fun args => f <$> act args := by
  induction sig with
  | nil => rfl
  | cons p ps ih =>
    cases ps with
    | nil =>
      simp only [parseThen, map_bind]
      apply bind_congr
      intro a
      cases a <;> rfl
    | cons q qs =>
      simp only [parseThen, map_bind]
      apply bind_congr
      intro a
      cases a with
      | none => rfl
      | some a =>
        simp only [map_bind, map_ite]
        apply bind_congr
        intro b
        rw [ih]

lemma map_transact (f : α → β) (sig : List Param) (fail : Sdk α) (act : Args sig → Sdk α) :
    f <$> transact sig fail act = transact sig (f <$> fail) fun args => f <$> act args := by
  simp only [transact, map_bind, map_ite, map_parseThen]

attribute [local irreducible] tbExpectOpenParens tbExpectCloseParens tbExpectComma tbParseInt
  tbParseString

-- Both sides ask the same request first; the cases are its answer.
theorem Keyword.exec_eq_program (k : Keyword) : k.exec = k.body.program := by
  cases k <;> refine congrArg (Functor.map _) ?_ <;>
    repeat' (first | rfl | (refine bind_congr fun x => ?_; rcases x with _ | _))

theorem Body.program_eq_transact {sig : List Param} (b : Body sig) :
    b.program = transact sig b.failure b.action := by
  cases b <;> exact map_transact _ _ _ _

theorem Keyword.exec_eq_transact (k : Keyword) :
    k.exec = transact k.signature k.body.failure k.body.action := by
  rw [k.exec_eq_program, k.body.program_eq_transact]

end ThinBasicZmq
