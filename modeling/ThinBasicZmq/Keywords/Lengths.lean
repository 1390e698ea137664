import ThinBasicZmq.Keywords.StrictTransaction

/-!
# Lengths

Six keywords take a length from the script, a signed number of 32 bits, and use it as an
unsigned size. Four of them check its sign before they do.
-/

namespace ThinBasicZmq

open Interaction

/-- The length among the values of the parameters. -/
def Keyword.lengthOf : Keyword → List Parsed → Option LONG
  | .zmqSend, [_, _, .long buflen, _] | .zmqRecv, [_, _, .long buflen, _] => some buflen
  | .zmqRecvStr, [_, .long maxLen, _] => some maxLen
  | .zmqZ85Encode, [_, _, .long size] | .zmqZ85EncodeStr, [_, .long size] => some size
  | .zmqZ85DecodeStr, [_, _, .long destSize] => some destSize
  | _, _ => none

/-- The size that libzmq gets is at most `L`. The decoder gets none: there it is the capacity
that the guard compares with, and what the text decodes to. -/
def ZmqCall.KeepsLength (L : LONG) : ZmqCall → Prop
  | .send _ _ len _ | .recv _ _ len _ | .z85Encode _ _ len => (len.toNat : ℤ) ≤ L.toInt
  | .z85Decode _ string => (L.toUInt32.toNat : ℤ) ≤ L.toInt ∧
    ∃ t, string.cstring = some t ∧ ((4 * t.length / 5 : ℕ) : ℤ) ≤ L.toInt
  | _ => False

/-- `L` is no negative number, and every call of libzmq keeps to it. -/
def LengthKept (L : LONG) (tr : List Ev) : Prop :=
  ∀ e ∈ tr, ∀ fn c, e.request = .zmq fn c → 0 ≤ L.toInt ∧ c.KeepsLength L

/-- Lengths keep their sign in a run of keyword `k`. -/
def KeepsLengths (k : Keyword) (tr : List Ev) : Prop :=
  ∀ L, k.lengthOf (parsedValues tr) = some L → LengthKept L tr

/-- The keywords that do not look at the sign. -/
def Keyword.passesLength : Keyword → Bool
  | .zmqSend | .zmqRecv => true
  | _ => false

def Ev.findsUnloaded : Ev → Bool
  | ⟨.readZmq, t⟩ => decide (ZmqApiTable.loaded t = 0)
  | _ => false

lemma toNat_toUInt32_eq (x : LONG) :
    (x.toUInt32.toNat : ℤ) = if 0 ≤ x.toInt then x.toInt else x.toInt + 2 ^ 32 := by
  have hcond := BitVec.toInt_eq_toNat_cond x.toBitVec
  have hnat : x.toUInt32.toNat = x.toBitVec.toNat := rfl
  have hint : x.toInt = x.toBitVec.toInt := rfl
  have hlt := x.toBitVec.isLt
  rw [hnat, hint]
  split at hcond <;> split <;> omega

lemma toNat_toUInt32_le {x : LONG} : (x.toUInt32.toNat : ℤ) ≤ x.toInt ↔ 0 ≤ x.toInt := by
  rw [toNat_toUInt32_eq]
  split <;> omega

lemma nonneg_of_pos {x : LONG} (hx : ¬ x ≤ 0) : 0 ≤ x.toInt := (not_nonpos_iff.mp hx).le

/-- The length is capped, and it is not negative. -/
lemma toNat_cappedLen {maxLen : LONG} (hpos : 0 < maxLen.toInt) :
    (cappedLen maxLen).toNat = min maxLen.toInt.toNat TB_RETURN_STRING_MAX := by
  unfold cappedLen
  split
  · rename_i hcap
    have hlt : (4096 : LONG).toInt < maxLen.toInt := Int32.lt_iff_toInt_lt.mp hcap
    have hcast : (4096 : LONG).toInt = 4096 := rfl
    have hsize : (4096 : LONG).toUInt32.toNat = 4096 := rfl
    rw [hsize, TB_RETURN_STRING_MAX]
    omega
  · rename_i hcap
    have hle : ¬ (4096 : LONG).toInt < maxLen.toInt := fun h => hcap (Int32.lt_iff_toInt_lt.mpr h)
    have hcast : (4096 : LONG).toInt = 4096 := rfl
    have hsize := toNat_toUInt32_eq maxLen
    rw [if_pos hpos.le] at hsize
    rw [TB_RETURN_STRING_MAX]
    omega

lemma toNat_cappedLen_le {maxLen : LONG} (hpos : ¬ maxLen ≤ 0) :
    ((cappedLen maxLen).toNat : ℤ) ≤ maxLen.toInt := by
  have hsign := not_nonpos_iff.mp hpos
  rw [toNat_cappedLen hsign]
  omega

/-- The operations that keep to the length `L`. -/
private def Keeping (L : LONG) : DynCall → Prop
  | .api c => 0 ≤ L.toInt ∧ c.KeepsLength L
  | _ => False

private lemma lengthKept_of_performs {L : LONG} {α : Type} {p : Sdk α}
    (hp : Performs (Keeping L) p) {tr : List Ev} {a : α} (h : p.Trace tr a) :
    LengthKept L tr := by
  intro e he fn c hreq
  have hwithin := hp.within.trace h e he
  rw [hreq] at hwithin
  exact hwithin

private lemma recvStr_keeps (socket maxLen flags : LONG) :
    Performs (Keeping maxLen) (recvStrAction socket maxLen flags) := by
  apply performs_recvStrAction
  intro hpos r
  exact ⟨nonneg_of_pos hpos, toNat_cappedLen_le hpos⟩

private lemma z85Encode_keeps (dest data size : LONG) :
    Performs (Keeping size) (z85EncodeAction dest data size) := by
  apply performs_z85EncodeAction
  intro hpos
  exact ⟨nonneg_of_pos hpos, toNat_toUInt32_le.mpr (nonneg_of_pos hpos)⟩

private lemma z85EncodeStr_keeps (data size : LONG) :
    Performs (Keeping size) (z85EncodeStrAction data size) := by
  apply performs_z85EncodeStrAction
  intro hpos p
  exact ⟨nonneg_of_pos hpos, toNat_toUInt32_le.mpr (nonneg_of_pos hpos)⟩

private lemma z85DecodeStr_keeps (encoded : ParsedString) (dest destSize : LONG) :
    Performs (Keeping destSize) (z85DecodeStrAction encoded dest destSize) := by
  apply performs_z85DecodeStrAction
  intro hpos hroom r hr hlen
  have hsign := nonneg_of_pos hpos
  have hcapacity := toNat_toUInt32_le.mpr hsign
  refine ⟨hsign, hcapacity, encoded.ptr.text, hr, ?_⟩
  have hmul : (encoded.len * 4).toNat = 4 * encoded.ptr.strlen := by
    rw [UInt32.toNat_mul, encoded.toNat_len, Nat.mul_comm]
    apply Nat.mod_eq_of_lt
    rw [TB_RETURN_STRING_MAX] at hlen
    change 4 * encoded.ptr.strlen < 2 ^ 32
    omega
  have hneed : (encoded.len * 4 / 5).toNat = 4 * encoded.ptr.strlen / 5 := by
    rw [UInt32.toNat_div, hmul]
    rfl
  rw [UInt32.lt_iff_toNat_lt, hneed] at hroom
  rw [encoded.ptr.length_text]
  omega

/-- The size is the length itself, and it is handed out if the library is loaded. -/
private lemma zmqApi_lengthKept_iff {c : ZmqCall} {failed : c.Resp} {L : LONG}
    (hc : c.KeepsLength L ↔ (L.toUInt32.toNat : ℤ) ≤ L.toInt) {tr : List Ev} {x : c.Resp}
    (h : (zmqApi c (pure failed)).Trace tr x) :
    LengthKept L tr ↔ (∃ e ∈ tr, e.findsUnloaded = true) ∨ 0 ≤ L.toInt := by
  obtain ⟨t, ⟨ht, rfl⟩ | ⟨ht, tr', rfl, rfl, -⟩⟩ := zmqApi_trace h
  · let loadedTrace : List Ev :=
      [⟨.enter (.api c), ()⟩, ⟨.readZmq, t⟩, ⟨.zmq (t.fn c.symbol) c, x⟩]
    have hloaded : ¬ ∃ e ∈ loadedTrace, e.findsUnloaded = true := by
      simp [loadedTrace, Ev.findsUnloaded, ht]
    constructor
    · intro hkept
      exact Or.inr (hkept ⟨.zmq (t.fn c.symbol) c, x⟩ (by simp) _ c rfl).1
    · rintro (hun | hsign) e he fn c' hreq
      · exact absurd hun hloaded
      · simp only [List.mem_cons, List.not_mem_nil, or_false] at he
        rcases he with rfl | rfl | rfl
        · cases hreq
        · cases hreq
        · obtain ⟨-, rfl⟩ := Req.zmq.inj hreq
          exact ⟨hsign, hc.mpr (toNat_toUInt32_le.mpr hsign)⟩
  · constructor
    · intro _
      exact Or.inl ⟨⟨.readZmq, t⟩, by simp, decide_eq_true ht⟩
    · intro _ e he fn c' hreq
      simp only [List.mem_cons, List.not_mem_nil, or_false] at he
      rcases he with rfl | rfl
      · cases hreq
      · cases hreq

/-- A keyword that acts on its parameters keeps to its length, unless it passes it on as it is,
the library is loaded and the length is negative. -/
private lemma action_lengthKept_iff {k : Keyword} {args : Args k.signature} {L : LONG}
    (hL : k.lengthOf (Args.parsed k.signature args) = some L) {tr : List Ev} {v : Value}
    (h : (k.body.action args).Trace tr v) :
    LengthKept L tr ↔ k.passesLength = false ∨ (∃ e ∈ tr, e.findsUnloaded = true) ∨
      0 ≤ L.toInt := by
  cases k <;> cases hL
  case zmqSend =>
    obtain ⟨x, hx, -⟩ := Prog.trace_map.mp h
    rw [zmqApi_lengthKept_iff Iff.rfl hx]
    simp [Keyword.passesLength]
  case zmqRecv =>
    obtain ⟨n, hn, -⟩ := Prog.trace_map.mp h
    obtain ⟨tr₁, tr₂, x, rfl, hx, rfl, -⟩ := (Prog.trace_bind _ _ _ _).mp hn
    rw [List.append_nil, zmqApi_lengthKept_iff Iff.rfl hx]
    simp [Keyword.passesLength]
  case zmqRecvStr =>
    exact iff_of_true (lengthKept_of_performs ((recvStr_keeps _ _ _).map _) h) (Or.inl rfl)
  case zmqZ85Encode =>
    exact iff_of_true (lengthKept_of_performs ((z85Encode_keeps _ _ _).map _) h) (Or.inl rfl)
  case zmqZ85EncodeStr =>
    exact iff_of_true (lengthKept_of_performs ((z85EncodeStr_keeps _ _).map _) h) (Or.inl rfl)
  case zmqZ85DecodeStr =>
    exact iff_of_true (lengthKept_of_performs ((z85DecodeStr_keeps _ _ _).map _) h) (Or.inl rfl)

private lemma lengthKept_append {L : LONG} {tr₁ tr₂ : List Ev}
    (hparse : ∀ e ∈ tr₁, IsParsing e.request) : LengthKept L (tr₁ ++ tr₂) ↔ LengthKept L tr₂ := by
  constructor
  · intro h e he
    exact h e (List.mem_append_right _ he)
  · intro h e he fn c hreq
    rcases List.mem_append.mp he with he | he
    · have hnot := not_zmq_of_parsing _ (hparse e he)
      rw [hreq] at hnot
      exact absurd trivial hnot
    · exact h e he fn c hreq

private lemma findsUnloaded_append {tr₁ tr₂ : List Ev} (hparse : ∀ e ∈ tr₁, IsParsing e.request) :
    (∃ e ∈ tr₁ ++ tr₂, e.findsUnloaded = true) ↔ ∃ e ∈ tr₂, e.findsUnloaded = true := by
  constructor
  · rintro ⟨e, he, hun⟩
    rcases List.mem_append.mp he with he | he
    · have hpar := hparse e he
      obtain ⟨r, x⟩ := e
      cases r <;> first | exact hpar.elim | cases hun
    · exact ⟨e, he, hun⟩
  · rintro ⟨e, he, hun⟩
    exact ⟨e, List.mem_append_right _ he, hun⟩

/-- A keyword keeps to the length it is given, except for `ZmqSend` and `ZmqRecv`, which hand
a negative length to a loaded libzmq. -/
theorem exec_keepsLengths_iff (k : Keyword) (tr : List Ev) (v : Value) (h : k.exec.Trace tr v) :
    KeepsLengths k tr ↔ k.passesLength = false ∨ (∃ e ∈ tr, e.rejects = true) ∨
      (∃ e ∈ tr, e.findsUnloaded = true) ∨
      ∀ L, k.lengthOf (parsedValues tr) = some L → 0 ≤ L.toInt := by
  rw [k.exec_eq_transact] at h
  rcases transact_trace h with ⟨tr₁, tr₂, rfl, hr, hfail⟩ | ⟨args, tr₁, tr₂, rfl, ha, hact⟩
  · obtain ⟨e, he, hrejects⟩ := hr.exists_rejects
    have hzmq : ∀ e ∈ tr₁ ++ tr₂, ¬ IsZmq e.request :=
      forall_of_parsing_of_result not_zmq_of_parsing not_zmq_of_result hr.parsing
        ((failure_result _).trace hfail)
    constructor
    · intro _
      exact Or.inr (Or.inl ⟨e, List.mem_append_left _ he, hrejects⟩)
    · intro _ L _ e he fn c hreq
      have hnot := hzmq e he
      rw [hreq] at hnot
      exact absurd trivial hnot
  · have haccepts : ¬ ∃ e ∈ tr₁ ++ tr₂, e.rejects = true := by
      rintro ⟨e, he, hrej⟩
      rw [accepted_accepts ha hact e he] at hrej
      cases hrej
    unfold KeepsLengths
    rw [accepted_values ha hact, findsUnloaded_append ha.parsing]
    have hiff : ∀ L, k.lengthOf (Args.parsed k.signature args) = some L →
        (LengthKept L (tr₁ ++ tr₂) ↔ k.passesLength = false ∨
          (∃ e ∈ tr₂, e.findsUnloaded = true) ∨ 0 ≤ L.toInt) := by
      intro L hL
      rw [lengthKept_append ha.parsing, action_lengthKept_iff hL hact]
    constructor
    · intro hkeeps
      by_cases hpass : k.passesLength = false
      · exact Or.inl hpass
      by_cases hun : ∃ e ∈ tr₂, e.findsUnloaded = true
      · exact Or.inr (Or.inr (Or.inl hun))
      refine Or.inr (Or.inr (Or.inr ?_))
      intro L hL
      rcases (hiff L hL).mp (hkeeps L hL) with h' | h' | h'
      · exact absurd h' hpass
      · exact absurd h' hun
      · exact h'
    · intro hcond L hL
      apply (hiff L hL).mpr
      rcases hcond with hpass | hrej | hun | hsign
      · exact Or.inl hpass
      · exact absurd hrej haccepts
      · exact Or.inr (Or.inl hun)
      · exact Or.inr (Or.inr (hsign L hL))

/-- A run of `ZmqSend(7, 64, buflen, 0)` with the library loaded. -/
def sendEvents (buflen : LONG) : List Ev :=
  Host.bare.callEvents (fun c s => (c.failed, s)) .zmqSend
    [.int 7, .int 64, .int buflen, .int 0] (Session.resolved ())

theorem exec_keepsLengths_iff_send :
    KeepsLengths .zmqSend (sendEvents 5) ↔ Keyword.passesLength .zmqSend = false ∨
      (∃ e ∈ sendEvents 5, e.rejects = true) ∨ (∃ e ∈ sendEvents 5, e.findsUnloaded = true) ∨
      ∀ L, Keyword.lengthOf .zmqSend (parsedValues (sendEvents 5)) = some L → 0 ≤ L.toInt :=
  exec_keepsLengths_iff .zmqSend (sendEvents 5) _ (Prog.trace_events _ _ _)

/-- The length -1 reaches libzmq as 4294967295. -/
theorem exec_send_negative_length : ¬ ∀ (k : Keyword) (tr : List Ev) (v : Value),
    k.exec.Trace tr v → KeepsLengths k tr := by
  intro h
  have hkept := h .zmqSend (sendEvents (-1)) _ (Prog.trace_events _ _ _) (-1) (by decide)
  have hlast : 20 < (sendEvents (-1)).length := by decide
  have hreq : ((sendEvents (-1))[20]).request =
      .zmq (some ⟨⟨.libzmq, 0x20000⟩, "zmq_send"⟩) (.send 7 (.addr 64) 4294967295 0) := rfl
  have hsign := (hkept _ (List.getElem_mem hlast) _ _ hreq).1
  exact absurd hsign (by decide)

end ThinBasicZmq
