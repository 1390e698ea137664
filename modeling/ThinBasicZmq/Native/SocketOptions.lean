import ThinBasicZmq.Keywords.StrictTransaction
import ThinBasicZmq.Native.Interpreter

/-!
# String options of both implementations

`ZmqSetsockoptStr` of the SDK measures its value with `strlen` and copies it into 256 bytes
first. The one of `Socket.inc` hands over the string as it is.
-/

namespace ThinBasicZmq

open Interaction

/-- `optval` and `optvallen` of a `zmq_setsockopt` that sets the bytes `t`. -/
def CarriesBytes (optval : Ref) (optvallen : SizeT) (t : List UInt8) : Prop :=
  optval.bytes optvallen.toNat = some t ∧ optvallen.toNat = t.length

variable {L : Type} {H : Host} {lib : Library L}

lemma native_setsockoptStr (socket option : LONG) {t : List UInt8} (ht : t.length < 2 ^ 32) :
    ∃ optval, CarriesBytes optval (.ofNat t.length) t ∧
      Native.zmqSetsockoptStr socket option t =
        Native.ask (.zmq (.setsockopt (tbPtrFromHandle socket) option optval (.ofNat t.length))) := by
  have hlen : (UInt32.ofNat t.length).toNat = t.length := UInt32.toNat_ofNat_of_lt' ht
  refine ⟨.arr (t.map some), ⟨?_, hlen⟩, rfl⟩
  have htake : (t.map some).take t.length = t.map some := List.take_of_length_le (by simp)
  rw [hlen, Ref.bytes, if_pos (by simp), htake, mapM_id_map_some]

/-- A value that fits the buffer is set by one call of `zmq_setsockopt`. -/
lemma call_setsockoptStr {s : Session L} (hs : s.Ready) (socket option : LONG) {m : ScriptString}
    (hm : m.text.length < 256) :
    H.call lib .zmqSetsockoptStr [.int socket, .int option, .str (some m.ptr)] s =
      (.long (lib (.setsockopt (tbPtrFromHandle socket) option (.arr (terminated 256 m.text))
          (.ofNat m.text.length)) s.lib).1,
        { s with lib := (lib (.setsockopt (tbPtrFromHandle socket) option
          (.arr (terminated 256 m.text)) (.ofNat m.text.length)) s.lib).2 }) := by
  let value := m.parsed (hm.trans (by decide))
  have htext : value.ptr.text = m.text := ScriptString.text_parsed _
  have hstrlen : value.ptr.strlen = m.text.length := ScriptString.strlen_parsed _
  have hcopy : (copyString 256 value).run (H.answer lib) s = (terminated 256 m.text, s) := by
    rw [← htext]
    exact Host.run_copyString (by rwa [hstrlen]) s
  have hrun : (setsockoptStrAction socket option value).run (H.answer lib) s =
      ((lib (.setsockopt (tbPtrFromHandle socket) option (.arr (terminated 256 m.text))
          (.ofNat m.text.length)) s.lib).1,
        { s with lib := (lib (.setsockopt (tbPtrFromHandle socket) option
          (.arr (terminated 256 m.text)) (.ofNat m.text.length)) s.lib).2 }) := by
    have hguard : ¬ value.len.toNat ≥ 256 := by
      rw [value.toNat_len, hstrlen]
      omega
    unfold setsockoptStrAction
    rw [if_neg hguard, Prog.run_bind, hcopy, ParsedString.len, hstrlen]
    exact Host.run_zmqApi hs.loaded
  exact Host.call_long .zmqSetsockoptStr rfl (socket, option, value, ()) hrun

/-- A longer value is refused. -/
lemma call_setsockoptStr_long (s : Session L) (socket option : LONG) {m : ScriptString}
    (hm : 256 ≤ m.text.length) (hmax : m.text.length < 0x7FFFFFFF) :
    H.call lib .zmqSetsockoptStr [.int socket, .int option, .str (some m.ptr)] s =
      (.long (-1), s) := by
  let value := m.parsed hmax
  have hstrlen : value.ptr.strlen = m.text.length := ScriptString.strlen_parsed _
  have hrun : (setsockoptStrAction socket option value).run (H.answer lib) s = (-1, s) := by
    have hguard : value.len.toNat ≥ 256 := by
      rw [value.toNat_len, hstrlen]
      exact hm
    unfold setsockoptStrAction
    rw [if_pos hguard]
    rfl
  exact Host.call_long .zmqSetsockoptStr rfl (socket, option, value, ()) hrun

lemma carriesBytes_terminated {t : List UInt8} (ht : t.length < 256) :
    CarriesBytes (.arr (terminated 256 t)) (.ofNat t.length) t := by
  have hlen : (UInt32.ofNat t.length).toNat = t.length :=
    UInt32.toNat_ofNat_of_lt' (ht.trans (by decide))
  refine ⟨?_, hlen⟩
  have hle : t.length ≤ (terminated 256 t).length := by
    rw [length_terminated ht]
    exact ht.le
  have htake : (terminated 256 t).take t.length = t.map some := List.take_left' (by simp)
  rw [hlen, Ref.bytes, if_pos hle, htake, mapM_id_map_some]

/-- Up to its first NUL, a value that fits the buffer is set as the native function sets it. A
longer one is refused. -/
theorem setsockoptStr_refines (H : Host) (socket option : LONG) (m : ScriptString) :
    (m.text.length < 256 → ∃ optval optval' n, CarriesBytes optval n m.text ∧
      CarriesBytes optval' n m.text ∧
      Native.zmqSetsockoptStr socket option m.text =
        Native.ask (.zmq (.setsockopt (tbPtrFromHandle socket) option optval' n)) ∧
      ∀ (L : Type) (lib : Library L) (s : Session L), s.Ready →
        H.call lib .zmqSetsockoptStr [.int socket, .int option, .str (some m.ptr)] s =
          (.long (lib (.setsockopt (tbPtrFromHandle socket) option optval n) s.lib).1,
            { s with lib :=
              (lib (.setsockopt (tbPtrFromHandle socket) option optval n) s.lib).2 })) ∧
    (256 ≤ m.text.length → m.text.length < 0x7FFFFFFF →
      ∀ (L : Type) (lib : Library L) (s : Session L), s.Ready →
        H.call lib .zmqSetsockoptStr [.int socket, .int option, .str (some m.ptr)] s =
          (.long (-1), s)) := by
  constructor
  · intro hm
    obtain ⟨optval', hnative, hask⟩ := native_setsockoptStr socket option
      (hm.trans (by decide) : m.text.length < 2 ^ 32)
    exact ⟨_, optval', _, carriesBytes_terminated hm, hnative, hask,
      fun L lib s hs => call_setsockoptStr hs socket option hm⟩
  · intro hm hmax L lib s _
    exact call_setsockoptStr_long s socket option hm hmax

/-- A subscription to the prefix `ab`. -/
theorem setsockoptStr_refines_subscribe : ∃ optval n, CarriesBytes optval n [97, 98] ∧
    ∀ (L : Type) (lib : Library L) (s : Session L), s.Ready →
      (Host.bare.call lib .zmqSetsockoptStr
        [.int 7, .int 6, .str (some (ScriptString.ofBytes [97, 98]).ptr)] s).1 =
          .long (lib (.setsockopt (tbPtrFromHandle 7) 6 optval n) s.lib).1 := by
  obtain ⟨optval, -, n, hcarries, -, -, hcall⟩ :=
    (setsockoptStr_refines Host.bare 7 6 (.ofBytes [97, 98])).1 (by decide)
  exact ⟨optval, n, hcarries, fun L lib s hs => congrArg Prod.fst (hcall L lib s hs)⟩

/-- The value `a`, NUL, `b` is cut off, and one of 256 bytes is refused. -/
theorem setsockoptStr_cuts_at_nul :
    (¬ ∀ (H : Host) (socket option : LONG) (m : ScriptString),
      ∃ optval n, CarriesBytes optval n m.bytes ∧
        ∀ (L : Type) (lib : Library L) (s : Session L), s.Ready →
          (H.call lib .zmqSetsockoptStr [.int socket, .int option, .str (some m.ptr)] s).1 =
            .long (lib (.setsockopt (tbPtrFromHandle socket) option optval n) s.lib).1) ∧
    ∀ (L : Type) (lib : Library L) (s : Session L),
      Host.bare.call lib .zmqSetsockoptStr
        [.int 7, .int 6, .str (some (ScriptString.ofBytes (List.replicate 256 97)).ptr)] s =
          (.long (-1), s) := by
  refine ⟨?_, fun L lib s => call_setsockoptStr_long s 7 6 (by decide +kernel) (by decide +kernel)⟩
  intro h
  let m : ScriptString := .ofBytes [97, 0, 98]
  -- a library that answers with the length it is given
  let lib : Library Unit := fun c l => match c with
    | .setsockopt _ _ _ n => (Int32.ofUInt32 n, l)
    | c => (c.failed, l)
  obtain ⟨optval, n, ⟨-, hlen⟩, hcall⟩ := h Host.bare 7 6 m
  have hsdk := @call_setsockoptStr _ Host.bare lib (Session.resolved ()) (Session.ready_resolved _)
    7 6 m (by decide)
  have hn : n = 1 := by
    have := hcall Unit lib (Session.resolved ()) (Session.ready_resolved _)
    rw [hsdk] at this
    have hval : (1 : LONG) = .ofUInt32 n := Value.long.inj this
    have hn : (1 : LONG).toUInt32 = n := by simpa using congrArg Int32.toUInt32 hval
    exact hn.symm
  rw [hn] at hlen
  exact absurd hlen (by decide)

end ThinBasicZmq
