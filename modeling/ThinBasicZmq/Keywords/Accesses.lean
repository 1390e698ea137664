import ThinBasicZmq.Keywords.Actions

/-!
# Accesses to memory

The keywords write inside their local arrays, read only bytes that were written before, and give
libzmq pointers to memory that is as large as libzmq takes it to be, where they have a buffer of
their own for it.
-/

namespace ThinBasicZmq

open Interaction

namespace Req

/-- Arrays are accessed inside their bounds, what is read was written, and what is handed out is
a string where a string is expected. The path for `LoadLibraryA` is treated where it is built. -/
def InBounds : Req → Prop
  | .store cap off len => off + len ≤ cap
  | .fetch cap i cell => i < cap ∧ cell ≠ none
  | .zmq _ c => c.InBounds
  | .getModuleHandle name => Memory.cstring? name ≠ none
  | .setDllDirectory (some path) => Memory.cstring? path ≠ none
  | _ => True

def Answered : (r : Req) → r.Resp → Prop
  | .zmq _ c, x => c.Answers x
  | _, _ => True

end Req

/-- A program that accesses memory as it should. -/
abbrev InBounds {α : Type} (p : Sdk α) (Q : α → Prop) : Prop := p.Guarantees Req.Answered Req.InBounds Q

variable {α : Type}

lemma StoreWithin.inBounds {cap : ℕ} {r : Req} (h : StoreWithin cap r) : r.InBounds := by
  cases r with
  | store cap' off len =>
    obtain ⟨rfl, hle⟩ := h
    exact hle
  | _ => exact h.elim

lemma FetchWritten.inBounds {cap : ℕ} {r : Req} (h : FetchWritten cap r) : r.InBounds := by
  cases r with
  | fetch cap' i cell =>
    obtain ⟨rfl, hi, hcell⟩ := h
    exact ⟨hi, hcell⟩
  | _ => exact h.elim

lemma AsksText.inBounds {r : Req} (h : AsksText r) : r.InBounds := by
  cases r <;> trivial

lemma inBounds_allocBstr (fn : FARPROC) (b : List UInt8) : InBounds (allocBstr fn b) fun _ => True :=
  ⟨trivial, fun _ _ => trivial⟩

/-- As many bytes are returned as were written. -/
lemma inBounds_tbReturnStringN {cells : List Cell} {t : List UInt8} {rest : List Cell}
    (hc : cells = t.map some ++ rest) {len : ℕ} (hlen : len ≤ t.length) :
    InBounds (tbReturnStringN (some cells) len) fun _ => True := by
  refine ⟨trivial, fun g _ => ?_⟩
  apply Prog.Guarantees.ite
  · intro _
    trivial
  intro _
  apply Prog.Guarantees.ite
  · intro _
    exact inBounds_allocBstr _ _
  intro _
  apply Prog.Guarantees.ite
  · intro _
    exact inBounds_allocBstr _ _
  intro _
  have hcells : cells.drop 0 = (t.take len).map some ++ ((t.drop len).map some ++ rest) := by
    rw [hc, ← List.append_assoc, ← List.map_append, List.take_append_drop, List.drop_zero]
  have hfetch := fetchBytes_settles hcells
  rw [List.length_take, Nat.min_eq_left hlen] at hfetch
  have hbytes : InBounds (fetchBytes cells len 0) fun _ => True :=
    hfetch.guarantees (fun _ => FetchWritten.inBounds) trivial
  exact hbytes.bind fun b _ => inBounds_allocBstr _ _

lemma inBounds_tbReturnStringN_none (len : ℕ) : InBounds (tbReturnStringN none len) fun _ => True := by
  refine ⟨trivial, fun g _ => ?_⟩
  exact .ite (fun _ => trivial) fun _ => inBounds_allocBstr _ _

/-- The array starts with written bytes, up to a terminator or to the longest result. -/
lemma inBounds_tbReturnString {cells : List Cell} {t : List UInt8} {rest : List Cell}
    (hc : cells = t.map some ++ rest) (ht : TB_RETURN_STRING_MAX ≤ t.length ∨ 0 ∈ t) :
    InBounds (tbReturnString (some cells)) fun _ => True := by
  obtain ⟨b, t', rfl⟩ : ∃ b t', t = b :: t' := by
    cases t with
    | nil =>
      rcases ht with ht | ht
      · exact absurd ht (by decide)
      · cases ht
    | cons b t' => exact ⟨b, t', rfl⟩
  have hdrop : cells.drop 0 = (b :: t').map some ++ rest := hc
  have hfirst : (fetch cells 0).Settles (FetchWritten cells.length) b := by
    apply (fetch_settles_below _ Nat.zero_lt_one).mono
    · intro _
      exact FetchBelow.written
    · rw [hc]
      rfl
  have hscan := (scanNul_settles_text hdrop ht).mono fun _ => FetchBelow.written
  rw [Nat.zero_add] at hscan
  have hfetch : InBounds (fetch cells 0) fun _ => True :=
    hfirst.guarantees (fun _ => FetchWritten.inBounds) trivial
  have hlen : InBounds (scanNul cells TB_RETURN_STRING_MAX 0) fun len => len ≤ (b :: t').length := by
    apply hscan.guarantees (fun _ => FetchWritten.inBounds)
    apply (Memory.length_text_le _).trans
    rw [List.length_take]
    exact Nat.min_le_right _ _
  apply hfetch.bind
  intro c _
  apply Prog.Guarantees.ite
  · intro _
    exact inBounds_tbReturnStringN_none 0
  intro _
  apply hlen.bind
  intro len hle
  apply Prog.Guarantees.ite
  · intro _
    trivial
  · intro _
    exact inBounds_tbReturnStringN hc hle

/-- What the keywords rely on is what they find, as long as libzmq keeps to its documentation. -/
lemma closed_inBounds : Closed True fun {_} (p : Sdk _) Q => InBounds p Q where
  toCalculus := Prog.calculus_guarantees _ _
  isLoaded := ⟨trivial, fun _ _ => ⟨trivial, fun _ _ => trivial⟩⟩
  literal := ⟨trivial, fun _ _ => trivial⟩
  writes hp hQ := hp.guarantees (fun _ => StoreWithin.inBounds) hQ
  api _ hc hn := by
    rw [zmqApi_eq]
    refine ⟨trivial, fun _ _ => ⟨trivial, fun g _ => ?_⟩⟩
    apply Prog.Guarantees.ite
    · exact fun _ => ⟨hc, fun _ hx _ => hx⟩
    · exact fun _ => hn.mono fun _ hx _ => hx
  optional {_ _ _} hc hfailed := by
    rw [zmqApiOptional_eq]
    refine ⟨trivial, fun _ _ => ⟨trivial, fun g _ => ?_⟩⟩
    apply Prog.Guarantees.ite
    · exact fun _ _ => hfailed
    · exact fun _ => ⟨hc, fun _ hx _ => hx⟩
  returns h := by
    obtain ⟨t, rest, hc, ht⟩ := h trivial
    exact inBounds_tbReturnString hc ht
  returnsN h := by
    obtain ⟨t, rest, hc, hlen⟩ := h trivial
    exact inBounds_tbReturnStringN hc hlen

lemma inBounds_map {β : Type} {p : Sdk α} (hp : InBounds p fun _ => True) (f : α → β) :
    InBounds (f <$> p) fun _ => True := closed_inBounds.map hp fun _ _ => trivial

lemma zmqDynUnload_inBounds : zmqDynUnload.Only Req.InBounds :=
  zmqDynUnload_only trivial (fun _ => trivial) (fun _ => trivial) (fun _ => trivial) trivial

/-- Everything but loading. -/
lemma inBounds_action {k : Keyword} (hinit : k ≠ .zmqLibraryInit) (args : Args k.signature) :
    InBounds (k.body.action args) fun _ => True := by
  by_cases hshutdown : k = .zmqLibraryShutdown
  · subst hshutdown
    have hunload : (zmqDynUnload >>= fun _ => pure (1 : LONG)).Only Req.InBounds :=
      zmqDynUnload_inBounds.bind fun _ => trivial
    exact inBounds_map (hunload.guarantees fun _ => id) _
  · exact closed_inBounds.action hinit hshutdown args

end ThinBasicZmq
