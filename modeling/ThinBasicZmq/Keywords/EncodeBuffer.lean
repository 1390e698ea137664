import ThinBasicZmq.Keywords.StrictTransaction

/-!
# The buffer of ZmqZ85EncodeStr

The guard in front of the encoder computes the encoded length with 32-bit unsigned
arithmetic, `size * 5 / 4`. The product wraps for sizes from 858993460 on.
-/

namespace ThinBasicZmq

open Interaction

/-- Wherever the encoder gets a local array, the `5 * size / 4` characters and the NUL that
it writes stay inside. -/
def EncodesInside (tr : List Ev) : Prop :=
  ∀ e ∈ tr, ∀ cells data size, e.request = .enter (.api (.z85Encode (.arr cells) data size)) →
    5 * size.toNat / 4 + 1 ≤ cells.length

/-- A guard refuses the size, or its exact product with 5 is below `2 ^ 32`. -/
def SizeSafe (data size : LONG) : Prop :=
  data = 0 ∨ size ≤ 0 ∨ size &&& 3 ≠ 0 ∨ 5 * size.toUInt32.toNat < 2 ^ 32 ∨
    5 * size.toUInt32.toNat % 2 ^ 32 / 4 = 0 ∨
    TB_RETURN_STRING_MAX ≤ 5 * size.toUInt32.toNat % 2 ^ 32 / 4

instance (data size : LONG) : Decidable (SizeSafe data size) := by
  unfold SizeSafe
  infer_instance

lemma toNat_encodedLen (size : LONG) :
    (size.toUInt32 * 5 / 4).toNat = 5 * size.toUInt32.toNat % 2 ^ 32 / 4 := by
  simp [UInt32.toNat_div, UInt32.toNat_mul, Nat.mul_comm]

/-- The encoder is entered with an array of 4096 bytes and this size, or not at all. -/
private def EntersWith (size : SizeT) : Req → Prop
  | .enter (.api (.z85Encode (.arr cells) _ n)) => cells.length = TB_RETURN_STRING_MAX ∧ n = size
  | _ => True

private lemma IsResult.entersWith {size : SizeT} {r : Req} (h : IsResult r) :
    EntersWith size r := by
  cases r <;> first | exact h.elim | trivial

private lemma encodesInside_of_no_enter {tr : List Ev} (h : ∀ e ∈ tr, ¬ IsEnter e.request) :
    EncodesInside tr := by
  intro e he cells data size hreq
  exact absurd (hreq ▸ trivial) (h e he)

private lemma encodeInto_enters (data size : LONG) {tr : List Ev} {b : Bstr}
    (h : (encodeInto data size).Trace tr b) : ∃ e ∈ tr, ∃ cells ptr,
      e.request = .enter (.api (.z85Encode (.arr cells) ptr size.toUInt32)) ∧
        cells.length = TB_RETURN_STRING_MAX := by
  obtain ⟨tr₁, tr₂, dest, rfl, h₁, h₂⟩ := (Prog.trace_bind _ _ _ _).mp h
  obtain ⟨tr₃, tr₄, x, rfl, h₃, -⟩ := (Prog.trace_bind _ _ _ _).mp h₂
  have hdest : dest.length = TB_RETURN_STRING_MAX := by
    rw [(store_settles _ (by simp [TB_RETURN_STRING_MAX])).trace_eq h₁, Memory.length_put,
      length_localArray]
  let c : ZmqCall := .z85Encode (.arr dest) (.addr (tbPtrFromHandle data)) size.toUInt32
  refine ⟨⟨.enter (.api c), ()⟩, ?_, dest, _, rfl, hdest⟩
  obtain ⟨t, ⟨-, -, -, rfl⟩ | ⟨-, rfl, -⟩⟩ := zmqApiOptional_trace h₃ <;> simp [c]

private lemma encodeInto_entersWith (data size : LONG) :
    (encodeInto data size).Only (EntersWith size.toUInt32) := by
  have hstore : (store (localArray TB_RETURN_STRING_MAX) 0 [0]).Settles
      (StoreWithin (localArray TB_RETURN_STRING_MAX).length) _ :=
    store_settles _ (by simp [TB_RETURN_STRING_MAX])
  apply hstore.bind_only
  · intro r hr
    cases r <;> first | exact hr.elim | trivial
  apply Prog.Only.bind
  · change (zmqApiOptional _ _ _).Only _
    rw [zmqApiOptional_eq]
    exact ⟨⟨by simp, rfl⟩, fun _ => ⟨trivial, fun t => .ite trivial ⟨trivial, fun _ => trivial⟩⟩⟩
  · intro x
    apply Prog.Only.ite
    · exact tbReturnEmpty_result.mono fun _ => IsResult.entersWith
    · exact (tbReturnString_result _).mono fun _ => IsResult.entersWith

lemma z85EncodeStrAction_encodesInside_iff {data size : LONG} {tr : List Ev} {b : Bstr}
    (h : (z85EncodeStrAction data size).Trace tr b) :
    EncodesInside tr ↔ SizeSafe data size := by
  have hempty : ∀ {tr b}, tbReturnEmpty.Trace tr b → EncodesInside tr := by
    intro tr b ht
    apply encodesInside_of_no_enter
    intro e he
    exact not_enter_of_result _ (tbReturnEmpty_result.trace ht e he)
  rcases Prog.trace_ite h with ⟨hguard, h⟩ | ⟨hguard, h⟩
  · have hsafe : SizeSafe data size := by
      unfold SizeSafe
      tauto
    exact iff_of_true (hempty h) hsafe
  rcases Prog.trace_ite h with ⟨hlen, h⟩ | ⟨hlen, h⟩
  · rw [← UInt32.toNat_inj, toNat_encodedLen] at hlen
    have hsafe : SizeSafe data size := by
      unfold SizeSafe
      rcases hlen with hz | hbig
      · exact Or.inr (Or.inr (Or.inr (Or.inr (Or.inl hz))))
      · exact Or.inr (Or.inr (Or.inr (Or.inr (Or.inr hbig))))
    exact iff_of_true (hempty h) hsafe
  rw [← UInt32.toNat_inj, toNat_encodedLen] at hlen
  constructor
  · intro hinside
    obtain ⟨e, he, cells, ptr, hreq, hcells⟩ := encodeInto_enters data size h
    have hfits := hinside e he cells ptr _ hreq
    rw [hcells, TB_RETURN_STRING_MAX] at hfits
    exact Or.inr (Or.inr (Or.inr (Or.inl (by omega))))
  · intro hsafe e he cells ptr n hreq
    have hwith := (encodeInto_entersWith data size).trace h e he
    rw [hreq] at hwith
    obtain ⟨hcells, rfl⟩ : cells.length = TB_RETURN_STRING_MAX ∧ n = size.toUInt32 := hwith
    rw [hcells]
    rcases hsafe with hd | hs | hm | hsmall | hz | hbig
    · exact absurd (Or.inl hd) hguard
    · exact absurd (Or.inr (Or.inl hs)) hguard
    · exact absurd (Or.inr (Or.inr hm)) hguard
    · rw [Nat.mod_eq_of_lt hsmall] at hlen
      exact Nat.not_le.mp fun hn => hlen (Or.inr hn)
    · exact absurd (Or.inl hz) hlen
    · exact absurd (Or.inr hbig) hlen

/-- In every run of `ZmqZ85EncodeStr`: what the encoder writes stays inside the buffer exactly
if the host refuses a request or the size it hands out is safe. -/
theorem exec_encodesInside_iff (tr : List Ev) (v : Value)
    (h : Keyword.zmqZ85EncodeStr.exec.Trace tr v) :
    EncodesInside tr ↔ (∃ e ∈ tr, e.rejects = true) ∨
      ∀ data size, parsedValues tr = [.long data, .long size] → SizeSafe data size := by
  rw [Keyword.exec_eq_transact] at h
  rcases transact_trace h with ⟨tr₁, tr₂, rfl, hr, hfail⟩ | ⟨args, tr₁, tr₂, rfl, ha, hact⟩
  · have hnone : ∀ e ∈ tr₁ ++ tr₂, ¬ IsEnter e.request :=
      forall_of_parsing_of_result not_enter_of_parsing not_enter_of_result hr.parsing
        ((failure_result _).trace hfail)
    obtain ⟨e, he, hrejects⟩ := hr.exists_rejects
    constructor
    · intro _
      exact Or.inl ⟨e, List.mem_append_left _ he, hrejects⟩
    · intro _
      exact encodesInside_of_no_enter hnone
  · obtain ⟨data, size, _⟩ := args
    have haccepts : ¬ ∃ e ∈ tr₁ ++ tr₂, e.rejects = true := by
      rintro ⟨e, he, hrej⟩
      rw [accepted_accepts ha hact e he] at hrej
      cases hrej
    have hvalues : parsedValues (tr₁ ++ tr₂) = [.long data, .long size] := accepted_values ha hact
    obtain ⟨b, hb, -⟩ := Prog.trace_map.mp hact
    have hinside : EncodesInside (tr₁ ++ tr₂) ↔ EncodesInside tr₂ := by
      constructor
      · exact fun hin e he => hin e (List.mem_append_right _ he)
      · intro hin e he cells ptr n hreq
        rcases List.mem_append.mp he with he | he
        · exact absurd (hreq ▸ trivial) (not_enter_of_parsing _ (ha.parsing e he))
        · exact hin e he cells ptr n hreq
    rw [hinside, z85EncodeStrAction_encodesInside_iff hb, hvalues]
    constructor
    · intro hsafe
      apply Or.inr
      intro d s hds
      simp only [List.cons.injEq, Parsed.long.injEq] at hds
      obtain ⟨rfl, rfl, -⟩ := hds
      exact hsafe
    · rintro (hrej | hsafe)
      · exact absurd hrej haccepts
      · exact hsafe data size rfl

example : ¬ SizeSafe 4096 858993460 := by decide

theorem exec_encodesInside_iff_small :
    EncodesInside (Host.bare.callEvents (fun c s => (c.failed, s)) .zmqZ85EncodeStr
        [.int 4096, .int 32] (Session.resolved ())) ↔
      (∃ e ∈ Host.bare.callEvents (fun c s => (c.failed, s)) .zmqZ85EncodeStr
        [.int 4096, .int 32] (Session.resolved ()), e.rejects = true) ∨
      ∀ data size, parsedValues (Host.bare.callEvents (fun c s => (c.failed, s)) .zmqZ85EncodeStr
        [.int 4096, .int 32] (Session.resolved ())) = [.long data, .long size] →
        SizeSafe data size :=
  exec_encodesInside_iff _ _ (Prog.trace_events _ _ _)

/-- For size 858993460 the guard sees an encoded length of 1. -/
theorem exec_encode_overruns : ¬ ∀ (tr : List Ev) (v : Value),
    Keyword.zmqZ85EncodeStr.exec.Trace tr v → EncodesInside tr := by
  intro h
  let tr := Host.bare.callEvents (fun c s => (c.failed, s)) .zmqZ85EncodeStr
    [.int 4096, .int 858993460] (Session.resolved ())
  have hinside := h tr _ (Prog.trace_events _ _ _)
  have hlen : 11 < tr.length := by decide
  have hreq : (tr[11]).request = .enter (.api (.z85Encode
      (.arr (Memory.put (localArray TB_RETURN_STRING_MAX) 0 [0])) (.addr 4096) 858993460)) := rfl
  have hfits := hinside _ (List.getElem_mem hlen) _ _ _ hreq
  rw [Memory.length_put, length_localArray] at hfits
  exact absurd hfits (by decide)

end ThinBasicZmq
