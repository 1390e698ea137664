import Mathlib.Data.List.GetD
import Mathlib.Data.UInt

/-!
# The Z85 code

Four bytes, read as a big-endian number, are written as five digits to base 85. A group of
digits that is not such a number, or that has a character outside of the alphabet, is an
error; the groups before it are decoded nevertheless.
-/

namespace Base85

/-- The digits from `0` to `84`. -/
def alphabet : List UInt8 :=
  ("0123456789abcdefghijklmnopqrstuvwxyzABCDEFGHIJKLMNOPQRSTUVWXYZ" ++
    ".-:+=^!/*?&<>()[]\x7b\x7d@%$#").toList.map fun c => UInt8.ofNat c.toNat

def digit (n : ℕ) : UInt8 := alphabet.getD (n % 85) 0

def digitValue? (c : UInt8) : Option ℕ :=
  if c ∈ alphabet then some (alphabet.idxOf c) else none

/-- The five digits of `v`. -/
def group (v : ℕ) : List UInt8 :=
  [digit (v / 85 ^ 4), digit (v / 85 ^ 3), digit (v / 85 ^ 2), digit (v / 85), digit v]

def encode : List UInt8 → List UInt8
  | a :: b :: c :: d :: rest =>
    group (((a.toNat * 256 + b.toNat) * 256 + c.toNat) * 256 + d.toNat) ++ encode rest
  | _ => []

/-- The number that a group of digits stands for, unless it needs more than 32 bits. -/
def groupValue? (t : List UInt8) : Option ℕ := do
  let v := (← t.mapM digitValue?).foldl (fun acc x => acc * 85 + x) 0
  if v < 2 ^ 32 then some v else none

def bytes (v : ℕ) : List UInt8 :=
  [.ofNat (v / 2 ^ 24), .ofNat (v / 2 ^ 16), .ofNat (v / 2 ^ 8), .ofNat v]

/-- The bytes of the groups before the first bad one, and whether there is none. -/
def decodeGroups : List UInt8 → List UInt8 × Bool
  | a :: b :: c :: d :: e :: rest =>
    match groupValue? [a, b, c, d, e] with
    | some v => (bytes v ++ (decodeGroups rest).1, (decodeGroups rest).2)
    | none => ([], false)
  | _ => ([], true)

def decode (t : List UInt8) : List UInt8 × Bool :=
  if t = [] ∨ ¬ 5 ∣ t.length then ([], false) else decodeGroups t

lemma decode_refuses {t : List UInt8} (h : t = [] ∨ ¬ 5 ∣ t.length) : decode t = ([], false) :=
  if_pos h

private lemma length_alphabet : alphabet.length = 85 := by decide +kernel

private lemma nodup_alphabet : alphabet.Nodup := by decide +kernel

private lemma zero_notMem_alphabet : 0 ∉ alphabet := by decide +kernel

lemma digit_ne_zero (n : ℕ) : digit n ≠ 0 := by
  have hn : n % 85 < alphabet.length := by
    rw [length_alphabet]
    exact Nat.mod_lt n (by decide)
  rw [digit, List.getD_eq_getElem _ _ hn]
  exact ne_of_mem_of_not_mem (List.getElem_mem hn) zero_notMem_alphabet

lemma zero_notMem_group (v : ℕ) : 0 ∉ group v := by
  simp [group, (digit_ne_zero _).symm]

private lemma eq_nil_of_short {t : List UInt8}
    (hshort : ∀ a b c d rest, t = a :: b :: c :: d :: rest → False) (h : 4 ∣ t.length) :
    t = [] := by
  rcases t with _ | ⟨a, _ | ⟨b, _ | ⟨c, _ | ⟨d, rest⟩⟩⟩⟩
  · rfl
  · simp at h
  · simp at h
  · simp at h
  · exact absurd rfl (hshort a b c d rest)

theorem length_encode {b : List UInt8} (h : 4 ∣ b.length) :
    (encode b).length = 5 * b.length / 4 := by
  induction b using encode.induct with
  | case1 a b c d rest ih =>
    have hrest : 4 ∣ rest.length := by
      simp only [List.length_cons] at h
      omega
    have hgroup (v : ℕ) : (group v).length = 5 := rfl
    rw [encode, List.length_append, hgroup, ih hrest]
    simp only [List.length_cons]
    omega
  | case2 b hshort =>
    obtain rfl := eq_nil_of_short hshort h
    rfl

theorem zero_notMem_encode (b : List UInt8) : 0 ∉ encode b := by
  induction b using encode.induct with
  | case1 a b c d rest ih =>
    rw [encode, List.mem_append]
    exact not_or.mpr ⟨zero_notMem_group _, ih⟩
  | case2 b hshort =>
    rw [encode]
    · exact List.not_mem_nil
    · exact hshort

lemma digitValue?_digit (n : ℕ) : digitValue? (digit n) = some (n % 85) := by
  have hn : n % 85 < alphabet.length := by
    rw [length_alphabet]
    exact Nat.mod_lt n (by decide)
  rw [digit, List.getD_eq_getElem _ _ hn]
  unfold digitValue?
  rw [if_pos (List.getElem_mem hn), nodup_alphabet.idxOf_getElem]

/-- Five digits are enough for 32 bits. -/
lemma groupValue?_group {v : ℕ} (hv : v < 2 ^ 32) : groupValue? (group v) = some v := by
  have hdigits : (group v).mapM digitValue? = some [v / 85 ^ 4 % 85, v / 85 ^ 3 % 85,
      v / 85 ^ 2 % 85, v / 85 % 85, v % 85] := by
    simp [group, digitValue?_digit]
  have hvalue : [v / 85 ^ 4 % 85, v / 85 ^ 3 % 85, v / 85 ^ 2 % 85, v / 85 % 85, v % 85].foldl
      (fun acc x => acc * 85 + x) 0 = v := by
    simp only [List.foldl_cons, List.foldl_nil]
    omega
  unfold groupValue?
  rw [hdigits]
  change (if _ < 2 ^ 32 then some _ else none) = _
  rw [hvalue, if_pos hv]

lemma bytes_bigEndian (a b c d : UInt8) :
    bytes (((a.toNat * 256 + b.toNat) * 256 + c.toNat) * 256 + d.toNat) = [a, b, c, d] := by
  have hbyte {x : UInt8} {v : ℕ} (hv : v % 256 = x.toNat) : UInt8.ofNat v = x := by
    rw [← UInt8.toNat_inj, UInt8.toNat_ofNat']
    exact hv
  have := a.toNat_lt
  have := b.toNat_lt
  have := c.toNat_lt
  have := d.toNat_lt
  unfold bytes
  rw [@hbyte a, @hbyte b, @hbyte c, @hbyte d]
  all_goals omega

lemma decodeGroups_group {v : ℕ} (hv : v < 2 ^ 32) (t : List UInt8) :
    decodeGroups (group v ++ t) = (bytes v ++ (decodeGroups t).1, (decodeGroups t).2) := by
  have hval : groupValue? [digit (v / 85 ^ 4), digit (v / 85 ^ 3), digit (v / 85 ^ 2),
      digit (v / 85), digit v] = some v := groupValue?_group hv
  simp only [group, List.cons_append, List.nil_append, decodeGroups, hval]

lemma decodeGroups_encode {b : List UInt8} (h : 4 ∣ b.length) :
    decodeGroups (encode b) = (b, true) := by
  induction b using encode.induct with
  | case1 a b c d rest ih =>
    have hrest : 4 ∣ rest.length := by
      simp only [List.length_cons] at h
      omega
    have hv : ((a.toNat * 256 + b.toNat) * 256 + c.toNat) * 256 + d.toNat < 2 ^ 32 := by
      have := a.toNat_lt
      have := b.toNat_lt
      have := c.toNat_lt
      have := d.toNat_lt
      omega
    rw [encode, decodeGroups_group hv, ih hrest, bytes_bigEndian]
    rfl
  | case2 b hshort =>
    obtain rfl := eq_nil_of_short hshort h
    rfl

/-- Decoding inverts encoding. Only the empty text is refused. -/
theorem decode_encode {b : List UInt8} (hb : b ≠ []) (h : 4 ∣ b.length) :
    decode (encode b) = (b, true) := by
  have hpos : 0 < b.length := List.length_pos_iff.mpr hb
  have hlen := length_encode h
  have hgood : ¬ (encode b = [] ∨ ¬ 5 ∣ (encode b).length) := by
    rw [← List.length_eq_zero_iff, hlen]
    omega
  rw [decode, if_neg hgood]
  exact decodeGroups_encode h

end Base85
