import Mathlib
import ShaderPreview.Number.Span

/-!
# Doubles as numbers of seconds

`Exact.parts` reads the magnitude `m · 2 ^ e` of a finite double off its bits.  The order of doubles
looks at the same two numbers (`denotes_unpack`), so that what is computed from them can be told by a
comparison of doubles: a number of seconds has no span if and only if it is `2 ^ 64` or more
(`ofSeconds?_eq_none_iff`).
-/

namespace ShaderPreview

open Float.Model (Format UnpackedFloat)

/-- The number of words of 52 bits. -/
theorem wordCount_52 : wordCount 52 = 4503599627370496 := rfl

/-- The number of words of 53 bits. -/
theorem wordCount_53 : wordCount 53 = 9007199254740992 := rfl

namespace Exact

/-! ## The fields of a double -/

/-- The sign is a minus. -/
def isMinus : UnpackedFloat.Sign → Bool
  | .negative => true
  | .positive => false

section Fields

variable (b : BitVec Format.binary64.numBits)

theorem toNat_unpackMantissa :
    (UnpackedFloat.unpackMantissa b).toNat = b.toNat % wordCount 52 := by
  rw [UnpackedFloat.unpackMantissa, BitVec.toNat_cast, BitVec.extractLsb_toNat, Nat.shiftRight_zero]
  rfl

theorem toNat_unpackExponent :
    (UnpackedFloat.unpackExponent b).toNat = b.toNat % wordCount 63 / wordCount 52 := by
  rw [UnpackedFloat.unpackExponent, BitVec.toNat_cast, BitVec.extractLsb_toNat,
    Nat.shiftRight_eq_div_pow]
  exact (Nat.mod_mul_right_div_self b.toNat (wordCount 52) (wordCount 11)).symm

theorem toNat_unpackSign : (UnpackedFloat.unpackSign b).toNat = b.toNat / wordCount 63 := by
  rw [UnpackedFloat.unpackSign, BitVec.toNat_cast, BitVec.extractLsb_toNat,
    Nat.shiftRight_eq_div_pow]
  refine Nat.mod_eq_of_lt ?_
  rw [Nat.div_lt_iff_lt_mul (by decide)]
  exact b.isLt

theorem isMinus_unpackSign :
    isMinus (UnpackedFloat.Sign.ofBitVec (UnpackedFloat.unpackSign b)) =
      (b.toNat / wordCount 63 == 1) := by
  rw [← toNat_unpackSign]
  generalize UnpackedFloat.unpackSign b = sign
  revert sign
  decide

/-- The sign does not reach into the mantissa. -/
theorem toNat_mod_unpackMantissa :
    b.toNat % wordCount 63 % wordCount 52 = (UnpackedFloat.unpackMantissa b).toNat := by
  rw [toNat_unpackMantissa, wordCount_63, wordCount_52]
  omega

theorem toNat_leading_append (m : BitVec 52) : (1#1 ++ m).toNat = m.toNat + wordCount 52 := by
  rw [BitVec.toNat_append, ← Nat.shiftLeft_add_eq_or_of_lt m.isLt, Nat.add_comm]
  rfl

/-- The exponent that a nonempty exponent field stands for. -/
theorem unbiased_exponent (n : Nat) :
    (n : Int) - (Format.binary64.exponentBias + Format.binary64.mantissaBitsWithoutImplicit) =
      n - 1 + -1074 := by
  rw [show (Format.binary64.exponentBias : Int) = 1023 from rfl,
    show (Format.binary64.mantissaBitsWithoutImplicit : Int) = 52 from rfl]
  omega

end Fields

/-! ## Signs, magnitudes and order -/

/-- A sign, `m` and `e` make up a finite unpacked double `± m · 2 ^ e`.  The leading digit of `m`
stands in one place, unless `e` is the least exponent. -/
inductive Denotes : UnpackedFloat → Bool → Nat × Int → Prop where
  | zero (sign : UnpackedFloat.Sign) : Denotes (.zero sign) (isMinus sign) (0, -1074)
  | finite (sign : UnpackedFloat.Sign) {m : Nat} {e : Int} (hm : 0 < m) (hlt : m < wordCount 53)
      (hleading : m < wordCount 52 → e = -1074) :
      Denotes (.finite sign m e hm) (isMinus sign) (m, e)

theorem denotes_unpack (b : BitVec Format.binary64.numBits)
    (hb : (UnpackedFloat.unpack Format.binary64 b).isFinite) :
    Denotes (UnpackedFloat.unpack Format.binary64 b) (b.toNat / wordCount 63 == 1)
      (BinaryFormat.double.parts (b.toNat % wordCount 63)) := by
  have hlt : (UnpackedFloat.unpackMantissa b).toNat < wordCount 52 :=
    (UnpackedFloat.unpackMantissa b).isLt
  rw [← isMinus_unpackSign]
  simp only [BinaryFormat.parts, BinaryFormat.double, ← toNat_unpackExponent,
    toNat_mod_unpackMantissa]
  revert hb
  rw [UnpackedFloat.unpack]
  rw [wordCount_52] at *
  split
  · -- infinities and what is no number
    split <;> rintro ⟨⟩
  · split
    · rename_i hempty
      have hzero : (UnpackedFloat.unpackExponent b).toNat = 0 := congrArg BitVec.toNat hempty
      rw [if_pos hzero]
      simp only [hzero]
      split
      · rename_i hnone
        rw [hnone]
        exact fun _ => .zero _
      · exact fun _ => .finite _ _ (by rw [wordCount_53]; omega) fun _ => rfl
    · rename_i hempty
      have hne : (UnpackedFloat.unpackExponent b).toNat ≠ 0 := fun h =>
        hempty (BitVec.eq_of_toNat_eq h)
      rw [if_neg hne, unbiased_exponent]
      simp only [toNat_leading_append]
      refine fun _ => .finite _ _ ?_ ?_
      · rw [wordCount_53, wordCount_52]
        omega
      · rw [wordCount_52]
        omega

theorem Denotes.bounds {u : UnpackedFloat} {negative : Bool} {p : Nat × Int}
    (hu : Denotes u negative p) : p.1 < wordCount 53 ∧ (p.1 < wordCount 52 → p.2 = -1074) := by
  cases hu with
  | zero => exact ⟨by decide, fun _ => rfl⟩
  | finite _ _ hlt hleading => exact ⟨hlt, hleading⟩

/-- A finite double is `± m · 2 ^ e` with the sign and the parts that are read off its bits. -/
theorem denotes_parts {x : Float} (hx : x.isFinite) :
    Denotes x.toModel.unpack (isNegative x) (parts x) := by
  have h := denotes_unpack x.toModel.toBits.toBitVec hx
  have hsign : isNegative x = (x.toBits.toNat / wordCount 63 == 1) := by
    rw [Bool.eq_iff_iff]
    simp [isNegative, ← UInt64.toNat_inj, wordCount, Nat.shiftRight_eq_div_pow]
  rw [hsign]
  exact h

/-- A power of two, with its leading digit in the place of all others, is at most a number exactly if
the number has no lesser exponent. -/
theorem powerOfTwo_le_iff {u : UnpackedFloat} {negative : Bool} {p : Nat × Int} {k : Int}
    (hu : Denotes u negative p) (hk : -1074 < k) :
    UnpackedFloat.le (.finite .positive (wordCount 52) k (by decide)) u ↔
      negative = false ∧ k ≤ p.2 := by
  cases hu with
  | zero sign =>
    simp [UnpackedFloat.le, UnpackedFloat.compare]
    omega
  | finite sign hm hlt hleading =>
    cases sign with
    | negative => simp [UnpackedFloat.le, UnpackedFloat.compare, isMinus]
    | positive =>
      simp only [UnpackedFloat.le, UnpackedFloat.compare, isMinus, Option.any_some,
        Ordering.isLE_then_iff_or, Int.compare_eq_lt, Int.compare_eq_eq, Nat.isLE_compare, true_and]
      omega

end Exact

namespace Span

theorem unpack_secondsLimit : (18446744073709551616.0 : Float).toModel.unpack =
    .finite .positive (wordCount 52) 12 (by decide) := rfl

/-- The double `2 ^ 64` is above all doubles `m · 2 ^ e` with a lesser exponent, and one of the least
with its exponent. -/
theorem secondsLimit_le_iff {x : Float} (hx : x.isFinite) :
    18446744073709551616.0 ≤ x ↔ Exact.isNegative x = false ∧ 12 ≤ (Exact.parts x).2 := by
  have h := Exact.powerOfTwo_le_iff (k := 12) (Exact.denotes_parts hx) (by decide)
  rw [← unpack_secondsLimit] at h
  exact Iff.trans decide_eq_true_iff h

theorem nearestEven_le_succ (n d : Nat) : Rounding.nearestEven n d ≤ n + 1 := by
  have h := Nat.div_le_self n d
  unfold Rounding.nearestEven
  dsimp only
  split <;> omega

/-- With a full `m` the product is as large as its power of two. -/
theorem nanos_lt_limit_iff {m k : Nat} (hm : wordCount 52 ≤ m) (hlt : m < wordCount 53) :
    m * perSecond * Nat.pow 2 k < secondsLimit * perSecond ↔ k < 12 := by
  rw [wordCount_52] at hm
  rw [wordCount_53] at hlt
  rw [secondsLimit, wordCount_64, perSecond]
  rcases Nat.lt_or_ge k 12 with hk | hk
  · have hpow : Nat.pow 2 k ≤ 2048 :=
      Nat.pow_le_pow_right (n := 2) (j := 11) (by decide) (by omega)
    have hmul := Nat.mul_le_mul_left (m * 1000000000) hpow
    omega
  · have hpow : 4096 ≤ Nat.pow 2 k := Nat.pow_le_pow_right (n := 2) (by decide) hk
    have hmul := Nat.mul_le_mul_left (m * 1000000000) hpow
    omega

/-- A number of seconds that is finite and not negative has no span exactly if it is `2 ^ 64` or
more. -/
theorem ofSeconds?_eq_none_iff {x : Float} (hx : x.isFinite) (hn : Exact.isNegative x = false) :
    ofSeconds? x = none ↔ 18446744073709551616.0 ≤ x := by
  rw [secondsLimit_le_iff hx]
  have hbounds := (Exact.denotes_parts hx).bounds
  unfold ofSeconds?
  rcases hp : Exact.parts x with ⟨m, e⟩
  rw [hp] at hbounds
  obtain ⟨hlt, hleading⟩ := hbounds
  simp only [ite_eq_right_iff, reduceCtorEq, imp_false, hn, true_and] at hlt hleading ⊢
  by_cases he : 0 ≤ e
  · rw [if_pos he, nanos_lt_limit_iff (by omega) hlt]
    omega
  · have hsmall := nearestEven_le_succ (m * perSecond) (Nat.pow 2 (-e).toNat)
    rw [wordCount_53] at hlt
    rw [if_neg he, secondsLimit, wordCount_64]
    unfold perSecond at hsmall ⊢
    omega

end Span

end ShaderPreview
