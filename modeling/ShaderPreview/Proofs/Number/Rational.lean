import ShaderPreview.Proofs.Number.Magnitude

/-!
# Doubles as rational numbers

A finite double without a minus is a rational number (`Is`).  Doubles stand in the order of their
numbers (`Is.le_iff`, `Is.lt_iff`), with infinity above all of them, and a double keeps its number
when it is packed into bits and unpacked again (`unpack_pack_of_isParts`).
-/

namespace ShaderPreview

open Float.Model (Format UnpackedFloat)

namespace Exact

/-! ## Digits and exponents -/

/-- A finite double may have the digits `m` and the exponent `e`.  The leading digit stands in one
place, unless the exponent is the least one. -/
structure IsParts (m : ℕ) (e : ℤ) : Prop where
  lt : m < 2 ^ 53
  lowest : -1074 ≤ e
  highest : e ≤ 971
  leading : m < 2 ^ 52 → e = -1074

theorem two_zpow_pos (e : ℤ) : (0 : ℚ) < 2 ^ e := zpow_pos two_pos e

theorem two_zpow_add (e : ℤ) (k : ℕ) : (2 : ℚ) ^ (e + k) = 2 ^ k * 2 ^ e := by
  rw [zpow_add₀ two_ne_zero, zpow_natCast, mul_comm]

variable {m m' : ℕ} {e e' : ℤ}

theorem mul_zpow_lt_iff : (m : ℚ) * 2 ^ e < m' * 2 ^ e ↔ m < m' := by
  rw [mul_lt_mul_iff_left₀ (two_zpow_pos e), Nat.cast_lt]

/-- With a full `m'` and a greater exponent the number is greater. -/
theorem mul_zpow_lt (hm : m < 2 ^ 53) (hm' : 2 ^ 52 ≤ m') (he : e < e') :
    (m : ℚ) * 2 ^ e < m' * 2 ^ e' :=
  calc (m : ℚ) * 2 ^ e < 2 ^ 53 * 2 ^ e := by
        have hcast : (m : ℚ) < 2 ^ 53 := by exact_mod_cast hm
        exact mul_lt_mul_of_pos_right hcast (two_zpow_pos e)
    _ = 2 ^ 52 * 2 ^ (e + 1) := by
        rw [zpow_add_one₀ two_ne_zero]
        ring
    _ ≤ m' * 2 ^ (e + 1) := by
        have hcast : (2 : ℚ) ^ 52 ≤ m' := by exact_mod_cast hm'
        exact mul_le_mul_of_nonneg_right hcast (two_zpow_pos _).le
    _ ≤ m' * 2 ^ e' := by
        have hpow : (2 : ℚ) ^ (e + 1) ≤ 2 ^ e' := zpow_le_zpow_right₀ one_le_two (by omega)
        exact mul_le_mul_of_nonneg_left hpow m'.cast_nonneg

/-- Numbers are compared by their exponents first, and by their digits then. -/
theorem IsParts.compare_eq (h : IsParts m e) (h' : IsParts m' e') :
    (compare e e').then (compare m m') = compare ((m : ℚ) * 2 ^ e) (m' * 2 ^ e') := by
  rcases lt_trichotomy e e' with he | rfl | he
  · have hfull : 2 ^ 52 ≤ m' := not_lt.1 fun hlt => by
      have := h'.leading hlt
      have := h.lowest
      omega
    rw [compare_lt_iff_lt.2 he, compare_lt_iff_lt.2 (mul_zpow_lt h.lt hfull he)]
    rfl
  · rw [compare_eq_iff_eq.2 rfl, Ordering.eq_then]
    rcases lt_trichotomy m m' with hm | rfl | hm
    · rw [compare_lt_iff_lt.2 hm, compare_lt_iff_lt.2 (mul_zpow_lt_iff.2 hm)]
    · rw [compare_eq_iff_eq.2 rfl, compare_eq_iff_eq.2 rfl]
    · rw [compare_gt_iff_gt.2 hm, compare_gt_iff_gt.2 (mul_zpow_lt_iff.2 hm)]
  · have hfull : 2 ^ 52 ≤ m := not_lt.1 fun hlt => by
      have := h.leading hlt
      have := h'.lowest
      omega
    rw [compare_gt_iff_gt.2 he, compare_gt_iff_gt.2 (mul_zpow_lt h'.lt hfull he)]
    rfl

/-! ## Numbers -/

/-- The unpacked double is the number `q`, without a minus. -/
inductive IsNumber : UnpackedFloat → ℚ → Prop where
  | zero : IsNumber (.zero .positive) 0
  | finite {m : ℕ} {e : ℤ} (hm : 0 < m) (h : IsParts m e) :
    IsNumber (.finite .positive m e hm) (m * 2 ^ e)

section IsNumber

variable {u v : UnpackedFloat} {q r : ℚ}

theorem mul_zpow_pos (hm : 0 < m) (e : ℤ) : (0 : ℚ) < m * 2 ^ e :=
  mul_pos (Nat.cast_pos.2 hm) (two_zpow_pos e)

theorem IsNumber.nonneg (hu : IsNumber u q) : 0 ≤ q := by
  cases hu with
  | zero => exact le_rfl
  | finite hm h => exact (mul_zpow_pos hm _).le

theorem IsNumber.compare_eq (hu : IsNumber u q) (hv : IsNumber v r) :
    u.compare v = some (compare q r) := by
  cases hu with
  | zero =>
    cases hv with
    | zero => rfl
    | finite hm' h' => exact congrArg some (compare_lt_iff_lt.2 (mul_zpow_pos hm' _)).symm
  | finite hm h =>
    cases hv with
    | zero => exact congrArg some (compare_gt_iff_gt.2 (mul_zpow_pos hm _)).symm
    | finite hm' h' => exact congrArg some (h.compare_eq h')

theorem IsNumber.le_iff (hu : IsNumber u q) (hv : IsNumber v r) : u.le v ↔ q ≤ r := by
  rw [UnpackedFloat.le, hu.compare_eq hv, Option.any_some]
  rw [Ordering.isLE_iff_ne_gt]
  exact compare_le_iff_le

theorem IsNumber.lt_iff (hu : IsNumber u q) (hv : IsNumber v r) : u.lt v ↔ q < r := by
  rw [UnpackedFloat.lt, hu.compare_eq hv, Option.some_beq_some, beq_iff_eq]
  exact compare_lt_iff_lt

end IsNumber

/-! ## Packed doubles -/

/-- What is read off bits has the digits and the exponent of a double. -/
theorem isParts_of_unpack {b : BitVec Format.binary64.numBits} {sign : UnpackedFloat.Sign}
    {hm : 0 < m} (h : UnpackedFloat.unpack Format.binary64 b = .finite sign m e hm) :
    IsParts m e := by
  have hdigits : (UnpackedFloat.unpackMantissa b).toNat < 2 ^ 52 :=
    (UnpackedFloat.unpackMantissa b).isLt
  have hexponent : (UnpackedFloat.unpackExponent b).toNat < 2 ^ 11 :=
    (UnpackedFloat.unpackExponent b).isLt
  rw [UnpackedFloat.unpack] at h
  split at h
  · split at h <;> cases h
  · rename_i hinfinite
    have hne : (UnpackedFloat.unpackExponent b).toNat ≠ 2 ^ 11 - 1 := fun hn =>
      hinfinite (BitVec.eq_of_toNat_eq hn)
    split at h
    · rename_i hempty
      have hzero : (UnpackedFloat.unpackExponent b).toNat = 0 := congrArg BitVec.toNat hempty
      split at h
      · cases h
      · cases h
        rw [hzero, unbiased_exponent]
        exact ⟨by omega, by decide, by decide, fun _ => by decide⟩
    · rename_i hempty
      have hpos : (UnpackedFloat.unpackExponent b).toNat ≠ 0 := fun hn =>
        hempty (BitVec.eq_of_toNat_eq hn)
      cases h
      rw [unbiased_exponent, toNat_leading_append, wordCount_52]
      exact ⟨by omega, by omega, by omega, fun hlt => by omega⟩

/-- The exponent field of a double. -/
theorem biased_exponent (e : ℤ) :
    (e + Format.binary64.exponentBias + Format.binary64.mantissaBitsWithoutImplicit).toNat =
      (e + 1075).toNat := by
  rw [show (Format.binary64.exponentBias : ℤ) = 1023 from rfl,
    show (Format.binary64.mantissaBitsWithoutImplicit : ℤ) = 52 from rfl]
  omega

section Pack

variable (sign : UnpackedFloat.Sign) (hm : 0 < m)

theorem unpack_pack_of_full (hfull : 2 ^ 52 ≤ m) (hlt : m < 2 ^ 53) (hlowest : -1074 ≤ e)
    (hhighest : e ≤ 971) :
    (Float.Model.pack (.finite sign m e hm)).unpack = .finite sign m e hm := by
  have hlog : m.log2 = 52 := (Nat.log2_eq_iff hm.ne').2 ⟨hfull, hlt⟩
  have hfield : (BitVec.ofNat 11 (e + 1075).toNat).toNat = (e + 1075).toNat := by
    rw [BitVec.toNat_ofNat, Nat.mod_eq_of_lt (by omega)]
  have hdigits : (1#1 ++ BitVec.ofNat 52 m).toNat = m := by
    rw [toNat_leading_append, BitVec.toNat_ofNat, wordCount_52]
    omega
  have hexponent : ((e + 1075).toNat : ℤ) - (Format.binary64.exponentBias + (52 : ℕ)) = e := by
    rw [show (Format.binary64.exponentBias : ℤ) = 1023 from rfl]
    omega
  have hpack : UnpackedFloat.pack Format.binary64 (.finite sign m e hm) =
      UnpackedFloat.packComponents Format.binary64 sign (BitVec.ofNat 11 (e + 1075).toNat)
        (BitVec.ofNat 52 m) := by
    have hfits : ¬ 2 ^ 11 ≤ (e + 1075).toNat + 1 := by omega
    have hnormal : m.log2 + 1 = Format.binary64.mantissaBits := by rw [hlog]; rfl
    rw [UnpackedFloat.pack, biased_exponent]
    dsimp only
    rw [if_neg hfits, if_pos hnormal]
  have hne (b : BitVec 11) (hb : b.toNat ≠ (e + 1075).toNat) :
      BitVec.ofNat 11 (e + 1075).toNat ≠ b := fun h => hb (by rw [← h, hfield])
  have hfinite : BitVec.ofNat 11 (e + 1075).toNat ≠ -1#11 := hne _ (by simp; omega)
  have hnonempty : BitVec.ofNat 11 (e + 1075).toNat ≠ 0#11 := hne _ (by simp; omega)
  change UnpackedFloat.unpack Format.binary64 (UnpackedFloat.pack Format.binary64 _) = _
  rw [hpack, UnpackedFloat.unpack]
  simp only [UnpackedFloat.unpackMantissa_packComponents,
    UnpackedFloat.unpackExponent_packComponents, UnpackedFloat.unpackSign_packComponents,
    UnpackedFloat.Sign.ofBitVec_toBitVec]
  rw [if_neg hfinite, if_neg hnonempty]
  simp only [hdigits, hfield, hexponent]

theorem unpack_pack_of_not_full (hlt : m < 2 ^ 52) :
    (Float.Model.pack (.finite sign m (-1074) hm)).unpack = .finite sign m (-1074) hm := by
  have hdigits : (BitVec.ofNat 52 m).toNat = m := by
    rw [BitVec.toNat_ofNat, Nat.mod_eq_of_lt hlt]
  have hpack : UnpackedFloat.pack Format.binary64 (.finite sign m (-1074) hm) =
      UnpackedFloat.packComponents Format.binary64 sign 0#11 (BitVec.ofNat 52 m) := by
    have hlog : m.log2 < 52 := (Nat.log2_lt hm.ne').2 hlt
    have hfits : ¬ 2 ^ 11 ≤ ((-1074 : ℤ) + 1075).toNat + 1 := by decide
    have hsubnormal : ¬ m.log2 + 1 = Format.binary64.mantissaBits := by
      rw [show Format.binary64.mantissaBits = 53 from rfl]
      omega
    rw [UnpackedFloat.pack, biased_exponent]
    dsimp only
    rw [if_neg hfits, if_neg hsubnormal]
  have hnonzero : BitVec.ofNat 52 m ≠ 0#52 := fun h => by
    rw [h] at hdigits
    exact hm.ne hdigits
  have hfinite : 0#11 ≠ -1#11 := by decide
  change UnpackedFloat.unpack Format.binary64 (UnpackedFloat.pack Format.binary64 _) = _
  rw [hpack, UnpackedFloat.unpack]
  simp only [UnpackedFloat.unpackMantissa_packComponents,
    UnpackedFloat.unpackExponent_packComponents, UnpackedFloat.unpackSign_packComponents,
    UnpackedFloat.Sign.ofBitVec_toBitVec]
  rw [if_neg hfinite, if_pos trivial, dif_neg hnonzero]
  simp only [hdigits]
  rfl

/-- A double keeps its digits and its exponent. -/
theorem unpack_pack_of_isParts (h : IsParts m e) :
    (Float.Model.pack (.finite sign m e hm)).unpack = .finite sign m e hm := by
  by_cases hfull : 2 ^ 52 ≤ m
  · exact unpack_pack_of_full sign hm hfull h.lt h.lowest h.highest
  · obtain rfl := h.leading (not_le.1 hfull)
    exact unpack_pack_of_not_full sign hm (not_le.1 hfull)

/-- Numbers that are too large become infinite. -/
theorem unpack_pack_of_lt (he : 971 < e) :
    (Float.Model.pack (.finite sign m e hm)).unpack = .infinity sign := by
  have hlarge : 2 ^ 11 ≤ (e + 1075).toNat + 1 := by omega
  have hpack : UnpackedFloat.pack Format.binary64 (.finite sign m e hm) =
      UnpackedFloat.packedInfinity Format.binary64 sign := by
    rw [UnpackedFloat.pack, biased_exponent]
    exact if_pos hlarge
  change UnpackedFloat.unpack Format.binary64 (UnpackedFloat.pack Format.binary64 _) = _
  rw [hpack]
  cases sign <;> rfl

end Pack

theorem unpack_pack_infinity (sign : UnpackedFloat.Sign) :
    (Float.Model.pack (.infinity sign)).unpack = .infinity sign := by
  cases sign <;> rfl

theorem unpack_pack_zero (sign : UnpackedFloat.Sign) :
    (Float.Model.pack (.zero sign)).unpack = .zero sign := by
  cases sign <;> rfl

theorem unpack_pack_notANumber :
    (Float.Model.pack .notANumber).unpack = .notANumber := rfl

theorem unpack_abs (x : Float) : x.abs.toModel.unpack = x.toModel.unpack.abs := by
  change (Float.Model.pack x.toModel.unpack.abs).unpack = x.toModel.unpack.abs
  rcases hx : x.toModel.unpack with sign | _ | sign | ⟨sign, m, e, hm⟩
  · exact unpack_pack_infinity .positive
  · exact unpack_pack_notANumber
  · exact unpack_pack_zero .positive
  · exact unpack_pack_of_isParts .positive hm (isParts_of_unpack hx)

/-! ## Doubles -/

/-- The double is the number `q`, without a minus. -/
def Is (x : Float) (q : ℚ) : Prop := IsNumber x.toModel.unpack q

section Is

variable {x y : Float} {q r : ℚ}

theorem is_of_unpack {hm : 0 < m} (hx : x.toModel.unpack = .finite .positive m e hm)
    (h : IsParts m e) (hq : q = m * 2 ^ e) : Is x q := by
  rw [Is, hx, hq]
  exact .finite hm h

theorem Is.le_iff (hx : Is x q) (hy : Is y r) : x ≤ y ↔ q ≤ r :=
  Iff.trans decide_eq_true_iff (IsNumber.le_iff hx hy)

theorem Is.lt_iff (hx : Is x q) (hy : Is y r) : x < y ↔ q < r :=
  Iff.trans decide_eq_true_iff (IsNumber.lt_iff hx hy)

theorem Is.unique (hx : Is x q) (hx' : Is x r) : q = r :=
  le_antisymm ((hx.le_iff hx').1 ((hx.le_iff hx).2 le_rfl))
    ((hx'.le_iff hx).1 ((hx.le_iff hx).2 le_rfl))

theorem is_zero : Is 0.0 0 := .zero

/-- The number of a finite double. -/
def rational (x : Float) : ℚ :=
  (if isNegative x then -1 else 1) * ((parts x).1 * 2 ^ (parts x).2)

theorem IsNumber.isFinite {u : UnpackedFloat} (hu : IsNumber u q) : u.isFinite := by
  cases hu <;> rfl

/-- The sign and the parts that are read off the bits. -/
theorem Is.parts_eq (hx : Is x q) :
    isNegative x = false ∧ q = (parts x).1 * 2 ^ (parts x).2 := by
  have hparts := denotes_parts (IsNumber.isFinite hx)
  rw [Is] at hx
  generalize x.toModel.unpack = u at hx hparts
  generalize isNegative x = negative at hparts
  generalize parts x = p at hparts
  cases hx with
  | zero =>
    cases hparts
    exact ⟨rfl, by simp⟩
  | finite hm h =>
    cases hparts
    exact ⟨rfl, rfl⟩

theorem Is.rational_eq (hx : Is x q) : rational x = q := by
  obtain ⟨hsign, hq⟩ := hx.parts_eq
  rw [rational, hsign, if_neg Bool.false_ne_true, one_mul, hq]

theorem Is.not_isNaN (hx : Is x q) : x.isNaN = false := by
  rw [Is] at hx
  change x.toModel.unpack.isNaN = false
  generalize x.toModel.unpack = u at hx
  cases hx <;> rfl

/-- Between zero and a number all doubles are numbers. -/
theorem exists_is_of_pos_of_lt (hy : Is y r) (hpos : 0.0 < x) (hlt : x < y) :
    ∃ q, Is x q ∧ 0 < q ∧ q < r := by
  suffices h : ∃ q, Is x q by
    obtain ⟨q, hx⟩ := h
    exact ⟨q, hx, (is_zero.lt_iff hx).1 hpos, (hx.lt_iff hy).1 hlt⟩
  have hpos : UnpackedFloat.lt (.zero .positive) x.toModel.unpack := decide_eq_true_iff.1 hpos
  have hlt : UnpackedFloat.lt x.toModel.unpack y.toModel.unpack := decide_eq_true_iff.1 hlt
  rcases hx : x.toModel.unpack with ⟨_ | _⟩ | _ | _ | ⟨_ | _, m, e, hm⟩ <;> rw [hx] at hpos hlt
  · cases hpos
  · rw [Is] at hy
    generalize y.toModel.unpack = v at hy hlt
    cases hy <;> cases hlt
  · cases hpos
  · cases hpos
  · cases hpos
  · exact ⟨_, is_of_unpack hx (isParts_of_unpack hx) rfl⟩

end Is

end Exact

end ShaderPreview
