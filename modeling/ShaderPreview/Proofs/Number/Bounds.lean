import ShaderPreview.Proofs.Number.Neighbour

/-!
# Bounds of doubles

Bounds by doubles are carried through a calculation (`AtLeast`, `AtMost`): since every step is
rounded to a neighbour, a double that bounds the exact result of a step also bounds the rounded one.
What is above all doubles becomes infinite, and counts as bounded from below only.  The last section
rounds a bounded double to a word.
-/

namespace ShaderPreview

open Float.Model (UnpackedFloat)

namespace Exact

variable {x y : Float} {q a b c : ℚ}

/-! ## Infinity -/

section Infinity

variable {u : UnpackedFloat}

theorem unpack_add (x y : Float) : (x + y).toModel.unpack =
    (Float.Model.pack (.add .binary64 x.toModel.unpack y.toModel.unpack)).unpack := rfl

theorem unpack_mul (x y : Float) : (x * y).toModel.unpack =
    (Float.Model.pack (.mul .binary64 x.toModel.unpack y.toModel.unpack)).unpack := rfl

theorem unpack_div (x y : Float) : (x / y).toModel.unpack =
    (Float.Model.pack (.div .binary64 x.toModel.unpack y.toModel.unpack)).unpack := rfl

theorem IsNumber.infinity_add (hu : IsNumber u q) :
    UnpackedFloat.add .binary64 (.infinity .positive) u = .infinity .positive := by
  cases hu <;> rfl

theorem IsNumber.add_infinity (hu : IsNumber u q) :
    UnpackedFloat.add .binary64 u (.infinity .positive) = .infinity .positive := by
  cases hu <;> rfl

theorem IsNumber.infinity_mul (hu : IsNumber u q) (hq : 0 < q) :
    UnpackedFloat.mul .binary64 (.infinity .positive) u = .infinity .positive := by
  cases hu with
  | zero => exact absurd hq (lt_irrefl 0)
  | finite => rfl

theorem IsNumber.infinity_div (hu : IsNumber u q) (hq : 0 < q) :
    UnpackedFloat.div .binary64 (.infinity .positive) u = .infinity .positive := by
  cases hu with
  | zero => exact absurd hq (lt_irrefl 0)
  | finite => rfl

theorem IsNumber.div_infinity (hu : IsNumber u q) :
    UnpackedFloat.div .binary64 u (.infinity .positive) = .zero .positive := by
  cases hu <;> rfl

theorem IsNumber.not_infinity_le (hu : IsNumber u q) :
    ¬ UnpackedFloat.le (.infinity .positive) u := by
  cases hu <;> exact Bool.false_ne_true

end Infinity

/-! ## Bounds through arithmetic -/

theorem Is.atLeast (hx : Is x q) : AtLeast x q := .inr ⟨q, le_rfl, hx⟩

theorem Is.atMost (hx : Is x q) : AtMost x q := ⟨q, le_rfl, hx⟩

theorem Is.nonneg (hx : Is x q) : 0 ≤ q := IsNumber.nonneg hx

theorem AtLeast.mono (hx : AtLeast x a) (h : b ≤ a) : AtLeast x b :=
  hx.imp_right fun ⟨r, hr, his⟩ => ⟨r, h.trans hr, his⟩

theorem AtMost.exists_is (hx : AtMost x b) (hx' : AtLeast x a) : ∃ q, Is x q ∧ a ≤ q ∧ q ≤ b := by
  obtain ⟨q, hq, his⟩ := hx
  rcases hx' with hinf | ⟨r, hr, his'⟩
  · rw [Is, hinf] at his
    cases his
  · obtain rfl := his.unique his'
    exact ⟨q, his, hr, hq⟩

theorem AtLeast.not_le (hx : AtLeast x a) (hy : Is y b) (h : b < a) : ¬ x ≤ y := by
  rcases hx with hinf | ⟨q, hq, hx⟩
  · intro hle
    have hle : x.toModel.unpack.le y.toModel.unpack := decide_eq_true_iff.1 hle
    rw [hinf] at hle
    exact IsNumber.not_infinity_le hy hle
  · exact fun hle => ((hx.le_iff hy).1 hle).not_gt (h.trans_le hq)

theorem AtLeast.add (hx : AtLeast x a) (hy : AtLeast y b) (hc : IsDouble c) (h : c ≤ a + b) :
    AtLeast (x + y) c := by
  rcases hx with hx | ⟨q, hq, hx⟩
  · refine .inl ?_
    rcases hy with hy | ⟨r, -, hy⟩
    · rw [unpack_add, hx, hy]
      rfl
    · rw [unpack_add, hx, IsNumber.infinity_add hy, unpack_pack_infinity]
  · rcases hy with hy | ⟨r, hr, hy⟩
    · refine .inl ?_
      rw [unpack_add, hy, IsNumber.add_infinity hx, unpack_pack_infinity]
    · exact (hx.rounds_add hy).atLeast hc (by linarith)

theorem AtMost.add (hx : AtMost x a) (hy : AtMost y b) (hc : IsDouble c) (h : a + b ≤ c) :
    AtMost (x + y) c := by
  obtain ⟨q, hq, hx⟩ := hx
  obtain ⟨r, hr, hy⟩ := hy
  exact (hx.rounds_add hy).atMost hc (by linarith)

theorem AtLeast.mul (hx : AtLeast x a) (hy : Is y b) (hb : 0 < b) (hc : IsDouble c)
    (h : c ≤ a * b) : AtLeast (x * y) c := by
  rcases hx with hx | ⟨q, hq, hx⟩
  · refine .inl ?_
    rw [unpack_mul, hx, IsNumber.infinity_mul hy hb, unpack_pack_infinity]
  · exact (hx.rounds_mul hy).atLeast hc (h.trans (mul_le_mul_of_nonneg_right hq hb.le))

theorem AtMost.mul (hx : AtMost x a) (hy : Is y b) (hc : IsDouble c) (h : a * b ≤ c) :
    AtMost (x * y) c := by
  obtain ⟨q, hq, hx⟩ := hx
  exact (hx.rounds_mul hy).atMost hc ((mul_le_mul_of_nonneg_right hq hy.nonneg).trans h)

theorem AtLeast.div (hx : AtLeast x a) (hy : Is y b) (hb : 0 < b) (hc : IsDouble c)
    (h : c ≤ a / b) : AtLeast (x / y) c := by
  rcases hx with hx | ⟨q, hq, hx⟩
  · refine .inl ?_
    rw [unpack_div, hx, IsNumber.infinity_div hy hb, unpack_pack_infinity]
  · exact (hx.rounds_div hy hb).atLeast hc (h.trans (div_le_div_of_nonneg_right hq hb.le))

theorem AtMost.div (hx : AtMost x a) (hy : Is y b) (hb : 0 < b) (hc : IsDouble c)
    (h : a / b ≤ c) : AtMost (x / y) c := by
  obtain ⟨q, hq, hx⟩ := hx
  exact (hx.rounds_div hy hb).atMost hc ((div_le_div_of_nonneg_right hq hb.le).trans h)

/-- A number over one that is bounded from below; over infinity it is zero. -/
theorem Is.div_atLeast (hx : Is x q) (hy : AtLeast y a) (ha : 0 < a) (hc : IsDouble c)
    (h : q / a ≤ c) : AtMost (x / y) c := by
  rcases hy with hy | ⟨r, hr, hy⟩
  · have hzero : Is (x / y) 0 := by
      rw [Is, unpack_div, hy, IsNumber.div_infinity hx, unpack_pack_zero]
      exact .zero
    exact ⟨0, (div_nonneg hx.nonneg ha.le).trans h, hzero⟩
  · have hle : q / r ≤ q / a := div_le_div_of_nonneg_left hx.nonneg ha hr
    exact (hx.rounds_div hy (ha.trans_le hr)).atMost hc (hle.trans h)

/-- A number over one that is bounded from above. -/
theorem Is.div_is_le (hx : Is x q) (hy : Is y b) (hb : 0 < b) (hba : b ≤ a) (hc : IsDouble c)
    (h : c ≤ q / a) : AtLeast (x / y) c := by
  have hle : q / a ≤ q / b := div_le_div_of_nonneg_left hx.nonneg hb hba
  exact (hx.rounds_div hy hb).atLeast hc (h.trans hle)

/-! ## Words -/

theorem Is.abs (hx : Is x q) : Is x.abs q := by
  rw [Is] at hx ⊢
  rw [unpack_abs]
  generalize x.toModel.unpack = u at hx
  cases hx with
  | zero => exact .zero
  | finite hm h => exact .finite hm h

theorem AtLeast.abs (hx : AtLeast x a) : AtLeast x.abs a := by
  rcases hx with hx | ⟨q, hq, hx⟩
  · refine .inl ?_
    rw [unpack_abs, hx]
    rfl
  · exact .inr ⟨q, hq, hx.abs⟩

theorem mul_zpow_eq_div (m : ℕ) (e : ℤ) :
    (m : ℚ) * 2 ^ e = (m * 2 ^ e.toNat : ℕ) / (2 ^ (-e).toNat : ℕ) := by
  have he : e = e.toNat - (-e).toNat := by omega
  conv_lhs => rw [he, zpow_sub₀ two_ne_zero, zpow_natCast, zpow_natCast]
  push_cast
  rw [mul_div_assoc]

/-- A number is cut off behind the point. -/
theorem roundToInt_positive (m : ℕ) (e : ℤ) :
    UnpackedFloat.roundToInt .positive m e = ((m <<< e.toNat / 2 ^ (-e).toNat : ℕ) : ℤ) := by
  rw [UnpackedFloat.roundToInt, UnpackedFloat.decreaseExponent]
  dsimp only
  rw [UnpackedFloat.shiftToExponent]
  dsimp only
  rw [UnpackedFloat.Sign.apply, mantissa_shiftRight, mantissa_ofMantissaAndAccuracy, sub_zero]
  congr 3
  omega

theorem ofNatClamp_ne_zero {n : ℕ} (hn : n ≠ 0) : UInt32.ofNatClamp n ≠ 0 := by
  intro h
  have h := congrArg UInt32.toNat h
  rw [UInt32.ofNatClamp] at h
  split at h
  · exact hn h
  · cases h

/-- One and more gives a positive word, which is the largest one in the end. -/
theorem AtLeast.toUInt32_ne_zero (hx : AtLeast x 1) : x.toUInt32 ≠ 0 := by
  change x.toModel.unpack.toUInt32 ≠ 0
  rcases hx with hx | ⟨q, hq, hx⟩
  · rw [hx]
    decide
  · rw [Is] at hx
    generalize x.toModel.unpack = u at hx
    cases hx with
    | zero => exact absurd hq (by norm_num)
    | @finite m e hm h =>
      rw [mul_zpow_eq_div, one_le_div₀ (Nat.cast_pos.2 (by positivity)), Nat.cast_le] at hq
      refine ofNatClamp_ne_zero ?_
      rw [UnpackedFloat.toInt, roundToInt_positive, Int.toNat_natCast, Nat.shiftLeft_eq]
      exact (Nat.div_pos hq (by positivity)).ne'

/-- Less than a half is rounded to zero. -/
theorem nearestWhole_eq_zero_iff (m : ℕ) (e : ℤ) :
    nearestWhole m e = 0 ↔ (m : ℚ) * 2 ^ e < 1 / 2 := by
  have hpow (k : ℕ) : Nat.pow 2 k = 2 ^ k := rfl
  have hpos : 0 < 2 ^ (-e).toNat := by positivity
  have hhalf : (m : ℚ) * 2 ^ e < 1 / 2 ↔ 2 * (m * 2 ^ e.toNat) < 2 ^ (-e).toNat := by
    rw [mul_zpow_eq_div, div_lt_div_iff₀ (Nat.cast_pos.2 hpos) two_pos, one_mul, mul_comm]
    exact_mod_cast Iff.rfl
  rw [hhalf, nearestWhole]
  split
  · rename_i he
    have hnone : (-e).toNat = 0 := by omega
    rw [hnone, hpow]
    omega
  · rename_i he
    have hnone : e.toNat = 0 := by omega
    rw [hnone, pow_zero, mul_one, hpow]
    generalize 2 ^ (-e).toNat = d at hpos ⊢
    have hzero : 2 * m / d = 0 ↔ 2 * m < d := by
      rw [Nat.div_eq_zero_iff]
      omega
    rw [← hzero]
    generalize 2 * m / d = k
    omega

theorem abs_lt_iff (hx : Is x q) : x.abs < 4503599627370496.0 ↔ q < 2 ^ 52 := by
  have hlimit : Is 4503599627370496.0 (2 ^ 52) :=
    is_of_unpack (m := 2 ^ 52) (e := 0) rfl ⟨by decide, by decide, by decide, by decide⟩
      (by norm_num)
  exact hx.abs.lt_iff hlimit

theorem Is.roundHalfAway_eq (hx : Is x q) (hlt : q < 2 ^ 52) :
    roundHalfAway x = (Float.ofNat (nearestWhole (parts x).1 (parts x).2)).abs := by
  rw [roundHalfAway, if_pos ((abs_lt_iff hx).2 hlt), hx.parts_eq.1]
  rfl

/-- A half and more is rounded to a positive word. -/
theorem AtLeast.toUInt32_roundHalfAway_ne_zero (hx : AtLeast x (1 / 2)) :
    (roundHalfAway x).toUInt32 ≠ 0 := by
  rcases hx with hinf | ⟨q, hq, hx⟩
  · have hlarge : ¬ x.abs < 4503599627370496.0 := fun h => by
      have h : x.abs.toModel.unpack.lt (4503599627370496.0 : Float).toModel.unpack :=
        decide_eq_true_iff.1 h
      rw [unpack_abs, hinf] at h
      cases h
    rw [roundHalfAway, if_neg hlarge]
    exact AtLeast.toUInt32_ne_zero (.inl hinf)
  · rcases lt_or_ge q (2 ^ 52) with hlt | hge
    · have hone : 1 ≤ nearestWhole (parts x).1 (parts x).2 := Nat.one_le_iff_ne_zero.2 fun h => by
        rw [nearestWhole_eq_zero_iff, ← hx.parts_eq.2] at h
        linarith
      rw [hx.roundHalfAway_eq hlt]
      refine ((rounds_ofNat _).atLeast ?_ ?_).abs.toUInt32_ne_zero
      · exact is_one.isDouble
      · exact_mod_cast hone
    · have hlarge : ¬ x.abs < 4503599627370496.0 := fun h => hge.not_gt ((abs_lt_iff hx).1 h)
      rw [roundHalfAway, if_neg hlarge]
      exact (hx.atLeast.mono (le_trans (by norm_num) hge)).toUInt32_ne_zero

theorem AtMost.toUInt32_roundHalfAway_eq_zero (hx : AtMost x a) (ha : a < 1 / 2) :
    (roundHalfAway x).toUInt32 = 0 := by
  obtain ⟨q, hq, hx⟩ := hx
  have hzero : nearestWhole (parts x).1 (parts x).2 = 0 := by
    rw [nearestWhole_eq_zero_iff, ← hx.parts_eq.2]
    exact hq.trans_lt ha
  rw [hx.roundHalfAway_eq (by linarith), hzero]
  decide

end Exact

end ShaderPreview
