import ShaderPreview.Proofs.Number.Rational

/-!
# Rounding to a neighbour

Sums, products and quotients of doubles are rounded: what comes out is a double next to the exact
number, so that it stands on the same side of every double as the exact number does (`Rounds`).
-/

namespace ShaderPreview

open Float.Model (Format UnpackedFloat)
open Float.Model.UnpackedFloat (Accuracy ExtendedMantissa)

namespace Exact

variable {m : ℕ} {e : ℤ} {q r : ℚ} {x y : Float}

/-! ## Digits and what is behind them -/

/-- The digits with the exponent `e` make up `q`, or stop short of it. -/
def Places (digits : ExtendedMantissa) (e : ℤ) (q : ℚ) : Prop :=
  if digits.roundBit || digits.stickyBit then
    digits.mantissa * 2 ^ e < q ∧ q < (digits.mantissa + 1) * 2 ^ e
  else q = digits.mantissa * 2 ^ e

theorem Places.shiftRightOne {digits : ExtendedMantissa} (h : Places digits e q) :
    Places digits.shiftRightOne (e + 1) q := by
  rcases digits with ⟨m, round, sticky⟩
  have hpos := two_zpow_pos e
  have hpow : (2 : ℚ) ^ (e + 1) = 2 * 2 ^ e := by
    rw [zpow_add_one₀ two_ne_zero, mul_comm]
  have hsplit : (m : ℚ) = 2 * (m / 2 : ℕ) + (m % 2 : ℕ) := by
    exact_mod_cast (Nat.div_add_mod m 2).symm
  simp only [Places, ExtendedMantissa.shiftRightOne, hpow] at h ⊢
  generalize (2 : ℚ) ^ e = p at h hpos
  rcases hlast : m % 2 with _ | _ | n
  · rw [hlast, Nat.cast_zero] at hsplit
    cases hbehind : round || sticky
    · rw [hbehind, if_neg Bool.false_ne_true] at h
      rw [if_neg (by simp), h, hsplit]
      ring
    · rw [hbehind, if_pos rfl, hsplit] at h
      rw [if_pos (by simp)]
      constructor <;> linarith
  · rw [hlast, zero_add, Nat.cast_one] at hsplit
    rw [if_pos (by simp)]
    cases hbehind : round || sticky
    · rw [hbehind, if_neg Bool.false_ne_true, hsplit] at h
      constructor <;> linarith
    · rw [hbehind, if_pos rfl, hsplit] at h
      constructor <;> linarith
  · omega

theorem shiftRight_succ (digits : ExtendedMantissa) (n : ℕ) :
    digits >>> (n + 1) = (digits >>> n).shiftRightOne := rfl

theorem Places.shiftRight {digits : ExtendedMantissa} (h : Places digits e q) (n : ℕ) :
    Places (digits >>> n) (e + n) q := by
  induction n with
  | zero =>
    rw [Nat.cast_zero, add_zero]
    exact h
  | succ n ih =>
    rw [shiftRight_succ, Nat.cast_succ, ← add_assoc]
    exact ih.shiftRightOne

theorem mantissa_shiftRight (digits : ExtendedMantissa) (n : ℕ) :
    (digits >>> n).mantissa = digits.mantissa / 2 ^ n := by
  induction n with
  | zero => exact (Nat.div_one _).symm
  | succ n ih =>
    rw [shiftRight_succ, pow_succ, ← Nat.div_div_eq_div_mul, ← ih]
    rfl

theorem roundedMantissa_cases (digits : ExtendedMantissa) :
    digits.roundedMantissa = digits.mantissa ∨
      digits.roundedMantissa = digits.mantissa + 1 := by
  rcases digits with ⟨m, _ | _, _ | _⟩
  · exact .inl rfl
  · exact .inl rfl
  · rcases Nat.mod_two_eq_zero_or_one m with h | h
    · exact .inl (congrArg (m + ·) h)
    · exact .inr (congrArg (m + ·) h)
  · exact .inr rfl

/-- Digits are rounded to themselves, or to their successor if something is behind them. -/
theorem Places.roundedMantissa {digits : ExtendedMantissa} (h : Places digits e q) :
    (q = digits.mantissa * 2 ^ e ∧ digits.roundedMantissa = digits.mantissa) ∨
      (digits.mantissa * 2 ^ e < q ∧ q < (digits.mantissa + 1) * 2 ^ e) := by
  rcases digits with ⟨m, _ | _, _ | _⟩
  · exact .inl ⟨h, rfl⟩
  all_goals exact .inr h

/-! ## Neighbours -/

/-- A rational number that is a double. -/
def IsDouble (q : ℚ) : Prop :=
  ∃ (m : ℕ) (e : ℤ), m < 2 ^ 53 ∧ -1074 ≤ e ∧ e ≤ 971 ∧ q = m * 2 ^ e

theorem Is.isDouble (hx : Is x q) : IsDouble q := by
  rw [Is] at hx
  generalize x.toModel.unpack = u at hx
  cases hx with
  | zero => exact ⟨0, 0, by decide, by decide, by decide, by simp⟩
  | @finite m e _ h => exact ⟨m, e, h.lt, h.lowest, h.highest, rfl⟩

/-- Twice a double that is not among the largest is a double. -/
theorem IsDouble.two_mul (hq : IsDouble q) (h : q < 2 ^ (971 : ℤ)) : IsDouble (2 * q) := by
  obtain ⟨m, e, hm, hlowest, hhighest, rfl⟩ := hq
  rcases Nat.eq_zero_or_pos m with rfl | hpos
  · exact ⟨0, 0, by decide, by decide, by decide, by simp⟩
  · refine ⟨m, e + 1, hm, by omega, ?_, ?_⟩
    · have hone : (1 : ℚ) ≤ m := by exact_mod_cast hpos
      have hlt : (2 : ℚ) ^ e < 2 ^ (971 : ℤ) :=
        (le_mul_of_one_le_left (two_zpow_pos e).le hone).trans_lt h
      have := (zpow_lt_zpow_iff_right₀ one_lt_two).1 hlt
      omega
    · rw [zpow_add_one₀ two_ne_zero]
      ring

/-- Rounded digits are on the same side of every double as the number. -/
theorem Places.le_iff {digits : ExtendedMantissa} (h : Places digits e q)
    (hfull : 2 ^ 52 ≤ digits.mantissa ∨ e = -1074) (hr : IsDouble r) :
    (r ≤ q → r ≤ digits.roundedMantissa * 2 ^ e) ∧
      (q ≤ r → digits.roundedMantissa * 2 ^ e ≤ r) := by
  obtain ⟨n, f, hn, hf, -, rfl⟩ := hr
  have hpos := two_zpow_pos e
  have hround := roundedMantissa_cases digits
  rcases le_or_gt e f with hef | hfe
  · -- the double is a multiple of the last place
    obtain ⟨k, rfl⟩ : ∃ k : ℕ, f = e + k := ⟨(f - e).toNat, by omega⟩
    rw [two_zpow_add, ← mul_assoc, show (n : ℚ) * 2 ^ k = (n * 2 ^ k : ℕ) by push_cast; rfl]
    generalize n * 2 ^ k = c
    rcases h.roundedMantissa with ⟨hq, hexact⟩ | ⟨hlow, hhigh⟩
    · rw [hexact, ← hq]
      exact ⟨id, id⟩
    · constructor
      · intro hcq
        have hlt : (c : ℚ) < (digits.mantissa + 1 : ℕ) := by
          push_cast
          exact lt_of_mul_lt_mul_right (hcq.trans_lt hhigh) hpos.le
        have hc : c ≤ digits.roundedMantissa := by
          have := Nat.cast_lt.1 hlt
          omega
        exact mul_le_mul_of_nonneg_right (Nat.cast_le.2 hc) hpos.le
      · intro hqc
        have hlt : (digits.mantissa : ℚ) < c :=
          lt_of_mul_lt_mul_right (hlow.trans_le hqc) hpos.le
        have hc : digits.roundedMantissa ≤ c := by
          have := Nat.cast_lt.1 hlt
          omega
        exact mul_le_mul_of_nonneg_right (Nat.cast_le.2 hc) hpos.le
  · -- the double is too small
    have hm : 2 ^ 52 ≤ digits.mantissa := hfull.resolve_right (by omega)
    have hsmall := mul_zpow_lt hn hm hfe
    rcases h.roundedMantissa with ⟨hq, hexact⟩ | ⟨hlow, -⟩
    · rw [hexact, ← hq]
      exact ⟨id, id⟩
    · refine ⟨fun _ => ?_, fun hqr => absurd hqr (hsmall.trans hlow).not_ge⟩
      have hle : digits.mantissa ≤ digits.roundedMantissa := by omega
      exact hsmall.le.trans (mul_le_mul_of_nonneg_right (Nat.cast_le.2 hle) hpos.le)

/-! ## Rounded digits -/

theorem targetExponent_eq (m : ℕ) (e : ℤ) :
    Format.binary64.targetExponent (Float.Model.totalExponent m e) =
      max (m.log2 + e - 52) (-1074) := by
  rw [Format.targetExponent, Float.Model.totalExponent,
    show (Format.binary64.mantissaBits : ℤ) = 53 from rfl,
    show Format.binary64.minExponent = -1074 from rfl]
  congr 1
  omega

theorem shiftToTargetExponent_eq (m : ℕ) (e : ℤ) (a : Accuracy) :
    UnpackedFloat.shiftToTargetExponent Format.binary64 m e a =
      (ExtendedMantissa.ofMantissaAndAccuracy m a >>> (max (m.log2 + e - 52) (-1074) - e).toNat,
        e + (max (m.log2 + e - 52) (-1074) - e).toNat) := by
  rw [← targetExponent_eq]
  rfl

theorem mantissa_ofMantissaAndAccuracy (m : ℕ) (a : Accuracy) :
    (ExtendedMantissa.ofMantissaAndAccuracy m a).mantissa = m := by
  rcases a with _ | _ | _ | _ <;> rfl

/-- Digits that fit stay as they are; those of a full power of two lose one place. -/
theorem shiftToTargetExponent_of_le {m : ℕ} (hm : m ≤ 2 ^ 53) (he : -1074 ≤ e) :
    UnpackedFloat.shiftToTargetExponent Format.binary64 m e .exact =
      if m < 2 ^ 53 then (⟨m, false, false⟩, e) else (⟨2 ^ 52, false, false⟩, e + 1) := by
  rw [shiftToTargetExponent_eq]
  split
  · rename_i hlt
    have hlog : m.log2 < 53 := by
      rcases Nat.eq_zero_or_pos m with rfl | hpos
      · decide
      · exact (Nat.log2_lt hpos.ne').2 hlt
    have hnone : (max (m.log2 + e - 52) (-1074) - e).toNat = 0 := by omega
    rw [hnone, Nat.cast_zero, add_zero]
    rfl
  · obtain rfl : m = 2 ^ 53 := by omega
    have hone : (max (((2 ^ 53).log2 : ℕ) + e - 52) (-1074) - e).toNat = 1 := by
      rw [Nat.log2_two_pow]
      omega
    rw [hone]
    rfl

/-- The digits and the exponent of a result before it is rounded.  They have at least as many places
as a double. -/
structure Digits (digits : ExtendedMantissa) (e : ℤ) : Prop where
  lt : digits.mantissa < 2 ^ 53
  lowest : -1074 ≤ e
  full : 2 ^ 52 ≤ digits.mantissa ∨ e = -1074

theorem digits_shiftToTargetExponent {a : Accuracy} (h : 52 ≤ m.log2 ∨ e ≤ -1074) :
    Digits (UnpackedFloat.shiftToTargetExponent Format.binary64 m e a).1
      (UnpackedFloat.shiftToTargetExponent Format.binary64 m e a).2 := by
  rw [shiftToTargetExponent_eq]
  generalize hk : (max ((m.log2 : ℤ) + e - 52) (-1074) - e).toNat = k
  refine ⟨?_, by omega, ?_⟩
  · rw [mantissa_shiftRight, mantissa_ofMantissaAndAccuracy,
      Nat.div_lt_iff_lt_mul (by positivity), ← pow_add]
    exact Nat.lt_log2_self.trans_le (Nat.pow_le_pow_right two_pos (by omega))
  · rw [mantissa_shiftRight, mantissa_ofMantissaAndAccuracy, Nat.le_div_iff_mul_le (by positivity),
      ← pow_add]
    by_cases hlowest : e + k = -1074
    · exact .inr hlowest
    · refine .inl ?_
      have hm : m ≠ 0 := by
        rintro rfl
        rw [show Nat.log2 0 = 0 from by decide] at *
        omega
      exact (Nat.pow_le_pow_right two_pos (by omega)).trans (Nat.log2_self_le hm)

/-- A result whose digits are rounded: where they overflow by one they lose a place. -/
def carried (m : ℕ) (e : ℤ) : UnpackedFloat :=
  if h : m = 0 then .zero .positive
  else if m < 2 ^ 53 then .finite .positive m e (Nat.pos_of_ne_zero h)
  else .finite .positive (2 ^ 52) (e + 1) (by decide)

theorem roundWithAccuracy_eq {a : Accuracy} (h : 52 ≤ m.log2 ∨ e ≤ -1074) :
    UnpackedFloat.roundWithAccuracy Format.binary64 .positive m e a =
      carried (UnpackedFloat.shiftToTargetExponent Format.binary64 m e a).1.roundedMantissa
        (UnpackedFloat.shiftToTargetExponent Format.binary64 m e a).2 := by
  have hd := digits_shiftToTargetExponent (a := a) h
  rw [UnpackedFloat.roundWithAccuracy]
  generalize UnpackedFloat.shiftToTargetExponent Format.binary64 m e a = p at hd ⊢
  rcases p with ⟨digits, t⟩
  have hround := roundedMantissa_cases digits
  have hlt : digits.mantissa < 2 ^ 53 := hd.lt
  have hle : digits.roundedMantissa ≤ 2 ^ 53 := by omega
  dsimp only
  rw [shiftToTargetExponent_of_le hle hd.lowest, carried]
  by_cases hlt : digits.roundedMantissa < 2 ^ 53
  · simp only [if_pos hlt]
  · have hne : digits.roundedMantissa ≠ 0 := by omega
    simp only [if_neg hlt, dif_neg hne]
    rfl

/-! ## Rounded results -/

/-- The double is infinite, or a number and at least `q`. -/
def AtLeast (x : Float) (q : ℚ) : Prop :=
  x.toModel.unpack = .infinity .positive ∨ ∃ r, q ≤ r ∧ Is x r

/-- The double is a number and at most `q`. -/
def AtMost (x : Float) (q : ℚ) : Prop := ∃ r, r ≤ q ∧ Is x r

/-- The double is on the same side of every double as the number `q`. -/
structure Rounds (x : Float) (q : ℚ) : Prop where
  atLeast : ∀ {r}, IsDouble r → r ≤ q → AtLeast x r
  atMost : ∀ {r}, IsDouble r → q ≤ r → AtMost x r

theorem Is.rounds (hx : Is x q) : Rounds x q :=
  ⟨fun _ hr => .inr ⟨q, hr, hx⟩, fun _ hr => ⟨q, hr, hx⟩⟩

/-- Rounded digits that do not fit stand for infinity, and are above all doubles. -/
theorem is_carried (hm : m ≤ 2 ^ 53) (he : -1074 ≤ e) (hfull : 2 ^ 52 ≤ m ∨ e = -1074) :
    Is (.ofModel (.pack (carried m e))) (m * 2 ^ e) ∨
      (Float.Model.pack (carried m e)).unpack = .infinity .positive ∧
        ∀ r, IsDouble r → r < m * 2 ^ e := by
  have hcarry : (2 : ℚ) ^ 53 * 2 ^ e = (2 ^ 52 : ℕ) * 2 ^ (e + 1) := by
    rw [zpow_add_one₀ two_ne_zero]
    push_cast
    ring
  rw [carried]
  split
  · rename_i hzero
    rw [hzero, Nat.cast_zero, zero_mul]
    exact .inl .zero
  · split
    · rename_i hpos hlt
      rcases le_or_gt e 971 with hfits | hlarge
      · have h : IsParts m e := ⟨hlt, he, hfits, fun hm => hfull.resolve_left (by omega)⟩
        exact .inl (is_of_unpack (unpack_pack_of_isParts .positive _ h) h rfl)
      · refine .inr ⟨unpack_pack_of_lt .positive _ hlarge, ?_⟩
        rintro r ⟨n, f, hn, -, hf, rfl⟩
        exact mul_zpow_lt hn (hfull.resolve_right (by omega)) (by omega)
    · obtain rfl : m = 2 ^ 53 := by omega
      rw [Nat.cast_pow, Nat.cast_ofNat, hcarry]
      rcases le_or_gt (e + 1) 971 with hfits | hlarge
      · have h : IsParts (2 ^ 52) (e + 1) :=
          ⟨by decide, by omega, hfits, fun hm => absurd hm (lt_irrefl _)⟩
        exact .inl (is_of_unpack (unpack_pack_of_isParts .positive _ h) h rfl)
      · refine .inr ⟨unpack_pack_of_lt .positive _ hlarge, ?_⟩
        rintro r ⟨n, f, hn, -, hf, rfl⟩
        exact mul_zpow_lt hn le_rfl (by omega)

/-- A result is rounded to a neighbour of the number that its digits stand for. -/
theorem rounds_roundWithAccuracy {a : Accuracy} (h : 52 ≤ m.log2 ∨ e ≤ -1074)
    (hq : Places (ExtendedMantissa.ofMantissaAndAccuracy m a) e q) :
    Rounds (.ofModel (.pack
      (UnpackedFloat.roundWithAccuracy Format.binary64 .positive m e a))) q := by
  have hd := digits_shiftToTargetExponent (a := a) h
  have hplaces : Places (UnpackedFloat.shiftToTargetExponent Format.binary64 m e a).1
      (UnpackedFloat.shiftToTargetExponent Format.binary64 m e a).2 q := by
    rw [shiftToTargetExponent_eq]
    exact hq.shiftRight _
  rw [roundWithAccuracy_eq h]
  generalize UnpackedFloat.shiftToTargetExponent Format.binary64 m e a = p at hd hplaces ⊢
  rcases p with ⟨digits, t⟩
  have hround := roundedMantissa_cases digits
  obtain ⟨hlt, hlowest, hfull⟩ : Digits digits t := hd
  have hside {r : ℚ} (hr : IsDouble r) := hplaces.le_iff hfull hr
  replace hfull : 2 ^ 52 ≤ digits.roundedMantissa ∨ t = -1074 := hfull.imp_left (by omega)
  rcases is_carried (by omega) hlowest hfull with his | ⟨hinf, habove⟩
  · exact ⟨fun hr hrq => .inr ⟨_, (hside hr).1 hrq, his⟩,
      fun hr hqr => ⟨_, (hside hr).2 hqr, his⟩⟩
  · exact ⟨fun _ _ => .inl hinf,
      fun hr hqr => absurd ((hside hr).2 hqr) (habove _ hr).not_ge⟩

/-! ## Arithmetic -/

theorem IsParts.le_log2_or (h : IsParts m e) (hm : 0 < m) : 52 ≤ m.log2 ∨ e = -1074 := by
  by_cases hfull : 2 ^ 52 ≤ m
  · exact .inl ((Nat.le_log2 hm.ne').2 hfull)
  · exact .inr (h.leading (not_le.1 hfull))

theorem IsNumber.is_pack {u : UnpackedFloat} (hu : IsNumber u q) :
    Is (.ofModel (.pack u)) q := by
  cases hu with
  | zero => exact .zero
  | finite hm h => exact is_of_unpack (unpack_pack_of_isParts .positive hm h) h rfl

theorem rounds_mul_finite {k : ℕ} {f : ℤ} (hm : 0 < m) (hk : 0 < k)
    (h : 52 ≤ m.log2 + k.log2 ∨ e + f ≤ -1074) :
    Rounds (.ofModel (.pack (UnpackedFloat.mul Format.binary64 (.finite .positive m e hm)
      (.finite .positive k f hk)))) (m * 2 ^ e * (k * 2 ^ f)) := by
  refine rounds_roundWithAccuracy (a := .exact) ?_ ?_
  · have hle : m.log2 + k.log2 ≤ (m * k).log2 := by
      rw [Nat.le_log2 (Nat.mul_pos hm hk).ne', pow_add]
      exact Nat.mul_le_mul (Nat.log2_self_le hm.ne') (Nat.log2_self_le hk.ne')
    exact h.imp_left hle.trans'
  · change (m : ℚ) * 2 ^ e * (k * 2 ^ f) = (m * k : ℕ) * 2 ^ (e + f)
    rw [zpow_add₀ two_ne_zero]
    push_cast
    ring

/-- The product of two numbers is rounded. -/
theorem Is.rounds_mul (hx : Is x q) (hy : Is y r) : Rounds (x * y) (q * r) := by
  change Rounds (.ofModel (.pack
    (UnpackedFloat.mul Format.binary64 x.toModel.unpack y.toModel.unpack))) (q * r)
  rw [Is] at hx hy
  generalize x.toModel.unpack = u at hx
  generalize y.toModel.unpack = v at hy
  cases hx with
  | zero =>
    rw [zero_mul]
    cases hy with
    | zero => exact (IsNumber.is_pack .zero).rounds
    | finite hm h => exact (IsNumber.is_pack .zero).rounds
  | @finite m e hm h =>
    cases hy with
    | zero =>
      rw [mul_zero]
      exact (IsNumber.is_pack .zero).rounds
    | @finite m' e' hm' h' =>
      have hfull := h.le_log2_or hm
      have hfull' := h'.le_log2_or hm'
      exact rounds_mul_finite hm hm' (by omega)

theorem log2_shiftLeft (hm : 0 < m) (k : ℕ) : (m <<< k).log2 = m.log2 + k := by
  have hle := Nat.log2_self_le hm.ne'
  have hlt := Nat.lt_log2_self (n := m)
  have hpos : 0 < m <<< k := by
    rw [Nat.shiftLeft_eq]
    positivity
  rw [Nat.log2_eq_iff hpos.ne', Nat.shiftLeft_eq, pow_add, show m.log2 + k + 1 = m.log2 + 1 + k by
    omega, pow_add]
  exact ⟨Nat.mul_le_mul_right _ hle, Nat.mul_lt_mul_of_pos_right hlt (by positivity)⟩

theorem shiftLeft_mul_zpow (m k : ℕ) (e : ℤ) :
    ((m <<< k : ℕ) : ℚ) * 2 ^ (e - k) = m * 2 ^ e := by
  rw [Nat.shiftLeft_eq, zpow_sub₀ two_ne_zero, zpow_natCast]
  push_cast
  field_simp

/-- A whole multiple of a power of two is rounded. -/
theorem rounds_normalize {n : ℤ} (hn : 0 < n) (e : ℤ) :
    Rounds (.ofModel (.pack (UnpackedFloat.normalize Format.binary64 n e .positive)))
      (n * 2 ^ e) := by
  obtain ⟨m, rfl⟩ : ∃ m : ℕ, n = m := ⟨n.toNat, by omega⟩
  have hm : 0 < m := Int.natCast_pos.1 hn
  rw [UnpackedFloat.normalize, show compare (m : ℤ) 0 = .gt from compare_gt_iff_gt.2 hn]
  dsimp only
  rw [Int.toNat_natCast, UnpackedFloat.round, UnpackedFloat.decreaseExponent, targetExponent_eq]
  refine rounds_roundWithAccuracy (a := .exact) ?_ ?_
  · rw [log2_shiftLeft hm]
    omega
  · exact (shiftLeft_mul_zpow m _ e).symm

/-- Digits are moved to a lesser exponent. -/
theorem shiftLeft_toNat_mul_zpow (m : ℕ) {e f : ℤ} (hf : f ≤ e) :
    ((m <<< (e - f).toNat : ℕ) : ℚ) * 2 ^ f = m * 2 ^ e := by
  have h := shiftLeft_mul_zpow m (e - f).toNat e
  rwa [show e - (e - f).toNat = f by omega] at h

/-- The sum of two numbers is rounded. -/
theorem Is.rounds_add (hx : Is x q) (hy : Is y r) : Rounds (x + y) (q + r) := by
  change Rounds (.ofModel (.pack
    (UnpackedFloat.add Format.binary64 x.toModel.unpack y.toModel.unpack))) (q + r)
  rw [Is] at hx hy
  generalize x.toModel.unpack = u at hx
  generalize y.toModel.unpack = v at hy
  cases hx with
  | zero =>
    rw [zero_add]
    cases hy with
    | zero => exact (IsNumber.is_pack .zero).rounds
    | finite hm h => exact (IsNumber.is_pack (.finite hm h)).rounds
  | @finite m e hm h =>
    cases hy with
    | zero =>
      rw [add_zero]
      exact (IsNumber.is_pack (.finite hm h)).rounds
    | @finite m' e' hm' h' =>
      rw [← shiftLeft_toNat_mul_zpow m (min_le_left e e'),
        ← shiftLeft_toNat_mul_zpow m' (min_le_right e e'), ← add_mul]
      have hpos : 0 < (m <<< (e - min e e').toNat : ℤ) + (m' <<< (e' - min e e').toNat : ℕ) := by
        simp only [Nat.shiftLeft_eq]
        positivity
      have h := rounds_normalize hpos (min e e')
      rwa [Int.cast_add, Int.cast_natCast, Int.cast_natCast] at h

/-! ### Quotients -/

theorem places_accuracyOfFraction (n : ℕ) {d : ℕ} (hd : 0 < d) (e : ℤ) :
    Places (ExtendedMantissa.ofMantissaAndAccuracy (n / d)
      (UnpackedFloat.accuracyOfFraction (n % d) d)) e ((n : ℚ) / d * 2 ^ e) := by
  have hpos := two_zpow_pos e
  have hd' : (0 : ℚ) < d := Nat.cast_pos.2 hd
  have hsplit : (n : ℚ) = d * (n / d : ℕ) + (n % d : ℕ) := by
    exact_mod_cast (Nat.div_add_mod n d).symm
  have hquot : (n : ℚ) / d = (n / d : ℕ) + (n % d : ℕ) / d := by
    rw [hsplit]
    field_simp
  rw [hquot, UnpackedFloat.accuracyOfFraction]
  split
  · rename_i hzero
    rw [hzero, Nat.cast_zero, zero_div, add_zero]
    rfl
  · rename_i hrest
    have hlow : (0 : ℚ) < (n % d : ℕ) / d := by
      have : (0 : ℚ) < (n % d : ℕ) := Nat.cast_pos.2 (Nat.pos_of_ne_zero hrest)
      positivity
    have hhigh : ((n % d : ℕ) : ℚ) / d < 1 := by
      rw [div_lt_one hd']
      exact Nat.cast_lt.2 (Nat.mod_lt n hd)
    have hbetween : ((n / d : ℕ) : ℚ) * 2 ^ e < ((n / d : ℕ) + (n % d : ℕ) / d) * 2 ^ e ∧
        ((n / d : ℕ) + (n % d : ℕ) / d) * 2 ^ e < (((n / d : ℕ) : ℚ) + 1) * 2 ^ e :=
      ⟨mul_lt_mul_of_pos_right (by linarith) hpos, mul_lt_mul_of_pos_right (by linarith) hpos⟩
    cases compare (2 * (n % d)) d <;> exact hbetween

/-- A quotient is worked out to as many places as a double has. -/
theorem le_log2_div (hm : 0 < m) {m' : ℕ} (hm' : 0 < m') {k : ℕ} (hk : m'.log2 + 53 ≤ m.log2 + k) :
    52 ≤ ((m <<< k) / m').log2 := by
  have hpow : 2 ^ (m'.log2 + 53) ≤ m <<< k := by
    rw [Nat.shiftLeft_eq]
    calc 2 ^ (m'.log2 + 53) ≤ 2 ^ (m.log2 + k) := Nat.pow_le_pow_right two_pos hk
      _ = 2 ^ m.log2 * 2 ^ k := pow_add _ _ _
      _ ≤ m * 2 ^ k := Nat.mul_le_mul_right _ (Nat.log2_self_le hm.ne')
  have hquot : 2 ^ 52 ≤ (m <<< k) / m' := by
    rw [Nat.le_div_iff_mul_le hm']
    calc 2 ^ 52 * m' ≤ 2 ^ 52 * 2 ^ (m'.log2 + 1) :=
          Nat.mul_le_mul_left _ Nat.lt_log2_self.le
      _ = 2 ^ (m'.log2 + 53) := by
          rw [← pow_add]
          congr 1
          omega
      _ ≤ m <<< k := hpow
  have hpos : 0 < (m <<< k) / m' := lt_of_lt_of_le (by positivity) hquot
  exact (Nat.le_log2 hpos.ne').2 hquot

theorem divCore_eq (m : ℕ) (e : ℤ) (m' : ℕ) (e' : ℤ) :
    ∃ t ≤ max ((m.log2 : ℤ) + e - (m'.log2 + e') - 53) (-1074), t ≤ e - e' ∧
      UnpackedFloat.divCore Format.binary64 m e m' e' =
        (m <<< (e - e' - t).toNat / m', t,
          UnpackedFloat.accuracyOfFraction (m <<< (e - e' - t).toNat % m') m') := by
  refine ⟨_, ?_, ?_, rfl⟩
  · refine (min_le_right _ _).trans (le_of_eq ?_)
    rw [Format.targetExponent, show (Format.binary64.mantissaBits : ℤ) = 53 from rfl,
      show Format.binary64.minExponent = -1074 from rfl, Float.Model.totalExponent,
      Float.Model.totalExponent]
    congr 1
    omega
  · exact min_le_left _ _

/-- The quotient of two numbers is rounded. -/
theorem Is.rounds_div (hx : Is x q) (hy : Is y r) (hr : 0 < r) : Rounds (x / y) (q / r) := by
  change Rounds (.ofModel (.pack
    (UnpackedFloat.div Format.binary64 x.toModel.unpack y.toModel.unpack))) (q / r)
  rw [Is] at hx hy
  generalize x.toModel.unpack = u at hx
  generalize y.toModel.unpack = v at hy
  cases hy with
  | zero => exact absurd hr (lt_irrefl 0)
  | @finite m' e' hm' h' =>
    cases hx with
    | zero =>
      rw [zero_div]
      exact (IsNumber.is_pack .zero).rounds
    | @finite m e hm h =>
      obtain ⟨t, htarget, hle, hcore⟩ := divCore_eq m e m' e'
      rw [UnpackedFloat.div, hcore]
      refine rounds_roundWithAccuracy ?_ ?_
      · by_cases ht : t ≤ -1074
        · exact .inr ht
        · exact .inl (le_log2_div hm hm' (by omega))
      · have hquot : (m : ℚ) * 2 ^ e / (m' * 2 ^ e') =
            (m <<< (e - e' - t).toNat : ℕ) / m' * 2 ^ t := by
          have h := shiftLeft_toNat_mul_zpow m hle
          rw [div_mul_eq_mul_div, h, zpow_sub₀ two_ne_zero]
          field_simp
        rw [hquot]
        exact places_accuracyOfFraction _ hm' t

/-! ### Whole numbers -/

theorem Rounds.is (h : Rounds x q) (hq : IsDouble q) : Is x q := by
  obtain ⟨r, hr, hx⟩ := h.atMost hq le_rfl
  rcases h.atLeast hq le_rfl with hinf | ⟨r', hr', hx'⟩
  · rw [Is, hinf] at hx
    cases hx
  · obtain rfl := hx.unique hx'
    rwa [le_antisymm hr' hr]

theorem isDouble_natCast {n : ℕ} (hn : n < 2 ^ 53) : IsDouble n :=
  ⟨n, 0, hn, by decide, by decide, by simp⟩

theorem is_one : Is (Float.ofBits 0x3FF0000000000000) 1 :=
  is_of_unpack (m := 2 ^ 52) (e := -52) rfl ⟨by decide, by decide, by decide, by decide⟩
    (by norm_num)

theorem is_two : Is 2.0 2 :=
  is_of_unpack (m := 2 ^ 52) (e := -51) rfl ⟨by decide, by decide, by decide, by decide⟩
    (by norm_num)

theorem is_thousand : Is 1000.0 1000 :=
  is_of_unpack (m := 1000 * 2 ^ 43) (e := -43) rfl
    ⟨by decide, by decide, by decide, by decide⟩ (by norm_num)

theorem rounds_toFloat (n : UInt64) : Rounds n.toFloat n.toNat := by
  rcases Nat.eq_zero_or_pos n.toNat with hzero | hpos
  · obtain rfl : n = 0 := UInt64.toNat_inj.1 hzero
    exact is_zero.rounds
  · have h := rounds_normalize (Int.natCast_pos.2 hpos) 0
    rw [zpow_zero, mul_one, Int.cast_natCast] at h
    exact h

/-- The double of a whole number is rounded. -/
theorem rounds_ofNat (n : ℕ) : Rounds (Float.ofNat n) n := by
  change Rounds (Float.ofScientific n false 0) n
  rw [Float.ofScientific]
  split
  · rename_i h
    have hn : n.toUInt64.toNat = n := by
      rw [Nat.toUInt64_eq, UInt64.toNat_ofNat']
      omega
    have hx := (rounds_toFloat n.toUInt64).is (isDouble_natCast (by rw [hn]; exact h.1))
    have hmul := hx.rounds_mul is_one
    rw [hn, mul_one] at hmul
    exact hmul
  · rename_i h
    have hpos : 0 < n := by omega
    have hlarge : ¬ (0 : ℤ) > 2 ^ 11 := by decide
    have hsmall : ¬ (0 : ℤ) < -(2 ^ 11 + n.log2) := by omega
    have hshift : 0 < n <<< 53 := by
      rw [Nat.shiftLeft_eq]
      positivity
    have hvalue : ((n <<< 53 : ℕ) : ℚ) * 2 ^ (-53 : ℤ) * ((1 : ℕ) * 2 ^ (0 : ℤ)) = n := by
      rw [Nat.shiftLeft_eq, zpow_neg]
      push_cast
      field_simp
    have hround := rounds_mul_finite (e := -53) (f := 0) hshift one_pos (by
      rw [log2_shiftLeft hpos]
      omega)
    rw [hvalue] at hround
    change Rounds (.ofModel (.pack (UnpackedFloat.ofScientific Format.binary64 n 0))) n
    rw [UnpackedFloat.ofScientific, dif_neg hpos.ne', if_neg hlarge, if_neg hsmall,
      if_pos le_rfl]
    exact hround

end Exact

end ShaderPreview
