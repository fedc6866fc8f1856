import ShaderPreview.Proofs.Number.Bounds
import ShaderPreview.Telemetry.Probe

/-!
# The one rate of a probe

Only the tenth tick can tell a refresh rate, and behind it the probe stays as it is.  The rate that
was told stays known where the first ten ticks took 18 seconds at most.  Ticks that are slower than
that make less than half a tick in a second: the rate told is then zero, which counts as none ever
after.

The bounds behind this are carried through the calculation of the rate from the nanoseconds on.
-/

namespace ShaderPreview

open Exact (Is IsDouble AtLeast AtMost)

/-! ## Bounds of a span -/

namespace Exact

theorem is_perSecond : Is 1e9 1000000000 :=
  is_of_unpack (m := 1000000000 * 2 ^ 23) (e := -23) rfl
    ⟨by decide, by decide, by decide, by decide⟩ (by norm_num)

/-- A whole number with a single one in the place `j` behind the point. -/
theorem isDouble_add_place {n j : ℕ} (hn : n * 2 ^ j + 1 < 2 ^ 53) (hj : j ≤ 1074) :
    IsDouble (n + 2 ^ (-j : ℤ)) := by
  refine ⟨n * 2 ^ j + 1, -j, hn, by omega, by omega, ?_⟩
  rw [zpow_neg, zpow_natCast]
  push_cast
  field_simp

end Exact

namespace Span

variable {s : Span} {k : ℕ}

theorem nanos_eq (s : Span) :
    1000000000 * s.wholeSeconds + s.restNanos = s.nanos ∧ s.restNanos < 1000000000 :=
  ⟨Nat.div_add_mod _ _, Nat.mod_lt _ (by decide)⟩

theorem rounds_restNanos (s : Span) :
    Exact.Rounds (Float.ofNat s.restNanos / 1e9) (s.restNanos / 1000000000) := by
  have hlt := s.nanos_eq.2
  have hrest : Is (Float.ofNat s.restNanos) s.restNanos :=
    (Exact.rounds_ofNat _).is (Exact.isDouble_natCast (by omega))
  exact hrest.rounds_div Exact.is_perSecond (by norm_num)

theorem atLeast_seconds (hk : k ≤ 18) (h : k * perSecond < s.nanos) :
    AtLeast s.seconds (k + 2 ^ (-30 : ℤ)) := by
  have hdouble : IsDouble (k + 2 ^ (-30 : ℤ)) :=
    Exact.isDouble_add_place (j := 30) (by omega) (by decide)
  obtain ⟨hsplit, hlt⟩ := s.nanos_eq
  rw [perSecond] at h
  by_cases hwhole : k < s.wholeSeconds
  · have hle : ((k + 1 : ℕ) : ℚ) ≤ s.wholeSeconds := Nat.cast_le.2 hwhole
    have hseconds : AtLeast (Float.ofNat s.wholeSeconds) (k + 1 : ℕ) :=
      (Exact.rounds_ofNat _).atLeast (Exact.isDouble_natCast (by omega)) hle
    have hrest : AtLeast (Float.ofNat s.restNanos / 1e9) 0 :=
      s.rounds_restNanos.atLeast Exact.is_zero.isDouble (by positivity)
    refine hseconds.add hrest hdouble ?_
    push_cast
    norm_num
  · have hle : (k : ℚ) ≤ s.wholeSeconds := Nat.cast_le.2 (by omega)
    have hone : (1 : ℚ) ≤ s.restNanos := by exact_mod_cast (by omega : 1 ≤ s.restNanos)
    have hseconds : AtLeast (Float.ofNat s.wholeSeconds) k :=
      (Exact.rounds_ofNat _).atLeast (Exact.isDouble_natCast (by omega)) hle
    have hrest : AtLeast (Float.ofNat s.restNanos / 1e9) (2 ^ (-30 : ℤ)) := by
      refine s.rounds_restNanos.atLeast ⟨1, -30, by decide, by decide, by decide, by simp⟩ ?_
      rw [le_div_iff₀ (by norm_num)]
      refine le_trans ?_ hone
      norm_num
    exact hseconds.add hrest hdouble le_rfl

theorem atMost_seconds (hk : k ≤ 18) (h : s.nanos ≤ k * perSecond) : AtMost s.seconds k := by
  obtain ⟨hsplit, hlt⟩ := s.nanos_eq
  rw [perSecond] at h
  -- the rest counts as one second more, unless there is none
  obtain ⟨n, hrest, hn⟩ : ∃ n : ℕ, s.restNanos ≤ n * 1000000000 ∧ s.wholeSeconds + n ≤ k := by
    by_cases hzero : s.restNanos = 0
    · exact ⟨0, by omega, by omega⟩
    · exact ⟨1, by omega, by omega⟩
  have hle : (s.restNanos : ℚ) ≤ n * 1000000000 := by exact_mod_cast hrest
  have hseconds : AtMost (Float.ofNat s.wholeSeconds) s.wholeSeconds :=
    (Exact.rounds_ofNat _).atMost (Exact.isDouble_natCast (by omega)) le_rfl
  have hnanos : AtMost (Float.ofNat s.restNanos / 1e9) n :=
    s.rounds_restNanos.atMost (Exact.isDouble_natCast (by omega))
      ((div_le_iff₀ (by norm_num)).2 hle)
  exact hseconds.add hnanos (Exact.isDouble_natCast (by omega)) (by exact_mod_cast hn)

theorem atLeast_milliseconds (hk : k ≤ 18) (h : k * perSecond < s.nanos) :
    AtLeast s.milliseconds ((1000 * k : ℕ) + 2 ^ (-21 : ℤ)) := by
  refine (atLeast_seconds hk h).mul Exact.is_thousand (by norm_num)
    (Exact.isDouble_add_place (j := 21) (by omega) (by decide)) ?_
  push_cast
  rw [add_mul]
  linarith [show (2 : ℚ) ^ (-21 : ℤ) ≤ 2 ^ (-30 : ℤ) * 1000 by norm_num]

theorem atMost_milliseconds (hk : k ≤ 18) (h : s.nanos ≤ k * perSecond) :
    AtMost s.milliseconds (1000 * k : ℕ) := by
  refine (atMost_seconds hk h).mul Exact.is_thousand (Exact.isDouble_natCast (by omega)) ?_
  push_cast
  rw [mul_comm]

end Span

namespace Probe

variable {first last : ℕ}

/-! ## Bounds of an interval and its rate -/

theorem is_intervals : Is (Float.ofNat (sampleCount - 1)) 9 :=
  (Exact.rounds_ofNat 9).is (Exact.isDouble_natCast (by decide))

theorem atLeast_meanInterval {j : ℕ} (hj : j ≤ 2) (h : 9 * j * Span.perSecond < last - first) :
    AtLeast (meanInterval first last) ((1000 * j : ℕ) + 2 ^ (-25 : ℤ)) := by
  refine (Span.atLeast_milliseconds (s := ⟨last - first⟩) (by omega) h).div is_intervals
    (by norm_num) (Exact.isDouble_add_place (j := 25) (by omega) (by decide)) ?_
  push_cast
  rw [le_div_iff₀ (by norm_num), add_mul]
  linarith [show (2 : ℚ) ^ (-25 : ℤ) * 9 ≤ 2 ^ (-21 : ℤ) by norm_num]

theorem atMost_meanInterval (h : last - first ≤ 18 * Span.perSecond) :
    AtMost (meanInterval first last) 2000 :=
  (Span.atMost_milliseconds (s := ⟨last - first⟩) le_rfl h).div is_intervals (by norm_num)
    (Exact.isDouble_natCast (n := 2000) (by decide)) (by norm_num)

/-- Ten ticks that do not come at the same instant have some mean interval. -/
theorem atLeast_meanInterval_of_lt (h : first < last) :
    AtLeast (meanInterval first last) (2 ^ (-25 : ℤ)) := by
  have hmean := atLeast_meanInterval (j := 0) (by decide) (by omega : _ < last - first)
  rwa [Nat.mul_zero, Nat.cast_zero, zero_add] at hmean

/-- The rate in hertz over ten ticks with the given outer instants. -/
def tickRate (first last : ℕ) : UInt32 :=
  (Exact.roundHalfAway (1000.0 / meanInterval first last)).toUInt32

/-- There is a rate exactly if the instants differ. -/
theorem rateOfInterval_meanInterval (first last : ℕ) :
    rateOfInterval (meanInterval first last) =
      if first < last then some (tickRate first last) else none := by
  by_cases h : first < last
  · rw [if_pos h]
    exact if_neg ((atLeast_meanInterval_of_lt h).not_le Exact.is_zero (by positivity))
  · rw [if_neg h, meanInterval, Nat.sub_eq_zero_of_le (not_lt.1 h)]
    decide +kernel

/-- Ten ticks within 18 seconds make at least half a tick in a second, which is rounded up. -/
theorem tickRate_ne_zero (h : first < last) (hspan : last - first ≤ 18 * Span.perSecond) :
    tickRate first last ≠ 0 := by
  obtain ⟨q, hq, hlow, hhigh⟩ :=
    (atMost_meanInterval hspan).exists_is (atLeast_meanInterval_of_lt h)
  have hpos : 0 < q := lt_of_lt_of_le (by positivity) hlow
  have hrate : AtLeast (1000.0 / meanInterval first last) (1 / 2) :=
    Exact.is_thousand.div_is_le hq hpos hhigh
      ⟨1, -1, by decide, by decide, by decide, by norm_num⟩ (by norm_num)
  exact hrate.toUInt32_roundHalfAway_ne_zero

/-- Slower ticks make less than half a tick in a second. -/
theorem tickRate_eq_zero (hspan : 18 * Span.perSecond < last - first) :
    tickRate first last = 0 := by
  have hmean := atLeast_meanInterval (j := 2) le_rfl hspan
  have hrate : AtMost (1000.0 / meanInterval first last) (1 / 2 - 2 ^ (-38 : ℤ)) :=
    Exact.is_thousand.div_atLeast hmean (by positivity)
      ⟨2 ^ 37 - 1, -38, by decide, by decide, by decide, by norm_num⟩ (by norm_num)
  exact hrate.toUInt32_roundHalfAway_eq_zero (by norm_num)

/-! ## Ticks one after the other -/

/-- The rate that a tick tells. -/
def Finding.rate? : Finding → Option UInt32
  | .rate hertz => some hertz
  | .noInterval => none
  | .nothing => none

/-- The probe behind ticks at the given instants. -/
def after (p : Probe) (instants : List ℕ) : Probe :=
  instants.foldl (fun p now => (p.record now).2) p

/-- The rates that ticks at the given instants tell. -/
def told (p : Probe) : List ℕ → List (Option UInt32)
  | [] => []
  | now :: later => (p.record now).1.rate? :: told (p.record now).2 later

section Run

variable {instants : List ℕ} {now n : ℕ}

theorem getElem?_told (p : Probe) (instants : List ℕ) (i : ℕ) :
    (p.told instants)[i]? =
      instants[i]?.map fun now => ((p.after (instants.take i)).record now).1.rate? := by
  induction instants generalizing p i with
  | nil => rfl
  | cons now later ih =>
    cases i with
    | zero => rfl
    | succ i => exact ih (p.record now).2 i

theorem after_settled (rate : Option ℕ) (instants : List ℕ) :
    (settled rate).after instants = settled rate := by
  induction instants with
  | nil => rfl
  | cons now later ih => exact ih

theorem record_collecting {stamps : List ℕ} (h : stamps.length + 1 < sampleCount) :
    (collecting stamps).record now = (.nothing, collecting (stamps ++ [now])) := by
  have hlength : (stamps ++ [now]).length < sampleCount := by
    rw [List.length_append]
    exact h
  rw [record]
  exact if_pos hlength

theorem after_collecting {stamps : List ℕ} (h : stamps.length + instants.length < sampleCount) :
    (collecting stamps).after instants = collecting (stamps ++ instants) := by
  induction instants generalizing stamps with
  | nil => rw [List.append_nil]; rfl
  | cons now later ih =>
    rw [List.length_cons] at h
    rw [after, List.foldl_cons, record_collecting (by omega)]
    have hlater : (collecting (stamps ++ [now])).after later =
        collecting (stamps ++ [now] ++ later) := ih (by
      rw [List.length_append, List.length_singleton]
      omega)
    rwa [List.append_assoc] at hlater

/-- What the tenth tick tells, and what it leaves behind. -/
theorem record_tenth {first last : ℕ} (hfirst : instants[0]? = some first)
    (hlast : instants[9]? = some last) :
    (fresh.after (instants.take 9)).record last =
      if first < last then
        (.rate (tickRate first last),
          settled (if tickRate first last = 0 then none else some (tickRate first last).toNat))
      else (.noInterval, settled none) := by
  obtain ⟨hlength, -⟩ := List.getElem?_eq_some_iff.1 hlast
  rcases instants with _ | ⟨now, later⟩
  · cases hfirst
  · obtain rfl := Option.some.inj hfirst
    rw [List.length_cons] at hlength
    have htake : (later.take 8).length = 8 := List.length_take_of_le (by omega)
    have hfull : ¬ (now :: (later.take 8 ++ [last])).length < sampleCount := by
      simp [htake, sampleCount]
    rw [List.take_succ_cons, fresh, after_collecting (by simp [htake, sampleCount]), record,
      List.nil_append, List.cons_append, if_neg hfull, List.headD_cons, rateOfInterval_meanInterval]
    by_cases hlt : now < last
    · rw [if_pos hlt, if_pos hlt]
    · rw [if_neg hlt, if_neg hlt]

/-- The first nine ticks tell nothing. -/
theorem record_early (hn : n < 9) (hlength : n ≤ instants.length) :
    (fresh.after (instants.take n)).record now =
      (.nothing, collecting (instants.take n ++ [now])) := by
  have htake : (instants.take n).length = n := List.length_take_of_le hlength
  rw [fresh, after_collecting (by simp [htake, sampleCount]; omega), List.nil_append]
  exact record_collecting (by rw [htake, sampleCount]; omega)

/-- Behind the tenth tick the probe has settled. -/
theorem after_take {first last : ℕ} (hfirst : instants[0]? = some first)
    (hlast : instants[9]? = some last) (hn : 10 ≤ n) :
    fresh.after (instants.take n) =
      settled (if first < last ∧ tickRate first last ≠ 0 then some (tickRate first last).toNat
        else none) := by
  obtain ⟨k, rfl⟩ : ∃ k, n = 9 + 1 + k := ⟨n - 10, by omega⟩
  have hten : instants.take (9 + 1) = instants.take 9 ++ [last] := by
    rw [List.take_add_one, hlast]
    rfl
  have hsettled : fresh.after (instants.take (9 + 1)) =
      ((fresh.after (instants.take 9)).record last).2 := by
    rw [hten, after, List.foldl_append]
    rfl
  rw [List.take_add, after, List.foldl_append]
  change ((fresh.after (instants.take (9 + 1))).after _) = _
  rw [hsettled, record_tenth hfirst hlast]
  by_cases hlt : first < last
  · by_cases hzero : tickRate first last = 0
    · simp [hlt, hzero, after_settled]
    · simp [hlt, hzero, after_settled]
  · simp [hlt, after_settled]

theorem told_tenth {first last : ℕ} (hfirst : instants[0]? = some first)
    (hlast : instants[9]? = some last) :
    (fresh.told instants)[9]? = some (if first < last then some (tickRate first last) else none) := by
  rw [getElem?_told, hlast, Option.map_some, record_tenth hfirst hlast]
  split_ifs <;> rfl

theorem exists_ends (h : 10 ≤ instants.length) :
    ∃ first last, instants[0]? = some first ∧ instants[9]? = some last :=
  ⟨_, _, List.getElem?_eq_getElem (by omega), List.getElem?_eq_getElem (by omega)⟩

theorem length_told (p : Probe) (instants : List ℕ) :
    (p.told instants).length = instants.length := by
  induction instants generalizing p with
  | nil => rfl
  | cons now later ih => exact congrArg (· + 1) (ih _)

theorem lt_length_of_told {p : Probe} {i : ℕ} {answer : Option UInt32}
    (h : (p.told instants)[i]? = some answer) : i < instants.length := by
  rw [← length_told p]
  exact (List.getElem?_eq_some_iff.1 h).1

end Run

/-! ## One rate -/

/-- Only the tenth tick tells a rate.  Behind it the probe stays as it is and has settled, and if no
rate was told none is known ever after. -/
structure OneShot (instants : List ℕ) : Prop where
  only_tenth : ∀ i hertz, (fresh.told instants)[i]? = some (some hertz) → i = 9
  unchanged : 10 ≤ instants.length → ∀ n, 10 ≤ n →
    fresh.after (instants.take n) = fresh.after (instants.take 10) ∧
      (fresh.after (instants.take n)).isComplete
  no_rate : (fresh.told instants)[9]? = some none → ∀ n, 10 ≤ n →
    (fresh.after (instants.take n)).rate? = none

/-- The rate that the tenth tick tells is known ever after. -/
def KeepsRate (instants : List ℕ) : Prop :=
  ∀ hertz, (fresh.told instants)[9]? = some (some hertz) → ∀ n, 10 ≤ n →
    (fresh.after (instants.take n)).rate? = some hertz.toNat

/-- The tenth tick is at most 18 seconds behind the first. -/
def WithinSpan (instants : List ℕ) : Prop :=
  ∀ first last, instants[0]? = some first → instants[9]? = some last →
    last - first ≤ 18 * Span.perSecond

theorem oneShot (instants : List ℕ) : OneShot instants where
  only_tenth := by
    intro i hertz h
    have hlength := lt_length_of_told h
    obtain ⟨now, hnow, htold⟩ := Option.map_eq_some_iff.1 ((getElem?_told _ _ _).symm.trans h)
    rcases lt_trichotomy i 9 with hlt | rfl | hgt
    · rw [record_early hlt hlength.le] at htold
      cases htold
    · rfl
    · obtain ⟨first, last, hfirst, hlast⟩ := exists_ends (by omega : 10 ≤ instants.length)
      rw [after_take hfirst hlast hgt] at htold
      cases htold
  unchanged := by
    intro hlength n hn
    obtain ⟨first, last, hfirst, hlast⟩ := exists_ends hlength
    rw [after_take hfirst hlast hn, after_take hfirst hlast le_rfl]
    exact ⟨rfl, rfl⟩
  no_rate := by
    intro h n hn
    obtain ⟨first, last, hfirst, hlast⟩ := exists_ends (lt_length_of_told h)
    have hle : ¬ first < last := fun hlt => by
      rw [told_tenth hfirst hlast, if_pos hlt] at h
      cases h
    rw [after_take hfirst hlast hn, if_neg fun hrate => hle hrate.1]
    rfl

/-- A probe tells at most one rate, and it settles with the tenth tick.  The rate told stays known
exactly if the tenth tick is at most 18 seconds behind the first. -/
theorem oneShot_and_keepsRate_iff (instants : List ℕ) :
    OneShot instants ∧ (KeepsRate instants ↔ WithinSpan instants) := by
  refine ⟨oneShot instants, fun hkeeps first last hfirst hlast => ?_, fun hspan hertz h n hn => ?_⟩
  · by_contra hslow
    have hlt : first < last := by omega
    have hzero := tickRate_eq_zero (not_le.1 hslow)
    have htold := told_tenth hfirst hlast
    rw [if_pos hlt] at htold
    have hknown := hkeeps _ htold 10 le_rfl
    rw [after_take hfirst hlast le_rfl, if_neg fun hrate => hrate.2 hzero] at hknown
    cases hknown
  · obtain ⟨first, last, hfirst, hlast⟩ := exists_ends (lt_length_of_told h)
    rw [told_tenth hfirst hlast] at h
    obtain ⟨hlt, hertz_eq⟩ := Option.ite_none_right_eq_some.1 (Option.some.inj h)
    obtain rfl := Option.some.inj hertz_eq
    have hrate := tickRate_ne_zero hlt (hspan first last hfirst hlast)
    rw [after_take hfirst hlast hn, if_pos ⟨hlt, hrate⟩]
    rfl

/-- Ticks that come every three seconds. -/
def slowTicks : List ℕ := (List.range 10).map (· * 3000000000)

/-- Ten ticks that come every three seconds tell a rate of zero, which is not known behind them. -/
theorem not_keepsRate_slowTicks : ¬ KeepsRate slowTicks := by
  intro h
  have hknown := h 0 (by decide +kernel) 10 le_rfl
  revert hknown
  decide +kernel

end Probe

end ShaderPreview
