import ShaderPreview.Proofs.Number.Bounds
import ShaderPreview.Proofs.Telemetry.History

/-!
# Figures over a window

Whatever is recorded, the device times that telemetry keeps are numbers above zero and below a
second.  Of such a window the least and the greatest sample bound all others and the median, even
though the median of an even number of samples is rounded twice.  So neither rate in a snapshot
comes from a division by zero, and a rate by the device is published only beside frames that took
some time.
-/

namespace ShaderPreview

open Float.Model (UnpackedFloat)
open Exact (Is AtLeast AtMost)

/-! ## Means of two numbers -/

namespace Exact

variable {x y : Float} {q s low high : ℚ}

/-- The mean of two numbers does not leave the bounds that hold for both, in spite of the rounding:
twice a bound is a double again. -/
theorem Is.mean (hx : Is x q) (hy : Is y s) (hlow : IsDouble low) (hhigh : IsDouble high)
    (hq : low ≤ q ∧ q ≤ high) (hs : low ≤ s ∧ s ≤ high) (hsmall : high < 2 ^ (971 : ℤ)) :
    ∃ p, Is ((x + y) / 2.0) p ∧ low ≤ p ∧ p ≤ high := by
  have hsum : AtLeast (x + y) (2 * low) :=
    hx.atLeast.add hy.atLeast (hlow.two_mul (by linarith)) (by linarith)
  have hsum' : AtMost (x + y) (2 * high) :=
    hx.atMost.add hy.atMost (hhigh.two_mul hsmall) (by linarith)
  have hle : AtLeast ((x + y) / 2.0) low := hsum.div is_two two_pos hlow (by linarith)
  have hge : AtMost ((x + y) / 2.0) high := hsum'.div is_two two_pos hhigh (by linarith)
  exact hge.exists_is hle

end Exact

/-! ## The least and the greatest of some numbers -/

/-- Of two numbers `f` takes one, which stands in the relation `r` to both. -/
def Picks (f : Float → Float → Float) (r : ℚ → ℚ → Prop) : Prop :=
  ∀ {x y : Float} {q s : ℚ}, Is x q → Is y s →
    (f x y = x ∨ f x y = y) ∧ ∃ p, Is (f x y) p ∧ r p q ∧ r p s

theorem picks_minNum : Picks Double.minNum (· ≤ ·) := by
  intro x y q s hx hy
  rw [Double.minNum, hx.not_isNaN, if_neg Bool.false_ne_true]
  by_cases h : y < x
  · rw [if_pos h]
    exact ⟨.inr rfl, s, hy, ((hy.lt_iff hx).1 h).le, le_rfl⟩
  · rw [if_neg h]
    exact ⟨.inl rfl, q, hx, le_rfl, not_lt.1 fun hlt => h ((hy.lt_iff hx).2 hlt)⟩

theorem picks_maxNum : Picks Double.maxNum (· ≥ ·) := by
  intro x y q s hx hy
  rw [Double.maxNum, hx.not_isNaN, if_neg Bool.false_ne_true]
  by_cases h : y > x
  · rw [if_pos h]
    exact ⟨.inr rfl, s, hy, ((hx.lt_iff hy).1 h).le, le_rfl⟩
  · rw [if_neg h]
    exact ⟨.inl rfl, q, hx, le_rfl, not_lt.1 fun hlt => h ((hx.lt_iff hy).2 hlt)⟩

/-- What is picked from numbers one after the other is one of them and stands in the relation to all
of them. -/
theorem Picks.foldl {f : Float → Float → Float} {r : ℚ → ℚ → Prop} [IsPreorder ℚ r]
    (hf : Picks f r) {x : Float} {q : ℚ} (hx : Is x q) {xs : List Float}
    (hxs : ∀ y ∈ xs, ∃ s, Is y s) :
    xs.foldl f x ∈ x :: xs ∧
      ∃ p, Is (xs.foldl f x) p ∧ ∀ y ∈ x :: xs, ∀ {s}, Is y s → r p s := by
  induction xs generalizing x q with
  | nil =>
    refine ⟨List.mem_singleton_self x, q, hx, fun y hy s hs => ?_⟩
    obtain rfl := List.mem_singleton.1 hy
    obtain rfl := hx.unique hs
    exact refl q
  | cons y ys ih =>
    obtain ⟨s, hy⟩ := hxs y List.mem_cons_self
    obtain ⟨hone, p, hp, hq, hs⟩ := hf hx hy
    obtain ⟨hmem, t, ht, hall⟩ := ih hp fun z hz => hxs z (List.mem_cons_of_mem y hz)
    -- the last pick is compared to the first one, and that one to both it was taken from
    have hfirst : r t p := hall _ List.mem_cons_self hp
    rw [List.foldl_cons]
    refine ⟨?_, t, ht, fun z hz u hu => ?_⟩
    · rcases List.mem_cons.1 hmem with h | h
      · rw [h]
        rcases hone with h | h <;> simp [h]
      · simp [h]
    · rcases List.mem_cons.1 hz with rfl | hz
      · obtain rfl := hx.unique hu
        exact IsTrans.trans _ _ _ hfirst hq
      · rcases List.mem_cons.1 hz with rfl | hz
        · obtain rfl := hy.unique hu
          exact IsTrans.trans _ _ _ hfirst hs
        · exact hall z (List.mem_cons_of_mem _ hz) hu

namespace Window

variable {w : Window Double}

/-! ## Windows of numbers in a range -/

/-- All samples are above zero and below a second. -/
def InRange (w : Window Double) : Prop := ∀ d ∈ w.samples, 0.0 < d.value ∧ d.value < 1000.0

theorem mem_samples_push {α : Type} {w : Window α} {x y : α} (hy : y ∈ (w.push x).samples) :
    y ∈ w.samples ∨ y = x := by
  unfold push at hy
  split at hy <;> rcases List.mem_append.1 hy with hy | hy
  · exact .inl (List.mem_of_mem_tail hy)
  · exact .inr (List.mem_singleton.1 hy)
  · exact .inl hy
  · exact .inr (List.mem_singleton.1 hy)

theorem InRange.push {x : Float} (hw : w.InRange) (hx : 0.0 < x ∧ x < 1000.0) :
    (w.push (.ofFloat x)).InRange := by
  intro d hd
  rcases mem_samples_push hd with hd | rfl
  · exact hw d hd
  · rw [Double.value, Double.ofFloat, Float.ofBits_toBits]
    exact hx

theorem InRange.exists_is (hw : w.InRange) {d : Double} (hd : d ∈ w.samples) :
    ∃ q, Is d.value q ∧ 0 < q ∧ q < 1000 :=
  Exact.exists_is_of_pos_of_lt Exact.is_thousand (hw d hd).1 (hw d hd).2

theorem mem_values {x : Float} : x ∈ w.values ↔ ∃ d ∈ w.samples, d.value = x := List.mem_map

/-- What is picked from the samples is one of them, and stands in the relation to all of them. -/
theorem InRange.picked (hw : w.InRange) (hne : w.samples ≠ []) {f : Float → Float → Float}
    {r : ℚ → ℚ → Prop} [IsPreorder ℚ r] (hf : Picks f r) :
    ∃ x xs, w.values = x :: xs ∧ (∃ d ∈ w.samples, d.value = xs.foldl f x) ∧
      ∃ p, Is (xs.foldl f x) p ∧ 0 < p ∧ p < 1000 ∧ ∀ d ∈ w.samples, ∀ {s}, Is d.value s → r p s := by
  have hvalues : ∀ y ∈ w.values, ∃ s, Is y s := by
    intro y hy
    obtain ⟨d, hd, rfl⟩ := mem_values.1 hy
    obtain ⟨q, hq, -⟩ := hw.exists_is hd
    exact ⟨q, hq⟩
  rcases h : w.values with _ | ⟨x, xs⟩
  · exact absurd (List.map_eq_nil_iff.1 h) hne
  · rw [h] at hvalues
    obtain ⟨q, hx⟩ := hvalues x List.mem_cons_self
    obtain ⟨hmem, p, hp, hall⟩ := hf.foldl hx fun y hy => hvalues y (List.mem_cons_of_mem x hy)
    rw [← h] at hmem hall
    obtain ⟨d, hd, hvalue⟩ := mem_values.1 hmem
    obtain ⟨p', hp', hrange⟩ := hw.exists_is hd
    rw [hvalue] at hp'
    obtain rfl := hp.unique hp'
    exact ⟨x, xs, rfl, ⟨d, hd, hvalue⟩, p, hp, hrange.1, hrange.2,
      fun d hd => hall _ (mem_values.2 ⟨d, hd, rfl⟩)⟩

theorem exists_middle? (hne : w.samples ≠ []) :
    ∃ a ∈ w.samples, ∃ b ∈ w.samples, w.middle? = some (a, b) := by
  have hlength : w.sorted.length = w.samples.length := List.length_mergeSort _
  have hpos : 0 < w.samples.length := List.length_pos_iff.2 hne
  have hmem {d : Double} (hd : d ∈ w.sorted) : d ∈ w.samples := List.mem_mergeSort.1 hd
  have hlow : (w.samples.length - 1) / 2 < w.sorted.length := by omega
  have hhigh : w.samples.length / 2 < w.sorted.length := by omega
  refine ⟨_, hmem (List.getElem_mem hlow), _, hmem (List.getElem_mem hhigh), ?_⟩
  simp [middle?, List.getElem?_eq_getElem hlow, List.getElem?_eq_getElem hhigh]

theorem ne_nil_of_median? {median : Float} (h : w.median? = some median) : w.samples ≠ [] := by
  rintro hnil
  simp [median?, middle?, sorted, hnil] at h

/-- The figures over a window: `low` and `high` are the outermost samples, and the median is between
them, both the one that is computed and the exact one. -/
structure Figures (w : Window Double) (low median high : Float) : Prop where
  min_eq : w.min? = some low
  max_eq : w.max? = some high
  median_eq : w.median? = some median
  low_mem : ∃ d ∈ w.samples, d.value = low
  high_mem : ∃ d ∈ w.samples, d.value = high
  bounds : ∀ d ∈ w.samples, low ≤ d.value ∧ d.value ≤ high
  between : low ≤ median ∧ median ≤ high
  exact : ∃ a b, w.middle? = some (a, b) ∧
    Exact.rational low ≤ (Exact.rational a.value + Exact.rational b.value) / 2 ∧
    (Exact.rational a.value + Exact.rational b.value) / 2 ≤ Exact.rational high

theorem InRange.figures (hw : w.InRange) (hne : w.samples ≠ []) :
    ∃ low median high, w.Figures low median high ∧ 0.0 < median := by
  obtain ⟨x, xs, hx, hlow, l, hl, hpos, -, hbelow⟩ := hw.picked hne picks_minNum
  obtain ⟨y, ys, hy, hhigh, h, hh, -, hlt, habove⟩ := hw.picked hne picks_maxNum
  have hbounds {d : Double} (hd : d ∈ w.samples) : ∃ q, Is d.value q ∧ l ≤ q ∧ q ≤ h := by
    obtain ⟨q, hq, -⟩ := hw.exists_is hd
    exact ⟨q, hq, hbelow d hd hq, habove d hd hq⟩
  obtain ⟨a, ha, b, hb, hmiddle⟩ := exists_middle? hne
  obtain ⟨q, hq, hqbounds⟩ := hbounds ha
  obtain ⟨s, hs, hsbounds⟩ := hbounds hb
  have hsmall : h < 2 ^ (971 : ℤ) :=
    calc h < 2 ^ (10 : ℤ) := hlt.trans (by norm_num)
      _ ≤ 2 ^ (971 : ℤ) := zpow_le_zpow_right₀ one_le_two (by decide)
  obtain ⟨p, hp, hpbounds⟩ : ∃ p,
      Is (if w.samples.length % 2 = 0 then (a.value + b.value) / 2.0 else b.value) p ∧
        l ≤ p ∧ p ≤ h := by
    split
    · exact hq.mean hs hl.isDouble hh.isDouble hqbounds hsbounds hsmall
    · exact ⟨s, hs, hsbounds⟩
  refine ⟨_, _, _, ⟨?_, ?_, ?_, hlow, hhigh, ?_, ?_, a, b, hmiddle, ?_⟩,
    (Exact.is_zero.lt_iff hp).2 (hpos.trans_le hpbounds.1)⟩
  · rw [min?, hx]
  · rw [max?, hy]
  · rw [median?, hmiddle]
    rfl
  · intro d hd
    obtain ⟨t, ht, htbounds⟩ := hbounds hd
    exact ⟨(hl.le_iff ht).2 htbounds.1, (ht.le_iff hh).2 htbounds.2⟩
  · exact ⟨(hl.le_iff hp).2 hpbounds.1, (hp.le_iff hh).2 hpbounds.2⟩
  · rw [hl.rational_eq, hh.rational_eq, hq.rational_eq, hs.rational_eq]
    constructor <;> linarith

end Window

/-! ## Rates -/

namespace Exact

theorem unpack_zero_mul (y : Float) :
    (0.0 * y).toModel.unpack = .notANumber ∨ ∃ sign, (0.0 * y).toModel.unpack = .zero sign := by
  change (Float.Model.pack (UnpackedFloat.mul .binary64 (.zero .positive) _)).unpack = _ ∨
    ∃ sign, (Float.Model.pack (UnpackedFloat.mul .binary64 (.zero .positive) _)).unpack = _
  rcases y.toModel.unpack with sign | _ | sign | ⟨sign, m, e, hm⟩
  · exact .inl unpack_pack_notANumber
  · exact .inl unpack_pack_notANumber
  · exact .inr ⟨_, unpack_pack_zero _⟩
  · exact .inr ⟨_, unpack_pack_zero _⟩

/-- No magnitude is below zero times a double. -/
theorem not_abs_lt_zero_mul (x y : Float) : ¬ x.abs < 0.0 * y := by
  intro h
  have h : x.abs.toModel.unpack.lt (0.0 * y).toModel.unpack := decide_eq_true_iff.1 h
  rw [unpack_abs] at h
  generalize x.toModel.unpack = u at h
  rcases unpack_zero_mul y with hy | ⟨sign, hy⟩ <;> rw [hy] at h <;>
    rcases u with _ | _ | _ | _ <;> cases h

end Exact

namespace Telemetry

variable {settings : TelemetrySettings} {t t₀ : Telemetry}

/-- What telemetry can be told. -/
inductive Measurement where
  | frame (ms : Float)
  | gpu (ms : Float)
  | reset

/-- Takes note of a measurement. -/
def note (t : Telemetry) : Measurement → Telemetry
  | .frame ms => t.recordFrame ms
  | .gpu ms => t.recordGpu ms
  | .reset => t.reset

/-- Takes note of measurements one after the other. -/
def noteAll (t : Telemetry) (ms : List Measurement) : Telemetry := ms.foldl note t

theorem inRange_note (ht : t.gpu.InRange) (m : Measurement) : (t.note m).gpu.InRange := by
  cases m with
  | frame ms => exact ht
  | gpu ms =>
    change (t.recordGpu ms).gpu.InRange
    unfold recordGpu
    split
    · rename_i h
      exact ht.push (acceptsGpu_iff.1 h)
    · exact ht
  | reset => exact fun d hd => absurd hd List.not_mem_nil

theorem inRange_noteAll (ht : t.gpu.InRange) (ms : List Measurement) :
    (t.noteAll ms).gpu.InRange := by
  induction ms generalizing t with
  | nil => exact ht
  | cons m ms ih => exact ih (inRange_note ht m)

theorem inRange_of_ofSettings? (ht : ofSettings? settings = some t) : t.gpu.InRange := by
  rw [ofSettings?_eq_some ht]
  exact fun d hd => absurd hd List.not_mem_nil

theorem cpuRate_cases (t : Telemetry) :
    ¬ 0.0 < t.averageFrameTime ∧ t.cpuRate = 0.0 ∨
      0.0 < t.averageFrameTime ∧ t.cpuRate = 1000.0 / t.averageFrameTime := by
  unfold cpuRate
  split
  · rename_i h
    exact .inr ⟨h, rfl⟩
  · rename_i h
    exact .inl ⟨h, rfl⟩

/-- A rate by the device is taken only if there is one, beside frames that took some time. -/
theorem of_source_gpu {width height : ℕ} (h : (t.snapshot width height).source = .gpu) :
    t.gpu.samples ≠ [] ∧ 0.0 < t.averageFrameTime := by
  change (reconcile t.cpuRate t.gpuRate? t.settings.reconcileBand).2 = .gpu at h
  rcases hrate : t.gpuRate? with _ | rate <;> rw [hrate, reconcile] at h
  · cases h
  · obtain ⟨median, hmedian, -⟩ := Option.map_eq_some_iff.1 hrate
    refine ⟨Window.ne_nil_of_median? hmedian, ?_⟩
    rcases t.cpuRate_cases with ⟨-, hzero⟩ | ⟨hpos, -⟩
    · -- the rate by the frames is zero, and no distance is below a multiple of it
      rw [hzero, if_neg fun hnear => Exact.not_abs_lt_zero_mul _ _ hnear.2] at h
      cases h
    · exact hpos

/-- Whatever is recorded, the device times kept are above zero and below a second, and their median
is between the least and the greatest of them.  Both divisors behind the rates of a snapshot are
above zero, and a rate by the device is published only if there are device times and the frames took
some time. -/
theorem figures_noteAll (ht : ofSettings? settings = some t₀) (ms : List Measurement) :
    let t := t₀.noteAll ms
    t.gpu.InRange ∧
      (t.gpu.samples ≠ [] → ∃ low median high, t.gpu.Figures low median high) ∧
      (∀ rate, t.gpuRate? = some rate →
        ∃ median, t.gpu.median? = some median ∧ 0.0 < median ∧ rate = 1000.0 / median) ∧
      (¬ 0.0 < t.averageFrameTime ∧ t.cpuRate = 0.0 ∨
        0.0 < t.averageFrameTime ∧ t.cpuRate = 1000.0 / t.averageFrameTime) ∧
      ∀ width height, (t.snapshot width height).source = .gpu →
        t.gpu.samples ≠ [] ∧ 0.0 < t.averageFrameTime := by
  intro t
  have hrange : t.gpu.InRange := inRange_noteAll (inRange_of_ofSettings? ht) ms
  refine ⟨hrange, fun hne => ?_, fun rate hrate => ?_, t.cpuRate_cases, fun _ _ => of_source_gpu⟩
  · obtain ⟨low, median, high, h, -⟩ := hrange.figures hne
    exact ⟨low, median, high, h⟩
  · obtain ⟨median, hmedian, rfl⟩ := Option.map_eq_some_iff.1 hrate
    obtain ⟨low, median', high, h, hpos⟩ := hrange.figures (Window.ne_nil_of_median? hmedian)
    obtain rfl := Option.some.inj (h.median_eq.symm.trans hmedian)
    exact ⟨median', hmedian, hpos, rfl⟩

/-- Frames and device times, of which three are out of range. -/
def mixedMeasurements : List Measurement :=
  [.frame 16.0, .gpu 0.0, .gpu 8.0, .frame 17.0, .gpu (0.0 / 0.0), .gpu 4.0, .gpu 1000.0]

theorem figures_noteAll_mixedMeasurements :
    ∃ t₀, ofSettings? .default = some t₀ ∧
      (t₀.noteAll mixedMeasurements).gpu.samples = [.ofFloat 8.0, .ofFloat 4.0] ∧
      (t₀.noteAll mixedMeasurements).gpu.InRange ∧
      ∃ low median high, (t₀.noteAll mixedMeasurements).gpu.Figures low median high := by
  have hnew : ofSettings? .default = some ⟨.default, .ofCapacity 120, .ofCapacity 30, 0⟩ := rfl
  obtain ⟨hrange, hfigures, -⟩ := figures_noteAll hnew mixedMeasurements
  refine ⟨_, hnew, by decide +kernel, hrange, hfigures ?_⟩
  decide +kernel

end Telemetry

end ShaderPreview
