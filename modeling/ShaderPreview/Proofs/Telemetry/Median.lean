import Mathlib.Data.List.Sort
import ShaderPreview.Telemetry.Window

/-!
# The median as an order statistic

The total order of doubles puts any doubles into one order only (`Arranges.unique`), so the median of
a window hangs on which samples it holds and not on when they came.  A sample of rank `r` is not
behind a double exactly if more than `r` samples are not behind it (`totalLE_iff_lt_countP`), and one
sample more or less moves such a number by one at most.  So no change of a single sample takes a rank
beyond its neighbours.
-/

namespace ShaderPreview

namespace Double

/-! ## The total order -/

theorem totalLE_iff {d e : Double} : d.totalLE e ↔ d.totalKey ≤ e.totalKey := by
  rw [totalLE, decide_eq_true_iff]

theorem totalKey_injective : Function.Injective totalKey := by
  intro d e h
  have hd := d.bits.toNat_lt
  have he := e.bits.toNat_lt
  have hbits : d.bits.toNat = e.bits.toNat := by
    simp only [totalKey, wordCount_63] at h
    omega
  cases d
  cases e
  exact congrArg mk (UInt64.toNat_inj.1 hbits)

theorem totalLE_trans (a b c : Double) (hab : a.totalLE b) (hbc : b.totalLE c) : a.totalLE c := by
  rw [totalLE_iff] at hab hbc ⊢
  omega

theorem totalLE_total (d e : Double) : d.totalLE e || e.totalLE d := by
  rw [Bool.or_eq_true, totalLE_iff, totalLE_iff]
  omega

theorem eq_of_totalLE {d e : Double} (hde : d.totalLE e) (hed : e.totalLE d) : d = e := by
  rw [totalLE_iff] at hde hed
  apply totalKey_injective
  omega

/-- The doubles in the total order, which are those of another list. -/
structure Arranges (s ds : List Double) : Prop where
  perm : s.Perm ds
  ordered : s.Pairwise fun d e => d.totalLE e

theorem arranges_mergeSort (ds : List Double) : Arranges (ds.mergeSort totalLE) ds :=
  ⟨List.mergeSort_perm ds totalLE,
    List.pairwise_mergeSort totalLE_trans totalLE_total ds⟩

theorem Arranges.unique {s s' ds ds' : List Double} (h : Arranges s ds) (h' : Arranges s' ds')
    (hds : ds.Perm ds') : s = s' :=
  ((h.perm.trans hds).trans h'.perm.symm).eq_of_pairwise
    (fun _ _ _ _ hde hed => eq_of_totalLE hde hed) h.ordered h'.ordered

/-! ## Ranks -/

section Ranks

variable {s s' ds : List Double} {d e : Double} {r : ℕ}

/-- The sample of rank `r` is not behind a double exactly if more than `r` samples are not. -/
theorem totalLE_iff_lt_countP (hs : s.Pairwise fun d e => d.totalLE e) (hr : s[r]? = some d) :
    d.totalLE e ↔ r < s.countP (·.totalLE e) := by
  induction s generalizing r with
  | nil => cases hr
  | cons a s ih =>
    obtain ⟨ha, hs⟩ := List.pairwise_cons.1 hs
    by_cases hae : a.totalLE e
    · have hcount : (a :: s).countP (·.totalLE e) = s.countP (·.totalLE e) + 1 :=
        List.countP_cons_of_pos hae
      rw [hcount]
      cases r with
      | zero =>
        cases hr
        simp [hae]
      | succ r => rw [ih hs hr, Nat.add_lt_add_iff_right]
    · -- nothing behind `a` comes in front of it
      have hnone : ∀ b ∈ a :: s, ¬ b.totalLE e := by
        intro b hb hbe
        rcases List.mem_cons.1 hb with rfl | hb
        · exact hae hbe
        · exact hae (totalLE_trans a b e (ha b hb) hbe)
      have hzero : (a :: s).countP (·.totalLE e) = 0 := List.countP_eq_zero.2 hnone
      rw [hzero]
      constructor
      · intro hde
        exact absurd hde (hnone d (List.mem_of_getElem? hr))
      · intro hlt
        omega

/-- Another sample in the place of one changes a number of samples by one at most. -/
theorem countP_set_le (p : Double → Bool) (ds : List Double) (i : ℕ) (x : Double) :
    (ds.set i x).countP p ≤ ds.countP p + 1 ∧ ds.countP p ≤ (ds.set i x).countP p + 1 := by
  by_cases hi : i < ds.length
  · have hds : ds = ds.take i ++ ds[i] :: ds.drop (i + 1) := by
      rw [List.getElem_cons_drop, List.take_append_drop]
    have hset : ds.set i x = ds.take i ++ x :: ds.drop (i + 1) :=
      List.set_eq_take_append_cons_drop.trans (if_pos hi)
    have hcount : ds.countP p = (ds.take i ++ ds[i] :: ds.drop (i + 1)).countP p :=
      congrArg (List.countP p) hds
    rw [hset, hcount]
    simp only [List.countP_append, List.countP_cons]
    split <;> split <;> omega
  · rw [List.set_eq_of_length_le (by omega)]
    omega

/-- A double is not in front of any sample of a lower rank, and not behind any sample of a higher
one. -/
structure BetweenNeighbours (s : List Double) (r : ℕ) (d : Double) : Prop where
  front : ∀ e ∈ s.take r, e.totalLE d
  back : ∀ e ∈ s.drop (r + 1), d.totalLE e

/-- Another sample in the place of one moves no rank beyond its neighbours. -/
theorem Arranges.betweenNeighbours {i : ℕ} {x : Double} (hs : Arranges s ds)
    (hs' : Arranges s' (ds.set i x)) (hr : s'[r]? = some d) : BetweenNeighbours s r d := by
  have hcount (e : Double) : s'.countP (·.totalLE e) ≤ s.countP (·.totalLE e) + 1 ∧
      s.countP (·.totalLE e) ≤ s'.countP (·.totalLE e) + 1 := by
    rw [hs.perm.countP_eq, hs'.perm.countP_eq]
    exact countP_set_le (·.totalLE e) ds i x
  constructor
  · intro e he
    obtain ⟨q, hq⟩ := List.mem_iff_getElem?.1 he
    rw [List.getElem?_take, Option.ite_none_right_eq_some] at hq
    have hlt : r < s'.countP (·.totalLE d) :=
      (totalLE_iff_lt_countP hs'.ordered hr).1 (totalLE_iff.2 le_rfl)
    have hle := (hcount d).1
    apply (totalLE_iff_lt_countP hs.ordered hq.2).2
    omega
  · intro e he
    obtain ⟨q, hq⟩ := List.mem_iff_getElem?.1 he
    rw [List.getElem?_drop] at hq
    have hlt : r + 1 + q < s.countP (·.totalLE e) :=
      (totalLE_iff_lt_countP hs.ordered hq).1 (totalLE_iff.2 le_rfl)
    have hle := (hcount e).2
    apply (totalLE_iff_lt_countP hs'.ordered hr).2
    omega

end Ranks

end Double

namespace Window

open Double (Arranges BetweenNeighbours)

variable {w w' : Window Double}

/-! ## The median -/

/-- The median of `n` samples, where `stands r d` says that `d` may stand at rank `r`, counted from
zero: for odd `n` the sample in the middle, for even `n` half the sum of the two in the middle. -/
def IsMedianBy (stands : ℕ → Double → Prop) (n : ℕ) (m : Option Float) : Prop :=
  if n % 2 = 1 then ∃ d, stands (n / 2) d ∧ m = some d.value
  else ∃ d e, stands (n / 2 - 1) d ∧ stands (n / 2) e ∧ m = some ((d.value + e.value) / 2.0)

theorem arranges_sorted (w : Window Double) : Arranges w.sorted w.samples :=
  Double.arranges_mergeSort w.samples

/-- The order in which the samples came is of no account. -/
theorem middle?_of_perm (h : w'.samples.Perm w.samples) : w'.middle? = w.middle? := by
  have hsorted : w'.sorted = w.sorted := w'.arranges_sorted.unique w.arranges_sorted h
  rw [middle?, middle?, hsorted, h.length_eq]

theorem median?_of_perm (h : w'.samples.Perm w.samples) : w'.median? = w.median? := by
  rw [median?, median?, middle?_of_perm h, h.length_eq]

theorem isMedianBy_median? (hne : w.samples ≠ []) {stands : ℕ → Double → Prop}
    (h : ∀ r d, w.sorted[r]? = some d → stands r d) : IsMedianBy stands w.size w.median? := by
  have hlength : w.sorted.length = w.samples.length := w.arranges_sorted.perm.length_eq
  have hpos : 0 < w.samples.length := List.length_pos_iff.2 hne
  obtain ⟨low, hlow⟩ : ∃ d, w.sorted[(w.samples.length - 1) / 2]? = some d :=
    ⟨_, List.getElem?_eq_getElem (by omega)⟩
  obtain ⟨high, hhigh⟩ : ∃ d, w.sorted[w.samples.length / 2]? = some d :=
    ⟨_, List.getElem?_eq_getElem (by omega)⟩
  have hmiddle : w.middle? = some (low, high) := by simp [middle?, hlow, hhigh]
  unfold IsMedianBy size
  rw [median?, hmiddle, Option.map_some]
  by_cases hodd : w.samples.length % 2 = 1
  · rw [if_pos hodd]
    have heven : ¬ w.samples.length % 2 = 0 := by omega
    exact ⟨high, h _ _ hhigh, congrArg some (if_neg heven)⟩
  · rw [if_neg hodd]
    have heven : w.samples.length % 2 = 0 := by omega
    have hrank : (w.samples.length - 1) / 2 = w.samples.length / 2 - 1 := by omega
    rw [hrank] at hlow
    exact ⟨low, high, h _ _ hlow, h _ _ hhigh, congrArg some (if_pos heven)⟩

/-- Another sample stands in the place of one. -/
def replace (w : Window Double) (i : ℕ) (x : Double) : Window Double :=
  { w with samples := w.samples.set i x }

/-- The median is an order statistic.  It hangs on the samples and not on their order, it is taken
from the middle of the one arrangement of the samples in the total order, and if any one sample is
replaced by any double, it is taken from doubles that do not leave the neighbours of the middle. -/
theorem median?_orderStatistic (w : Window Double) (hne : w.samples ≠ []) :
    (∀ w' : Window Double, w'.samples.Perm w.samples →
      w'.middle? = w.middle? ∧ w'.median? = w.median?) ∧
      ∃ s, (∀ t, Arranges t w.samples ↔ t = s) ∧
        IsMedianBy (fun r d => s[r]? = some d) w.size w.median? ∧
        ∀ i x, IsMedianBy (BetweenNeighbours s) w.size (w.replace i x).median? := by
  refine ⟨fun w' h => ⟨middle?_of_perm h, median?_of_perm h⟩, w.sorted, ?_, ?_, ?_⟩
  · intro t
    constructor
    · intro ht
      exact ht.unique w.arranges_sorted (List.Perm.refl _)
    · rintro rfl
      exact w.arranges_sorted
  · exact isMedianBy_median? hne fun r d hr => hr
  · intro i x
    have hlength : (w.replace i x).size = w.size := List.length_set
    have hne' : (w.replace i x).samples ≠ [] := by
      apply List.ne_nil_of_length_pos
      rw [← size, hlength]
      exact List.length_pos_iff.2 hne
    rw [← hlength]
    apply isMedianBy_median? hne'
    intro r d hr
    exact w.arranges_sorted.betweenNeighbours (w.replace i x).arranges_sorted hr

/-- An infinity, both zeros and a negative sample that is not a number. -/
def mixedWindow : Window Double :=
  ⟨4, [⟨0x7FF0000000000000⟩, ⟨0⟩, ⟨0xFFF8000000000000⟩, ⟨0x8000000000000000⟩]⟩

theorem median?_orderStatistic_mixedWindow :
    mixedWindow.samples ≠ [] ∧
      (Window.mk 4 mixedWindow.samples.reverse).median? = mixedWindow.median? ∧
      ∃ s, s = [⟨0xFFF8000000000000⟩, ⟨0x8000000000000000⟩, ⟨0⟩, ⟨0x7FF0000000000000⟩] ∧
        IsMedianBy (fun r d => s[r]? = some d) 4 mixedWindow.median? ∧
        IsMedianBy (BetweenNeighbours s) 4 (mixedWindow.replace 3 ⟨0x7FF0000000000000⟩).median? := by
  have hne : mixedWindow.samples ≠ [] := by decide
  obtain ⟨hperm, s, hs, hmedian, hreplace⟩ := median?_orderStatistic mixedWindow hne
  have harranged : Arranges [⟨0xFFF8000000000000⟩, ⟨0x8000000000000000⟩, ⟨0⟩, ⟨0x7FF0000000000000⟩]
      mixedWindow.samples := ⟨by decide, by decide⟩
  exact ⟨hne, (hperm _ (List.reverse_perm _)).2, s, ((hs _).1 harranged).symm, hmedian,
    hreplace 3 _⟩

end Window

end ShaderPreview
