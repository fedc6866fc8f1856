import Mathlib.Data.List.GetD
import Mathlib.Data.List.Intervals
import ShaderPreview.Diagnostic.Basic
import ShaderPreview.Proofs.Text.EndedLines

/-!
# The rows of an excerpt

An excerpt has one row for each line number of its window (`rows_eq`), and since no line has a line
feed it can be cut into its rows again (`ofSource?_rows`).  In front of the bar all rows are equally
long (`length_margin`): no number shown has more digits than the last one.
-/

namespace ShaderPreview

namespace Excerpt

open Text

variable {line count k : ℕ}

/-! ## The window -/

theorem isSome_ofSource?_iff (source : List Char) (line : ℕ) :
    (ofSource? source line).isSome ↔ 1 ≤ line ∧ line ≤ (lines source).length := by
  unfold ofSource?
  dsimp only
  split
  · simp only [Option.isSome_none, Bool.false_eq_true, false_iff]
    omega
  · simp only [Option.isSome_some, true_iff]
    omega

/-- The numbers of the lines shown around `line`, of `count` lines. -/
def window (line count : ℕ) : List ℕ := List.Ico (max 1 (line - 2)) (min count (line + 2) + 1)

theorem mem_window : k ∈ window line count ↔ max 1 (line - 2) ≤ k ∧ k ≤ min count (line + 2) := by
  rw [window, List.Ico.mem]
  omega

theorem first_eq (line : ℕ) : first line = max 1 (line - 2) := Nat.max_comm _ _

theorem last_eq (line count : ℕ) : last line count = min count (line + 2) := Nat.min_comm _ _

/-- The width of the numbers: that of the last one shown. -/
def width (line count : ℕ) : ℕ := (Decimal.ofNat (min count (line + 2))).length

/-- A row in front of its bar: the marker and the number, aligned on the right. -/
def margin (line width k : ℕ) : List Char :=
  (if k = line then "->" else "  ").toList ++ [' '] ++
    (List.replicate (width - (Decimal.ofNat k).length) ' ' ++ Decimal.ofNat k)

theorem row_eq (line width k : ℕ) (text : List Char) :
    row line width k text = margin line width k ++ " | ".toList ++ text := by
  unfold row margin Decimal.padLeft
  rw [List.append_assoc (_ ++ [' '])]

/-- There is one row for each number of the window, with the line of this number. -/
theorem rows_eq (ls : List (List Char)) (hline : 1 ≤ line) (hle : line ≤ ls.length) :
    rows ls line = (window line ls.length).map fun k =>
      margin line (width line ls.length) k ++ " | ".toList ++ ls.getD (k - 1) [] := by
  unfold rows
  simp only [first_eq, last_eq]
  generalize hlow : max 1 (line - 2) = low
  generalize hhigh : min ls.length (line + 2) = high
  have hlength : ((ls.drop (low - 1)).take (high + 1 - low)).length = high + 1 - low := by
    rw [List.length_take, List.length_drop]
    omega
  have hwindow : window line ls.length = List.range' low (high + 1 - low) := by
    rw [window, hlow, hhigh, List.Ico]
  refine List.ext_getElem ?_ fun i hi hi' => ?_
  · rw [List.length_map, List.length_zipIdx, hlength, List.length_map, hwindow, List.length_range']
  · rw [List.length_map, List.length_zipIdx, hlength] at hi
    have hindex : low - 1 + i < ls.length := by omega
    have hnumber : low + i - 1 = low - 1 + i := by omega
    simp only [List.getElem_map, List.getElem_zipIdx, List.getElem_take, List.getElem_drop, hwindow,
      List.getElem_range', Nat.one_mul, row_eq, hnumber, List.getD_eq_getElem _ _ hindex]
    rw [width, hhigh]

theorem length_ofNat_le {m n : ℕ} (h : m ≤ n) :
    (Decimal.ofNat m).length ≤ (Decimal.ofNat n).length := by
  have hpos : 0 < (Decimal.ofNat n).length := Nat.length_toDigits_pos
  have hlt : n < 10 ^ (Decimal.ofNat n).length :=
    (Nat.length_toDigits_le_iff (by decide) hpos).1 le_rfl
  exact (Nat.length_toDigits_le_iff (by decide) hpos).2 (h.trans_lt hlt)

theorem length_margin (hk : k ∈ window line count) :
    (margin line (width line count) k).length = 3 + width line count := by
  have hle : (Decimal.ofNat k).length ≤ width line count := length_ofNat_le (mem_window.1 hk).2
  have hmarker : (if k = line then "->" else "  ").toList.length = 2 := by split <;> rfl
  rw [margin, List.length_append, List.length_append, List.length_append, hmarker,
    List.length_replicate, List.length_singleton, Nat.sub_add_cancel hle]

/-! ## Rows and line feeds -/

theorem newline_not_mem_margin (line width k : ℕ) : '\n' ∉ margin line width k := by
  have hmarker : '\n' ∉ (if k = line then "->" else "  ").toList := by split <;> decide
  have hdigits : '\n' ∉ Decimal.ofNat k := fun h =>
    absurd (Nat.isDigit_of_mem_toDigits (by decide) (by decide) h) (by decide)
  have hblank : '\n' ∉ List.replicate (width - (Decimal.ofNat k).length) ' ' := fun h =>
    absurd (List.eq_of_mem_replicate h) (by decide)
  simp only [margin, List.mem_append, not_or]
  exact ⟨⟨hmarker, by decide⟩, hblank, hdigits⟩

theorem newline_not_mem_getD_lines (source : List Char) (i : ℕ) :
    '\n' ∉ (lines source).getD i [] := by
  rcases lt_or_ge i (lines source).length with hi | hi
  · rw [List.getD_eq_getElem _ _ hi]
    exact newline_not_mem_of_mem_lines (List.getElem_mem hi)
  · rw [List.getD_eq_default _ _ hi]
    exact List.not_mem_nil

/-- There is an excerpt exactly around the lines of a source.  Cut at its line feeds, it is one row
for each number of the window in increasing order: the marker, the number, a bar and the line as it
is.  In front of the bar all rows are equally long. -/
theorem ofSource?_rows (source : List Char) (line : ℕ) :
    (ofSource? source line = none ↔ line = 0 ∨ (lines source).length < line) ∧
    ∀ excerpt, ofSource? source line = some excerpt →
      (excerpt.splitOn '\n' = (window line (lines source).length).map fun k =>
        margin line (width line (lines source).length) k ++ " | ".toList ++
          (lines source).getD (k - 1) []) ∧
      ∀ k ∈ window line (lines source).length, 1 ≤ k ∧ k ≤ (lines source).length ∧
        (margin line (width line (lines source).length) k).length =
          3 + width line (lines source).length := by
  have hsome := isSome_ofSource?_iff source line
  refine ⟨?_, fun excerpt hexcerpt => ⟨?_, fun k hk => ?_⟩⟩
  · rw [← Option.not_isSome_iff_eq_none, hsome]
    omega
  · obtain ⟨hline, hle⟩ := hsome.1 (by rw [hexcerpt]; rfl)
    obtain ⟨-, hrows⟩ := Option.ite_none_left_eq_some.1 hexcerpt
    have hne : rows (lines source) line ≠ [] := by
      rw [rows_eq _ hline hle]
      have hmem : line ∈ window line (lines source).length := mem_window.2 (by omega)
      exact fun h => List.ne_nil_of_mem hmem (List.map_eq_nil_iff.1 h)
    have hfree : ∀ r ∈ rows (lines source) line, '\n' ∉ r := by
      rw [rows_eq _ hline hle]
      intro r hr
      obtain ⟨k, -, rfl⟩ := List.mem_map.1 hr
      simp only [List.mem_append, not_or]
      exact ⟨⟨newline_not_mem_margin _ _ _, by decide⟩, newline_not_mem_getD_lines _ _⟩
    rw [← rows_eq _ hline hle, ← Option.some.inj hrows, join_eq_intercalate]
    exact List.splitOn_intercalate '\n' hfree hne
  · have hbounds := mem_window.1 hk
    exact ⟨by omega, by omega, length_margin hk⟩

/-- Twelve short lines. -/
def twelveLines : List Char := "a\nb\nc\nd\ne\nf\ng\nh\ni\nj\nk\nl".toList

/-- The numbers shown around line 9 change from one digit to two. -/
theorem ofSource?_rows_twelveLines :
    ∃ excerpt, ofSource? twelveLines 9 = some excerpt ∧
      excerpt.splitOn '\n' =
        ["    7 | g", "    8 | h", "->  9 | i", "   10 | j", "   11 | k"].map String.toList := by
  have hsome : ofSource? twelveLines 9 = some ((ofSource? twelveLines 9).get (by decide)) :=
    (Option.some_get _).symm
  refine ⟨_, hsome, ((ofSource?_rows twelveLines 9).2 _ hsome).1.trans ?_⟩
  decide

end Excerpt

end ShaderPreview
