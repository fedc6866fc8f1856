import Mathlib.Data.List.DropRight
import ShaderPreview.Proofs.Text.EndedLines

/-!
# Trimmed lines

`trimmedLines` are the lines of a text up to the white space around them.  They are the lines that a
text is made of (`trimmedLines_unlines_append`), whichever line ends it uses.
-/

namespace ShaderPreview

namespace Text

/-! ## Trimming -/

theorem dropWhile_isBlank_append {w : List Char} (s : List Char) (hw : ∀ c ∈ w, isBlank c) :
    (s ++ w).dropWhile isBlank = if s.all isBlank then [] else s.dropWhile isBlank ++ w := by
  induction s with
  | nil => exact List.dropWhile_eq_nil_iff.2 hw
  | cons c s ih =>
    by_cases hc : isBlank c
    · simp [hc, ih]
    · simp [hc]

theorem trimEnd_append {w : List Char} (s : List Char) (hw : ∀ c ∈ w, isBlank c) :
    trimEnd (s ++ w) = trimEnd s := by
  rw [trimEnd, List.reverse_append, List.dropWhile_append_of_pos (by simpa using hw), trimEnd]

/-- White space at the end does not matter to a trimmed text. -/
theorem trim_append {w : List Char} (s : List Char) (hw : ∀ c ∈ w, isBlank c) :
    trim (s ++ w) = trim s := by
  rw [trim, trimStart, dropWhile_isBlank_append s hw]
  split
  · rename_i hs
    have hnil : trimStart s = [] := List.dropWhile_eq_nil_iff.2 (List.all_eq_true.1 hs)
    rw [trim, hnil]
  · exact trimEnd_append _ hw

/-- What `trimEnd` drops is white space. -/
theorem exists_trimEnd_append (s : List Char) :
    ∃ w : List Char, s = trimEnd s ++ w ∧ ∀ c ∈ w, isBlank c := by
  refine ⟨(s.reverse.takeWhile isBlank).reverse, ?_, ?_⟩
  · rw [trimEnd, ← List.reverse_append, List.takeWhile_append_dropWhile, List.reverse_reverse]
  · intro c hc
    exact List.all_eq_true.1 List.all_takeWhile c (List.mem_reverse.1 hc)

/-- What `trimNewlines` drops is line feeds. -/
theorem exists_trimNewlines_append (s : List Char) :
    ∃ front back : List Char, s = front ++ trimNewlines s ++ back ∧ (∀ c ∈ front, c = '\n') ∧
      ∀ c ∈ back, c = '\n' := by
  set t := s.dropWhile (· == '\n') with ht
  have hnewlines (u : List Char) (c : Char) (hc : c ∈ u.takeWhile (· == '\n')) : c = '\n' := by
    simpa using List.all_eq_true.1 List.all_takeWhile c hc
  have hend : t = trimNewlines s ++ (t.reverse.takeWhile (· == '\n')).reverse := by
    rw [trimNewlines, ← ht, ← List.reverse_append, List.takeWhile_append_dropWhile,
      List.reverse_reverse]
  refine ⟨s.takeWhile (· == '\n'), (t.reverse.takeWhile (· == '\n')).reverse, ?_, hnewlines s,
    fun c hc => hnewlines _ c (List.mem_reverse.1 hc)⟩
  rw [List.append_assoc, ← hend, ht, List.takeWhile_append_dropWhile]

/-- No line feed stands at either end of what `trimNewlines` leaves. -/
theorem ends_trimNewlines (s : List Char) :
    (trimNewlines s).head? ≠ some '\n' ∧ (trimNewlines s).getLast? ≠ some '\n' := by
  set t := s.dropWhile (· == '\n') with ht
  have hfirst (u : List Char) : (u.dropWhile (· == '\n')).head? ≠ some '\n' := fun h => by
    have hnot := List.head?_dropWhile_not (· == '\n') u
    rw [h] at hnot
    cases hnot
  constructor
  · obtain ⟨w, hw⟩ : trimNewlines s <+: t := by
      have h := List.dropWhile_suffix (l := t.reverse) (· == '\n')
      rw [← List.reverse_prefix, List.reverse_reverse] at h
      exact h
    rcases hn : trimNewlines s with _ | ⟨c, u⟩
    · simp
    · have hhead := hfirst s
      rw [← ht, ← hw, hn] at hhead
      exact hhead
  · rw [trimNewlines, List.getLast?_reverse]
    exact hfirst t.reverse

theorem trim_eq_nil_of_isAllBlank {s : List Char} (h : isAllBlank s) : trim s = [] := by
  have hnil : trimStart s = [] := List.dropWhile_eq_nil_iff.2 (List.all_eq_true.1 h)
  rw [trim, hnil]
  rfl

theorem trim_trim (s : List Char) : trim (trim s) = trim s := by
  obtain ⟨w, hs, hw⟩ := exists_trimEnd_append (trimStart s)
  have hstart : trimStart (trim s) = trim s := by
    rw [trim]
    rcases htrim : trimEnd (trimStart s) with _ | ⟨c, t⟩
    · rfl
    · refine List.dropWhile_cons_of_neg fun hc => ?_
      rw [htrim] at hs
      have hdrop : (trimStart s).dropWhile isBlank = trimStart s :=
        List.dropWhile_idempotent isBlank s
      rw [hs, List.cons_append, List.dropWhile_cons_of_pos hc] at hdrop
      have hlength := (List.dropWhile_suffix (l := t ++ w) isBlank).length_le
      rw [hdrop] at hlength
      simp only [List.length_cons, List.length_append] at hlength
      omega
  calc
    trim (trim s) = trimEnd (trim s) := by rw [trim, hstart]
    _ = trimEnd (trim s ++ w) := (trimEnd_append _ hw).symm
    _ = trim s := by rw [trim, ← hs]

theorem mem_of_mem_trim {c : Char} {s : List Char} (h : c ∈ trim s) : c ∈ s := by
  have hend : c ∈ trimStart s :=
    List.mem_reverse.1 ((List.dropWhile_suffix _).mem (List.mem_reverse.1 h))
  exact (List.dropWhile_suffix _).mem hend

/-! ## The trimmed lines of a text -/

/-- The lines of a text without the white space around them. -/
def trimmedLines (s : List Char) : List (List Char) := (lines s).map trim

@[simp] theorem trimmedLines_nil : trimmedLines [] = [] := rfl

theorem trimmedLines_append_lineEnd {l e : List Char} (s : List Char) (hl : '\n' ∉ l)
    (he : IsLineEnd e) : trimmedLines (l ++ e ++ s) = trim l :: trimmedLines s := by
  have htrim {k w : List Char} (hk : l = k ++ w) (hw : ∀ c ∈ w, isBlank c) : trim k = trim l := by
    rw [hk, trim_append k hw]
  have hcut {k e' : List Char} (hk : '\n' ∉ k) (he' : IsLineEnd e')
      (hr : e' = ['\n'] → k.getLast? ≠ some '\r') :
      trimmedLines (k ++ e' ++ s) = trim k :: trimmedLines s := by
    rw [trimmedLines, lines_eq_map_endedLines, endedLines_append s hk he' hr, trimmedLines,
      lines_eq_map_endedLines, List.map_cons, List.map_cons]
  rcases he with rfl | rfl
  · by_cases hlast : l.getLast? = some '\r'
    · -- the carriage return at the end of the line belongs to the line end
      obtain ⟨k, rfl⟩ := List.getLast?_eq_some_iff.1 hlast
      have hk : trimmedLines (k ++ ['\r', '\n'] ++ s) = trim k :: trimmedLines s :=
        hcut (fun h => hl (List.mem_append_left ['\r'] h)) (.inr rfl) (by simp)
      rw [htrim rfl (List.all_eq_true.1 rfl)] at hk
      simpa using hk
    · exact hcut hl (.inl rfl) fun _ => hlast
  · exact hcut hl (.inr rfl) (by simp)

theorem trimmedLines_of_not_mem {l : List Char} (hl : '\n' ∉ l) (hne : l ≠ []) :
    trimmedLines l = [trim l] := by
  rw [trimmedLines, lines_eq_map_endedLines, endedLines_of_not_mem hl hne]
  rfl

/-- The trimmed lines of lines that are closed one by one. -/
theorem trimmedLines_unlines_append {ls : List (List Char)} (s : List Char)
    (hls : ∀ l ∈ ls, '\n' ∉ l) :
    trimmedLines (unlines ls ++ s) = ls.map trim ++ trimmedLines s := by
  induction ls with
  | nil => rfl
  | cons l ls ih =>
    have ih := ih fun k hk => hls k (List.mem_cons_of_mem l hk)
    have hl := trimmedLines_append_lineEnd (unlines ls ++ s) (hls l List.mem_cons_self) (.inl rfl)
    rw [ih] at hl
    simpa [unlines] using hl

/-- A text can be cut behind a line feed. -/
theorem trimmedLines_append_newline_append (s t : List Char) :
    trimmedLines (s ++ ['\n'] ++ t) = trimmedLines (s ++ ['\n']) ++ trimmedLines t := by
  induction s using endedLines_induction with
  | nil => exact trimmedLines_append_lineEnd (l := []) t List.not_mem_nil (.inl rfl)
  | last l hl _ _ =>
    have hline := trimmedLines_append_lineEnd [] hl (.inl rfl)
    rw [List.append_nil] at hline
    rw [trimmedLines_append_lineEnd t hl (.inl rfl), hline]
    rfl
  | line l e s hl he _ ih =>
    rw [List.append_assoc (l ++ e ++ s), List.append_assoc (l ++ e),
      trimmedLines_append_lineEnd _ hl he, List.append_assoc (l ++ e),
      trimmedLines_append_lineEnd _ hl he, ← List.append_assoc s, ih, List.cons_append]

/-! ## Empty lines -/

section EmptyLines

variable {p : List Char → Bool}

/-- A text of white space has no lines but empty ones. -/
theorem filter_trimmedLines_of_isAllBlank {s : List Char} (hp : p [] = false)
    (hs : isAllBlank s) : (trimmedLines s).filter p = [] := by
  refine List.filter_eq_nil_iff.2 fun t ht => ?_
  obtain ⟨l, hl, rfl⟩ := List.mem_map.1 ht
  have hblank : isAllBlank l := List.all_eq_true.2 fun c hc =>
    List.all_eq_true.1 hs c ((infix_of_mem_lines hl).subset hc)
  simp [trim_eq_nil_of_isAllBlank hblank, hp]

theorem filter_trimmedLines_newlines_append {w : List Char} (s : List Char) (hp : p [] = false)
    (hw : ∀ c ∈ w, c = '\n') : (trimmedLines (w ++ s)).filter p = (trimmedLines s).filter p := by
  induction w with
  | nil => rfl
  | cons c w ih =>
    obtain rfl := hw c List.mem_cons_self
    have hcons : trimmedLines ('\n' :: (w ++ s)) = [] :: trimmedLines (w ++ s) :=
      trimmedLines_append_lineEnd (l := []) (w ++ s) List.not_mem_nil (.inl rfl)
    rw [List.cons_append, hcons, List.filter_cons_of_neg (by simp [hp])]
    exact ih fun c hc => hw c (List.mem_cons_of_mem _ hc)

theorem filter_trimmedLines_append_newlines {w : List Char} (s : List Char) (hp : p [] = false)
    (hw : ∀ c ∈ w, c = '\n') : (trimmedLines (s ++ w)).filter p = (trimmedLines s).filter p := by
  induction s using endedLines_induction with
  | nil => simpa using filter_trimmedLines_newlines_append [] hp hw
  | last l hl hne _ =>
    rcases w with _ | ⟨c, w⟩
    · rw [List.append_nil]
    · obtain rfl := hw c List.mem_cons_self
      have hw : (trimmedLines w).filter p = [] := by
        simpa using filter_trimmedLines_newlines_append [] hp
          fun c hc => hw c (List.mem_cons_of_mem _ hc)
      have hline := trimmedLines_append_lineEnd w hl (.inl rfl)
      rw [List.append_assoc, List.singleton_append] at hline
      rw [hline, trimmedLines_of_not_mem hl hne, List.filter_cons, List.filter_cons, hw,
        List.filter_nil]
  | line l e s hl he _ ih =>
    rw [List.append_assoc, trimmedLines_append_lineEnd _ hl he, trimmedLines_append_lineEnd _ hl he,
      List.filter_cons, List.filter_cons, ih]

/-- Line feeds around a text only add empty lines. -/
theorem filter_trimmedLines_trimNewlines (s : List Char) (hp : p [] = false) :
    (trimmedLines (trimNewlines s)).filter p = (trimmedLines s).filter p := by
  obtain ⟨front, back, hs, hfront, hback⟩ := exists_trimNewlines_append s
  calc
    (trimmedLines (trimNewlines s)).filter p = (trimmedLines (trimNewlines s ++ back)).filter p :=
      (filter_trimmedLines_append_newlines _ hp hback).symm
    _ = (trimmedLines (front ++ (trimNewlines s ++ back))).filter p :=
      (filter_trimmedLines_newlines_append _ hp hfront).symm
    _ = (trimmedLines s).filter p := by rw [← List.append_assoc, ← hs]

end EmptyLines

end Text

end ShaderPreview
