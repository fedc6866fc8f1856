import ShaderPreview.Text.Blank
import ShaderPreview.Text.Lines

/-!
# Lines and their ends

`endedLines` cuts a text into its lines, each together with the characters that end it, so that
nothing is lost (`flatMap_endedLines`).  Every text is empty, or one line without an end, or a line
with its end and a text behind it: `endedLines_induction` is the induction along these three shapes.
-/

namespace ShaderPreview

namespace Text

/-- A line feed, with or without a carriage return in front of it. -/
def IsLineEnd (e : List Char) : Prop := e = ['\n'] ∨ e = ['\r', '\n']

/-- The lines of a text, each with the characters that end it. -/
def endedLines : List Char → List (List Char × List Char)
  | [] => []
  | '\n' :: s => ([], ['\n']) :: endedLines s
  | '\r' :: '\n' :: s => ([], ['\r', '\n']) :: endedLines s
  | c :: s =>
    match endedLines s with
    | [] => [([c], [])]
    | (l, e) :: ls => (c :: l, e) :: ls

theorem lines_eq_map_endedLines (s : List Char) : lines s = (endedLines s).map Prod.fst := by
  fun_induction endedLines s with
  | case1 => rfl
  | case2 s ih => simp [lines, ih]
  | case3 s ih => simp [lines, ih]
  | case4 c s hn hr h ih =>
    rw [h] at ih
    simp [lines, ih]
  | case5 c s hn hr l e ls h ih =>
    rw [h] at ih
    simp [lines, ih]

/-- The first line of a text, and the others. -/
theorem lines_eq_cons {s t l e : List Char} (h : endedLines t = (l, e) :: endedLines s) :
    lines t = l :: lines s := by
  rw [lines_eq_map_endedLines, h, List.map_cons, ← lines_eq_map_endedLines]

/-- A line without an end is the whole text. -/
theorem endedLines_of_not_mem {l : List Char} (hl : '\n' ∉ l) (hne : l ≠ []) :
    endedLines l = [(l, [])] := by
  induction l with
  | nil => exact absurd rfl hne
  | cons c l ih =>
    obtain ⟨hc, hl⟩ := List.ne_and_not_mem_of_not_mem_cons hl
    rcases l with _ | ⟨d, l⟩
    · rw [endedLines.eq_4 _ _ (Ne.symm hc) (by simp)]
      rfl
    · have hd : '\n' ≠ d := (List.ne_of_not_mem_cons hl)
      rw [endedLines.eq_4 _ _ (Ne.symm hc) (fun s _ h => hd (List.cons.inj h).1.symm),
        ih hl (List.cons_ne_nil d l)]

/-- A line is cut off at its end, which takes a carriage return in front of the line feed along. -/
theorem endedLines_append {l e : List Char} (s : List Char) (hl : '\n' ∉ l) (he : IsLineEnd e)
    (hr : e = ['\n'] → l.getLast? ≠ some '\r') :
    endedLines (l ++ e ++ s) = (l, e) :: endedLines s := by
  induction l with
  | nil => rcases he with rfl | rfl <;> rfl
  | cons c l ih =>
    obtain ⟨hc, htail⟩ := List.ne_and_not_mem_of_not_mem_cons hl
    have ih := ih htail fun h hlast => hr h (by rcases l <;> simp_all)
    rw [List.cons_append, List.cons_append, endedLines.eq_4 _ _ (Ne.symm hc), ih]
    rintro t rfl ht
    rcases l with _ | ⟨d, l⟩
    · rcases he with rfl | rfl
      · exact hr rfl rfl
      · simp at ht
    · exact List.ne_of_not_mem_cons htail (List.cons.inj ht).1.symm

/-- Induction along the lines of a text. -/
theorem endedLines_induction {motive : List Char → Prop} (nil : motive [])
    (last : ∀ l, '\n' ∉ l → l ≠ [] → endedLines l = [(l, [])] → motive l)
    (line : ∀ l e s, '\n' ∉ l → IsLineEnd e → endedLines (l ++ e ++ s) = (l, e) :: endedLines s →
      motive s → motive (l ++ e ++ s))
    (s : List Char) : motive s := by
  induction hn : s.length using Nat.strongRecOn generalizing s with
  | _ n ih =>
    by_cases hs : '\n' ∈ s
    · obtain ⟨l, t, rfl, hl⟩ := List.eq_append_cons_of_mem hs
      have ht : motive t := ih _ (by simp at hn; omega) t rfl
      by_cases hr : l.getLast? = some '\r'
      · obtain ⟨k, rfl⟩ := List.getLast?_eq_some_iff.1 hr
        have hk : '\n' ∉ k := fun h => hl (List.mem_append_left _ h)
        have h := line k ['\r', '\n'] t hk (.inr rfl)
          (endedLines_append t hk (.inr rfl) (by simp)) ht
        simpa using h
      · have h := line l ['\n'] t hl (.inl rfl) (endedLines_append t hl (.inl rfl) fun _ => hr) ht
        simpa using h
    · by_cases hne : s = []
      · rw [hne]
        exact nil
      · exact last s hs hne (endedLines_of_not_mem hs hne)

/-- Nothing of a text is lost when it is cut into lines. -/
theorem flatMap_endedLines (s : List Char) : (endedLines s).flatMap (fun p => p.1 ++ p.2) = s := by
  induction s using endedLines_induction with
  | nil => rfl
  | last l hl hne h => simp [h]
  | line l e s hl he h ih => rw [h, List.flatMap_cons, ih]

theorem newline_not_mem_of_mem_lines {l s : List Char} (h : l ∈ lines s) : '\n' ∉ l := by
  induction s using endedLines_induction with
  | nil => cases h
  | last k hk hne hs =>
    rw [lines_eq_map_endedLines, hs] at h
    rw [List.mem_singleton.1 h]
    exact hk
  | line k e s hk he hs ih =>
    rw [lines_eq_cons hs] at h
    rcases List.mem_cons.1 h with rfl | h
    · exact hk
    · exact ih h

theorem infix_of_mem_lines {l s : List Char} (h : l ∈ lines s) : l <:+: s := by
  rw [lines_eq_map_endedLines] at h
  obtain ⟨p, hp, rfl⟩ := List.mem_map.1 h
  obtain ⟨front, back, hsplit⟩ := List.append_of_mem hp
  refine ⟨front.flatMap fun p => p.1 ++ p.2, p.2 ++ back.flatMap fun p => p.1 ++ p.2, ?_⟩
  rw [← flatMap_endedLines s, hsplit]
  simp

/-! ## Lines that are closed one by one -/

/-- A line without a carriage return at its end. -/
def dropReturn (l : List Char) : List Char :=
  if l.getLast? = some '\r' then l.dropLast else l

theorem eq_or_append_dropReturn (l : List Char) : l = dropReturn l ∨ l = dropReturn l ++ ['\r'] := by
  rw [dropReturn]
  split
  · rename_i h
    obtain ⟨k, rfl⟩ := List.getLast?_eq_some_iff.1 h
    exact .inr (by rw [List.dropLast_concat])
  · exact .inl rfl

theorem lines_append_newline_append {l : List Char} (s : List Char) (hl : '\n' ∉ l) :
    lines (l ++ ['\n'] ++ s) = dropReturn l :: lines s := by
  rw [dropReturn]
  split
  · -- the carriage return belongs to the line end
    rename_i h
    obtain ⟨k, rfl⟩ := List.getLast?_eq_some_iff.1 h
    have hk : '\n' ∉ k := fun hc => hl (List.mem_append_left ['\r'] hc)
    have hlines := lines_eq_cons (endedLines_append s hk (.inr rfl) (by simp))
    rw [List.dropLast_concat]
    simpa using hlines
  · rename_i h
    exact lines_eq_cons (endedLines_append s hl (.inl rfl) fun _ => h)

/-- Lines that are closed one by one are found again, without the carriage returns at their ends. -/
theorem lines_unlines {ls : List (List Char)} (hls : ∀ l ∈ ls, '\n' ∉ l) :
    lines (unlines ls) = ls.map dropReturn := by
  induction ls with
  | nil => rfl
  | cons l ls ih =>
    obtain ⟨hl, hls⟩ := List.forall_mem_cons.1 hls
    rw [List.map_cons, ← ih hls, ← lines_append_newline_append (unlines ls) hl]
    simp [unlines]

theorem join_eq_intercalate (sep : List Char) (ts : List (List Char)) :
    join sep ts = sep.intercalate ts := by
  fun_induction join sep ts with
  | case1 => rfl
  | case2 t => exact List.intercalate_singleton.symm
  | case3 t ts hne ih => rw [ih, List.intercalate_cons_of_ne_nil hne]

end Text

end ShaderPreview
