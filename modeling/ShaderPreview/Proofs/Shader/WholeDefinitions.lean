import ShaderPreview.Proofs.Shader.Leftover
import ShaderPreview.Proofs.Text.Literal
import ShaderPreview.Shader.Program

/-!
# Definitions that end by themselves

A definition that is moved to the front takes along what it leaves open: behind a backslash at its
end, or inside a block comment, the text that follows it in the program is swallowed.  In the program
each text behind a definition starts afresh exactly if all definitions are self-contained, and they
are exactly if the source does not break off inside one and the lines that continue one leave no
comment open (`forall_isSelfContained_iff`).
-/

namespace ShaderPreview

namespace Shader

open Text

/-! ## White space around a line -/

theorem commentOpenAfter_append_blanks {w : List Char} (l : List Char) (isOpen : Bool)
    (hw : ∀ c ∈ w, isBlank c) : commentOpenAfter (l ++ w) isOpen = commentOpenAfter l isOpen := by
  induction w generalizing l with
  | nil => rw [List.append_nil]
  | cons c w ih =>
    obtain ⟨hc, hw⟩ := List.forall_mem_cons.1 hw
    rw [List.append_cons, ih _ hw]
    exact endsInComment_append_blank hc _ l

theorem commentOpenAfter_trimEnd (l : List Char) (isOpen : Bool) :
    commentOpenAfter (trimEnd l) isOpen = commentOpenAfter l isOpen := by
  obtain ⟨w, hl, hw⟩ := exists_trimEnd_append l
  conv_rhs => rw [hl]
  exact (commentOpenAfter_append_blanks _ isOpen hw).symm

/-- Outside comments the white space around a line does not matter. -/
theorem commentOpenAfter_trim (l : List Char) :
    commentOpenAfter (trim l) false = commentOpenAfter l false := by
  have hw : ∀ c ∈ l.takeWhile isBlank, c ≠ '/' ∧ isQuote c = false := fun c hc =>
    slash_quote_of_class (List.all_eq_true.1 List.all_takeWhile c hc) rfl rfl rfl
  have hstart := endsInComment_append (trimStart l) hw
  rw [trimStart, List.takeWhile_append_dropWhile] at hstart
  rw [trim, commentOpenAfter_trimEnd]
  exact hstart.symm

theorem commentOpenBehind_map_trimEnd (isOpen : Bool) (ls : List (List Char)) :
    commentOpenBehind isOpen (ls.map trimEnd) = commentOpenBehind isOpen ls := by
  rw [commentOpenBehind, List.foldl_map]
  simp only [commentOpenAfter_trimEnd]
  rfl

/-- A line that was trimmed at its end has no carriage return there. -/
theorem dropReturn_trimEnd (l : List Char) : dropReturn (trimEnd l) = trimEnd l := by
  refine if_neg fun hlast => ?_
  rw [trimEnd, List.getLast?_reverse] at hlast
  have hnot := List.head?_dropWhile_not isBlank l.reverse
  rw [hlast] at hnot
  cases hnot

/-! ## The lines of a definition -/

theorem endsInBackslash_append (s t : List Char) (ht : t ≠ []) :
    endsInBackslash (s ++ t) = endsInBackslash t := by
  rw [endsInBackslash, endsInBackslash, List.getLast?_append_of_ne_nil s ht]

/-- Lines that are joined end as the last of them does. -/
theorem endsInBackslash_join_iff (ts : List (List Char)) :
    endsInBackslash (join ['\n'] ts) = false ↔ ∀ t ∈ ts.getLast?, endsInBackslash t = false := by
  fun_induction join ['\n'] ts with
  | case1 => simp [endsInBackslash]
  | case2 t => simp
  | case3 t ts hne ih =>
    rw [List.getLast?_cons_of_ne_nil hne, ← ih]
    rcases hjoin : join ['\n'] ts with _ | ⟨c, u⟩
    · rw [List.append_nil, endsInBackslash_append t _ (List.cons_ne_nil _ _)]
      rfl
    · rw [endsInBackslash_append _ _ (List.cons_ne_nil c u)]

/-- Lines that are joined leave open what they leave open one by one. -/
theorem commentOpenBehind_lines_join {ts : List (List Char)} (isOpen : Bool)
    (hts : ∀ t ∈ ts, '\n' ∉ t) :
    commentOpenBehind isOpen (lines (join ['\n'] ts)) = commentOpenBehind isOpen ts := by
  fun_induction join ['\n'] ts generalizing isOpen with
  | case1 => rfl
  | case2 t =>
    rcases t with _ | ⟨c, t⟩
    · cases isOpen <;> rfl
    · have hlines := endedLines_of_not_mem (hts _ List.mem_cons_self) (List.cons_ne_nil c t)
      rw [lines_eq_map_endedLines, hlines]
      rfl
  | case3 t ts hne ih =>
    obtain ⟨ht, hts⟩ := List.forall_mem_cons.1 hts
    rw [lines_append_newline_append _ ht]
    change commentOpenBehind (commentOpenAfter (dropReturn t) isOpen) _ =
      commentOpenBehind (commentOpenAfter t isOpen) ts
    rw [commentOpenAfter_dropReturn, ih _ hts]

/-- Lines that are joined and closed are closed one by one. -/
theorem join_append_newline {ts : List (List Char)} (hts : ts ≠ []) :
    join ['\n'] ts ++ ['\n'] = unlines ts := by
  fun_induction join ['\n'] ts with
  | case1 => exact absurd rfl hts
  | case2 t => simp [unlines]
  | case3 t ts hne ih =>
    rw [List.append_assoc, ih hne]
    rfl

/-! ## Definitions one by one -/

/-- The definition ends by itself, neither in a backslash nor inside a block comment. -/
def IsSelfContained (d : List Char) : Prop :=
  endsInBackslash d = false ∧ commentOpenBehind false (lines d) = false

/-- What follows the text starts on a line of its own outside block comments. -/
structure EndsFresh (s : List Char) : Prop where
  ended : s.getLast? = some '\n'
  complete : ∀ l ∈ (lines s).getLast?, endsInBackslash l = false
  closed : commentOpenBehind false (lines s) = false

/-- Lines that can make up a definition, trimmed at their ends. -/
structure DefinitionLines (ts : List (List Char)) : Prop where
  ne_nil : ts ≠ []
  newline_not_mem : ∀ t ∈ ts, '\n' ∉ t
  dropReturn : ∀ t ∈ ts, dropReturn t = t

namespace DefinitionLines

variable {ts : List (List Char)}

theorem isSelfContained_iff (h : DefinitionLines ts) : IsSelfContained (join ['\n'] ts) ↔
    (∀ t ∈ ts.getLast?, endsInBackslash t = false) ∧ commentOpenBehind false ts = false := by
  rw [IsSelfContained, endsInBackslash_join_iff, commentOpenBehind_lines_join false h.newline_not_mem]

/-- Behind other lines too, the last line tells whether what follows is a line of its own. -/
theorem endsFresh_iff (h : DefinitionLines ts) {ls : List (List Char)} (hls : ∀ l ∈ ls, '\n' ∉ l) :
    EndsFresh (unlines (ls ++ ts)) ↔
      (∀ t ∈ ts.getLast?, endsInBackslash t = false) ∧ commentOpenBehind false (ls ++ ts) = false := by
  have hlines : lines (unlines (ls ++ ts)) = (ls ++ ts).map Text.dropReturn :=
    lines_unlines (List.forall_mem_append.2 ⟨hls, h.newline_not_mem⟩)
  have hlast : (lines (unlines (ls ++ ts))).getLast? = ts.getLast? := by
    rw [hlines, List.getLast?_map, List.getLast?_append_of_ne_nil ls h.ne_nil]
    rcases hlast : ts.getLast? with _ | t
    · rfl
    · exact congrArg some (h.dropReturn t (List.mem_of_getLast? hlast))
  have hclosed : commentOpenBehind false (lines (unlines (ls ++ ts))) =
      commentOpenBehind false (ls ++ ts) := by
    rw [hlines, commentOpenBehind_map_dropReturn]
  have hended : (unlines (ls ++ ts)).getLast? = some '\n' := by
    obtain ⟨us, t, rfl⟩ := (List.eq_nil_or_concat' ts).resolve_left h.ne_nil
    simp [unlines]
  constructor
  · intro hfresh
    exact ⟨hlast ▸ hfresh.complete, hclosed ▸ hfresh.closed⟩
  · rintro ⟨hcomplete, hopen⟩
    exact ⟨hended, hlast ▸ hcomplete, hclosed.trans hopen⟩

end DefinitionLines

/-! ## Definitions in the program -/

theorem unlines_append (ls ls' : List (List Char)) :
    unlines (ls ++ ls') = unlines ls ++ unlines ls' := List.flatMap_append

theorem unlines_map_join {tss : List (List (List Char))} (h : ∀ ts ∈ tss, ts ≠ []) :
    unlines (tss.map (join ['\n'])) = unlines tss.flatten := by
  induction tss with
  | nil => rfl
  | cons ts tss ih =>
    obtain ⟨hts, htss⟩ := List.forall_mem_cons.1 h
    rw [List.flatten_cons, unlines_append, ← ih htss, ← join_append_newline hts]
    simp [unlines]

theorem commentOpenBehind_flatten {tss : List (List (List Char))}
    (h : ∀ ts ∈ tss, commentOpenBehind false ts = false) :
    commentOpenBehind false tss.flatten = false := by
  induction tss with
  | nil => rfl
  | cons ts tss ih =>
    obtain ⟨hts, htss⟩ := List.forall_mem_cons.1 h
    rw [List.flatten_cons, commentOpenBehind_append, hts, ih htss]

/-- The lines of the program in front of the definitions. -/
def prologue : List (List Char) := Program.headerLines.map String.toList ++ [[]]

theorem unlines_prologue : Program.header ++ ['\n'] = unlines prologue := by
  rw [prologue, unlines_append]
  rfl

/-- Its lines are lines, and leave no comment open. -/
theorem prologue_closed :
    (∀ l ∈ prologue, '\n' ∉ l) ∧ commentOpenBehind false prologue = false := by
  unfold prologue Program.headerLines
  repeat rw [map_toList_cons]
  decide +kernel

/-- In the program the lines of a definition follow those of the definitions in front of it. -/
theorem endsFresh_program_iff {front : List (List (List Char))} {ts : List (List Char)}
    (hfront : ∀ us ∈ front, DefinitionLines us) (hts : DefinitionLines ts) :
    EndsFresh (Program.header ++ ['\n'] ++
        unlines (front.map (join ['\n']) ++ [join ['\n'] ts])) ↔
      (∀ t ∈ ts.getLast?, endsInBackslash t = false) ∧
        commentOpenBehind (commentOpenBehind false front.flatten) ts = false := by
  have hls : ∀ l ∈ prologue ++ front.flatten, '\n' ∉ l := by
    refine List.forall_mem_append.2 ⟨prologue_closed.1, fun l hl => ?_⟩
    obtain ⟨us, hus, hl⟩ := List.mem_flatten.1 hl
    exact (hfront us hus).newline_not_mem l hl
  have hprogram : Program.header ++ ['\n'] ++
      unlines (front.map (join ['\n']) ++ [join ['\n'] ts]) =
        unlines (prologue ++ front.flatten ++ ts) := by
    rw [unlines_prologue, unlines_append, unlines_map_join fun us hus => (hfront us hus).ne_nil,
      unlines_append, unlines_append, ← join_append_newline hts.ne_nil]
    simp [unlines]
  rw [hprogram, hts.endsFresh_iff hls, commentOpenBehind_append, commentOpenBehind_append,
    prologue_closed.2]

/-- All definitions end by themselves iff, in the program, what follows each of them starts
afresh. -/
theorem forall_isSelfContained_iff_endsFresh {tss : List (List (List Char))}
    (h : ∀ ts ∈ tss, DefinitionLines ts) :
    (∀ d ∈ tss.map (join ['\n']), IsSelfContained d) ↔
      ∀ front d back, tss.map (join ['\n']) = front ++ d :: back →
        EndsFresh (Program.header ++ ['\n'] ++ unlines (front ++ [d])) := by
  rw [List.forall_mem_map]
  constructor
  · intro hself front d back hd
    obtain ⟨front, rest, rfl, rfl, hrest⟩ := List.map_eq_append_iff.1 hd
    obtain ⟨ts, back, rfl, rfl, rfl⟩ := List.map_eq_cons_iff.1 hrest
    obtain ⟨hfront, hts⟩ := List.forall_mem_append.1 h
    have hts := hts ts List.mem_cons_self
    have hclosed : commentOpenBehind false front.flatten = false :=
      commentOpenBehind_flatten fun us hus =>
        ((hfront us hus).isSelfContained_iff.1 (hself us (List.mem_append_left _ hus))).2
    rw [endsFresh_program_iff hfront hts, hclosed]
    exact hts.isSelfContained_iff.1 (hself ts (by simp))
  · intro hfresh
    have hts {front back : List (List (List Char))} {ts : List (List Char)}
        (htss : tss = front ++ ts :: back) :
        (∀ t ∈ ts.getLast?, endsInBackslash t = false) ∧
          commentOpenBehind (commentOpenBehind false front.flatten) ts = false := by
      subst htss
      obtain ⟨hfront, hts⟩ := List.forall_mem_append.1 h
      refine (endsFresh_program_iff hfront (hts ts List.mem_cons_self)).1 ?_
      exact hfresh _ _ (back.map (join ['\n'])) (by rw [List.map_append]; rfl)
    -- the definition in front of another one leaves no comment open
    have hfront {front back : List (List (List Char))} (htss : tss = front ++ back) :
        commentOpenBehind false front.flatten = false := by
      rcases List.eq_nil_or_concat' front with rfl | ⟨us, ts, rfl⟩
      · rfl
      · have hclosed := (hts (htss.trans (List.append_assoc us [ts] back))).2
        rw [List.flatten_append, List.flatten_singleton, commentOpenBehind_append, hclosed]
    intro ts hmem
    obtain ⟨front, back, htss⟩ := List.append_of_mem hmem
    have hself := hts htss
    rw [hfront htss] at hself
    exact (h ts hmem).isSelfContained_iff.2 hself

/-! ## Definitions of a source -/

namespace Run

/-- The run is a definition that ends in a backslash. -/
def breaksOff (r : Run) : Bool := r.absorbed.getLast?.any endsInBackslash

theorem breaksOff_eq_false_iff {r : Run} :
    r.breaksOff = false ↔ ∀ t ∈ r.absorbed.getLast?, endsInBackslash t = false := by
  rw [breaksOff]
  cases r.absorbed.getLast? <;> simp

theorem lines_ne_nil (r : Run) : r.lines ≠ [] := by cases r <;> exact List.cons_ne_nil _ _

/-- In front of further lines a definition goes on behind a backslash. -/
theorem IsMet.breaksOff_eq_false {isOpen : Bool} {behind : List (List Char)} {r : Run}
    (h : r.IsMet isOpen behind) (hbehind : behind ≠ []) : r.breaksOff = false := by
  rw [breaksOff_eq_false_iff]
  intro t ht
  cases h with
  | definition _ _ _ hlast =>
    exact Bool.eq_false_iff.2 fun hback => hbehind (hlast t ht hback)
  | _ => cases ht

/-- What is absorbed of the lines of a source can make up a definition. -/
theorem definitionLines_absorbed {r : Run} (hr : ∀ l ∈ r.lines, '\n' ∉ l) (hne : r.absorbed ≠ []) :
    DefinitionLines r.absorbed := by
  refine ⟨hne, newline_not_mem_absorbed hr, ?_⟩
  cases r with
  | definition first continued =>
    refine List.forall_mem_cons.2 ⟨dropReturn_trimEnd _, fun t ht => ?_⟩
    obtain ⟨l, -, rfl⟩ := List.mem_map.1 ht
    exact dropReturn_trimEnd l
  | _ => exact absurd rfl hne

end Run

/-- The line that opens a definition leaves no comment open. -/
theorem commentOpenAfter_of_opensDefinition {st : LineState} {ls : List (List Char)}
    {text : List Char} (h : .opensDefinition text ∈ fatesFrom st ls) :
    commentOpenAfter text false = false := by
  obtain ⟨l, st₀, st₁, -, hstep⟩ := exists_line_of_mem h
  cases hstep with
  | opens _ _ _ _ hclosed => rw [commentOpenAfter_trim, hclosed]

/-- Only the last run of a source can break off. -/
theorem forall_breaksOff_iff (source : List Char) :
    (∀ r ∈ (runs source).getLast?, r.breaksOff = false) ↔
      ∀ r ∈ runs source, r.breaksOff = false := by
  constructor
  · intro h r hr
    obtain ⟨front, back, hruns⟩ := List.append_of_mem hr
    rcases back with _ | ⟨next, back⟩
    · exact h r (by rw [hruns, List.getLast?_concat]; rfl)
    · refine (isMet_runs hruns).breaksOff_eq_false ?_
      rw [List.flatMap_cons]
      exact List.append_ne_nil_of_left_ne_nil next.lines_ne_nil _
  · exact fun h r hr => h r (List.mem_of_getLast? hr)

/-- A definition of a source is self-contained if it does not break off and the lines that continue
it leave no comment open. -/
theorem isSelfContained_definition_iff {source first : List Char} {continued : List (List Char)}
    (h : .definition first continued ∈ runs source) :
    IsSelfContained (join ['\n'] (trim first :: continued.map trimEnd)) ↔
      (Run.definition first continued).breaksOff = false ∧
        commentOpenBehind false continued = false := by
  have hfates : .opensDefinition (trim first) ∈ fates source := by
    rw [← fates_runs]
    exact List.mem_flatMap.2 ⟨_, h, List.mem_cons_self⟩
  have hopen : commentOpenBehind false (trim first :: continued.map trimEnd) =
      commentOpenBehind false continued := by
    rw [← commentOpenBehind_map_trimEnd false continued]
    exact congrArg (commentOpenBehind · _) (commentOpenAfter_of_opensDefinition hfates)
  have hlines := Run.definitionLines_absorbed (newline_not_mem_lines_of_mem_runs h)
    (List.cons_ne_nil _ _)
  rw [Run.breaksOff_eq_false_iff, ← hopen]
  exact hlines.isSelfContained_iff

/-- The definitions of a source are all self-contained exactly if the source does not break off in
one and the lines that continue one leave no comment open.  They are exactly if in the program what
follows each of them starts on a line of its own, outside comments. -/
theorem forall_isSelfContained_iff (source : List Char) :
    ((∀ d ∈ movedDefinitions (fates source), IsSelfContained d) ↔
      (∀ r ∈ (runs source).getLast?, r.breaksOff = false) ∧
        ∀ first continued, .definition first continued ∈ runs source →
          commentOpenBehind false continued = false) ∧
    ((∀ d ∈ movedDefinitions (fates source), IsSelfContained d) ↔
      ∀ front d back, movedDefinitions (fates source) = front ++ d :: back →
        EndsFresh (Program.header ++ ['\n'] ++ unlines (front ++ [d]))) := by
  have hself : (∀ d ∈ movedDefinitions (fates source), IsSelfContained d) ↔
      ∀ first continued, .definition first continued ∈ runs source →
        (Run.definition first continued).breaksOff = false ∧
          commentOpenBehind false continued = false := by
    rw [movedDefinitions_runs]
    constructor
    · intro h first continued hr
      exact (isSelfContained_definition_iff hr).1 (h _ (List.mem_filterMap.2 ⟨_, hr, rfl⟩))
    · intro h d hd
      obtain ⟨r, hr, hd⟩ := List.mem_filterMap.1 hd
      cases r with
      | definition first continued =>
        cases hd
        exact (isSelfContained_definition_iff hr).2 (h first continued hr)
      | _ => cases hd
  constructor
  · rw [hself, forall_breaksOff_iff]
    constructor
    · refine fun h => ⟨fun r hr => ?_, fun first continued hr => (h first continued hr).2⟩
      cases r with
      | definition first continued => exact (h first continued hr).1
      | _ => rfl
    · exact fun ⟨hbreaks, hopen⟩ first continued hr => ⟨hbreaks _ hr, hopen first continued hr⟩
  · have hmoved : movedDefinitions (fates source) =
        ((runs source).map Run.absorbed |>.filter (· ≠ [])).map (join ['\n']) := by
      rw [← fates_runs, movedDefinitions, movedLines_fates]
    rw [hmoved]
    refine forall_isSelfContained_iff_endsFresh fun ts hts => ?_
    obtain ⟨hts, hne⟩ := List.mem_filter.1 hts
    obtain ⟨r, hr, rfl⟩ := List.mem_map.1 hts
    exact Run.definitionLines_absorbed (newline_not_mem_lines_of_mem_runs hr) (by simpa using hne)

/-- A definition whose second line opens a comment. -/
def remarkedSource : List Char :=
  unlines (["#define A \\", "1 /* a", "float x; */", "void mainImage(out vec4 c,",
    "in vec2 p) \x7b \x7d"].map String.toList)

/-- The definition is moved with the comment that it opens. -/
theorem not_forall_isSelfContained_remarkedSource :
    ¬ ∀ d ∈ movedDefinitions (fates remarkedSource), IsSelfContained d := by
  unfold IsSelfContained remarkedSource
  repeat rw [map_toList_cons]
  decide +kernel

end Shader

end ShaderPreview
