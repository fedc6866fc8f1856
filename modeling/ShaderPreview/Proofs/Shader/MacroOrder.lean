import ShaderPreview.Proofs.Shader.EntryText
import ShaderPreview.Proofs.Shader.LineSteps
import ShaderPreview.Proofs.Text.Literal

/-!
# The macros that the entry point sees

The entry point sees of each macro the last `#define` or `#undef` in front of it.  In the program it
stands behind all other code, and behind the definitions moved to the front; the directives that
stood in front of it keep their order (`keepsOrder_fatesFrom`), since nothing is moved across an
`#undef`.  So a macro without directives behind the entry point is seen as in the source.
-/

namespace ShaderPreview

namespace Shader

open Text

/-! ## Sources without conditionals -/

/-- The keywords of conditional directives. -/
def conditionalKeywords : List (List Char) :=
  ["if", "ifdef", "ifndef", "elif", "else", "endif"].map String.toList

/-- A source without conditionals, comments, quotes and continued lines. -/
structure UnconditionalSource (source : List Char) : Prop extends Unadorned source where
  no_conditional : ∀ l ∈ trimmedLines source, ∀ k ∈ conditionalKeywords, directive? l ≠ some k

/-- The line defines the macro or undefines it. -/
def setsMacro (name line : List Char) : Bool :=
  Directive.ofLine? line = some (.define name) || Directive.ofLine? line = some (.undef name)

/-- The lines of a text that define or undefine the macro. -/
def macroLines (name text : List Char) : List (List Char) :=
  (trimmedLines text).filter (setsMacro name)

theorem directive?_of_setsMacro {name line : List Char} (h : setsMacro name line) :
    directive? line = some "define".toList ∨ directive? line = some "undef".toList := by
  simp only [setsMacro, Bool.or_eq_true, decide_eq_true_eq] at h
  exact h.imp directive?_of_ofLine? directive?_of_ofLine?

theorem setsMacro_eq_false {name line : List Char}
    (hdefine : directive? line ≠ some "define".toList)
    (hundef : directive? line ≠ some "undef".toList) : setsMacro name line = false :=
  Bool.eq_false_iff.2 fun h => (directive?_of_setsMacro h).elim hdefine hundef

theorem setsMacro_nil (name : List Char) : setsMacro name [] = false :=
  setsMacro_eq_false (by simp [directive?]) (by simp [directive?])

/-! ## Steps -/

/-- What holds of each line of a source without conditionals. -/
structure UnconditionalLine (line : List Char) : Prop where
  no_comment : commentOpenAfter line false = false
  no_continuation : endsInBackslash (trim line) = false
  no_conditional : ∀ k ∈ conditionalKeywords, directive? (trim line) ≠ some k

theorem UnconditionalSource.line {source line : List Char} (h : UnconditionalSource source)
    (hl : line ∈ lines source) : UnconditionalLine line where
  no_comment := h.commentOpenAfter_eq_false hl
  no_continuation := h.no_continuation _ (List.mem_map_of_mem hl)
  no_conditional := h.no_conditional _ (List.mem_map_of_mem hl)

/-- No conditional is open either. -/
structure LineState.IsFlat (st : LineState) : Prop extends LineState.IsFresh st where
  depth : st.depth = 0

/-- What a line without a conditional can do where none is open. -/
inductive FlatStep (st : LineState) (line : List Char) : Fate → LineState → Prop where
  | header (hd : directive? (trim line) ≠ some "define".toList)
    (hu : directive? (trim line) ≠ some "undef".toList) : FlatStep st line .header st
  | redeclaration {rest : List Char} (hd : directive? (trim line) = none) :
    FlatStep st line (.redeclaration rest) st
  | undef (hu : directive? (trim line) = some "undef".toList) :
    FlatStep st line (.kept line) { st with hoisting := false }
  | moves (hd : directive? (trim line) = some "define".toList) (hh : st.hoisting = true) :
    FlatStep st line (.opensDefinition (trim line)) st
  | stays (hd : directive? (trim line) = some "define".toList → st.hoisting = false)
    (hu : directive? (trim line) ≠ some "undef".toList) : FlatStep st line (.kept line) st

/-- A line that starts with `#` declares no uniform. -/
theorem directive?_of_afterRedeclaration? {line rest : List Char}
    (h : afterRedeclaration? line = some rest) : directive? line = none := by
  rcases line with _ | ⟨c, s⟩
  · rfl
  · by_cases hc : c = '#'
    · subst hc
      have htokens : tokens ('#' :: s) = ⟨.mark '#', ['#'], 0⟩ :: tokensFrom 1 (pieces s) := by
        rw [tokens, pieces_eq_cons (p := ⟨.token (.mark '#'), ['#']⟩) (r := s) rfl]
        rfl
      rw [afterRedeclaration?, redeclarationEnd?, htokens] at h
      simp [Token.isWord] at h
    · simp [directive?, hc]

theorem directive?_of_isHeaderDirective {line k : List Char} (h : isHeaderDirective line)
    (hk : k ≠ "version".toList) : directive? line ≠ some k := by
  intro hd
  simp only [isHeaderDirective, hd, Bool.or_eq_true, beq_iff_eq, Option.some.injEq] at h
  rcases h with h | h
  · exact hk h
  · rcases line with _ | ⟨c, s⟩
    · cases hd
    · have hc : c = '#' := by
        by_contra hc
        simp [directive?, hc] at hd
      subst hc
      simp [afterPrefix?] at h

theorem UnconditionalLine.flatStep {st : LineState} {line : List Char} (h : UnconditionalLine line)
    (hst : st.IsFlat) : FlatStep st line (st.step line).1 (st.step line).2 := by
  have hafter : { st with inComment := commentOpenAfter line st.inComment } = st := by
    rw [hst.inComment, h.no_comment, ← hst.inComment]
  have hstep : st.step line = st.stepCode line := by
    simp only [LineState.step, hafter]
    simp [hst.continuing, hst.inComment]
  rw [hstep, LineState.stepCode]
  split
  · rename_i hh
    exact .header (by rw [directive?_trim]; exact directive?_of_isHeaderDirective hh (by decide))
      (by rw [directive?_trim]; exact directive?_of_isHeaderDirective hh (by decide))
  · split
    · rename_i rest hr
      exact .redeclaration (by rw [directive?_trim]; exact directive?_of_afterRedeclaration? hr)
    · have hkeyword := h.no_conditional
      rw [LineState.stepDirective, ← directive?_trim]
      split
      · rename_i k hk
        have hne (k' : List Char) (hk' : k' ∈ conditionalKeywords) : k ≠ k' := fun heq =>
          hkeyword k' hk' (hk.trans (congrArg some heq))
        split_ifs with h₁ h₂ h₃ h₄
        · rcases h₁ with h₁ | h₁ | h₁ <;> exact absurd h₁ (hne _ (by decide))
        · exact absurd h₂ (hne _ (by decide))
        · exact .undef (hk.trans (congrArg some h₃))
        · have hsame : { st with continuing := endsInBackslash (trim line) } = st := by
            rw [h.no_continuation, ← hst.continuing]
          simp only [hsame]
          exact .moves (hk.trans (congrArg some h₄.1)) h₄.2.1
        · refine .stays (fun hd => ?_) (fun hu => ?_)
          · have hd : k = "define".toList := Option.some.inj (hk.symm.trans hd)
            simpa [hd, hst.depth, hst.inComment] using h₄
          · exact h₃ (Option.some.inj (hk.symm.trans hu))
      · rename_i hk
        exact .stays (fun hd => by simp [hd] at hk) (by simp [hk])

theorem FlatStep.isFlat {st st' : LineState} {line : List Char} {f : Fate}
    (h : FlatStep st line f st') (hst : st.IsFlat) : st'.IsFlat := by
  cases h with
  | undef => exact ⟨⟨hst.inComment, hst.continuing⟩, hst.depth⟩
  | header => exact hst
  | redeclaration => exact hst
  | moves => exact hst
  | stays => exact hst

/-! ## The order of the directives -/

/-- The directives of a macro that stay of the first `k` lines, behind those that are moved, are the
ones of the first `k` lines, followed by those moved from behind them. -/
def KeepsOrder (name : List Char) (fs : List Fate) (ls : List (List Char)) (k : Nat) : Prop :=
  (fs.filterMap Fate.opened?).filter (setsMacro name) ++
      (((fs.take k).filterMap Fate.remains?).map trim).filter (setsMacro name) =
    ((ls.take k).map trim).filter (setsMacro name) ++
      ((fs.drop k).filterMap Fate.opened?).filter (setsMacro name)

namespace KeepsOrder

variable {name l : List Char} {f : Fate} {fs : List Fate} {ls : List (List Char)} {k : Nat}

/-- In front come a line without effect on the macro, of which nothing stays that has one. -/
theorem skip (h : KeepsOrder name fs ls k) (hopened : f.opened? = none)
    (hremains : ∀ rest, f.remains? = some rest → setsMacro name (trim rest) = false)
    (hl : setsMacro name (trim l) = false) : KeepsOrder name (f :: fs) (l :: ls) (k + 1) := by
  rw [KeepsOrder, List.take_succ_cons, List.take_succ_cons, List.drop_succ_cons, List.map_cons,
    List.filterMap_cons_none hopened, List.filter_cons_of_neg (by simp [hl]), ← h]
  rcases hr : f.remains? with _ | rest
  · rw [List.filterMap_cons_none hr]
  · rw [List.filterMap_cons_some hr, List.map_cons,
      List.filter_cons_of_neg (by simp [hremains rest hr])]

/-- In front comes a line that stays where nothing is moved any more. -/
theorem stays (h : KeepsOrder name fs ls k) (hfs : fs.filterMap Fate.opened? = []) :
    KeepsOrder name (.kept l :: fs) (l :: ls) (k + 1) := by
  rw [KeepsOrder, hfs] at h
  rw [KeepsOrder, List.take_succ_cons, List.take_succ_cons, List.drop_succ_cons, List.map_cons,
    List.filterMap_cons_none (f := Fate.opened?) rfl, hfs,
    List.filterMap_cons_some (f := Fate.remains?) (b := l) rfl, List.map_cons,
    ← List.singleton_append, ← List.singleton_append (x := trim l) (l := (ls.take k).map trim),
    List.filter_append, List.filter_append, List.append_assoc, ← h]
  rfl

/-- In front comes a line that is moved. -/
theorem moves (h : KeepsOrder name fs ls k) :
    KeepsOrder name (.opensDefinition (trim l) :: fs) (l :: ls) (k + 1) := by
  rw [KeepsOrder, List.take_succ_cons, List.take_succ_cons, List.drop_succ_cons, List.map_cons,
    List.filterMap_cons_some (f := Fate.opened?) (b := trim l) rfl,
    List.filterMap_cons_none (f := Fate.remains?) rfl, ← List.singleton_append,
    ← List.singleton_append (x := trim l) (l := (ls.take k).map trim), List.filter_append,
    List.filter_append, List.append_assoc, List.append_assoc, ← h]

end KeepsOrder

/-- The directives of a macro keep their order, if no text behind a declaration that is stripped is
taken for one. -/
theorem keepsOrder_fatesFrom {name : List Char} {ls : List (List Char)}
    (hls : ∀ l ∈ ls, UnconditionalLine l) {st : LineState} (hst : st.IsFlat) (k : Nat)
    (hrest : ∀ rest, .redeclaration rest ∈ (fatesFrom st ls).take k →
      setsMacro name (trim rest) = false) :
    KeepsOrder name (fatesFrom st ls) ls k := by
  induction ls generalizing st k with
  | nil => simp [KeepsOrder, fatesFrom]
  | cons l ls ih =>
    rcases k with _ | k
    · simp [KeepsOrder]
    have hstep := (hls l List.mem_cons_self).flatStep hst
    rw [fatesFrom_cons, List.take_succ_cons] at hrest
    have ih := ih (fun k hk => hls k (List.mem_cons_of_mem l hk)) (hstep.isFlat hst) k
      fun rest h => hrest rest (List.mem_cons_of_mem _ h)
    have hhead (rest : List Char) (h : (st.step l).1 = .redeclaration rest) :
        setsMacro name (trim rest) = false := hrest rest (by rw [h]; exact List.mem_cons_self)
    rw [fatesFrom_cons]
    clear hrest
    generalize (st.step l).1 = f, (st.step l).2 = st' at hstep ih hhead
    cases hstep with
    | header hd hu => exact ih.skip rfl (by simp [Fate.remains?]) (setsMacro_eq_false hd hu)
    | redeclaration hd =>
      refine ih.skip rfl (fun rest hr => ?_) (setsMacro_eq_false (by simp [hd]) (by simp [hd]))
      simp only [Fate.remains?] at hr
      split at hr
      · cases hr
      · cases hr
        exact hhead _ rfl
    | undef => exact ih.stays (filterMap_opened?_of_not_hoisting rfl ls)
    | moves => exact ih.moves
    | stays hd hu =>
      by_cases hdefine : directive? (trim l) = some "define".toList
      · exact ih.stays (filterMap_opened?_of_not_hoisting (hd hdefine) ls)
      · have hl : setsMacro name (trim l) = false := setsMacro_eq_false hdefine hu
        exact ih.skip rfl (by simpa [Fate.remains?] using hl) hl

/-! ## The line of the entry point -/

/-- The number of lines in front of the one that the character at position `n` of the text that
stays comes from. -/
def lineOf (n : Nat) : List Fate → Nat
  | [] => 0
  | f :: fs =>
    match f.remains? with
    | none => lineOf n fs + 1
    | some r => if n ≤ r.length then 0 else lineOf (n - (r.length + 1)) fs + 1

/-- The part of a text behind its last line feed. -/
def lastLine (s : List Char) : List Char := s.rtakeWhile (· != '\n')

theorem lastLine_unlines_append (ls : List (List Char)) {p : List Char} (hp : '\n' ∉ p) :
    lastLine (unlines ls ++ p) = p := by
  have hend : (unlines ls).reverse.takeWhile (· != '\n') = [] := by
    rcases List.eq_nil_or_concat ls with rfl | ⟨ls, l, rfl⟩
    · rfl
    · simp [unlines]
  have hline : ∀ c ∈ p.reverse, (c != '\n') = true := fun c hc =>
    bne_iff_ne.2 fun heq => hp (heq ▸ List.mem_reverse.1 hc)
  rw [lastLine, List.rtakeWhile, List.reverse_append, List.takeWhile_append_of_pos hline, hend,
    List.append_nil, List.reverse_reverse]

/-- A position in the text that stays lies in one of the lines that stay. -/
theorem exists_fate_of_keptText {fs : List Fate} {before after : List Char}
    (h : keptText fs = before ++ after) (hafter : after ≠ []) :
    ∃ front f back r p q, fs = front ++ f :: back ∧ lineOf before.length fs = front.length ∧
      f.remains? = some r ∧ before = keptText front ++ p ∧ r = p ++ q ∧
      after = q ++ ['\n'] ++ keptText back := by
  induction fs generalizing before with
  | nil => exact absurd (List.append_eq_nil_iff.1 h.symm).2 hafter
  | cons f fs ih =>
    rcases hf : f.remains? with _ | r
    · rw [keptText_cons_of_none hf] at h
      obtain ⟨front, g, back, r, p, q, rfl, hline, hr, rfl, hp, hq⟩ := ih h
      refine ⟨f :: front, g, back, r, p, q, rfl, ?_, hr, ?_, hp, hq⟩
      · simp only [lineOf, hf, hline, List.length_cons]
      · rw [keptText_cons_of_none hf]
    · rw [keptText_cons_of_some hf] at h
      have hbefore : before <+: r ++ ['\n'] ++ keptText fs := by
        rw [h]
        exact List.prefix_append before after
      by_cases hlength : before.length ≤ r.length
      · have hprefix : before <+: r := by
          refine List.prefix_of_prefix_length_le hbefore ?_ hlength
          rw [List.append_assoc]
          exact List.prefix_append r _
        obtain ⟨q, rfl⟩ := hprefix
        refine ⟨[], f, fs, before ++ q, before, q, rfl, ?_, hf, rfl, rfl, ?_⟩
        · simp only [lineOf, hf, if_pos hlength, List.length_nil]
        · simpa using h.symm
      · have hprefix : r ++ ['\n'] <+: before := by
          refine List.prefix_of_prefix_length_le (List.prefix_append _ _) hbefore ?_
          rw [List.length_append, List.length_singleton]
          omega
        obtain ⟨before, rfl⟩ := hprefix
        have hrest : (r ++ ['\n'] ++ before).length - (r.length + 1) = before.length := by
          simp only [List.length_append, List.length_singleton]
          omega
        rw [List.append_assoc (r ++ ['\n']), List.append_cancel_left_eq] at h
        obtain ⟨front, g, back, r', p, q, rfl, hline, hr, hbefore, hp, hq⟩ := ih h
        refine ⟨f :: front, g, back, r', p, q, rfl, ?_, hr, ?_, hp, hq⟩
        · simp only [lineOf, hf, if_neg hlength, hrest, hline, List.length_cons]
        · rw [keptText_cons_of_some hf, hbefore, List.append_assoc (r ++ ['\n'])]

/-- The number of lines of the source in front of the one in which the entry point starts. -/
def entryLine (source : List Char) (a : Assembly) : Nat :=
  lineOf a.bodyBefore.length (fates source)

section EntryLine

variable {source : List Char} {a : Assembly}

/-- In front of the entry point stands what stays of the lines in front of its line, and a part of
its line. -/
theorem exists_bodyBefore_eq (h : Assembly.ofSource source = .ok a) :
    ∃ line p q, (lines source)[entryLine source a]? = some line ∧
      p ++ "void".toList ++ q <:+ line ∧
      a.bodyBefore = keptText ((fates source).take (entryLine source a)) ++ p := by
  obtain ⟨-, hkept, -, mid, hentry⟩ := parts_of_ofSource h
  rw [List.append_assoc] at hkept
  obtain ⟨front, f, back, r, p, q, hfs, hline, hr, hbefore, rfl, hq⟩ :=
    exists_fate_of_keptText hkept (by rw [hentry]; simp)
  have hget : (fates source)[entryLine source a]? = some f := by
    rw [entryLine, hline, hfs, List.getElem?_append_right (Nat.le_refl _), Nat.sub_self]
    rfl
  have hfront : (fates source).take (entryLine source a) = front := by
    rw [entryLine, hline, hfs, List.take_left']
    rfl
  obtain ⟨line, st₀, st₁, hline, hstep⟩ := exists_line_of_getElem? hget
  have hvoid : "void".toList <+: q := by
    rw [hentry, List.append_assoc, List.append_assoc, List.append_assoc] at hq
    rcases List.append_eq_append_iff.1 hq with ⟨s, rfl, -⟩ | ⟨s, hs, htail⟩
    · exact List.prefix_append _ s
    · rcases s with _ | ⟨c, s⟩
      · rw [List.append_nil] at hs
        rw [hs]
      · -- the word goes beyond the line
        obtain rfl : '\n' = c := (List.cons.inj htail).1
        have hmem : '\n' ∈ "void".toList := by
          rw [hs]
          simp
        exact absurd hmem (by decide)
  obtain ⟨w, rfl⟩ := hvoid
  refine ⟨line, p, w, hline, ?_, ?_⟩
  · rw [List.append_assoc]
    exact hstep.suffix_of_remains? hr
  · rw [hfront]
    exact hbefore

/-- Behind its last line feed, the text in front of the entry point holds the part of a line that
the entry point goes on. -/
theorem bodyBefore_eq (h : Assembly.ofSource source = .ok a) :
    a.bodyBefore = keptText ((fates source).take (entryLine source a)) ++ lastLine a.bodyBefore ∧
      ∃ line, (lines source)[entryLine source a]? = some line ∧
        lastLine a.bodyBefore ++ "void".toList <:+: line := by
  obtain ⟨line, p, q, hline, hsuffix, hbefore⟩ := exists_bodyBefore_eq h
  have hp : '\n' ∉ p := fun hc =>
    newline_not_mem_of_mem_lines (List.mem_of_getElem? hline) (hsuffix.mem (by simp [hc]))
  have hlast : lastLine a.bodyBefore = p := by
    rw [hbefore]
    exact lastLine_unlines_append _ hp
  rw [hlast]
  refine ⟨hbefore, line, hline, ?_⟩
  exact (List.prefix_append _ q).isInfix.trans hsuffix.isInfix

end EntryLine

/-! ## The directives in the program -/

section Program

variable {source : List Char} {a : Assembly} {name : List Char}

theorem macroLines_block (name text : List Char) :
    macroLines name (Program.block text) = macroLines name text := by
  rw [macroLines, macroLines, ← filter_trimmedLines_trimNewlines text (setsMacro_nil name)]
  unfold Program.block
  split
  · rename_i hblank
    rw [filter_trimmedLines_of_isAllBlank (setsMacro_nil name) hblank]
    rfl
  · exact filter_trimmedLines_append_newlines _ (setsMacro_nil name) (by simp)

theorem macroLines_append_newline_append (name s t : List Char) :
    macroLines name (s ++ ['\n'] ++ t) = macroLines name (s ++ ['\n']) ++ macroLines name t := by
  rw [macroLines, trimmedLines_append_newline_append, List.filter_append, macroLines, macroLines]

/-- The directives in front of the entry point of the program: those of the header, those that are
moved, and those that stay. -/
theorem macroLines_programBefore (hs : UnconditionalSource source)
    (h : Assembly.ofSource source = .ok a) :
    macroLines name a.programBefore = macroLines name (Program.header ++ ['\n']) ++
      (((fates source).filterMap Fate.opened?).filter (setsMacro name) ++
        macroLines name a.body) := by
  obtain ⟨hdefinitions, -⟩ := parts_of_ofSource h
  have hmoved := trimmedLines_movedDefinitions (Program.block a.body)
    fun l hl => (hs.line hl).no_continuation
  rw [Assembly.programBefore, List.append_assoc, macroLines_append_newline_append, hdefinitions,
    ← macroLines_block name a.body]
  simp only [macroLines, hmoved, List.filter_append]

/-- The directives that stay: those in front of the line of the entry point, and those from that
line on. -/
theorem macroLines_body (h : Assembly.ofSource source = .ok a) :
    macroLines name a.body =
      ((((fates source).take (entryLine source a)).filterMap Fate.remains?).map trim).filter
          (setsMacro name) ++
        macroLines name (lastLine a.bodyBefore ++ a.bodyAfter) := by
  have hlines (l : List Char) (hl : l ∈ (lines source).take (entryLine source a)) : '\n' ∉ l :=
    newline_not_mem_of_mem_lines (List.mem_of_mem_take hl)
  have hkept := trimmedLines_keptText .start (lastLine a.bodyBefore ++ a.bodyAfter) hlines
  rw [← take_fatesFrom, ← fates, ← List.append_assoc, ← (bodyBefore_eq h).1] at hkept
  rw [macroLines, Assembly.body, hkept, List.filter_append, macroLines]

/-- The directives of a macro in front of the line of the entry point. -/
def linesInFront (name source : List Char) (a : Assembly) : List (List Char) :=
  ((trimmedLines source).take (entryLine source a)).filter (setsMacro name)

/-- The directives of a macro that stand from the line of the entry point on: the definitions that
are moved to the front, and the directives left in the code that stays. -/
def linesBehind (name source : List Char) (a : Assembly) : List (List Char) :=
  (((fates source).drop (entryLine source a)).filterMap Fate.opened?).filter (setsMacro name) ++
    macroLines name (lastLine a.bodyBefore ++ a.bodyAfter)

/-- In a source without conditionals, the entry point of the program sees of a macro that is set in
front of it the last directive that stands behind it in the source, and if there is none, the last
one in front of it.  No text behind a declaration that is stripped is to be a directive of the
macro. -/
theorem getLast?_macroLines_programBefore (hs : UnconditionalSource source)
    (h : Assembly.ofSource source = .ok a) (hfront : linesInFront name source a ≠ [])
    (hrest : ∀ rest, .redeclaration rest ∈ (fates source).take (entryLine source a) →
      setsMacro name (trim rest) = false) :
    a.program = a.programBefore ++ a.entry ++ '\n' :: '\n' :: Program.dispatcher ∧
      (macroLines name a.programBefore).getLast? =
        (linesInFront name source a ++ linesBehind name source a).getLast? ∧
      (linesBehind name source a = [] →
        (macroLines name a.programBefore).getLast? = (linesInFront name source a).getLast?) := by
  have hflat : LineState.start.IsFlat := ⟨⟨rfl, rfl⟩, rfl⟩
  have horder := keepsOrder_fatesFrom (fun l hl => hs.line hl) hflat (entryLine source a) hrest
  rw [KeepsOrder, List.map_take, ← trimmedLines, ← fates] at horder
  have hlines : macroLines name a.programBefore = macroLines name (Program.header ++ ['\n']) ++
      (linesInFront name source a ++ linesBehind name source a) := by
    rw [macroLines_programBefore hs h, macroLines_body h, ← List.append_assoc
      (((fates source).filterMap Fate.opened?).filter (setsMacro name)), horder, List.append_assoc,
      linesInFront, linesBehind]
  have hlast : (macroLines name a.programBefore).getLast? =
      (linesInFront name source a ++ linesBehind name source a).getLast? := by
    rw [hlines]
    exact List.getLast?_append_of_ne_nil _ (List.append_ne_nil_of_left_ne_nil hfront _)
  refine ⟨program_eq h, hlast, fun hbehind => ?_⟩
  rw [hlast, hbehind, List.append_nil]

/-- A source that sets its macro twice in front of the entry point. -/
def settledSource : List Char :=
  unlines (["#define M 1", "#undef M", "#define M 2", "void mainImage(out vec4 c,",
    "in vec2 p) \x7b", "c = vec4(M);", "\x7d", "#define N 3"].map String.toList)

theorem getLast?_macroLines_programBefore_settledSource :
    ∃ a, Assembly.ofSource settledSource = .ok a ∧
      (macroLines ['M'] a.programBefore).getLast? = some "#define M 2".toList := by
  have hs : UnconditionalSource settledSource := by
    unfold settledSource
    repeat rw [map_toList_cons]
    exact
      { no_comment := by decide +kernel
        no_quote := by decide +kernel
        no_continuation := by decide +kernel
        no_conditional := by decide +kernel }
  obtain ⟨hlines, hkept⟩ : (Assembly.ofSource settledSource).toOption.map
        (fun a => (linesInFront ['M'] settledSource a, linesBehind ['M'] settledSource a)) =
        some (["#define M 1", "#undef M", "#define M 2"].map String.toList, []) ∧
      ∀ f ∈ fates settledSource, f.isStripped = false := by
    unfold settledSource
    repeat rw [map_toList_cons]
    decide +kernel
  obtain ⟨a, h, hfound⟩ := exists_of_map_toOption hlines
  obtain ⟨hfront, hbehind⟩ := Prod.mk.inj hfound
  obtain ⟨-, -, hlast⟩ := getLast?_macroLines_programBefore hs h (by rw [hfront]; simp)
    fun rest hr => absurd (hkept _ (List.mem_of_mem_take hr)) Bool.noConfusion
  refine ⟨a, h, ?_⟩
  rw [hlast hbehind, hfront]
  rfl

/-- A source that sets its macro anew behind the entry point. -/
def redefinedSource : List Char :=
  unlines (["#define M 1", "void mainImage(out vec4 c,", "in vec2 p) \x7b", "c = vec4(M);", "\x7d",
    "#undef M", "#define M 2"].map String.toList)

/-- The entry point sees what the macro is set to behind it. -/
theorem not_getLast?_macroLines_programBefore_redefinedSource :
    UnconditionalSource redefinedSource ∧
      ∃ a, Assembly.ofSource redefinedSource = .ok a ∧
        linesInFront ['M'] redefinedSource a ≠ [] ∧
        (macroLines ['M'] a.programBefore).getLast? ≠
          (linesInFront ['M'] redefinedSource a).getLast? := by
  have hs : UnconditionalSource redefinedSource := by
    unfold redefinedSource
    repeat rw [map_toList_cons]
    exact
      { no_comment := by decide +kernel
        no_quote := by decide +kernel
        no_continuation := by decide +kernel
        no_conditional := by decide +kernel }
  have hlines : (Assembly.ofSource redefinedSource).toOption.map
      (fun a => (linesInFront ['M'] redefinedSource a, (macroLines ['M'] a.body).getLast?)) =
      some (["#define M 1".toList], some "#define M 2".toList) := by
    unfold redefinedSource
    repeat rw [map_toList_cons]
    decide +kernel
  refine ⟨hs, ?_⟩
  obtain ⟨a, h, hfound⟩ := exists_of_map_toOption hlines
  obtain ⟨hfront, hbody⟩ := Prod.mk.inj hfound
  have hlast : (macroLines ['M'] a.programBefore).getLast? = some "#define M 2".toList := by
    simp [macroLines_programBefore hs h, List.getLast?_append, hbody]
  refine ⟨a, h, ?_, ?_⟩
  · rw [hfront]
    simp
  · rw [hfront, hlast]
    decide

end Program

end Shader

end ShaderPreview
