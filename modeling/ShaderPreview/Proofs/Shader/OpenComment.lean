import ShaderPreview.Proofs.Shader.InStep
import ShaderPreview.Proofs.Text.Literal

/-!
# Open comments, line by line and all at once

Two readers follow the block comments of a text: one goes from line to line and keeps no more than
whether a comment is open, the other cuts the whole text into pieces.  Behind each line they agree
(`commentOpenBehind_iff_endsInOpenComment`), as long as each quoted string closes on its line.
-/

namespace ShaderPreview

namespace Shader

open Text

/-! ## Quoted strings of a line -/

/-- Each quoted string that is met in a line, read from the given mode, closes on the line. -/
def LineMode.closesQuotes : LineMode → List Char → Bool
  | .comment, [] => true
  | .comment, '*' :: '/' :: s => closesQuotes .code s
  | .comment, _ :: s => closesQuotes .comment s
  | .code, [] => true
  | .code, '/' :: '/' :: _ => true
  | .code, '/' :: '*' :: s => closesQuotes .comment s
  | .code, c :: s => if isQuote c then closesQuotes (.quoted c) s else closesQuotes .code s
  | .quoted _, [] => false
  | .quoted q, '\\' :: _ :: s => closesQuotes (.quoted q) s
  | .quoted q, c :: s => if c = q then closesQuotes .code s else closesQuotes (.quoted q) s

theorem closesQuotes_comment (s : List Char) : LineMode.comment.closesQuotes s =
    if (cutComment s).2.1 then LineMode.code.closesQuotes (cutComment s).2.2 else true := by
  fun_induction cutComment s with
  | case1 => rfl
  | case2 t => rfl
  | case3 c t hnot k closed r hcut ih =>
    rw [LineMode.closesQuotes.eq_3 _ _ hnot, ih, hcut]

/-- A quoted string closes, and those behind it close too. -/
theorem closesQuotes_quoted {q : Char} (hq : isQuote q) (s : List Char) :
    (LineMode.quoted q).closesQuotes s =
      (closesQuoted q s && LineMode.code.closesQuotes (cutQuoted q s).2) := by
  fun_induction closesQuoted q s with
  | case1 => rfl
  | case2 c t ih => rw [LineMode.closesQuotes, ih, cutQuoted]
  | case3 c t hnot ih =>
    rw [LineMode.closesQuotes.eq_10 _ _ _ hnot]
    by_cases hc : c = '\\'
    · subst hc
      rcases t with _ | ⟨d, t⟩
      · simp [LineMode.closesQuotes, closesQuoted, Ne.symm (ne_backslash_of_isQuote hq)]
      · exact (hnot d t rfl rfl).elim
    · rw [cutQuoted_cons_of_ne hc]
      rcases hcq : c == q with _ | _ <;> simp_all

/-- Characters that open neither a comment nor a quoted string are passed over. -/
theorem closesQuotes_append {w : List Char} (s : List Char)
    (hw : ∀ c ∈ w, c ≠ '/' ∧ isQuote c = false) :
    LineMode.code.closesQuotes (w ++ s) = LineMode.code.closesQuotes s := by
  induction w with
  | nil => rfl
  | cons c w ih =>
    obtain ⟨hc, hq⟩ := hw c List.mem_cons_self
    rw [List.cons_append, LineMode.closesQuotes.eq_7 _ _ (fun _ h => absurd h hc)
      (fun _ h => absurd h hc), hq]
    exact ih fun d hd => hw d (List.mem_cons_of_mem c hd)

/-- Where the reader of a line finds all quoted strings closed, its pieces are. -/
theorem closesOnLine_of_closesQuotes {l : List Char} (hl : '\n' ∉ l)
    (h : LineMode.code.closesQuotes l) : ∀ p ∈ pieces l, p.closesOnLine := by
  fun_induction pieces l with
  | case1 => simp
  | case2 l p r hnext ih =>
    suffices hp : p.closesOnLine ∧ ∀ q ∈ pieces r, q.closesOnLine from
      List.forall_mem_cons.2 hp
    specialize ih (newline_not_mem_of_next? hl hnext)
    revert hnext
    fun_cases Piece.next? l <;> simp only [reduceCtorEq, Option.some.injEq, Prod.mk.injEq,
      false_imp_iff, and_imp] <;> rintro rfl rfl
    · rename_i t k r' hcut
      have ht : '\n' ∉ t := fun hc => hl (by simp [hc])
      rw [cutLine_of_not_mem ht] at hcut
      cases hcut
      exact ⟨rfl, by simp [pieces_nil]⟩
    · rename_i t k closed r' hcut
      rw [LineMode.closesQuotes, closesQuotes_comment, hcut] at h
      refine ⟨rfl, ?_⟩
      rcases closed with _ | _
      · rw [cutComment_of_not_closed (by rw [hcut])] at hcut
        cases hcut
        simp [pieces_nil]
      · exact ih h
    · rename_i c h₁ h₂ hb
      rw [LineMode.closesQuotes.eq_7 _ _ h₁ h₂,
        if_neg (by simp [(slash_quote_of_class hb rfl rfl rfl).2])] at h
      exact ⟨rfl, ih h⟩
    · rename_i c t h₁ h₂ hb hq k r' hcut
      rw [LineMode.closesQuotes.eq_7 _ _ h₁ h₂, if_pos hq, closesQuotes_quoted hq, hcut,
        Bool.and_eq_true] at h
      have hk : '\n' ∉ k := by
        have happend := cutQuoted_append c t
        rw [hcut] at happend
        exact fun hc => hl (by rw [← happend]; simp [hc])
      have hcloses := closesQuoted_cutQuoted c t
      rw [hcut, h.1] at hcloses
      exact ⟨by simp [Piece.closesOnLine, hcloses, hk], ih h.2⟩
    · rename_i c t h₁ h₂ hb hq hw k r' hcut
      have hword : ∀ d ∈ (cutWord t).1, d ≠ '/' ∧ isQuote d = false := fun d hd =>
        slash_quote_of_class (List.all_eq_true.1 List.all_takeWhile d hd) rfl rfl rfl
      have ht := cutWord_append t
      rw [hcut] at ht hword
      rw [LineMode.closesQuotes.eq_7 _ _ h₁ h₂, if_neg hq, ← ht, closesQuotes_append _ hword] at h
      exact ⟨rfl, ih h⟩
    · rename_i c t h₁ h₂ hb hq hw hd k r' hcut
      have hnumber : ∀ d ∈ (cutNumber (isHexadecimal c t) c t).1, d ≠ '/' ∧ isQuote d = false :=
        fun d hd => slash_quote_of_mem_cutNumber hd
      have ht := cutNumber_append (isHexadecimal c t) c t
      rw [hcut] at ht hnumber
      rw [LineMode.closesQuotes.eq_7 _ _ h₁ h₂, if_neg hq, ← ht,
        closesQuotes_append _ hnumber] at h
      exact ⟨rfl, ih h⟩
    · rename_i c h₁ h₂ hb hq hw hd
      rw [LineMode.closesQuotes.eq_7 _ _ h₁ h₂, if_neg hq] at h
      exact ⟨rfl, ih h⟩

/-- Each quoted string closes on the line, which is read while a block comment is open, or not. -/
def closesQuotesFrom (isOpen : Bool) (line : List Char) : Bool :=
  (if isOpen then LineMode.comment else LineMode.code).closesQuotes line

theorem closesOnLine_of_closesQuotesFrom {isOpen : Bool} {l : List Char} (hl : '\n' ∉ l)
    (h : closesQuotesFrom isOpen l) : ∀ p ∈ piecesFrom isOpen l, p.closesOnLine := by
  cases isOpen with
  | false => exact closesOnLine_of_closesQuotes hl h
  | true =>
    simp only [closesQuotesFrom, if_true, closesQuotes_comment] at h
    simp only [piecesFrom, if_true]
    refine List.forall_mem_cons.2 ⟨rfl, ?_⟩
    rcases hclosed : (cutComment l).2.1 with _ | _
    · simp [cutComment_of_not_closed hclosed, pieces_nil]
    · rw [hclosed] at h
      exact closesOnLine_of_closesQuotes (newline_not_mem_cutComment hl) h

/-! ## The lines of a text -/

/-- A block comment is open behind the lines, given whether one was open in front of them; they are
read one after the other. -/
def commentOpenBehind (isOpen : Bool) (ls : List (List Char)) : Bool :=
  ls.foldl (fun isOpen l => commentOpenAfter l isOpen) isOpen

/-- Each quoted string that is met while the lines are read one after the other closes on its
line. -/
def quotesClose (isOpen : Bool) : List (List Char) → Bool
  | [] => true
  | l :: ls => closesQuotesFrom isOpen l && quotesClose (commentOpenAfter l isOpen) ls

/-- The last piece of a text is a block comment without an end. -/
def EndsInOpenComment (s : List Char) : Prop :=
  (pieces s).getLast?.map Piece.kind = some (.blockComment false)

theorem quotesClose_append (isOpen : Bool) (ls ls' : List (List Char)) :
    quotesClose isOpen (ls ++ ls') =
      (quotesClose isOpen ls && quotesClose (commentOpenBehind isOpen ls) ls') := by
  induction ls generalizing isOpen with
  | nil => rfl
  | cons l ls ih => rw [List.cons_append, quotesClose, ih, quotesClose, Bool.and_assoc]; rfl

theorem endsOpen_iff_getLast? (ps : List Piece) :
    endsOpen ps = true ↔ ps.getLast?.map Piece.kind = some (.blockComment false) := by
  rcases List.eq_nil_or_concat ps with rfl | ⟨qs, p, rfl⟩
  · exact ⟨nofun, nofun⟩
  · rw [List.concat_eq_append, endsOpen_concat, List.getLast?_concat, beq_iff_eq, Option.map_some,
      Option.some.injEq]

theorem endsOpen_lineEnd_append (e s : List Char) :
    endsOpen (e.map (fun c => ⟨.blank, [c]⟩) ++ pieces s) = endsOpen (pieces s) := by
  refine endsOpen_append _ ?_
  induction e with
  | nil => rfl
  | cons c e ih => rw [List.map_cons, endsOpen_cons_of_ne (by simp), ih]

theorem continued_ne_nil (e s : List Char) {ps : List Piece} (hps : ps ≠ []) :
    continued e s ps ≠ [] := by
  fun_cases continued e s ps <;> simp_all

/-- Behind a line and its end, the text that follows tells whether a comment is open. -/
theorem endsOpen_continued (e s : List Char) (ps : List Piece) :
    endsOpen (continued e s ps) = endsOpen (piecesFrom (endsOpen ps) s) := by
  fun_induction continued e s ps with
  | case1 => exact endsOpen_lineEnd_append e s
  | case2 p hk =>
    have hopen : endsOpen [p] = false := by simp [endsOpen, hk]
    rw [hopen, endsOpen_cons_of_ne (by simp)]
    rfl
  | case3 p hk =>
    have hopen : endsOpen [p] = true := by simp [endsOpen, hk]
    rw [hopen]
    rcases hclosed : (cutComment s).2.1 with _ | _ <;>
      rcases hrest : pieces (cutComment s).2.2 with _ | ⟨q, qs⟩ <;>
      simp [piecesFrom, endsOpen, hclosed, hrest]
  | case4 p hk hk' =>
    have hopen : endsOpen [p] = false := by simpa [endsOpen] using hk'
    rw [hopen, endsOpen_cons_of_ne hk', endsOpen_lineEnd_append]
    rfl
  | case5 p q ps ih =>
    rcases hrest : continued e s (q :: ps) with _ | ⟨r, rs⟩
    · exact absurd hrest (continued_ne_nil e s (List.cons_ne_nil q ps))
    · rw [hrest] at ih
      exact ih

/-- Behind lines whose quoted strings close, the reader of lines finds a comment open iff the pieces
of their text end with an open one. -/
theorem endsOpen_piecesFrom_unlines {isOpen : Bool} {ls : List (List Char)}
    (hls : ∀ l ∈ ls, '\n' ∉ l) (h : quotesClose isOpen ls) :
    endsOpen (piecesFrom isOpen (unlines ls)) = commentOpenBehind isOpen ls := by
  induction ls generalizing isOpen with
  | nil => cases isOpen <;> simp [piecesFrom, pieces_nil, cutComment, endsOpen, commentOpenBehind,
      unlines]
  | cons l ls ih =>
    obtain ⟨hl, hls⟩ := List.forall_mem_cons.1 hls
    rw [quotesClose, Bool.and_eq_true] at h
    obtain ⟨hline, hrest⟩ := h
    have happend : unlines (l :: ls) = l ++ ['\n'] ++ unlines ls := by simp [unlines]
    rw [happend, piecesFrom_append _ hl (.inl rfl) (closesOnLine_of_closesQuotesFrom hl hline),
      endsOpen_continued, endsOpen_piecesFrom hl, ih hls hrest]
    rfl

/-- In lines whose quoted strings close on them, the reader of lines finds a comment open behind some
of the first ones iff the text of these ends inside a comment that does not end. -/
theorem commentOpenBehind_iff_endsInOpenComment {ls : List (List Char)}
    (hls : ∀ l ∈ ls, '\n' ∉ l) (h : quotesClose false ls) :
    ∀ front, front <+: ls →
      (commentOpenBehind false front = true ↔ EndsInOpenComment (unlines front)) := by
  rintro front ⟨rest, rfl⟩
  rw [quotesClose_append, Bool.and_eq_true] at h
  have hfront : ∀ l ∈ front, '\n' ∉ l := fun l hl => hls l (List.mem_append_left rest hl)
  rw [← endsOpen_piecesFrom_unlines hfront h.1, endsOpen_iff_getLast?]
  exact Iff.rfl

/-- A comment over three lines, with quotes in it, behind quoted strings that look like one; a comment
stays open. -/
def remarkedLines : List (List Char) :=
  ["label = \"/* \\\" */\"; // /*", "/* it's", "a \" comment", "'*/ x = '\"'; /* b */ y; /*"].map
    String.toList

theorem commentOpenBehind_iff_endsInOpenComment_remarkedLines :
    (∀ l ∈ remarkedLines, '\n' ∉ l) ∧ quotesClose false remarkedLines ∧
      ¬ EndsInOpenComment (unlines (remarkedLines.take 1)) ∧
      EndsInOpenComment (unlines (remarkedLines.take 2)) ∧
      EndsInOpenComment (unlines remarkedLines) := by
  obtain ⟨hlines, hquotes, hfirst, hsecond, hlast⟩ : (∀ l ∈ remarkedLines, '\n' ∉ l) ∧
      quotesClose false remarkedLines ∧ ¬ commentOpenBehind false (remarkedLines.take 1) ∧
      commentOpenBehind false (remarkedLines.take 2) ∧ commentOpenBehind false remarkedLines := by
    unfold remarkedLines
    repeat rw [map_toList_cons]
    decide +kernel
  have hread := commentOpenBehind_iff_endsInOpenComment hlines hquotes
  refine ⟨hlines, hquotes, ?_, ?_, ?_⟩
  · exact fun h => hfirst ((hread _ (List.take_prefix 1 _)).2 h)
  · exact (hread _ (List.take_prefix 2 _)).1 hsecond
  · exact (hread _ (List.prefix_refl _)).1 hlast

end Shader

end ShaderPreview
