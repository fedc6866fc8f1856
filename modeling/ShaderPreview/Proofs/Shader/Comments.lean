import ShaderPreview.Proofs.Shader.InStep
import ShaderPreview.Proofs.Text.Literal

/-!
# Block comments of what stays

A line that stays begins inside a block comment of the text that stays iff it begins inside one of
the source, for all lines of a source, exactly if no such line follows a removed line that leaves a
comment open (`commentsAgree_iff`).  Quoted strings are to close on their lines.
-/

namespace ShaderPreview

namespace Shader

open Text

/-! ## Positions inside comments -/

/-- A block comment. -/
def PieceKind.isBlockComment : PieceKind → Bool
  | .blockComment _ => true
  | _ => false

/-- The character at position `n` of the pieces stands in a block comment that opens in front of it.
The first piece opened in front of the pieces if `entered` says so. -/
def insideComment (entered : Bool) (n : Nat) : List Piece → Bool
  | [] => false
  | p :: ps =>
    if n < p.text.length then (entered || 0 < n) && p.kind.isBlockComment
    else insideComment false (n - p.text.length) ps

/-- The character at position `n` of a text stands in a block comment that opens in front of it. -/
def inCommentAt (s : List Char) (n : Nat) : Bool := insideComment false n (pieces s)

theorem insideComment_cons_add (entered : Bool) (n : Nat) (p : Piece) (ps : List Piece) :
    insideComment entered (p.text.length + n) (p :: ps) = insideComment false n ps := by
  rw [insideComment, if_neg (by omega), Nat.add_sub_cancel_left]

theorem insideComment_blanks_append (n : Nat) {e : List Char} (entered : Bool) (he : e ≠ [])
    (ps : List Piece) :
    insideComment entered (e.length + n) (e.map (fun c => ⟨.blank, [c]⟩) ++ ps) =
      insideComment false n ps := by
  induction e generalizing entered with
  | nil => exact absurd rfl he
  | cons c e ih =>
    have hlength : (c :: e).length + n = (Piece.mk .blank [c]).text.length + (e.length + n) := by
      simp only [List.length_cons, List.length_nil]
      omega
    rw [hlength, List.map_cons, List.cons_append, insideComment_cons_add]
    rcases e with _ | ⟨d, e⟩
    · simp
    · exact ih false (List.cons_ne_nil d e)

/-- Behind a line and its end, the pieces that follow tell what is inside a comment. -/
theorem insideComment_continued {e : List Char} (he : e ≠ []) (s : List Char) (n : Nat)
    (entered : Bool) (ps : List Piece) :
    insideComment entered ((ps.flatMap Piece.text).length + e.length + n) (continued e s ps) =
      insideComment (endsOpen ps) n (piecesFrom (endsOpen ps) s) := by
  fun_induction continued e s ps generalizing entered with
  | case1 =>
    simpa [piecesFrom, endsOpen] using insideComment_blanks_append n entered he (pieces s)
  | case2 p hk =>
    have hopen : endsOpen [p] = false := by simp [endsOpen, hk]
    have h := insideComment_cons_add entered n ⟨.lineComment, p.text ++ e⟩ (pieces s)
    rw [hopen]
    simpa [piecesFrom] using h
  | case3 p hk =>
    have hopen : endsOpen [p] = true := by simp [endsOpen, hk]
    have hpos : 0 < e.length := List.length_pos_iff.2 he
    rw [hopen]
    simp only [piecesFrom, if_true, insideComment, List.flatMap_cons, List.flatMap_nil,
      List.append_nil, List.length_append, PieceKind.isBlockComment, Bool.and_true, Bool.true_or]
    by_cases hn : n < (cutComment s).1.length
    · rw [if_pos (by omega), if_pos hn]
      simp only [Bool.or_eq_true, decide_eq_true_eq]
      omega
    · rw [if_neg (by omega), if_neg hn]
      congr 1
      omega
  | case4 p hk hk' =>
    have hopen : endsOpen [p] = false := by simpa [endsOpen] using hk'
    rw [hopen, List.flatMap_cons, List.flatMap_nil, List.append_nil, Nat.add_assoc,
      insideComment_cons_add, insideComment_blanks_append n false he]
    rfl
  | case5 p q ps ih =>
    rw [List.flatMap_cons, List.length_append, Nat.add_assoc, Nat.add_assoc, insideComment_cons_add,
      ← Nat.add_assoc, ih]
    rfl

theorem insideComment_append {e l : List Char} {isOpen : Bool} (s : List Char) (n : Nat)
    (hl : '\n' ∉ l) (he : IsLineEnd e) (hp : ∀ p ∈ piecesFrom isOpen l, p.closesOnLine) :
    insideComment isOpen (l.length + e.length + n) (piecesFrom isOpen (l ++ e ++ s)) =
      insideComment (commentOpenAfter l isOpen) n (piecesFrom (commentOpenAfter l isOpen) s) := by
  have hne : e ≠ [] := by rcases he with rfl | rfl <;> simp
  have h := insideComment_continued hne s n isOpen (piecesFrom isOpen l)
  rw [text_piecesFrom, endsOpen_piecesFrom hl] at h
  rw [piecesFrom_append s hl he hp, h]

theorem cutComment_ne_nil {s : List Char} (hs : s ≠ []) : (cutComment s).1 ≠ [] := by
  fun_cases cutComment s <;> simp_all

/-- At the front of a text, the comment that is open there tells. -/
theorem insideComment_zero {s : List Char} (hs : s ≠ []) (isOpen : Bool) :
    insideComment isOpen 0 (piecesFrom isOpen s) = isOpen := by
  cases isOpen with
  | false =>
    simp only [piecesFrom, Bool.false_eq_true, if_false]
    rcases h : Piece.next? s with _ | ⟨p, r⟩
    · exact absurd (Piece.eq_nil_of_next? h) hs
    · have hp : 0 < p.text.length := List.length_pos_iff.2 (Piece.next?_text_ne_nil h)
      rw [pieces_eq_cons h, insideComment, if_pos hp]
      rfl
  | true =>
    have hp : 0 < (cutComment s).1.length := List.length_pos_iff.2 (cutComment_ne_nil hs)
    simp [piecesFrom, insideComment, hp, PieceKind.isBlockComment]

/-! ## Lines of the source and of what stays -/

/-- The position at which line `i` of a text starts. -/
def lineStart (s : List Char) (i : Nat) : Nat :=
  (((endedLines s).take i).flatMap fun p => p.1 ++ p.2).length

/-- Line `i` stays as a whole. -/
def KeepsLine (fs : List Fate) (i : Nat) : Prop := fs[i]?.any Fate.isKept

/-- Line `i` is removed as a whole. -/
def RemovesLine (fs : List Fate) (i : Nat) : Prop := fs[i]?.any Fate.isRemoved

theorem not_keepsLine_nil (i : Nat) : ¬ KeepsLine [] i := by simp [KeepsLine]

theorem keepsLine_cons_zero {f : Fate} {fs : List Fate} : KeepsLine (f :: fs) 0 ↔ f.isKept := by
  simp [KeepsLine]

theorem removesLine_cons_zero {f : Fate} {fs : List Fate} :
    RemovesLine (f :: fs) 0 ↔ f.isRemoved := by
  simp [RemovesLine]

/-- Each quoted string of the text closes on the line it opens on. -/
def LiteralsClose (s : List Char) : Prop := ∀ p ∈ pieces s, p.closesOnLine

/-- Each line that stays as a whole begins inside a block comment of the text that stays iff it
begins inside one of the source. -/
def CommentsAgree (source : List Char) : Prop :=
  ∀ i, KeepsLine (fates source) i →
    inCommentAt (keptText (fates source)) (keptText ((fates source).take i)).length =
      inCommentAt source (lineStart source i)

/-- No line that stays directly behind a removed one begins inside a block comment of the source. -/
def RemovedLinesClose (source : List Char) : Prop :=
  ∀ i, RemovesLine (fates source) i → KeepsLine (fates source) (i + 1) →
    inCommentAt source (lineStart source (i + 1)) = false

theorem lineStart_zero (s : List Char) : lineStart s 0 = 0 := rfl

theorem lineStart_succ {l e s : List Char}
    (h : endedLines (l ++ e ++ s) = (l, e) :: endedLines s) (i : Nat) :
    lineStart (l ++ e ++ s) (i + 1) = l.length + e.length + lineStart s i := by
  rw [lineStart, h, List.take_succ_cons, List.flatMap_cons, List.length_append, List.length_append,
    lineStart]

theorem openInKept_eq_iff {removed : Bool} {st : LineState} :
    openInKept removed st = st.inComment ↔ (removed → st.inComment = false) := by
  rcases hr : removed with _ | _ <;> rcases ho : st.inComment with _ | _ <;> simp [openInKept, ho]

section Lines

variable {st : LineState} {removed : Bool}

/-- Of the first line the two scans tell the same iff it does not follow a removed line that leaves
a comment open. -/
theorem keepsLine_zero_iff {f : Fate} {fs : List Fate} {s : List Char} (hs : s ≠ []) :
    (KeepsLine (f :: fs) 0 →
      insideComment (openInKept removed st) (keptText ((f :: fs).take 0)).length
          (piecesFrom (openInKept removed st) (keptText (f :: fs))) =
        insideComment st.inComment (lineStart s 0) (piecesFrom st.inComment s)) ↔
      (f.isKept → removed → st.inComment = false) := by
  rw [keepsLine_cons_zero, lineStart_zero, insideComment_zero hs]
  refine imp_congr_right fun hf => ?_
  obtain ⟨r, hr⟩ : ∃ r, f.remains? = some r := by
    cases f with
    | kept line => exact ⟨line, rfl⟩
    | _ => cases hf
  have hne : keptText (f :: fs) ≠ [] := by
    rw [keptText_cons_of_some hr]
    simp
  rw [← openInKept_eq_iff]
  exact (congrArg (· = st.inComment) (insideComment_zero hne _)).to_iff

/-- The two scans tell the same of all lines iff they are in step. -/
theorem forall_keepsLine_iff_inStep (s : List Char) (hc : st.continuing = true → removed)
    (hp : ∀ p ∈ piecesFrom st.inComment s, p.closesOnLine) :
    (∀ i, KeepsLine (fatesFrom st (lines s)) i →
      insideComment (openInKept removed st) (keptText ((fatesFrom st (lines s)).take i)).length
          (piecesFrom (openInKept removed st) (keptText (fatesFrom st (lines s)))) =
        insideComment st.inComment (lineStart s i) (piecesFrom st.inComment s)) ↔
      InStep st removed (lines s) := by
  induction s using endedLines_induction generalizing st removed with
  | nil => exact ⟨fun _ => trivial, fun _ i hi => absurd hi (not_keepsLine_nil i)⟩
  | last l hl hne h =>
    rw [lines_eq_cons (s := []) h, fatesFrom_cons, ← Nat.and_forall_add_one,
      keepsLine_zero_iff hne, InStep]
    exact and_congr_right fun _ => ⟨fun _ => trivial, fun _ i hi => absurd hi (not_keepsLine_nil i)⟩
  | line l e s hl he h ih =>
    have hstep := stepsTo_step st l
    have hline := closesOnLine_of_mem_line hl he hp
    have hafter := hstep.inComment_eq
    have hne : l ++ e ++ s ≠ [] := by rcases he with rfl | rfl <;> simp
    rw [lines_eq_cons h, fatesFrom_cons, ← Nat.and_forall_add_one, keepsLine_zero_iff hne, InStep]
    refine and_congr_right fun hsync => ?_
    rw [← ih hstep.isRemoved_of_continuing (by rw [hafter]; exact closesOnLine_behind hl he hp)]
    refine forall_congr' fun i => imp_congr_right fun _ => ?_
    rw [List.take_succ_cons, lineStart_succ h, insideComment_append s _ hl he hline, ← hafter]
    rcases hstep.remains_inStep hc hsync hl hline with ⟨hr, hopen⟩ | ⟨r, hr, hrl, hrp, hopen⟩
    · rw [keptText_cons_of_none hr, keptText_cons_of_none hr, hopen]
    · rw [keptText_cons_of_some hr, keptText_cons_of_some hr, List.length_append,
        List.length_append, insideComment_append _ _ hrl (.inl rfl) hrp, hopen]

theorem keepsLine_zero_behind_iff {f : Fate} {fs : List Fate} {s : List Char} (hs : s ≠ []) :
    (removed → KeepsLine (f :: fs) 0 →
      insideComment st.inComment (lineStart s 0) (piecesFrom st.inComment s) = false) ↔
      (f.isKept → removed → st.inComment = false) := by
  rw [keepsLine_cons_zero, lineStart_zero, insideComment_zero hs]
  exact ⟨fun h hf hr => h hr hf, fun h hr hf => h hf hr⟩

/-- No line that stays behind a removed one begins inside a comment iff the scans are in step. -/
theorem forall_removesLine_iff_inStep (s : List Char)
    (hp : ∀ p ∈ piecesFrom st.inComment s, p.closesOnLine) :
    ((removed → KeepsLine (fatesFrom st (lines s)) 0 →
        insideComment st.inComment (lineStart s 0) (piecesFrom st.inComment s) = false) ∧
      ∀ i, RemovesLine (fatesFrom st (lines s)) i → KeepsLine (fatesFrom st (lines s)) (i + 1) →
        insideComment st.inComment (lineStart s (i + 1)) (piecesFrom st.inComment s) = false) ↔
      InStep st removed (lines s) := by
  induction s using endedLines_induction generalizing st removed with
  | nil =>
    refine ⟨fun _ => trivial, fun _ => ⟨fun _ h => absurd h (not_keepsLine_nil 0), fun i _ h => ?_⟩⟩
    exact absurd h (not_keepsLine_nil (i + 1))
  | last l hl hne h =>
    rw [lines_eq_cons (s := []) h, fatesFrom_cons, keepsLine_zero_behind_iff hne, InStep]
    refine and_congr_right fun _ => ⟨fun _ => trivial, fun _ i _ hi => ?_⟩
    exact absurd hi (not_keepsLine_nil i)
  | line l e s hl he h ih =>
    have hline := closesOnLine_of_mem_line hl he hp
    have hafter := (stepsTo_step st l).inComment_eq
    have hne : l ++ e ++ s ≠ [] := by rcases he with rfl | rfl <;> simp
    rw [lines_eq_cons h, fatesFrom_cons, keepsLine_zero_behind_iff hne, InStep]
    refine and_congr_right fun _ => ?_
    rw [← ih (by rw [hafter]; exact closesOnLine_behind hl he hp), ← Nat.and_forall_add_one]
    simp only [lineStart_succ h, insideComment_append s _ hl he hline, ← hafter]
    exact and_congr (imp_congr_left removesLine_cons_zero) Iff.rfl

end Lines

/-! ## Comments are kept -/

theorem removedLinesClose_iff_inStep {source : List Char} (h : LiteralsClose source) :
    RemovedLinesClose source ↔ InStep .start false (lines source) := by
  have hp : ∀ p ∈ piecesFrom LineState.start.inComment source, p.closesOnLine := h
  rw [← forall_removesLine_iff_inStep source hp]
  exact ⟨fun h => ⟨fun hr => absurd hr Bool.false_ne_true, h⟩, fun h => h.2⟩

/-- In a source whose quoted strings close on their lines, all lines that stay begin inside block
comments as they do in the source exactly if none of them follows a removed line that leaves a
comment open. -/
theorem commentsAgree_iff {source : List Char} (h : LiteralsClose source) :
    CommentsAgree source ↔ RemovedLinesClose source := by
  have hp : ∀ p ∈ piecesFrom LineState.start.inComment source, p.closesOnLine := h
  have hc : LineState.start.continuing = true → false = true := id
  have hagree : CommentsAgree source ↔ InStep .start false (lines source) :=
    forall_keepsLine_iff_inStep source hc hp
  rw [hagree, removedLinesClose_iff_inStep h]

/-- A source with a comment behind a version line and one in a definition that is moved. -/
def commentedSource : List Char :=
  unlines (["#version 300 es", "/* a", "b */ #define K \\", "#define L \\", "/* c */ 1", "/* d */",
    "void mainImage(out vec4 c,", "in vec2 p) \x7b \x7d"].map String.toList)

theorem commentsAgree_iff_commentedSource :
    LiteralsClose commentedSource ∧ CommentsAgree commentedSource := by
  obtain ⟨hliterals, hstep⟩ : LiteralsClose commentedSource ∧
      InStep .start false (lines commentedSource) := by
    unfold LiteralsClose commentedSource
    repeat rw [map_toList_cons]
    decide +kernel
  exact ⟨hliterals,
    (commentsAgree_iff hliterals).2 ((removedLinesClose_iff_inStep hliterals).2 hstep)⟩

/-- A source whose version line opens a comment. -/
def openedSource : List Char :=
  unlines (["#version 300 es /* a", "float x; */", "void mainImage(out vec4 c,",
    "in vec2 p) \x7b \x7d"].map String.toList)

/-- Behind a version line that opens a comment, text of the comment becomes code. -/
theorem not_commentsAgree_openedSource :
    LiteralsClose openedSource ∧ ¬ CommentsAgree openedSource := by
  obtain ⟨hliterals, hkeeps, hdiffer⟩ : LiteralsClose openedSource ∧
      (fates openedSource)[1]?.any Fate.isKept ∧
      inCommentAt (keptText (fates openedSource))
          (keptText ((fates openedSource).take 1)).length ≠
        inCommentAt openedSource (lineStart openedSource 1) := by
    unfold LiteralsClose openedSource
    repeat rw [map_toList_cons]
    decide +kernel
  exact ⟨hliterals, fun h => hdiffer (h 1 hkeeps)⟩

end Shader

end ShaderPreview
