import ShaderPreview.Proofs.Shader.Comments
import ShaderPreview.Proofs.Shader.EntryText
import ShaderPreview.Proofs.Text.Literal

/-!
# The author's code

What a shader is made of besides the author's code is the version line, default precisions, moved
definitions and declarations of standard uniforms.  All other tokens of a source stay, in order
(`userTokens_sublist_iff`), exactly if nothing follows a default precision on its line.
-/

namespace ShaderPreview

namespace Shader

open Text

/-! ## The author's part of each line -/

/-- The text behind the first `;` of a line. -/
def behindSemicolon (line : List Char) : List Char :=
  match (tokens line).find? (Token.isMark · ';') with
  | some t => (splitAtByte t.stop line).2
  | none => []

/-- The text behind a header directive: a version takes its line, a default precision ends with a
`;`. -/
def behindHeader (line : List Char) : List Char :=
  if directive? (trimStart line) = some "version".toList then [] else behindSemicolon line

/-- The end of a line that is the author's code.  On the line of a redeclaration it is read off the
fate: it begins where the search for standard uniforms sees the redeclaration end, and a rest of
nothing but blanks, those beyond ASCII included, is no part of it. -/
def Fate.userPart (line : List Char) : Fate → List Char
  | kept _ => line
  | header => behindHeader line
  | redeclaration rest => if isAllBlank rest then [] else rest
  | _ => []

/-- Byte `n` of the lines, each with its fate and its end, is in the author's part of its line. -/
def isUserByte : List (Fate × List Char × List Char) → Nat → Bool
  | [], _ => false
  | (f, l, e) :: ls, n =>
    if n < byteLength (l ++ e) then byteLength l ≤ n + byteLength (f.userPart l)
    else isUserByte ls (n - byteLength (l ++ e))

/-- The tokens of the author's code, as the fates of the lines tell it from the rest. -/
def userTokens (source : List Char) : List Token :=
  (tokens source).filter fun t => isUserByte ((fates source).zip (endedLines source)) t.start

/-- A token without its position. -/
def Token.content (t : Token) : TokenKind × List Char := (t.kind, t.text)

/-- Nothing but blanks and comments follows a default precision on its line. -/
def HeaderLinesEnd (fs : List Fate) (ls : List (List Char)) : Prop :=
  ∀ p ∈ fs.zip ls, p.1 = .header → tokens (behindHeader p.2) = []

theorem headerLinesEnd_cons_iff {f : Fate} {fs : List Fate} {l : List Char}
    {ls : List (List Char)} :
    HeaderLinesEnd (f :: fs) (l :: ls) ↔
      (f = .header → tokens (behindHeader l) = []) ∧ HeaderLinesEnd fs ls := by
  rw [HeaderLinesEnd, List.zip_cons_cons, List.forall_mem_cons, HeaderLinesEnd]

/-! ## Tokens without positions -/

/-- The token that a piece is. -/
def Piece.content? (p : Piece) : Option (TokenKind × List Char) :=
  match p.kind with
  | .token k => some (k, p.text)
  | _ => none

/-- The tokens among pieces. -/
def contents (ps : List Piece) : List (TokenKind × List Char) := ps.filterMap Piece.content?

theorem map_content_tokensFrom (n : Nat) (ps : List Piece) :
    (tokensFrom n ps).map Token.content = contents ps := by
  induction ps generalizing n with
  | nil => rfl
  | cons p ps ih =>
    unfold tokensFrom
    rcases hk : p.kind with _ | _ | closed | k <;>
      simp [ih, contents, Piece.content?, hk, Token.content]

theorem contents_continued (e s : List Char) (ps : List Piece) :
    contents (continued e s ps) = contents ps ++ contents (piecesFrom (endsOpen ps) s) := by
  have h := congrArg (List.map Token.content) (tokensFrom_continued 0 e s ps)
  simpa only [List.map_append, map_content_tokensFrom] using h

theorem contents_piecesFrom_nil (isOpen : Bool) : contents (piecesFrom isOpen []) = [] := by
  cases isOpen with
  | false => simp [piecesFrom, pieces_nil, contents]
  | true => simp [piecesFrom, cutComment, pieces_nil, contents, Piece.content?]

theorem tokensFrom_piecesFrom_nil (n : Nat) (isOpen : Bool) :
    tokensFrom n (piecesFrom isOpen []) = [] := by
  rw [← List.map_eq_nil_iff (f := Token.content), map_content_tokensFrom, contents_piecesFrom_nil]

theorem tokens_eq_nil_iff {s : List Char} : tokens s = [] ↔ contents (pieces s) = [] := by
  rw [← map_content_tokensFrom 0, List.map_eq_nil_iff, tokens]

theorem start_le_of_mem_tokensFrom {n : Nat} {ps : List Piece} {t : Token}
    (h : t ∈ tokensFrom n ps) : n ≤ t.start := by
  obtain ⟨xs, ys, hts⟩ := List.append_of_mem h
  obtain ⟨before, p, after, -, -, -, hstart, -⟩ := exists_piece_of_tokensFrom hts
  omega

theorem start_lt_of_mem_tokensFrom {n : Nat} {ps : List Piece} {t : Token}
    (hps : ∀ p ∈ ps, ∀ k, p.kind = .token k → p.text ≠ []) (h : t ∈ tokensFrom n ps) :
    t.start < n + byteLength (ps.flatMap Piece.text) := by
  obtain ⟨xs, ys, hts⟩ := List.append_of_mem h
  obtain ⟨before, p, after, rfl, hk, -, hstart, -⟩ := exists_piece_of_tokensFrom hts
  have hp : 0 < byteLength p.text := by
    have hne := hps p (by simp) _ hk
    rcases hw : p.text with _ | ⟨c, w⟩
    · exact absurd hw hne
    · rw [byteLength_cons]
      have := Char.utf8Size_pos c
      omega
  simp only [List.flatMap_append, List.flatMap_cons, byteLength_append]
  omega

theorem text_ne_nil_of_mem_piecesFrom {isOpen : Bool} {s : List Char} {p : Piece}
    (hp : p ∈ piecesFrom isOpen s) (k : TokenKind) (hk : p.kind = .token k) : p.text ≠ [] := by
  cases isOpen with
  | false => exact text_ne_nil_of_mem_pieces hp
  | true =>
    rcases List.mem_cons.1 hp with rfl | hp
    · cases hk
    · exact text_ne_nil_of_mem_pieces hp

/-! ## The author's tokens of a line -/

section Line

variable {st st' : LineState} {line : List Char} {f : Fate} {removed : Bool}

/-- The text behind a header directive is made of pieces of the line. -/
theorem exists_pieces_behindHeader (line : List Char) :
    ∃ ps qs, pieces line = ps ++ qs ∧ qs.flatMap Piece.text = behindHeader line := by
  unfold behindHeader
  split
  · exact ⟨pieces line, [], (List.append_nil _).symm, rfl⟩
  · unfold behindSemicolon
    split
    · rename_i t ht
      obtain ⟨ps, p, hp, -⟩ := pieces_splitAtByte_stop (List.mem_of_find?_eq_some ht)
      refine ⟨ps ++ [p], pieces (splitAtByte t.stop line).2, ?_, text_pieces _⟩
      rw [hp]
      simp
    · exact ⟨pieces line, [], (List.append_nil _).symm, rfl⟩

/-- The author's part of a line starts with a piece of its own; what stays of the line are its
tokens, except behind a header directive. -/
theorem StepsTo.exists_userPieces (h : StepsTo st line f st')
    (hsync : f.isKept → removed → st.inComment = false) :
    ∃ ps qs, piecesFrom st.inComment line = ps ++ qs ∧
      qs.flatMap Piece.text = f.userPart line ∧
      (f = .header → contents qs = contents (pieces (behindHeader line))) ∧
      (f ≠ .header → contents qs =
        (f.remains?.map fun r => contents (piecesFrom (openInKept removed st) r)).getD []) := by
  have kept (hf : f = .kept line) : openInKept removed st = st.inComment :=
    openInKept_eq_iff.2 (hsync (by rw [hf]; rfl))
  have outside (hin : st.inComment = false) : piecesFrom st.inComment line = pieces line := by
    rw [hin]
    rfl
  cases h with
  | continues =>
    exact ⟨piecesFrom st.inComment line, [], (List.append_nil _).symm, rfl, by simp, fun _ => rfl⟩
  | inComment =>
    refine ⟨[], piecesFrom st.inComment line, rfl, text_piecesFrom _ _, by simp, fun _ => ?_⟩
    rw [kept rfl]
    rfl
  | header _ hin _ =>
    obtain ⟨ps, qs, hcut, htext⟩ := exists_pieces_behindHeader line
    rw [outside hin]
    refine ⟨ps, qs, hcut, htext, fun _ => ?_, fun h => absurd rfl h⟩
    rw [← htext, pieces_flatMap_of_append hcut]
  | @redeclaration rest _ hin hr =>
    obtain ⟨ps, hps, -⟩ := exists_pieces_of_afterRedeclaration? hr
    rw [outside hin]
    by_cases hblank : isAllBlank rest
    · refine ⟨pieces line, [], (List.append_nil _).symm, ?_, by simp, fun _ => ?_⟩
      · rw [Fate.userPart, if_pos hblank]
        rfl
      · rw [Fate.remains?, if_pos hblank]
        rfl
    · refine ⟨ps, pieces rest, hps, ?_, by simp, fun _ => ?_⟩
      · rw [Fate.userPart, if_neg hblank, text_pieces]
      · have hopen : openInKept removed st = false := by simp [openInKept, hin]
        rw [Fate.remains?, if_neg hblank, hopen]
        rfl
  | stays =>
    refine ⟨[], piecesFrom st.inComment line, rfl, text_piecesFrom _ _, by simp, fun _ => ?_⟩
    rw [kept rfl]
    rfl
  | opens =>
    exact ⟨piecesFrom st.inComment line, [], (List.append_nil _).symm, rfl, by simp, fun _ => rfl⟩

/-- The author's tokens of the first line are those of its author's part. -/
theorem filter_isUserByte_line {ps qs : List Piece} (n : Nat) (e : List Char)
    (ls : List (Fate × List Char × List Char)) (isOpen : Bool)
    (hcut : piecesFrom isOpen line = ps ++ qs) (hq : qs.flatMap Piece.text = f.userPart line) :
    ((tokensFrom n (piecesFrom isOpen line)).filter fun t =>
        isUserByte ((f, line, e) :: ls) (t.start - n)) =
      tokensFrom (n + byteLength (ps.flatMap Piece.text)) qs := by
  have hline : byteLength (ps.flatMap Piece.text) + byteLength (f.userPart line) =
      byteLength line := by
    rw [← hq, ← byteLength_append, ← List.flatMap_append, ← hcut, text_piecesFrom]
  have hne (p : Piece) (hp : p ∈ piecesFrom isOpen line) := text_ne_nil_of_mem_piecesFrom hp
  rw [hcut, tokensFrom_append, List.filter_append]
  rw [hcut] at hne
  have hps : ((tokensFrom n ps).filter fun t =>
      isUserByte ((f, line, e) :: ls) (t.start - n)) = [] := by
    refine List.filter_eq_nil_iff.2 fun t ht => ?_
    have hlt := start_lt_of_mem_tokensFrom (fun p hp => hne p (List.mem_append_left qs hp)) ht
    have hle := start_le_of_mem_tokensFrom ht
    rw [isUserByte, if_pos (by rw [byteLength_append]; omega)]
    simp only [decide_eq_true_eq]
    omega
  have hqs : ((tokensFrom (n + byteLength (ps.flatMap Piece.text)) qs).filter fun t =>
      isUserByte ((f, line, e) :: ls) (t.start - n)) =
      tokensFrom (n + byteLength (ps.flatMap Piece.text)) qs := by
    refine List.filter_eq_self.2 fun t ht => ?_
    have hlt := start_lt_of_mem_tokensFrom (fun p hp => hne p (List.mem_append_right ps hp)) ht
    have hle := start_le_of_mem_tokensFrom ht
    rw [hq] at hlt
    rw [isUserByte, if_pos (by rw [byteLength_append]; omega)]
    simp only [decide_eq_true_eq]
    omega
  rw [hps, hqs, List.nil_append]

end Line

/-! ## The author's tokens of all lines -/

/-- One list is part of another, and all of it exactly if `p` holds. -/
structure PartOf {α : Type} (ks us : List α) (p : Prop) : Prop where
  sublist : ks.Sublist us
  length_le_iff : us.length ≤ ks.length ↔ p

theorem PartOf.append {α : Type} {ks us ks' us' : List α} {p q : Prop} (h : PartOf ks us p)
    (h' : PartOf ks' us' q) : PartOf (ks ++ ks') (us ++ us') (p ∧ q) where
  sublist := h.sublist.append h'.sublist
  length_le_iff := by
    have hlength := h.sublist.length_le
    have hlength' := h'.sublist.length_le
    rw [← h.length_le_iff, ← h'.length_le_iff, List.length_append, List.length_append]
    omega

section Lines

variable {st st' : LineState} {line : List Char} {f : Fate} {removed : Bool}

/-- What stays of a line is part of its author's tokens. -/
theorem StepsTo.partOf_line (h : StepsTo st line f st')
    (hsync : f.isKept → removed → st.inComment = false) (n : Nat) (e : List Char)
    (ls : List (Fate × List Char × List Char)) :
    PartOf ((f.remains?.map fun r => contents (piecesFrom (openInKept removed st) r)).getD [])
      (((tokensFrom n (piecesFrom st.inComment line)).filter fun t =>
        isUserByte ((f, line, e) :: ls) (t.start - n)).map Token.content)
      (f = .header → tokens (behindHeader line) = []) := by
  obtain ⟨ps, qs, hcut, hq, hheader, hother⟩ := h.exists_userPieces hsync
  rw [filter_isUserByte_line n e ls st.inComment hcut hq, map_content_tokensFrom]
  by_cases hf : f = .header
  · subst hf
    rw [hheader rfl, tokens_eq_nil_iff]
    refine ⟨List.nil_sublist _, ?_⟩
    simp [Fate.remains?]
  · rw [hother hf]
    exact ⟨List.Sublist.refl _, by simp [hf]⟩

/-- The tokens of what stays of a line, followed by those of what stays behind it. -/
theorem StepsTo.contents_keptText_cons (h : StepsTo st line f st')
    (hc : st.continuing = true → removed) (hsync : f.isKept → removed → st.inComment = false)
    (hl : '\n' ∉ line) (hp : ∀ p ∈ piecesFrom st.inComment line, p.closesOnLine)
    (fs : List Fate) :
    contents (piecesFrom (openInKept removed st) (keptText (f :: fs))) =
      (f.remains?.map fun r => contents (piecesFrom (openInKept removed st) r)).getD [] ++
        contents (piecesFrom (openInKept f.isRemoved st') (keptText fs)) := by
  rcases h.remains_inStep hc hsync hl hp with ⟨hr, hopen⟩ | ⟨r, hr, hrl, hrp, hopen⟩
  · rw [keptText_cons_of_none hr, hr, hopen]
    rfl
  · rw [keptText_cons_of_some hr, hr, piecesFrom_append _ hrl (.inl rfl) hrp, contents_continued,
      endsOpen_piecesFrom hrl, hopen]
    rfl

end Lines

/-- Where the scans are in step, the tokens of what stays are part of the author's tokens. -/
theorem partOf_userTokens (s : List Char) {st : LineState} {removed : Bool} (n : Nat)
    (hc : st.continuing = true → removed)
    (hp : ∀ p ∈ piecesFrom st.inComment s, p.closesOnLine) (hin : InStep st removed (lines s)) :
    PartOf (contents (piecesFrom (openInKept removed st) (keptText (fatesFrom st (lines s)))))
      (((tokensFrom n (piecesFrom st.inComment s)).filter fun t =>
        isUserByte ((fatesFrom st (lines s)).zip (endedLines s)) (t.start - n)).map Token.content)
      (HeaderLinesEnd (fatesFrom st (lines s)) (lines s)) := by
  have hend : HeaderLinesEnd [] [] := by simp [HeaderLinesEnd]
  induction s using endedLines_induction generalizing st removed n with
  | nil =>
    have hkept :
        contents (piecesFrom (openInKept removed st) (keptText (fatesFrom st (lines [])))) = [] :=
      contents_piecesFrom_nil _
    rw [hkept, tokensFrom_piecesFrom_nil]
    exact ⟨List.nil_sublist _, iff_of_true (Nat.le_refl 0) hend⟩
  | last l hl hne h =>
    have hstep := stepsTo_step st l
    rw [lines_eq_cons (s := []) h] at hin ⊢
    have hkept : contents (piecesFrom (openInKept (st.step l).1.isRemoved (st.step l).2)
        (keptText (fatesFrom (st.step l).2 (lines [])))) = [] := contents_piecesFrom_nil _
    rw [fatesFrom_cons, h, List.zip_cons_cons, headerLinesEnd_cons_iff,
      hstep.contents_keptText_cons hc hin.1 hl hp, hkept, List.append_nil]
    have hpart := hstep.partOf_line hin.1 n [] ((fatesFrom (st.step l).2 (lines [])).zip [])
    exact ⟨hpart.sublist, hpart.length_le_iff.trans (and_iff_left hend).symm⟩
  | line l e s hl he h ih =>
    have hstep := stepsTo_step st l
    have hline := closesOnLine_of_mem_line hl he hp
    have hafter := hstep.inComment_eq
    rw [lines_eq_cons h] at hin ⊢
    rw [fatesFrom_cons, h, List.zip_cons_cons, headerLinesEnd_cons_iff,
      hstep.contents_keptText_cons hc hin.1 hl hline, piecesFrom_append s hl he hline,
      tokensFrom_continued, text_piecesFrom, endsOpen_piecesFrom hl, ← hafter, List.filter_append,
      List.map_append]
    refine (hstep.partOf_line hin.1 n e _).append ?_
    -- positions behind the line count from its end
    have hbehind (t : Token) (ht : t ∈ tokensFrom (n + byteLength l + byteLength e)
        (piecesFrom (st.step l).2.inComment s)) (ls : List (Fate × List Char × List Char)) :
        isUserByte (((st.step l).1, l, e) :: ls) (t.start - n) =
          isUserByte ls (t.start - (n + byteLength l + byteLength e)) := by
      have hle := start_le_of_mem_tokensFrom ht
      rw [isUserByte, if_neg (by rw [byteLength_append]; omega), byteLength_append, Nat.sub_sub,
        ← Nat.add_assoc]
    rw [List.filter_congr fun t ht => hbehind t ht _]
    exact ih (n + byteLength l + byteLength e) hstep.isRemoved_of_continuing
      (by rw [hafter]; exact closesOnLine_behind hl he hp) hin.2

/-! ## The author's code stays -/

/-- In a source whose quoted strings close on their lines and whose removed lines leave no comment
open in front of a line that stays, the tokens of the author's code are found, in order, among those
of the parts of the shader exactly if nothing but blanks and comments follows a default precision on
its line. -/
theorem userTokens_sublist_iff {source : List Char} {a : Assembly}
    (h : Assembly.ofSource source = .ok a) (hl : LiteralsClose source)
    (hr : RemovedLinesClose source) :
    ((userTokens source).map Token.content).Sublist
        ((tokens a.reassembled).map Token.content) ↔
      HeaderLinesEnd (fates source) (lines source) := by
  have hp : ∀ p ∈ piecesFrom LineState.start.inComment source, p.closesOnLine := hl
  have hc : LineState.start.continuing = true → false = true := id
  have hpart := partOf_userTokens source 0 hc hp ((removedLinesClose_iff_inStep hl).1 hr)
  have hparts : keptText (fates source) = a.reassembled := (parts_of_ofSource h).2.1
  have hkept : contents (piecesFrom false (keptText (fates source))) =
      (tokens a.reassembled).map Token.content := by
    rw [hparts, tokens, map_content_tokensFrom]
    rfl
  change PartOf (contents (piecesFrom false (keptText (fates source))))
    ((userTokens source).map Token.content) (HeaderLinesEnd (fates source) (lines source)) at hpart
  rw [hkept] at hpart
  constructor
  · intro hsublist
    exact hpart.length_le_iff.1 hsublist.length_le
  · intro hend
    rw [hpart.sublist.eq_of_length_le (hpart.length_le_iff.2 hend)]

/-- A source with a header, a declaration with code behind it, and definitions. -/
def headedSource : List Char :=
  unlines (["#version 300 es", "precision highp float; // a", "uniform float iTime; float x;",
    "#define K \\", "1", "void mainImage(out vec4 c,", "in vec2 p) \x7b \x7d"].map String.toList)

theorem userTokens_sublist_iff_headedSource :
    ∃ a, Assembly.ofSource headedSource = .ok a ∧
      ((userTokens headedSource).map Token.content).Sublist
        ((tokens a.reassembled).map Token.content) := by
  obtain ⟨hliterals, hstep, hend, hok⟩ : LiteralsClose headedSource ∧
      InStep .start false (lines headedSource) ∧
      HeaderLinesEnd (fates headedSource) (lines headedSource) ∧
      (Assembly.ofSource headedSource).isOk := by
    unfold LiteralsClose HeaderLinesEnd headedSource
    repeat rw [map_toList_cons]
    decide +kernel
  obtain ⟨a, h⟩ := exists_of_isOk hok
  have hclose := (removedLinesClose_iff_inStep hliterals).2 hstep
  exact ⟨a, h, (userTokens_sublist_iff h hliterals hclose).2 hend⟩

/-- A source with code behind a default precision. -/
def preciseSource : List Char :=
  unlines (["precision highp float; float x;", "void mainImage(out vec4 c,",
    "in vec2 p) \x7b \x7d"].map String.toList)

/-- Code behind a default precision is dropped with it. -/
theorem not_userTokens_sublist_preciseSource :
    LiteralsClose preciseSource ∧ RemovedLinesClose preciseSource ∧
      ∃ a, Assembly.ofSource preciseSource = .ok a ∧
        ¬ ((userTokens preciseSource).map Token.content).Sublist
          ((tokens a.reassembled).map Token.content) := by
  obtain ⟨hliterals, hstep, huser, hkept⟩ : LiteralsClose preciseSource ∧
      InStep .start false (lines preciseSource) ∧ (userTokens preciseSource).length = 16 ∧
      (Assembly.ofSource preciseSource).toOption.map
        (fun a => (tokens a.reassembled).length) = some 13 := by
    unfold LiteralsClose preciseSource
    repeat rw [map_toList_cons]
    decide +kernel
  refine ⟨hliterals, (removedLinesClose_iff_inStep hliterals).2 hstep, ?_⟩
  obtain ⟨a, h, hlength⟩ := exists_of_map_toOption hkept
  refine ⟨a, h, fun hsublist => ?_⟩
  have hle := hsublist.length_le
  rw [List.length_map, List.length_map, huser, hlength] at hle
  omega

end Shader

end ShaderPreview
