import ShaderPreview.Proofs.Shader.Seam
import ShaderPreview.Proofs.Text.Literal

/-!
# Putting the parts together again

An assembly is cut at byte offsets that tokens carry.  No cut goes through a character, a token or a
comment: put together the parts are the text that was cut, scanned one by one they have its tokens,
and the braces of the body are a group of their own (`partsFit_of_ofSource`).  The program is made
of the parts as they stand.
-/

namespace ShaderPreview

namespace Shader

open Text

/-! ## Cutting at an offset -/

/-- The pieces from one token to a later one hold these two and the tokens between them. -/
theorem exists_group_of_tokensFrom {n : Nat} {ps : List Piece} {xs ys zs : List Token}
    {first last : Token} (h : tokensFrom n ps = xs ++ first :: (ys ++ last :: zs)) :
    ∃ before group after : List Piece, ps = before ++ group ++ after ∧
      n + byteLength (before.flatMap Piece.text) = first.start ∧
      first.start + byteLength (group.flatMap Piece.text) = last.stop ∧
      tokensFrom first.start group = first :: (ys ++ [last]) := by
  obtain ⟨before, p, rest, hp, hk, htext, hstart, hrest⟩ := exists_piece_of_tokensFrom h
  obtain ⟨mid, q, after, rfl, -, htext', hstart', hafter⟩ := exists_piece_of_tokensFrom hrest
  have hlast : first.stop + byteLength ((mid ++ [q]).flatMap Piece.text) = last.stop := by
    rw [List.flatMap_append, byteLength_append, ← Nat.add_assoc, hstart', Token.stop, ← htext']
    simp
  have hbehind : tokensFrom first.stop (mid ++ [q]) = ys ++ [last] := by
    have hcut : mid ++ q :: after = (mid ++ [q]) ++ after := by simp
    have hcut' : ys ++ last :: zs = (ys ++ [last]) ++ zs := by simp
    rw [hcut, tokensFrom_append, hlast, hafter, hcut'] at hrest
    exact List.append_cancel_right hrest
  refine ⟨before, p :: (mid ++ [q]), after, by simp [hp], hstart, ?_, ?_⟩
  · rw [List.flatMap_cons, byteLength_append, htext, ← Nat.add_assoc]
    exact hlast
  · rw [tokensFrom, htext, hk]
    exact congrArg (first :: ·) hbehind

/-! ## Tokens that are moved -/

/-- The token `n` bytes further on. -/
def Token.movedBy (n : Nat) (t : Token) : Token := { t with start := n + t.start }

theorem tokensFrom_add (n m : Nat) (ps : List Piece) :
    tokensFrom (n + m) ps = (tokensFrom m ps).map (Token.movedBy n) := by
  induction ps generalizing m with
  | nil => rfl
  | cons p ps ih =>
    rw [tokensFrom, tokensFrom, Nat.add_assoc, ih]
    rcases p.kind with _ | _ | closed | k <;> rfl

theorem openings_map_movedBy (n : Nat) (ts : List Token) :
    openings (ts.map (Token.movedBy n)) = openings ts := List.countP_map

theorem closings_map_movedBy (n : Nat) (ts : List Token) :
    closings (ts.map (Token.movedBy n)) = closings ts := List.countP_map

/-- The tokens are a group in braces: it opens with a brace, as many braces close as open, and in
front of its end one is always open. -/
structure IsBraceGroup (ts : List Token) : Prop where
  opens : ts.head?.any (·.isMark '{')
  balanced : Balanced ts
  inside : ∀ q, q <+: ts → q ≠ [] → q ≠ ts → closings q < openings q

theorem IsBraceGroup.of_map_movedBy {n : Nat} {ts : List Token}
    (h : IsBraceGroup (ts.map (Token.movedBy n))) : IsBraceGroup ts where
  opens := by
    have hopens := h.opens
    rw [List.head?_map, Option.any_map] at hopens
    exact hopens
  balanced := by
    have hbalanced := h.balanced
    rw [Balanced, closings_map_movedBy, openings_map_movedBy] at hbalanced
    exact hbalanced
  inside q hq hne hnot := by
    have hlength : (q.map (Token.movedBy n)).length ≠ (ts.map (Token.movedBy n)).length := by
      rw [List.length_map, List.length_map]
      exact fun hl => hnot (hq.eq_of_length hl)
    have hlt := h.inside (q.map (Token.movedBy n)) (hq.map _) (by simpa using hne)
      fun heq => hlength (congrArg List.length heq)
    rw [closings_map_movedBy, openings_map_movedBy] at hlt
    exact hlt

/-! ## The block of the author's code -/

/-- The text stands on lines of its own, without the line feeds around it; of a blank text nothing
is left. -/
def IsBlockOf (text block : List Char) : Prop :=
  (isAllBlank text ∧ block = []) ∨
    ¬ isAllBlank text ∧ ∃ front inner back, text = front ++ inner ++ back ∧
      (∀ c ∈ front ++ back, c = '\n') ∧ inner.head? ≠ some '\n' ∧ inner.getLast? ≠ some '\n' ∧
      block = inner ++ ['\n']

theorem isBlockOf_block (text : List Char) : IsBlockOf text (Program.block text) := by
  obtain ⟨front, back, htext, hfront, hback⟩ := exists_trimNewlines_append text
  obtain ⟨hhead, hlast⟩ := ends_trimNewlines text
  have hnewline (w : List Char) (hw : ∀ c ∈ w, c = '\n') : isAllBlank w := by
    refine List.all_eq_true.2 fun c hc => ?_
    rw [hw c hc]
    rfl
  have hblank : isAllBlank text = isAllBlank (trimNewlines text) := by
    conv_lhs => rw [htext]
    rw [isAllBlank, List.all_append, List.all_append]
    change (isAllBlank front && isAllBlank (trimNewlines text) && isAllBlank back) = _
    rw [hnewline front hfront, hnewline back hback, Bool.and_true, Bool.true_and]
  rw [Program.block, ← hblank]
  by_cases h : isAllBlank text
  · exact .inl ⟨h, if_pos h⟩
  · refine .inr ⟨h, front, trimNewlines text, back, htext, ?_, hhead, hlast, if_neg h⟩
    intro c hc
    exact (List.mem_append.1 hc).elim (hfront c) (hback c)

/-! ## The parts of an assembly -/

/-- The entry point of an assembly stands at `e` in the code that stays. -/
structure Stands (source : List Char) (a : Assembly) (e : EntryPoint) : Prop where
  located : EntryPoint.locate (keptTokens source) = .ok e
  start_eq : byteLength a.bodyBefore = e.start
  stop_eq : byteLength (a.bodyBefore ++ a.entry) = e.stop
  /-- The first opening brace behind the signature, which starts the entry point and names its
  parameters, starts the body. -/
  brace : ∃ xs first ys after b rest, keptTokens source = xs ++ first :: ys ∧
    first.start = e.start ∧
    Signature.read? (first :: ys) = some (⟨a.colorName, a.coordName⟩, after) ∧
    after.dropWhile (!·.isMark '{') = b :: rest ∧ b.start = e.bodyStart
  /-- The body is the end of the entry point from that brace on. -/
  body : ∃ front, a.entry = front ++ a.entryBody ∧
    byteLength (a.bodyBefore ++ front) = e.bodyStart
  isBraceGroup : IsBraceGroup (tokens a.entryBody)

/-- The parts of an assembly are the source's code that stays, cut in three, and the program is made
of them. -/
structure PartsFit (source : List Char) (a : Assembly) : Prop where
  reassembled_eq : a.reassembled = keptText (fates source)
  body_eq : a.body = a.bodyBefore ++ a.bodyAfter
  entry_eq : ∃ mid, a.entry = "void".toList ++ mid ++ ['}']
  stands : ∃ e, Stands source a e
  tokens_eq : (tokens a.bodyBefore ++ tokens a.entry ++ tokens a.bodyAfter).map Token.content =
    (tokens (keptText (fates source))).map Token.content
  program_eq : ∃ block, IsBlockOf a.body block ∧
    a.program = Program.header ++ ['\n'] ++ a.definitions.flatMap (· ++ ['\n']) ++ block ++
      (a.entry ++ ['\n']) ++ ['\n'] ++ Program.dispatcher

/-- The first opening brace behind a signature is the one of the definition. -/
theorem read?_of_definition? {ts body : List Token} {signature : Signature} {b : Token}
    (h : definition? ts = some (signature, b, body)) :
    ∃ after, Signature.read? ts = some (signature, after) ∧
      after.dropWhile (!·.isMark '{') = b :: body := by
  have hb := (dropWhile_of_definition? h).1
  unfold definition? at h
  split at h
  · cases h
  · rename_i s after hread
    split at h
    · cases h
    · rename_i b' body' hd
      simp only [Option.ite_none_right_eq_some, Option.some.injEq, Prod.mk.injEq] at h
      obtain ⟨-, rfl, rfl, rfl⟩ := h
      refine ⟨after, hread, ?_⟩
      -- in front of the brace there is no terminator, hence no brace
      have hfront : ∀ t ∈ after.takeWhile (!·.isTerminator), (!t.isMark '{') = true := by
        intro t ht
        have hnot := List.all_eq_true.1 List.all_takeWhile t ht
        simp only [Token.isTerminator, Bool.not_eq_true', Bool.or_eq_false_iff] at hnot ⊢
        exact hnot.1
      have hcut : after = after.takeWhile (!·.isTerminator) ++ b' :: body' := by
        rw [← hd, List.takeWhile_append_dropWhile]
      rw [hcut, List.dropWhile_append_of_pos hfront, List.dropWhile_cons_of_neg (by simp [hb])]

theorem exists_stands_of_ofSource {source : List Char} {a : Assembly}
    (h : Assembly.ofSource source = .ok a) : ∃ e, Stands source a e := by
  obtain ⟨xs, first, ys, signature, b, body, close, rest, hts, hd, hclose, hlocate, rfl⟩ :=
    exists_definition_of_ofSource h
  have hb := (dropWhile_of_definition? hd).1
  obtain ⟨after, hread, hafter⟩ := read?_of_definition? hd
  obtain ⟨us, rfl⟩ := exists_append_of_definition? hd
  obtain ⟨braces, hbraces, -, hbody, hinside⟩ := isBody_of_closeBraces_ok hb hclose
  obtain ⟨ts, rfl, -, -, -⟩ := closeBraces_ok (Nat.le_refl 1) hclose
  have hgroup : braces = b :: (ts ++ [close]) := by
    have happend : braces ++ rest = b :: (ts ++ [close]) ++ rest := by
      rw [← hbraces]
      simp
    exact List.append_cancel_right happend
  -- the pieces in front of the entry point, up to its first brace, of its body, and behind it
  obtain ⟨before, p, behind, hp, -, htext, hstart, hbehind⟩ := exists_piece_of_tokensFrom hts
  obtain ⟨mid, group, last, rfl, hopen, hstop, htokens⟩ := exists_group_of_tokensFrom hbehind
  rw [Nat.zero_add] at hstart
  set front := (p :: mid).flatMap Piece.text with hfront
  have hlength : first.start + byteLength front = b.start := by
    rw [hfront, List.flatMap_cons, byteLength_append, htext, ← Nat.add_assoc]
    exact hopen
  have hs : keptText (fates source) = before.flatMap Piece.text ++
      (front ++ group.flatMap Piece.text) ++ last.flatMap Piece.text := by
    rw [← text_pieces (keptText (fates source)), hp, hfront]
    simp
  set e : EntryPoint := ⟨signature, first.start, b.start, close.stop, rest⟩
  have hend : byteLength (before.flatMap Piece.text ++ (front ++ group.flatMap Piece.text)) =
      e.stop := by
    rw [byteLength_append, byteLength_append, hstart, ← Nat.add_assoc, hlength]
    exact hstop
  obtain ⟨hbefore, hentry, -⟩ :=
    ofEntryPoint_parts (movedDefinitions (fates source)) e hs hstart hend
  set a := Assembly.ofEntryPoint (movedDefinitions (fates source)) (keptText (fates source)) e
  have hentryBody : a.entryBody = group.flatMap Piece.text := by
    have hoffset : a.entryBodyOffset = byteLength front := by
      change b.start - first.start = _
      omega
    rw [Assembly.entryBody, hoffset, hentry, splitAtByte_byteLength]
  have hgroupAlone : IsBraceGroup (tokens a.entryBody) := by
    have hcut : pieces (keptText (fates source)) = (before ++ p :: mid) ++ (group ++ last) := by
      rw [hp]
      simp
    have hpieces : pieces a.entryBody = group := by
      rw [hentryBody, pieces_flatMap_of_eq_append (pieces_flatMap_of_append hcut)]
    have hmoved : (tokens a.entryBody).map (Token.movedBy b.start) = braces := by
      rw [tokens, hpieces, ← tokensFrom_add, Nat.add_zero, htokens, hgroup]
    refine IsBraceGroup.of_map_movedBy (n := b.start) ?_
    rw [hmoved]
    exact ⟨by rw [hgroup]; exact hb, hbody.balanced, hinside⟩
  exact ⟨e,
    { located := hlocate
      start_eq := by rw [hbefore, hstart]
      stop_eq := by rw [hbefore, hentry, hend]
      brace := ⟨xs, first, us ++ b :: (ts ++ close :: rest), after, b, _, hts, rfl, hread, hafter,
        rfl⟩
      body := ⟨front, by rw [hentry, hentryBody], by
        rw [hbefore, byteLength_append, hstart, hlength]⟩
      isBraceGroup := hgroupAlone }⟩

/-- The parts of every shader that can be assembled fit. -/
theorem partsFit_of_ofSource {source : List Char} {a : Assembly}
    (h : Assembly.ofSource source = .ok a) : PartsFit source a where
  reassembled_eq := (parts_of_ofSource h).2.1.symm
  body_eq := rfl
  entry_eq := (parts_of_ofSource h).2.2.2
  stands := exists_stands_of_ofSource h
  tokens_eq := by
    simp only [tokens, List.map_append, map_content_tokensFrom, pieces_keptText h, contents,
      List.filterMap_append]
  program_eq := by
    refine ⟨Program.block a.body, isBlockOf_block a.body, ?_⟩
    rw [program_eq h, Assembly.programBefore, unlines]
    simp

/-- A source with code on both sides of the entry point, whose body has braces inside. -/
def dividedSource : List Char :=
  unlines (["#define K 2", "float f() \x7b return 1.; \x7d", "void mainImage(out vec4 c,",
    "in vec2 p) \x7b if (p.x > 0.) \x7b c = vec4(f()); \x7d \x7d float x; // last"].map
      String.toList)

theorem partsFit_of_ofSource_dividedSource :
    ∃ a, Assembly.ofSource dividedSource = .ok a ∧ PartsFit dividedSource a := by
  have hok : (Assembly.ofSource dividedSource).isOk := by
    unfold dividedSource
    repeat rw [map_toList_cons]
    decide +kernel
  obtain ⟨a, h⟩ := exists_of_isOk hok
  exact ⟨a, h, partsFit_of_ofSource h⟩

end Shader

end ShaderPreview
