import ShaderPreview.Shader.EntryPoint

/-!
# Where tokens stand

The positions of a token are byte offsets into the text that was scanned: a text can be split where
one token starts and where a later one ends.
-/

namespace ShaderPreview

namespace Shader

open Text

/-- A token is a piece of its kind, and the tokens behind it come from the pieces behind it. -/
theorem exists_piece_of_tokensFrom {start : Nat} {ps : List Piece} {xs ys : List Token} {t : Token}
    (h : tokensFrom start ps = xs ++ t :: ys) :
    ∃ before p after, ps = before ++ p :: after ∧ p.kind = .token t.kind ∧ p.text = t.text ∧
      start + byteLength (before.flatMap Piece.text) = t.start ∧
      tokensFrom t.stop after = ys := by
  induction ps generalizing start xs with
  | nil => simp [tokensFrom] at h
  | cons p ps ih =>
    -- the token stands among the pieces behind the first
    have later {xs : List Token} (h : tokensFrom (start + byteLength p.text) ps = xs ++ t :: ys) :
        ∃ before q after, p :: ps = before ++ q :: after ∧ q.kind = .token t.kind ∧
          q.text = t.text ∧ start + byteLength (before.flatMap Piece.text) = t.start ∧
          tokensFrom t.stop after = ys := by
      obtain ⟨before, q, after, rfl, hk, hq, hs, hy⟩ := ih h
      refine ⟨p :: before, q, after, rfl, hk, hq, ?_, hy⟩
      rw [List.flatMap_cons, byteLength_append, ← Nat.add_assoc]
      exact hs
    unfold tokensFrom at h
    rcases hk : p.kind with _ | _ | closed | k <;> rw [hk] at h
    · exact later h
    · exact later h
    · exact later h
    · rcases xs with _ | ⟨x, xs⟩
      · obtain ⟨rfl, rfl⟩ := List.cons.inj h
        exact ⟨[], p, ps, rfl, hk, rfl, rfl, rfl⟩
      · exact later (List.cons.inj h).2

/-- A text is cut in front of a token and behind a later one without going through a piece. -/
theorem exists_pieces_of_tokens {s : List Char} {xs ys zs : List Token} {first last : Token}
    (h : tokens s = xs ++ first :: (ys ++ last :: zs)) :
    ∃ (before : List Piece) (p : Piece) (mid : List Piece) (q : Piece) (after : List Piece),
      pieces s = before ++ (p :: mid ++ [q]) ++ after ∧ p.text = first.text ∧ q.text = last.text ∧
      byteLength (before.flatMap Piece.text) = first.start ∧
      byteLength ((before ++ (p :: mid ++ [q])).flatMap Piece.text) = last.stop := by
  obtain ⟨before, p, rest, hp, -, hfirst, hstart, hrest⟩ := exists_piece_of_tokensFrom h
  obtain ⟨mid, q, after, rfl, -, hlast, hstop, -⟩ := exists_piece_of_tokensFrom hrest
  refine ⟨before, p, mid, q, after, by simp [hp], hfirst, hlast, by simpa using hstart, ?_⟩
  simp only [List.flatMap_append, List.flatMap_cons, List.flatMap_nil, byteLength_append,
    Token.stop, hfirst, hlast] at hstart hstop ⊢
  rw [byteLength_nil]
  omega

/-- The text between the start of a token and the end of a later one. -/
theorem exists_span_of_tokens {s : List Char} {xs ys zs : List Token} {first last : Token}
    (h : tokens s = xs ++ first :: (ys ++ last :: zs)) :
    ∃ before between after, s = before ++ between ++ after ∧ byteLength before = first.start ∧
      byteLength (before ++ between) = last.stop := by
  obtain ⟨before, p, mid, q, after, hp, -, -, hstart, hstop⟩ := exists_pieces_of_tokens h
  refine ⟨before.flatMap Piece.text, (p :: mid ++ [q]).flatMap Piece.text,
    after.flatMap Piece.text, ?_, hstart, ?_⟩
  · rw [← List.flatMap_append, ← List.flatMap_append, ← hp, text_pieces]
  · rw [← List.flatMap_append, hstop]

/-- A mark is one character. -/
theorem text_of_mem_pieces_mark {s : List Char} {p : Piece} {c : Char} (hp : p ∈ pieces s)
    (hk : p.kind = .token (.mark c)) : p.text = [c] := by
  fun_induction pieces s with
  | case1 => cases hp
  | case2 s q r h ih =>
    rcases List.mem_cons.1 hp with rfl | hp
    · revert h
      fun_cases Piece.next? s <;> simp only [reduceCtorEq, Option.some.injEq, Prod.mk.injEq,
        false_imp_iff, and_imp] <;> rintro rfl rfl <;> simp_all
    · exact ih hp

theorem text_of_isMark {s : List Char} {t : Token} {c : Char} (ht : t ∈ tokens s)
    (hm : t.isMark c) : t.text = [c] := by
  obtain ⟨xs, ys, hts⟩ := List.append_of_mem ht
  obtain ⟨before, p, after, hp, hk, htext, -⟩ := exists_piece_of_tokensFrom hts
  rw [Token.isMark, beq_iff_eq] at hm
  have hmem : p ∈ pieces s := by
    rw [hp]
    simp
  rw [← htext, text_of_mem_pieces_mark hmem (hk.trans (congrArg PieceKind.token hm))]

/-! ## Cutting behind a token -/

/-- The pieces from one on are those of the text that starts with it. -/
theorem pieces_flatMap_of_append {s : List Char} {ps qs : List Piece} (h : pieces s = ps ++ qs) :
    pieces (qs.flatMap Piece.text) = qs := by
  induction ps generalizing s with
  | nil =>
    rw [List.nil_append] at h
    rw [← h, text_pieces, h]
  | cons p ps ih =>
    rcases hnext : Piece.next? s with _ | ⟨q, r⟩
    · rw [Piece.eq_nil_of_next? hnext, pieces_nil] at h
      cases h
    · rw [pieces_eq_cons hnext] at h
      exact ih (List.cons.inj h).2

/-- A text can be cut behind a token. -/
theorem pieces_splitAtByte_stop {s : List Char} {t : Token} (ht : t ∈ tokens s) :
    ∃ ps p, pieces s = ps ++ p :: pieces (splitAtByte t.stop s).2 ∧ p.kind = .token t.kind ∧
      byteLength ((ps ++ [p]).flatMap Piece.text) = t.stop := by
  obtain ⟨xs, ys, hts⟩ := List.append_of_mem ht
  obtain ⟨before, p, after, hp, hk, htext, hstart, -⟩ := exists_piece_of_tokensFrom hts
  rw [Nat.zero_add] at hstart
  have hstop : byteLength ((before ++ [p]).flatMap Piece.text) = t.stop := by
    simp [Token.stop, hstart, htext]
  have hs : s = (before ++ [p]).flatMap Piece.text ++ after.flatMap Piece.text := by
    rw [← text_pieces s, hp]
    simp
  have hcut : pieces s = (before ++ [p]) ++ after := by
    rw [hp]
    simp
  have hrest : (splitAtByte t.stop s).2 = after.flatMap Piece.text := by
    rw [← hstop, hs, splitAtByte_byteLength]
  refine ⟨before, p, ?_, hk, hstop⟩
  rw [hrest, pieces_flatMap_of_append hcut, hp]

end Shader

end ShaderPreview
