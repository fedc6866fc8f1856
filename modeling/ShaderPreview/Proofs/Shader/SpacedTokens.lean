import ShaderPreview.Proofs.Shader.Seam

/-!
# Tokens on their own

What a token is does not hang on its surroundings: written on its own it is lexed as itself, and so
are all tokens of a text when they are written one after the other with blanks between them
(`contents_intercalate`).  A word, a number or a mark ends in front of a blank; a quoted string that
has no end of its own can only be the last token.
-/

namespace ShaderPreview

namespace Shader

open Text

/-- The tokens written one after the other, with single spaces between them. -/
def spacedText (ts : List Token) : List Char := [' '].intercalate (ts.map Token.text)

variable {s r : List Char} {p : Piece} {k : TokenKind}

/-! ## One token -/

/-- A token that is not the end of the text ends by itself. -/
theorem Piece.isClosed_of_next? (h : Piece.next? s = some (p, r)) (hr : r ≠ [])
    (hk : p.kind = .token k) : p.isClosed := by
  revert h hk
  fun_cases Piece.next? s <;> simp only [reduceCtorEq, Option.some.injEq, Prod.mk.injEq,
    false_imp_iff, and_imp] <;> rintro rfl rfl hk
  case case5 c s _ _ _ _ l r hcut =>
    have hend : (cutQuoted c s).2 ≠ [] := by
      rw [hcut]
      exact hr
    have hcloses := closesQuoted_of_cutQuoted hend
    rw [← closesQuoted_cutQuoted, hcut] at hcloses
    exact hcloses
  all_goals first | rfl | cases hk

/-- Every piece of a text is the only piece of its own text. -/
theorem pieces_text_of_mem (hp : p ∈ pieces s) : pieces p.text = [p] := by
  obtain ⟨before, after, hs⟩ := List.append_of_mem hp
  have hrest : pieces ((p :: after).flatMap Piece.text) = [p] ++ after :=
    pieces_flatMap_of_append hs
  have halone := pieces_flatMap_of_eq_append hrest
  rw [List.flatMap_singleton] at halone
  exact halone

theorem tokens_text_of_mem {t : Token} (ht : t ∈ tokens s) :
    tokens t.text = [{ t with start := 0 }] := by
  obtain ⟨xs, ys, hts⟩ := List.append_of_mem ht
  obtain ⟨before, p, after, hs, hk, htext, -, -⟩ := exists_piece_of_tokensFrom hts
  have hp : p ∈ pieces s := by
    rw [hs]
    exact List.mem_append_right before List.mem_cons_self
  rw [tokens, ← htext, pieces_text_of_mem hp, tokensFrom, hk]
  rfl

/-! ## Blanks between tokens -/

theorem contents_cons_token (hk : p.kind = .token k) (ps : List Piece) :
    contents (p :: ps) = (k, p.text) :: contents ps := by
  apply List.filterMap_cons_some
  rw [Piece.content?, hk]

theorem contents_cons_gap (hk : ∀ k, p.kind ≠ .token k) (ps : List Piece) :
    contents (p :: ps) = contents ps := by
  apply List.filterMap_cons_none
  unfold Piece.content?
  split
  · rename_i k h
    exact absurd h (hk k)
  · rfl

/-- Blanks in front of a text add no token. -/
theorem contents_blanks_append {g : List Char} (hg : ∀ c ∈ g, isAsciiBlank c) (t : List Char) :
    contents (pieces (g ++ t)) = contents (pieces t) := by
  induction g with
  | nil => rfl
  | cons c g ih =>
    obtain ⟨hc, hg⟩ := List.forall_mem_cons.1 hg
    have hnext : Piece.next? (c :: (g ++ t)) = some (⟨.blank, [c]⟩, g ++ t) := by
      rw [next?_cons fun d _ hslash => ?_, if_pos hc]
      rw [hslash] at hc
      cases hc
    rw [List.cons_append, pieces_eq_cons hnext, contents_cons_gap (fun k => PieceKind.noConfusion)]
    exact ih hg

/-- A token that ends by itself is lexed in front of a blank as what it is. -/
theorem contents_text_append (h : Piece.next? s = some (p, r)) (hk : p.kind = .token k)
    (hclosed : p.isClosed) {c : Char} (hc : isAsciiBlank c) (t : List Char) :
    contents (pieces (p.text ++ c :: t)) = (k, p.text) :: contents (pieces (c :: t)) := by
  have hnext : Piece.next? (p.text ++ c :: t) = some (p, c :: t) := by
    apply next?_text_append h
    intro d hd
    cases hd
    refine .inr ⟨hclosed, ?_, hc⟩
    rw [hk]
    exact PieceKind.noConfusion
  rw [pieces_eq_cons hnext, contents_cons_token hk]

/-- The tokens of a text are found again when they are written one after the other with blanks
between them. -/
theorem contents_intercalate {g : List Char} (hne : g ≠ []) (hg : ∀ c ∈ g, isAsciiBlank c)
    (s : List Char) :
    contents (pieces (g.intercalate ((contents (pieces s)).map Prod.snd))) =
      contents (pieces s) := by
  fun_induction pieces s with
  | case1 =>
    show contents (pieces []) = []
    rw [pieces_nil]
    rfl
  | case2 s p r h ih =>
    by_cases hk : ∃ k, p.kind = .token k
    · obtain ⟨k, hk⟩ := hk
      rw [contents_cons_token hk, List.map_cons]
      by_cases hrest : contents (pieces r) = []
      · have hp : p ∈ pieces s := by
          rw [pieces_eq_cons h]
          exact List.mem_cons_self
        rw [hrest, List.map_nil, List.intercalate_singleton, pieces_text_of_mem hp,
          contents_cons_token hk]
        rfl
      · -- more tokens follow, so the token has an end of its own, and a blank may stand behind it
        have hr : r ≠ [] := by
          rintro rfl
          rw [pieces_nil] at hrest
          exact hrest rfl
        have hclosed : p.isClosed := Piece.isClosed_of_next? h hr hk
        obtain ⟨q, qs, hqs⟩ := List.exists_cons_of_ne_nil hrest
        obtain ⟨c, g', rfl⟩ := List.exists_cons_of_ne_nil hne
        have hc : isAsciiBlank c := hg c List.mem_cons_self
        rw [hqs, List.map_cons] at ih
        rw [hqs, List.map_cons, List.intercalate_cons_cons, List.append_assoc, List.cons_append,
          contents_text_append h hk hclosed hc, ← List.cons_append, contents_blanks_append hg, ih]
    · rw [contents_cons_gap fun k h => hk ⟨k, h⟩]
      exact ih

theorem map_content_tokens (s : List Char) :
    (tokens s).map Token.content = contents (pieces s) :=
  map_content_tokensFrom 0 (pieces s)

/-- Tokens are free of context: written one after the other with single spaces between them, the
tokens of a text are lexed as the same kinds and texts, and each of them written on its own is lexed
as this one token. -/
theorem tokens_spacedText (s : List Char) :
    (tokens (spacedText (tokens s))).map Token.content = (tokens s).map Token.content ∧
      ∀ t ∈ tokens s, tokens t.text = [{ t with start := 0 }] := by
  have hblank : ∀ c ∈ [' '], isAsciiBlank c := List.forall_mem_singleton.2 rfl
  have htexts : (tokens s).map Token.text = (contents (pieces s)).map Prod.snd := by
    rw [← map_content_tokens, List.map_map]
    rfl
  constructor
  · rw [spacedText, htexts, map_content_tokens, map_content_tokens]
    exact contents_intercalate (List.cons_ne_nil ' ' []) hblank s
  · intro t ht
    exact tokens_text_of_mem ht

/-- An exponent, a comment and a hexadecimal number without blanks, an escaped quote, and a quoted
string without an end. -/
def crowdedSource : List Char := "1.5e-3+/*/*/0x1e+2\\'it\\'s'/#§'open".toList

theorem tokens_spacedText_crowdedSource :
    spacedText (tokens crowdedSource) = "1.5e-3 + 0x1e + 2 \\ 'it\\'s' / # § 'open".toList ∧
      (tokens (spacedText (tokens crowdedSource))).map Token.content =
        (tokens crowdedSource).map Token.content ∧
      ⟨.quoted, "'open".toList, 30⟩ ∈ tokens crowdedSource ∧
      tokens "'open".toList = [⟨.quoted, "'open".toList, 0⟩] := by
  obtain ⟨hall, heach⟩ := tokens_spacedText crowdedSource
  have hmem : ⟨.quoted, "'open".toList, 30⟩ ∈ tokens crowdedSource := by decide +kernel
  exact ⟨by decide +kernel, hall, hmem, heach _ hmem⟩

end Shader

end ShaderPreview
