import ShaderPreview.Proofs.Shader.ByteScan

/-!
# Tokens and the gaps between them

A text is its tokens and the gaps in front of them, between them and behind the last one, each token
at the byte offset that it carries (`Tiles`).  A gap is made of blanks and comments that end; only
the gap at the end of the text may be followed by a comment that does not.
-/

namespace ShaderPreview

namespace Shader

open Text

/-! ## Gaps -/

/-- The text is made of ASCII white space, line comments and block comments, all of which end. -/
inductive IsGap : List Char → Prop where
  | nil : IsGap []
  | blank {c : Char} {g : List Char} (hc : isAsciiBlank c) (hg : IsGap g) : IsGap (c :: g)
  | lineComment {t g : List Char} (ht : '\n' ∉ t) (hg : IsGap g) :
    IsGap ("//".toList ++ t ++ ['\n'] ++ g)
  | blockComment {t g : List Char} (ht : ¬ "*/".toList <:+: t) (hg : IsGap g) :
    IsGap ("/*".toList ++ t ++ "*/".toList ++ g)

/-- The text is a gap, perhaps with a comment behind it that does not end. -/
inductive IsLastGap : List Char → Prop where
  | gap {g : List Char} (hg : IsGap g) : IsLastGap g
  | lineComment {g t : List Char} (hg : IsGap g) (ht : '\n' ∉ t) :
    IsLastGap (g ++ "//".toList ++ t)
  | blockComment {g t : List Char} (hg : IsGap g) (ht : ¬ "*/".toList <:+: t) :
    IsLastGap (g ++ "/*".toList ++ t)

theorem IsGap.append {g g' : List Char} (hg : IsGap g) (hg' : IsGap g') : IsGap (g ++ g') := by
  induction hg with
  | nil => exact hg'
  | blank hc _ ih => exact .blank hc ih
  | lineComment ht _ ih =>
    rw [List.append_assoc]
    exact .lineComment ht ih
  | blockComment ht _ ih =>
    rw [List.append_assoc]
    exact .blockComment ht ih

theorem IsGap.append_last {g g' : List Char} (hg : IsGap g) (hg' : IsLastGap g') :
    IsLastGap (g ++ g') := by
  cases hg' with
  | gap hg' => exact .gap (hg.append hg')
  | lineComment hg' ht =>
    rw [← List.append_assoc, ← List.append_assoc]
    exact .lineComment (hg.append hg') ht
  | blockComment hg' ht =>
    rw [← List.append_assoc, ← List.append_assoc]
    exact .blockComment (hg.append hg') ht

/-! ## Comments of a text -/

theorem cutLine_spec (s : List Char) :
    (∃ t, (cutLine s).1 = t ++ ['\n'] ∧ '\n' ∉ t) ∨ (cutLine s).2 = [] ∧ '\n' ∉ (cutLine s).1 := by
  induction s with
  | nil => exact .inr ⟨rfl, List.not_mem_nil⟩
  | cons c s ih =>
    by_cases hc : c = '\n'
    · exact .inl ⟨[], by simp [cutLine, hc], List.not_mem_nil⟩
    · have hcons {t : List Char} (ht : '\n' ∉ t) : '\n' ∉ c :: t := by simp [ht, Ne.symm hc]
      rw [cutLine, if_neg hc]
      refine ih.imp ?_ ?_
      · rintro ⟨t, ht, hnot⟩
        exact ⟨c :: t, congrArg (c :: ·) ht, hcons hnot⟩
      · rintro ⟨hnil, hnot⟩
        exact ⟨hnil, hcons hnot⟩

theorem cutComment_spec (s : List Char) :
    if (cutComment s).2.1 then
      ∃ t, (cutComment s).1 = t ++ "*/".toList ∧ ¬ "*/".toList <:+: t
    else (cutComment s).2.2 = [] ∧ ¬ "*/".toList <:+: (cutComment s).1 := by
  fun_induction cutComment s with
  | case1 => exact ⟨rfl, by simp⟩
  | case2 s => exact ⟨[], rfl, by simp⟩
  | case3 c s hnot l closed r hcut ih =>
    have hs := cutComment_append s
    rw [hcut] at hs ih
    have hcons {t : List Char} (ht : ¬ "*/".toList <:+: t) (hstarts : t <+: l) :
        ¬ "*/".toList <:+: c :: t := by
      rw [List.infix_cons_iff]
      rintro (⟨u, hu⟩ | hinfix)
      · obtain ⟨hc, rfl⟩ := List.cons.inj hu
        obtain ⟨v, rfl⟩ := hstarts
        exact hnot (u ++ v ++ r) hc.symm hs.symm
      · exact ht hinfix
    rcases closed with _ | _
    · exact ⟨ih.1, hcons ih.2 (List.prefix_refl l)⟩
    · obtain ⟨t, rfl, ht⟩ := ih
      exact ⟨c :: t, rfl, hcons ht (List.prefix_append t _)⟩

/-- A piece that is no token is a gap, or the gap at the end of the text. -/
theorem isGap_of_next? {s r : List Char} {p : Piece} (h : Piece.next? s = some (p, r))
    (hk : ∀ k, p.kind ≠ .token k) : IsGap p.text ∨ r = [] ∧ IsLastGap p.text := by
  revert h hk
  fun_cases Piece.next? s <;> simp only [reduceCtorEq, Option.some.injEq, Prod.mk.injEq,
    false_imp_iff, and_imp] <;> rintro rfl rfl hk
  · rename_i s l r hcut
    have hspec := cutLine_spec s
    rw [hcut] at hspec
    rcases hspec with ⟨t, rfl, ht⟩ | ⟨hnil, ht⟩
    · refine .inl ?_
      have hgap := IsGap.lineComment ht .nil
      simpa using hgap
    · exact .inr ⟨hnil, .lineComment .nil ht⟩
  · rename_i s l closed r hcut
    have hspec := cutComment_spec s
    rw [hcut] at hspec
    rcases closed with _ | _
    · exact .inr ⟨hspec.1, .blockComment .nil hspec.2⟩
    · obtain ⟨t, rfl, ht⟩ := hspec
      refine .inl ?_
      have hgap := IsGap.blockComment ht .nil
      simpa using hgap
  · rename_i c s hline hblock hblank
    exact .inl (.blank hblank .nil)
  all_goals exact absurd rfl (hk _)

/-! ## Tilings -/

/-- From byte `n` on, the text is the tokens, in order, and gaps. -/
inductive Tiles : Nat → List Char → List Token → Prop where
  | last {n : Nat} {g : List Char} (hg : IsLastGap g) : Tiles n g []
  | token {n : Nat} {g s : List Char} {t : Token} {ts : List Token} (hg : IsGap g)
    (hstart : t.start = n + byteLength g) (hne : t.text ≠ []) (rest : Tiles t.stop s ts) :
    Tiles n (g ++ t.text ++ s) (t :: ts)

/-- A gap may stand in front. -/
theorem Tiles.gap_append {n : Nat} {g s : List Char} {ts : List Token} (hg : IsGap g)
    (h : Tiles (n + byteLength g) s ts) : Tiles n (g ++ s) ts := by
  cases h with
  | last hlast => exact .last (hg.append_last hlast)
  | token hg' hstart hne rest =>
    rw [← List.append_assoc, ← List.append_assoc]
    refine .token (hg.append hg') ?_ hne rest
    rw [hstart, byteLength_append, Nat.add_assoc]

theorem tiles_pieces (n : Nat) (s : List Char) : Tiles n s (tokensFrom n (pieces s)) := by
  fun_induction pieces s generalizing n with
  | case1 s h =>
    rw [Piece.eq_nil_of_next? h]
    exact .last (.gap .nil)
  | case2 s p r h ih =>
    rw [← Piece.next?_append h]
    -- a blank or a comment is joined to the gap behind it
    have gap (hk : ∀ k, p.kind ≠ .token k) :
        Tiles n (p.text ++ r) (tokensFrom (n + byteLength p.text) (pieces r)) := by
      rcases isGap_of_next? h hk with hgap | ⟨rfl, hgap⟩
      · exact .gap_append hgap (ih _)
      · rw [pieces_nil, List.append_nil]
        exact .last hgap
    rw [tokensFrom]
    rcases hk : p.kind with _ | _ | closed | k
    · exact gap (by simp [hk])
    · exact gap (by simp [hk])
    · exact gap (by simp [hk])
    · exact .token (t := ⟨k, p.text, n⟩) .nil rfl (Piece.next?_text_ne_nil h) (ih _)

section Tiles

variable {n : Nat} {s : List Char} {ts : List Token}

theorem Tiles.le_start (h : Tiles n s ts) : ∀ t ∈ ts, n ≤ t.start := by
  induction h with
  | last => exact fun t ht => absurd ht List.not_mem_nil
  | @token n g s t ts hg hstart hne rest ih =>
    refine List.forall_mem_cons.2 ⟨by omega, fun u hu => ?_⟩
    have hle := ih u hu
    rw [Token.stop] at hle
    omega

/-- Each token is the text between its positions, and is not empty. -/
theorem Tiles.slice?_eq (h : Tiles n s ts) {front : List Char} (hn : byteLength front = n) :
    ∀ t ∈ ts, t.text ≠ [] ∧ slice? t.start t.stop (front ++ s) = some t.text := by
  induction h generalizing front with
  | last => exact fun t ht => absurd ht List.not_mem_nil
  | @token n g s t ts hg hstart hne rest ih =>
    have hfront : byteLength (front ++ g) = t.start := by rw [byteLength_append, hn, hstart]
    have hstop : byteLength (front ++ g ++ t.text) = t.stop := by
      rw [byteLength_append, hfront, Token.stop]
    have hcut : front ++ (g ++ t.text ++ s) = front ++ g ++ t.text ++ s := by simp
    rw [hcut]
    refine List.forall_mem_cons.2 ⟨⟨hne, ?_⟩, ih hstop⟩
    exact slice?_eq_some_iff.2 ⟨front ++ g, s, rfl, hfront, hstop⟩

/-- Each token starts behind the end of those in front of it. -/
theorem Tiles.pairwise (h : Tiles n s ts) :
    ts.Pairwise fun t u => t.start < u.start ∧ t.stop ≤ u.start := by
  induction h with
  | last => exact .nil
  | @token n g s t ts hg hstart hne rest ih =>
    refine .cons (fun u hu => ?_) ih
    have hle := rest.le_start u hu
    have hlt : t.start < t.stop := by
      obtain ⟨c, w, htext⟩ := List.exists_cons_of_ne_nil hne
      have hpos := Char.utf8Size_pos c
      rw [Token.stop, htext, byteLength_cons]
      omega
    exact ⟨hlt.trans_le hle, hle⟩

end Tiles

/-! ## Scanning is a tiling -/

/-- The scanner takes these tokens and no others, without a move that fails, and they tile the
text. -/
structure ScansSafely (s : List Char) (ts : List Token) : Prop where
  scans_iff : ∀ us, Scans s 0 us ↔ us = ts
  tiles : Tiles 0 s ts
  slice?_eq : ∀ t ∈ ts, t.text ≠ [] ∧ slice? t.start t.stop s = some t.text
  ordered : ts.Pairwise fun t u => t.start < u.start ∧ t.stop ≤ u.start

/-- Every text is scanned to its end, and its tokens tile it. -/
theorem scansSafely_tokens (s : List Char) : ScansSafely s (tokens s) := by
  have htiles : Tiles 0 s (tokens s) := tiles_pieces 0 s
  exact
    { scans_iff := fun us =>
        ⟨fun h => h.unique (scans_tokens s), fun h => h ▸ scans_tokens s⟩
      tiles := htiles
      slice?_eq := fun t ht => htiles.slice?_eq byteLength_nil t ht
      ordered := htiles.pairwise }

/-- A backslash takes the scanner into the middle of a character, and the next step out of it. -/
example : scanMove? "'\\é' x".toList 0 = some (.token ⟨.quoted, "'\\é'".toList, 0⟩) := by
  decide +kernel

end Shader

end ShaderPreview
