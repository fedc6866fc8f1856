import ShaderPreview.Shader.EntryPoint

/-!
# Braces

`closeBraces` counts how many braces are open.  Its count is the number of opening braces less the
number of closing ones among the tokens read so far, it never falls below one before the search is
over, and the search ends behind the shortest run of tokens that has as many of one as of the other.
-/

namespace ShaderPreview

namespace Shader

/-- The number of opening braces. -/
def openings (ts : List Token) : Nat := ts.countP (·.isMark '{')

/-- The number of closing braces. -/
def closings (ts : List Token) : Nat := ts.countP (·.isMark '}')

/-- As many braces close as open. -/
def Balanced (ts : List Token) : Prop := closings ts = openings ts

/-- The search for the closing brace with a subtraction that has no answer below zero. -/
def closeBraces? (depth : Nat) : List Token → Option (Except Nat (Token × List Token))
  | [] => some (.error depth)
  | t :: ts =>
    if t.isMark '{' then closeBraces? (depth + 1) ts
    else if t.isMark '}' then
      if depth = 0 then none
      else if depth - 1 = 0 then some (.ok (t, ts))
      else closeBraces? (depth - 1) ts
    else closeBraces? depth ts

theorem closeBraces?_eq_some (ts : List Token) {depth : Nat} (hd : 1 ≤ depth) :
    closeBraces? depth ts = some (closeBraces depth ts) := by
  fun_induction closeBraces depth ts with
  | case1 depth => rfl
  | case2 depth t ts ho ih =>
    rw [closeBraces?, if_pos ho]
    exact ih (by omega)
  | case3 t ts ho hc =>
    rw [closeBraces?, if_neg ho, if_pos hc]
    rfl
  | case4 depth t ts ho hc hne ih =>
    rw [closeBraces?, if_neg ho, if_pos hc, if_neg (by omega), if_neg (by omega)]
    exact ih (by omega)
  | case5 depth t ts ho hc ih =>
    rw [closeBraces?, if_neg ho, if_neg hc]
    exact ih hd

/-! ## Counts -/

section Counts

variable {t : Token} (ts : List Token)

theorem not_isMark_of_isMark {c d : Char} (hne : c ≠ d) (h : t.isMark c) : ¬ t.isMark d := by
  simp only [Token.isMark, beq_iff_eq] at h ⊢
  rw [h]
  simpa using hne

theorem openings_cons_of_open (h : t.isMark '{') : openings (t :: ts) = openings ts + 1 :=
  List.countP_cons_of_pos h

theorem openings_cons_of_not_open (h : ¬ t.isMark '{') : openings (t :: ts) = openings ts :=
  List.countP_cons_of_neg h

theorem openings_cons_of_close (h : t.isMark '}') : openings (t :: ts) = openings ts :=
  openings_cons_of_not_open ts (not_isMark_of_isMark (by decide) h)

theorem closings_cons_of_close (h : t.isMark '}') : closings (t :: ts) = closings ts + 1 :=
  List.countP_cons_of_pos h

theorem closings_cons_of_not_close (h : ¬ t.isMark '}') : closings (t :: ts) = closings ts :=
  List.countP_cons_of_neg h

theorem closings_cons_of_open (h : t.isMark '{') : closings (t :: ts) = closings ts :=
  closings_cons_of_not_close ts (not_isMark_of_isMark (by decide) h)

theorem openings_append (ts' : List Token) :
    openings (ts ++ ts') = openings ts + openings ts' := List.countP_append

theorem closings_append (ts' : List Token) :
    closings (ts ++ ts') = closings ts + closings ts' := List.countP_append

end Counts

/-- Braces stay open throughout the tokens, if `depth` are open before. -/
def StaysOpen (depth : Nat) (ts : List Token) : Prop :=
  ∀ q, q <+: ts → closings q < depth + openings q

namespace StaysOpen

variable {depth : Nat} {t : Token} {ts : List Token}

theorem nil (hd : 1 ≤ depth) : StaysOpen depth [] := by
  intro q hq
  rw [List.prefix_nil.1 hq]
  exact hd

theorem cons_open (ho : t.isMark '{') (hd : 1 ≤ depth) (h : StaysOpen (depth + 1) ts) :
    StaysOpen depth (t :: ts) := by
  rintro (_ | ⟨u, q⟩) hq
  · exact nil hd _ List.prefix_rfl
  · obtain ⟨rfl, hq'⟩ := List.cons_prefix_cons.1 hq
    have hlt := h q hq'
    rw [openings_cons_of_open q ho, closings_cons_of_open q ho]
    omega

theorem cons_close (hc : t.isMark '}') (hd : 1 ≤ depth) (h : StaysOpen (depth - 1) ts) :
    StaysOpen depth (t :: ts) := by
  rintro (_ | ⟨u, q⟩) hq
  · exact nil hd _ List.prefix_rfl
  · obtain ⟨rfl, hq'⟩ := List.cons_prefix_cons.1 hq
    have hlt := h q hq'
    rw [closings_cons_of_close q hc, openings_cons_of_close q hc]
    omega

theorem cons_other (ho : ¬ t.isMark '{') (hc : ¬ t.isMark '}') (hd : 1 ≤ depth)
    (h : StaysOpen depth ts) : StaysOpen depth (t :: ts) := by
  rintro (_ | ⟨u, q⟩) hq
  · exact nil hd _ List.prefix_rfl
  · obtain ⟨rfl, hq'⟩ := List.cons_prefix_cons.1 hq
    rw [openings_cons_of_not_open q ho, closings_cons_of_not_close q hc]
    exact h q hq'

end StaysOpen

/-! ## The search -/

/-- A search that succeeds ends at the first brace that leaves none open. -/
theorem closeBraces_ok {depth : Nat} {ts rest : List Token} {close : Token} (hd : 1 ≤ depth)
    (h : closeBraces depth ts = .ok (close, rest)) :
    ∃ p, ts = p ++ close :: rest ∧ close.isMark '}' ∧ closings p + 1 = depth + openings p ∧
      StaysOpen depth p := by
  fun_induction closeBraces depth ts with
  | case1 depth => cases h
  | case2 depth t ts ho ih =>
    obtain ⟨p, rfl, hc, hcount, hopen⟩ := ih (by omega) h
    refine ⟨t :: p, rfl, hc, ?_, hopen.cons_open ho hd⟩
    rw [openings_cons_of_open p ho, closings_cons_of_open p ho]
    omega
  | case3 t ts ho hc =>
    cases h
    exact ⟨[], rfl, hc, rfl, .nil hd⟩
  | case4 depth t ts ho hc hne ih =>
    obtain ⟨p, rfl, hclose, hcount, hopen⟩ := ih (by omega) h
    refine ⟨t :: p, rfl, hclose, ?_, hopen.cons_close hc hd⟩
    rw [openings_cons_of_close p hc, closings_cons_of_close p hc]
    omega
  | case5 depth t ts ho hc ih =>
    obtain ⟨p, rfl, hclose, hcount, hopen⟩ := ih hd h
    refine ⟨t :: p, rfl, hclose, ?_, hopen.cons_other ho hc hd⟩
    rw [openings_cons_of_not_open p ho, closings_cons_of_not_close p hc]
    exact hcount

/-- A search that fails saw braces stay open to the end. -/
theorem closeBraces_error {depth d : Nat} {ts : List Token} (hd : 1 ≤ depth)
    (h : closeBraces depth ts = .error d) :
    d + closings ts = depth + openings ts ∧ StaysOpen depth ts := by
  fun_induction closeBraces depth ts with
  | case1 depth =>
    cases h
    exact ⟨rfl, .nil hd⟩
  | case2 depth t ts ho ih =>
    obtain ⟨hcount, hopen⟩ := ih (by omega) h
    refine ⟨?_, hopen.cons_open ho hd⟩
    rw [openings_cons_of_open ts ho, closings_cons_of_open ts ho]
    omega
  | case3 t ts ho hc => cases h
  | case4 depth t ts ho hc hne ih =>
    obtain ⟨hcount, hopen⟩ := ih (by omega) h
    refine ⟨?_, hopen.cons_close hc hd⟩
    rw [openings_cons_of_close ts hc, closings_cons_of_close ts hc]
    omega
  | case5 depth t ts ho hc ih =>
    obtain ⟨hcount, hopen⟩ := ih hd h
    refine ⟨?_, hopen.cons_other ho hc hd⟩
    rw [openings_cons_of_not_open ts ho, closings_cons_of_not_close ts hc]
    exact hcount

/-! ## The braces of a body -/

/-- The shortest prefix, not empty, in which as many braces close as open. -/
structure IsBody (p braces : List Token) : Prop where
  isPrefix : p <+: braces
  ne_nil : p ≠ []
  balanced : Balanced p
  shortest : ∀ q, q <+: p → q ≠ [] → Balanced q → q = p

section Body

variable {b close : Token} {body rest : List Token}

theorem lt_of_staysOpen (hb : b.isMark '{') (h : StaysOpen 1 body) {q : List Token}
    (hq : q <+: b :: body) (hne : q ≠ []) : closings q < openings q := by
  rcases q with _ | ⟨u, q⟩
  · exact absurd rfl hne
  · obtain ⟨rfl, hq'⟩ := List.cons_prefix_cons.1 hq
    have hlt := h q hq'
    rw [openings_cons_of_open q hb, closings_cons_of_open q hb]
    omega

/-- Where the search ends, there ends the body. -/
theorem isBody_of_closeBraces_ok (hb : b.isMark '{') (h : closeBraces 1 body = .ok (close, rest)) :
    ∃ p, b :: body = p ++ rest ∧ p.getLast? = some close ∧ IsBody p (b :: body) ∧
      ∀ q, q <+: p → q ≠ [] → q ≠ p → closings q < openings q := by
  obtain ⟨p, rfl, hc, hcount, hopen⟩ := closeBraces_ok (Nat.le_refl 1) h
  have hinside (q : List Token) (hq : q <+: b :: p ++ [close]) (hne : q ≠ [])
      (hnot : q ≠ b :: p ++ [close]) : closings q < openings q := by
    rcases List.prefix_concat_iff.1 hq with rfl | hq'
    · exact absurd rfl hnot
    · exact lt_of_staysOpen hb hopen hq' hne
  have hbalanced : Balanced (b :: p ++ [close]) := by
    unfold Balanced
    rw [List.cons_append, closings_cons_of_open _ hb, openings_cons_of_open _ hb, closings_append,
      openings_append, closings_cons_of_close [] hc, openings_cons_of_close [] hc]
    simp only [closings, openings, List.countP_nil] at hcount ⊢
    omega
  refine ⟨b :: p ++ [close], by simp, List.getLast?_concat,
    ⟨⟨rest, by simp⟩, by simp, hbalanced, ?_⟩, hinside⟩
  intro q hq hne hqbalanced
  refine Decidable.byContradiction fun hnot => ?_
  exact Nat.ne_of_lt (hinside q hq hne hnot) hqbalanced

/-- Where the search fails, no prefix is a body. -/
theorem lt_of_closeBraces_error (hb : b.isMark '{') {d : Nat} (h : closeBraces 1 body = .error d) :
    d + closings (b :: body) = openings (b :: body) ∧
      ∀ q, q <+: b :: body → q ≠ [] → closings q < openings q := by
  obtain ⟨hcount, hopen⟩ := closeBraces_error (Nat.le_refl 1) h
  refine ⟨?_, fun q hq hne => lt_of_staysOpen hb hopen hq hne⟩
  rw [closings_cons_of_open body hb, openings_cons_of_open body hb]
  omega

end Body

theorem IsBody.unique {p p' braces : List Token} (h : IsBody p braces) (h' : IsBody p' braces) :
    p = p' := by
  rcases List.prefix_or_prefix_of_prefix h.isPrefix h'.isPrefix with hp | hp
  · exact h'.shortest p hp h.ne_nil h.balanced
  · exact (h.shortest p' hp h'.ne_nil h'.balanced).symm

end Shader

end ShaderPreview
