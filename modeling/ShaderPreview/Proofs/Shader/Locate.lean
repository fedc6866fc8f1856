import ShaderPreview.Proofs.Shader.Braces
import ShaderPreview.Proofs.Shader.Span
import ShaderPreview.Shader.Assembly

/-!
# Locating the entry point

A definition of the entry point is a signature behind which the first terminator is an opening
brace.  `EntryPoint.locate` passes over more than one token at a time; that it passes over no
definition is because a signature holds no terminator, so that all signatures it passes over have
the same terminator behind them.
-/

namespace ShaderPreview

namespace Shader

/-! ## What a signature holds -/

/-- Tokens without a terminator stand between the two lists. -/
def Passes (ts rs : List Token) : Prop :=
  ∃ p : List Token, ts = p ++ rs ∧ ∀ t ∈ p, t.isTerminator = false

namespace Passes

variable {ts rs us : List Token} {t : Token}

theorem refl (ts : List Token) : Passes ts ts := ⟨[], rfl, by simp⟩

theorem trans (h₁ : Passes ts rs) (h₂ : Passes rs us) : Passes ts us := by
  obtain ⟨p, rfl, hp⟩ := h₁
  obtain ⟨q, rfl, hq⟩ := h₂
  refine ⟨p ++ q, (List.append_assoc p q us).symm, fun t ht => ?_⟩
  rcases List.mem_append.1 ht with ht | ht
  · exact hp t ht
  · exact hq t ht

theorem cons (ht : t.isTerminator = false) (h : Passes ts rs) : Passes (t :: ts) rs := by
  obtain ⟨p, rfl, hp⟩ := h
  refine ⟨t :: p, rfl, fun u hu => ?_⟩
  rcases List.mem_cons.1 hu with rfl | hu
  · exact ht
  · exact hp u hu

/-- The first terminator is the same. -/
theorem dropWhile_eq (h : Passes ts rs) :
    ts.dropWhile (!·.isTerminator) = rs.dropWhile (!·.isTerminator) := by
  obtain ⟨p, rfl, hp⟩ := h
  exact List.dropWhile_append_of_pos fun t ht => by simp [hp t ht]

end Passes

theorem isTerminator_of_kind_word {t : Token} (h : t.kind = .word) : t.isTerminator = false := by
  simp [Token.isTerminator, Token.isMark, h]

theorem passes_word? {w : List Char} {ts rs : List Token} (h : word? w ts = some rs) :
    Passes ts rs := by
  rcases ts with _ | ⟨t, ts⟩
  · simp [word?] at h
  · simp only [word?, Token.isWord, Bool.and_eq_true, beq_iff_eq, Option.ite_none_right_eq_some,
      Option.some.injEq] at h
    obtain ⟨⟨hk, -⟩, rfl⟩ := h
    exact (Passes.refl ts).cons (isTerminator_of_kind_word hk)

theorem passes_mark? {c : Char} {ts rs : List Token} (hc : c ≠ '{' ∧ c ≠ ';')
    (h : mark? c ts = some rs) : Passes ts rs := by
  rcases ts with _ | ⟨t, ts⟩
  · simp [mark?] at h
  · simp only [mark?, Option.ite_none_right_eq_some, Option.some.injEq] at h
    obtain ⟨hm, rfl⟩ := h
    refine (Passes.refl ts).cons ?_
    have hopen := not_isMark_of_isMark hc.1 hm
    have hend := not_isMark_of_isMark hc.2 hm
    simp [Token.isTerminator, hopen, hend]

theorem passes_dropWhile_isQualifier (ts : List Token) :
    Passes ts (ts.dropWhile Token.isQualifier) := by
  refine ⟨ts.takeWhile Token.isQualifier, List.takeWhile_append_dropWhile.symm, fun t ht => ?_⟩
  have hq := List.all_eq_true.1 List.all_takeWhile t ht
  simp only [Token.isQualifier, Bool.and_eq_true, beq_iff_eq] at hq
  exact isTerminator_of_kind_word hq.1

theorem passes_parameter? {type name : List Char} {writes : Bool} {ts rs : List Token}
    (h : parameter? type writes ts = some (name, rs)) : Passes ts rs := by
  refine (passes_dropWhile_isQualifier ts).trans ?_
  unfold parameter? at h
  split at h
  · split at h
    · rename_i t n rest heq
      simp only [Option.ite_none_right_eq_some, Option.some.injEq, Prod.mk.injEq, Token.isWord,
        Bool.and_eq_true, beq_iff_eq] at h
      obtain ⟨⟨⟨ht, -⟩, hn, -⟩, -, rfl⟩ := h
      rw [heq]
      exact ((Passes.refl rest).cons (isTerminator_of_kind_word hn)).cons
        (isTerminator_of_kind_word ht)
    · cases h
  · cases h

theorem Signature.passes_read? {ts rs : List Token} {s : Signature}
    (h : Signature.read? ts = some (s, rs)) : Passes ts rs := by
  simp only [Signature.read?, Option.bind_eq_bind, Option.bind_eq_some_iff, Option.pure_def,
    Option.some.injEq, Prod.mk.injEq] at h
  obtain ⟨t₁, h₁, t₂, h₂, t₃, h₃, ⟨color, t₄⟩, h₄, t₅, h₅, ⟨coord, t₆⟩, h₆, t₇, h₇, -, rfl⟩ := h
  exact (passes_word? h₁).trans <| (passes_word? h₂).trans <| (passes_mark? (by decide) h₃).trans <|
    (passes_parameter? h₄).trans <| (passes_mark? (by decide) h₅).trans <|
      (passes_parameter? h₆).trans (passes_mark? (by decide) h₇)

/-! ## Definitions -/

/-- The definition of the entry point that starts with the tokens: its signature, the brace that
opens its body, and the tokens behind this brace. -/
def definition? (ts : List Token) : Option (Signature × Token × List Token) :=
  match Signature.read? ts with
  | none => none
  | some (signature, after) =>
    match after.dropWhile (!·.isTerminator) with
    | [] => none
    | b :: body => if b.isMark '{' then some (signature, b, body) else none

/-- The first definition, with the token it starts with. -/
def firstDefinition? : List Token → Option (Token × Signature × Token × List Token)
  | [] => none
  | t :: ts =>
    match definition? (t :: ts) with
    | some d => some (t, d)
    | none => firstDefinition? ts

section Definitions

variable {t b : Token} {ts body : List Token} {signature : Signature}

/-- A definition has its brace where the tokens have their first terminator. -/
theorem dropWhile_of_definition? (h : definition? ts = some (signature, b, body)) :
    b.isMark '{' ∧ ts.dropWhile (!·.isTerminator) = b :: body := by
  unfold definition? at h
  split at h
  · cases h
  · rename_i s after hread
    rw [(Signature.passes_read? hread).dropWhile_eq]
    split at h
    · cases h
    · rename_i b' body' hd
      split at h
      · rename_i hb
        cases h
        exact ⟨hb, hd⟩
      · cases h

theorem definition?_eq_none (h : ∀ b body, ts.dropWhile (!·.isTerminator) = b :: body →
    ¬ b.isMark '{') : definition? ts = none := by
  rw [Option.eq_none_iff_forall_ne_some]
  rintro ⟨signature, b, body⟩ hs
  obtain ⟨hb, hd⟩ := dropWhile_of_definition? hs
  exact h b body hd hb

theorem firstDefinition?_cons_of_eq_none (h : definition? (t :: ts) = none) :
    firstDefinition? (t :: ts) = firstDefinition? ts := by
  rw [firstDefinition?, h]

theorem dropWhile_cons_of_isTerminator (h : t.isTerminator) :
    (t :: ts).dropWhile (!·.isTerminator) = t :: ts :=
  List.dropWhile_cons_of_neg (by simp [h])

theorem dropWhile_cons_of_not_isTerminator (h : ¬ t.isTerminator) :
    (t :: ts).dropWhile (!·.isTerminator) = ts.dropWhile (!·.isTerminator) :=
  List.dropWhile_cons_of_pos (by simp [h])

/-- Tokens without a terminator define nothing. -/
theorem firstDefinition?_eq_none (h : ts.dropWhile (!·.isTerminator) = []) :
    firstDefinition? ts = none := by
  induction ts with
  | nil => rfl
  | cons t ts ih =>
    rw [firstDefinition?_cons_of_eq_none (definition?_eq_none (by simp [h]))]
    by_cases ht : t.isTerminator
    · rw [dropWhile_cons_of_isTerminator ht] at h
      cases h
    · rw [dropWhile_cons_of_not_isTerminator ht] at h
      exact ih h

/-- Nothing is defined up to the end of a declaration. -/
theorem firstDefinition?_of_declaration (h : ts.dropWhile (!·.isTerminator) = b :: body)
    (hb : ¬ b.isMark '{') : firstDefinition? ts = firstDefinition? body := by
  induction ts with
  | nil => cases h
  | cons t ts ih =>
    have hnone : definition? (t :: ts) = none := by
      apply definition?_eq_none
      intro b' body' hd
      rw [h] at hd
      rw [← (List.cons.inj hd).1]
      exact hb
    rw [firstDefinition?_cons_of_eq_none hnone]
    by_cases ht : t.isTerminator
    · rw [dropWhile_cons_of_isTerminator ht] at h
      rw [(List.cons.inj h).2]
    · rw [dropWhile_cons_of_not_isTerminator ht] at h
      exact ih h

/-- A signature whose first terminator does not end a declaration starts a definition. -/
theorem firstDefinition?_cons_of_read? {after : List Token}
    (hread : Signature.read? (t :: ts) = some (signature, after))
    (hd : after.dropWhile (!·.isTerminator) = b :: body) (hb : ¬ b.isMark ';') :
    firstDefinition? (t :: ts) = some (t, signature, b, body) := by
  have ht := List.head?_dropWhile_not (!·.isTerminator) after
  rw [hd] at ht
  have hopen : b.isMark '{' := by simpa [Token.isTerminator, hb] using ht
  have hsome : definition? (t :: ts) = some (signature, b, body) := by
    simp only [definition?, hread, hd, hopen, if_true]
  rw [firstDefinition?, hsome]

end Definitions

/-- The entry point that a definition makes, if its body is closed. -/
def EntryPoint.ofDefinition (t : Token) (signature : Signature) (b : Token) (body : List Token) :
    Except SourceError EntryPoint :=
  match closeBraces 1 body with
  | .error depth => .error (.unmatchedBraces depth)
  | .ok (close, rest) => .ok ⟨signature, t.start, b.start, close.stop, rest⟩

/-- The entry point is located at the first definition. -/
theorem locate_eq (ts : List Token) : EntryPoint.locate ts =
    match firstDefinition? ts with
    | none => .error .missingEntryPoint
    | some (t, signature, b, body) => EntryPoint.ofDefinition t signature b body := by
  fun_induction EntryPoint.locate ts with
  | case1 => rfl
  | case2 t ts hread ih =>
    have hnone : definition? (t :: ts) = none := by
      unfold definition?
      rw [hread]
    rw [firstDefinition?_cons_of_eq_none hnone]
    exact ih
  | case3 t ts signature after hread hd =>
    rw [firstDefinition?_eq_none]
    rw [(Signature.passes_read? hread).dropWhile_eq]
    exact hd
  | case4 t ts signature after hread b body hd hb ih =>
    rw [firstDefinition?_of_declaration _ (not_isMark_of_isMark (by decide) hb), ih]
    rw [(Signature.passes_read? hread).dropWhile_eq]
    exact hd
  | case5 t ts signature after hread b body hd hb depth hclose =>
    rw [firstDefinition?_cons_of_read? hread hd hb]
    simp only [EntryPoint.ofDefinition, hclose]
  | case6 t ts signature after hread b body hd hb close rest hclose =>
    rw [firstDefinition?_cons_of_read? hread hd hb]
    simp only [EntryPoint.ofDefinition, hclose]

/-! ## Positions -/

theorem firstDefinition?_eq_none_iff {ts : List Token} :
    firstDefinition? ts = none ↔ ∀ i, definition? (ts.drop i) = none := by
  induction ts with
  | nil => exact ⟨fun _ i => by rw [List.drop_nil]; rfl, fun _ => rfl⟩
  | cons t ts ih =>
    constructor
    · intro h i
      unfold firstDefinition? at h
      split at h
      · cases h
      · rename_i hnone
        rcases i with _ | i
        · exact hnone
        · exact ih.1 h i
    · intro h
      rw [firstDefinition?_cons_of_eq_none (h 0)]
      exact ih.2 fun i => h (i + 1)

theorem firstDefinition?_eq_some {ts : List Token} {i : Nat} {d : Signature × Token × List Token}
    (h : definition? (ts.drop i) = some d) (hfirst : ∀ j < i, definition? (ts.drop j) = none) :
    ∃ t, ts[i]? = some t ∧ firstDefinition? ts = some (t, d) := by
  induction i generalizing ts with
  | zero =>
    rcases ts with _ | ⟨t, ts⟩
    · cases h
    · refine ⟨t, rfl, ?_⟩
      rw [List.drop_zero] at h
      rw [firstDefinition?, h]
  | succ i ih =>
    rcases ts with _ | ⟨t, ts⟩
    · cases h
    · obtain ⟨t', ht, hd⟩ := ih h fun j hj => hfirst (j + 1) (Nat.succ_lt_succ hj)
      refine ⟨t', ht, ?_⟩
      rw [firstDefinition?_cons_of_eq_none (hfirst 0 (Nat.succ_pos i))]
      exact hd

theorem not_isTerminator_of_definition? {t : Token} {ts : List Token}
    {d : Signature × Token × List Token} (h : definition? (t :: ts) = some d) :
    ¬ t.isTerminator := by
  unfold definition? at h
  split at h
  · cases h
  · rename_i signature after hread
    simp only [Signature.read?, Option.bind_eq_bind, Option.bind_eq_some_iff] at hread
    obtain ⟨us, hword, -⟩ := hread
    simp only [word?, Token.isWord, Bool.and_eq_true, beq_iff_eq, Option.ite_none_right_eq_some]
      at hword
    rw [isTerminator_of_kind_word hword.1.1]
    decide

/-- The brace of a definition stands behind its first token. -/
theorem exists_append_of_definition? {t b : Token} {ts body : List Token} {signature : Signature}
    (h : definition? (t :: ts) = some (signature, b, body)) : ∃ us, ts = us ++ b :: body := by
  obtain ⟨-, hd⟩ := dropWhile_of_definition? h
  rw [dropWhile_cons_of_not_isTerminator (not_isTerminator_of_definition? h)] at hd
  obtain ⟨us, hus⟩ := List.dropWhile_suffix (l := ts) (!·.isTerminator)
  rw [hd] at hus
  exact ⟨us, hus.symm⟩

/-! ## The parts of an assembly -/

section Parts

open Text

theorem ofEntryPoint_parts (definitions : List (List Char)) (e : EntryPoint)
    {working before between after : List Char} (hw : working = before ++ between ++ after)
    (hstart : byteLength before = e.start) (hstop : byteLength (before ++ between) = e.stop) :
    let a := Assembly.ofEntryPoint definitions working e
    a.bodyBefore = before ∧ a.entry = between ∧ a.bodyAfter = after := by
  have hlength : e.stop - e.start = byteLength between := by
    rw [byteLength_append] at hstop
    omega
  have hfirst := splitAtByte_byteLength before (between ++ after)
  have hsecond := splitAtByte_byteLength between after
  rw [hstart] at hfirst
  simp only [Assembly.ofEntryPoint, hw, hlength, List.append_assoc]
  rw [hfirst]
  simp only [hsecond, and_self]

/-- The tokens of the code that stays. -/
def keptTokens (source : List Char) : List Token := tokens (keptText (fates source))

theorem ofSource_eq (source : List Char) : Assembly.ofSource source =
    match firstDefinition? (keptTokens source) with
    | none => .error .missingEntryPoint
    | some (t, signature, b, body) =>
      (EntryPoint.ofDefinition t signature b body).map
        (Assembly.ofEntryPoint (movedDefinitions (fates source)) (keptText (fates source))) := by
  unfold Assembly.ofSource Assembly.read keptTokens
  simp only
  rw [locate_eq]
  rcases firstDefinition? (tokens (keptText (fates source))) with _ | ⟨t, signature, b, body⟩
  · rfl
  · simp only
    rcases EntryPoint.ofDefinition t signature b body with e | e <;> rfl

/-- The first token of a definition, and the last one of its body, among all tokens. -/
theorem eq_append_of_definition? {ts body rest p : List Token} {i : Nat} {signature : Signature}
    {first b close : Token} (hi : ts[i]? = some first)
    (hd : definition? (ts.drop i) = some (signature, b, body)) (hp : b :: body = p ++ rest)
    (hlast : p.getLast? = some close) :
    ∃ xs ys, ts = xs ++ first :: (ys ++ close :: rest) := by
  obtain ⟨hlt, rfl⟩ := List.getElem?_eq_some_iff.1 hi
  rw [List.drop_eq_getElem_cons hlt] at hd
  obtain ⟨us, hus⟩ := exists_append_of_definition? hd
  obtain ⟨p', rfl⟩ := List.getLast?_eq_some_iff.1 hlast
  refine ⟨ts.take i, us ++ p', ?_⟩
  rw [hp] at hus
  calc
    ts = ts.take i ++ ts.drop i := (List.take_append_drop i ts).symm
    _ = ts.take i ++ ts[i] :: ts.drop (i + 1) := by rw [List.drop_eq_getElem_cons hlt]
    _ = ts.take i ++ ts[i] :: (us ++ p' ++ close :: rest) := by rw [hus]; simp

/-- A body that is closed gives an assembly whose parts are cut where its definition starts and
where its body ends. -/
theorem ofSource_of_closeBraces_ok {source : List Char} {signature : Signature}
    {first b close : Token} {body rest xs ys : List Token}
    (hts : keptTokens source = xs ++ first :: (ys ++ close :: rest))
    (hfirst : firstDefinition? (keptTokens source) = some (first, signature, b, body))
    (hclose : closeBraces 1 body = .ok (close, rest)) :
    ∃ a, Assembly.ofSource source = .ok a ∧
      keptText (fates source) = a.bodyBefore ++ a.entry ++ a.bodyAfter ∧
      byteLength a.bodyBefore = first.start ∧
      byteLength (a.bodyBefore ++ a.entry) = close.stop := by
  obtain ⟨before, between, after, hs, hstart, hstop⟩ := exists_span_of_tokens hts
  have hok : Assembly.ofSource source = .ok (Assembly.ofEntryPoint
      (movedDefinitions (fates source)) (keptText (fates source))
      ⟨signature, first.start, b.start, close.stop, rest⟩) := by
    rw [ofSource_eq, hfirst]
    simp only [EntryPoint.ofDefinition, hclose]
    rfl
  obtain ⟨hbefore, hentry, hafter⟩ := ofEntryPoint_parts (movedDefinitions (fates source))
    ⟨signature, first.start, b.start, close.stop, rest⟩ hs hstart hstop
  refine ⟨_, hok, ?_⟩
  rw [hbefore, hentry, hafter]
  exact ⟨hs, hstart, hstop⟩

/-- A body that stays open gives the number of braces to close. -/
theorem ofSource_of_closeBraces_error {source : List Char} {signature : Signature}
    {first b : Token} {body : List Token} {depth : Nat}
    (hfirst : firstDefinition? (keptTokens source) = some (first, signature, b, body))
    (hclose : closeBraces 1 body = .error depth) :
    Assembly.ofSource source = .error (.unmatchedBraces depth) := by
  rw [ofSource_eq, hfirst]
  simp only [EntryPoint.ofDefinition, hclose]
  rfl

end Parts

/-! ## The outcome for every source -/

theorem ofSource_eq_missingEntryPoint_iff (source : List Char) :
    Assembly.ofSource source = .error .missingEntryPoint ↔
      ∀ i, definition? ((keptTokens source).drop i) = none := by
  rw [← firstDefinition?_eq_none_iff, ofSource_eq]
  rcases firstDefinition? (keptTokens source) with _ | ⟨t, signature, b, body⟩
  · simp
  · simp only [EntryPoint.ofDefinition, reduceCtorEq, iff_false]
    rcases closeBraces 1 body with depth | ⟨close, rest⟩
    · intro h
      cases h
    · intro h
      cases h

/-- A source without a definition of the entry point has none to assemble.  Any other is settled by
its first definition: if the braces of its body close, the assembly is cut at the start of the
definition and at the end of the shortest run of tokens that balances the brace of the body; if not,
the braces that stay open are counted.  The count of open braces never has to go below zero. -/
theorem ofSource_of_definition (source : List Char) :
    (Assembly.ofSource source = .error .missingEntryPoint ↔
      ∀ i, definition? ((keptTokens source).drop i) = none) ∧
    ∀ i signature b body, definition? ((keptTokens source).drop i) = some (signature, b, body) →
      (∀ j < i, definition? ((keptTokens source).drop j) = none) →
      closeBraces? 0 (b :: body) = some (closeBraces 1 body) ∧
      ((∃ a, Assembly.ofSource source = .ok a) ↔ ∃ p, p <+: b :: body ∧ p ≠ [] ∧ Balanced p) ∧
      (∀ p, IsBody p (b :: body) →
        (∀ q, q <+: p → q ≠ [] → q ≠ p → closings q < openings q) ∧
        ∃ a first last, Assembly.ofSource source = .ok a ∧ (keptTokens source)[i]? = some first ∧
          p.getLast? = some last ∧
          keptText (fates source) = a.bodyBefore ++ a.entry ++ a.bodyAfter ∧
          Text.byteLength a.bodyBefore = first.start ∧
          Text.byteLength (a.bodyBefore ++ a.entry) = last.stop) ∧
      ((∀ p, p <+: b :: body → p ≠ [] → ¬ Balanced p) →
        closings (b :: body) < openings (b :: body) ∧
        Assembly.ofSource source =
          .error (.unmatchedBraces (openings (b :: body) - closings (b :: body)))) := by
  refine ⟨ofSource_eq_missingEntryPoint_iff source, fun i signature b body hd hbefore => ?_⟩
  have hb := (dropWhile_of_definition? hd).1
  have hcount : closeBraces? 0 (b :: body) = some (closeBraces 1 body) := by
    rw [closeBraces?, if_pos hb]
    exact closeBraces?_eq_some body (Nat.le_refl 1)
  obtain ⟨first, hi, hfirst⟩ := firstDefinition?_eq_some hd hbefore
  refine ⟨hcount, ?_⟩
  rcases hclose : closeBraces 1 body with depth | ⟨close, rest⟩
  · -- the braces stay open
    obtain ⟨hdepth, hopen⟩ := lt_of_closeBraces_error hb hclose
    have hnot (p : List Token) (hp : p <+: b :: body) (hne : p ≠ []) : ¬ Balanced p :=
      fun hbalanced => Nat.ne_of_lt (hopen p hp hne) hbalanced
    have herror := ofSource_of_closeBraces_error hfirst hclose
    refine ⟨⟨?_, ?_⟩, ?_, ?_⟩
    · rintro ⟨a, ha⟩
      rw [herror] at ha
      cases ha
    · rintro ⟨p, hp, hne, hbalanced⟩
      exact absurd hbalanced (hnot p hp hne)
    · intro p hp
      exact absurd hp.balanced (hnot p hp.isPrefix hp.ne_nil)
    · intro _
      refine ⟨hopen _ List.prefix_rfl (List.cons_ne_nil b body), ?_⟩
      rw [herror, ← hdepth, Nat.add_sub_cancel]
  · -- the braces close
    obtain ⟨p, hp, hlast, hbody, hinside⟩ := isBody_of_closeBraces_ok hb hclose
    obtain ⟨xs, ys, hts⟩ := eq_append_of_definition? hi hd hp hlast
    obtain ⟨a, ha, hparts⟩ := ofSource_of_closeBraces_ok hts hfirst hclose
    refine ⟨⟨fun _ => ⟨p, hbody.isPrefix, hbody.ne_nil, hbody.balanced⟩, fun _ => ⟨a, ha⟩⟩, ?_, ?_⟩
    · intro p' hp'
      obtain rfl := hp'.unique hbody
      exact ⟨hinside, a, first, close, ha, hi, hlast, hparts⟩
    · intro hnot
      exact absurd hbody.balanced (hnot p hbody.isPrefix hbody.ne_nil)

/-- A source that declares the entry point before it defines it. -/
def declaredSource : List Char :=
  ("void mainImage(out vec4 c, in vec2 p);\n" ++
    "void mainImage(out vec4 c, in vec2 p) \x7b if (p.x > 0.) \x7b \x7d \x7d").toList

theorem ofSource_of_definition_declaredSource :
    ∃ a, Assembly.ofSource declaredSource = .ok a := by
  obtain ⟨hsome, hbefore⟩ : ((definition? ((keptTokens declaredSource).drop 12)).map fun d =>
        (closings (d.2.1 :: d.2.2), openings (d.2.1 :: d.2.2))) = some (2, 2) ∧
      ∀ j < 12, definition? ((keptTokens declaredSource).drop j) = none := by
    unfold declaredSource
    rw [String.toList_append]
    repeat rw [String.toList_ofList]
    decide +kernel
  obtain ⟨⟨signature, b, body⟩, hd, hcounts⟩ := Option.map_eq_some_iff.1 hsome
  obtain ⟨hclosings, hopenings⟩ := Prod.mk.inj hcounts
  obtain ⟨-, hok, -⟩ := (ofSource_of_definition declaredSource).2 12 signature b body hd hbefore
  exact hok.2 ⟨b :: body, List.prefix_rfl, List.cons_ne_nil b body, hclosings.trans hopenings.symm⟩

end Shader

end ShaderPreview
