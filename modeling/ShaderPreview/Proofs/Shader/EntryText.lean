import ShaderPreview.Proofs.Shader.Locate

/-!
# The text of the entry point

An assembly cuts the code that stays of a source into three parts.  The part in the middle, the
entry point, starts with the word `void` and ends with a closing brace; so in the assembled program
it stands verbatim behind `Assembly.programBefore`.
-/

namespace ShaderPreview

namespace Shader

open Text

theorem exists_of_firstDefinition? {ts : List Token} {t : Token}
    {d : Signature × Token × List Token} (h : firstDefinition? ts = some (t, d)) :
    ∃ xs ys, ts = xs ++ t :: ys ∧ definition? (t :: ys) = some d := by
  induction ts with
  | nil => cases h
  | cons u ts ih =>
    unfold firstDefinition? at h
    split at h
    · rename_i d' hd
      cases h
      exact ⟨[], ts, rfl, hd⟩
    · obtain ⟨xs, ys, rfl, hd⟩ := ih h
      exact ⟨u :: xs, ys, rfl, hd⟩

theorem isWord_void_of_definition? {t : Token} {ts : List Token}
    {d : Signature × Token × List Token} (h : definition? (t :: ts) = some d) :
    t.isWord "void".toList := by
  unfold definition? at h
  split at h
  · cases h
  · rename_i signature after hread
    simp only [Signature.read?, Option.bind_eq_bind, Option.bind_eq_some_iff] at hread
    obtain ⟨us, hword, -⟩ := hread
    simp only [word?, Option.ite_none_right_eq_some] at hword
    exact hword.1

/-- An assembly is cut out of the code that stays at the first definition, whose body closes. -/
theorem exists_definition_of_ofSource {source : List Char} {a : Assembly}
    (h : Assembly.ofSource source = .ok a) :
    ∃ xs t ys signature b body close rest, keptTokens source = xs ++ t :: ys ∧
      definition? (t :: ys) = some (signature, b, body) ∧
      closeBraces 1 body = .ok (close, rest) ∧
      EntryPoint.locate (keptTokens source) =
        .ok ⟨signature, t.start, b.start, close.stop, rest⟩ ∧
      a = Assembly.ofEntryPoint (movedDefinitions (fates source)) (keptText (fates source))
        ⟨signature, t.start, b.start, close.stop, rest⟩ := by
  have hlocate := locate_eq (keptTokens source)
  rw [ofSource_eq] at h
  split at h
  · cases h
  · rename_i t signature b body hfirst
    simp only [EntryPoint.ofDefinition] at h
    rcases hclose : closeBraces 1 body with depth | ⟨close, rest⟩ <;> rw [hclose] at h <;> cases h
    obtain ⟨xs, ys, hts, hd⟩ := exists_of_firstDefinition? hfirst
    refine ⟨xs, t, ys, signature, b, body, close, rest, hts, hd, hclose, ?_, rfl⟩
    rw [hlocate, hfirst]
    simp only [EntryPoint.ofDefinition, hclose]

/-- An assembly is made from the code that stays, whose pieces are those of its three parts. -/
theorem exists_pieces_of_ofSource {source : List Char} {a : Assembly}
    (h : Assembly.ofSource source = .ok a) :
    (a.definitions = movedDefinitions (fates source) ∧
      a.uniforms = Assembly.usedUniforms a.definitions (keptText (fates source)) ∧
      a.program = Program.assemble a.definitions a.body a.entry) ∧
      ∃ (before : List Piece) (p : Piece) (mid : List Piece) (q : Piece) (after : List Piece),
        pieces (keptText (fates source)) = before ++ (p :: mid ++ [q]) ++ after ∧
        p.text = "void".toList ∧ q.text = ['}'] ∧
        a.bodyBefore = before.flatMap Piece.text ∧
        a.entry = (p :: mid ++ [q]).flatMap Piece.text ∧
        a.bodyAfter = after.flatMap Piece.text := by
  obtain ⟨xs, t, ys, signature, b, body, close, rest, hts, hd, hclose, -, rfl⟩ :=
    exists_definition_of_ofSource h
  obtain ⟨us, rfl⟩ := exists_append_of_definition? hd
  obtain ⟨ts, rfl, hbrace, -, -⟩ := closeBraces_ok (Nat.le_refl 1) hclose
  have hsplit : keptTokens source = xs ++ t :: ((us ++ b :: ts) ++ close :: rest) := by
    rw [hts]
    simp
  obtain ⟨before, p, mid, q, after, hp, hfirst, hlast, hstart, hstop⟩ :=
    exists_pieces_of_tokens hsplit
  have hvoid : t.text = "void".toList := by
    have hword := isWord_void_of_definition? hd
    simp only [Token.isWord, Bool.and_eq_true, beq_iff_eq] at hword
    exact hword.2
  have hmark : close.text = ['}'] := by
    refine text_of_isMark (s := keptText (fates source)) ?_ hbrace
    change close ∈ keptTokens source
    rw [hsplit]
    simp
  have hs : keptText (fates source) = before.flatMap Piece.text ++
      (p :: mid ++ [q]).flatMap Piece.text ++ after.flatMap Piece.text := by
    rw [← List.flatMap_append, ← List.flatMap_append, ← hp, text_pieces]
  obtain ⟨hbefore, hentry, hafter⟩ := ofEntryPoint_parts (movedDefinitions (fates source))
    ⟨signature, t.start, b.start, close.stop, rest⟩ hs hstart
    (by rw [← List.flatMap_append, hstop])
  exact ⟨⟨rfl, rfl, rfl⟩, before, p, mid, q, after, hp, hfirst.trans hvoid, hlast.trans hmark,
    hbefore, hentry, hafter⟩

/-- The parts of an assembly. -/
theorem parts_of_ofSource {source : List Char} {a : Assembly}
    (h : Assembly.ofSource source = .ok a) :
    a.definitions = movedDefinitions (fates source) ∧
      keptText (fates source) = a.bodyBefore ++ a.entry ++ a.bodyAfter ∧
      a.program = Program.assemble a.definitions a.body a.entry ∧
      ∃ mid, a.entry = "void".toList ++ mid ++ ['}'] := by
  obtain ⟨⟨hdefinitions, -, hprogram⟩, before, p, mid, q, after, hp, hvoid, hmark, hbefore, hentry,
    hafter⟩ := exists_pieces_of_ofSource h
  refine ⟨hdefinitions, ?_, hprogram, mid.flatMap Piece.text, ?_⟩
  · rw [hbefore, hentry, hafter, ← List.flatMap_append, ← List.flatMap_append, ← hp, text_pieces]
  · rw [hentry, ← hvoid, ← hmark]
    simp

/-- The program in front of the entry point. -/
def Assembly.programBefore (a : Assembly) : List Char :=
  Program.header ++ ['\n'] ++ unlines a.definitions ++ Program.block a.body

theorem dropWhile_newline_of_head {c : Char} {s : List Char} (hc : c ≠ '\n') :
    (c :: s).dropWhile (· == '\n') = c :: s :=
  List.dropWhile_cons_of_neg (by simpa using hc)

/-- The entry point stands verbatim in the program. -/
theorem program_eq {source : List Char} {a : Assembly} (h : Assembly.ofSource source = .ok a) :
    a.program = a.programBefore ++ a.entry ++ '\n' :: '\n' :: Program.dispatcher := by
  obtain ⟨-, -, hprogram, mid, hentry⟩ := parts_of_ofSource h
  have htrim : trimNewlines a.entry = a.entry := by
    rw [hentry, trimNewlines]
    have hstart : ("void".toList ++ mid ++ ['}']).dropWhile (· == '\n') =
        "void".toList ++ mid ++ ['}'] := dropWhile_newline_of_head (by decide)
    rw [hstart, List.reverse_append]
    have hend : (['}'].reverse ++ ("void".toList ++ mid).reverse).dropWhile (· == '\n') =
        ['}'].reverse ++ ("void".toList ++ mid).reverse := dropWhile_newline_of_head (by decide)
    rw [hend]
    simp
  have hblock : Program.block a.entry = a.entry ++ ['\n'] := by
    rw [Program.block, htrim, if_neg]
    rw [hentry]
    simp [isAllBlank, show isBlank '}' = false by decide]
  rw [hprogram, Program.assemble, hblock, Assembly.programBefore]
  simp

end Shader

end ShaderPreview
