import ShaderPreview.Proofs.Shader.Seam
import ShaderPreview.Proofs.Text.Literal

/-!
# The uniforms that a program reads

The uniforms of an assembly are looked for in one text, its definitions and the code that stays, one
behind the other.  Where each definition ends by itself, this text names what its parts name
(`contains_uniforms_iff`).
-/

namespace ShaderPreview

namespace Shader

open Text

theorem Uniform.ofName?_eq_some_iff {s : List Char} {u : Uniform} :
    Uniform.ofName? s = some u ↔ s = u.name.toList := by
  constructor
  · intro h
    have hname := List.find?_some h
    exact (of_decide_eq_true hname).symm
  · rintro rfl
    cases u <;> rfl

/-- A text names a uniform if the name is one of its tokens. -/
def Names (s : List Char) (u : Uniform) : Prop := ∃ t ∈ tokens s, t.isWord u.name.toList

theorem names_iff {s : List Char} {u : Uniform} :
    Names s u ↔ (TokenKind.word, u.name.toList) ∈ contents (pieces s) := by
  rw [← map_content_tokensFrom 0, List.mem_map, Names, tokens]
  simp only [Token.isWord, Bool.and_eq_true, beq_iff_eq, Token.content, Prod.mk.injEq]

theorem contains_ofSource_iff {s : List Char} {u : Uniform} :
    (UniformSet.ofSource s).contains u ↔ Names s u := by
  simp only [UniformSet.ofSource, UniformSet.ofList, List.contains_iff_mem, List.mem_filterMap,
    Option.ite_none_right_eq_some, Uniform.ofName?_eq_some_iff, Names, Token.isWord,
    Bool.and_eq_true, beq_iff_eq]

/-! ## The text that is searched -/

/-- Definitions that end by themselves, each on a line of its own, and what follows them, name what
they name one by one. -/
theorem names_join_append_iff {ds : List (List Char)} (s : List Char) {u : Uniform}
    (hds : ∀ d ∈ ds, IsClosed d) :
    Names (join ['\n'] ds ++ ['\n'] ++ s) u ↔ (∃ d ∈ ds, Names d u) ∨ Names s u := by
  have behind {d : List Char} (t : List Char) (hd : IsClosed d) :
      Names (d ++ '\n' :: t) u ↔ Names d u ∨ Names t u := by
    rw [names_iff, contents_append_newline t hd, List.mem_append, ← names_iff, ← names_iff]
  have hnil : IsClosed [] := by
    simp [IsClosed, pieces_nil]
  have hnone : ¬ Names [] u := by
    simp [names_iff, pieces_nil, contents]
  induction ds with
  | nil => simpa [join, hnone] using behind s hnil
  | cons d ds ih =>
    obtain ⟨hd, hds⟩ := List.forall_mem_cons.1 hds
    rcases ds with _ | ⟨d', ds⟩
    · simpa [join] using behind s hd
    · have hcut : join ['\n'] (d :: d' :: ds) ++ ['\n'] ++ s =
          d ++ '\n' :: (join ['\n'] (d' :: ds) ++ ['\n'] ++ s) := by
        simp [join]
      rw [hcut]
      refine ((behind _ hd).trans (or_congr_right (ih hds))).trans ?_
      rw [← or_assoc]
      simp

/-- The code that stays names what its parts name. -/
theorem names_keptText_iff {source : List Char} {a : Assembly} {u : Uniform}
    (h : Assembly.ofSource source = .ok a) :
    Names (keptText (fates source)) u ↔
      Names a.bodyBefore u ∨ Names a.entry u ∨ Names a.bodyAfter u := by
  simp only [names_iff, pieces_keptText h, contents, List.filterMap_append, List.mem_append,
    or_assoc]

/-- Where each definition ends by itself, the uniforms of a shader are the size and those that one
of its parts names, each part read on its own. -/
theorem contains_uniforms_iff {source : List Char} {a : Assembly}
    (h : Assembly.ofSource source = .ok a) (hclosed : ∀ d ∈ a.definitions, IsClosed d)
    (u : Uniform) :
    a.uniforms.contains u ↔ u = .resolution ∨
      ∃ part ∈ a.definitions ++ [a.bodyBefore, a.entry, a.bodyAfter], Names part u := by
  obtain ⟨⟨-, huniforms, -⟩, -⟩ := exists_pieces_of_ofSource h
  rw [huniforms, Assembly.usedUniforms, UniformSet.contains_insert, Bool.or_eq_true,
    decide_eq_true_eq, contains_ofSource_iff, names_join_append_iff _ hclosed, names_keptText_iff h]
  simp [or_and_right, exists_or]

/-- A shader whose definition ends in a comment and names a uniform. -/
def animatedSource : List Char :=
  unlines (["#define T iTime // seconds", "void mainImage(out vec4 c,",
    "in vec2 p) \x7b c = vec4(T); \x7d"].map String.toList)

theorem contains_uniforms_iff_animatedSource :
    ∃ a, Assembly.ofSource animatedSource = .ok a ∧ (∀ d ∈ a.definitions, IsClosed d) ∧
      ∀ u, a.uniforms.contains u ↔ u = .resolution ∨
        ∃ part ∈ a.definitions ++ [a.bodyBefore, a.entry, a.bodyAfter], Names part u := by
  have hok : (Assembly.ofSource animatedSource).toOption.map Assembly.definitions =
      some ["#define T iTime // seconds".toList] := by
    unfold animatedSource
    repeat rw [map_toList_cons]
    decide +kernel
  have hclosed : IsClosed "#define T iTime // seconds".toList := by
    unfold IsClosed
    decide +kernel
  obtain ⟨a, h, hdefinitions⟩ := exists_of_map_toOption hok
  have hds : ∀ d ∈ a.definitions, IsClosed d := by
    rw [hdefinitions]
    simpa using hclosed
  exact ⟨a, h, hds, contains_uniforms_iff h hds⟩

/-- A shader with a definition that leaves a quote open. -/
def quotedSource : List Char :=
  unlines (["#define Q '", "void mainImage(out vec4 c,",
    "in vec2 p) \x7b c = vec4(iTime); \x7d"].map String.toList)

/-- The open quote hides the time from the search, though the entry point reads it. -/
theorem not_contains_uniforms_quotedSource :
    ∃ a, Assembly.ofSource quotedSource = .ok a ∧ a.uniforms.contains .time = false ∧
      Names a.entry .time := by
  have hread : (Assembly.ofSource quotedSource).toOption.map (fun a =>
      (a.uniforms.contains .time, (tokens a.entry).any (·.isWord Uniform.time.name.toList))) =
        some (false, true) := by
    unfold quotedSource
    repeat rw [map_toList_cons]
    decide +kernel
  obtain ⟨a, h, hfound⟩ := exists_of_map_toOption hread
  obtain ⟨hhidden, hnamed⟩ := Prod.mk.inj hfound
  exact ⟨a, h, hhidden, List.any_eq_true.1 hnamed⟩

end Shader

end ShaderPreview
