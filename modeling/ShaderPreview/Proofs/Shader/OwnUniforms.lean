import ShaderPreview.Proofs.Shader.Leftover
import ShaderPreview.Proofs.Shader.NamedUniforms

/-!
# Uniforms of the author's own

What is stripped at the start of a line is a declaration of uniforms through its `;`, one of whose
tokens is the name of a standard uniform (`redeclarationEnd?_eq_some_iff`).  Which names it declares
is not looked at: a declaration is stripped as well if it only reads a standard uniform, or declares
one beside a uniform of the author's own.  Nothing but standard uniforms is stripped exactly if the
line does not start with such a declaration (`stripsOnlyStandard_iff`).
-/

namespace ShaderPreview

namespace Shader

open Text

/-! ## The names that are declared -/

/-- Where a reader of a declaration stands. -/
structure DeclarationPlace where
  /-- The number of parentheses and brackets that are open. -/
  depth : Nat
  /-- A value is read, behind an `=`. -/
  inValue : Bool

namespace DeclarationPlace

/-- The place in front of a declaration. -/
def start : DeclarationPlace := ⟨0, false⟩

/-- A name can be declared here: outside parentheses, brackets and values. -/
def takesName (d : DeclarationPlace) : Bool := d.depth == 0 && !d.inValue

/-- The place behind a token.  A value ends at a comma outside parentheses and brackets. -/
def step (d : DeclarationPlace) : TokenKind → DeclarationPlace
  | .mark '(' => { d with depth := d.depth + 1 }
  | .mark '[' => { d with depth := d.depth + 1 }
  | .mark ')' => { d with depth := d.depth - 1 }
  | .mark ']' => { d with depth := d.depth - 1 }
  | .mark '=' => { d with inValue := d.inValue || d.depth == 0 }
  | .mark ',' => { d with inValue := d.inValue && d.depth != 0 }
  | _ => d

end DeclarationPlace

/-- The token can stand directly behind a name that is declared. -/
def Token.followsName (t : Token) : Bool :=
  t.isMark ',' || t.isMark ';' || t.isMark '=' || t.isMark '['

/-- The names that tokens declare from a place on. -/
def declaredNamesFrom (d : DeclarationPlace) : List Token → List (List Char)
  | t :: next :: ts =>
    let names := declaredNamesFrom (d.step t.kind) (next :: ts)
    if t.kind = .word ∧ d.takesName ∧ next.followsName then t.text :: names else names
  | _ => []

/-- The names that a declaration declares: words with a comma, a `;`, an `=` or a `[` directly behind
them, outside parentheses, brackets and values. -/
def declaredNames (text : List Char) : List (List Char) := declaredNamesFrom .start (tokens text)

/-- An array, a value in which a name is read, and a plain name. -/
example : declaredNames "uniform float a[N], b = max(c, d[0]), /* e, */ f;".toList =
    ["a", "b", "f"].map String.toList := by
  decide +kernel

theorem exists_token_of_mem_declaredNamesFrom {d : DeclarationPlace} {ts : List Token}
    {name : List Char} (h : name ∈ declaredNamesFrom d ts) : ∃ t ∈ ts, t.isWord name := by
  fun_induction declaredNamesFrom d ts with
  | case1 d t next ts names hname ih =>
    rcases List.mem_cons.1 h with rfl | h
    · exact ⟨t, List.mem_cons_self, by simp [Token.isWord, hname.1]⟩
    · obtain ⟨u, hu, hword⟩ := ih h
      exact ⟨u, List.mem_cons_of_mem t hu, hword⟩
  | case2 d t next ts names _ ih =>
    obtain ⟨u, hu, hword⟩ := ih h
    exact ⟨u, List.mem_cons_of_mem t hu, hword⟩
  | case3 => cases h

/-- A name that is declared is named. -/
theorem names_of_mem_declaredNames {text : List Char} {u : Uniform}
    (h : u.name.toList ∈ declaredNames text) : Names text u :=
  exists_token_of_mem_declaredNamesFrom h

/-! ## What is taken for a redeclaration -/

namespace Token

/-- The token ends a declaration, or is none of one. -/
def endsDeclaration (t : Token) : Bool := t.isMark ';' || t.isMark '{' || t.isMark '}'

/-- The token is the name of a standard uniform. -/
def namesStandard (t : Token) : Bool := t.kind == .word && (Uniform.ofName? t.text).isSome

theorem namesStandard_iff {t : Token} :
    t.namesStandard ↔ ∃ u : Uniform, t.isWord u.name.toList := by
  simp [namesStandard, isWord, Option.isSome_iff_exists, Uniform.ofName?_eq_some_iff]

theorem not_namesStandard_of_isMark {t : Token} {c : Char} (h : t.isMark c) :
    t.namesStandard = false := by
  have hk : t.kind = .mark c := by simpa [isMark] using h
  simp [namesStandard, hk]

theorem not_namesStandard_of_isUniform {t : Token} (h : t.isWord "uniform".toList) :
    t.namesStandard = false := by
  have htext : t.text = "uniform".toList := by
    rw [isWord, Bool.and_eq_true, beq_iff_eq, beq_iff_eq] at h
    exact h.2
  have hname : Uniform.ofName? "uniform".toList = none := by decide
  rw [namesStandard, htext, hname, Option.isSome_none, Bool.and_false]

end Token

/-- The text is a declaration of uniforms through its `;`. -/
def IsUniformDeclaration (text : List Char) : Prop :=
  ∃ first mid last, tokens text = first :: (mid ++ [last]) ∧ first.isWord "uniform".toList ∧
    (∀ t ∈ mid, t.endsDeclaration = false) ∧ last.isMark ';' ∧ last.stop = byteLength text

section DeclarationEnd

variable {named : Bool} {t : Token} {n : Nat}

theorem declarationEnd?_cons_of_ends (h : t.endsDeclaration) (ts : List Token) :
    declarationEnd? named (t :: ts) = if t.isMark ';' ∧ named then some t.stop else none := by
  simp only [Token.endsDeclaration, Token.isMark, Bool.or_eq_true, beq_iff_eq] at h
  rcases h with (hk | hk) | hk <;> simp [declarationEnd?, Token.isMark, hk]

theorem declarationEnd?_cons_of_not_ends (h : t.endsDeclaration = false) (ts : List Token) :
    declarationEnd? named (t :: ts) = declarationEnd? (named || t.namesStandard) ts := by
  simp only [Token.endsDeclaration, Token.isMark, Bool.or_eq_false_iff, beq_eq_false_iff_ne] at h
  rw [declarationEnd?]
  split
  · exact absurd ‹_› h.1.1
  · exact absurd ‹_› h.1.2
  · exact absurd ‹_› h.2
  · rename_i hk
    simp [Token.namesStandard, hk]
  · rename_i hk
    simp [Token.namesStandard, beq_eq_false_iff_ne.2 hk]

/-- A declaration ends at its first `;`, if no brace stands before it and a standard uniform is
named. -/
theorem declarationEnd?_eq_some_iff {ts : List Token} :
    declarationEnd? named ts = some n ↔ ∃ mid last rest, ts = mid ++ last :: rest ∧
      (∀ t ∈ mid, t.endsDeclaration = false) ∧ last.isMark ';' ∧ last.stop = n ∧
      (named ∨ ∃ t ∈ mid, t.namesStandard) := by
  constructor
  · intro h
    induction ts generalizing named with
    | nil => cases h
    | cons t ts ih =>
      rcases ht : t.endsDeclaration with _ | _
      · rw [declarationEnd?_cons_of_not_ends ht] at h
        obtain ⟨mid, last, rest, rfl, hmid, hlast, hn, hnamed⟩ := ih h
        refine ⟨t :: mid, last, rest, rfl, List.forall_mem_cons.2 ⟨ht, hmid⟩, hlast, hn, ?_⟩
        rw [Bool.or_eq_true, or_assoc] at hnamed
        simpa using hnamed
      · rw [declarationEnd?_cons_of_ends ht, Option.ite_none_right_eq_some] at h
        obtain ⟨⟨hmark, hnamed⟩, hstop⟩ := h
        exact ⟨[], t, ts, rfl, by simp, hmark, Option.some.inj hstop, .inl hnamed⟩
  · rintro ⟨mid, last, rest, rfl, hmid, hlast, rfl, hnamed⟩
    induction mid generalizing named with
    | nil =>
      have hnamed : named = true := by simpa using hnamed
      have hends : last.endsDeclaration := by simp [Token.endsDeclaration, hlast]
      rw [List.nil_append, declarationEnd?_cons_of_ends hends, if_pos ⟨hlast, hnamed⟩]
    | cons t mid ih =>
      obtain ⟨ht, hmid⟩ := List.forall_mem_cons.1 hmid
      rw [List.cons_append, declarationEnd?_cons_of_not_ends ht]
      refine ih hmid ?_
      rw [Bool.or_eq_true, or_assoc]
      simpa using hnamed

end DeclarationEnd

/-- A text can be cut behind a token, and the tokens up to there are found again. -/
theorem exists_append_of_tokens {s : List Char} {xs ys : List Token} {t : Token}
    (h : tokens s = xs ++ t :: ys) :
    ∃ text rest, s = text ++ rest ∧ byteLength text = t.stop ∧ tokens text = xs ++ [t] := by
  obtain ⟨before, p, after, hp, hk, htext, hstart, hafter⟩ := exists_piece_of_tokensFrom h
  have hpiece (ps : List Piece) :
      tokensFrom (0 + byteLength (before.flatMap Piece.text)) (p :: ps) =
        t :: tokensFrom t.stop ps := by
    rw [tokensFrom, hk, hstart, htext]
    rfl
  have hbefore : tokensFrom 0 before = xs := by
    rw [tokens, hp, tokensFrom_append, hpiece, hafter] at h
    exact List.append_cancel_right h
  have hcut : pieces s = (before ++ [p]) ++ after := by
    rw [hp]
    simp
  refine ⟨(before ++ [p]).flatMap Piece.text, after.flatMap Piece.text, ?_, ?_, ?_⟩
  · rw [← List.flatMap_append, ← hcut, text_pieces]
  · rw [Nat.zero_add] at hstart
    simp [Token.stop, hstart, htext]
  · rw [tokens, pieces_flatMap_of_eq_append hcut, tokensFrom_append, hpiece, hbefore]
    rfl

/-- The front of a text is known by its length in bytes. -/
theorem eq_of_byteLength_eq {s s' t t' : List Char} (h : s ++ t = s' ++ t')
    (hn : byteLength s = byteLength s') : s = s' := by
  have hcut := splitAtByte_byteLength s t
  rw [h, hn, splitAtByte_byteLength] at hcut
  exact (Prod.mk.inj hcut).1.symm

/-- What is taken for a redeclaration at the start of a line is a declaration of uniforms that names
a standard uniform. -/
theorem redeclarationEnd?_eq_some_iff {line : List Char} {n : Nat} :
    redeclarationEnd? line = some n ↔ ∃ text rest, line = text ++ rest ∧ byteLength text = n ∧
      IsUniformDeclaration text ∧ ∃ u, Names text u := by
  constructor
  · intro h
    unfold redeclarationEnd? at h
    split at h
    · rename_i first ts hts
      rw [Option.ite_none_right_eq_some] at h
      obtain ⟨hfirst, h⟩ := h
      obtain ⟨mid, last, ys, rfl, hmid, hlast, rfl, hnamed⟩ := declarationEnd?_eq_some_iff.1 h
      rw [← List.cons_append] at hts
      obtain ⟨text, rest, rfl, hn, htext⟩ := exists_append_of_tokens hts
      refine ⟨text, rest, rfl, hn, ⟨first, mid, last, htext, hfirst, hmid, hlast, hn.symm⟩, ?_⟩
      obtain ⟨t, ht, hstandard⟩ := hnamed.resolve_left Bool.false_ne_true
      obtain ⟨u, hu⟩ := Token.namesStandard_iff.1 hstandard
      exact ⟨u, t, by simp [htext, ht], hu⟩
    · cases h
  · rintro ⟨text, rest, rfl, rfl, ⟨first, mid, last, htext, hfirst, hmid, hlast, hstop⟩, u, t, ht, hu⟩
    have hstandard : t.namesStandard := Token.namesStandard_iff.2 ⟨u, hu⟩
    -- neither `uniform` nor the `;` is the name
    have hmem : t ∈ mid := by
      rw [htext, List.mem_cons, List.mem_append, List.mem_singleton] at ht
      rcases ht with rfl | ht | rfl
      · rw [Token.not_namesStandard_of_isUniform hfirst] at hstandard
        cases hstandard
      · exact ht
      · rw [Token.not_namesStandard_of_isMark hlast] at hstandard
        cases hstandard
    refine redeclarationEnd?_append ?_ rest
    simp only [redeclarationEnd?, htext]
    rw [if_pos hfirst]
    exact declarationEnd?_eq_some_iff.2
      ⟨mid, last, [], rfl, hmid, hlast, hstop, .inr ⟨t, hmem, hstandard⟩⟩

/-- A declaration of a standard uniform is stripped, whatever else it declares. -/
theorem redeclarationEnd?_of_declares {text : List Char} {u : Uniform}
    (hdeclaration : IsUniformDeclaration text) (hu : u.name.toList ∈ declaredNames text)
    (rest : List Char) : redeclarationEnd? (text ++ rest) = some (byteLength text) :=
  redeclarationEnd?_eq_some_iff.2
    ⟨text, rest, rfl, rfl, hdeclaration, u, names_of_mem_declaredNames hu⟩

/-! ## What is stripped -/

/-- What is stripped at the start of the line is a declaration through its `;` that declares standard
uniforms only. -/
def StripsOnlyStandard (line : List Char) : Prop :=
  ∀ n, redeclarationEnd? line = some n → ∃ text rest, line = text ++ rest ∧ byteLength text = n ∧
    IsUniformDeclaration text ∧ ∀ name ∈ declaredNames text, (Uniform.ofName? name).isSome

/-- What is stripped always is a declaration through its `;`.  A uniform of the author's own is
stripped exactly if its declaration starts the line and names a standard uniform, be it beside it or
in a value. -/
theorem stripsOnlyStandard_iff (line : List Char) :
    (∀ n, redeclarationEnd? line = some n → ∃ text rest, line = text ++ rest ∧
      byteLength text = n ∧ IsUniformDeclaration text) ∧
    (StripsOnlyStandard line ↔ ∀ text rest, line = text ++ rest → IsUniformDeclaration text →
      (∃ u, Names text u) → ∀ name ∈ declaredNames text, (Uniform.ofName? name).isSome) := by
  refine ⟨fun n h => ?_, fun hs text rest hline hdeclaration hnames => ?_, fun h n hn => ?_⟩
  · obtain ⟨text, rest, hline, hn, hdeclaration, -⟩ := redeclarationEnd?_eq_some_iff.1 h
    exact ⟨text, rest, hline, hn, hdeclaration⟩
  · have hend := redeclarationEnd?_eq_some_iff.2 ⟨text, rest, hline, rfl, hdeclaration, hnames⟩
    obtain ⟨text', rest', hline', hn, -, hstandard⟩ := hs _ hend
    rwa [eq_of_byteLength_eq (hline.symm.trans hline') hn.symm]
  · obtain ⟨text, rest, hline, rfl, hdeclaration, hnames⟩ := redeclarationEnd?_eq_some_iff.1 hn
    exact ⟨text, rest, hline, rfl, hdeclaration, h text rest hline hdeclaration hnames⟩

/-- A declaration of a uniform that starts at the time. -/
def startedLine : List Char := "uniform float speed = iTime;".toList

/-- The line is stripped, though it declares no standard uniform. -/
theorem not_stripsOnlyStandard_startedLine : ¬ StripsOnlyStandard startedLine := by
  intro h
  have hend : redeclarationEnd? startedLine = some (byteLength startedLine) := by decide +kernel
  have hown : "speed".toList ∈ declaredNames startedLine := by decide +kernel
  have hname : Uniform.ofName? "speed".toList = none := by decide
  obtain ⟨text, rest, hline, hn, -, hstandard⟩ := h _ hend
  obtain rfl := eq_of_byteLength_eq ((List.append_nil startedLine).trans hline) hn.symm
  have hspeed := hstandard _ hown
  rw [hname] at hspeed
  cases hspeed

end Shader

end ShaderPreview
