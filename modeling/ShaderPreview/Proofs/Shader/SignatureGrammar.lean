import Mathlib.Data.List.TakeWhile
import ShaderPreview.Shader.Signature

/-!
# The grammar of a signature

`Signature.Spells` says which tokens are a signature, and with which names.  A signature is read from
the front of some tokens exactly if they start with such tokens (`read?_eq_some_iff`): the qualifiers
are read as far as they go, and neither a type nor a name is a qualifier, so that nothing of the
grammar is lost.
-/

namespace ShaderPreview

namespace Shader

/-! ## The grammar -/

/-- One of the tokens is a qualifier of a parameter that the function writes. -/
def HasWriter (qs : List Token) : Prop := ∃ q ∈ qs, q.isWord "out".toList ∨ q.isWord "inout".toList

/-- The tokens are a parameter: qualifiers in any number and order, of which one is `out` or `inout`
iff the function writes the parameter, the type, and a name that is no qualifier. -/
inductive IsParameter (type : List Char) (writes : Bool) : List Char → List Token → Prop where
  | mk {qs : List Token} {t n : Token} (hqs : ∀ q ∈ qs, q.kind = .word ∧ q.text ∈ qualifiers)
    (hwrites : HasWriter qs ↔ writes) (ht : t.isWord type) (hn : n.kind = .word)
    (hname : n.text ∉ qualifiers) : IsParameter type writes n.text (qs ++ [t, n])

/-- The tokens are a signature with the given names. -/
inductive Signature.Spells : Signature → List Token → Prop where
  | mk {void main opening comma closing : Token} {color coord : List Char} {ps qs : List Token}
    (hvoid : void.isWord "void".toList) (hmain : main.isWord entryPointName.toList)
    (hopening : opening.isMark '(') (hcolor : IsParameter "vec4".toList true color ps)
    (hcomma : comma.isMark ',') (hcoord : IsParameter "vec2".toList false coord qs)
    (hclosing : closing.isMark ')') :
    Spells ⟨color, coord⟩ (void :: main :: opening :: ps ++ comma :: qs ++ [closing])

variable {ts rest p : List Token} {type name : List Char} {writes : Bool}

/-! ## One reader after the other -/

/-- A reader of one token reads exactly the tokens of its kind. -/
theorem read_eq_some_iff {read : List Token → Option (List Token)} {f : Token → Bool}
    (hnil : read [] = none) (hcons : ∀ t ts, read (t :: ts) = if f t then some ts else none) :
    read ts = some rest ↔ ∃ t, f t ∧ ts = t :: rest := by
  cases ts with
  | nil => simp [hnil]
  | cons t ts =>
    rw [hcons, Option.ite_none_right_eq_some, Option.some.injEq]
    constructor
    · rintro ⟨ht, rfl⟩
      exact ⟨t, ht, rfl⟩
    · rintro ⟨u, hu, hts⟩
      cases hts
      exact ⟨hu, rfl⟩

theorem word?_eq_some_iff {w : List Char} :
    word? w ts = some rest ↔ ∃ t, t.isWord w ∧ ts = t :: rest :=
  read_eq_some_iff rfl fun _ _ => rfl

theorem mark?_eq_some_iff {c : Char} :
    mark? c ts = some rest ↔ ∃ t, t.isMark c ∧ ts = t :: rest :=
  read_eq_some_iff rfl fun _ _ => rfl

theorem isQualifier_iff {t : Token} : t.isQualifier ↔ t.kind = .word ∧ t.text ∈ qualifiers := by
  rw [Token.isQualifier, Bool.and_eq_true, beq_iff_eq, List.contains_iff_mem]

theorem isWord_iff {t : Token} {w : List Char} : t.isWord w ↔ t.kind = .word ∧ t.text = w := by
  rw [Token.isWord, Bool.and_eq_true, beq_iff_eq, beq_iff_eq]

theorem any_isWritingQualifier_iff {qs : List Token} :
    qs.any Token.isWritingQualifier ↔ HasWriter qs := by
  simp only [List.any_eq_true, Token.isWritingQualifier, Bool.or_eq_true]
  rfl

/-- The qualifiers go up to the type. -/
theorem span_qualifiers {qs : List Token} {t : Token} (rest : List Token)
    (hqs : ∀ q ∈ qs, q.isQualifier) (ht : ¬ t.isQualifier) :
    (qs ++ t :: rest).takeWhile Token.isQualifier = qs ∧
      (qs ++ t :: rest).dropWhile Token.isQualifier = t :: rest := by
  rw [List.takeWhile_append_of_pos hqs, List.dropWhile_append_of_pos hqs,
    List.takeWhile_cons_of_neg ht, List.dropWhile_cons_of_neg ht, List.append_nil]
  exact ⟨rfl, rfl⟩

theorem exists_isParameter_of_parameter? (h : parameter? type writes ts = some (name, rest)) :
    ∃ p, ts = p ++ rest ∧ IsParameter type writes name p := by
  have hsplit : ts.takeWhile Token.isQualifier ++ ts.dropWhile Token.isQualifier = ts :=
    List.takeWhile_append_dropWhile
  have hqs : ∀ q ∈ ts.takeWhile Token.isQualifier, q.kind = .word ∧ q.text ∈ qualifiers := by
    intro q hq
    exact isQualifier_iff.1 (List.mem_takeWhile_imp hq)
  unfold parameter? at h
  split at h
  · rename_i hwrites
    split at h
    · rename_i t n r hdrop
      simp only [Option.ite_none_right_eq_some, Option.some.injEq, Prod.mk.injEq] at h
      obtain ⟨⟨ht, hn, hname⟩, rfl, rfl⟩ := h
      rw [hdrop] at hsplit
      refine ⟨ts.takeWhile Token.isQualifier ++ [t, n], ?_, .mk hqs ?_ ht hn ?_⟩
      · rw [List.append_assoc]
        exact hsplit.symm
      · rw [← any_isWritingQualifier_iff, hwrites]
      · intro hmem
        exact hname (isQualifier_iff.2 ⟨hn, hmem⟩)
    · cases h
  · cases h

theorem parameter?_append (htype : type ∉ qualifiers) (h : IsParameter type writes name p)
    (rest : List Token) : parameter? type writes (p ++ rest) = some (name, rest) := by
  cases h with
  | @mk qs t n hqs hwrites ht hn hname =>
    have hstop : ¬ t.isQualifier := by
      intro hq
      have htext := (isWord_iff.1 ht).2
      rw [← htext] at htype
      exact htype (isQualifier_iff.1 hq).2
    have hnot : ¬ n.isQualifier := by
      intro hq
      exact hname (isQualifier_iff.1 hq).2
    have hany : qs.any Token.isWritingQualifier = writes := by
      apply Bool.eq_iff_iff.2
      rw [any_isWritingQualifier_iff, hwrites]
    have hall : ∀ q ∈ qs, q.isQualifier := by
      intro q hq
      exact isQualifier_iff.2 (hqs q hq)
    obtain ⟨htake, hdrop⟩ := span_qualifiers (n :: rest) hall hstop
    rw [List.append_assoc]
    show parameter? type writes (qs ++ t :: n :: rest) = _
    rw [parameter?, htake, hdrop, if_pos hany]
    exact if_pos ⟨ht, hn, hnot⟩

/-- A parameter is read exactly where one stands. -/
theorem parameter?_eq_some_iff (htype : type ∉ qualifiers) :
    parameter? type writes ts = some (name, rest) ↔
      ∃ p, ts = p ++ rest ∧ IsParameter type writes name p := by
  constructor
  · exact exists_isParameter_of_parameter?
  · rintro ⟨p, rfl, hp⟩
    exact parameter?_append htype hp rest

namespace Signature

variable {s : Signature}

/-- A signature is read exactly where one stands. -/
theorem read?_eq_some_iff :
    Signature.read? ts = some (s, rest) ↔ ∃ p, ts = p ++ rest ∧ s.Spells p := by
  have hvec4 : "vec4".toList ∉ qualifiers := by decide
  have hvec2 : "vec2".toList ∉ qualifiers := by decide
  simp only [Signature.read?, Option.bind_eq_bind, Option.bind_eq_some_iff, Option.pure_def,
    Option.some.injEq, Prod.mk.injEq, Prod.exists, word?_eq_some_iff, mark?_eq_some_iff,
    parameter?_eq_some_iff hvec4, parameter?_eq_some_iff hvec2]
  constructor
  · rintro ⟨_, ⟨void, hvoid, rfl⟩, _, ⟨main, hmain, rfl⟩, _, ⟨opening, hopening, rfl⟩, color, _,
      ⟨ps, rfl, hcolor⟩, _, ⟨comma, hcomma, rfl⟩, coord, _, ⟨qs, rfl, hcoord⟩, _,
      ⟨closing, hclosing, rfl⟩, rfl, rfl⟩
    exact ⟨_, by simp, .mk hvoid hmain hopening hcolor hcomma hcoord hclosing⟩
  · rintro ⟨_, rfl, hp⟩
    cases hp with
    | @mk void main opening comma closing color coord ps qs hvoid hmain hopening hcolor hcomma
        hcoord hclosing =>
      have hts : void :: main :: opening :: ps ++ comma :: qs ++ [closing] ++ rest =
          void :: main :: opening :: (ps ++ comma :: (qs ++ closing :: rest)) := by simp
      rw [hts]
      exact ⟨_, ⟨void, hvoid, rfl⟩, _, ⟨main, hmain, rfl⟩, _, ⟨opening, hopening, rfl⟩, color, _,
        ⟨ps, rfl, hcolor⟩, _, ⟨comma, hcomma, rfl⟩, coord, _, ⟨qs, rfl, hcoord⟩, _,
        ⟨closing, hclosing, rfl⟩, rfl, rfl⟩

theorem Spells.length_pos (h : s.Spells p) : 0 < p.length := by
  cases h
  exact Nat.succ_pos _

/-- What follows a signature is left for later. -/
theorem read?_append (h : Signature.read? ts = some (s, rest)) (more : List Token) :
    Signature.read? (ts ++ more) = some (s, rest ++ more) := by
  obtain ⟨p, rfl, hp⟩ := read?_eq_some_iff.1 h
  exact read?_eq_some_iff.2 ⟨p, List.append_assoc p rest more, hp⟩

/-! ## Signatures by their positions -/

/-- The tokens from index `i` on are a signature, and `j` is the index behind its closing
parenthesis. -/
structure StandsAt (s : Signature) (ts : List Token) (i j : Nat) : Prop where
  inside : j ≤ ts.length
  spells : s.Spells ((ts.take j).drop i)

section StandsAt

variable {us : List Token} {i j k : Nat}

/-- The tokens from `i` on are those up to `j` and those from `j` on. -/
theorem drop_eq_append (hi : i ≤ j) (hj : j ≤ ts.length) :
    ts.drop i = (ts.take j).drop i ++ ts.drop j := by
  have hlength : i ≤ (ts.take j).length := by
    rw [List.length_take]
    omega
  rw [← List.drop_append_of_le_length hlength, List.take_append_drop]

theorem StandsAt.lt (h : s.StandsAt ts i j) : i < j := by
  have hlength := h.spells.length_pos
  rw [List.length_drop, List.length_take] at hlength
  omega

theorem StandsAt.read?_drop (h : s.StandsAt ts i j) :
    Signature.read? (ts.drop i) = some (s, ts.drop j) :=
  read?_eq_some_iff.2 ⟨_, drop_eq_append h.lt.le h.inside, h.spells⟩

theorem exists_standsAt_of_read?_drop (h : Signature.read? (ts.drop i) = some (s, rest)) :
    ∃ j, s.StandsAt ts i j ∧ rest = ts.drop j := by
  obtain ⟨p, hts, hp⟩ := read?_eq_some_iff.1 h
  have hlength : ts.length - i = p.length + rest.length := by
    rw [← List.length_drop, hts, List.length_append]
  have hpos := hp.length_pos
  refine ⟨i + p.length, ⟨by omega, ?_⟩, ?_⟩
  · rw [← List.take_drop, hts, List.take_left]
    exact hp
  · rw [← List.drop_drop, hts, List.drop_left]

/-- Nothing from index `j` on is looked at. -/
theorem StandsAt.congr (h : s.StandsAt ts i j) (hus : us.take j = ts.take j) :
    s.StandsAt us i j := by
  have hlength := congrArg List.length hus
  rw [List.length_take, List.length_take] at hlength
  have hinside := h.inside
  refine ⟨by omega, ?_⟩
  rw [hus]
  exact h.spells

/-- A signature that is cut off is none. -/
theorem StandsAt.read?_take (h : s.StandsAt ts i j) (hk : k < j) :
    Signature.read? ((ts.take k).drop i) = none := by
  have hinside := h.inside
  apply Option.eq_none_iff_forall_ne_some.2
  rintro ⟨s', rest⟩ hread
  have hi : i ≤ k := by
    by_contra hik
    have hnil : (ts.take k).drop i = [] := by
      apply List.drop_eq_nil_of_le
      rw [List.length_take]
      omega
    rw [hnil] at hread
    cases hread
  -- the rest of the tokens would be read as if it stood behind the signature
  have hall := read?_append hread (ts.drop k)
  rw [← drop_eq_append hi (by omega), h.read?_drop] at hall
  have hrest : ts.drop j = rest ++ ts.drop k := (Prod.mk.inj (Option.some.inj hall)).2
  have hlength := congrArg List.length hrest
  rw [List.length_append, List.length_drop, List.length_drop] at hlength
  omega

end StandsAt

/-- At every index of every list of tokens a signature is read exactly if one stands there, with its
names and up to its closing parenthesis, which is inside the list.  Nothing behind the parenthesis is
looked at, and where the list ends in front of it, no signature is read. -/
theorem read?_iff_standsAt (ts : List Token) (i : Nat) :
    (∀ s rest, Signature.read? (ts.drop i) = some (s, rest) ↔
      ∃ j, s.StandsAt ts i j ∧ rest = ts.drop j) ∧
      ∀ s j, s.StandsAt ts i j →
        (∀ us : List Token, us.take j = ts.take j →
          Signature.read? (us.drop i) = some (s, us.drop j)) ∧
          ∀ k < j, Signature.read? ((ts.take k).drop i) = none := by
  constructor
  · intro s rest
    constructor
    · exact exists_standsAt_of_read?_drop
    · rintro ⟨j, hj, rfl⟩
      exact hj.read?_drop
  · intro s j hj
    constructor
    · intro us hus
      exact (hj.congr hus).read?_drop
    · intro k hk
      exact hj.read?_take hk

/-- A declaration, then a signature with qualifiers in any order. -/
def qualifiedTokens : List Token :=
  tokens "float x; void mainImage(inout highp vec4 o, const in mediump vec2 at);".toList

theorem read?_iff_standsAt_qualifiedTokens :
    StandsAt ⟨"o".toList, "at".toList⟩ qualifiedTokens 3 17 ∧
      Signature.read? ((qualifiedTokens.take 17).drop 3) =
        some (⟨"o".toList, "at".toList⟩, (qualifiedTokens.take 17).drop 17) ∧
      Signature.read? ((qualifiedTokens.take 16).drop 3) = none := by
  obtain ⟨hread, hlength⟩ : Signature.read? (qualifiedTokens.drop 3) =
        some (⟨"o".toList, "at".toList⟩, qualifiedTokens.drop 17) ∧
      qualifiedTokens.length = 18 := by
    unfold qualifiedTokens
    repeat rw [String.toList_ofList]
    decide +kernel
  obtain ⟨hiff, hstands⟩ := read?_iff_standsAt qualifiedTokens 3
  obtain ⟨j, hj, hrest⟩ := (hiff _ _).1 hread
  obtain rfl : j = 17 := by
    have hinside := hj.inside
    have hlengths := congrArg List.length hrest
    rw [List.length_drop, List.length_drop, hlength] at hlengths
    omega
  obtain ⟨hcongr, hcut⟩ := hstands _ 17 hj
  exact ⟨hj, hcongr _ (List.take_take.trans rfl), hcut 16 (by decide)⟩

end Signature

end Shader

end ShaderPreview
