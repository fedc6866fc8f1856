import ShaderPreview.Shader.Signature

/-!
# Locating the entry point

`EntryPoint.locate` finds the first signature that is followed by a body rather than by a `;`, and
the brace that closes the body.  Positions are byte offsets.
-/

namespace ShaderPreview

namespace Shader

/-- The ways in which a source can fail to be a shader. -/
inductive SourceError where
  /-- No definition of the entry point. -/
  | missingEntryPoint
  /-- The source ends inside the body, with `depth` braces open. -/
  | unmatchedBraces (depth : Nat)
  deriving DecidableEq, Repr

/-- The text of the error. -/
def SourceError.message : SourceError → String
  | missingEntryPoint => "no `void mainImage(out vec4, in vec2)` definition found"
  | unmatchedBraces depth =>
    "`mainImage` body is never closed (" ++ toString depth ++ " unmatched `\x7b`)"

/-- Where the definition of the entry point stands. -/
structure EntryPoint where
  signature : Signature
  /-- The offset of `void`. -/
  start : Nat
  /-- The offset of the brace that opens the body. -/
  bodyStart : Nat
  /-- The offset behind the brace that closes the body. -/
  stop : Nat
  /-- The tokens behind that brace. -/
  rest : List Token
  deriving DecidableEq, Repr

/-- A token that ends the search for a body: it opens one, or ends a declaration without one. -/
def Token.isTerminator (t : Token) : Bool := t.isMark '{' || t.isMark ';'

/-- Finds the brace that closes a body, given how many braces are open; the answer is the brace and
the tokens behind it, or how many braces stay open. -/
def closeBraces (depth : Nat) : List Token → Except Nat (Token × List Token)
  | [] => .error depth
  | t :: ts =>
    if t.isMark '{' then closeBraces (depth + 1) ts
    else if t.isMark '}' then
      if depth = 1 then .ok (t, ts) else closeBraces (depth - 1) ts
    else closeBraces depth ts

theorem length_mark?_lt {c : Char} {ts rs : List Token} (h : mark? c ts = some rs) :
    rs.length < ts.length := by
  cases ts with
  | nil => simp [mark?] at h
  | cons t ts =>
    simp only [mark?, Option.ite_none_right_eq_some, Option.some.injEq] at h
    simp [← h.2]

theorem length_word?_lt {w : List Char} {ts rs : List Token} (h : word? w ts = some rs) :
    rs.length < ts.length := by
  cases ts with
  | nil => simp [word?] at h
  | cons t ts =>
    simp only [word?, Option.ite_none_right_eq_some, Option.some.injEq] at h
    simp [← h.2]

theorem length_parameter?_le {type name : List Char} {writes : Bool} {ts rs : List Token}
    (h : parameter? type writes ts = some (name, rs)) : rs.length ≤ ts.length := by
  have hd := (List.dropWhile_suffix (l := ts) Token.isQualifier).length_le
  unfold parameter? at h
  split at h
  · split at h
    · rename_i t n rest heq
      simp only [Option.ite_none_right_eq_some, Option.some.injEq, Prod.mk.injEq] at h
      rw [heq] at hd
      simp only [List.length_cons] at hd
      rw [← h.2.2]
      omega
    · simp at h
  · simp at h

theorem Signature.length_read?_lt {ts rs : List Token} {s : Signature}
    (h : Signature.read? ts = some (s, rs)) : rs.length < ts.length := by
  simp only [Signature.read?, Option.bind_eq_bind, Option.bind_eq_some_iff, Option.pure_def,
    Option.some.injEq, Prod.mk.injEq] at h
  obtain ⟨t₁, h₁, t₂, h₂, t₃, h₃, ⟨color, t₄⟩, h₄, t₅, h₅, ⟨coord, t₆⟩, h₆, t₇, h₇, -, rfl⟩ := h
  have := length_word?_lt h₁
  have := length_word?_lt h₂
  have := length_mark?_lt h₃
  have := length_parameter?_le h₄
  have := length_mark?_lt h₅
  have := length_parameter?_le h₆
  have := length_mark?_lt h₇
  simp only at *
  omega

/-- Finds the first definition of the entry point.  A signature that is followed by `;` is only a
declaration and is passed over; one that is followed by neither `;` nor `{` ends the search. -/
def EntryPoint.locate : List Token → Except SourceError EntryPoint
  | [] => .error .missingEntryPoint
  | t :: ts =>
    match _h : Signature.read? (t :: ts) with
    | none => EntryPoint.locate ts
    | some (signature, after) =>
      match _hd : after.dropWhile (fun t => !t.isTerminator) with
      | [] => .error .missingEntryPoint
      | b :: body =>
        if b.isMark ';' then EntryPoint.locate body
        else
          match closeBraces 1 body with
          | .error depth => .error (.unmatchedBraces depth)
          | .ok (close, rest) => .ok ⟨signature, t.start, b.start, close.stop, rest⟩
termination_by ts => ts.length
decreasing_by
  · simp
  · have hs := (List.dropWhile_suffix (l := after) fun t => !t.isTerminator).length_le
    have hl := Signature.length_read?_lt _h
    rw [_hd] at hs
    simp only [List.length_cons] at hs hl ⊢
    omega

/-- Some definition or declaration of the entry point starts in the tokens. -/
def declaresEntryPoint : List Token → Bool
  | [] => false
  | t :: ts => (Signature.read? (t :: ts)).isSome || declaresEntryPoint ts

end Shader

end ShaderPreview
