/-!
# Blank characters and trimming

Two notions of white space are in use.  Lines are trimmed by the Unicode property `White_Space`
(`isBlank`), while the token scanner only knows six ASCII characters (`isAsciiBlank`), all of which
have the property (`isBlank_of_isAsciiBlank`).
-/

namespace ShaderPreview

namespace Text

/-- The code points with the Unicode property `White_Space`, as closed ranges. -/
def blankRanges : List (Nat × Nat) :=
  [(0x09, 0x0d), (0x20, 0x20), (0x85, 0x85), (0xa0, 0xa0), (0x1680, 0x1680), (0x2000, 0x200a),
    (0x2028, 0x2029), (0x202f, 0x202f), (0x205f, 0x205f), (0x3000, 0x3000)]

/-- A character with the Unicode property `White_Space`. -/
def isBlank (c : Char) : Bool :=
  blankRanges.any fun r => r.1 ≤ c.toNat && c.toNat ≤ r.2

/-- The white space that separates tokens: space, tab, line feed, vertical tab, form feed and
carriage return. -/
def isAsciiBlank (c : Char) : Bool :=
  c.toNat == 0x20 || (0x09 ≤ c.toNat && c.toNat ≤ 0x0d)

theorem isBlank_of_isAsciiBlank {c : Char} (h : isAsciiBlank c) : isBlank c := by
  simp only [isAsciiBlank, Bool.or_eq_true, beq_iff_eq, Bool.and_eq_true, decide_eq_true_eq] at h
  simp only [isBlank, blankRanges, List.any_cons, Bool.or_eq_true, Bool.and_eq_true,
    decide_eq_true_eq]
  omega

/-- Drops leading blanks. -/
def trimStart (s : List Char) : List Char := s.dropWhile isBlank

/-- Drops trailing blanks. -/
def trimEnd (s : List Char) : List Char := (s.reverse.dropWhile isBlank).reverse

/-- Drops leading and trailing blanks. -/
def trim (s : List Char) : List Char := trimEnd (trimStart s)

/-- A text without any character that is not blank. -/
def isAllBlank (s : List Char) : Bool := s.all isBlank

/-- Drops leading and trailing line feeds. -/
def trimNewlines (s : List Char) : List Char :=
  ((s.dropWhile (· == '\n')).reverse.dropWhile (· == '\n')).reverse

end Text

end ShaderPreview
