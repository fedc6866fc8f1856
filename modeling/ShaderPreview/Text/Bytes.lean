/-!
# Byte lengths

Positions in a text are counted in bytes of its UTF-8 form.
-/

namespace ShaderPreview

namespace Text

/-- The number of bytes of a text in UTF-8. -/
def byteLength : List Char → Nat
  | [] => 0
  | c :: s => c.utf8Size + byteLength s

@[simp] theorem byteLength_nil : byteLength [] = 0 := rfl

@[simp] theorem byteLength_cons (c : Char) (s : List Char) :
    byteLength (c :: s) = c.utf8Size + byteLength s := rfl

@[simp] theorem byteLength_append (s t : List Char) :
    byteLength (s ++ t) = byteLength s + byteLength t := by
  induction s with
  | nil => simp
  | cons c s ih => simp [ih, Nat.add_assoc]

/-- Splits a text behind its first `n` bytes; a character across the boundary goes left. -/
def splitAtByte : Nat → List Char → List Char × List Char
  | 0, s => ([], s)
  | _ + 1, [] => ([], [])
  | n + 1, c :: s =>
    let (l, r) := splitAtByte (n + 1 - c.utf8Size) s
    (c :: l, r)

/-- Nothing of a text is lost when it is split. -/
theorem splitAtByte_append (n : Nat) (s : List Char) :
    (splitAtByte n s).1 ++ (splitAtByte n s).2 = s := by
  fun_induction splitAtByte n s with
  | case1 s => rfl
  | case2 n => rfl
  | case3 n c s l r h ih =>
    rw [h] at ih
    exact congrArg (c :: ·) ih

theorem splitAtByte_byteLength (s t : List Char) :
    splitAtByte (byteLength s) (s ++ t) = (s, t) := by
  induction s with
  | nil => cases t <;> rfl
  | cons c s ih =>
    have hc : 0 < c.utf8Size := Char.utf8Size_pos c
    obtain ⟨n, hn⟩ : ∃ n, c.utf8Size + byteLength s = n + 1 :=
      ⟨c.utf8Size + byteLength s - 1, by omega⟩
    have hr : n + 1 - c.utf8Size = byteLength s := by omega
    simp [hn, splitAtByte, hr, ih]

end Text

end ShaderPreview
