import Mathlib.Data.List.TakeWhile
import ShaderPreview.Text.Bytes

/-!
# The bytes of a text

`utf8` is a text as a reader of bytes sees it, `from?` and `slice?` are its parts between two byte
offsets, which exist only where no character is cut.  A character is one byte that is told apart
like the character itself, or bytes that no ASCII character has (`utf8EncodeChar_cases`): so a
reader that only looks for ASCII characters may look at the bytes.
-/

namespace ShaderPreview

namespace Text

/-! ## Bytes -/

/-- The bytes of a text in UTF-8. -/
def utf8 (s : List Char) : List UInt8 := s.flatMap String.utf8EncodeChar

@[simp] theorem utf8_nil : utf8 [] = [] := rfl

@[simp] theorem utf8_cons (c : Char) (s : List Char) :
    utf8 (c :: s) = String.utf8EncodeChar c ++ utf8 s := rfl

@[simp] theorem utf8_append (s t : List Char) : utf8 (s ++ t) = utf8 s ++ utf8 t :=
  List.flatMap_append

@[simp] theorem length_utf8 (s : List Char) : (utf8 s).length = byteLength s := by
  induction s with
  | nil => rfl
  | cons c s ih => rw [utf8_cons, List.length_append, String.length_utf8EncodeChar, ih]; rfl

/-- The byte is that of an ASCII character with the given property. -/
def ofAscii (f : Char → Bool) (b : UInt8) : Bool := b.toNat < 128 && f (Char.ofNat b.toNat)

/-- Only ASCII characters have the property. -/
def IsAscii (f : Char → Bool) : Prop := ∀ c, f c → c.toNat < 128

theorem isAscii_eq {d : Char} (hd : d.toNat < 128) : IsAscii (· == d) := by
  intro c hc
  rw [beq_iff_eq.1 hc]
  exact hd

theorem isAscii_isAlphanum : IsAscii Char.isAlphanum := by
  intro c hc
  have halphanum : c.isAlphanum = (decide (c.val ≥ 'A'.val ∧ c.val ≤ 'Z'.val) ||
      (decide (c.val ≥ 'a'.val) && decide (c.val ≤ 'z'.val)) ||
      (decide (c.val ≥ '0'.val) && decide (c.val ≤ '9'.val))) := rfl
  simp only [halphanum, Bool.or_eq_true, Bool.and_eq_true, decide_eq_true_eq, ge_iff_le,
    UInt32.le_iff_toNat_le] at hc
  simp only [UInt32.reduceToNat, Char.reduceVal] at hc
  rw [Char.toNat]
  omega

theorem isAscii_isDigit : IsAscii Char.isDigit := fun c hc =>
  isAscii_isAlphanum c (by simp [Char.isAlphanum, hc])

theorem utf8EncodeChar_of_lt {c : Char} (hc : c.toNat < 128) :
    String.utf8EncodeChar c = [UInt8.ofNat c.toNat] :=
  if_pos (Nat.le_of_lt_succ hc)

theorem le_toNat_of_mem_utf8EncodeChar {c : Char} (hc : ¬ c.toNat < 128) {b : UInt8}
    (hb : b ∈ String.utf8EncodeChar c) : 128 ≤ b.toNat := by
  have hchar : c.val.toNat = c.toNat := rfl
  revert hb
  fun_cases String.utf8EncodeChar c
  · omega
  all_goals
    simp only [List.mem_cons, List.not_mem_nil, or_false]
    rintro (rfl | rfl | rfl | rfl)
  all_goals
    rw [UInt8.toNat_ofNat']
    omega

/-- A character is one byte that is told apart like the character, or bytes that no ASCII character
has. -/
theorem utf8EncodeChar_cases (c : Char) :
    (∃ b, String.utf8EncodeChar c = [b] ∧ ∀ f, ofAscii f b = f c) ∨
      ∃ b bs, String.utf8EncodeChar c = b :: bs ∧ (∀ f, IsAscii f → f c = false) ∧
        ∀ b' ∈ b :: bs, ∀ f, ofAscii f b' = false := by
  by_cases hc : c.toNat < 128
  · refine .inl ⟨_, utf8EncodeChar_of_lt hc, fun f => ?_⟩
    have hb : (UInt8.ofNat c.toNat).toNat = c.toNat := by
      rw [UInt8.toNat_ofNat']
      omega
    rw [ofAscii, hb, Char.ofNat_toNat, decide_eq_true hc, Bool.true_and]
  · rcases hbytes : String.utf8EncodeChar c with _ | ⟨b, bs⟩
    · have hlength := String.length_utf8EncodeChar c
      rw [hbytes] at hlength
      exact absurd hlength (Char.utf8Size_pos c).ne
    · refine .inr ⟨b, bs, rfl, fun f hf => Bool.eq_false_iff.2 fun h => hc (hf c h),
        fun b' hb' f => ?_⟩
      have hhigh : 128 ≤ b'.toNat := le_toNat_of_mem_utf8EncodeChar hc (by rw [hbytes]; exact hb')
      rw [ofAscii, decide_eq_false (by omega), Bool.false_and]

theorem exists_byte_of_isAscii {f : Char → Bool} (hf : IsAscii f) {c : Char} (hc : f c) :
    ∃ b, String.utf8EncodeChar c = [b] ∧ ∀ g, ofAscii g b = g c := by
  rcases utf8EncodeChar_cases c with hone | ⟨b, bs, -, hnot, -⟩
  · exact hone
  · rw [hnot f hf] at hc
    cases hc

theorem utf8Size_eq_one {f : Char → Bool} (hf : IsAscii f) {c : Char} (hc : f c) :
    c.utf8Size = 1 := by
  obtain ⟨b, hb, -⟩ := exists_byte_of_isAscii hf hc
  rw [← String.length_utf8EncodeChar, hb]
  rfl

/-- The first byte of a character tells whether the character has a property of ASCII
characters. -/
theorem exists_cons_utf8EncodeChar (c : Char) :
    ∃ b bs, String.utf8EncodeChar c = b :: bs ∧ ∀ f, IsAscii f → ofAscii f b = f c := by
  rcases utf8EncodeChar_cases c with ⟨b, hb, hclass⟩ | ⟨b, bs, hb, hnot, hnone⟩
  · exact ⟨b, [], hb, fun f _ => hclass f⟩
  · exact ⟨b, bs, hb, fun f hf => by rw [hnot f hf, hnone b List.mem_cons_self f]⟩

section Scan

variable {f : Char → Bool} (hf : IsAscii f) (s : List Char)

include hf

theorem any_head?_utf8 : (utf8 s).head?.any (ofAscii f) = s.head?.any f := by
  rcases s with _ | ⟨c, s⟩
  · rfl
  · obtain ⟨b, bs, hb, hclass⟩ := exists_cons_utf8EncodeChar c
    rw [utf8_cons, hb]
    exact hclass f hf

theorem takeWhile_utf8 : (utf8 s).takeWhile (ofAscii f) = utf8 (s.takeWhile f) := by
  induction s with
  | nil => rfl
  | cons c s ih =>
    rcases utf8EncodeChar_cases c with ⟨b, hb, hclass⟩ | ⟨b, bs, hb, hnot, hnone⟩
    · by_cases hc : f c <;> simp [hb, hclass, hc, ih]
    · simp [hb, hnot f hf, hnone b List.mem_cons_self f]

end Scan

section Offset

variable {front r s : List Char} {pos : Nat}

theorem getElem?_utf8 (hs : s = front ++ r) (hpos : pos = byteLength front)
    (k : Nat) : (utf8 s)[pos + k]? = (utf8 r)[k]? := by
  rw [hs, hpos, utf8_append, List.getElem?_append_right (by rw [length_utf8]; omega), length_utf8,
    Nat.add_sub_cancel_left]

theorem drop_utf8 (hs : s = front ++ r) (hpos : pos = byteLength front) :
    (utf8 s).drop pos = utf8 r := by
  rw [hs, hpos, utf8_append, List.drop_left' (length_utf8 front)]

end Offset

/-! ## Parts between byte offsets -/

/-- Splits a text behind its first `n` bytes, if no character is cut there. -/
def splitAt? (n : Nat) (s : List Char) : Option (List Char × List Char) :=
  if byteLength (splitAtByte n s).1 = n then some (splitAtByte n s) else none

/-- The text from byte `n` on. -/
def from? (n : Nat) (s : List Char) : Option (List Char) := (splitAt? n s).map Prod.snd

/-- The text from byte `start` up to byte `stop`. -/
def slice? (start stop : Nat) (s : List Char) : Option (List Char) :=
  (splitAt? stop s).bind fun p => from? start p.1

theorem splitAt?_eq_some_iff {n : Nat} {s l r : List Char} :
    splitAt? n s = some (l, r) ↔ s = l ++ r ∧ byteLength l = n := by
  rw [splitAt?, Option.ite_none_right_eq_some, Option.some.injEq]
  constructor
  · rintro ⟨hlength, heq⟩
    rw [heq] at hlength
    have happend := splitAtByte_append n s
    rw [heq] at happend
    exact ⟨happend.symm, hlength⟩
  · rintro ⟨rfl, rfl⟩
    rw [splitAtByte_byteLength]
    exact ⟨rfl, rfl⟩

theorem from?_eq_some_iff {n : Nat} {s r : List Char} :
    from? n s = some r ↔ ∃ l, s = l ++ r ∧ byteLength l = n := by
  simp [from?, splitAt?_eq_some_iff]

theorem slice?_eq_some_iff {start stop : Nat} {s t : List Char} :
    slice? start stop s = some t ↔
      ∃ l r, s = l ++ t ++ r ∧ byteLength l = start ∧ byteLength (l ++ t) = stop := by
  simp only [slice?, Option.bind_eq_some_iff, Prod.exists, splitAt?_eq_some_iff,
    from?_eq_some_iff]
  constructor
  · rintro ⟨k, r, ⟨rfl, hstop⟩, l, rfl, hstart⟩
    exact ⟨l, r, rfl, hstart, hstop⟩
  · rintro ⟨l, r, rfl, hstart, hstop⟩
    exact ⟨l ++ t, r, ⟨rfl, hstop⟩, l, rfl, hstart⟩

/-! ## The first place of a text -/

/-- The byte offset at which `w` is first found. -/
def firstPlace? (w : List Char) : List Char → Option Nat
  | [] => if w = [] then some 0 else none
  | c :: s =>
    if w <+: c :: s then some 0 else (firstPlace? w s).map (c.utf8Size + ·)

/-- The number of bytes through the first place of `w`, or to the end of the text. -/
def lengthThrough (w s : List Char) : Nat :=
  (firstPlace? w s).elim (byteLength s) (· + byteLength w)

theorem lengthThrough_of_prefix {w s : List Char} (h : w <+: s) :
    lengthThrough w s = byteLength w := by
  have hplace : firstPlace? w s = some 0 := by
    cases s with
    | nil => exact if_pos (List.prefix_nil.1 h)
    | cons c s => exact if_pos h
  rw [lengthThrough, hplace, Option.elim_some, Nat.zero_add]

theorem lengthThrough_cons {w s : List Char} {c : Char} (h : ¬ w <+: c :: s) :
    lengthThrough w (c :: s) = c.utf8Size + lengthThrough w s := by
  rw [lengthThrough, firstPlace?, if_neg h, lengthThrough]
  rcases firstPlace? w s with _ | n
  · rfl
  · exact Nat.add_assoc _ _ _

end Text

end ShaderPreview
