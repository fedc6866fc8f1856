import ShaderPreview.Proofs.Shader.Cut
import ShaderPreview.Proofs.Text.Utf8
import ShaderPreview.Shader.Token

/-!
# Scanning by bytes

A scanner can also move over the bytes of a text, with a position that is a byte offset: it looks at
single bytes, steps over two of them behind a backslash, and takes a part of the text wherever a
token or a comment ends (`scanMove?`).  Such a part exists only where no character is cut, so a move
may fail.

It never does: each move of the scanner is a piece of the text, and its tokens are those of the text
(`scans_tokens`).
-/

namespace ShaderPreview

namespace Shader

open Text

/-! ## The scanner -/

/-- What the scanner does at a position. -/
inductive ScanMove where
  /-- The text ends. -/
  | done
  /-- A blank or a comment is skipped. -/
  | skip (stop : Nat)
  /-- A token is taken, and the scanner goes on behind it. -/
  | token (t : Token)
  deriving DecidableEq, Repr

section Scanner

variable (s : List Char) (pos : Nat)

/-- Where a comment ends, which is looked for from `pos` on. -/
def commentStop? (ending : List Char) : Option Nat :=
  (from? pos s).map fun r =>
    match firstPlace? ending r with
    | some n => pos + n + byteLength ending
    | none => byteLength s

/-- The number of bytes up to a closing quote, which may be too large at the end of the text: a
backslash takes a byte along that need not be there. -/
def quotedLength (quote : UInt8) : List UInt8 → Nat
  | [] => 0
  | [b] => if ofAscii (· == '\\') b then 2 else 1
  | b :: b' :: bs =>
    if ofAscii (· == '\\') b then 2 + quotedLength quote bs
    else if b = quote then 1
    else 1 + quotedLength quote (b' :: bs)

/-- Where a quoted string ends. -/
def quotedStop (quote : UInt8) : Nat :=
  min (pos + 1 + quotedLength quote ((utf8 s).drop (pos + 1))) (utf8 s).length

/-- Where a word ends. -/
def wordStop : Nat := pos + (((utf8 s).drop pos).takeWhile (ofAscii isWordChar)).length

/-- The number of bytes of a number, given whether it has the hexadecimal mark and the byte in
front. -/
def numberLength (hex : Bool) (previous : Option UInt8) : List UInt8 → Nat
  | [] => 0
  | b :: bs =>
    if ofAscii (fun c => c.isAlphanum || c == '.') b ||
        (ofAscii (fun c => c == '+' || c == '-') b &&
          previous.any (ofAscii fun c => c == 'e' || c == 'E') && !hex) then
      1 + numberLength hex (some b) bs
    else 0

/-- Where a number ends. -/
def numberStop? : Option Nat :=
  (from? pos s).map fun r =>
    pos + numberLength ("0x".toList.isPrefixOf r) none ((utf8 s).drop pos)

/-- The token between two positions. -/
def takeToken? (kind : TokenKind) (stop : Nat) : Option ScanMove :=
  (slice? pos stop s).map fun text => .token ⟨kind, text, pos⟩

/-- The mark at a position. -/
def takeMark? : Option ScanMove :=
  (from? pos s).bind fun r =>
    match r.head? with
    | none => some .done
    | some c => takeToken? s pos (.mark c) (pos + c.utf8Size)

/-- What the scanner does at a position, unless it would cut a character. -/
def scanMove? : Option ScanMove :=
  match (utf8 s)[pos]? with
  | none => some .done
  | some b =>
    if ofAscii isAsciiBlank b then some (.skip (pos + 1))
    else if ofAscii (· == '/') b && (utf8 s)[pos + 1]?.any (ofAscii (· == '/')) then
      (commentStop? s pos ['\n']).map .skip
    else if ofAscii (· == '/') b && (utf8 s)[pos + 1]?.any (ofAscii (· == '*')) then
      (commentStop? s (pos + 2) ['*', '/']).map .skip
    else if ofAscii isQuote b then takeToken? s pos .quoted (quotedStop s pos b)
    else if ofAscii isWordStart b then takeToken? s pos .word (wordStop s pos)
    else if ofAscii Char.isDigit b then (numberStop? s pos).bind (takeToken? s pos .number)
    else takeMark? s pos

end Scanner

/-- The scanner comes from a position to the end of the text, without a move that fails, and takes
these tokens. -/
inductive Scans (s : List Char) : Nat → List Token → Prop where
  | done {pos : Nat} (h : scanMove? s pos = some .done) : Scans s pos []
  | skip {pos stop : Nat} {ts : List Token} (h : scanMove? s pos = some (.skip stop))
    (rest : Scans s stop ts) : Scans s pos ts
  | token {pos : Nat} {t : Token} {ts : List Token} (h : scanMove? s pos = some (.token t))
    (rest : Scans s t.stop ts) : Scans s pos (t :: ts)

/-! ## Classes of characters -/

theorem isAscii_isAsciiBlank : IsAscii isAsciiBlank := by
  intro c hc
  simp only [isAsciiBlank, Bool.or_eq_true, beq_iff_eq, Bool.and_eq_true, decide_eq_true_eq] at hc
  omega

theorem isAscii_isWordChar : IsAscii isWordChar := fun c hc =>
  ((Bool.or_eq_true _ _).mp hc).elim (isAscii_isAlphanum c) (isAscii_eq (by decide) c)

theorem isWordChar_of_isWordStart {c : Char} (h : isWordStart c) : isWordChar c := by
  simp only [isWordStart, isWordChar, Char.isAlphanum, Bool.or_eq_true] at h ⊢
  exact h.imp_left .inl

theorem isAscii_isWordStart : IsAscii isWordStart := fun c hc =>
  isAscii_isWordChar c (isWordChar_of_isWordStart hc)

theorem isAscii_isQuote : IsAscii isQuote := fun c hc =>
  ((Bool.or_eq_true _ _).mp hc).elim (isAscii_eq (by decide) c) (isAscii_eq (by decide) c)

/-! ## Where pieces end -/

theorem lengthThrough_newline (s : List Char) :
    lengthThrough ['\n'] s = byteLength (cutLine s).1 := by
  induction s with
  | nil => rfl
  | cons c s ih =>
    by_cases hc : c = '\n'
    · subst hc
      rw [cutLine, if_pos rfl]
      exact lengthThrough_of_prefix (List.prefix_append ['\n'] s)
    · have hnot : ¬ ['\n'] <+: c :: s := fun h => hc (List.cons_prefix_cons.1 h).1.symm
      rw [lengthThrough_cons hnot, ih, cutLine, if_neg hc]
      rfl

theorem lengthThrough_commentEnd (s : List Char) :
    lengthThrough ['*', '/'] s = byteLength (cutComment s).1 := by
  fun_induction cutComment s with
  | case1 => rfl
  | case2 s => exact lengthThrough_of_prefix (List.prefix_append ['*', '/'] s)
  | case3 c s hnot l closed r hcut ih =>
    have hstarts : ¬ ['*', '/'] <+: c :: s := by
      rintro ⟨t, ht⟩
      obtain ⟨hc, hs⟩ := List.cons.inj ht
      exact hnot t hc.symm hs.symm
    rw [hcut] at ih
    rw [lengthThrough_cons hstarts, ih]
    rfl

theorem quotedLength_cons (quote b : UInt8) (bs : List UInt8) :
    quotedLength quote (b :: bs) =
      if ofAscii (· == '\\') b then 2 + quotedLength quote (bs.drop 1)
      else if b = quote then 1
      else 1 + quotedLength quote bs := by
  rcases bs with _ | ⟨b', bs⟩
  · simp [quotedLength]
  · rfl

section Quoted

variable {q : Char} {quote : UInt8} (hquote : ∀ f, ofAscii f quote = f q)

include hquote

/-- Bytes that are neither a backslash nor the quote are passed over. -/
theorem quotedLength_append {bs : List UInt8} (cs : List UInt8)
    (h : ∀ b ∈ bs, ofAscii (· == '\\') b = false ∧ ofAscii (· == q) b = false) :
    quotedLength quote (bs ++ cs) = bs.length + quotedLength quote cs := by
  induction bs with
  | nil => simp
  | cons b bs ih =>
    obtain ⟨⟨hb, hq⟩, hbs⟩ := List.forall_mem_cons.1 h
    have hne : b ≠ quote := by
      rintro rfl
      rw [hquote] at hq
      simp at hq
    rw [List.cons_append, quotedLength_cons, if_neg (by simp [hb]), if_neg hne, ih hbs,
      List.length_cons]
    omega

theorem quotedLength_utf8EncodeChar_append {c : Char} (hc : c ≠ '\\') (hq : c ≠ q)
    (bs : List UInt8) : quotedLength quote (String.utf8EncodeChar c ++ bs) =
      c.utf8Size + quotedLength quote bs := by
  rw [quotedLength_append hquote, String.length_utf8EncodeChar]
  rcases utf8EncodeChar_cases c with ⟨b, hb, hclass⟩ | ⟨b, bs', hb, -, hnone⟩
  · simp [hb, hclass, hc, hq]
  · rw [hb]
    exact fun b' hb' => ⟨hnone b' hb' _, hnone b' hb' _⟩

/-- Behind a backslash the first byte of a character is skipped, and the others are passed over. -/
theorem quotedLength_drop_utf8EncodeChar_append (c : Char) (bs : List UInt8) :
    1 + quotedLength quote ((String.utf8EncodeChar c ++ bs).drop 1) =
      c.utf8Size + quotedLength quote bs := by
  have hlength := String.length_utf8EncodeChar c
  rcases utf8EncodeChar_cases c with ⟨b, hb, -⟩ | ⟨b, bs', hb, -, hnone⟩
  · rw [hb] at hlength ⊢
    rw [← hlength]
    rfl
  · rw [hb] at hlength ⊢
    have hpass : quotedLength quote (bs' ++ bs) = bs'.length + quotedLength quote bs :=
      quotedLength_append hquote bs fun b' hb' =>
        have hmem := List.mem_cons_of_mem b hb'
        ⟨hnone b' hmem _, hnone b' hmem _⟩
    rw [List.cons_append, List.drop_succ_cons, List.drop_zero, hpass, ← hlength, List.length_cons]
    omega

/-- At the end of the text the number of bytes up to a closing quote may be too large; up to there
it is that of the quoted string. -/
theorem min_quotedLength (hbytes : String.utf8EncodeChar q = [quote]) (hq : q ≠ '\\')
    (s : List Char) :
    min (quotedLength quote (utf8 s)) (byteLength s) = byteLength (cutQuoted q s).1 := by
  have hbackslash : String.utf8EncodeChar '\\' = [92] := rfl
  fun_induction cutQuoted q s with
  | case1 => rfl
  | case2 c s l r hcut ih =>
    rw [hcut] at ih
    have hskip := quotedLength_drop_utf8EncodeChar_append hquote c (utf8 s)
    rw [utf8_cons, hbackslash, List.singleton_append, quotedLength_cons, if_pos (by decide)]
    simp only [byteLength_cons, utf8_cons] at ih ⊢
    have hsize : '\\'.utf8Size = 1 := rfl
    omega
  | case3 s hnot =>
    have hsize := String.length_utf8EncodeChar q
    rw [hbytes] at hsize
    have hpass : ¬ ofAscii (· == '\\') quote = true := by simp [hquote, hq]
    rw [utf8_cons, hbytes, List.singleton_append, quotedLength_cons, if_neg hpass, if_pos rfl,
      byteLength_cons, byteLength_cons, ← hsize]
    simp
  | case4 c s hnot hc l r hcut ih =>
    rw [hcut] at ih
    by_cases hb : c = '\\'
    · -- a backslash at the end of the text
      rcases s with _ | ⟨d, s⟩
      · cases hcut
        rw [hb]
        rfl
      · exact (hnot d s hb rfl).elim
    · rw [utf8_cons, quotedLength_utf8EncodeChar_append hquote hb hc, byteLength_cons,
        byteLength_cons]
      simp only at ih
      omega

end Quoted

/-- The bytes of a number are those of its characters. -/
theorem numberLength_utf8 {hex : Bool} {previous : Char} {p : Option UInt8}
    (hp : ∀ f, p.any (ofAscii f) = f previous) (s : List Char) :
    numberLength hex p (utf8 s) = byteLength (cutNumber hex previous s).1 := by
  induction s generalizing previous p with
  | nil => rfl
  | cons c s ih =>
    have hsize := String.length_utf8EncodeChar c
    rw [utf8_cons, cutNumber]
    rcases utf8EncodeChar_cases c with ⟨b, hb, hclass⟩ | ⟨b, bs, hb, hnot, hnone⟩
    · rw [hb] at hsize ⊢
      rw [List.singleton_append, numberLength, hclass, hclass, hp, continuesNumber]
      split
      · rw [ih (p := some b) hclass, byteLength_cons, ← hsize]
        rfl
      · rfl
    · have hstop : continuesNumber hex previous c = false := by
        have hpoint := hnot _ (isAscii_eq (d := '.') (by decide))
        have hplus := hnot _ (isAscii_eq (d := '+') (by decide))
        have hminus := hnot _ (isAscii_eq (d := '-') (by decide))
        rw [continuesNumber, hnot _ isAscii_isAlphanum, hpoint, hplus, hminus]
        rfl
      rw [hb, List.cons_append, numberLength, hnone b List.mem_cons_self,
        hnone b List.mem_cons_self, hstop]
      rfl

theorem isPrefixOf_hexadecimalMark (c : Char) (s : List Char) :
    "0x".toList.isPrefixOf (c :: s) = isHexadecimal c s := by
  rw [isHexadecimal, Bool.beq_comm (a := c)]
  rcases s with _ | ⟨d, s⟩
  · rfl
  · rw [List.head?_cons, Option.some_beq_some, Bool.beq_comm (a := d)]
    change ('0' == c && ('x' == d && true)) = _
    rw [Bool.and_true]

/-! ## Moves at a piece -/

/-- What the scanner does at a piece that starts at byte `n`. -/
def Piece.move (n : Nat) (p : Piece) : ScanMove :=
  match p.kind with
  | .token k => .token ⟨k, p.text, n⟩
  | _ => .skip (n + byteLength p.text)

section Move

variable {front s : List Char} {pos : Nat}

theorem takeToken?_eq {t r : List Char} {stop : Nat} (hs : s = front ++ t ++ r)
    (hpos : pos = byteLength front) (hstop : stop = pos + byteLength t) (kind : TokenKind) :
    takeToken? s pos kind stop = some (.token ⟨kind, t, pos⟩) := by
  have hslice : slice? pos stop s = some t :=
    slice?_eq_some_iff.2 ⟨front, r, hs, hpos.symm, by rw [hstop, hpos, byteLength_append]⟩
  rw [takeToken?, hslice]
  rfl

/-- What the scanner looks at is the first character of what is left of the text, and the second one
where a comment may start. -/
theorem scanMove?_eq {c : Char} {u : List Char} (hs : s = front ++ c :: u)
    (hpos : pos = byteLength front) :
    ∃ b bs, String.utf8EncodeChar c = b :: bs ∧ scanMove? s pos =
      if isAsciiBlank c then some (.skip (pos + 1))
      else if c == '/' && u.head?.any (· == '/') then (commentStop? s pos ['\n']).map .skip
      else if c == '/' && u.head?.any (· == '*') then
        (commentStop? s (pos + 2) ['*', '/']).map .skip
      else if isQuote c then takeToken? s pos .quoted (quotedStop s pos b)
      else if isWordStart c then takeToken? s pos .word (wordStop s pos)
      else if c.isDigit then (numberStop? s pos).bind (takeToken? s pos .number)
      else takeMark? s pos := by
  obtain ⟨b, bs, hb, hclass⟩ := exists_cons_utf8EncodeChar c
  have hbyte : (utf8 s)[pos]? = some b := by
    have h := getElem?_utf8 hs hpos 0
    rw [utf8_cons, hb] at h
    exact h
  have hsign {d : Char} (hd : d.toNat < 128) :
      (ofAscii (· == '/') b && (utf8 s)[pos + 1]?.any (ofAscii (· == d))) =
        (c == '/' && u.head?.any (· == d)) := by
    rw [hclass _ (isAscii_eq (by decide)), getElem?_utf8 hs hpos 1]
    by_cases hc : c = '/'
    · subst hc
      have hslash : String.utf8EncodeChar '/' = [47] := rfl
      rw [← any_head?_utf8 (isAscii_eq hd) u, utf8_cons, hslash, List.head?_eq_getElem?]
      rfl
    · rw [beq_eq_false_iff_ne.2 hc, Bool.false_and, Bool.false_and]
  refine ⟨b, bs, hb, ?_⟩
  simp only [scanMove?, hbyte, hsign (d := '/') (by decide), hsign (d := '*') (by decide),
    hclass _ isAscii_isAsciiBlank, hclass _ isAscii_isQuote, hclass _ isAscii_isWordStart,
    hclass _ isAscii_isDigit]

theorem commentStop?_eq {r : List Char} (hs : s = front ++ r) (hpos : pos = byteLength front)
    (ending : List Char) : commentStop? s pos ending = some (pos + lengthThrough ending r) := by
  have hfrom : from? pos s = some r := from?_eq_some_iff.2 ⟨front, hs, hpos.symm⟩
  have hlength : byteLength s = pos + byteLength r := by rw [hs, hpos, byteLength_append]
  rw [commentStop?, hfrom, hlength, lengthThrough, Option.map_some]
  rcases firstPlace? ending r with _ | n
  · rfl
  · rw [Option.elim_some, ← Nat.add_assoc]

theorem quotedStop_eq {c : Char} {u : List Char} {b : UInt8} (hs : s = front ++ c :: u)
    (hpos : pos = byteLength front) (hc : isQuote c) (hb : String.utf8EncodeChar c = [b])
    (hclass : ∀ f, ofAscii f b = f c) :
    quotedStop s pos b = pos + byteLength (c :: (cutQuoted c u).1) := by
  have hsize : c.utf8Size = 1 := utf8Size_eq_one isAscii_isQuote hc
  have hfront : pos + 1 = byteLength (front ++ [c]) := by
    rw [byteLength_append, byteLength_cons, hsize, hpos]
    rfl
  have hs : s = (front ++ [c]) ++ u := by simp [hs]
  have hlength : (utf8 s).length = pos + 1 + byteLength u := by
    rw [length_utf8, hs, byteLength_append, hfront]
  have hmin := min_quotedLength hclass hb (ne_backslash_of_isQuote hc) u
  rw [quotedStop, drop_utf8 hs hfront, hlength, Nat.add_min_add_left, hmin, byteLength_cons, hsize,
    Nat.add_assoc]

theorem wordStop_eq {c : Char} {u : List Char} (hs : s = front ++ c :: u)
    (hpos : pos = byteLength front) (hc : isWordStart c) :
    wordStop s pos = pos + byteLength (c :: (cutWord u).1) := by
  rw [wordStop, drop_utf8 hs hpos, takeWhile_utf8 isAscii_isWordChar, length_utf8,
    List.takeWhile_cons_of_pos (isWordChar_of_isWordStart hc)]
  rfl

theorem numberStop?_eq {c : Char} {u : List Char} (hs : s = front ++ c :: u)
    (hpos : pos = byteLength front) (hc : c.isDigit) :
    numberStop? s pos =
      some (pos + byteLength (c :: (cutNumber (isHexadecimal c u) c u).1)) := by
  have hfrom : from? pos s = some (c :: u) := from?_eq_some_iff.2 ⟨front, hs, hpos.symm⟩
  have halphanum : (c.isAlphanum || c == '.') = true := by simp [Char.isAlphanum, hc]
  obtain ⟨b, hb, hclass⟩ := exists_byte_of_isAscii isAscii_isDigit hc
  rw [numberStop?, hfrom, Option.map_some, drop_utf8 hs hpos, isPrefixOf_hexadecimalMark, utf8_cons,
    hb, List.singleton_append, numberLength, if_pos (by simp [hclass, halphanum]),
    numberLength_utf8 (p := some b) hclass, byteLength_cons, utf8Size_eq_one isAscii_isDigit hc]

theorem takeMark?_eq {c : Char} {u : List Char} (hs : s = front ++ c :: u)
    (hpos : pos = byteLength front) :
    takeMark? s pos = some (.token ⟨.mark c, [c], pos⟩) := by
  have hfrom : from? pos s = some (c :: u) := from?_eq_some_iff.2 ⟨front, hs, hpos.symm⟩
  rw [takeMark?, hfrom]
  exact takeToken?_eq (t := [c]) (r := u) (by rw [hs]; simp) hpos rfl _

/-- At each piece the scanner makes the move of the piece. -/
theorem scanMove?_of_next? {r r' : List Char} {p : Piece} (h : Piece.next? r = some (p, r'))
    (hs : s = front ++ r) (hpos : pos = byteLength front) :
    scanMove? s pos = some (p.move pos) := by
  have noSign {c d : Char} {u : List Char} (h : ∀ v, c = '/' → u = d :: v → False) :
      ¬ (c == '/' && u.head?.any (· == d)) = true := by
    intro hsign
    rw [Bool.and_eq_true, beq_iff_eq] at hsign
    rcases u with _ | ⟨e, u⟩
    · cases hsign.2
    · exact h u hsign.1 (by rw [beq_iff_eq.1 hsign.2])
  have happend := Piece.next?_append h
  have htake (kind : TokenKind) : takeToken? s pos kind (pos + byteLength p.text) =
      some (.token ⟨kind, p.text, pos⟩) :=
    takeToken?_eq (by rw [hs, ← happend, List.append_assoc]) hpos rfl kind
  revert h hs happend htake
  fun_cases Piece.next? r <;> simp only [reduceCtorEq, Option.some.injEq, Prod.mk.injEq,
    false_imp_iff, and_imp] <;> rintro rfl rfl hs - htake
  · rename_i u l r hcut
    obtain ⟨b, bs, -, hmove⟩ := scanMove?_eq hs hpos
    replace hmove : scanMove? s pos = (commentStop? s pos ['\n']).map .skip := hmove
    have hline : (cutLine ('/' :: '/' :: u)).1 = '/' :: '/' :: l := by simp [cutLine, hcut]
    rw [hmove, commentStop?_eq hs hpos, lengthThrough_newline, hline]
    rfl
  · rename_i u l closed r hcut
    obtain ⟨b, bs, -, hmove⟩ := scanMove?_eq hs hpos
    replace hmove : scanMove? s pos = (commentStop? s (pos + 2) ['*', '/']).map .skip := hmove
    have hs : s = (front ++ ['/', '*']) ++ u := by simp [hs]
    have hpos : pos + 2 = byteLength (front ++ ['/', '*']) := by
      rw [byteLength_append, hpos]
      rfl
    have hsign : byteLength ('/' :: '*' :: l) = 2 + byteLength l := byteLength_append ['/', '*'] l
    rw [hmove, commentStop?_eq hs hpos, lengthThrough_commentEnd, hcut, Piece.move, hsign,
      ← Nat.add_assoc]
    rfl
  · rename_i c u hline hblock hblank
    obtain ⟨b, bs, -, hmove⟩ := scanMove?_eq hs hpos
    have hsize : byteLength [c] = 1 := utf8Size_eq_one isAscii_isAsciiBlank hblank
    rw [hmove, if_pos hblank, Piece.move, hsize]
  · rename_i c u hline hblock hblank hquote l r hcut
    obtain ⟨b, bs, hb, hmove⟩ := scanMove?_eq hs hpos
    obtain ⟨b', hb', hclass⟩ := exists_byte_of_isAscii isAscii_isQuote hquote
    obtain rfl : b' = b := (List.cons.inj (hb'.symm.trans hb)).1
    rw [hmove, if_neg hblank, if_neg (noSign hline), if_neg (noSign hblock), if_pos hquote,
      quotedStop_eq hs hpos hquote hb' hclass, hcut]
    exact htake .quoted
  · rename_i c u hline hblock hblank hquote hword l r hcut
    obtain ⟨b, bs, -, hmove⟩ := scanMove?_eq hs hpos
    rw [hmove, if_neg hblank, if_neg (noSign hline), if_neg (noSign hblock), if_neg hquote,
      if_pos hword, wordStop_eq hs hpos hword, hcut]
    exact htake .word
  · rename_i c u hline hblock hblank hquote hword hdigit l r hcut
    obtain ⟨b, bs, -, hmove⟩ := scanMove?_eq hs hpos
    rw [hmove, if_neg hblank, if_neg (noSign hline), if_neg (noSign hblock), if_neg hquote,
      if_neg hword, if_pos hdigit, numberStop?_eq hs hpos hdigit, hcut]
    exact htake .number
  · rename_i c u hline hblock hblank hquote hword hdigit
    obtain ⟨b, bs, -, hmove⟩ := scanMove?_eq hs hpos
    rw [hmove, if_neg hblank, if_neg (noSign hline), if_neg (noSign hblock), if_neg hquote,
      if_neg hword, if_neg hdigit]
    exact takeMark?_eq hs hpos

end Move

/-! ## The whole text -/

theorem scanMove?_end (s : List Char) : scanMove? s (byteLength s) = some .done := by
  have hnone : (utf8 s)[byteLength s]? = none := by
    rw [List.getElem?_eq_none_iff, length_utf8]
  rw [scanMove?, hnone]

/-- From the start of a piece on, the scanner comes to the end of the text and takes the tokens of
the pieces. -/
theorem scans_pieces {front r s : List Char} (hs : s = front ++ r) :
    Scans s (byteLength front) (tokensFrom (byteLength front) (pieces r)) := by
  fun_induction pieces r generalizing front with
  | case1 r h =>
    rw [Piece.eq_nil_of_next? h, List.append_nil] at hs
    rw [← hs]
    exact .done (scanMove?_end s)
  | case2 r p r' h ih =>
    have hmove := scanMove?_of_next? h hs rfl
    have hbehind : s = (front ++ p.text) ++ r' := by
      rw [hs, List.append_assoc, Piece.next?_append h]
    have hrest := ih hbehind
    rw [byteLength_append] at hrest
    rw [tokensFrom]
    unfold Piece.move at hmove
    rcases hk : p.kind with _ | _ | closed | k <;> rw [hk] at hmove
    · exact .skip hmove hrest
    · exact .skip hmove hrest
    · exact .skip hmove hrest
    · exact .token hmove hrest

/-- The scanner takes the tokens of the text, and no move of it fails. -/
theorem scans_tokens (s : List Char) : Scans s 0 (tokens s) :=
  scans_pieces (List.nil_append s).symm

/-- What the scanner does at a position is determined. -/
theorem Scans.unique {s : List Char} {pos : Nat} {ts us : List Token} (h : Scans s pos ts)
    (h' : Scans s pos us) : ts = us := by
  induction h generalizing us with
  | done h =>
    cases h' with
    | done => rfl
    | skip h' => simp [h] at h'
    | token h' => simp [h] at h'
  | skip h _ ih =>
    cases h' with
    | done h' => simp [h] at h'
    | skip h' rest =>
      cases h.symm.trans h'
      exact ih rest
    | token h' => simp [h] at h'
  | token h _ ih =>
    cases h' with
    | done h' => simp [h] at h'
    | skip h' => simp [h] at h'
    | token h' rest =>
      cases h.symm.trans h'
      rw [ih rest]

end Shader

end ShaderPreview
