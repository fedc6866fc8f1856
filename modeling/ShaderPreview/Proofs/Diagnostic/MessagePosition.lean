import ShaderPreview.Diagnostic.Basic
import ShaderPreview.Proofs.Diagnostic.ExcerptRows
import ShaderPreview.Proofs.Text.Utf8

/-!
# The position that a message names

A position is a run of digits, a colon and another run of digits, neither of which can be made
longer.  `Position.find?` answers with the leftmost one (`answers_find?`), and a search over the
bytes of the message comes to the same answer without cutting a character (`searches_find?`).
-/

namespace ShaderPreview

namespace Position

open Text

/-! ## Runs of digits -/

/-- A run of digits that a text behind it does not go on with. -/
structure IsRun (run behind : List Char) : Prop where
  ne_nil : run ≠ []
  digits : ∀ c ∈ run, c.isDigit
  ends : behind.head?.any Char.isDigit = false

section Runs

variable {run behind r column rest : List Char}

theorem takeWhile_eq_nil (h : r.head?.any Char.isDigit = false) :
    r.takeWhile Char.isDigit = [] ∧ r.dropWhile Char.isDigit = r := by
  rcases r with _ | ⟨c, r⟩
  · exact ⟨rfl, rfl⟩
  · have hc : c.isDigit = false := h
    simp [hc]

theorem IsRun.takeWhile_eq (h : IsRun run behind) :
    (run ++ behind).takeWhile Char.isDigit = run ∧
      (run ++ behind).dropWhile Char.isDigit = behind := by
  obtain ⟨htake, hdrop⟩ := takeWhile_eq_nil h.ends
  rw [List.takeWhile_append_of_pos h.digits, List.dropWhile_append_of_pos h.digits, htake, hdrop,
    List.append_nil]
  exact ⟨rfl, rfl⟩

theorem any_head?_dropWhile (r : List Char) :
    (r.dropWhile Char.isDigit).head?.any Char.isDigit = false := by
  induction r with
  | nil => rfl
  | cons c r ih => by_cases hc : c.isDigit <;> simp [hc, ih]

theorem isRun_cons {c : Char} (hc : c.isDigit) (r : List Char) :
    IsRun (c :: r.takeWhile Char.isDigit) (r.dropWhile Char.isDigit) where
  ne_nil := List.cons_ne_nil _ _
  digits := by
    intro d hd
    rcases List.mem_cons.1 hd with rfl | hd
    · exact hc
    · exact List.mem_takeWhile_imp hd
  ends := any_head?_dropWhile r

/-- A column is a run of digits behind a colon. -/
theorem column?_eq_some_iff :
    column? r = some (column, rest) ↔ r = ':' :: (column ++ rest) ∧ IsRun column rest := by
  constructor
  · fun_cases column? r with
    | case1 c s hc =>
      rintro ⟨⟩
      rw [List.cons_append, List.takeWhile_append_dropWhile]
      exact ⟨rfl, isRun_cons hc s⟩
    | case2 => rintro ⟨⟩
    | case3 => rintro ⟨⟩
  · rintro ⟨rfl, hrun⟩
    rcases column with _ | ⟨c, column⟩
    · exact absurd rfl hrun.ne_nil
    · have hc : c.isDigit := hrun.digits c List.mem_cons_self
      obtain ⟨htake, hdrop⟩ := hrun.takeWhile_eq
      simp only [List.cons_append, List.takeWhile_cons_of_pos hc, List.dropWhile_cons_of_pos hc,
        List.cons.injEq, true_and] at htake hdrop
      rw [List.cons_append, column?, if_pos hc, htake, hdrop]

theorem takeWhile_of_column? {t : List Char} (h : column? (':' :: t) = none) :
    t.takeWhile Char.isDigit = [] := by
  rcases t with _ | ⟨c, t⟩
  · rfl
  · by_cases hc : c.isDigit
    · simp [column?, hc] at h
    · exact List.takeWhile_cons_of_neg hc

end Runs

/-! ## The leftmost position -/

/-- A message names a position: its line behind `before`, its column in front of `behind`. -/
structure NamedAt (message before line column behind : List Char) : Prop where
  eq : message = before ++ line ++ ':' :: (column ++ behind)
  starts : before.getLast?.any Char.isDigit = false
  line : IsRun line (':' :: (column ++ behind))
  column : IsRun column behind

/-- What a position comes to: its numbers, if both fit a machine word, and the text behind it without
leading colons. -/
def answerAt (line column behind : List Char) : Option (ℕ × ℕ × List Char) :=
  if number line < wordLimit ∧ number column < wordLimit then
    some (number line, number column, behind.dropWhile (· == ':'))
  else none

/-- The answer is what the leftmost position comes to, or none if no position is named. -/
def Answers (message : List Char) (answer : Option (ℕ × ℕ × List Char)) : Prop :=
  (∀ before line column behind, ¬ NamedAt message before line column behind) ∧ answer = none ∨
    ∃ before line column behind, NamedAt message before line column behind ∧
      (∀ before' line' column' behind', NamedAt message before' line' column' behind' →
        before.length ≤ before'.length) ∧
      answer = answerAt line column behind

section Leftmost

variable {message front r before line column behind : List Char}

theorem NamedAt.append (h : NamedAt r before line column behind)
    (hfront : before = [] → front.getLast?.any Char.isDigit = false) :
    NamedAt (front ++ r) (front ++ before) line column behind where
  eq := by rw [h.eq]; simp
  starts := by
    rcases List.eq_nil_or_concat before with rfl | ⟨b, c, rfl⟩
    · rw [List.append_nil]
      exact hfront rfl
    · have hstarts := h.starts
      simp only [List.concat_eq_append, List.getLast?_append, List.getLast?_singleton,
        Option.some_or, ← List.append_assoc] at hstarts ⊢
      exact hstarts
  line := h.line
  column := h.column

theorem NamedAt.of_append (h : NamedAt (front ++ r) (front ++ before) line column behind) :
    NamedAt r before line column behind where
  eq := by
    have heq := h.eq
    simp only [List.append_assoc, List.append_cancel_left_eq] at heq
    rw [heq, List.append_assoc]
  starts := by
    have hstarts := h.starts
    rcases List.eq_nil_or_concat before with rfl | ⟨b, c, rfl⟩
    · rfl
    · simp only [List.concat_eq_append, List.getLast?_append, List.getLast?_singleton,
        Option.some_or, ← List.append_assoc] at hstarts ⊢
      exact hstarts
  line := h.line
  column := h.column

/-- A message that names a position at its start begins with a digit. -/
theorem NamedAt.any_head? (h : NamedAt r [] line column behind) : r.head?.any Char.isDigit := by
  rw [h.eq]
  rcases line with _ | ⟨c, line⟩
  · exact absurd rfl h.line.ne_nil
  · exact h.line.digits c List.mem_cons_self

/-- Text in front that no position begins in, and that does not run on into the message, does not
change the answer. -/
theorem Answers.append {answer : Option (ℕ × ℕ × List Char)} (h : Answers r answer)
    (hjoint : r.head?.any Char.isDigit = false ∨ front.getLast?.any Char.isDigit = false)
    (hfront : ∀ before line column behind, NamedAt (front ++ r) before line column behind →
      front <+: before) : Answers (front ++ r) answer := by
  rcases h with ⟨hnone, rfl⟩ | ⟨before, line, column, behind, hnamed, hleft, rfl⟩
  · refine .inl ⟨fun before line column behind hnamed => ?_, rfl⟩
    obtain ⟨b, rfl⟩ := hfront _ _ _ _ hnamed
    exact hnone _ _ _ _ hnamed.of_append
  · refine .inr ⟨front ++ before, line, column, behind, hnamed.append ?_, ?_, rfl⟩
    · rintro rfl
      exact hjoint.resolve_left (by simp [hnamed.any_head?])
    · intro before' line' column' behind' hnamed'
      obtain ⟨b, rfl⟩ := hfront _ _ _ _ hnamed'
      have hle := hleft _ _ _ _ hnamed'.of_append
      rw [List.length_append, List.length_append]
      omega

/-- No position begins in a run of digits that no colon and digit follow. -/
theorem NamedAt.prefix_of_isRun {run : List Char} (h : NamedAt (run ++ r) before line column behind)
    (hrun : IsRun run r) (hcolumn : column? r = none) : run <+: before := by
  have heq := h.eq
  rw [List.append_assoc] at heq
  rcases List.append_eq_append_iff.1 heq with ⟨b, rfl, -⟩ | ⟨b, hb, hrest⟩
  · exact List.prefix_append run b
  · rcases List.eq_nil_or_concat before with rfl | ⟨front, c, rfl⟩
    · -- the line would be this very run
      obtain rfl : b = run := hb.symm
      obtain ⟨htake, hdrop⟩ := hrun.takeWhile_eq
      obtain ⟨-, hdrop'⟩ := h.line.takeWhile_eq
      rw [← hrest, hdrop'] at hdrop
      have hsome : column? r = some (column, behind) :=
        column?_eq_some_iff.2 ⟨hdrop.symm, h.column⟩
      rw [hcolumn] at hsome
      cases hsome
    · have hdigit : c.isDigit := hrun.digits c (by simp [hb])
      have hstarts := h.starts
      simp [hdigit] at hstarts

theorem NamedAt.prefix_of_not_isDigit {c : Char} (h : NamedAt ([c] ++ r) before line column behind)
    (hc : c.isDigit = false) : [c] <+: before := by
  rcases before with _ | ⟨d, before⟩
  · have hhead := h.any_head?
    simp [hc] at hhead
  · obtain ⟨rfl, -⟩ := List.cons.inj h.eq
    exact List.prefix_append [c] before

theorem answerAt_eq (line column behind : List Char) :
    (do
      let n ← word? line
      let k ← word? column
      return (n, k, behind.dropWhile (· == ':'))) = answerAt line column behind := by
  unfold word? answerAt
  by_cases hline : number line < wordLimit
  · by_cases hcolumn : number column < wordLimit <;> simp [hline, hcolumn]
  · simp [hline]

/-- The search finds the leftmost position. -/
theorem answers_find? (message : List Char) : Answers message (find? message) := by
  fun_induction find? message with
  | case1 =>
    refine .inl ⟨fun before line column behind h => ?_, rfl⟩
    have heq := h.eq
    simp at heq
  | case2 c s hc column rest hcolumn =>
    obtain ⟨hrest, hcolumnRun⟩ := column?_eq_some_iff.1 hcolumn
    have hrun := isRun_cons hc s
    rw [answerAt_eq]
    refine .inr ⟨[], _, column, rest, ⟨?_, rfl, ?_, hcolumnRun⟩, fun _ _ _ _ _ => Nat.zero_le _, rfl⟩
    · rw [← hrest, List.nil_append, List.cons_append, List.takeWhile_append_dropWhile]
    · rw [← hrest]
      exact hrun
  | case3 c s hc hcolumn ih =>
    have hrun := isRun_cons hc s
    have h : Answers (c :: s.takeWhile Char.isDigit ++ s.dropWhile Char.isDigit) _ :=
      ih.append (.inl hrun.ends) fun _ _ _ _ hnamed => hnamed.prefix_of_isRun hrun hcolumn
    rwa [List.cons_append, List.takeWhile_append_dropWhile] at h
  | case4 c s hc ih =>
    rw [Bool.not_eq_true] at hc
    have h : Answers ([c] ++ s) _ :=
      ih.append (.inr hc) fun _ _ _ _ hnamed => hnamed.prefix_of_not_isDigit hc
    exact h

end Leftmost

/-! ## The search over bytes -/

/-- What the search does at a position. -/
inductive SearchMove where
  | stop (answer : Option (ℕ × ℕ × List Char))
  /-- The search goes on at byte `next`. -/
  | goOn (next : ℕ)

section Search

variable (s : List Char)

/-- Where the digits from byte `start` on end. -/
def digitsStop (start : ℕ) : ℕ :=
  start + (((utf8 s).drop start).takeWhile (ofAscii Char.isDigit)).length

/-- What the search does at a byte, unless it would cut a character.  It looks at a byte that is a
digit while the byte in front is none. -/
def searchMove? (pos : ℕ) : Option SearchMove :=
  match (utf8 s)[pos]? with
  | none => some (.stop none)
  | some b =>
    if !ofAscii Char.isDigit b ||
        0 < pos && (utf8 s)[pos - 1]?.any (ofAscii Char.isDigit) then some (.goOn (pos + 1))
    else
      let lineStop := digitsStop s pos
      let columnStop := digitsStop s (lineStop + 1)
      if (utf8 s)[lineStop]?.any (ofAscii (· == ':')) && lineStop + 1 < columnStop then do
        let line ← slice? pos lineStop s
        let column ← slice? (lineStop + 1) columnStop s
        let rest ← from? columnStop s
        return .stop (answerAt line column rest)
      else some (.goOn lineStop)

/-- The search comes from a byte to its answer, without a move that fails. -/
inductive Searches : ℕ → Option (ℕ × ℕ × List Char) → Prop where
  | stop {pos : ℕ} {answer : Option (ℕ × ℕ × List Char)}
    (h : searchMove? s pos = some (.stop answer)) : Searches pos answer
  | goOn {pos next : ℕ} {answer : Option (ℕ × ℕ × List Char)}
    (h : searchMove? s pos = some (.goOn next)) (rest : Searches next answer) :
    Searches pos answer

end Search

section Move

variable {s front r : List Char} {pos : ℕ}

theorem digitsStop_eq (hs : s = front ++ r) (hpos : pos = byteLength front) :
    digitsStop s pos = pos + byteLength (r.takeWhile Char.isDigit) := by
  rw [digitsStop, drop_utf8 hs hpos, takeWhile_utf8 isAscii_isDigit, length_utf8]

/-- The bytes of a character that is no digit are none. -/
theorem ofAscii_isDigit_of_mem {c : Char} (hc : c.isDigit = false) {b : UInt8}
    (hb : b ∈ String.utf8EncodeChar c) : ofAscii Char.isDigit b = false := by
  rcases utf8EncodeChar_cases c with ⟨b', hb', hclass⟩ | ⟨b', bs, hb', -, hnone⟩
  · rw [hb', List.mem_singleton] at hb
    rw [hb, hclass, hc]
  · rw [hb'] at hb
    exact hnone b hb _

/-- The bytes of a character in a text. -/
theorem exists_byte {c : Char} (hs : s = front ++ c :: r) {k : ℕ} (hk : k < c.utf8Size) :
    ∃ b ∈ String.utf8EncodeChar c, (utf8 s)[byteLength front + k]? = some b := by
  have hlt : k < (String.utf8EncodeChar c).length := by rwa [String.length_utf8EncodeChar]
  refine ⟨_, List.getElem_mem hlt, ?_⟩
  rw [getElem?_utf8 hs rfl, utf8_cons, List.getElem?_append_left hlt, List.getElem?_eq_getElem]

/-- Behind a text that does not end in a digit the byte in front is none. -/
theorem previous_eq_false (hs : s = front ++ r) (hfront : front.getLast?.any Char.isDigit = false) :
    (0 < byteLength front && (utf8 s)[byteLength front - 1]?.any (ofAscii Char.isDigit)) =
      false := by
  rcases List.eq_nil_or_concat front with rfl | ⟨l, c, rfl⟩
  · rfl
  · have hsize := Char.utf8Size_pos c
    have hc : c.isDigit = false := by simpa using hfront
    have hlength : byteLength (l.concat c) - 1 = byteLength l + (c.utf8Size - 1) := by
      rw [List.concat_eq_append, byteLength_append, byteLength_cons, byteLength_nil]
      omega
    have hs' : s = l ++ c :: r := by simp [hs]
    obtain ⟨b, hb, hbyte⟩ := exists_byte hs' (by omega : c.utf8Size - 1 < c.utf8Size)
    rw [hlength, hbyte, Option.any_some, ofAscii_isDigit_of_mem hc hb, Bool.and_false]

/-- The bytes of a character that is no digit are passed over. -/
theorem searches_of_not_isDigit {c : Char} {answer : Option (ℕ × ℕ × List Char)}
    (hs : s = front ++ c :: r) (hc : c.isDigit = false)
    (h : Searches s (byteLength (front ++ [c])) answer) : Searches s (byteLength front) answer := by
  -- the bytes are counted from the end of the character
  have hbytes (k : ℕ) (hk : k ≤ c.utf8Size) :
      Searches s (byteLength front + (c.utf8Size - k)) answer := by
    induction k with
    | zero =>
      rw [byteLength_append] at h
      exact h
    | succ k ih =>
      obtain ⟨b, hb, hbyte⟩ := exists_byte hs (by omega : c.utf8Size - (k + 1) < c.utf8Size)
      have hnext := ih (by omega)
      rw [show byteLength front + (c.utf8Size - k) = byteLength front + (c.utf8Size - (k + 1)) + 1 by
        omega] at hnext
      refine .goOn ?_ hnext
      rw [searchMove?, hbyte]
      simp [ofAscii_isDigit_of_mem hc hb]
  have hfirst := hbytes c.utf8Size le_rfl
  rwa [Nat.sub_self, Nat.add_zero] at hfirst

/-- At a run of digits the search looks behind it for a column. -/
theorem searchMove?_of_isRun {line behind : List Char} (hs : s = front ++ (line ++ behind))
    (hfront : front.getLast?.any Char.isDigit = false) (hline : IsRun line behind) :
    searchMove? s (byteLength front) =
      match column? behind with
      | some (column, rest) => some (.stop (answerAt line column rest))
      | none => some (.goOn (byteLength (front ++ line))) := by
  have hs' : s = (front ++ line) ++ behind := by rw [hs, List.append_assoc]
  obtain ⟨b, hb, hdigit⟩ : ∃ b, (utf8 s)[byteLength front]? = some b ∧ ofAscii Char.isDigit b := by
    rcases line with _ | ⟨c, line⟩
    · exact absurd rfl hline.ne_nil
    · have hc : c.isDigit := hline.digits c List.mem_cons_self
      obtain ⟨b, hb, hclass⟩ := exists_byte_of_isAscii isAscii_isDigit hc
      refine ⟨b, ?_, by rw [hclass, hc]⟩
      have hbyte := getElem?_utf8 hs rfl 0
      rwa [List.cons_append, utf8_cons, hb] at hbyte
  have hstop : digitsStop s (byteLength front) = byteLength (front ++ line) := by
    rw [digitsStop_eq hs rfl, hline.takeWhile_eq.1, byteLength_append]
  have hcolon : (utf8 s)[byteLength (front ++ line)]?.any (ofAscii (· == ':')) =
      behind.head?.any (· == ':') := by
    have hbyte := getElem?_utf8 hs' rfl 0
    rw [Nat.add_zero, ← List.head?_eq_getElem?] at hbyte
    rw [hbyte, any_head?_utf8 (isAscii_eq (by decide))]
  have hcolumnStop {t : List Char} (ht : behind = ':' :: t) :
      digitsStop s (byteLength (front ++ line) + 1) =
        byteLength (front ++ line) + 1 + byteLength (t.takeWhile Char.isDigit) := by
    have hsplit : s = front ++ line ++ [':'] ++ t := by simp [hs', ht]
    refine digitsStop_eq hsplit ?_
    rw [byteLength_append _ [':']]
    rfl
  rw [searchMove?, hb]
  simp only [hdigit, Bool.not_true, Bool.false_or, previous_eq_false hs hfront, hstop, hcolon]
  rw [if_neg Bool.false_ne_true]
  rcases hcolumn : column? behind with _ | ⟨column, rest⟩
  · refine if_neg fun h => ?_
    obtain ⟨hcolonHead, hlt⟩ := Bool.and_eq_true_iff.1 h
    rcases behind with _ | ⟨c, t⟩
    · cases hcolonHead
    · obtain rfl : c = ':' := beq_iff_eq.1 hcolonHead
      rw [decide_eq_true_iff, hcolumnStop rfl, takeWhile_of_column? hcolumn, byteLength_nil] at hlt
      exact lt_irrefl _ hlt
  · obtain ⟨rfl, hrun⟩ := column?_eq_some_iff.1 hcolumn
    have hcolumnEnd := hcolumnStop rfl
    rw [hrun.takeWhile_eq.1] at hcolumnEnd
    have hpos : 0 < byteLength column := by
      rcases column with _ | ⟨c, column⟩
      · exact absurd rfl hrun.ne_nil
      · have hsize := Char.utf8Size_pos c
        rw [byteLength_cons]
        omega
    have hsplit : s = front ++ line ++ [':'] ++ column ++ rest := by simp [hs']
    have hlength : byteLength (front ++ line ++ [':']) = byteLength (front ++ line) + 1 :=
      byteLength_append _ _
    have hcond : (((':' :: (column ++ rest)).head?.any (· == ':')) &&
        decide (byteLength (front ++ line) + 1 < digitsStop s (byteLength (front ++ line) + 1))) =
          true := by
      rw [hcolumnEnd, Bool.and_eq_true, decide_eq_true_iff]
      exact ⟨rfl, by omega⟩
    have hlineText : slice? (byteLength front) (byteLength (front ++ line)) s = some line :=
      slice?_eq_some_iff.2 ⟨front, _, hs', rfl, rfl⟩
    have hcolumnText : slice? (byteLength (front ++ line) + 1)
        (byteLength (front ++ line) + 1 + byteLength column) s = some column :=
      slice?_eq_some_iff.2 ⟨front ++ line ++ [':'], rest, hsplit, hlength, by
        rw [byteLength_append, hlength]⟩
    have hrestText : from? (byteLength (front ++ line) + 1 + byteLength column) s = some rest :=
      from?_eq_some_iff.2 ⟨_, hsplit, by rw [byteLength_append, hlength]⟩
    rw [if_pos hcond, hlineText, hcolumnEnd, hcolumnText, hrestText]
    rfl

/-- From a joint that no run of digits goes across, the search comes to the answer of the text behind
it. -/
theorem searches_from {front r : List Char} (hs : s = front ++ r)
    (hjoint : r.head?.any Char.isDigit = false ∨ front.getLast?.any Char.isDigit = false) :
    Searches s (byteLength front) (find? r) := by
  fun_induction find? r generalizing front with
  | case1 =>
    refine .stop ?_
    have hnone : (utf8 s)[byteLength front]? = none := by
      rw [List.getElem?_eq_none_iff, length_utf8, hs, List.append_nil]
    rw [searchMove?, hnone]
  | case2 c r hc column rest hcolumn =>
    have hfront := hjoint.resolve_left (by simp [hc])
    have hline : s = front ++ (c :: r.takeWhile Char.isDigit ++ r.dropWhile Char.isDigit) := by
      rw [hs, List.cons_append, List.takeWhile_append_dropWhile]
    have hmove := searchMove?_of_isRun hline hfront (isRun_cons hc r)
    rw [hcolumn] at hmove
    rw [answerAt_eq]
    exact .stop hmove
  | case3 c r hc hcolumn ih =>
    have hfront := hjoint.resolve_left (by simp [hc])
    have hline : s = front ++ (c :: r.takeWhile Char.isDigit ++ r.dropWhile Char.isDigit) := by
      rw [hs, List.cons_append, List.takeWhile_append_dropWhile]
    have hmove := searchMove?_of_isRun hline hfront (isRun_cons hc r)
    rw [hcolumn] at hmove
    exact .goOn hmove (ih (by rw [hline, List.append_assoc]) (.inl (any_head?_dropWhile r)))
  | case4 c r hc ih =>
    rw [Bool.not_eq_true] at hc
    refine searches_of_not_isDigit hs hc (ih (by simp [hs]) (.inr ?_))
    simp [hc]

/-- The search over the bytes of a message comes to its answer. -/
theorem searches_find? (message : List Char) : Searches message 0 (find? message) := by
  have hstart : message = [] ++ message := rfl
  exact searches_from hstart (.inr rfl)

/-- What the search does at a byte is determined, and so is its answer. -/
theorem Searches.unique {a b : Option (ℕ × ℕ × List Char)} (h : Searches s pos a)
    (h' : Searches s pos b) : a = b := by
  induction h with
  | stop h =>
    cases h' with
    | stop h' =>
      cases h.symm.trans h'
      rfl
    | goOn h' => simp [h] at h'
  | goOn h _ ih =>
    cases h' with
    | stop h' => simp [h] at h'
    | goOn h' rest =>
      cases h.symm.trans h'
      exact ih rest

theorem searches_iff {message : List Char} {answer : Option (ℕ × ℕ × List Char)} :
    Searches message 0 answer ↔ answer = find? message :=
  ⟨fun h => h.unique (searches_find? message), fun h => h ▸ searches_find? message⟩

end Move

/-! ## Written positions -/

section Written

variable {before line behind : List Char}

theorem number_ofNat (n : ℕ) : number (Decimal.ofNat n) = n := by
  have hfold : number (Decimal.ofNat n) = Nat.ofDigitChars 10 (Decimal.ofNat n) 0 := by
    simp only [number, Nat.ofDigitChars, Nat.mul_comm 10]
    rfl
  rw [hfold]
  exact Nat.ofDigitChars_ten_toDigits

theorem isRun_ofNat (n : ℕ) (h : behind.head?.any Char.isDigit = false) :
    IsRun (Decimal.ofNat n) behind where
  ne_nil := Nat.toDigits_ne_nil
  digits := fun _ hc => Nat.isDigit_of_mem_toDigits (by decide) (by decide) hc
  ends := h

theorem find?_append (hbefore : ∀ c ∈ before, c.isDigit = false) (r : List Char) :
    find? (before ++ r) = find? r := by
  induction before with
  | nil => rfl
  | cons c before ih =>
    obtain ⟨hc, hrest⟩ := List.forall_mem_cons.1 hbefore
    rw [List.cons_append, find?, if_neg (by simp [hc]), ih hrest]

theorem find?_of_isRun {column rest : List Char} (hline : IsRun line behind)
    (hcolumn : column? behind = some (column, rest)) :
    find? (line ++ behind) = answerAt line column rest := by
  obtain ⟨htake, hdrop⟩ := hline.takeWhile_eq
  rcases line with _ | ⟨c, line⟩
  · exact absurd rfl hline.ne_nil
  · have hc : c.isDigit := hline.digits c List.mem_cons_self
    simp only [List.cons_append, List.takeWhile_cons_of_pos hc, List.dropWhile_cons_of_pos hc,
      List.cons.injEq, true_and] at htake hdrop
    rw [List.cons_append, find?, if_pos hc, htake, hdrop, hcolumn]
    exact answerAt_eq _ _ _

theorem find?_written (hbefore : ∀ c ∈ before, c.isDigit = false) {n k : ℕ} (hn : n < wordLimit)
    (hk : k < wordLimit) (text : List Char) :
    find? (before ++ Decimal.ofNat n ++ [':'] ++ Decimal.ofNat k ++ ": ".toList ++ text) =
      some (n, k, ' ' :: text) := by
  have hcolumn : IsRun (Decimal.ofNat k) (':' :: ' ' :: text) := isRun_ofNat k rfl
  have hline : IsRun (Decimal.ofNat n) (':' :: (Decimal.ofNat k ++ ':' :: ' ' :: text)) :=
    isRun_ofNat n rfl
  have hfind := find?_of_isRun hline (column?_eq_some_iff.2 ⟨rfl, hcolumn⟩)
  have hmessage : before ++ Decimal.ofNat n ++ [':'] ++ Decimal.ofNat k ++ ": ".toList ++ text =
      before ++ (Decimal.ofNat n ++ ':' :: (Decimal.ofNat k ++ ':' :: ' ' :: text)) := by simp
  rw [hmessage, find?_append hbefore, hfind, answerAt, number_ofNat, number_ofNat, if_pos ⟨hn, hk⟩]
  rfl

theorem trim_cons_space (text : List Char) : trim (' ' :: text) = trim text := by
  have hspace : isBlank ' ' := by decide
  rw [trim, trimStart, List.dropWhile_cons_of_pos hspace]
  rfl

/-- The search over the bytes of a message ends, without cutting a character, with what the leftmost
position in the message comes to.  So a message that names a position behind a text without digits
becomes a diagnostic with this position and the text behind it, and with an excerpt if the line is
one of the source. -/
theorem finds_leftmost :
    (∀ message answer, Searches message 0 answer ↔ answer = find? message) ∧
    (∀ message, Answers message (find? message)) ∧
    ∀ (stage : Stage) (before text source : List Char) (line column : ℕ),
      (∀ c ∈ before, c.isDigit = false) → line < wordLimit → column < wordLimit →
      Diagnostic.ofMessage stage (before ++ Decimal.ofNat line ++ [':'] ++ Decimal.ofNat column ++
          ": ".toList ++ text) source =
        ⟨stage, some line, some column, trim text, Excerpt.ofSource? source line⟩ ∧
      ((Excerpt.ofSource? source line).isSome ↔ 1 ≤ line ∧ line ≤ (lines source).length) := by
  refine ⟨fun _ _ => searches_iff, answers_find?, ?_⟩
  intro stage before text source line column hbefore hline hcolumn
  refine ⟨?_, Excerpt.isSome_ofSource?_iff source line⟩
  rw [Diagnostic.ofMessage, find?_written hbefore hline hcolumn]
  dsimp only
  rw [trim_cons_space]

/-- A message about the second of two lines. -/
theorem finds_leftmost_secondLine :
    Diagnostic.ofMessage .fragment "ERROR: 2:7: unknown name ".toList "a\nb".toList =
        ⟨.fragment, some 2, some 7, "unknown name".toList,
          some "   1 | a\n-> 2 | b".toList⟩ ∧
      (Excerpt.ofSource? "a\nb".toList 2).isSome := by
  have hall : "ERROR: ".toList.all fun c => c.isDigit == false := by decide
  have hbefore : ∀ c ∈ "ERROR: ".toList, c.isDigit = false := fun c hc =>
    beq_iff_eq.1 (List.all_eq_true.1 hall c hc)
  have h := finds_leftmost.2.2 .fragment "ERROR: ".toList "unknown name ".toList "a\nb".toList 2 7
    hbefore (by decide) (by decide)
  have hsome : (Excerpt.ofSource? "a\nb".toList 2).isSome := h.2.2 ⟨by decide, by decide⟩
  refine ⟨h.1.trans ?_, hsome⟩
  decide

end Written

end Position

end ShaderPreview
