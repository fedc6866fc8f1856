import ShaderPreview.Proofs.Shader.Runs
import ShaderPreview.Proofs.Shader.Seam
import ShaderPreview.Proofs.Text.Literal

/-!
# Lines that are left over

Stripping is meant to leave no line outside comments that would be stripped itself (`StripsAll`).
Two kinds of lines stay without having been looked at: the text behind a declaration that is
stripped, and lines that begin in a block comment of the source.  Stripping is complete exactly if
none of the former, and none of the latter that lost its comment, is such a line; where removed
lines leave no comment open only the former matter (`stripsAll_reassembled_iff`).
-/

namespace ShaderPreview

namespace Shader

open Text

/-- The line would be stripped if it were met outside comments. -/
def isStrippable (line : List Char) : Bool :=
  isHeaderDirective (trimStart line) || (afterRedeclaration? (trimStart line)).isSome

/-- No line of the text that begins outside block comments would be stripped. -/
def StripsAll (s : List Char) : Prop :=
  ∀ front l back, lines s = front ++ l :: back → commentOpenBehind false front = false →
    isStrippable l = false

/-! ## What follows a line -/

theorem afterPrefix?_append {w s t : List Char} (h : afterPrefix? w s = some t) (u : List Char) :
    afterPrefix? w (s ++ u) = some (t ++ u) := by
  rw [afterPrefix?, Option.ite_none_right_eq_some, Option.some.injEq] at h
  obtain ⟨hstarts, rfl⟩ := h
  obtain ⟨r, rfl⟩ := List.isPrefixOf_iff_prefix.1 hstarts
  simp [afterPrefix?]

theorem isHeaderDirective_append {line w : List Char} (hw : ∀ c ∈ w, isBlank c)
    (h : isHeaderDirective line) : isHeaderDirective (line ++ w) := by
  rw [isHeaderDirective, Bool.or_eq_true] at h ⊢
  rw [directive?_append line hw]
  refine h.imp_right fun h => ?_
  split at h
  · rename_i c t hstarts
    rw [afterPrefix?_append hstarts w]
    exact h
  · cases h

/-- The pieces up to a `;` are the same whatever follows the text. -/
theorem exists_pieces_append {s : List Char} {ps qs : List Piece} {p : Piece}
    (h : pieces s = ps ++ p :: qs) (hp : p.kind = .token (.mark ';')) (w : List Char) :
    ∃ qs', pieces (s ++ w) = ps ++ p :: qs' := by
  induction ps generalizing s with
  | nil =>
    have htext : p.text = [';'] := text_of_mem_pieces_mark (s := s) (by simp [h]) hp
    have hs : s = ';' :: qs.flatMap Piece.text := by rw [← text_pieces s, h]; simp [htext]
    have hp : p = ⟨.token (.mark ';'), [';']⟩ := by rw [← hp, ← htext]
    have hnext (u : List Char) : Piece.next? (';' :: u) = some (p, u) := by rw [hp]; rfl
    rw [hs]
    exact ⟨_, pieces_eq_cons (hnext _)⟩
  | cons q ps ih =>
    rcases hnext : Piece.next? s with _ | ⟨q', r⟩
    · rw [Piece.eq_nil_of_next? hnext, pieces_nil] at h
      cases h
    · rw [pieces_eq_cons hnext] at h
      obtain rfl : q' = q := (List.cons.inj h).1
      have hr : pieces r = ps ++ p :: qs := (List.cons.inj h).2
      obtain ⟨qs', hqs'⟩ := ih hr
      have hne : r ≠ [] := by
        rintro rfl
        rw [pieces_nil] at hr
        simp at hr
      have hcut : Piece.next? (q'.text ++ (r ++ w)) = some (q', r ++ w) :=
        next?_text_append hnext fun c hc => .inl (by rwa [List.head?_append_of_ne_nil r hne] at hc)
      refine ⟨qs', ?_⟩
      rw [← Piece.next?_append hnext, List.append_assoc, pieces_eq_cons hcut, hqs',
        List.cons_append]

/-- A declaration at the start of a line is found whatever follows the line. -/
theorem redeclarationEnd?_append {line : List Char} {n : Nat} (h : redeclarationEnd? line = some n)
    (w : List Char) : redeclarationEnd? (line ++ w) = some n := by
  obtain ⟨xs, t, ys, hts, ht, -, hends⟩ := exists_of_redeclarationEnd? h
  obtain ⟨before, p, after, hp, hk, htext, hstart, hafter⟩ := exists_piece_of_tokensFrom hts
  obtain ⟨qs, hqs⟩ := exists_pieces_append hp (by rw [hk, ht]) w
  have hpiece (zs : List Piece) :
      tokensFrom (0 + byteLength (before.flatMap Piece.text)) (p :: zs) =
        t :: tokensFrom t.stop zs := by
    rw [tokensFrom, hk, hstart, htext]
    rfl
  have hbefore : tokensFrom 0 before = xs := by
    rw [tokens, hp, tokensFrom_append, hpiece, hafter] at hts
    exact List.append_cancel_right hts
  refine hends (line ++ w) (tokensFrom t.stop qs) ?_
  rw [tokens, hqs, tokensFrom_append, hpiece, hbefore]

theorem isStrippable_of_isAllBlank {line : List Char} (h : isAllBlank line) :
    isStrippable line = false := by
  have hnil : trimStart line = [] := List.dropWhile_eq_nil_iff.2 (List.all_eq_true.1 h)
  rw [isStrippable, hnil]
  decide +kernel

theorem isStrippable_of_dropReturn {line : List Char} (h : isStrippable (dropReturn line)) :
    isStrippable line := by
  rcases eq_or_append_dropReturn line with hline | hline
  · rwa [← hline] at h
  set k := dropReturn line
  have hblank : ∀ c ∈ ['\r'], isBlank c := List.all_eq_true.1 rfl
  have hk : ¬ k.all isBlank := fun hall => by simp [isStrippable_of_isAllBlank hall] at h
  have htrim : trimStart (k ++ ['\r']) = trimStart k ++ ['\r'] := by
    rw [trimStart, dropWhile_isBlank_append k hblank, if_neg hk]
    rfl
  rw [hline, isStrippable, htrim, Bool.or_eq_true]
  rw [isStrippable, Bool.or_eq_true] at h
  refine h.imp (isHeaderDirective_append hblank) fun h => ?_
  rw [afterRedeclaration?, Option.isSome_map] at h ⊢
  obtain ⟨n, hn⟩ := Option.isSome_iff_exists.1 h
  rw [redeclarationEnd?_append hn]
  rfl

theorem append_singleton_ne {b d : Char} (hd : d ≠ b) {s : List Char} (h : ∀ u, s = d :: u → False)
    (u : List Char) : s ++ [b] = d :: u → False := by
  intro hu
  rcases s with _ | ⟨c, s⟩
  · exact hd (List.cons.inj hu).1.symm
  · exact h s (by rw [(List.cons.inj hu).1])

/-- White space at the end of a line neither opens nor closes a comment. -/
theorem endsInComment_append_blank {b : Char} (hb : isBlank b) (m : LineMode) (s : List Char) :
    m.endsInComment (s ++ [b]) = m.endsInComment s := by
  have hslash := slash_quote_of_class hb rfl rfl rfl
  have hstar : '*' ≠ b := by
    rintro rfl
    cases hb
  have hcode : LineMode.code.endsInComment [b] = false :=
    endsInComment_append (w := [b]) [] (by simpa using hslash)
  -- a backslash that takes no character along is the last one
  have backslash {c : Char} {s : List Char} (hc : c = '\\')
      (hnot : ∀ d u, c = '\\' → s = d :: u → False) : s = [] := by
    rcases s with _ | ⟨d, s⟩
    · rfl
    · exact (hnot d s hc rfl).elim
  fun_induction LineMode.endsInComment m s with
  | case1 =>
    rw [List.nil_append, LineMode.endsInComment.eq_3 _ _ fun _ _ h => by cases h]
    rfl
  | case2 s ih => exact ih
  | case3 c s hnot ih =>
    rw [List.cons_append, LineMode.endsInComment.eq_3 _ _ fun u hc hu =>
      append_singleton_ne hslash.1.symm (fun u => hnot u hc) u hu]
    exact ih
  | case4 => exact hcode
  | case5 => rfl
  | case6 s ih => exact ih
  | case7 c s hline hblock hq ih =>
    rw [List.cons_append, LineMode.endsInComment.eq_7 _ _
      (fun u hc hu => append_singleton_ne hslash.1.symm (fun u => hline u hc) u hu)
      (fun u hc hu => append_singleton_ne hstar (fun u => hblock u hc) u hu), if_pos hq]
    exact ih
  | case8 c s hline hblock hq ih =>
    rw [List.cons_append, LineMode.endsInComment.eq_7 _ _
      (fun u hc hu => append_singleton_ne hslash.1.symm (fun u => hline u hc) u hu)
      (fun u hc hu => append_singleton_ne hstar (fun u => hblock u hc) u hu), if_neg hq]
    exact ih
  | case9 q =>
    rw [List.nil_append, LineMode.endsInComment.eq_10 _ _ _ fun _ _ _ h => by cases h]
    split <;> rfl
  | case10 q d s ih => exact ih
  | case11 c s hnot ih =>
    by_cases hback : c = '\\'
    · rw [backslash hback hnot, hback]
      rfl
    · rw [List.cons_append, LineMode.endsInComment.eq_10 _ _ _ fun _ _ h => absurd h hback,
        if_pos rfl]
      exact ih
  | case12 q c s hnot hc ih =>
    by_cases hback : c = '\\'
    · rw [backslash hback hnot, hback]
      rfl
    · rw [List.cons_append, LineMode.endsInComment.eq_10 _ _ _ fun _ _ h => absurd h hback,
        if_neg hc]
      exact ih

/-- A carriage return at the end of a line neither opens nor closes a comment. -/
theorem commentOpenAfter_dropReturn (l : List Char) (isOpen : Bool) :
    commentOpenAfter (dropReturn l) isOpen = commentOpenAfter l isOpen := by
  rcases eq_or_append_dropReturn l with h | h
  · rw [← h]
  · conv_rhs => rw [h]
    exact (endsInComment_append_blank rfl _ _).symm

theorem commentOpenBehind_map_dropReturn (isOpen : Bool) (ls : List (List Char)) :
    commentOpenBehind isOpen (ls.map dropReturn) = commentOpenBehind isOpen ls := by
  rw [commentOpenBehind, List.foldl_map]
  simp only [commentOpenAfter_dropReturn]
  rfl

/-! ## What is left over -/

namespace Run

/-- The line of a run that stays without having been looked at, given whether it begins in a block
comment: it does, or it is the text behind a declaration. -/
def unchecked? (isOpen : Bool) : Run → Option (List Char)
  | kept line => if isOpen then some line else none
  | redeclaration _ rest => if isAllBlank rest then none else some rest
  | _ => none

/-- Nothing of the lines of the run stays, whatever they hold. -/
def isRemoved : Run → Bool
  | header _ => true
  | definition _ _ => true
  | _ => false

/-- The lines of a run and what stays of it leave the same comments open. -/
theorem IsMet.commentOpenBehind_remains? {isOpen : Bool} {behind : List (List Char)} {r : Run}
    (h : r.IsMet isOpen behind) (hl : ∀ l ∈ r.lines, '\n' ∉ l)
    (hclose : r.isRemoved → commentOpenBehind false r.lines = false) :
    commentOpenBehind isOpen r.remains?.toList = commentOpenBehind isOpen r.lines := by
  cases h with
  | kept => rfl
  | header hin => rw [hin, hclose rfl]; rfl
  | @redeclaration line rest hin hr =>
    obtain ⟨-, hsame⟩ :=
      commentOpenAfter_of_afterRedeclaration? (hl line List.mem_cons_self) hr
    rw [hin, remains?]
    change _ = commentOpenAfter line false
    rw [← hsame]
    by_cases hblank : isAllBlank rest
    · rw [if_pos hblank, commentOpenAfter_of_isAllBlank hblank]
      rfl
    · rw [if_neg hblank]
      rfl
  | definition hin => rw [hin, hclose rfl]; rfl

/-- A line of a run that stays and would be stripped has not been looked at. -/
theorem IsMet.mem_unchecked?_of_isStrippable {isOpen : Bool} {behind : List (List Char)} {r : Run}
    {l : List Char} (h : r.IsMet isOpen behind) (hl : l ∈ r.remains?) (hs : isStrippable l) :
    l ∈ r.unchecked? isOpen := by
  cases h with
  | @kept line hkept =>
    cases hl
    rcases isOpen with _ | _
    · obtain ⟨hheader, hredeclaration⟩ := hkept rfl
      simp [isStrippable, hheader, hredeclaration] at hs
    · rfl
  | header => cases hl
  | redeclaration => exact hl
  | definition => cases hl

theorem mem_remains?_of_mem_unchecked? {isOpen : Bool} {r : Run} {l : List Char}
    (h : l ∈ r.unchecked? isOpen) : l ∈ r.remains? := by
  cases r with
  | kept line => cases isOpen <;> simp_all [unchecked?, remains?]
  | header => cases h
  | redeclaration => exact h
  | definition => cases h

end Run

/-- The removed lines of a source leave no block comment open. -/
def RemovedRunsClose (source : List Char) : Prop :=
  ∀ r ∈ runs source, r.isRemoved → commentOpenBehind false r.lines = false

instance (source : List Char) : Decidable (RemovedRunsClose source) :=
  inferInstanceAs (Decidable (∀ r ∈ runs source, _))

/-- Where removed lines leave no comment open, the comments in what stays are those of the
source. -/
theorem Turns.commentOpenBehind_remains? {st : LineState} {ls : List (List Char)} {rs : List Run}
    (h : Turns st ls rs) (hl : ∀ l ∈ ls, '\n' ∉ l)
    (hclose : ∀ r ∈ rs, r.isRemoved → commentOpenBehind false r.lines = false)
    {front back : List Run} (hrs : rs = front ++ back) :
    commentOpenBehind st.inComment (front.filterMap Run.remains?) =
      commentOpenBehind st.inComment (front.flatMap Run.lines) := by
  induction h generalizing front with
  | nil =>
    obtain ⟨rfl, -⟩ := List.append_eq_nil_iff.1 hrs.symm
    rfl
  | @cons st st' ls behind r rs turn rest ih =>
    rcases front with _ | ⟨r', front⟩
    · rfl
    · obtain ⟨rfl, rfl⟩ := List.cons.inj hrs
      obtain ⟨hr, hclose⟩ := List.forall_mem_cons.1 hclose
      rw [turn.lines_eq, List.forall_mem_append] at hl
      have ih := ih hl.2 hclose rfl
      rw [turn.inComment_eq] at ih
      have hrun := turn.isMet.commentOpenBehind_remains? hl.1 hr
      rw [List.filterMap_eq_flatMap_toList, List.flatMap_cons, commentOpenBehind_append, hrun,
        ← List.filterMap_eq_flatMap_toList, ih, List.flatMap_cons, commentOpenBehind_append]

/-! ## Whether stripping is complete -/

/-- The lines of what stays are looked at run by run. -/
theorem stripsAll_keptText_iff (source : List Char) :
    StripsAll (keptText (fates source)) ↔ ∀ front r back, runs source = front ++ r :: back →
      commentOpenBehind false (front.filterMap Run.remains?) = false →
        ∀ l ∈ r.remains?, isStrippable (dropReturn l) = false := by
  have hlines : lines (keptText (fates source)) =
      ((runs source).filterMap Run.remains?).map dropReturn := by
    rw [keptText_fates]
    refine lines_unlines fun l hl => ?_
    rw [← filterMap_remains?_flatMap_fates, fates_runs] at hl
    obtain ⟨line, hline, hsuffix⟩ := exists_suffix_of_mem_remains hl
    exact fun hc => newline_not_mem_of_mem_lines hline (hsuffix.mem hc)
  rw [StripsAll, hlines]
  constructor
  · intro h front r back hr hclosed l hl
    refine h ((front.filterMap Run.remains?).map dropReturn) (dropReturn l)
      ((back.filterMap Run.remains?).map dropReturn) ?_ ?_
    · rw [hr, List.filterMap_append, List.filterMap_cons_some hl, List.map_append, List.map_cons]
    · rw [commentOpenBehind_map_dropReturn, hclosed]
  · intro h front l back hl hclosed
    obtain ⟨ls, ls', hls, rfl, hback⟩ := List.map_eq_append_iff.1 hl
    obtain ⟨line, ls', rfl, rfl, rfl⟩ := List.map_eq_cons_iff.1 hback
    obtain ⟨rs, rs', hrs, rfl, hrs'⟩ := List.filterMap_eq_append_iff.1 hls
    obtain ⟨dropped, r, rest, rfl, hdropped, hr, rfl⟩ := List.filterMap_eq_cons_iff.1 hrs'
    refine h (rs ++ dropped) r rest (by rw [hrs, List.append_assoc]) ?_ line hr
    rw [commentOpenBehind_map_dropReturn] at hclosed
    rw [List.filterMap_append, List.filterMap_eq_nil_iff.2 hdropped, List.append_nil, hclosed]

/-- Only runs that were not looked at can leave a line over. -/
theorem stripsAll_keptText_iff_unchecked (source : List Char) :
    StripsAll (keptText (fates source)) ↔ ∀ front r back, runs source = front ++ r :: back →
      commentOpenBehind false (front.filterMap Run.remains?) = false →
        ∀ l ∈ r.unchecked? (commentOpenBehind false (front.flatMap Run.lines)),
          isStrippable (dropReturn l) = false := by
  rw [stripsAll_keptText_iff]
  constructor
  · intro h front r back hr hclosed l hl
    exact h front r back hr hclosed l (Run.mem_remains?_of_mem_unchecked? hl)
  · intro h front r back hr hclosed l hl
    by_contra hs
    rw [Bool.not_eq_false] at hs
    have hmet := isMet_runs hr
    have hunchecked :=
      hmet.mem_unchecked?_of_isStrippable hl (isStrippable_of_dropReturn hs)
    rw [h front r back hr hclosed l hunchecked] at hs
    cases hs

/-- Stripping is complete exactly if nothing that stays outside comments without having been looked
at would be stripped; where removed lines leave no comment open, that is the text behind
declarations alone. -/
theorem stripsAll_reassembled_iff {source : List Char} {a : Assembly}
    (h : Assembly.ofSource source = .ok a) :
    (StripsAll a.reassembled ↔ ∀ front r back, runs source = front ++ r :: back →
      commentOpenBehind false (front.filterMap Run.remains?) = false →
        ∀ l ∈ r.unchecked? (commentOpenBehind false (front.flatMap Run.lines)),
          isStrippable (dropReturn l) = false) ∧
      (RemovedRunsClose source →
        (StripsAll a.reassembled ↔
          ∀ line rest, .redeclaration line rest ∈ runs source →
            isStrippable (dropReturn rest) = false)) := by
  have hparts : a.reassembled = keptText (fates source) := (parts_of_ofSource h).2.1.symm
  rw [hparts]
  refine ⟨stripsAll_keptText_iff_unchecked source, fun hclose => ?_⟩
  have hsame {front back : List Run} (hr : runs source = front ++ back) :
      commentOpenBehind false (front.filterMap Run.remains?) =
        commentOpenBehind false (front.flatMap Run.lines) :=
    (turns_runs source).commentOpenBehind_remains?
      (fun l hl => newline_not_mem_of_mem_lines hl) hclose hr
  rw [stripsAll_keptText_iff_unchecked]
  constructor
  · intro h line rest hmem
    obtain ⟨front, back, hr⟩ := List.append_of_mem hmem
    by_cases hblank : isAllBlank rest
    · by_contra hs
      rw [Bool.not_eq_false] at hs
      have hrest := isStrippable_of_dropReturn hs
      rw [isStrippable_of_isAllBlank hblank] at hrest
      cases hrest
    · cases isMet_runs hr with
      | redeclaration hin =>
        refine h front _ back hr ((hsame hr).trans hin) rest ?_
        exact if_neg hblank
  · intro h front r back hr hclosed l hl
    rw [← hsame hr, hclosed] at hl
    cases r with
    | kept line => cases hl
    | header line => cases hl
    | redeclaration line rest =>
      rw [Run.unchecked?, Option.mem_def, Option.ite_none_left_eq_some, Option.some.injEq] at hl
      obtain ⟨-, rfl⟩ := hl
      exact h line rest (by rw [hr]; simp)
    | definition first continued => cases hl

/-- A source with a declaration that code follows, and a header directive in a comment. -/
def restatedSource : List Char :=
  unlines (["#version 300 es", "uniform float iTime; float x;", "#define K \\", "1", "/*",
    "precision highp float;", "*/ void mainImage(out vec4 c,", "in vec2 p) \x7b \x7d"].map
      String.toList)

theorem stripsAll_reassembled_iff_restatedSource :
    RemovedRunsClose restatedSource ∧
      ∃ a, Assembly.ofSource restatedSource = .ok a ∧ StripsAll a.reassembled := by
  obtain ⟨hclose, hrest, hok⟩ : RemovedRunsClose restatedSource ∧
      ((runs restatedSource).all fun r =>
        match r with
        | .redeclaration _ rest => !isStrippable (dropReturn rest)
        | _ => true) ∧
      (Assembly.ofSource restatedSource).isOk := by
    unfold restatedSource
    repeat rw [map_toList_cons]
    decide +kernel
  obtain ⟨a, h⟩ := exists_of_isOk hok
  refine ⟨hclose, a, h, ((stripsAll_reassembled_iff h).2 hclose).2 fun line rest hr => ?_⟩
  simpa using List.all_eq_true.1 hrest _ hr

/-- A source with two declarations on one line. -/
def pairedSource : List Char :=
  unlines (["uniform float iTime; uniform float iTimeDelta;", "void mainImage(out vec4 c,",
    "in vec2 p) \x7b c = vec4(iTime + iTimeDelta); \x7d"].map String.toList)

/-- The second of two declarations on one line stays. -/
theorem not_stripsAll_pairedSource :
    ∃ a, Assembly.ofSource pairedSource = .ok a ∧ ¬ StripsAll a.reassembled := by
  have hfirst : (Assembly.ofSource pairedSource).toOption.map
      (fun a => (lines a.reassembled).head?.map isStrippable) = some (some true) := by
    unfold pairedSource
    repeat rw [map_toList_cons]
    decide +kernel
  obtain ⟨a, h, hstrippable⟩ := exists_of_map_toOption hfirst
  refine ⟨a, h, fun hall => ?_⟩
  obtain ⟨l, hl, hs⟩ := Option.map_eq_some_iff.1 hstrippable
  obtain ⟨ls, hls⟩ := List.head?_eq_some_iff.1 hl
  rw [hall [] l ls hls rfl] at hs
  cases hs

end Shader

end ShaderPreview
