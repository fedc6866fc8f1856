import ShaderPreview.Proofs.Number.Magnitude
import ShaderPreview.Proofs.Settings.Sensible

/-!
# Texts without an answer

A configuration text gives settings or is refused, with one exception: where its reading comes to a
span of time that has no answer.  A number of seconds has none from `2 ^ 64` on, and of the numbers
no other is without one; words have none where the reader of words has none.  All of this holds
whatever readers are at work (`read_endless_or_sensible`).
-/

namespace ShaderPreview

namespace Settings

/-! ## Spans -/

/-- There is no answer to the value. -/
inductive SpanValue.IsEndless (words : WordsReader) : SpanValue → Prop where
  | float {x : Float} (hx : x.isFinite) (hle : 18446744073709551616.0 ≤ x) :
    IsEndless words (.float x)
  | words {s : List Char} (hs : words s = none) : IsEndless words (.words s)

theorem SpanValue.read_float_eq_none_iff (words : WordsReader) (x : Float) :
    (SpanValue.float x).read words = none ↔ x.isFinite ∧ 18446744073709551616.0 ≤ x := by
  unfold SpanValue.read
  by_cases hx : x.isFinite
  · rcases hn : Exact.isNegative x with _ | _
    · rw [← Span.ofSeconds?_eq_none_iff hx hn]
      simp [hx, hn]
    · simp [hx, Span.secondsLimit_le_iff hx, hn]
  · simp [hx]

theorem SpanValue.read_eq_none_iff (words : WordsReader) (v : SpanValue) :
    v.read words = none ↔ v.IsEndless words := by
  cases v with
  | words s =>
    have hread : (SpanValue.words s).read words = none ↔ words s = none := Option.map_eq_none_iff
    exact hread.trans ⟨.words, fun | .words hs => hs⟩
  | float x =>
    rw [SpanValue.read_float_eq_none_iff]
    exact ⟨fun h => .float h.1 h.2, fun | .float hx hle => ⟨hx, hle⟩⟩
  | _ => exact iff_of_false (by simp [SpanValue.read]) nofun

/-! ## Readings -/

/-- A reading comes to no end if and only if it hands over a value that has no answer. -/
theorem Reading.run_eq_none_iff {ε α : Type} (words : WordsReader) (c : Reading ε α) :
    c.run words = none ↔ ∃ v ∈ c.spans words, v.IsEndless words := by
  induction c with
  | refused e => simp [run, spans]
  | given a => simp [run, spans]
  | span v next ih =>
    rw [run, spans]
    simp only [List.exists_mem_cons_iff]
    rcases hv : v.read words with _ | r
    · exact iff_of_true rfl (.inl ((v.read_eq_none_iff words).1 hv))
    · have hanswered : ¬ v.IsEndless words := fun h => by
        rw [(v.read_eq_none_iff words).2 h] at hv
        cases hv
      rw [or_iff_right hanswered]
      exact ih r

/-! ## Texts -/

/-- A text has no answer if and only if its reading hands over a value for a span that has none.  Any
other text is refused or gives settings, and these make sense. -/
theorem read_endless_or_sensible {ε : Type} (reader : TextReader ε) (words : WordsReader)
    (t : List Char) :
    (read reader words t = none ↔ ∃ v ∈ (reader t).spans words, v.IsEndless words) ∧
      ∀ s, read reader words t = some (.ok s) → s.IsSensible := by
  refine ⟨?_, fun s => isSensible_of_read⟩
  rw [← Reading.run_eq_none_iff]
  exact Option.map_eq_none_iff

/-- A configuration with a span in seconds and one in words. -/
def spannedText : List Char :=
  ("version = 1\n[telemetry]\ntarget_interval = 0.02\n" ++
    "[playback]\nfrozen_time = \"1h 30min\"\n").toList

/-- A configuration with a span of `10 ^ 20` seconds. -/
def endlessText : List Char := "version = 1\n[playback]\nfrozen_time = 1e20\n".toList

theorem read_endlessText : read textReader wordsReader endlessText = none := by
  have hread : (read textReader wordsReader endlessText).isNone = true := by
    unfold endlessText
    rw [String.toList_ofList]
    decide +kernel
  exact Option.isNone_iff_eq_none.1 hread

theorem read_endless_or_sensible_spannedText :
    (∃ v ∈ (textReader endlessText).spans wordsReader, v.IsEndless wordsReader) ∧
    ∃ s, read textReader wordsReader spannedText = some (.ok s) ∧
      s.measure.telemetry.targetInterval = ⟨20000000⟩ ∧
      s.playback.frozenTime = ⟨5400000000000⟩ ∧ s.IsSensible := by
  have hread : (((read textReader wordsReader spannedText).bind Except.toOption).map fun s =>
      (s.measure.telemetry.targetInterval, s.playback.frozenTime)) =
        some (⟨20000000⟩, ⟨5400000000000⟩) := by
    unfold spannedText
    rw [String.toList_append]
    repeat rw [String.toList_ofList]
    decide +kernel
  obtain ⟨s, hs, hspans⟩ := exists_of_map_read hread
  obtain ⟨htarget, hfrozen⟩ := Prod.mk.inj hspans
  have hsensible := (read_endless_or_sensible textReader wordsReader spannedText).2 s hs
  have hendless :=
    (read_endless_or_sensible textReader wordsReader endlessText).1.1 read_endlessText
  exact ⟨hendless, s, hs, htarget, hfrozen, hsensible⟩

/-- Not every text has an answer. -/
theorem not_answered_endlessText : ¬ ∀ t, read textReader wordsReader t ≠ none :=
  fun h => h endlessText read_endlessText

end Settings

end ShaderPreview
