import ShaderPreview.Preview.Session
import ShaderPreview.Settings.Decode

/-!
# Settings that make sense

`IsSensible` says what is asked of settings, all of it at once; `Settings.fault?`, which looks at one
value after the other, finds nothing exactly if it holds.  What a configuration text gives is
sensible, whatever reader takes the text apart, and yet a preview cannot always be made of it: its
windows may be too long for the memory (`creates_iff_windowsFit`).
-/

namespace ShaderPreview

namespace Settings

/-- The settings make sense. -/
structure IsSensible (s : Settings) : Prop where
  version : s.version = 1
  width_ne_zero : s.window.width ≠ 0
  height_ne_zero : s.window.height ≠ 0
  frameWindow_ne_zero : s.measure.telemetry.frameWindow ≠ 0
  gpuWindow_ne_zero : s.measure.telemetry.gpuWindow ≠ 0
  publishInterval_ne_zero : s.measure.publishInterval ≠ 0
  targetInterval_ne_zero : s.measure.telemetry.targetInterval.nanos ≠ 0
  dropFactor : s.measure.telemetry.dropFactor.isFinite ∧ 0.0 < s.measure.telemetry.dropFactor
  reconcileBand :
    s.measure.telemetry.reconcileBand.isFinite ∧ 0.0 < s.measure.telemetry.reconcileBand

theorem isPositive_iff (x : Float) : isPositive x ↔ x.isFinite ∧ 0.0 < x := by
  simp [isPositive]

theorem fault?_eq_none_iff (s : Settings) : s.fault? = none ↔ s.IsSensible := by
  have guard {p : Prop} [Decidable p] {f : Fault} {rest : Option Fault} :
      (if p then some f else rest) = none ↔ ¬ p ∧ rest = none := by
    split <;> simp [*]
  simp only [fault?, guard, not_or, Decidable.not_not, Bool.not_eq_true', Bool.not_eq_false,
    isPositive_iff, and_true, and_assoc, ne_eq]
  exact ⟨fun ⟨hv, hw, hh, hf, hg, hp, ht, hd, hd', hr, hr'⟩ =>
      ⟨hv, hw, hh, hf, hg, hp, ht, ⟨hd, hd'⟩, ⟨hr, hr'⟩⟩,
    fun h => ⟨h.version, h.width_ne_zero, h.height_ne_zero, h.frameWindow_ne_zero,
      h.gpuWindow_ne_zero, h.publishInterval_ne_zero, h.targetInterval_ne_zero, h.dropFactor.1,
      h.dropFactor.2, h.reconcileBand.1, h.reconcileBand.2⟩⟩

theorem isSensible_default : default.IsSensible := by
  rw [← fault?_eq_none_iff]
  decide +kernel

section Reading

variable {ε : Type}

theorem accept_eq_ok_iff {s t : Settings} :
    (accept s : Except (Refusal ε) Settings) = .ok t ↔ t = s ∧ s.IsSensible := by
  rw [← fault?_eq_none_iff]
  unfold accept
  rcases s.fault? with _ | f
  · simp [eq_comm]
  · simp

/-- The settings of a configuration text make sense, however the text is read. -/
theorem isSensible_of_read {reader : TextReader ε} {words : WordsReader} {t : List Char}
    {s : Settings} (h : read reader words t = some (.ok s)) : s.IsSensible := by
  unfold read at h
  obtain ⟨r, -, hr⟩ := Option.map_eq_some_iff.1 h
  rcases r with e | s'
  · cases hr
  · obtain ⟨rfl, hsensible⟩ := accept_eq_ok_iff.1 hr
    exact hsensible

/-- What a text gives is known of the settings it gives. -/
theorem exists_of_map_read {α : Type} {r : Option (Except (Refusal ε) Settings)} {f : Settings → α}
    {a : α} (h : (r.bind Except.toOption).map f = some a) : ∃ s, r = some (.ok s) ∧ f s = a := by
  obtain ⟨s, hs, hf⟩ := Option.map_eq_some_iff.1 h
  rcases r with _ | _ | s'
  · cases hs
  · cases hs
  · cases hs
    exact ⟨s, rfl, hf⟩

end Reading

end Settings

/-! ## Windows that are too long -/

namespace Window

variable {α : Type}

/-- There is room for a window if its samples of eight bytes each take less than `2 ^ 63` bytes. -/
theorem ofCapacity?_eq {n : Nat} (hn : n ≠ 0) : (ofCapacity? n : Option (Window α)) =
    if 8 * n < wordCount 63 then some ⟨n, []⟩ else none := by
  have hmax : max n 1 = n := by omega
  have hlimit : n ≤ capacityLimit ↔ 8 * n < wordCount 63 := by
    rw [capacityLimit, wordCount_63]
    omega
  simp only [ofCapacity?, ofCapacity, hmax, hlimit]

end Window

theorem Telemetry.ofSettings?_eq {s : TelemetrySettings} (hf : s.frameWindow ≠ 0)
    (hg : s.gpuWindow ≠ 0) : ofSettings? s =
      if 8 * s.frameWindow < wordCount 63 ∧ 8 * s.gpuWindow < wordCount 63 then
        some ⟨s, ⟨s.frameWindow, []⟩, ⟨s.gpuWindow, []⟩, 0⟩
      else none := by
  rw [ofSettings?, Window.ofCapacity?_eq hf, Window.ofCapacity?_eq hg]
  by_cases hframes : 8 * s.frameWindow < wordCount 63 <;>
    by_cases hgpu : 8 * s.gpuWindow < wordCount 63 <;> simp [hframes, hgpu]

namespace Settings

/-- Of settings that a text gives, however it is read, a preview can be made if and only if the samples
of each of its two windows take less than `2 ^ 63` bytes.  The windows have the lengths that are
set. -/
theorem creates_iff_windowsFit {ρ β ε : Type} [Seconds ρ] {reader : TextReader ε}
    {words : WordsReader} {t : List Char} {s : Settings} (h : read reader words t = some (.ok s)) :
    ((Session.create? s.previewOptions : Option (Session ρ β)).isSome ↔
      8 * s.measure.telemetry.frameWindow < wordCount 63 ∧
        8 * s.measure.telemetry.gpuWindow < wordCount 63) ∧
    ∀ s₀ : Session ρ β, Session.create? s.previewOptions = some s₀ →
      s₀.telemetry.frames = ⟨s.measure.telemetry.frameWindow, []⟩ ∧
        s₀.telemetry.gpu = ⟨s.measure.telemetry.gpuWindow, []⟩ := by
  have hs := isSensible_of_read h
  have htelemetry :=
    Telemetry.ofSettings?_eq hs.frameWindow_ne_zero hs.gpuWindow_ne_zero
  simp only [Session.create?, previewOptions, htelemetry]
  by_cases hfit : 8 * s.measure.telemetry.frameWindow < wordCount 63 ∧
      8 * s.measure.telemetry.gpuWindow < wordCount 63
  · rw [if_pos hfit]
    refine ⟨iff_of_true rfl hfit, ?_⟩
    rintro s₀ ⟨⟩
    exact ⟨rfl, rfl⟩
  · rw [if_neg hfit]
    refine ⟨iff_of_false Bool.false_ne_true hfit, ?_⟩
    rintro s₀ ⟨⟩

/-- A configuration with windows of its own. -/
def windowedText : List Char :=
  "version = 1\n[telemetry]\nframe_window = 240\ngpu_window = 60\n".toList

theorem creates_iff_windowsFit_windowedText :
    ∃ (s : Settings) (s₀ : Session Float Unit),
      read textReader wordsReader windowedText = some (.ok s) ∧
      Session.create? s.previewOptions = some s₀ ∧
      s₀.telemetry.frames = ⟨240, []⟩ ∧ s₀.telemetry.gpu = ⟨60, []⟩ := by
  have hread : (((read textReader wordsReader windowedText).bind Except.toOption).map fun s =>
      (s.measure.telemetry.frameWindow, s.measure.telemetry.gpuWindow)) = some (240, 60) := by
    unfold windowedText
    rw [String.toList_ofList]
    decide +kernel
  obtain ⟨s, hs, hlengths⟩ := exists_of_map_read hread
  obtain ⟨hframes, hgpu⟩ := Prod.mk.inj hlengths
  obtain ⟨hmade, hwindows⟩ := creates_iff_windowsFit (ρ := Float) (β := Unit) hs
  obtain ⟨s₀, hs₀⟩ := Option.isSome_iff_exists.1 (hmade.2 (by
    rw [hframes, hgpu, wordCount_63]
    decide))
  have h := hwindows s₀ hs₀
  rw [hframes, hgpu] at h
  exact ⟨s, s₀, hs, hs₀, h⟩

/-- One sample more than there can be room for. -/
def vastText : List Char :=
  "version = 1\n[telemetry]\nframe_window = 1152921504606846976\n".toList

/-- Settings may be accepted of which no preview can be made. -/
theorem not_creates_vastText :
    ¬ ∀ (t : List Char) (s : Settings), read textReader wordsReader t = some (.ok s) →
      ∃ s₀ : Session Float Unit, Session.create? s.previewOptions = some s₀ ∧
        s₀.telemetry.frames.capacity = s.measure.telemetry.frameWindow ∧
        s₀.telemetry.gpu.capacity = s.measure.telemetry.gpuWindow := by
  intro h
  have hread : (((read textReader wordsReader vastText).bind Except.toOption).map fun s =>
      (Session.create? s.previewOptions : Option (Session Float Unit)).isSome) = some false := by
    unfold vastText
    rw [String.toList_ofList]
    decide +kernel
  obtain ⟨s, hs, hmade⟩ := exists_of_map_read hread
  obtain ⟨s₀, hs₀, -⟩ := h vastText s hs
  rw [hs₀] at hmade
  cases hmade

end Settings

end ShaderPreview
