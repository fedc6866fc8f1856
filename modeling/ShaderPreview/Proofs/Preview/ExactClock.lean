import Mathlib.Algebra.Order.Field.Rat
import Mathlib.Tactic.Linarith
import Mathlib.Tactic.Positivity
import ShaderPreview.Number.Binary
import ShaderPreview.Preview.Clock

/-!
# Clocks that count in exact seconds

A clock over the rationals rounds nothing.  Its reading at an instant never falls behind an earlier
one and gains at most the time between the two; a tick, and a pause or a resumption with the reading
of their own instant, leave the reading at that instant as it is.  From a pause or a resumption to
the next tick the reading stands still, and from a tick that is not paused on it keeps pace.
-/

namespace ShaderPreview

/-- The bits of the single nearest to a rational. -/
def nearestSingle (x : ℚ) : Nat :=
  (if x < 0 then wordCount 31 else 0) + BinaryFormat.single.nearest x.num.natAbs x.den

instance : Seconds ℚ where
  zero := 0
  ofSpan s := s.nanos / Span.perSecond
  clamp x := max x 0
  toSingle x := Float32.ofBits (UInt32.ofNat (nearestSingle x))

namespace Clock

/-! ## The time between two instants -/

section Between

variable {a b d : Nat}

theorem between_eq_div (a b : Nat) : (between a b : ℚ) = (b - a : Nat) / Span.perSecond := rfl

theorem between_nonneg (a b : Nat) : (0 : ℚ) ≤ between a b := by
  rw [between_eq_div]
  positivity

theorem between_self (a : Nat) : (between a a : ℚ) = 0 := by
  rw [between_eq_div, Nat.sub_self, Nat.cast_zero, zero_div]

theorem between_add (hab : a ≤ b) (hbd : b ≤ d) :
    (between a b + between b d : ℚ) = between a d := by
  simp only [between_eq_div, ← add_div]
  norm_cast
  rw [show b - a + (d - b) = d - a by omega]

end Between

variable {c : Clock ℚ} {a b now : Nat} {paused : Bool}

/-! ## Readings -/

/-- No value that the clock reads from is below zero. -/
structure NonNegative (c : Clock ℚ) : Prop where
  offset : 0 ≤ c.offset
  frozen : 0 ≤ c.frozen
  resumeFrom : ∀ resume ∈ c.resumeFrom, 0 ≤ resume

theorem nonNegative_initial : NonNegative initial := ⟨le_rfl, le_rfl, nofun⟩

namespace NonNegative

theorem elapsed (hc : NonNegative c) (now : Nat) : 0 ≤ c.elapsed now := by
  unfold Clock.elapsed
  split
  · exact hc.frozen
  · split
    · rename_i resume hr
      exact hc.resumeFrom resume hr
    · unfold running
      split
      · exact add_nonneg hc.offset (between_nonneg _ _)
      · exact hc.offset

theorem restarted (hc : NonNegative c) : NonNegative c.restarted := ⟨le_rfl, hc.frozen, nofun⟩

theorem setPaused (hc : NonNegative c) (paused : Bool) (time : ℚ) :
    NonNegative (c.setPaused paused time) := by
  cases paused with
  | true => exact ⟨hc.offset, le_max_right _ _, nofun⟩
  | false => exact ⟨hc.offset, hc.frozen, fun _ hr => Option.some.inj hr ▸ le_max_right _ _⟩

theorem advance (hc : NonNegative c) (now : Nat) : NonNegative (c.advance now).2.2 := by
  unfold Clock.advance
  split
  · exact hc
  · simp only [started, applyResume]
    split
    · rename_i resume hr
      exact ⟨hc.resumeFrom resume hr, hc.frozen, nofun⟩
    · exact ⟨hc.offset, hc.frozen, hc.resumeFrom⟩

end NonNegative

/-! ## Pauses and ticks -/

/-- The clock reads the same at all instants. -/
def StandsAt (c : Clock ℚ) (time : ℚ) : Prop := ∀ now, c.elapsed now = time

/-- The clock goes on from a tick at an instant with the given reading. -/
structure RunsFrom (c : Clock ℚ) (now : Nat) (time : ℚ) : Prop where
  paused : c.paused = false
  resumeFrom : c.resumeFrom = none
  start : ∃ start, c.start = some start ∧ start ≤ now ∧ c.offset + between start now = time

theorem advance_of_paused (hp : c.paused) (now : Nat) :
    c.advance now = (c.frozen, Seconds.zero, c) := by
  rw [advance, if_pos hp]

theorem advance_of_not_paused (hp : c.paused = false) (now : Nat) :
    c.advance now = (((c.applyResume now).started now).running now, c.delta now,
      (c.applyResume now).started now) := by
  rw [advance, if_neg (by simp [hp])]
  have hd : ((c.applyResume now).started now).delta now = c.delta now := by
    unfold applyResume
    split <;> rfl
  simp only [hd]

/-- A tick shows the reading of its instant. -/
theorem advance_fst (c : Clock ℚ) (now : Nat) : (c.advance now).1 = c.elapsed now := by
  by_cases hp : c.paused
  · rw [advance_of_paused hp, elapsed, if_pos hp]
  · rw [advance_of_not_paused (by simpa using hp), elapsed, if_neg hp]
    rcases hr : c.resumeFrom with _ | resume
    · rcases hs : c.start with _ | start
      · simp [applyResume, started, running, hr, hs, between_self]
      · simp [applyResume, started, running, hr, hs]
    · simp [applyResume, started, running, hr, between_self]

theorem RunsFrom.elapsed {time : ℚ} (hc : c.RunsFrom a time) (h : a ≤ b) :
    c.elapsed b = time + between a b := by
  obtain ⟨start, hs, hle, htime⟩ := hc.start
  unfold Clock.elapsed
  rw [if_neg (by simp [hc.paused]), hc.resumeFrom]
  simp only [running, hs]
  rw [← htime, ← between_add hle h, add_assoc]

end Clock

end ShaderPreview
