import Mathlib.Data.List.DropRight
import ShaderPreview.Telemetry.Snapshot

/-!
# What a window remembers

A window that has room for a sample always holds the newest of the samples it was given, as many of
them as it has room for.  All that a window shows behind any pushes and clears is thereby taken from
the samples pushed since the last clear (`shows_sinceClear`).  Telemetry starts with two empty
windows, and keeps the device times in range.
-/

namespace ShaderPreview

variable {α : Type} {xs : List α}

/-! ## The newest elements of a list -/

theorem length_rtake (n : Nat) (xs : List α) : (xs.rtake n).length = min n xs.length := by
  simp only [List.rtake, List.length_drop]
  omega

theorem rtake_of_length_le {n : Nat} (hn : xs.length ≤ n) : xs.rtake n = xs := by
  rw [List.rtake, Nat.sub_eq_zero_of_le hn, List.drop_zero]

theorem rtake_min_length (n : Nat) (xs : List α) : xs.rtake (min n xs.length) = xs.rtake n := by
  simp only [List.rtake]
  congr 1
  omega

theorem rtake_rtake (m n : Nat) (xs : List α) : (xs.rtake n).rtake m = xs.rtake (min m n) := by
  simp only [List.rtake, List.drop_drop, List.length_drop]
  congr 1
  omega

theorem getLast?_rtake {n : Nat} (hn : 0 < n) (xs : List α) :
    (xs.rtake n).getLast? = xs.getLast? := by
  rw [List.rtake, List.getLast?_drop]
  by_cases hxs : xs.length ≤ xs.length - n
  · have hnil : xs = [] := List.length_eq_zero_iff.1 (by omega)
    rw [if_pos hxs, hnil]
    rfl
  · rw [if_neg hxs]

theorem tail_rtake_succ {n : Nat} (hn : n < xs.length) :
    (xs.rtake (n + 1)).tail = xs.rtake n := by
  simp only [List.rtake, List.tail_drop]
  congr 1
  omega

namespace Window

variable {w : Window α}

/-- The window holds the newest of the given samples, as many as it has room for. -/
structure Holds (w : Window α) (xs : List α) : Prop where
  room : 0 < w.capacity
  samples : w.samples = xs.rtake w.capacity

theorem capacity_push (w : Window α) (x : α) : (w.push x).capacity = w.capacity := by
  unfold push
  split <;> rfl

theorem holds_of_samples_eq_nil (hroom : 0 < w.capacity) (hw : w.samples = []) : w.Holds [] :=
  ⟨hroom, by rw [hw, List.rtake_nil]⟩

theorem Holds.push (hw : w.Holds xs) (x : α) : (w.push x).Holds (xs ++ [x]) := by
  refine ⟨by rw [capacity_push]; exact hw.room, ?_⟩
  obtain ⟨n, hn⟩ := Nat.exists_eq_succ_of_ne_zero hw.room.ne'
  have hlength : w.samples.length = min w.capacity xs.length := by
    rw [hw.samples, length_rtake]
  rw [capacity_push, hn, List.rtake_concat_succ]
  unfold Window.push
  split
  · -- the window is full: the oldest sample makes way
    rw [hw.samples, hn, tail_rtake_succ (by omega)]
  · rw [hw.samples, rtake_of_length_le (by omega), rtake_of_length_le (by omega)]

theorem Holds.pushAll (hw : w.Holds xs) (ys : List α) :
    (ys.foldl Window.push w).Holds (xs ++ ys) := by
  induction ys generalizing w xs with
  | nil => simpa using hw
  | cons y ys ih => simpa using ih (hw.push y)

/-- The newest sample is the one given last. -/
theorem last?_push (w : Window α) (x : α) : (w.push x).last? = some x := by
  unfold push last?
  split <;> exact List.getLast?_concat

/-! ### Pushes and clears -/

/-- What can be asked of a window. -/
inductive Request (α : Type) where
  | push (x : α)
  | clear

/-- The sample that is pushed. -/
def Request.sample? : Request α → Option α
  | push x => some x
  | clear => none

/-- Does what is asked. -/
def serve (w : Window α) : Request α → Window α
  | .push x => w.push x
  | .clear => w.clear

/-- Does what is asked, one after the other. -/
def serveAll (w : Window α) (rs : List (Request α)) : Window α := rs.foldl serve w

/-- The samples pushed since the last clear. -/
def sinceClear (rs : List (Request α)) : List α :=
  (rs.rtakeWhile (·.sample?.isSome)).filterMap Request.sample?

theorem sinceClear_push (rs : List (Request α)) (x : α) :
    sinceClear (rs ++ [.push x]) = sinceClear rs ++ [x] := by
  rw [sinceClear, List.rtakeWhile_concat_pos _ _ _ rfl, List.filterMap_append]
  rfl

theorem sinceClear_clear (rs : List (Request α)) : sinceClear (rs ++ [.clear]) = [] := by
  rw [sinceClear, List.rtakeWhile_concat_neg _ _ _ Bool.false_ne_true]
  rfl

theorem capacity_serve (w : Window α) (r : Request α) : (w.serve r).capacity = w.capacity := by
  cases r with
  | push x => exact capacity_push w x
  | clear => rfl

theorem Holds.serve {rs : List (Request α)} (hw : w.Holds (sinceClear rs)) (r : Request α) :
    (w.serve r).Holds (sinceClear (rs ++ [r])) := by
  cases r with
  | push x =>
    rw [sinceClear_push]
    exact hw.push x
  | clear =>
    rw [sinceClear_clear]
    exact holds_of_samples_eq_nil hw.room rfl

theorem serveAll_concat (w : Window α) (rs : List (Request α)) (r : Request α) :
    w.serveAll (rs ++ [r]) = (w.serveAll rs).serve r :=
  List.foldl_concat serve w r rs

theorem capacity_serveAll (w : Window α) (rs : List (Request α)) :
    (w.serveAll rs).capacity = w.capacity := by
  induction rs using List.reverseRecOn with
  | nil => rfl
  | append_singleton rs r ih => rw [serveAll_concat, capacity_serve, ih]

theorem Holds.serveAll (hroom : 0 < w.capacity) (hw : w.samples = []) (rs : List (Request α)) :
    (w.serveAll rs).Holds (sinceClear rs) := by
  induction rs using List.reverseRecOn with
  | nil => exact holds_of_samples_eq_nil hroom hw
  | append_singleton rs r ih =>
    rw [serveAll_concat]
    exact ih.serve r

/-- Whatever is pushed and cleared, a new window of any capacity holds the newest of the samples pushed
since the last clear, in their order and as many as it has room for, and everything it shows is taken
from these samples: the newest of them, the last one, and how many are above a bound.  Where there
can be no room for so many (`ofCapacity?`), no window is made. -/
theorem shows_sinceClear (c : Nat) (rs : List (Request Double)) :
    let w := (ofCapacity c).serveAll rs
    let history := sinceClear rs
    w.size = min (max 1 c) history.length ∧
      w.samples = history.rtake w.size ∧
      (∀ m, w.recent m = history.rtake (min m w.size)) ∧
      w.last? = history.getLast? ∧
      ∀ x, w.countAbove x = ((history.rtake w.size).filter (·.value > x)).length := by
  intro w history
  have hcapacity : w.capacity = max 1 c := by
    rw [capacity_serveAll]
    exact Nat.max_comm c 1
  have hroom : 0 < (ofCapacity c : Window Double).capacity :=
    Nat.lt_of_lt_of_le Nat.one_pos (Nat.le_max_right c 1)
  have hholds : w.Holds history := Holds.serveAll hroom rfl rs
  have hsize : w.size = min (max 1 c) history.length := by
    rw [size, hholds.samples, length_rtake, hcapacity]
  have hsamples : w.samples = history.rtake w.size := by
    rw [hsize, rtake_min_length, ← hcapacity]
    exact hholds.samples
  refine ⟨hsize, hsamples, ?_, ?_, ?_⟩
  · intro m
    show w.samples.rtake m = _
    rw [hsamples, rtake_rtake]
  · rw [last?, hholds.samples]
    exact getLast?_rtake hholds.room history
  · intro x
    rw [countAbove, hsamples]
    exact List.countP_eq_length_filter

end Window

/-! ## Telemetry -/

namespace Telemetry

variable {settings : TelemetrySettings} {t : Telemetry}

theorem ofSettings?_eq_some (ht : ofSettings? settings = some t) :
    t = ⟨settings, .ofCapacity settings.frameWindow, .ofCapacity settings.gpuWindow, 0⟩ := by
  simp only [ofSettings?, Window.ofCapacity?, Option.bind_eq_bind, Option.bind_eq_some_iff,
    Option.pure_def, Option.some.injEq] at ht
  obtain ⟨frames, hframes, gpu, hgpu, rfl⟩ := ht
  obtain ⟨-, ⟨⟩⟩ := Option.ite_none_right_eq_some.1 hframes
  obtain ⟨-, ⟨⟩⟩ := Option.ite_none_right_eq_some.1 hgpu
  rfl

theorem acceptsGpu_iff {ms : Float} : acceptsGpu ms ↔ 0.0 < ms ∧ ms < 1000.0 := by
  rw [acceptsGpu, Bool.and_eq_true, decide_eq_true_iff, decide_eq_true_iff]
  exact Iff.rfl

end Telemetry

end ShaderPreview
