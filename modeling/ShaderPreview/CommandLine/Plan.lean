import ShaderPreview.CommandLine.Invocation
import ShaderPreview.CommandLine.Outcome
import ShaderPreview.Settings.Basic

/-!
# Plans of previews

The arguments of a run and the settings together say how its preview is opened; an argument goes
before a setting.
-/

namespace ShaderPreview

/-- How a preview is opened. -/
structure PreviewPlan where
  source : List Char
  title : List Char
  width : Nat
  height : Nat
  options : PreviewOptions
  startPaused : Bool
  /-- The time shown while paused, in seconds. -/
  frozenTime : Float

namespace PreviewPlan

/-- A time can be frozen if it is finite and not negative. -/
def isFreezable (x : Float) : Bool := x.isFinite && 0.0 ≤ x

/-- The time at which the clock stands while paused. -/
def frozenTimeOf (a : RunArguments) (s : Settings) : Except Failure Float :=
  match a.frozenTime with
  | none => .ok s.playback.frozenTime.seconds
  | some x =>
    if isFreezable x then .ok x
    else .error (.ofText "--frozen-time must be a non-negative number of seconds".toList)

/-- The options of the preview. -/
def optionsOf (a : RunArguments) (s : Settings) : PreviewOptions :=
  let o := s.previewOptions
  if a.noGpuTimer then { o with gpu := { o.gpu with timerQueries := false } } else o

/-- How the preview of a source is opened. -/
def ofArguments (a : RunArguments) (s : Settings) (source : List Char) :
    Except Failure PreviewPlan :=
  (frozenTimeOf a s).map fun frozenTime =>
    { source
      title := s.window.title ++ " - ".toList ++ a.shader
      width := max 1 (a.width.getD s.window.width)
      height := max 1 (a.height.getD s.window.height)
      options := optionsOf a s
      startPaused := a.paused || s.playback.startPaused
      frozenTime }

theorem width_pos {a : RunArguments} {s : Settings} {source : List Char} {p : PreviewPlan}
    (h : ofArguments a s source = .ok p) : 0 < p.width ∧ 0 < p.height := by
  unfold ofArguments at h
  cases hf : frozenTimeOf a s <;> rw [hf] at h <;> simp only [Except.map, reduceCtorEq] at h
  cases h
  exact ⟨by simp only; omega, by simp only; omega⟩

/-- What a preview without a screen comes to. -/
def withoutScreen : Failure := .ofText "failed to create event loop".toList

end PreviewPlan

end ShaderPreview
