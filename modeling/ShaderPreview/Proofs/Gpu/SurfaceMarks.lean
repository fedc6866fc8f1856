import ShaderPreview.Proofs.Gpu.Connection
import ShaderPreview.Proofs.Gpu.TimerStep

/-!
# What calls have to do with the size of a surface

A `SurfaceMark` is what a call says about the size of what is shown: how a surface is set up, which
uniforms are written, which part of the surface a pass draws into, and that it is submitted.  For each
request to a renderer, the marks of its calls are given here, and the set-up that it leaves.
-/

namespace ShaderPreview

namespace Gpu

/-- What a call has to do with the size of what is shown. -/
inductive SurfaceMark where
  /-- A surface is created. -/
  | opened
  /-- A device is asked for whose textures have sides of at most this length. -/
  | limited (maxDimension : Nat)
  | configured (setup : SurfaceSetup)
  | written (block : UniformBlock)
  | framed (viewport : Viewport)
  | submitted

/-- The mark of a call, if it has to do with a size. -/
def Call.mark? : Call → Option SurfaceMark
  | createSurface => some .opened
  | requestDevice _ _ maxDimension => some (.limited maxDimension)
  | configure setup => some (.configured setup)
  | writeBuffer _ _ block => some (.written block)
  | setViewport viewport => some (.framed viewport)
  | submit _ => some .submitted
  | _ => none

/-- The marks of calls, in their order. -/
def marks (cs : List Call) : List SurfaceMark := cs.filterMap Call.mark?

theorem marks_append (cs ds : List Call) : marks (cs ++ ds) = marks cs ++ marks ds :=
  List.filterMap_append

/-- Between two worlds calls with the marks were made. -/
def Marked (w : World) (ms : List SurfaceMark) (w' : World) : Prop :=
  marks w'.calls = marks w.calls ++ ms

namespace Marked

variable {w w₁ w₂ w₃ : World} {ms ns : List SurfaceMark} {cs : List Call}

theorem refl (w : World) : Marked w [] w := (List.append_nil _).symm

theorem trans (h₁₂ : Marked w₁ ms w₂) (h₂₃ : Marked w₂ ns w₃) : Marked w₁ (ms ++ ns) w₃ := by
  unfold Marked at *
  rw [h₂₃, h₁₂, List.append_assoc]

theorem unique (h : Marked w₁ ms w₂) (h' : Marked w₁ ns w₂) : ms = ns :=
  List.append_cancel_left (h.symm.trans h')

/-- Calls without marks follow. -/
theorem trans_nil (h₁₂ : Marked w₁ ms w₂) (h₂₃ : Marked w₂ [] w₃) : Marked w₁ ms w₃ := by
  have h := h₁₂.trans h₂₃
  rwa [List.append_nil] at h

theorem of_calls (h : w₂.calls = w₁.calls ++ cs) (hms : marks cs = ms) : Marked w₁ ms w₂ := by
  rw [Marked, h, marks_append, hms]

theorem of_calls_eq (h : w₂.calls = w₁.calls) : Marked w₁ [] w₂ :=
  of_calls (h.trans (List.append_nil _).symm) rfl

theorem of_called (h : Called w₁ cs w₂) (hms : marks cs = ms) : Marked w₁ ms w₂ :=
  of_calls h.calls hms

end Marked

/-- The surface with another size. -/
def SurfaceSetup.withSize (s : SurfaceSetup) (width height : Nat) : SurfaceSetup :=
  { s with width, height }

/-- The whole surface. -/
def SurfaceSetup.viewport (s : SurfaceSetup) : Viewport :=
  ⟨0, 0, Float32.ofNat s.width, Float32.ofNat s.height, 0, 1⟩

theorem Timer.afterSubmit_marks (t : Timer) (w : World) : Marked w [] (t.afterSubmit w).2 := by
  unfold Timer.afterSubmit
  split
  · exact .refl w
  · exact .of_calls rfl rfl

namespace SurfaceRenderer

variable (r : SurfaceRenderer) (w : World)

/-- The set-up of the renderer's surface. -/
def setup (r : SurfaceRenderer) : SurfaceSetup := r.context.surface

/-- A size that is not empty is taken over. -/
theorem configure_marks {width height : Nat} (hw : width ≠ 0) (hh : height ≠ 0) :
    (Renderer.configure r width height w).1.setup = r.setup.withSize width height ∧
      Marked w [.configured (r.setup.withSize width height)]
        (Renderer.configure r width height w).2 := by
  have hresize : Renderer.configure r width height w =
      ({ r with context := { r.context with surface := r.setup.withSize width height } },
        { w with calls := w.calls ++ [.configure (r.setup.withSize width height)] }) := by
    show (r.context.resize width height >>= fun c => pure { r with context := c }) w = _
    unfold Context.resize
    rw [if_neg (by simp [hw, hh])]
    rfl
  rw [hresize]
  exact ⟨rfl, .of_calls rfl rfl⟩

theorem writeUniforms_marks (block : UniformBlock) :
    (Renderer.writeUniforms r block w).1 = r ∧
      Marked w [.written block] (Renderer.writeUniforms r block w).2 :=
  ⟨rfl, .of_called (makes_writeBuffer r.context.device r.pipeline.uniforms block w) rfl⟩

/-- What a timer does has no marks. -/
theorem pollTimer_marks :
    (Renderer.pollTimer r w).1.2.setup = r.setup ∧ Marked w [] (Renderer.pollTimer r w).2 := by
  show (r.pollTimer w).1.2.setup = r.setup ∧ Marked w [] (r.pollTimer w).2
  unfold pollTimer
  rcases r.timer with _ | t
  · exact ⟨rfl, .refl w⟩
  · refine ⟨rfl, ?_⟩
    by_cases ht : t.state = .recorded
    · have hpoll : t.poll w = ((.pending, t), w) := by
        unfold Timer.poll
        rw [ht]
        rfl
      show Marked w [] (t.poll w).2
      rw [hpoll]
      exact .refl w
    · obtain ⟨poll, cs, state, -, hcalls, hstep⟩ := t.step_poll ht w
      refine .of_calls hcalls ?_
      generalize (t.poll w).2.mappings = ms at hstep
      cases hstep <;> rfl

/-- The marks of a draw on a surface. -/
inductive DrawMarks (setup : SurfaceSetup) : DrawOutcome → List SurfaceMark → Prop where
  | presented : DrawMarks setup .presented [.framed setup.viewport, .submitted]
  | outdated : DrawMarks setup .skipped [.configured setup]
  | late : DrawMarks setup .skipped []
  | failed (reason : String) : DrawMarks setup (.failed reason) []

theorem marks_passCalls (measuring : Option Timer) :
    marks (r.passCalls measuring) = [.framed r.setup.viewport, .submitted] := by
  cases measuring <;> rfl

theorem draw_marks (timed : Bool) :
    (Renderer.draw r timed w).1.2.setup = r.setup ∧
      ∃ ms, Marked w ms (Renderer.draw r timed w).2 ∧
        DrawMarks r.setup (Renderer.draw r timed w).1.1 ms := by
  show (r.draw timed w).1.2.setup = r.setup ∧ ∃ ms, Marked w ms (r.draw timed w).2 ∧
    DrawMarks r.setup (r.draw timed w).1.1 ms
  have hacquire : Marked w [] (acquire w).2 := .of_called (called_acquire w) rfl
  unfold draw
  simp only [bind_apply]
  rcases ha : acquire w with ⟨o, w₁⟩
  rw [ha] at hacquire
  cases o with
  | ok =>
    have hpass : Marked w [.framed r.setup.viewport, .submitted]
        (r.drawPass (r.measuring? timed) w₁).2 :=
      hacquire.trans (.of_called (r.makes_drawPass _ w₁) (r.marks_passCalls _))
    unfold drawFrame
    simp only [bind_apply]
    rcases ((r.measuring? timed).map Timer.begin).or r.timer with _ | t
    · exact ⟨rfl, _, hpass, .presented⟩
    · exact ⟨rfl, _, hpass.trans (t.afterSubmit_marks _), .presented⟩
  | lost | outdated =>
    exact ⟨rfl, _, hacquire.trans (.of_calls rfl rfl), .outdated⟩
  | timeout => exact ⟨rfl, _, hacquire, .late⟩
  | memory | other => exact ⟨rfl, _, hacquire, .failed _⟩

theorem release_marks : Marked w [] (Renderer.release r w).2 := by
  show Marked w [] (r.release w).2
  unfold release
  have hrelease (w : World) :
      Marked w [] ((r.pipeline.release >>= fun _ => note .rendererReleased) w).2 :=
    .of_calls rfl rfl
  rcases r.timer with _ | t
  · exact hrelease w
  · have htimer : Marked w [] (t.release w).2 :=
      .of_called (((Makes.call _).bind fun _ => Makes.call _) w) rfl
    exact htimer.trans (hrelease _)

end SurfaceRenderer

/-! ## Connections -/

section Connect

variable {check : StageCheck} {σ : Script} {handles : WindowHandles} {options : GpuOptions}
  {a : Shader.Assembly} {width height : Nat} {cs : List Call}

theorem Builds.marks_eq_nil {checked : Except Diagnostic Unit} {d : DeviceId}
    {format : TextureFormat} {program : List Char} {result : Except PipelineError Pipeline}
    (h : Builds checked d format program result cs) : marks cs = [] := by
  cases h <;> rfl

theorem marks_timerCalls (t : Option Timer) : marks (timerCalls t) = [] := by
  cases t <;> rfl

/-- The marks of a connection: the surface is set up last, once, in a size that the device allows. -/
inductive ConnectMarks (σ : Script) (options : GpuOptions) (width height : Nat) :
    Except ConnectError SurfaceRenderer → List SurfaceMark → Prop where
  | unopened (e : ConnectError) : ConnectMarks σ options width height (.error e) []
  | opened (e : ConnectError) : ConnectMarks σ options width height (.error e) [.opened]
  | limited (e : ConnectError) :
      ConnectMarks σ options width height (.error e) [.opened, .limited σ.maxDimension]
  | configured {result : Except ConnectError SurfaceRenderer} {setup : SurfaceSetup}
      (hw : max width 1 ≤ σ.maxDimension) (hh : max height 1 ≤ σ.maxDimension)
      (hs : chosenSetup? σ options width height = some setup)
      (hr : ∀ r, result = .ok r → r.setup = setup) :
      ConnectMarks σ options width height result
        [.opened, .limited σ.maxDimension, .configured setup]

theorem Connects.connectMarks {result : Except ConnectError SurfaceRenderer}
    (h : Connects check σ handles options a width height result cs) :
    ConnectMarks σ options width height result (marks cs) := by
  cases h with
  | unavailable ho =>
    cases ho with
    | noWindowHandle | noDisplayHandle => exact .unopened _
    | noSurface | noAdapter | tooLarge => exact .opened _
    | noDevice | noFormat => exact .limited _
  | failed ho hb =>
    rw [marks_append, hb.marks_eq_nil, List.append_nil]
    cases ho with
    | opened d hw hh hs => exact .configured hw hh hs nofun
  | @connected r cs ds ho hb =>
    rw [marks_append, marks_append, hb.marks_eq_nil, marks_timerCalls, List.append_nil,
      List.append_nil]
    obtain ⟨context, pipeline, timer⟩ := r
    cases ho with
    | opened d hw hh hs =>
      refine .configured hw hh hs ?_
      rintro _ ⟨⟩
      rfl

end Connect

end Gpu

end ShaderPreview
