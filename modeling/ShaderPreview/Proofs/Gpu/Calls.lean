import ShaderPreview.Gpu.SurfaceRenderer
import ShaderPreview.Proofs.Preview.Run

/-!
# The calls that computations make

`Makes cs m` says that a computation makes exactly the calls `cs`, and `Untimed m` that none of its
calls has to do with the times of passes; both leave the mappings alone.  Each has a rule for every
way of building computations, and the parts of a renderer follow them.  Only what a timer does is
not `Untimed`.
-/

namespace ShaderPreview

namespace Gpu

variable {α γ : Type}

/-- The call has to do with the times of passes or with reading them back. -/
def Call.isTiming : Call → Bool
  | createQueries .. | resolveQueries .. | copyBuffer .. => true
  | pollDevice _ | mapBuffer _ | readMapped _ | unmap _ => true
  | beginPass _ _ times => times.isSome
  | _ => false

/-- Between two worlds some calls were made, and no mapping was touched. -/
structure Called (w : World) (cs : List Call) (w' : World) : Prop where
  calls : w'.calls = w.calls ++ cs
  mappings : w'.mappings = w.mappings

namespace Called

variable {w w₁ w₂ w₃ : World} {cs ds : List Call}

theorem refl (w : World) : Called w [] w := ⟨(List.append_nil _).symm, rfl⟩

theorem of_eq (hc : w₂.calls = w₁.calls) (hm : w₂.mappings = w₁.mappings) : Called w₁ [] w₂ :=
  ⟨by rw [hc, List.append_nil], hm⟩

theorem trans (h₁₂ : Called w₁ cs w₂) (h₂₃ : Called w₂ ds w₃) : Called w₁ (cs ++ ds) w₃ where
  calls := by rw [h₂₃.calls, h₁₂.calls, List.append_assoc]
  mappings := h₂₃.mappings.trans h₁₂.mappings

end Called

/-- The computation makes exactly the calls. -/
def Makes (cs : List Call) (m : StateM World α) : Prop := ∀ w, Called w cs (m w).2

namespace Makes

variable {m : StateM World α} {k : α → StateM World γ} {cs ds : List Call}

theorem pure (a : α) : Makes [] (Pure.pure a : StateM World α) := fun w => .refl w

theorem bind (hm : Makes cs m) (hk : ∀ a, Makes ds (k a)) : Makes (cs ++ ds) (m >>= k) :=
  fun w => (hm w).trans (hk (m w).1 (m w).2)

theorem call (c : Call) : Makes [c] (Gpu.call c) := fun _ => ⟨rfl, rfl⟩

theorem note (e : Event) : Makes [] (Gpu.note e) := fun _ => .of_eq rfl rfl

theorem get : Makes [] (MonadState.get : StateM World World) := fun w => .refl w

theorem setScript (f : World → Script) : Makes [] (modify fun w => { w with script := f w }) :=
  fun _ => .of_eq rfl rfl

theorem setDevices (f : World → List Device) :
    Makes [] (modify fun w => { w with devices := f w }) :=
  fun _ => .of_eq rfl rfl

end Makes

/-- Between two worlds no call was made that has to do with times. -/
def UntimedTo (w w' : World) : Prop := ∃ cs, (∀ c ∈ cs, c.isTiming = false) ∧ Called w cs w'

namespace UntimedTo

variable {w₁ w₂ w₃ : World}

theorem refl (w : World) : UntimedTo w w := ⟨[], List.forall_mem_nil _, .refl w⟩

theorem trans (h₁₂ : UntimedTo w₁ w₂) (h₂₃ : UntimedTo w₂ w₃) : UntimedTo w₁ w₃ := by
  obtain ⟨cs, hcs, h₁₂⟩ := h₁₂
  obtain ⟨ds, hds, h₂₃⟩ := h₂₃
  exact ⟨cs ++ ds, List.forall_mem_append.2 ⟨hcs, hds⟩, h₁₂.trans h₂₃⟩

end UntimedTo

/-- No call of the computation has to do with times. -/
def Untimed (m : StateM World α) : Prop := ∀ w, UntimedTo w (m w).2

namespace Untimed

variable {m : StateM World α} {k : α → StateM World γ}

theorem of_makes {cs : List Call} (hm : Makes cs m) (hcs : ∀ c ∈ cs, c.isTiming = false) :
    Untimed m := fun w => ⟨cs, hcs, hm w⟩

theorem pure (a : α) : Untimed (Pure.pure a : StateM World α) := of_makes (.pure a) (by simp)

theorem bind (hm : Untimed m) (hk : ∀ a, Untimed (k a)) : Untimed (m >>= k) :=
  fun w => (hm w).trans (hk (m w).1 (m w).2)

theorem call {c : Call} (hc : c.isTiming = false) : Untimed (Gpu.call c) :=
  of_makes (.call c) (by simpa using hc)

theorem note (e : Event) : Untimed (Gpu.note e) := of_makes (.note e) (by simp)

end Untimed

/-! ## Errors and scripted steps -/

theorem makes_raiseError (d : DeviceId) (message : List Char) : Makes [] (raiseError d message) := by
  refine Makes.get.bind fun w => ?_
  split
  · exact .setDevices _
  · exact (Makes.setDevices _).bind fun _ => .note _
  · exact .pure _

theorem makes_raiseIf (d : DeviceId) (error : Option (Option (List Char))) :
    Makes [] (raiseIf d error) := by
  unfold raiseIf
  split
  · exact makes_raiseError d _
  · exact .pure _

theorem makes_pushScope (d : DeviceId) : Makes [.pushScope d] (pushScope d) :=
  (Makes.setDevices _).bind fun _ => .call _

theorem makes_submit (d : DeviceId) : Makes [.submit 1] (submit d) :=
  (Makes.call _).bind fun _ => Makes.get.bind fun _ =>
    (Makes.setScript _).bind fun _ => makes_raiseIf d _

theorem makes_writeBuffer (d : DeviceId) (b : Buffer) (block : UniformBlock) :
    Makes [.writeBuffer b 0 block] (writeBuffer d b block) :=
  (Makes.call _).bind fun _ => Makes.get.bind fun _ =>
    (Makes.setScript _).bind fun _ => makes_raiseIf d _

theorem makes_createPipeline (d : DeviceId) (p : PipelineSetup) :
    Makes [.createPipeline p] (createPipeline d p) :=
  (Makes.call _).bind fun _ => Makes.get.bind fun _ =>
    (Makes.setScript _).bind fun _ => makes_raiseIf d _

theorem makes_createModule (d : DeviceId) (m : ShaderModule) (program : List Char) :
    Makes [.createModule m (Text.byteLength program)] (createModule d m program) := by
  refine (Makes.call _).bind fun _ => ?_
  split
  · exact Makes.get.bind fun _ => (Makes.setScript _).bind fun _ => makes_raiseIf d _
  · exact Makes.get.bind fun _ => (Makes.setScript _).bind fun _ => makes_raiseIf d _

/-- Acquiring a frame; the call has its outcome. -/
theorem called_acquire (w : World) : Called w [.acquire (acquire w).1] (acquire w).2 := ⟨rfl, rfl⟩

/-! ## Drawing -/

/-- The calls that draw with a pipeline. -/
def Pipeline.drawCalls (p : Pipeline) : List Call :=
  [.setPipeline p.label, .setBindGroup 0 p.bindGroup,
    .drawVertices 0 Shader.Triangle.cornerCount 0 1]

theorem Pipeline.makes_draw (p : Pipeline) : Makes p.drawCalls p.draw :=
  (Makes.call _).bind fun _ => (Makes.call _).bind fun _ => .call _

namespace SurfaceRenderer

/-- The calls of a pass, with the copies that its measurement takes. -/
def passCalls (r : SurfaceRenderer) (measuring : Option Timer) : List Call :=
  ([.createView .surface, .createEncoder "fragscope encoder",
      .beginPass "fragscope pass" .surface (measuring.map Timer.passTimes),
      .setViewport r.viewport] : List Call) ++
    (r.pipeline.drawCalls ++ (([.endPass] : List Call) ++
      ((measuring.elim ([] : List Call) fun t =>
        [.resolveQueries t.queries 0 Timer.timesCount t.resolved 0,
          .copyBuffer t.resolved 0 t.readback 0 Timer.timesSize]) ++
        ([.submit 1, .present] : List Call))))

theorem makes_drawPass (r : SurfaceRenderer) (measuring : Option Timer) :
    Makes (r.passCalls measuring) (r.drawPass measuring) := by
  have hsubmit : Makes [.submit 1, .present] (do submit r.context.device; call .present) :=
    (makes_submit _).bind fun _ => .call _
  refine (Makes.call _).bind fun _ => (Makes.call _).bind fun _ => (Makes.call _).bind fun _ =>
    (Makes.call _).bind fun _ => r.pipeline.makes_draw.bind fun _ => (Makes.call _).bind fun _ => ?_
  cases measuring with
  | none => exact hsubmit
  | some t => exact ((Makes.call _).bind fun _ => .call _).bind fun _ => hsubmit

theorem untimed_drawPass (r : SurfaceRenderer) : Untimed (r.drawPass none) :=
  .of_makes (r.makes_drawPass none) (by simp [passCalls, Pipeline.drawCalls, Call.isTiming])

theorem untimed_configure (r : SurfaceRenderer) (width height : Nat) :
    Untimed (Renderer.configure r width height) := by
  refine Untimed.bind ?_ fun _ => .pure _
  unfold Context.resize
  split
  · exact .pure _
  · exact (Untimed.call rfl).bind fun _ => .pure _

theorem untimed_writeUniforms (r : SurfaceRenderer) (block : UniformBlock) :
    Untimed (Renderer.writeUniforms r block) :=
  (Untimed.of_makes (makes_writeBuffer _ _ block) (by simp [Call.isTiming])).bind fun _ => .pure _

theorem untimed_release {r : SurfaceRenderer} (hr : r.timer = none) :
    Untimed (Renderer.release r) := by
  have hrelease : Untimed (r.pipeline.release >>= fun _ => note .rendererReleased) :=
    (Untimed.call rfl).bind fun _ => .note _
  show Untimed r.release
  unfold release
  rw [hr]
  exact hrelease

end SurfaceRenderer

end Gpu

end ShaderPreview
