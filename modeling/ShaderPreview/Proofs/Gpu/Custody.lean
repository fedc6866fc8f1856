import ShaderPreview.Proofs.Gpu.Ledger
import ShaderPreview.Proofs.Gpu.Verdict
import ShaderPreview.Proofs.Preview.Keeping

/-!
# Who holds which buffers

`Tends held m kept` says of a computation that where it finds the buffers `held`, its calls lead to
those of `kept`, which may hang on its answer, that they nest the error scopes, and that none of them
is about textures or ends a device.  There is a rule for every way of building computations, and the
parts of a renderer follow them: to connect takes custody of three buffers at most, to release gives
them up, and all that lies between leaves them as they are.
-/

namespace ShaderPreview

namespace Gpu

variable {α γ ε : Type}

namespace Call

/-- The call creates or destroys a texture, or ends a device. -/
def isTrial : Call → Bool
  | createTexture .. | destroyTexture _ | destroyDevice _ => true
  | _ => false

/-- The call neither creates nor destroys anything, and leaves the error scopes alone. -/
def isPlain (c : Call) : Bool :=
  c.created?.isNone && c.destroyed?.isNone && !c.isScoping && !c.isTrial

theorem of_isPlain {c : Call} (hc : c.isPlain) :
    c.created? = none ∧ c.destroyed? = none ∧ c.isScoping = false ∧ c.isTrial = false := by
  simpa [isPlain, and_assoc] using hc

end Call

/-- What the calls between two worlds keep to that lead from the buffers `held` to others. -/
structure Tended (held : List Buffer) (w : World) (cs : List Call) (held' : List Buffer)
    (w' : World) : Prop where
  calls : w'.calls = w.calls ++ cs
  /-- New buffers are given numbers from that of the next resource on. -/
  leads : ∀ n ≤ w.resources, ∃ n' ≤ w'.resources, Ledger.Leads ⟨held, n⟩ cs ⟨held', n'⟩
  nested : Nested cs
  lasting : ∀ c ∈ cs, c.isTrial = false

namespace Tended

variable {held held₁ held₂ : List Buffer} {w w₁ w₂ : World} {cs ds : List Call}

theorem of_eq (hc : w₁.calls = w.calls) (hr : w₁.resources = w.resources) :
    Tended held w [] held w₁ where
  calls := by rw [hc, List.append_nil]
  leads n hn := ⟨n, hr ▸ hn, .nil _⟩
  nested := .nil
  lasting := List.forall_mem_nil _

theorem trans (h : Tended held w cs held₁ w₁) (h' : Tended held₁ w₁ ds held₂ w₂) :
    Tended held w (cs ++ ds) held₂ w₂ where
  calls := by rw [h'.calls, h.calls, List.append_assoc]
  leads n hn := by
    obtain ⟨n₁, hn₁, hleads⟩ := h.leads n hn
    obtain ⟨n₂, hn₂, hleads'⟩ := h'.leads n₁ hn₁
    exact ⟨n₂, hn₂, hleads.trans hleads'⟩
  nested := h.nested.append h'.nested
  lasting := List.forall_mem_append.2 ⟨h.lasting, h'.lasting⟩

theorem buffersReturned (h : Tended [] w cs [] w₁) : BuffersReturned cs := by
  obtain ⟨n, -, hleads⟩ := h.leads w.resources (Nat.le_refl _)
  exact hleads.buffersReturned

/-- What is tended in an error scope is tended. -/
theorem scope (d : DeviceId) (h : Tended held (pushScope d w).2 cs held₁ w₁) :
    Tended held w (scopeCalls d cs (popScope d w₁).1) held₁ (popScope d w₁).2 where
  calls := by
    have hpop : (popScope d w₁).2.calls = w₁.calls ++ [.popScope d (popScope d w₁).1] := rfl
    have hpush : (pushScope d w).2.calls = w.calls ++ [.pushScope d] := rfl
    rw [hpop, h.calls, hpush, scopeCalls]
    simp
  leads n hn := by
    obtain ⟨n₁, hn₁, hleads⟩ := h.leads n hn
    refine ⟨n₁, hn₁, .other rfl rfl (List.forall_mem_nil _) (hleads.trans ?_)⟩
    exact .other rfl rfl (List.forall_mem_nil _) (.nil _)
  nested := h.nested.scopeCalls d _
  lasting := List.forall_mem_append.2
    ⟨List.forall_mem_cons.2 ⟨rfl, h.lasting⟩, List.forall_mem_singleton.2 rfl⟩

end Tended

/-- Where it finds the buffers `held`, the computation leads to those that are `kept`. -/
def Tends (held : List Buffer) (m : StateM World α) (kept : α → List Buffer) : Prop :=
  ∀ w, ∃ cs, Tended held w cs (kept (m w).1) (m w).2

/-- The computation leaves the buffers that are held as they are. -/
abbrev Steady (held : List Buffer) (m : StateM World α) : Prop := Tends held m fun _ => held

namespace Tends

variable {held : List Buffer} {kept : α → List Buffer} {kept' : γ → List Buffer}
  {m : StateM World α} {f : α → StateM World γ}

theorem pure (a : α) (h : kept a = held) : Tends held (Pure.pure a) kept := by
  intro w
  refine ⟨[], ?_⟩
  rw [show kept ((Pure.pure a : StateM World α) w).1 = held from h]
  exact .of_eq rfl rfl

theorem bind (hm : Tends held m kept) (hf : ∀ a, Tends (kept a) (f a) kept') :
    Tends held (m >>= f) kept' := by
  intro w
  obtain ⟨cs, hcs⟩ := hm w
  obtain ⟨ds, hds⟩ := hf (m w).1 (m w).2
  exact ⟨cs ++ ds, hcs.trans hds⟩

theorem call {c : Call} (hc : c.isPlain) (hu : ∀ b ∈ c.uses, b ∈ held) :
    Steady held (Gpu.call c) := by
  intro w
  obtain ⟨hcreated, hdestroyed, hscoping, htrial⟩ := Call.of_isPlain hc
  refine ⟨[c], rfl, fun n hn => ⟨n, hn, .other hcreated hdestroyed hu (.nil _)⟩, ?_, ?_⟩
  · exact .of_forall (by simpa using hscoping)
  · simpa using htrial

theorem plain {c : Call} (hc : c.isPlain) (hu : c.uses = []) : Steady held (Gpu.call c) := by
  apply call hc
  rw [hu]
  exact List.forall_mem_nil _

theorem note (e : Event) : Steady held (Gpu.note e) := fun _ => ⟨[], .of_eq rfl rfl⟩

theorem get : Steady held (MonadState.get : StateM World World) := fun _ => ⟨[], .of_eq rfl rfl⟩

theorem update (f : World → Script) (g : World → List Device) (k : World → List Mapping) :
    Steady held
      (modify fun w => { w with script := f w, devices := g w, mappings := k w }) :=
  fun _ => ⟨[], .of_eq rfl rfl⟩

theorem createBuffer (label : String) (size : Nat) (usage : List BufferUsage) :
    Tends held (Gpu.createBuffer label size usage) fun b => b :: held := by
  intro w
  refine ⟨[.createBuffer ⟨w.resources, label⟩ size usage false], rfl, fun n hn => ?_, ?_, ?_⟩
  · exact ⟨w.resources + 1, Nat.le_refl _, .create hn (.nil _)⟩
  · exact .of_forall (by simp [Call.isScoping])
  · simp [Call.isTrial]

theorem destroyBuffer {b : Buffer} (hb : b ∈ held) :
    Tends held (Gpu.call (.destroyBuffer b)) fun _ => held.erase b := by
  intro w
  refine ⟨[.destroyBuffer b], rfl, fun n hn => ⟨n, hn, .destroy hb (.nil _)⟩, ?_, ?_⟩
  · exact .of_forall (by simp [Call.isScoping])
  · simp [Call.isTrial]

theorem destroyNewest (b : Buffer) :
    Tends (b :: held) (Gpu.call (.destroyBuffer b)) fun _ => held := by
  have hdestroy := destroyBuffer (List.mem_cons_self : b ∈ b :: held)
  rw [List.erase_cons_head] at hdestroy
  exact hdestroy

theorem inScope (d : DeviceId) (hm : Tends held m kept) :
    Tends held (inScope d m) fun answer => kept answer.1 := by
  intro w
  obtain ⟨cs, hcs⟩ := hm (pushScope d w).2
  exact ⟨_, hcs.scope d⟩

theorem forIn {δ σ : Type} {step : δ → σ → StateM World (ForInStep σ)}
    (hstep : ∀ a s, Steady held (step a s)) (l : List δ) (s : σ) :
    Steady held (ForIn.forIn l s step) := by
  induction l generalizing s with
  | nil => exact .pure _ rfl
  | cons a l ih =>
    rw [List.forIn_cons]
    refine (hstep a s).bind fun next => ?_
    cases next with
    | done s => exact .pure _ rfl
    | yield s => exact ih s

end Tends

/-! ## Errors and scripted steps -/

section Steps

variable {held : List Buffer} (d : DeviceId)

theorem steady_raiseIf (error : Option (Option (List Char))) : Steady held (raiseIf d error) := by
  unfold raiseIf
  split
  · refine Tends.get.bind fun w => ?_
    split
    · exact .update _ _ _
    · exact (Tends.update _ _ _).bind fun _ => .note _
    · exact .pure _ rfl
  · exact .pure _ rfl

/-- A call that uses up a part of the script and may raise an error. -/
theorem steady_scripted {c : Call} (hc : c.isPlain) (hu : ∀ b ∈ c.uses, b ∈ held)
    (errors : Script → List (Option (List Char)))
    (behind : List (Option (List Char)) → Script → Script) :
    Steady held (do
      call c
      let list := errors (← get).script
      modify fun w => { w with script := behind list w.script }
      raiseIf d list.head?) :=
  (Tends.call hc hu).bind fun _ => Tends.get.bind fun _ =>
    (Tends.update _ _ _).bind fun _ => steady_raiseIf d _

theorem steady_createModule (m : ShaderModule) (program : List Char) :
    Steady held (createModule d m program) := by
  refine (Tends.plain rfl rfl).bind fun _ => ?_
  split
  all_goals
    exact Tends.get.bind fun _ => (Tends.update _ _ _).bind fun _ =>
      steady_raiseIf d _

theorem steady_createPipeline (p : PipelineSetup) : Steady held (createPipeline d p) :=
  steady_scripted d rfl (List.forall_mem_nil _) Script.pipelineErrors
    fun list σ => { σ with pipelineErrors := list.drop 1 }

theorem steady_writeBuffer {b : Buffer} (hb : b ∈ held) (block : UniformBlock) :
    Steady held (writeBuffer d b block) :=
  steady_scripted d rfl (by simpa [Call.uses] using hb) Script.writeErrors
    fun list σ => { σ with writeErrors := list.drop 1 }

theorem steady_submit : Steady held (submit d) :=
  steady_scripted d rfl (List.forall_mem_nil _) Script.submitErrors
    fun list σ => { σ with submitErrors := list.drop 1 }

theorem steady_acquire : Steady held acquire :=
  Tends.get.bind fun _ => (Tends.update _ _ _).bind fun _ =>
    (Tends.plain rfl rfl).bind fun _ => .pure _ rfl

theorem steady_pollDevice (waiting : Bool) : Steady held (pollDevice waiting) :=
  (Tends.plain rfl rfl).bind fun _ => .update _ _ _

theorem steady_mapBuffer {b : Buffer} (hb : b ∈ held) : Steady held (mapBuffer b) :=
  (Tends.call rfl (by simpa [Call.uses] using hb)).bind fun _ => Tends.get.bind fun _ =>
    (Tends.update _ _ _).bind fun _ => Tends.get.bind fun _ => .pure _ rfl

theorem steady_readTimes {b : Buffer} (hb : b ∈ held) : Steady held (readTimes b) :=
  (Tends.call rfl (by simpa [Call.uses] using hb)).bind fun _ => Tends.get.bind fun _ => .pure _ rfl

end Steps

/-! ## Pipelines -/

section Pipelines

variable {held : List Buffer}

theorem steady_createModules (d : DeviceId) (program : List Char) :
    Steady held (createModules d program) :=
  (steady_createModule d _ _).bind fun _ => steady_createModule d _ _

theorem tends_createObjects (d : DeviceId) (format : TextureFormat) :
    Tends held (createObjects d format) fun p => p.uniforms :: held := by
  refine (Tends.plain rfl rfl).bind fun _ =>
    (Tends.createBuffer _ _ _).bind fun b => ?_
  refine (Tends.call rfl (by simp [Call.uses])).bind fun _ =>
    (Tends.plain rfl rfl).bind fun _ =>
      (steady_createPipeline d _).bind fun _ => ?_
  exact .pure _ rfl

/-- The buffers that are held behind the creation of a pipeline. -/
def Pipeline.buffers : Except PipelineError Pipeline → List Buffer
  | .ok p => [p.uniforms]
  | .error _ => []

/-- The uniform buffer is given back if the pipeline is refused. -/
theorem tends_createChecked (checked : Except Diagnostic Unit) (d : DeviceId)
    (format : TextureFormat) (program : List Char) :
    Tends [] (Pipeline.createChecked checked d format program) Pipeline.buffers := by
  unfold Pipeline.createChecked
  rcases checked with diagnostic | ⟨⟩
  · exact .pure _ rfl
  refine ((steady_createModules d program).inScope d).bind fun (_, error) => ?_
  rcases error with _ | message
  · refine ((tends_createObjects d format).inScope d).bind fun (p, error) => ?_
    rcases error with _ | message
    · exact .pure _ rfl
    · exact (Tends.destroyNewest _).bind fun _ => .pure _ rfl
  · exact .pure _ rfl

theorem steady_pipelineDraw (p : Pipeline) : Steady held p.draw :=
  (Tends.plain rfl rfl).bind fun _ =>
    (Tends.plain rfl rfl).bind fun _ => .plain rfl rfl

end Pipelines

/-! ## Opening a device -/

section Opening

variable {held : List Buffer} {m : Opening ε α} {k : α → Opening ε γ}

theorem steady_bind (hm : Steady held m.run) (hk : ∀ a, Steady held (k a).run) :
    Steady held (m >>= k).run := by
  rw [ExceptT.run_bind]
  refine Tends.bind hm fun answer => ?_
  rcases answer with e | a
  · exact .pure _ rfl
  · exact hk a

theorem steady_lift {m : StateM World α} (hm : Steady held m) :
    Steady held (liftM m : Opening ε α).run :=
  Tends.bind hm fun _ => .pure _ rfl

theorem steady_throw (e : ε) : Steady held (throw e : Opening ε α).run := .pure _ rfl

theorem steady_guard {p : Prop} [Decidable p] {e : ε} {m : Opening ε γ} {k : α → Opening ε γ}
    (hm : Steady held m.run) : Steady held (if p then throw e >>= k else m).run := by
  split
  · exact steady_throw e
  · exact hm

theorem steady_openDevice (label : String) (timed : Bool) :
    Steady held (openDevice label timed) := by
  refine Tends.get.bind fun w => (Tends.plain rfl rfl).bind fun _ => ?_
  dsimp only
  split
  · exact .pure _ rfl
  · exact Tends.get.bind fun _ => (Tends.update _ _ _).bind fun _ => .pure _ rfl

variable (options : GpuOptions)

theorem steady_createSurface (handles : WindowHandles) :
    Steady held (createSurface handles).run := by
  unfold createSurface
  dsimp only
  refine steady_guard (steady_guard (steady_bind (steady_lift (.plain rfl rfl))
    fun _ => steady_bind (steady_lift .get) fun w => ?_))
  split
  · exact steady_throw _
  · exact .pure _ rfl

theorem steady_requestAdapter (forSurface : Bool) :
    Steady held (requestAdapter options forSurface).run := by
  refine steady_bind (steady_lift (.plain rfl rfl)) fun _ =>
    steady_bind (steady_lift .get) fun w => ?_
  split
  · exact steady_throw _
  · exact steady_lift (.note _)

theorem steady_requestDevice (label : String) :
    Steady held (requestDevice options label).run := by
  refine steady_bind (steady_lift .get) fun w => ?_
  dsimp only
  split
  · refine steady_bind (steady_lift (.note _)) fun _ =>
      steady_bind (steady_lift (steady_openDevice label _)) fun answer => ?_
    cases answer with
    | error reason => exact steady_throw _
    | ok d => exact .pure _ rfl
  · refine steady_bind (steady_lift (steady_openDevice label _)) fun answer => ?_
    cases answer with
    | error reason => exact steady_throw _
    | ok d => exact .pure _ rfl

theorem steady_presentMode : Steady held (presentMode options) := by
  refine Tends.get.bind fun w => ?_
  split
  · exact .pure _ rfl
  · exact (Tends.note _).bind fun _ => .pure _ rfl

theorem steady_open (handles : WindowHandles) (width height : Nat) :
    Steady held (Context.open handles options width height).run := by
  refine steady_bind (steady_lift (.plain rfl rfl)) fun _ =>
    steady_bind (steady_createSurface handles) fun _ =>
      steady_bind (steady_requestAdapter options true) fun _ =>
        steady_bind (steady_lift .get) fun w => steady_guard ?_
  refine steady_bind (steady_requestDevice options _) fun (d, timed) =>
    steady_bind (steady_lift (.plain rfl rfl)) fun _ =>
      steady_bind (steady_lift .get) fun w => ?_
  dsimp only
  split
  · exact steady_throw _
  · exact steady_bind (steady_lift (steady_presentMode options)) fun mode =>
      steady_bind (steady_lift (.note _)) fun _ =>
        steady_bind (steady_lift (.plain rfl rfl)) fun _ => .pure _ rfl

end Opening

/-! ## Renderers -/

/-- The buffers of a timer, the newest first. -/
def Timer.buffers (t : Timer) : List Buffer := [t.readback, t.resolved]

/-- The buffers of a renderer, the newest first. -/
def SurfaceRenderer.buffers (r : SurfaceRenderer) : List Buffer :=
  r.timer.elim [] Timer.buffers ++ [r.pipeline.uniforms]

/-- The buffers that are held with a renderer, or with none. -/
def buffersOf (held : Option SurfaceRenderer) : List Buffer := held.elim [] SurfaceRenderer.buffers

theorem erase_second {a b : Buffer} (l : List Buffer) : (a :: b :: l).erase b = a :: l := by
  by_cases hab : a = b
  · rw [hab, List.erase_cons_head]
  · rw [List.erase_cons_tail (by simpa using hab), List.erase_cons_head]

namespace Timer

variable {held : List Buffer}

theorem tends_create : Tends held Timer.create fun t => t.buffers ++ held :=
  (Tends.plain rfl rfl).bind fun _ => (Tends.createBuffer _ _ _).bind fun _ =>
    (Tends.createBuffer _ _ _).bind fun _ => Tends.get.bind fun _ => .pure _ rfl

theorem tends_poll (t : Timer) :
    Tends (t.buffers ++ held) t.poll fun answer => answer.2.buffers ++ held := by
  have hb : t.readback ∈ t.buffers ++ held := List.mem_cons_self
  unfold poll
  split
  · exact .pure _ rfl
  · exact .pure _ rfl
  · refine (steady_pollDevice false).bind fun _ => Tends.get.bind fun w => ?_
    split
    · exact .pure _ rfl
    · exact (Tends.note _).bind fun _ => .pure _ rfl
    · exact .pure _ rfl
    · exact (steady_readTimes hb).bind fun _ =>
        (Tends.call rfl (by simpa [Call.uses] using hb)).bind fun _ => .pure _ rfl

theorem steady_resolve (t : Timer) : Steady (t.buffers ++ held) t.resolve :=
  (Tends.call rfl (by simp [Call.uses, buffers])).bind fun _ =>
    .call rfl (by simp [Call.uses, buffers])

theorem tends_afterSubmit (t : Timer) :
    Tends (t.buffers ++ held) t.afterSubmit fun t' => t'.buffers ++ held := by
  unfold afterSubmit
  split
  · exact .pure _ rfl
  · exact (steady_mapBuffer List.mem_cons_self).bind fun _ => .pure _ rfl

theorem tends_release (t : Timer) : Tends (t.buffers ++ held) t.release fun _ => held := by
  refine (Tends.destroyBuffer (by simp [buffers])).bind fun _ => ?_
  have herase : (t.buffers ++ held).erase t.resolved = t.readback :: held := erase_second held
  rw [herase]
  exact .destroyNewest _

end Timer

namespace SurfaceRenderer

variable (r : SurfaceRenderer)

theorem uniforms_mem_buffers : r.pipeline.uniforms ∈ r.buffers :=
  List.mem_append_right _ (List.mem_singleton_self _)

theorem buffers_of_timer {t : Timer} (ht : r.timer = some t) :
    r.buffers = t.buffers ++ [r.pipeline.uniforms] := by
  rw [buffers, ht]
  rfl

theorem tends_connectWith (check : StageCheck) (handles : WindowHandles) (options : GpuOptions)
    (a : Shader.Assembly) (width height : Nat) :
    Tends [] (connectWith check handles options a width height)
      fun answer => buffersOf answer.toOption := by
  refine (steady_open options handles width height).bind fun answer => ?_
  rcases answer with e | context
  · exact .pure _ rfl
  refine (tends_createChecked _ _ _ _).bind fun answer => ?_
  rcases answer with e | pipeline
  · exact .pure _ rfl
  have hconnected {m : StateM World (Option Timer)} (hm : Tends [pipeline.uniforms] m
      fun timer => timer.elim [] Timer.buffers ++ [pipeline.uniforms]) :
      Tends [pipeline.uniforms] (do
        let timer ← m
        note .rendererConnected
        return .ok ⟨context, pipeline, timer⟩ : StateM World (Except ConnectError SurfaceRenderer))
        fun answer => buffersOf answer.toOption :=
    hm.bind fun _ => (Tends.note _).bind fun _ => .pure _ rfl
  dsimp only
  split
  · exact hconnected (Timer.tends_create.bind fun t => .pure (some t) rfl)
  · exact hconnected (.pure none rfl)

theorem tends_configure (width height : Nat) :
    Tends r.buffers (Renderer.configure r width height) SurfaceRenderer.buffers := by
  have hresize : Steady r.buffers (r.context.resize width height) := by
    unfold Context.resize
    split
    · exact .pure _ rfl
    · exact (Tends.plain rfl rfl).bind fun _ => .pure _ rfl
  exact hresize.bind fun _ => .pure _ rfl

theorem tends_writeUniforms (block : UniformBlock) :
    Tends r.buffers (Renderer.writeUniforms r block) SurfaceRenderer.buffers :=
  (steady_writeBuffer _ r.uniforms_mem_buffers block).bind fun _ => .pure _ rfl

theorem tends_pollTimer : Tends r.buffers r.pollTimer fun answer => answer.2.buffers := by
  unfold pollTimer
  rcases ht : r.timer with _ | t
  · exact .pure _ rfl
  · rw [r.buffers_of_timer ht]
    exact t.tends_poll.bind fun _ => .pure _ rfl

theorem steady_drawPass {measuring : Option Timer} (hm : ∀ t ∈ measuring, r.timer = some t) :
    Steady r.buffers (r.drawPass measuring) := by
  refine (Tends.plain rfl rfl).bind fun _ => (Tends.plain rfl rfl).bind fun _ =>
    (Tends.plain rfl rfl).bind fun _ => (Tends.plain rfl rfl).bind fun _ =>
      (steady_pipelineDraw _).bind fun _ => (Tends.plain rfl rfl).bind fun _ => ?_
  have hsubmit : Steady r.buffers (do submit r.context.device; call .present) :=
    (steady_submit _).bind fun _ => .plain rfl rfl
  cases measuring with
  | none => exact hsubmit
  | some t =>
    rw [r.buffers_of_timer (hm t rfl)] at hsubmit ⊢
    exact t.steady_resolve.bind fun _ => hsubmit

theorem tends_drawFrame (timed : Bool) :
    Tends r.buffers (r.drawFrame timed) SurfaceRenderer.buffers := by
  have hm : ∀ t ∈ r.measuring? timed, r.timer = some t := fun t ht =>
    (Option.filter_eq_some_iff.1 ht).1
  have hbuffers : ∀ t ∈ ((r.measuring? timed).map Timer.begin).or r.timer,
      r.buffers = t.buffers ++ [r.pipeline.uniforms] := by
    intro t ht
    rcases hmeasuring : r.measuring? timed with _ | t' <;> rw [hmeasuring] at ht
    · exact r.buffers_of_timer ht
    · obtain rfl := Option.some.inj ht
      show r.buffers = t'.buffers ++ [r.pipeline.uniforms]
      exact r.buffers_of_timer (hm t' hmeasuring)
  unfold drawFrame
  refine (r.steady_drawPass hm).bind fun _ => ?_
  rcases htimer : ((r.measuring? timed).map Timer.begin).or r.timer with _ | t
  · exact .pure _ rfl
  · rw [hbuffers t htimer]
    exact t.tends_afterSubmit.bind fun _ => .pure _ rfl

theorem tends_draw (timed : Bool) :
    Tends r.buffers (r.draw timed) fun answer => answer.2.buffers := by
  have hskip : Steady r.buffers r.context.reconfigure := .plain rfl rfl
  refine steady_acquire.bind fun outcome => ?_
  cases outcome with
  | ok => exact (r.tends_drawFrame timed).bind fun _ => .pure _ rfl
  | lost | outdated =>
    exact (Tends.note _).bind fun _ => hskip.bind fun _ => .pure _ rfl
  | timeout => exact (Tends.note _).bind fun _ => .pure _ rfl
  | memory | other => exact .pure _ rfl

theorem tends_release : Tends r.buffers r.release fun _ => [] := by
  have huniforms : Tends [r.pipeline.uniforms] (r.pipeline.release >>= fun _ =>
      note .rendererReleased) fun _ => [] :=
    (Tends.destroyNewest _).bind fun _ => .note _
  unfold release
  rcases ht : r.timer with _ | t
  · rw [buffers, ht]
    exact huniforms
  · rw [r.buffers_of_timer ht]
    exact t.tends_release.bind fun _ => huniforms

end SurfaceRenderer

end Gpu

end ShaderPreview
