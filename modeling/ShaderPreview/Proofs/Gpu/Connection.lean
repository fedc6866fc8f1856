import ShaderPreview.Proofs.Gpu.Calls
import ShaderPreview.Proofs.Preview.Lifecycle
import ShaderPreview.Proofs.Shader.EntryText
import ShaderPreview.Proofs.Text.Literal

/-!
# The calls of a connection

A connection opens a device with a surface, builds the pipeline of a program on it, and a timer if
passes are to be timed.  `Connects` lists every way in which this can end, with the calls that it
makes; the ways in which its parts can end are `Opens` and `Builds`.
-/

namespace ShaderPreview

namespace Gpu

variable {α γ ε : Type}

/-! ## Steps that may end in an error -/

/-- From a world with the script `σ` and behind the calls `before`, the steps leave the script alone,
and `Q` holds of their answer and all calls. -/
def Ends (σ : Script) (before : List Call) (m : Opening ε α)
    (Q : Except ε α → List Call → Prop) : Prop :=
  ∀ w, w.script = σ → ∃ cs, Called w cs (m.run w).2 ∧ (m.run w).2.script = σ ∧
    Q (m.run w).1 (before ++ cs)

namespace Ends

variable {σ : Script} {before : List Call} {m : Opening ε α} {k : α → Opening ε γ}

theorem pure {a : α} {Q : Except ε α → List Call → Prop} (h : Q (.ok a) before) :
    Ends σ before (Pure.pure a) Q := by
  rintro w rfl
  refine ⟨[], .refl w, rfl, ?_⟩
  rw [List.append_nil]
  exact h

theorem throw {e : ε} {Q : Except ε α → List Call → Prop} (h : Q (.error e) before) :
    Ends σ before (MonadExcept.throw e) Q := by
  rintro w rfl
  refine ⟨[], .refl w, rfl, ?_⟩
  rw [List.append_nil]
  exact h

/-- Nothing that follows a thrown error is done. -/
theorem throw_bind {e : ε} {Q : Except ε γ → List Call → Prop} (h : Q (.error e) before) :
    Ends σ before (MonadExcept.throw e >>= k) Q := throw h

theorem bind {Q : Except ε γ → List Call → Prop} (h : Ends σ before m fun answer cs =>
      match answer with
      | .error e => Q (.error e) cs
      | .ok a => Ends σ cs (k a) Q) :
    Ends σ before (m >>= k) Q := by
  intro w hw
  obtain ⟨cs, hcs, hσ, hq⟩ := h w hw
  rw [ExceptT.run_bind]
  rcases hm : m.run w with ⟨e | a, w₁⟩
  · rw [hm] at hcs hσ hq
    refine ⟨cs, ?_, ?_, ?_⟩ <;> rw [bind_apply, hm] <;> assumption
  · rw [hm] at hcs hσ hq
    obtain ⟨ds, hds, hσ', hq'⟩ := hq w₁ hσ
    rw [List.append_assoc] at hq'
    refine ⟨cs ++ ds, ?_, ?_, ?_⟩ <;> rw [bind_apply, hm]
    · exact hcs.trans hds
    · exact hσ'
    · exact hq'

theorem ite {c : Prop} [Decidable c] {m' : Opening ε α} {Q : Except ε α → List Call → Prop}
    (h : c → Ends σ before m Q) (h' : ¬ c → Ends σ before m' Q) :
    Ends σ before (if c then m else m') Q := by
  split
  · exact h (by assumption)
  · exact h' (by assumption)

/-- What is read of the world is its script. -/
theorem get_bind {k : World → Opening ε γ} {Q : Except ε γ → List Call → Prop}
    (h : ∀ w : World, w.script = σ → Ends σ before (k w) Q) :
    Ends σ before (getThe World >>= k) Q :=
  fun w hw => h w hw w hw

/-- A computation that makes known calls and leaves the script alone. -/
theorem lift_bind {m : StateM World α} {cs : List Call} {Q : Except ε γ → List Call → Prop}
    (hm : ∀ w, w.script = σ → Called w cs (m w).2 ∧ (m w).2.script = σ)
    (h : ∀ w : World, w.script = σ → Ends σ (before ++ cs) (k (m w).1) Q) :
    Ends σ before (liftM m >>= k) Q := by
  intro w hw
  obtain ⟨hcs, hσ⟩ := hm w hw
  obtain ⟨ds, hds, hσ', hq⟩ := h w hw (m w).2 hσ
  rw [List.append_assoc] at hq
  exact ⟨cs ++ ds, hcs.trans hds, hσ', hq⟩

theorem call_bind {c : Call} {k : Unit → Opening ε γ} {Q : Except ε γ → List Call → Prop}
    (h : Ends σ (before ++ [c]) (k ()) Q) : Ends σ before (liftM (call c) >>= k) Q :=
  lift_bind (fun _ hw => ⟨⟨rfl, rfl⟩, hw⟩) fun _ _ => h

theorem note_bind {e : Event} {k : Unit → Opening ε γ} {Q : Except ε γ → List Call → Prop}
    (h : Ends σ before (k ()) Q) : Ends σ before (liftM (note e) >>= k) Q := by
  refine lift_bind (fun w hw => ⟨Makes.note e w, hw⟩) fun _ _ => ?_
  rw [List.append_nil]
  exact h

end Ends

/-! ## Opening a device -/

/-- The set-up of a new surface, if it has a format. -/
def chosenSetup? (σ : Script) (options : GpuOptions) (width height : Nat) : Option SurfaceSetup :=
  (chooseFormat? σ.formats).map fun format =>
    ⟨max width 1, max height 1, format,
      (chooseMode? σ.presentModes options.presentMode).getD .fifo, σ.alphaModes.head?.getD .auto,
      .renderTarget, [], 2⟩

section Opens

variable (σ : Script) (handles : WindowHandles) (options : GpuOptions) (width height : Nat)

/-- The calls up to the choice of an adapter. -/
def adapterCalls : List Call :=
  [.openInstance true, .createSurface, .requestAdapter options.powerPreference true false]

/-- Passes are timed if both the adapter and the options allow it. -/
def timesPasses : Bool := options.timerQueries && σ.timestamps

/-- The calls up to the request for a device. -/
def deviceCalls : List Call :=
  adapterCalls options ++
    ([.requestDevice "fragscope device" (timesPasses σ options) σ.maxDimension] : List Call)

/-- How a device for a surface can be opened, and the calls that this takes. -/
inductive Opens : Except ContextError Context → List Call → Prop where
  | noWindowHandle (h : handles.window = false) :
      Opens (.error .noWindowHandle) [.openInstance true]
  | noDisplayHandle (h : handles.display = false) :
      Opens (.error .noDisplayHandle) [.openInstance true]
  | noSurface {reason : List Char} (h : σ.surfaceError = some reason) :
      Opens (.error (.noSurface reason)) [.openInstance true, .createSurface]
  | noAdapter {reason : List Char} (h : σ.adapterError = some reason) :
      Opens (.error (.noAdapter reason)) (adapterCalls options)
  | tooLarge (h : σ.maxDimension < max width 1 ∨ σ.maxDimension < max height 1) :
      Opens (.error (.tooLarge σ.maxDimension (max width 1) (max height 1))) (adapterCalls options)
  | noDevice {reason : List Char} (h : σ.deviceError = some reason) :
      Opens (.error (.noDevice reason)) (deviceCalls σ options)
  | noFormat (d : DeviceId) (h : chooseFormat? σ.formats = none) :
      Opens (.error .noFormat) (deviceCalls σ options ++ [.watchErrors d])
  | opened (d : DeviceId) {setup : SurfaceSetup} (hw : max width 1 ≤ σ.maxDimension)
      (hh : max height 1 ≤ σ.maxDimension)
      (hs : chosenSetup? σ options width height = some setup) :
      Opens (.ok ⟨d, setup, timesPasses σ options⟩)
        (deviceCalls σ options ++ [.watchErrors d, .configure setup])

variable {σ handles options width height}

theorem ends_createSurface {Q : Except ContextError Unit → List Call → Prop} {before : List Call}
    (hwindow : handles.window = false → Q (.error .noWindowHandle) before)
    (hdisplay : handles.display = false → Q (.error .noDisplayHandle) before)
    (hsurface : ∀ reason, σ.surfaceError = some reason →
      Q (.error (.noSurface reason)) (before ++ [.createSurface]))
    (hok : Q (.ok ()) (before ++ [.createSurface])) :
    Ends σ before (createSurface handles) Q := by
  unfold createSurface
  dsimp only
  refine .ite (fun h => .throw_bind (hwindow (by simpa using h))) fun _ =>
    .ite (fun h => .throw_bind (hdisplay (by simpa using h))) fun _ =>
      .call_bind (.get_bind fun w hw => ?_)
  rw [hw]
  rcases hs : σ.surfaceError with _ | reason
  · exact .pure hok
  · exact .throw (hsurface reason hs)

theorem ends_requestAdapter {forSurface : Bool} {Q : Except ContextError Unit → List Call → Prop}
    {before : List Call} (hadapter : ∀ reason, σ.adapterError = some reason →
      Q (.error (.noAdapter reason))
        (before ++ [.requestAdapter options.powerPreference forSurface false]))
    (hok : Q (.ok ()) (before ++ [.requestAdapter options.powerPreference forSurface false])) :
    Ends σ before (requestAdapter options forSurface) Q := by
  refine .call_bind (.get_bind fun w hw => ?_)
  rw [hw]
  rcases hs : σ.adapterError with _ | reason
  · exact .note_bind (k := Pure.pure) (.pure hok)
  · exact .throw (hadapter reason hs)

theorem openDevice_fst (label : String) (timestamps : Bool) (w : World) :
    (openDevice label timestamps w).1 =
      match w.script.deviceError with
      | some reason => .error reason
      | none => .ok w.devices.length := by
  rcases w with ⟨⟨_, _, _ | reason⟩⟩ <;> rfl

theorem called_openDevice (label : String) (timestamps : Bool) (w : World) :
    Called w [.requestDevice label timestamps w.script.maxDimension]
      (openDevice label timestamps w).2 ∧ (openDevice label timestamps w).2.script = w.script := by
  rcases w with ⟨⟨_, _, _ | reason⟩⟩ <;> exact ⟨⟨rfl, rfl⟩, rfl⟩

theorem ends_requestDevice {label : String}
    {Q : Except ContextError (DeviceId × Bool) → List Call → Prop} {before : List Call}
    (hdevice : ∀ reason, σ.deviceError = some reason → Q (.error (.noDevice reason))
      (before ++ [.requestDevice label (timesPasses σ options) σ.maxDimension]))
    (hok : ∀ d, Q (.ok (d, timesPasses σ options))
      (before ++ [.requestDevice label (timesPasses σ options) σ.maxDimension])) :
    Ends σ before (requestDevice options label) Q := by
  have hopen (timed : Bool) (w : World) (hw : w.script = σ) :
      Called w [.requestDevice label timed σ.maxDimension] (openDevice label timed w).2 ∧
        (openDevice label timed w).2.script = σ :=
    hw ▸ called_openDevice label timed w
  refine .get_bind fun w hw => ?_
  dsimp only
  rw [hw]
  refine .ite (fun _ => .note_bind (.lift_bind (hopen _) fun w hw => ?_)) fun _ =>
    .lift_bind (hopen _) fun w hw => ?_
  all_goals
    rw [openDevice_fst, hw]
    rcases hs : σ.deviceError with _ | reason
    · exact .pure (hok _)
    · exact .throw (hdevice reason hs)

theorem presentMode_spec (options : GpuOptions) (w : World) :
    (presentMode options w).1 =
        (chooseMode? w.script.presentModes options.presentMode).getD .fifo ∧
      Called w [] (presentMode options w).2 ∧ (presentMode options w).2.script = w.script := by
  have hget : (get : StateM World World) w = (w, w) := rfl
  unfold presentMode
  simp only [bind_apply, hget]
  rcases chooseMode? w.script.presentModes options.presentMode with _ | mode
  · exact ⟨rfl, .of_eq rfl rfl, rfl⟩
  · exact ⟨rfl, .refl w, rfl⟩

variable (handles options width height)

theorem ends_open : Ends σ [] (Context.open handles options width height)
    (Opens σ handles options width height) := by
  refine .call_bind (.bind (ends_createSurface .noWindowHandle .noDisplayHandle
    (fun _ => .noSurface) ?_))
  refine .bind (ends_requestAdapter (fun _ => .noAdapter) ?_)
  refine .get_bind fun w hw => ?_
  rw [hw]
  refine .ite (fun h => .throw_bind (.tooLarge h)) fun hfits => ?_
  refine .bind (ends_requestDevice (fun _ => .noDevice) fun d => ?_)
  refine .call_bind (.get_bind fun w hw => ?_)
  dsimp only
  rw [hw]
  rcases hf : chooseFormat? σ.formats with _ | format
  · exact .throw (.noFormat d hf)
  · refine .lift_bind (fun w hw => hw ▸ (presentMode_spec options w).2) fun w hw => ?_
    refine .note_bind (.call_bind (.pure ?_))
    rw [(presentMode_spec options w).1, hw]
    simp only [not_or, Nat.not_lt] at hfits
    have hs : chosenSetup? σ options width height = some
        ⟨max width 1, max height 1, format,
          (chooseMode? σ.presentModes options.presentMode).getD .fifo,
          σ.alphaModes.head?.getD .auto, .renderTarget, [], 2⟩ := by
      rw [chosenSetup?, hf]
      rfl
    simpa [adapterCalls, deviceCalls] using Opens.opened d hfits.1 hfits.2 hs

end Opens

/-! ## Building a pipeline -/

/-- The calls of a step in an error scope. -/
def scopeCalls (d : DeviceId) (cs : List Call) (error : Option (List Char)) : List Call :=
  .pushScope d :: cs ++ [.popScope d error]

theorem called_popScope (d : DeviceId) (w : World) :
    Called w [.popScope d (popScope d w).1] (popScope d w).2 := ⟨rfl, rfl⟩

theorem called_createBuffer (label : String) (size : Nat) (usage : List BufferUsage) (w : World) :
    Called w [.createBuffer (createBuffer label size usage w).1 size usage false]
      (createBuffer label size usage w).2 := ⟨rfl, rfl⟩

theorem called_inScope (d : DeviceId) {step : StateM World α} (cs : α → List Call)
    (hs : ∀ w, Called w (cs (step w).1) (step w).2) (w : World) :
    Called w (scopeCalls d (cs (inScope d step w).1.1) (inScope d step w).1.2)
      (inScope d step w).2 :=
  ((makes_pushScope d w).trans (hs _)).trans (called_popScope d _)

section Builds

variable (checked : Except Diagnostic Unit) (d : DeviceId) (format : TextureFormat)
  (program : List Char)

/-- The calls that create the modules of both stages. -/
def moduleCalls : List Call :=
  [.createModule vertexModule (Text.byteLength Shader.Triangle.program),
    .createModule fragmentModule (Text.byteLength program)]

/-- The calls that create a pipeline and the objects that it uses. -/
def objectCalls (p : Pipeline) : List Call :=
  [.createBindGroupLayout "uniform layout" [⟨0, [.vertex, .fragment], false, UniformBlock.size⟩],
    .createBuffer p.uniforms UniformBlock.size [.uniforms, .copyTarget] false,
    .createBindGroup p.bindGroup "uniform layout" [(0, p.uniforms)],
    .createPipelineLayout "program pipeline layout" ["uniform layout"],
    .createPipeline ⟨p.label, "program pipeline layout", vertexModule, fragmentModule, [format]⟩]

/-- How the pipeline of a checked program can be built, and the calls that this takes. -/
inductive Builds : Except PipelineError Pipeline → List Call → Prop where
  | fault {diagnostic : Diagnostic} (h : checked = .error diagnostic) :
      Builds (.error (.compile diagnostic)) []
  | refused (message : List Char) :
      Builds (.error (.compile (.ofMessage .fragment message program)))
        (scopeCalls d (moduleCalls program) (some message))
  | unlinked (message : List Char) (p : Pipeline) :
      Builds (.error (.link message))
        (scopeCalls d (moduleCalls program) none ++
          scopeCalls d (objectCalls format p) (some message) ++ [.destroyBuffer p.uniforms])
  | linked (p : Pipeline) :
      Builds (.ok p)
        (scopeCalls d (moduleCalls program) none ++ scopeCalls d (objectCalls format p) none)

theorem makes_createModules : Makes (moduleCalls program) (createModules d program) :=
  (makes_createModule d _ _).bind fun _ => makes_createModule d _ _

theorem called_createObjects (w : World) :
    Called w (objectCalls format (createObjects d format w).1) (createObjects d format w).2 := by
  have hbuffer (w : World) := called_createBuffer "frame uniforms" UniformBlock.size
    [.uniforms, .copyTarget] w
  exact (Makes.call _ w).trans ((hbuffer _).trans ((Makes.call _ _).trans ((Makes.call _ _).trans
    (makes_createPipeline d _ _))))

theorem builds_createChecked (w : World) :
    ∃ cs, Called w cs (Pipeline.createChecked checked d format program w).2 ∧
      Builds checked d format program (Pipeline.createChecked checked d format program w).1 cs := by
  unfold Pipeline.createChecked
  rcases checked with diagnostic | ⟨⟩
  · exact ⟨[], .refl w, .fault rfl⟩
  have hmodules := called_inScope d (fun _ => moduleCalls program) (makes_createModules d program) w
  simp only [bind_apply]
  rcases hm : inScope d (createModules d program) w with ⟨⟨_, error⟩, w₁⟩
  rw [hm] at hmodules
  rcases error with _ | message
  · have hobjects := called_inScope d (objectCalls format) (called_createObjects d format) w₁
    simp only [bind_apply]
    rcases ho : inScope d (createObjects d format) w₁ with ⟨⟨p, error⟩, w₂⟩
    rw [ho] at hobjects
    have hall := hmodules.trans hobjects
    rcases error with _ | message
    · exact ⟨_, hall, .linked p⟩
    · exact ⟨_, hall.trans (Makes.call (.destroyBuffer p.uniforms) w₂), .unlinked message p⟩
  · exact ⟨_, hmodules, .refused message⟩

end Builds

/-! ## Connections -/

/-- The calls that create a timer, if there is one. -/
def timerCalls : Option Timer → List Call
  | some t =>
    [.createQueries t.queries Timer.timesCount,
      .createBuffer t.resolved Timer.timesSize [.queryTarget, .copySource] false,
      .createBuffer t.readback Timer.timesSize [.mapRead, .copyTarget] false]
  | none => []

theorem called_createTimer (w : World) :
    Called w (timerCalls (some (Timer.create w).1)) (Timer.create w).2 :=
  (Makes.call _ w).trans ((called_createBuffer _ _ _ _).trans (called_createBuffer _ _ _ _))

section Connects

variable (check : StageCheck) (σ : Script) (handles : WindowHandles) (options : GpuOptions)
  (a : Shader.Assembly) (width height : Nat)

/-- How a program can be connected to a window, and the calls that this takes. -/
inductive Connects : Except ConnectError SurfaceRenderer → List Call → Prop where
  | unavailable {e : ContextError} {cs : List Call}
      (ho : Opens σ handles options width height (.error e) cs) :
      Connects (.error (.contextUnavailable e.message)) cs
  | failed {context : Context} {e : PipelineError} {cs ds : List Call}
      (ho : Opens σ handles options width height (.ok context) cs)
      (hb : Builds (checkStagesWith check a.program) context.device context.surface.format a.program
        (.error e) ds) :
      Connects (.error e.toConnectError) (cs ++ ds)
  | connected {r : SurfaceRenderer} {cs ds : List Call}
      (ho : Opens σ handles options width height (.ok r.context) cs)
      (hb : Builds (checkStagesWith check a.program) r.context.device r.context.surface.format
        a.program (.ok r.pipeline) ds)
      (ht : r.timer.isSome = r.context.timed) (hidle : ∀ t ∈ r.timer, t.state = .idle) :
      Connects (.ok r) (cs ++ ds ++ timerCalls r.timer)

theorem connects_connectWith (w : World) :
    ∃ cs, Called w cs (SurfaceRenderer.connectWith check handles options a width height w).2 ∧
      Connects check w.script handles options a width height
        (SurfaceRenderer.connectWith check handles options a width height w).1 cs := by
  obtain ⟨cs, hopen, -, ho⟩ := ends_open handles options width height w rfl
  rw [List.nil_append] at ho
  unfold SurfaceRenderer.connectWith Pipeline.createWith
  rw [bind_apply]
  rcases hw₁ : (Context.open handles options width height).run w with ⟨e | context, w₁⟩
  · rw [hw₁] at hopen ho
    exact ⟨cs, hopen, .unavailable ho⟩
  rw [hw₁] at hopen ho
  obtain ⟨ds, hbuild, hb⟩ := builds_createChecked (checkStagesWith check a.program) context.device
    context.surface.format a.program w₁
  dsimp only
  rw [bind_apply]
  rcases hw₂ : Pipeline.createChecked (checkStagesWith check a.program) context.device
    context.surface.format a.program w₁ with ⟨e | pipeline, w₂⟩
  · rw [hw₂] at hbuild hb
    exact ⟨_, hopen.trans hbuild, .failed ho hb⟩
  rw [hw₂] at hbuild hb
  have hall := hopen.trans hbuild
  dsimp only
  rcases ht : context.timed
  · exact ⟨_, hall.trans (Makes.note .rendererConnected w₂),
      .connected (r := ⟨context, pipeline, none⟩) ho hb ht.symm nofun⟩
  · have htimed := (hall.trans (called_createTimer w₂)).trans
      (Makes.note .rendererConnected (Timer.create w₂).2)
    refine ⟨_, htimed, ?_⟩
    rw [List.append_nil]
    refine .connected (r := ⟨context, pipeline, some (Timer.create w₂).1⟩) ho hb ht.symm ?_
    rintro t ⟨⟩
    rfl

end Connects

/-! ## Connections and times -/

theorem Opens.isTiming_eq_false {σ : Script} {handles : WindowHandles} {options : GpuOptions}
    {width height : Nat} {result : Except ContextError Context} {cs : List Call}
    (h : Opens σ handles options width height result cs) : ∀ c ∈ cs, c.isTiming = false := by
  cases h <;> simp [adapterCalls, deviceCalls, Call.isTiming]

theorem Builds.isTiming_eq_false {checked : Except Diagnostic Unit} {d : DeviceId}
    {format : TextureFormat} {program : List Char} {result : Except PipelineError Pipeline}
    {cs : List Call} (h : Builds checked d format program result cs) :
    ∀ c ∈ cs, c.isTiming = false := by
  cases h <;> simp [scopeCalls, moduleCalls, objectCalls, Call.isTiming]

/-- A renderer without a timer was connected without a call that has to do with times; a timer is
idle at first. -/
theorem SurfaceRenderer.of_connectWith {check : StageCheck} {handles : WindowHandles}
    {options : GpuOptions} {a : Shader.Assembly} {width height : Nat} {w w' : World}
    {r : SurfaceRenderer} (hc : connectWith check handles options a width height w = (.ok r, w')) :
    (r.timer = none → UntimedTo w w') ∧ ∀ t ∈ r.timer, t.state = .idle := by
  obtain ⟨cs, hcalled, hconnects⟩ := connects_connectWith check handles options a width height w
  rw [hc] at hcalled hconnects
  cases hconnects with
  | connected ho hb ht hidle =>
    refine ⟨fun hr => ⟨_, ?_, hcalled⟩, hidle⟩
    rw [hr]
    exact List.forall_mem_append.2 ⟨List.forall_mem_append.2
      ⟨ho.isTiming_eq_false, hb.isTiming_eq_false⟩, List.forall_mem_nil _⟩

/-! ## A shader that can be connected -/

/-- The assembly of a shader that draws nothing. -/
def blankAssembly : Shader.Assembly :=
  (Shader.Assembly.ofSource Session.blankShader).toOption.get (by decide +kernel)

theorem ofSource_blankShader :
    Shader.Assembly.ofSource Session.blankShader = .ok blankAssembly := by
  have hsome : (Shader.Assembly.ofSource Session.blankShader).toOption = some blankAssembly :=
    (Option.some_get _).symm
  rcases h : Shader.Assembly.ofSource Session.blankShader with e | a
  · rw [h] at hsome
    cases hsome
  · rw [h] at hsome
    rw [← Option.some.inj hsome]

theorem eq_ok_of_isOk {e : Except ε Unit} (h : e.isOk) : e = .ok () := by
  rcases e with _ | ⟨⟩
  · cases h
  · rfl

theorem checkStagesWith_eq_ok {check : StageCheck} {program : List Char}
    (h : ∀ p ∈ [(Stage.vertex, Shader.Triangle.program), (.fragment, program)],
      check p.1 p.2 = .ok ()) : checkStagesWith check program = .ok () := by
  unfold checkStagesWith
  -- with the programs in sight the kernel would check them once more
  generalize [(Stage.vertex, Shader.Triangle.program), (.fragment, program)] = stages at h ⊢
  induction stages with
  | nil => rfl
  | cons p stages ih =>
    obtain ⟨stage, text⟩ := p
    obtain ⟨hp, hstages⟩ := List.forall_mem_cons.1 h
    rw [List.forIn_cons]
    dsimp only at hp ⊢
    rw [hp]
    exact ih hstages

theorem check_triangle : Glsl.check .vertex Shader.Triangle.program = .ok () := by
  refine eq_ok_of_isOk ?_
  unfold Shader.Triangle.program Shader.Triangle.programLines
  repeat rw [Text.map_toList_cons]
  decide +kernel

theorem program_blankAssembly :
    blankAssembly.program = Shader.Program.assemble [] ['\n'] Session.blankShader := by
  have hparts : (Shader.Assembly.ofSource Session.blankShader).toOption.map
      (fun a => (a.definitions, a.body, a.entry)) = some ([], ['\n'], Session.blankShader) := by
    unfold Session.blankShader
    rw [String.toList_ofList]
    decide +kernel
  rw [ofSource_blankShader] at hparts
  obtain ⟨hdefinitions, hbody, hentry⟩ : blankAssembly.definitions = [] ∧
      blankAssembly.body = ['\n'] ∧ blankAssembly.entry = Session.blankShader := by
    simpa [Except.toOption] using hparts
  obtain ⟨-, -, hprogram, -⟩ := Shader.parts_of_ofSource ofSource_blankShader
  rw [hprogram, hdefinitions, hbody, hentry]

theorem check_blankAssembly : Glsl.check .fragment blankAssembly.program = .ok () := by
  refine eq_ok_of_isOk ?_
  rw [program_blankAssembly]
  unfold Shader.Program.assemble Shader.Program.header Shader.Program.headerLines
    Shader.Program.dispatcher Shader.Program.dispatcherLines Session.blankShader
  repeat rw [Text.map_toList_cons]
  repeat rw [String.toList_ofList]
  decide +kernel

theorem checkStages_blankAssembly :
    checkStagesWith Glsl.check blankAssembly.program = .ok () :=
  checkStagesWith_eq_ok (List.forall_mem_cons.2 ⟨check_triangle,
    List.forall_mem_singleton.2 check_blankAssembly⟩)

theorem read_blankShader : ∃ remarks,
    Shader.Assembly.read Session.blankShader = .ok (blankAssembly, remarks) ∧
      remarks.redeclared = false := by
  have hassembly := ofSource_blankShader
  have hremarks : (Shader.Assembly.read Session.blankShader).toOption.all (!·.2.redeclared) := by
    unfold Session.blankShader
    rw [String.toList_ofList]
    decide +kernel
  unfold Shader.Assembly.ofSource at hassembly
  rcases h : Shader.Assembly.read Session.blankShader with e | ⟨a, remarks⟩
  · rw [h] at hassembly
    cases hassembly
  · rw [h] at hassembly hremarks
    cases hassembly
    exact ⟨remarks, rfl, by simpa [Except.toOption] using hremarks⟩

end Gpu

end ShaderPreview
