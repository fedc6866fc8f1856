import ShaderPreview.Proofs.Gpu.Verdict

/-!
# Validation as a dialogue

A `Dialogue` is a computation that asks a graphics library for one thing after the other, where each
query may depend on all answers so far.  Who answers is left open: a dialogue can be `run` with any
way of answering, and what holds of the way to answer one query holds of every dialogue.

The validation of a source is a dialogue.  In a graphics world, whose answers are scripted, it is
the validation itself (`run_validation_onWorld`).
-/

namespace ShaderPreview

namespace Gpu

variable {α β σ : Type}

/-! ## Queries -/

/-- What is asked of a graphics library. -/
inductive Query where
  /-- A call that has no answer. -/
  | call (c : Call)
  | note (e : Event)
  /-- Why there is no adapter. -/
  | adapterError
  | openDevice (label : String) (timestamps : Bool)
  | createBuffer (label : String) (size : Nat) (usage : List BufferUsage)
  | createTexture (label : String) (width height : Nat) (format : TextureFormat)
  | pushScope (d : DeviceId)
  | popScope (d : DeviceId)
  | createModule (d : DeviceId) (m : ShaderModule) (program : List Char)
  | createPipeline (d : DeviceId) (p : PipelineSetup)
  | writeBuffer (d : DeviceId) (b : Buffer) (block : UniformBlock)
  | submit (d : DeviceId)
  | pollDevice (waiting : Bool)
  /-- The uncaught errors of a device, the newest of them. -/
  | recent (d : DeviceId)

namespace Query

/-- What a query is answered with. -/
abbrev Answer : Query → Type
  | adapterError => Option (List Char)
  | openDevice .. => Except (List Char) DeviceId
  | createBuffer .. => Buffer
  | createTexture .. => Texture
  | popScope _ => Option (List Char)
  | recent _ => List (List Char)
  | _ => Unit

/-- A graphics world answers as its script says. -/
def onWorld : (q : Query) → StateM World q.Answer
  | .call c => Gpu.call c
  | .note e => Gpu.note e
  | .adapterError => fun w => (w.script.adapterError, w)
  | .openDevice label timestamps => Gpu.openDevice label timestamps
  | .createBuffer label size usage => Gpu.createBuffer label size usage
  | .createTexture label width height format => Gpu.createTexture label width height format
  | .pushScope d => Gpu.pushScope d
  | .popScope d => Gpu.popScope d
  | .createModule d m program => Gpu.createModule d m program
  | .createPipeline d p => Gpu.createPipeline d p
  | .writeBuffer d b block => Gpu.writeBuffer d b block
  | .submit d => Gpu.submit d
  | .pollDevice waiting => Gpu.pollDevice waiting
  | .recent d => fun w => ((w.warnings d).recent, w)

end Query

/-! ## Dialogues -/

/-- A computation that asks for one thing after the other. -/
inductive Dialogue (α : Type) where
  | done (a : α)
  | ask (q : Query) (next : q.Answer → Dialogue α)

namespace Dialogue

/-- One dialogue behind the other. -/
def bind : Dialogue α → (α → Dialogue β) → Dialogue β
  | done a, f => f a
  | ask q next, f => ask q fun answer => (next answer).bind f

instance : Monad Dialogue where
  pure := done
  bind := bind

/-- Asks for one thing. -/
def send (q : Query) : Dialogue q.Answer := ask q done

/-- Makes a call that has no answer. -/
def call (c : Call) : Dialogue Unit := send (.call c)

/-- Notes an event. -/
def note (e : Event) : Dialogue Unit := send (.note e)

/-- Asks why there is no adapter. -/
def adapterError : Dialogue (Option (List Char)) := send .adapterError

/-- Asks for a device. -/
def openDevice (label : String) (timestamps : Bool) : Dialogue (Except (List Char) DeviceId) :=
  send (.openDevice label timestamps)

/-- Closes the innermost error scope; the answer is its first error. -/
def popScope (d : DeviceId) : Dialogue (Option (List Char)) := send (.popScope d)

/-- Reads the newest uncaught errors of a device. -/
def recent (d : DeviceId) : Dialogue (List (List Char)) := send (.recent d)

/-- Holds the dialogue with whoever answers. -/
def run (answer : (q : Query) → StateM σ q.Answer) : Dialogue α → StateM σ α
  | done a => pure a
  | ask q next => answer q >>= fun a => (next a).run answer

section Run

variable {answer : (q : Query) → StateM σ q.Answer}

@[simp] theorem run_pure (a : α) : (pure a : Dialogue α).run answer = pure a := rfl

@[simp] theorem run_note (e : Event) : (note e).run answer = answer (.note e) := rfl

@[simp] theorem run_openDevice (label : String) (timestamps : Bool) :
    (openDevice label timestamps).run answer = answer (.openDevice label timestamps) := rfl

@[simp] theorem run_bind (p : Dialogue α) (f : α → Dialogue β) :
    (p >>= f).run answer = p.run answer >>= fun a => (f a).run answer := by
  induction p with
  | done a => rfl
  | ask q next ih =>
    funext s
    exact congrFun (ih (answer q s).1) (answer q s).2

/-- A part that is run, and the rest behind it. -/
theorem run_bind_eq {p : Dialogue α} {f : α → Dialogue β} {s s' : σ} {b : β}
    (h : (p >>= f).run answer s = (b, s')) :
    ∃ a s₁, p.run answer s = (a, s₁) ∧ (f a).run answer s₁ = (b, s') := by
  rw [run_bind, bind_apply] at h
  exact ⟨_, _, rfl, h⟩

@[simp] theorem run_forIn {γ : Type} (xs : List γ) (init : β)
    (f : γ → β → Dialogue (ForInStep β)) :
    (forIn xs init f).run answer = forIn xs init fun x b => (f x b).run answer := by
  induction xs generalizing init with
  | nil => rfl
  | cons x xs ih =>
    rw [List.forIn_cons, List.forIn_cons, run_bind]
    congr 1
    funext step
    cases step with
    | done b => rfl
    | yield b => exact ih b

/-- What each answer keeps is kept by every dialogue. -/
theorem run_induction {P : σ → Prop} (step : ∀ q s, P s → P (answer q s).2) (p : Dialogue α) {s : σ}
    (hs : P s) : P (p.run answer s).2 := by
  induction p generalizing s with
  | done a => exact hs
  | ask q next ih => exact ih (answer q s).1 (step q s hs)

/-- Two ways of answering that give the same answers on related states do so in every dialogue. -/
theorem run_simulation {τ : Type} {answer' : (q : Query) → StateM τ q.Answer} {R : σ → τ → Prop}
    (step : ∀ q s t, R s t → (answer q s).1 = (answer' q t).1 ∧ R (answer q s).2 (answer' q t).2)
    (p : Dialogue α) {s : σ} {t : τ} (h : R s t) :
    (p.run answer s).1 = (p.run answer' t).1 ∧ R (p.run answer s).2 (p.run answer' t).2 := by
  induction p generalizing s t with
  | done a => exact ⟨rfl, h⟩
  | ask q next ih =>
    obtain ⟨hanswer, hnext⟩ := step q s t h
    have hrest := ih (answer q s).1 hnext
    simp only [run, bind_apply]
    rw [← hanswer]
    exact hrest

end Run

/-! ## The parts of a validation -/

/-- A part of a dialogue in an error scope; the answer is the first error in it besides its own. -/
def inScope (d : DeviceId) (step : Dialogue α) : Dialogue (α × Option (List Char)) := do
  send (.pushScope d)
  let a ← step
  let error ← popScope d
  return (a, error)

/-- Creates the modules of both stages. -/
def createModules (d : DeviceId) (program : List Char) : Dialogue Unit := do
  send (.createModule d vertexModule Shader.Triangle.program)
  send (.createModule d fragmentModule program)

/-- Creates the pipeline with the objects that it uses. -/
def createObjects (d : DeviceId) (format : TextureFormat) : Dialogue Pipeline := do
  let layout := "uniform layout"
  call (.createBindGroupLayout layout [⟨0, [.vertex, .fragment], false, UniformBlock.size⟩])
  let uniforms ← send (.createBuffer "frame uniforms" UniformBlock.size [.uniforms, .copyTarget])
  let bindGroup := "uniform bind group"
  call (.createBindGroup bindGroup layout [(0, uniforms)])
  let pipelineLayout := "program pipeline layout"
  call (.createPipelineLayout pipelineLayout [layout])
  let label := "program pipeline"
  send (.createPipeline d ⟨label, pipelineLayout, vertexModule, fragmentModule, [format]⟩)
  return ⟨label, uniforms, bindGroup⟩

/-- Links the modules of a program. -/
def link (d : DeviceId) (format : TextureFormat) : Dialogue (Except PipelineError Pipeline) := do
  let (pipeline, error) ← inScope d (createObjects d format)
  match error with
  | some message =>
    call (.destroyBuffer pipeline.uniforms)
    return .error (.link message)
  | none => return .ok pipeline

/-- Compiles and links a program for targets of a format, unless its check found a fault. -/
def createPipeline (checked : Except Diagnostic Unit) (d : DeviceId) (format : TextureFormat)
    (program : List Char) : Dialogue (Except PipelineError Pipeline) :=
  match checked with
  | .error diagnostic => return .error (.compile diagnostic)
  | .ok _ => do
    let (_, error) ← inScope d (createModules d program)
    match error with
    | some message => return .error (.compile (.ofMessage .fragment message program))
    | none => link d format

/-- Opens a device without a surface; passes are not timed. -/
def start (options : GpuOptions) : Dialogue (Except ContextError Trial) := do
  call (.openInstance true)
  call (.requestAdapter options.powerPreference false false)
  match ← adapterError with
  | some reason => return .error (.noAdapter reason)
  | none =>
    note .adapterSelected
    match ← openDevice "fragscope validator" false with
    | .error reason => return .error (.noDevice reason)
    | .ok device =>
      call (.watchErrors device)
      let target ← send (.createTexture "validation target" trialSize trialSize trialFormat)
      return .ok ⟨device, target⟩

/-- Draws the triangle of a pipeline in the open pass. -/
def drawPipeline (p : Pipeline) : Dialogue Unit := do
  call (.setPipeline p.label)
  call (.setBindGroup 0 p.bindGroup)
  call (.drawVertices 0 Shader.Triangle.cornerCount 0 1)

/-- Records and submits the pass of the trial frame, and waits for its end. -/
def drawPass (t : Trial) (p : Pipeline) : Dialogue Unit := do
  call (.createView (.texture t.target))
  call (.createEncoder "validation encoder")
  call (.beginPass "validation pass" (.texture t.target) none)
  drawPipeline p
  call .endPass
  send (.submit t.device)
  send (.pollDevice true)

/-- Draws the trial frame; the answer is the first error of its pass. -/
def drawFrame (t : Trial) (p : Pipeline) (today : Date) : Dialogue (Option (List Char)) := do
  send (.writeBuffer t.device p.uniforms (Trial.uniforms today))
  let (_, error) ← inScope t.device (drawPass t p)
  return error

/-- Draws the trial frame; the answer is what the device said: the first error of the pass, and then
the uncaught errors. -/
def draw (t : Trial) (p : Pipeline) (today : Date) : Dialogue (List (List Char)) := do
  let error ← drawFrame t p today
  let warnings := error.toList ++ (← recent t.device)
  for _ in warnings do
    note .trialProblem
  return warnings

/-- Links a program and draws the trial frame. -/
def runTrial (t : Trial) (checked : Except Diagnostic Unit) (program : List Char) (today : Date) :
    Dialogue (Except ConnectError (List (List Char))) := do
  match ← createPipeline checked t.device trialFormat program with
  | .error (.compile d) => return .error (.compile d)
  | .error (.link m) => return .error (.link m)
  | .ok p =>
    let warnings ← draw t p today
    call (.destroyBuffer p.uniforms)
    return .ok warnings

/-- Gives back the texture and the device. -/
def close (t : Trial) : Dialogue Unit := do
  call (.destroyTexture t.target)
  call (.destroyDevice t.device)

/-- Validates an assembled program. -/
def programValidation (check : StageCheck) (options : GpuOptions) (program : List Char)
    (today : Date) : Dialogue (Except ConnectError ValidationReport) := do
  match ← start options with
  | .error e => return .error (.contextUnavailable e.message)
  | .ok trial =>
    let result ← runTrial trial (checkStagesWith check program) program today
    close trial
    return result.map fun warnings => ⟨program, warnings⟩

/-- Validates a source that was assembled. -/
def assemblyValidation (check : StageCheck) (options : GpuOptions) (a : Shader.Assembly)
    (today : Date) : Dialogue (Except ValidationError ValidationReport) := do
  note .sourceAssembled
  match ← programValidation check options a.program today with
  | .error e => return .error (.connect e)
  | .ok report =>
    note .shaderValidated
    return .ok report

/-- Validates a source. -/
def validation (check : StageCheck) (options : GpuOptions) (source : List Char) (today : Date) :
    Dialogue (Except ValidationError ValidationReport) :=
  match Shader.Assembly.read source with
  | .error e => return .error (.source e)
  | .ok (a, remarks) => do
    if remarks.redeclared then note .entryPointRepeated
    assemblyValidation check options a today

/-! ## The dialogue with a graphics world -/

section World

theorem run_inScope_onWorld (d : DeviceId) (step : Dialogue α) :
    (inScope d step).run Query.onWorld = Gpu.inScope d (step.run Query.onWorld) := by
  simp only [inScope, run_bind]
  rfl

theorem run_createModules_onWorld (d : DeviceId) (program : List Char) :
    (createModules d program).run Query.onWorld = Gpu.createModules d program := rfl

theorem run_createObjects_onWorld (d : DeviceId) (format : TextureFormat) :
    (createObjects d format).run Query.onWorld = Gpu.createObjects d format := rfl

theorem run_createPipeline_onWorld (checked : Except Diagnostic Unit) (d : DeviceId)
    (format : TextureFormat) (program : List Char) :
    (createPipeline checked d format program).run Query.onWorld =
      Pipeline.createChecked checked d format program := by
  cases checked with
  | error diagnostic => rfl
  | ok _ =>
    funext w
    simp only [createPipeline, Pipeline.createChecked, run_bind, run_inScope_onWorld,
      run_createModules_onWorld, bind_apply]
    rcases Gpu.inScope d (Gpu.createModules d program) w with ⟨⟨_, _ | message⟩, w₁⟩
    · simp only [link, run_bind, run_inScope_onWorld, run_createObjects_onWorld, bind_apply]
      rcases Gpu.inScope d (Gpu.createObjects d format) w₁ with ⟨⟨p, _ | message⟩, w₂⟩ <;> rfl
    · rfl

theorem run_start_onWorld (options : GpuOptions) :
    (start options).run Query.onWorld = (Trial.start options).run := by
  funext w
  rcases w with ⟨⟨_, _ | adapter, _ | device⟩⟩ <;> rfl

theorem run_drawPass_onWorld (t : Trial) (p : Pipeline) :
    (drawPass t p).run Query.onWorld = t.drawPass p := rfl

theorem run_draw_onWorld (t : Trial) (p : Pipeline) (today : Date) :
    (draw t p today).run Query.onWorld = t.draw p today := by
  simp only [draw, drawFrame, Trial.draw, run_bind, run_inScope_onWorld, run_drawPass_onWorld,
    run_forIn, run_pure]
  rfl

theorem run_runTrial_onWorld (t : Trial) (check : StageCheck) (program : List Char) (today : Date) :
    (runTrial t (checkStagesWith check program) program today).run Query.onWorld =
      t.runWith check program today := by
  funext w
  simp only [runTrial, Trial.runWith, Pipeline.createWith, run_bind, run_createPipeline_onWorld,
    bind_apply]
  rcases Pipeline.createChecked (checkStagesWith check program) t.device trialFormat program w with
    ⟨(d | m) | p, w₁⟩
  · rfl
  · rfl
  · simp only [run_bind, run_draw_onWorld]
    rfl

theorem run_programValidation_onWorld (check : StageCheck) (options : GpuOptions)
    (program : List Char) (today : Date) :
    (programValidation check options program today).run Query.onWorld =
      validateProgramWith check options program today := by
  funext w
  simp only [programValidation, validateProgramWith, run_bind, run_start_onWorld, bind_apply]
  rcases (Trial.start options).run w with ⟨e | t, w₁⟩
  · rfl
  · simp only [run_bind, run_runTrial_onWorld]
    rfl

/-- The dialogue with a graphics world is the validation. -/
theorem run_validation_onWorld (check : StageCheck) (options : GpuOptions) (source : List Char)
    (today : Date) :
    (validation check options source today).run Query.onWorld =
      validateWith check options source today := by
  unfold validation validateWith
  rcases Shader.Assembly.read source with e | ⟨a, remarks⟩
  · rfl
  · funext w
    dsimp only
    -- the remark on a second entry point comes in front of all else
    rcases remarks.redeclared
    · simp only [Bool.false_eq_true, if_false, assemblyValidation, run_bind,
        run_programValidation_onWorld, bind_apply, run_note, Query.onWorld]
      rcases validateProgramWith check options a.program today (Gpu.note .sourceAssembled w).2 with
        ⟨e | report, w₁⟩ <;> rfl
    · simp only [if_true, assemblyValidation, run_bind, run_programValidation_onWorld, bind_apply,
        run_note, Query.onWorld]
      rcases validateProgramWith check options a.program today
        (Gpu.note .sourceAssembled (Gpu.note .entryPointRepeated w).2).2 with
        ⟨e | report, w₁⟩ <;> rfl

end World

end Dialogue

end Gpu

end ShaderPreview
