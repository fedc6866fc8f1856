import ShaderPreview.Proofs.Gpu.SurfaceStep
import ShaderPreview.Proofs.Gpu.Verdict
import ShaderPreview.Proofs.Preview.Reload

/-!
# Validation and preview agree

A source is validated on a device without a surface and previewed on one with a surface, on two ways
that share only the creation of the pipeline.  Both devices are opened under conditions on the
script alone (`SucceedsIff`), and once they are open both ways end with the verdict on the program.
So where the two scripts let the error scopes report the same, both succeed or both fail, with the
same error.
-/

namespace ShaderPreview

namespace Gpu

variable {α γ ε : Type}

/-! ## When a device can be opened -/

/-- From a world with the script the steps succeed under exactly this condition, and they leave the
script alone. -/
def SucceedsIff (σ : Script) (m : Opening ε α) (condition : Prop) : Prop :=
  ∀ w, w.script = σ →
    (m.run w).2.script = σ ∧ ((∃ a, (m.run w).1 = .ok a) ↔ condition)

namespace SucceedsIff

variable {σ : Script} {m m' : Opening ε α} {k : α → Opening ε γ} {c c' : Prop}

theorem pure (a : α) : SucceedsIff σ (Pure.pure a : Opening ε α) True :=
  fun _ hw => ⟨hw, fun _ => trivial, fun _ => ⟨a, rfl⟩⟩

theorem throw (e : ε) : SucceedsIff σ (MonadExcept.throw e : Opening ε α) False :=
  fun _ hw => ⟨hw, by rintro ⟨a, ⟨⟩⟩, False.elim⟩

theorem lift (m : StateM World α) (hm : ∀ w, (m w).2.script = w.script) :
    SucceedsIff σ (liftM m : Opening ε α) True :=
  fun w hw => ⟨(hm w).trans hw, fun _ => trivial, fun _ => ⟨(m w).1, rfl⟩⟩

/-- What follows succeeds whatever the answer is, if it succeeds for one. -/
theorem bind (hm : SucceedsIff σ m c) (hk : ∀ a, SucceedsIff σ (k a) c') :
    SucceedsIff σ (m >>= k) (c ∧ c') := by
  intro w hw
  obtain ⟨hσ, hc⟩ := hm w hw
  rw [ExceptT.run_bind, bind_apply]
  rcases hrun : m.run w with ⟨e | a, w₁⟩
  · rw [hrun] at hσ hc
    refine ⟨hσ, by rintro ⟨_, ⟨⟩⟩, fun hcc' => ?_⟩
    obtain ⟨_, ⟨⟩⟩ := hc.2 hcc'.1
  · rw [hrun] at hσ hc
    obtain ⟨hσ', hc'⟩ := hk a w₁ hσ
    exact ⟨hσ', fun hok => ⟨hc.1 ⟨a, rfl⟩, hc'.1 hok⟩, fun hcc' => hc'.2 hcc'.2⟩

/-- What is read of the world is its script. -/
theorem get_bind {k : World → Opening ε γ}
    (hk : ∀ w : World, w.script = σ → SucceedsIff σ (k w) c) :
    SucceedsIff σ (getThe World >>= k) c :=
  fun w hw => hk w hw w hw

theorem lift_bind {m : StateM World α} (hm : ∀ w, (m w).2.script = w.script)
    (hk : ∀ a, SucceedsIff σ (k a) c) : SucceedsIff σ (liftM m >>= k) c :=
  fun _ hw => hk _ _ ((hm _).trans hw)

/-- Steps behind an error that a condition calls for. -/
theorem guard {p : Prop} [Decidable p] {e : ε} {m : Opening ε γ}
    (hm : SucceedsIff σ m c) :
    SucceedsIff σ (if p then MonadExcept.throw e >>= k else m) (¬ p ∧ c) := by
  by_cases hp : p
  · rw [if_pos hp]
    exact fun w hw => ⟨hw, by rintro ⟨_, ⟨⟩⟩, fun hc => absurd hp hc.1⟩
  · rw [if_neg hp]
    intro w hw
    obtain ⟨hσ, hc⟩ := hm w hw
    exact ⟨hσ, hc.trans ⟨fun h => ⟨hp, h⟩, And.right⟩⟩

theorem congr (h : SucceedsIff σ m c) (hc : c ↔ c') : SucceedsIff σ m c' := by
  rw [← propext hc]
  exact h

/-- Success depends on the script alone. -/
theorem of_script_eq (h : SucceedsIff σ m c) {w w' : World} (hw : w.script = σ)
    (hw' : w'.script = σ) (hok : ∃ a, (m.run w).1 = .ok a) : ∃ a, (m.run w').1 = .ok a :=
  (h w' hw').2.2 ((h w hw).2.1 hok)

end SucceedsIff

section Opening

variable (σ : Script) (handles : WindowHandles) (options : GpuOptions)

theorem succeedsIff_createSurface : SucceedsIff σ (createSurface handles)
    (handles.window ∧ handles.display ∧ σ.surfaceError = none) := by
  unfold createSurface
  refine SucceedsIff.congr (.guard (.guard (c := σ.surfaceError = none) ?_)) (by simp)
  refine .lift_bind (fun _ => rfl) fun _ => .get_bind fun w hw => ?_
  rw [hw]
  rcases σ.surfaceError with _ | reason
  · exact (SucceedsIff.pure ()).congr (by simp)
  · exact (SucceedsIff.throw _).congr (by simp)

theorem succeedsIff_requestAdapter (forSurface : Bool) :
    SucceedsIff σ (requestAdapter options forSurface) (σ.adapterError = none) := by
  refine .lift_bind (fun _ => rfl) fun _ => .get_bind fun w hw => ?_
  rw [hw]
  rcases σ.adapterError with _ | reason
  · exact (SucceedsIff.lift (note .adapterSelected) fun _ => rfl).congr (by simp)
  · exact (SucceedsIff.throw _).congr (by simp)

theorem succeedsIff_openDevice (label : String) (timed : Bool) : SucceedsIff σ (do
      match ← openDevice label timed with
      | .error reason => throw (.noDevice reason)
      | .ok d => return (d, timed) : Opening ContextError (DeviceId × Bool))
    (σ.deviceError = none) := by
  rintro w rfl
  rcases w with ⟨⟨_, _, _ | reason⟩⟩
  · exact ⟨rfl, fun _ => rfl, fun _ => ⟨_, rfl⟩⟩
  · exact ⟨rfl, by rintro ⟨_, ⟨⟩⟩, nofun⟩

theorem succeedsIff_requestDevice (label : String) :
    SucceedsIff σ (requestDevice options label) (σ.deviceError = none) := by
  refine .get_bind fun w hw => ?_
  dsimp only
  split
  · exact .lift_bind (fun _ => rfl) fun _ => succeedsIff_openDevice σ label _
  · exact succeedsIff_openDevice σ label _

/-- A device with a surface can be opened. -/
def Openable (width height : Nat) : Prop :=
  (handles.window ∧ handles.display ∧ σ.surfaceError = none) ∧ σ.adapterError = none ∧
    ¬ (σ.maxDimension < max width 1 ∨ σ.maxDimension < max height 1) ∧ σ.deviceError = none ∧
      chooseFormat? σ.formats ≠ none

theorem script_presentMode (w : World) : (presentMode options w).2.script = w.script :=
  (presentMode_spec options w).2.2

theorem devices_presentMode (w : World) : (presentMode options w).2.devices = w.devices := by
  have hget : (get : StateM World World) w = (w, w) := rfl
  unfold presentMode
  simp only [bind_apply, hget]
  rcases chooseMode? w.script.presentModes options.presentMode with _ | mode <;> rfl

theorem succeedsIff_open (width height : Nat) :
    SucceedsIff σ (Context.open handles options width height)
      (Openable σ handles width height) := by
  unfold Openable
  refine .lift_bind (fun _ => rfl) fun _ => .bind (succeedsIff_createSurface σ handles) fun _ =>
    .bind (succeedsIff_requestAdapter σ options true) fun _ => .get_bind fun w hw => ?_
  rw [hw]
  refine .guard (.bind (succeedsIff_requestDevice σ options _) fun _ =>
    .lift_bind (fun _ => rfl) fun _ => .get_bind fun w hw => ?_)
  dsimp only
  rw [hw]
  rcases chooseFormat? σ.formats with _ | format
  · exact (SucceedsIff.throw _).congr (by simp)
  · refine SucceedsIff.congr (c := True) ?_ (by simp)
    refine .lift_bind (script_presentMode options) fun mode => .lift_bind (fun _ => rfl) fun _ => ?_
    exact .lift_bind (fun _ => rfl) fun _ => .pure _

theorem succeedsIff_start : SucceedsIff σ (Trial.start options)
    (σ.adapterError = none ∧ σ.deviceError = none) := by
  refine .lift_bind (fun _ => rfl) fun _ => .bind (succeedsIff_requestAdapter σ options false)
    fun _ => ?_
  have hdevice := succeedsIff_requestDevice σ { options with timerQueries := false }
    "fragscope validator"
  exact (hdevice.bind fun _ => .lift_bind (fun _ => rfl) fun _ =>
    .lift_bind (fun _ => rfl) fun _ => .pure _).congr (and_iff_left trivial)

end Opening

/-! ## The device behind it -/

/-- If the steps succeed from the world, `Q` holds of their answer and of the world behind them. -/
def Yields (m : Opening ε α) (w : World) (Q : α → World → Prop) : Prop :=
  ∀ a w', m.run w = (.ok a, w') → Q a w'

namespace Yields

variable {m : Opening ε α} {k : α → Opening ε γ} {w : World} {Q : γ → World → Prop}

theorem pure {a : α} {Q : α → World → Prop} (h : Q a w) : Yields (Pure.pure a : Opening ε α) w Q := by
  rintro _ _ ⟨⟩
  exact h

theorem throw (e : ε) (Q : α → World → Prop) : Yields (MonadExcept.throw e : Opening ε α) w Q := by
  rintro _ _ ⟨⟩

theorem bind (h : Yields m w fun a w' => Yields (k a) w' Q) : Yields (m >>= k) w Q := by
  intro b w' hrun
  rw [ExceptT.run_bind, bind_apply] at hrun
  rcases hm : m.run w with ⟨e | a, w₁⟩
  · rw [hm] at hrun
    cases hrun
  · rw [hm] at hrun
    exact h a w₁ hm b w' hrun

theorem lift_bind {m : StateM World α} (h : Yields (k (m w).1) (m w).2 Q) :
    Yields (liftM m >>= k) w Q := h

theorem get_bind {k : World → Opening ε γ} (h : Yields (k w) w Q) :
    Yields (getThe World >>= k) w Q := h

theorem guard {p : Prop} [Decidable p] {e : ε} {m : Opening ε γ} (h : Yields m w Q) :
    Yields (if p then MonadExcept.throw e >>= k else m) w Q := by
  split
  · exact throw e Q
  · exact h

theorem script {σ : Script} {c : Prop} (h : SucceedsIff σ m c) (hw : w.script = σ) :
    Yields m w fun _ w' => w'.script = σ := by
  intro a w' hrun
  have hσ := (h w hw).1
  rw [hrun] at hσ
  exact hσ

end Yields

section Opened

variable {σ : Script} {w : World} (handles : WindowHandles) (options : GpuOptions)

theorem yields_openDevice (label : String) (timed : Bool) (hw : w.script = σ) :
    Yields (do
      match ← openDevice label timed with
      | .error reason => throw (.noDevice reason)
      | .ok d => return (d, timed) : Opening ContextError (DeviceId × Bool)) w
      fun answer w' => IsOpen answer.1 σ [] w' := by
  subst hw
  rcases w with ⟨⟨_, _, _ | reason⟩, calls, log, resources, devices, mappings⟩
  · rintro _ _ ⟨⟩
    exact ⟨rfl, by simp [World.scopesOf]⟩
  · rintro _ _ ⟨⟩

theorem yields_requestDevice (label : String) (hw : w.script = σ) :
    Yields (requestDevice options label) w fun answer w' => IsOpen answer.1 σ [] w' := by
  refine .get_bind ?_
  dsimp only
  split
  · exact .lift_bind (yields_openDevice label _ hw)
  · exact yields_openDevice label _ hw

theorem yields_open (width height : Nat) (hw : w.script = σ) :
    Yields (Context.open handles options width height) w
      fun context w' => IsOpen context.device σ [] w' := by
  refine .lift_bind (.bind fun _ w₁ hsurface => ?_)
  have hw₁ := Yields.script (w := (openInstance w).2) (succeedsIff_createSurface σ handles) hw
    _ _ hsurface
  refine .bind fun _ w₂ hadapter => ?_
  have hw₂ := Yields.script (succeedsIff_requestAdapter σ options true) hw₁ _ _ hadapter
  refine .get_bind (.guard (.bind fun (device, timed) w₃ hdevice => ?_))
  have hopen := yields_requestDevice options "fragscope device" hw₂ _ _ hdevice
  refine .lift_bind (.get_bind ?_)
  dsimp only
  split
  · exact .throw _ _
  · refine .lift_bind (.lift_bind (.lift_bind (.pure ?_)))
    have hmode := (hopen.call (.watchErrors device)).of_eq
      (script_presentMode options (call (.watchErrors device) w₃).2)
      (devices_presentMode options (call (.watchErrors device) w₃).2)
    exact (hmode.note _).call _

theorem yields_start (hw : w.script = σ) :
    Yields (Trial.start options) w fun trial w' => IsOpen trial.device σ [] w' := by
  refine .lift_bind (.bind fun _ w₁ hadapter => ?_)
  have hw₁ := Yields.script (w := (openInstance w).2)
    (succeedsIff_requestAdapter σ options false) hw _ _ hadapter
  refine .bind fun (device, timed) w₂ hdevice => ?_
  have hopen := yields_requestDevice _ "fragscope validator" hw₁ _ _ hdevice
  refine .lift_bind (.lift_bind (.pure ?_))
  exact (hopen.call (.watchErrors device)).of_eq rfl rfl

end Opened

/-! ## Both ways -/

section Ways

variable (check : StageCheck)

/-- Where the trial device opens, a program is valid if its pipeline is created. -/
theorem validateProgramWith_of_start {options : GpuOptions} (program : List Char) (today : Date)
    {v v₁ : World} {trial : Trial} (hstart : (Trial.start options).run v = (.ok trial, v₁)) :
    (∀ e, (Pipeline.createWith check trial.device trialFormat program v₁).1 = .error e →
      (validateProgramWith check options program today v).1 = .error e.toConnectError) ∧
    ∀ p, (Pipeline.createWith check trial.device trialFormat program v₁).1 = .ok p →
      ∃ warnings, (validateProgramWith check options program today v).1 =
        .ok ⟨program, warnings⟩ := by
  unfold validateProgramWith
  simp only [bind_apply, hstart]
  unfold Trial.runWith
  simp only [bind_apply]
  rcases Pipeline.createWith check trial.device trialFormat program v₁ with ⟨(d | m) | p, v₂⟩
  · exact ⟨by rintro _ ⟨⟩; rfl, nofun⟩
  · exact ⟨by rintro _ ⟨⟩; rfl, nofun⟩
  · exact ⟨nofun, by rintro _ ⟨⟩; exact ⟨_, rfl⟩⟩

/-- Where the device of a window opens, a program is connected if its pipeline is created. -/
theorem connectWith_of_open {handles : WindowHandles} {options : GpuOptions} (a : Shader.Assembly)
    {width height : Nat} {w w₁ : World} {context : Context}
    (hopen : (Context.open handles options width height).run w = (.ok context, w₁)) :
    (∀ e, (Pipeline.createWith check context.device context.surface.format a.program w₁).1 =
        .error e →
      (SurfaceRenderer.connectWith check handles options a width height w).1 =
        .error e.toConnectError) ∧
    ∀ p w₂, Pipeline.createWith check context.device context.surface.format a.program w₁ =
        (.ok p, w₂) →
      ∃ (r : SurfaceRenderer) (w₃ : World),
        SurfaceRenderer.connectWith check handles options a width height w = (.ok r, w₃) ∧
          r.context = context ∧ r.pipeline = p ∧ Called w₂ (timerCalls r.timer) w₃ := by
  unfold SurfaceRenderer.connectWith
  simp only [bind_apply, hopen]
  rcases Pipeline.createWith check context.device context.surface.format a.program w₁ with
    ⟨e | p, w₂⟩
  · exact ⟨by rintro _ ⟨⟩; rfl, nofun⟩
  · refine ⟨nofun, ?_⟩
    rintro _ _ ⟨⟩
    dsimp only
    rcases context.timed
    · exact ⟨⟨context, p, none⟩, _, rfl, rfl, rfl, .of_eq rfl rfl⟩
    · have htimer := (called_createTimer w₂).trans
        (Makes.note .rendererConnected (Timer.create w₂).2)
      rw [List.append_nil] at htimer
      exact ⟨⟨context, p, some (Timer.create w₂).1⟩,
        (note .rendererConnected (Timer.create w₂).2).2, rfl, rfl, rfl, htimer⟩

/-- Where both devices open and the scopes report the same, both pipelines end with one verdict. -/
theorem creations_agree {handles : WindowHandles} {options options' : GpuOptions}
    {width height : Nat} {v w : World} (hv : ∃ trial, ((Trial.start options).run v).1 = .ok trial)
    (hw : ∃ context, ((Context.open handles options' width height).run w).1 = .ok context)
    (hmodules : moduleReport v.script = moduleReport w.script)
    (hlink : linkReport v.script = linkReport w.script) {v₀ w₀ : World}
    (hv₀ : v₀.script = v.script) (hw₀ : w₀.script = w.script) (program : List Char) :
    ∃ trial context v₁ w₁, (Trial.start options).run v₀ = (.ok trial, v₁) ∧
      (Context.open handles options' width height).run w₀ = (.ok context, w₁) ∧
      (Pipeline.createWith check trial.device trialFormat program v₁).1.map (fun _ => ()) =
        (Pipeline.createWith check context.device context.surface.format program w₁).1.map
          fun _ => () := by
  obtain ⟨trial, htrial⟩ := (succeedsIff_start v.script options).of_script_eq rfl hv₀ hv
  obtain ⟨context, hcontext⟩ :=
    (succeedsIff_open w.script handles options' width height).of_script_eq rfl hw₀ hw
  rcases hstart : (Trial.start options).run v₀ with ⟨_, v₁⟩
  rcases hopen : (Context.open handles options' width height).run w₀ with ⟨_, w₁⟩
  rw [hstart] at htrial
  rw [hopen] at hcontext
  subst htrial
  subst hcontext
  refine ⟨trial, context, v₁, w₁, rfl, rfl, ?_⟩
  unfold Pipeline.createWith
  rw [createChecked_verdict (yields_start options hv₀ _ _ hstart),
    createChecked_verdict (yields_open handles options' width height hw₀ _ _ hopen), hmodules, hlink]

end Ways

end Gpu

namespace Session

variable {ρ β G : Type} [Seconds ρ] [Renderer G β] [Journal G]

/-- The host on which a load connects: the shader before is given up, and the assembly noted. -/
def connectHost (s : Session ρ β) (remarks : Shader.Remarks) (h : Host G) : Host G :=
  (noteAssembled remarks (teardown s h).2).2

section Load

variable {s : Session ρ β} (h : Host G) {source : List Char} (width height : Nat)
variable (connect : Shader.Assembly → Nat → Nat → StateM G (Except ConnectError β))

theorem load_of_read_error {e : Shader.SourceError} (hd : s.phase ≠ .disposed)
    (hread : Shader.Assembly.read source = .error e) :
    (load s source width height connect h).1 = (.error (.source e), s.unloaded) := by
  unfold load
  rw [if_neg hd]
  simp only [bind_apply, teardown_fst, hread]
  rfl

theorem load_of_read_ok {a : Shader.Assembly} {remarks : Shader.Remarks}
    (hd : s.phase ≠ .disposed) (hread : Shader.Assembly.read source = .ok (a, remarks)) :
    load s source width height connect h =
      match connect a (max width 1) (max height 1) (connectHost s remarks h).graphics with
      | (.error e, g) =>
        ((.error (.connect e), s.unloaded), { connectHost s remarks h with graphics := g })
      | (.ok r, g) =>
        ((.ok (), s.unloaded.withShader a (max width 1) (max height 1) r),
          (Host.note .previewReady { connectHost s remarks h with graphics := g }).2) := by
  unfold load connectHost
  rw [if_neg hd]
  simp only [bind_apply, teardown_fst, hread, Host.onGraphics_apply]
  rcases connect a (max width 1) (max height 1) _ with ⟨e | r, g⟩ <;> rfl

end Load

end Session

namespace Gpu

section Agreement

open Session

variable {ρ : Type} [Seconds ρ] (s : Session ρ SurfaceRenderer) (h : Host World)

omit [Seconds ρ] in
/-- The end of the shader before uses up no outcome. -/
theorem script_connectHost (remarks : Shader.Remarks) :
    (connectHost s remarks h).graphics.script = h.graphics.script := by
  have hrelease : (teardown s h).2.graphics.script = h.graphics.script := by
    have hcancel := cancelPending_graphics s h
    unfold teardown releaseRenderer
    simp only [bind_apply, pure_apply, cancelPending_fst]
    rw [← hcancel]
    rcases s.renderer with _ | ⟨context, pipeline, _ | timer⟩ <;> rfl
  unfold connectHost noteAssembled
  rw [← hrelease]
  split <;> rfl

/-- A validation and a load fail in the same way and say the same. -/
inductive SameFailure : ValidationError → LoadError → Prop where
  | source (e : Shader.SourceError) : SameFailure (.source e) (.source e)
  | compile (d : Diagnostic) : SameFailure (.connect (.compile d)) (.connect (.compile d))
  | link (message : List Char) :
      SameFailure (.connect (.link message)) (.connect (.link message))

theorem sameFailure_toConnectError (e : PipelineError) :
    SameFailure (.connect e.toConnectError) (.connect e.toConnectError) := by
  cases e with
  | compile d => exact .compile d
  | link message => exact .link message

theorem validateWith_of_read_error (check : StageCheck) (options : GpuOptions) {source : List Char}
    (today : Date) (v : World) {e : Shader.SourceError}
    (hread : Shader.Assembly.read source = .error e) :
    (validateWith check options source today v).1 = .error (.source e) := by
  unfold validateWith
  rw [hread]
  rfl

theorem validateWith_of_read_ok (check : StageCheck) (options : GpuOptions) {source : List Char}
    (today : Date) (v : World) {a : Shader.Assembly} {remarks : Shader.Remarks}
    (hread : Shader.Assembly.read source = .ok (a, remarks)) :
    ∃ v₀ : World, v₀ = { v with log := v₀.log } ∧
      (validateWith check options source today v).1 =
        (validateProgramWith check options a.program today v₀).1.mapError .connect ∧
      (validateWith check options source today v).2.calls =
        (validateProgramWith check options a.program today v₀).2.calls := by
  unfold validateWith
  rw [hread]
  dsimp only
  rcases remarks.redeclared
  · refine ⟨(note .sourceAssembled v).2, rfl, ?_⟩
    simp only [Bool.false_eq_true, if_false, bind_apply]
    rcases validateProgramWith check options a.program today (note .sourceAssembled v).2 with
      ⟨e | report, v₁⟩ <;> exact ⟨rfl, rfl⟩
  · refine ⟨(note .sourceAssembled (note .entryPointRepeated v).2).2, rfl, ?_⟩
    simp only [if_true, bind_apply]
    rcases validateProgramWith check options a.program today
      (note .sourceAssembled (note .entryPointRepeated v).2).2 with ⟨e | report, v₁⟩ <;>
        exact ⟨rfl, rfl⟩

variable {s h}

/-- For every source and every check of stages, where both devices open and the error scopes around
the creation of modules and of the pipeline report the same to both, a validation fails exactly if a
load in a session that has not ended does, in the same way and with the same contents.  If they
succeed, the program of the report is the one whose pipeline the renderer of the session draws: it was
created on the way to the host behind the load, and only the timer after it. -/
theorem validate_agrees_with_load (check : StageCheck) (hd : s.phase ≠ .disposed)
    (handles : WindowHandles) (source : List Char) (width height : Nat) (options : GpuOptions)
    (today : Date) (v : World)
    (hv : ∃ trial, ((Trial.start options).run v).1 = .ok trial)
    (hw : ∃ context, ((Context.open handles s.options.gpu (max width 1) (max height 1)).run
      h.graphics).1 = .ok context)
    (hmodules : moduleReport v.script = moduleReport h.graphics.script)
    (hlink : linkReport v.script = linkReport h.graphics.script)
    {validated : Except ValidationError ValidationReport} {loaded : Except LoadError Unit}
    {s' : Session ρ SurfaceRenderer} {h' : Host World}
    (hvalidated : (validateWith check options source today v).1 = validated)
    (hloaded : loadOnWindowWith check s handles source width height h = ((loaded, s'), h')) :
    (∀ e, validated = .error e → ∃ e', loaded = .error e' ∧ SameFailure e e') ∧
    (∀ e', loaded = .error e' → ∃ e, validated = .error e ∧ SameFailure e e') ∧
    ∀ report, validated = .ok report → loaded = .ok () ∧
      ∃ (a : Shader.Assembly) (remarks : Shader.Remarks) (r : SurfaceRenderer) (w₁ w₂ : World),
        Shader.Assembly.read source = .ok (a, remarks) ∧ report.program = a.program ∧
        s'.renderer = some r ∧
        (Context.open handles s.options.gpu (max width 1) (max height 1)).run
          (connectHost s remarks h).graphics = (.ok r.context, w₁) ∧
        Pipeline.createWith check r.context.device r.context.surface.format report.program w₁ =
          (.ok r.pipeline, w₂) ∧
        Called w₂ (timerCalls r.timer) h'.graphics := by
  obtain ⟨log, hboth⟩ := loadOnWindowWith_eq_load check s handles source width height h
  rw [hloaded] at hboth
  obtain ⟨hload, hhost⟩ := Prod.mk.inj hboth
  rcases hread : Shader.Assembly.read source with e | ⟨a, remarks⟩
  · rw [validateWith_of_read_error check options today v hread] at hvalidated
    rw [load_of_read_error h width height _ hd hread] at hload
    obtain ⟨rfl, rfl⟩ := Prod.mk.inj hload
    subst hvalidated
    refine ⟨?_, ?_, nofun⟩
    · rintro _ ⟨⟩
      exact ⟨_, rfl, .source e⟩
    · rintro _ ⟨⟩
      exact ⟨_, rfl, .source e⟩
  · obtain ⟨v₀, hv₀, hvalid, -⟩ := validateWith_of_read_ok check options today v hread
    have hscript : v₀.script = v.script := by rw [hv₀]
    have hconnect : connectToWith check id handles s.options.gpu =
        SurfaceRenderer.connectWith check handles s.options.gpu := rfl
    rw [hvalid] at hvalidated
    rw [load_of_read_ok h width height _ hd hread, hconnect] at hload hhost
    obtain ⟨trial, context, v₁, w₁, hstart, hopen, hsame⟩ := creations_agree check hv hw hmodules
      hlink hscript (script_connectHost s h remarks) a.program
    obtain ⟨hvfail, hvok⟩ := validateProgramWith_of_start check a.program today hstart
    obtain ⟨hwfail, hwok⟩ := connectWith_of_open check a hopen
    rcases hp : (Pipeline.createWith check trial.device trialFormat a.program v₁).1 with e | p <;>
      rcases hq : Pipeline.createWith check context.device context.surface.format a.program w₁ with
        ⟨e' | q, w₂⟩ <;> rw [hp, hq] at hsame
    · obtain rfl := Except.error.inj hsame
      have hrefused := hwfail e (by rw [hq])
      generalize SurfaceRenderer.connectWith check handles s.options.gpu a (max width 1)
        (max height 1) (connectHost s remarks h).graphics = answer at hload hrefused
      obtain ⟨_, w₃⟩ := answer
      subst hrefused
      rw [hvfail e hp] at hvalidated
      obtain ⟨rfl, rfl⟩ := Prod.mk.inj hload
      subst hvalidated
      refine ⟨?_, ?_, nofun⟩
      · rintro _ ⟨⟩
        exact ⟨_, rfl, sameFailure_toConnectError e⟩
      · rintro _ ⟨⟩
        exact ⟨_, rfl, sameFailure_toConnectError e⟩
    · cases hsame
    · cases hsame
    · obtain ⟨warnings, hreport⟩ := hvok p hp
      obtain ⟨r, w₃, hr, rfl, rfl, htimer⟩ := hwok q w₂ hq
      rw [hreport] at hvalidated
      rw [hr] at hload hhost
      obtain ⟨rfl, rfl⟩ := Prod.mk.inj hload
      subst hvalidated
      refine ⟨nofun, nofun, ?_⟩
      rintro _ ⟨⟩
      -- behind the connection only the log goes on
      have hnoted : Called w₃ [] h'.graphics := by
        rw [hhost]
        exact .of_eq rfl rfl
      have hbehind := htimer.trans hnoted
      rw [List.append_nil] at hbehind
      exact ⟨rfl, a, remarks, r, w₁, w₂, rfl, rfl, rfl, hopen, hq, hbehind⟩

/-- A script whose device refuses to link the first program. -/
def unlinkedScript : Script :=
  { Script.default with pipelineErrors := [some "stage interfaces differ".toList] }

/-- A window on whose device the first program does not link. -/
def unlinkedHost : Host World := .ofGraphics (.ofScript unlinkedScript)

/-- The world of a validator on a machine that has no surfaces. -/
def headlessWorld : World :=
  .ofScript { unlinkedScript with surfaceError := some "no display".toList, formats := [] }

/-- A check that finds no fault. -/
def faultless : StageCheck := fun _ _ => .ok ()

/-- The checker finds none in the shader that draws nothing. -/
theorem checkStagesWith_faultless : checkStagesWith faultless blankAssembly.program =
    checkStagesWith Glsl.check blankAssembly.program := by
  rw [checkStages_blankAssembly]
  rfl

theorem validate_faultless_blankShader :
    (validateWith faultless .default blankShader .zero headlessWorld).1 =
      .error (.connect (.link "stage interfaces differ".toList)) := by
  have herror : (match (validateWith faultless .default blankShader .zero headlessWorld).1 with
      | .error e => some e
      | .ok _ => none) =
      some (ValidationError.connect (.link "stage interfaces differ".toList)) := by decide +kernel
  rcases hv : (validateWith faultless .default blankShader .zero headlessWorld).1 with e | report
  · rw [hv] at herror
    exact congrArg _ (Option.some.inj herror)
  · rw [hv] at herror
    cases herror

theorem validate_faultless_blankShader_ok : ∃ report,
    (validateWith faultless .default blankShader .zero (.ofScript .default)).1 = .ok report := by
  have hok : (validateWith faultless .default blankShader .zero (.ofScript .default)).1.isOk := by
    decide +kernel
  exact exists_of_isOk hok

theorem validate_agrees_with_load_blankShader :
    checkStagesWith faultless blankAssembly.program =
      checkStagesWith Glsl.check blankAssembly.program ∧
    (∃ (loaded : Except LoadError Unit) (s' : Session Float SurfaceRenderer) (h' : Host World),
      (validateWith faultless .default blankShader .zero headlessWorld).1 =
        .error (.connect (.link "stage interfaces differ".toList)) ∧
      loadOnWindowWith faultless freshSession ⟨true, true⟩ blankShader 320 240 unlinkedHost =
        ((loaded, s'), h') ∧
      loaded = .error (.connect (.link "stage interfaces differ".toList))) ∧
    ∃ (report : ValidationReport) (s' : Session Float SurfaceRenderer) (h' : Host World)
      (r : SurfaceRenderer) (w₁ w₂ : World),
      (validateWith faultless .default blankShader .zero (.ofScript .default)).1 = .ok report ∧
      loadOnWindowWith faultless freshSession ⟨true, true⟩ blankShader 320 240
        (.ofGraphics (.ofScript .default)) = ((.ok (), s'), h') ∧
      report.program = blankAssembly.program ∧ s'.renderer = some r ∧
      Pipeline.createWith faultless r.context.device r.context.surface.format report.program w₁ =
        (.ok r.pipeline, w₂) ∧
      Called w₂ (timerCalls r.timer) h'.graphics := by
  refine ⟨checkStagesWith_faultless, ?_, ?_⟩
  · rcases hl : loadOnWindowWith faultless (freshSession : Session Float SurfaceRenderer)
      ⟨true, true⟩ blankShader 320 240 unlinkedHost with ⟨⟨loaded, s'⟩, h'⟩
    obtain ⟨hfail, -, -⟩ := validate_agrees_with_load faultless (by decide) ⟨true, true⟩
      blankShader 320 240 .default .zero headlessWorld ⟨_, rfl⟩ ⟨_, rfl⟩ rfl rfl
      validate_faultless_blankShader hl
    obtain ⟨e', he', hsame⟩ := hfail _ rfl
    cases hsame
    exact ⟨_, s', h', validate_faultless_blankShader, rfl, he'⟩
  · rcases hl : loadOnWindowWith faultless (freshSession : Session Float SurfaceRenderer)
      ⟨true, true⟩ blankShader 320 240 (.ofGraphics (.ofScript .default)) with ⟨⟨loaded, s'⟩, h'⟩
    obtain ⟨report, hreport⟩ := validate_faultless_blankShader_ok
    obtain ⟨-, -, hok⟩ := validate_agrees_with_load faultless (by decide) ⟨true, true⟩
      blankShader 320 240 .default .zero (.ofScript .default) ⟨_, rfl⟩ ⟨_, rfl⟩ rfl rfl hreport hl
    obtain ⟨rfl, a, remarks, r, w₁, w₂, hread, hprogram, hr, -, hcreated, hbehind⟩ := hok _ rfl
    obtain ⟨remarks', hblank, -⟩ := read_blankShader
    cases hread.symm.trans hblank
    exact ⟨report, s', h', r, w₁, w₂, hreport, rfl, hprogram, hr, hcreated, hbehind⟩

end Agreement

end Gpu

end ShaderPreview
