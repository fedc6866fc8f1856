import ShaderPreview.Proofs.Gpu.Agreement
import ShaderPreview.Proofs.Gpu.Custody
import ShaderPreview.Proofs.Gpu.SurfaceSize

/-!
# Nothing is left behind

A session on windows holds the buffers of its renderer and no others, so behind its end every buffer
was returned, whatever the checks of stages, the devices and the surfaces answered.  A validation
holds none behind its trial, which ends with the trial texture and then with the device.  Every
function that opens an error scope closes it.
-/

namespace ShaderPreview

namespace Gpu

open Session

variable {ρ α : Type}

/-! ## Sessions on windows -/

/-- Since a world in which the buffers `held` were held, the calls lead to those of the renderer. -/
def Holds (held : List Buffer) (w₀ : World) (r : Option SurfaceRenderer) (w : World) : Prop :=
  ∃ cs, Tended held w₀ cs (buffersOf r) w

namespace Holds

variable {held : List Buffer} {w₀ w : World} {r : Option SurfaceRenderer}

theorem refl (w : World) : Holds (buffersOf r) w r w := ⟨[], .of_eq rfl rfl⟩

theorem tends (h : Holds held w₀ r w) {m : StateM World α} {f : α → Option SurfaceRenderer}
    (hm : Tends (buffersOf r) m fun a => buffersOf (f a)) :
    Holds held w₀ (f (m w).1) (m w).2 := by
  obtain ⟨cs, hcs⟩ := h
  obtain ⟨ds, hds⟩ := hm w
  exact ⟨cs ++ ds, hcs.trans hds⟩

variable (held w₀)

theorem keptByCalls : KeptByCalls (Holds held w₀) where
  note r e _ h := h.tends (m := Gpu.note e) (f := fun _ => r) (.note e)
  configure r width height _ h := h.tends (f := some) (r.tends_configure width height)
  writeUniforms r block _ h := h.tends (f := some) (r.tends_writeUniforms block)
  pollTimer r _ h :=
    h.tends (f := fun a : TimerPoll × SurfaceRenderer => some a.2) r.tends_pollTimer
  draw r timed _ h :=
    h.tends (f := fun a : DrawOutcome × SurfaceRenderer => some a.2) (r.tends_draw timed)
  release r _ h := h.tends (f := fun _ => none) r.tends_release

theorem connects {op : Operation ρ SurfaceRenderer World} (hop : OnWindowWith op) :
    op.Connects (Holds held w₀) := by
  cases op with
  | load source width height connect =>
    obtain ⟨check, change, handles, options, rfl⟩ := hop
    intro a width height w h
    -- another script is neither a call nor a buffer
    have hchanged : Holds held w₀ none { w with script := change w.script } := by
      obtain ⟨cs, hcs⟩ := h
      exact ⟨cs ++ [], hcs.trans (.of_eq rfl rfl)⟩
    exact hchanged.tends
      (SurfaceRenderer.tends_connectWith check handles options a width height)
  | _ => trivial

end Holds

section Sessions

variable [Seconds ρ]

theorem tended_operate (s : Session ρ SurfaceRenderer) {op : Operation ρ SurfaceRenderer World}
    (hop : OnWindowWith op) (h : Host World) :
    ∃ cs, Tended (buffersOf s.renderer) h.graphics cs (buffersOf (s.operate op h).1.renderer)
      (s.operate op h).2.graphics :=
  meets_operate (Holds.keptByCalls _ _) h (Holds.connects _ _ hop) (Holds.refl h.graphics)

theorem tended_run_dispose {s : Session ρ SurfaceRenderer} (hs : Coherent s)
    (hr : s.renderer = none) {ops : List (Operation ρ SurfaceRenderer World)}
    (hops : ∀ op ∈ ops, OnWindowWith op) (h : Host World) :
    ∃ cs, Tended [] h.graphics cs [] (s.run (ops ++ [.dispose]) h).2.graphics := by
  have hm : Meets (Holds [] h.graphics) s h := by
    unfold Meets
    rw [hr]
    exact Holds.refl (r := none) h.graphics
  exact meets_run_dispose (Holds.keptByCalls _ _) h
    (fun op hop => Holds.connects _ _ (hops op hop)) hs hm

end Sessions

/-! ## Trials -/

namespace Trial

variable (t : Trial)

/-- The calls that set up a trial on its device. -/
def openCalls : List Call :=
  [.watchErrors t.device,
    .createTexture t.target trialSize trialSize trialFormat .renderTarget]

/-- The calls that end a trial. -/
def closeCalls : List Call := [.destroyTexture t.target, .destroyDevice t.device]

theorem makes_close : Makes t.closeCalls t.close := (Makes.call _).bind fun _ => .call _

theorem steady_drawPass (p : Pipeline) {held : List Buffer} : Steady held (t.drawPass p) :=
  (Tends.plain rfl rfl).bind fun _ => (Tends.plain rfl rfl).bind fun _ =>
    (Tends.plain rfl rfl).bind fun _ => (steady_pipelineDraw p).bind fun _ =>
      (Tends.plain rfl rfl).bind fun _ => (steady_submit _).bind fun _ => steady_pollDevice true

theorem steady_draw (p : Pipeline) (today : Date) : Steady [p.uniforms] (t.draw p today) := by
  refine (steady_writeBuffer _ List.mem_cons_self _).bind fun _ =>
    ((t.steady_drawPass p).inScope _).bind fun (_, error) => Tends.get.bind fun w => ?_
  refine (Tends.forIn (fun _ _ => ?_) _ _).bind fun _ => .pure _ rfl
  exact (Tends.note _).bind fun _ => .pure _ rfl

theorem tends_runWith (check : StageCheck) (program : List Char) (today : Date) :
    Steady [] (t.runWith check program today) := by
  refine (tends_createChecked _ _ _ _).bind fun answer => ?_
  rcases answer with (d | message) | p
  · exact .pure _ rfl
  · exact .pure _ rfl
  exact (t.steady_draw p today).bind fun _ => (Tends.destroyNewest _).bind fun _ => .pure _ rfl

end Trial

section Starts

variable (σ : Script) (options : GpuOptions)

/-- The calls up to the choice of an adapter without a surface. -/
def trialAdapterCalls : List Call :=
  [.openInstance true, .requestAdapter options.powerPreference false false]

/-- The calls up to the request for a device without a surface. -/
def trialDeviceCalls : List Call :=
  trialAdapterCalls options ++ [.requestDevice "fragscope validator" false σ.maxDimension]

/-- How a trial can be started, and the calls that this takes. -/
inductive Starts : Except ContextError Trial → List Call → Prop where
  | noAdapter {reason : List Char} (h : σ.adapterError = some reason) :
      Starts (.error (.noAdapter reason)) (trialAdapterCalls options)
  | noDevice {reason : List Char} (h : σ.deviceError = some reason) :
      Starts (.error (.noDevice reason)) (trialDeviceCalls σ options)
  | started (t : Trial) : Starts (.ok t) (trialDeviceCalls σ options ++ t.openCalls)

variable {σ}

theorem ends_start : Ends σ [] (Trial.start options) (Starts σ options) := by
  refine .call_bind (.bind (ends_requestAdapter (fun _ => .noAdapter) ?_))
  refine .bind (ends_requestDevice (fun _ => .noDevice) fun d => ?_)
  refine .call_bind ?_
  -- the number of the texture is that of the next resource
  intro w hw
  exact ⟨[.createTexture ⟨w.resources, "validation target"⟩ trialSize trialSize trialFormat
    .renderTarget], ⟨rfl, rfl⟩, hw, .started ⟨d, ⟨w.resources, "validation target"⟩⟩⟩

/-- The device of a trial is the one that was opened for it. -/
theorem device_start (w : World) :
    ∀ t, ((Trial.start options).run w).1 = .ok t → t.device = w.devices.length := by
  rcases w with ⟨⟨_, _ | adapter, _ | device⟩⟩ <;> rintro _ ⟨⟩
  rfl

end Starts

/-- The calls of a validation open no device, since none was asked for or it was refused, or they set
up one trial, on the device that was opened for it.  At last, behind everything that was done in the
trial, they destroy its texture and its device. -/
inductive EndsTrial (options : GpuOptions) (σ : Script) (opened : DeviceId) : List Call → Prop where
  | unopened {cs : List Call} (hd : σ.deviceError = none →
        ∀ label timed limit, .requestDevice label timed limit ∉ cs)
      (ht : ∀ c ∈ cs, c.isTrial = false) : EndsTrial options σ opened cs
  | closed {cs : List Call} (t : Trial) (hd : t.device = opened)
      (hcs : ∀ c ∈ cs, c.isTrial = false) :
      EndsTrial options σ opened (trialDeviceCalls σ options ++ t.openCalls ++ cs ++ t.closeCalls)

/-- Everything that a validation creates in a world is given back. -/
structure ValidationBalanced (options : GpuOptions) (w : World) (cs : List Call) : Prop where
  buffers : BuffersReturned cs
  scopes : Nested cs
  trial : EndsTrial options w.script w.devices.length cs

/-- The call has to do neither with buffers nor with error scopes. -/
def Call.isAside (c : Call) : Bool :=
  c.created?.isNone && c.destroyed?.isNone && c.uses.isEmpty && !c.isScoping

theorem aside {cs : List Call} (h : ∀ c ∈ cs, c.isAside) (l : Ledger) :
    Ledger.Leads l cs l ∧ Nested cs := by
  induction cs with
  | nil => exact ⟨.nil l, .nil⟩
  | cons c cs ih =>
    obtain ⟨hc, hcs⟩ := List.forall_mem_cons.1 h
    obtain ⟨hleads, hnested⟩ := ih hcs
    simp only [Call.isAside, Bool.and_eq_true, Option.isNone_iff_eq_none, List.isEmpty_iff,
      Bool.not_eq_true'] at hc
    obtain ⟨⟨⟨hcreated, hdestroyed⟩, huses⟩, hscoping⟩ := hc
    refine ⟨.other hcreated hdestroyed ?_ hleads, .other hscoping hnested⟩
    rw [huses]
    exact List.forall_mem_nil _

theorem aside_trialDeviceCalls (σ : Script) (options : GpuOptions) :
    ∀ c ∈ trialDeviceCalls σ options, c.isAside ∧ c.isTrial = false := by
  simp [trialAdapterCalls, trialDeviceCalls, Call.isAside, Call.uses, Call.created?,
    Call.destroyed?, Call.isScoping, Call.isTrial]

namespace ValidationBalanced

variable {options : GpuOptions} {w : World} {cs : List Call}

theorem unopened (h : ∀ c ∈ cs, c.isAside ∧ c.isTrial = false)
    (hd : w.script.deviceError = none → ∀ label timed limit, .requestDevice label timed limit ∉ cs) :
    ValidationBalanced options w cs := by
  obtain ⟨hleads, hnested⟩ := aside (fun c hc => (h c hc).1) ⟨[], 0⟩
  exact ⟨hleads.buffersReturned, hnested, .unopened hd fun c hc => (h c hc).2⟩

theorem closed {w₁ w₂ : World} (t : Trial) (hd : t.device = w.devices.length)
    (hcs : Tended [] w₁ cs [] w₂) : ValidationBalanced options w
      (trialDeviceCalls w.script options ++ t.openCalls ++ cs ++ t.closeCalls) := by
  have hopen : ∀ c ∈ trialDeviceCalls w.script options ++ t.openCalls, c.isAside :=
    List.forall_mem_append.2 ⟨fun c hc => (aside_trialDeviceCalls _ _ c hc).1,
      List.forall_mem_cons.2 ⟨rfl, List.forall_mem_singleton.2 rfl⟩⟩
  have hclose : ∀ c ∈ t.closeCalls, c.isAside :=
    List.forall_mem_cons.2 ⟨rfl, List.forall_mem_singleton.2 rfl⟩
  obtain ⟨n, -, hleads⟩ := hcs.leads 0 (Nat.zero_le _)
  obtain ⟨hbefore, hnested⟩ := aside hopen ⟨[], 0⟩
  obtain ⟨hbehind, hnested'⟩ := aside hclose ⟨[], n⟩
  exact ⟨((hbefore.trans hleads).trans hbehind).buffersReturned,
    (hnested.append hcs.nested).append hnested', .closed t hd hcs.lasting⟩

end ValidationBalanced

section Validations

variable (check : StageCheck) (options : GpuOptions) (today : Date)

theorem validateProgramWith_balanced (program : List Char) (w : World) :
    ∃ cs, (validateProgramWith check options program today w).2.calls = w.calls ++ cs ∧
      ValidationBalanced options w cs := by
  obtain ⟨cs, hcs, -, hstarts⟩ := ends_start options w rfl
  have hdevice := device_start options w
  rw [List.nil_append] at hstarts
  unfold validateProgramWith
  rw [bind_apply]
  generalize (Trial.start options).run w = answer at hcs hstarts hdevice ⊢
  obtain ⟨e | t, w₁⟩ := answer
  · refine ⟨cs, hcs.calls, ?_⟩
    cases hstarts with
    | noAdapter =>
      refine .unopened (fun c hc => ?_) (by simp [trialAdapterCalls])
      exact aside_trialDeviceCalls w.script options c (List.mem_append_left _ hc)
    | noDevice h => exact .unopened (aside_trialDeviceCalls _ _) (by simp [h])
  · obtain ⟨ds, hds⟩ := t.tends_runWith check program today w₁
    cases hstarts with
    | started =>
      refine ⟨_, ?_, .closed t (hdevice t rfl) hds⟩
      show (t.close (t.runWith check program today w₁).2).2.calls = _
      rw [(t.makes_close _).calls, hds.calls, hcs.calls]
      simp only [List.append_assoc]

/-- Behind a validation everything that it created was given back. -/
theorem validateWith_balanced (source : List Char) (w : World) :
    ∃ cs, (validateWith check options source today w).2.calls = w.calls ++ cs ∧
      ValidationBalanced options w cs := by
  rcases hread : Shader.Assembly.read source with e | ⟨a, remarks⟩
  · refine ⟨[], ?_, .unopened (List.forall_mem_nil _) (by simp)⟩
    unfold validateWith
    rw [hread, List.append_nil]
    rfl
  · obtain ⟨v, hv, -, hcalls⟩ := validateWith_of_read_ok check options today w hread
    obtain ⟨cs, hcs, hbuffers, hscopes, htrial⟩ :=
      validateProgramWith_balanced check options today a.program v
    -- the world behind the notes differs from the one before in its log alone
    have hscript : v.script = w.script := by rw [hv]
    have hbefore : v.calls = w.calls := by rw [hv]
    have hdevices : v.devices = w.devices := by rw [hv]
    rw [hscript, hdevices] at htrial
    rw [hcalls, hcs, hbefore]
    exact ⟨cs, rfl, hbuffers, hscopes, htrial⟩

end Validations

/-! ## Everything is given back -/

/-- The calls of the computation close every error scope that they open. -/
def ClosesScopes (m : StateM World α) : Prop :=
  ∀ w, ∃ cs, (m w).2.calls = w.calls ++ cs ∧ Nested cs

theorem Tends.closesScopes {held : List Buffer} {m : StateM World α} {kept : α → List Buffer}
    (h : Tends held m kept) : ClosesScopes m := by
  intro w
  obtain ⟨cs, hcs⟩ := h w
  exact ⟨cs, hcs.calls, hcs.nested⟩

/-- Whatever the check of the stages, the adapter, the device, the surface and each of their answers:
behind the end of a session on windows every buffer that was created was destroyed exactly once, and
not used behind that; so it is behind a validation, which destroys its texture and its device last.
What opens error scopes closes them: the creation of a pipeline, the draw of a trial, and so every
operation of a session and every validation. -/
theorem everything_returned [Seconds ρ] {options : PreviewOptions}
    {s₀ : Session ρ SurfaceRenderer} (hs₀ : create? options = some s₀)
    {ops : List (Operation ρ SurfaceRenderer World)} (hops : ∀ op ∈ ops, OnWindowWith op)
    (h₀ : Host World) :
    (∃ cs, (run s₀ (ops ++ [.dispose]) h₀).2.graphics.calls = h₀.graphics.calls ++ cs ∧
        BuffersReturned cs ∧ Nested cs) ∧
      (∀ before op after, ops ++ [.dispose] = before ++ op :: after →
        ∃ cs, (run s₀ (before ++ [op]) h₀).2.graphics.calls =
            (run s₀ before h₀).2.graphics.calls ++ cs ∧ Nested cs) ∧
      ∀ check : StageCheck,
        (∀ d format program, ClosesScopes (Pipeline.createWith check d format program)) ∧
        (∀ (t : Trial) p today, ClosesScopes (t.draw p today)) ∧
        ∀ gpuOptions source today w,
          ∃ cs, (validateWith check gpuOptions source today w).2.calls = w.calls ++ cs ∧
            ValidationBalanced gpuOptions w cs := by
  refine ⟨?_, ?_, fun check => ⟨?_, ?_, ?_⟩⟩
  · obtain ⟨-, hr, -, -⟩ := create?_frame hs₀
    obtain ⟨cs, hcs⟩ := tended_run_dispose (coherent_of_create? hs₀) hr hops h₀
    exact ⟨cs, hcs.calls, hcs.buffersReturned, hcs.nested⟩
  · intro before op after heq
    have hop : OnWindowWith op := by
      have hmem : op ∈ ops ++ [.dispose] := by simp [heq]
      rcases List.mem_append.1 hmem with hmem | hmem
      · exact hops op hmem
      · rw [List.mem_singleton.1 hmem]
        trivial
    rw [run_append_apply, run_cons_apply, run_nil_apply]
    obtain ⟨cs, hcs⟩ := tended_operate (run s₀ before h₀).1 hop (run s₀ before h₀).2
    exact ⟨cs, hcs.calls, hcs.nested⟩
  · intro d format program
    exact (tends_createChecked _ d format program).closesScopes
  · intro t p today
    exact (t.steady_draw p today).closesScopes
  · intro gpuOptions source today w
    exact validateWith_balanced check gpuOptions today source w

/-- A shader is loaded on a window and draws, and then one is loaded that does not link. -/
def unlinkedPreview : List (Operation Float SurfaceRenderer World) :=
  [.load blankShader 320 240 (connectToWith faultless id ⟨true, true⟩ .default), .start,
    .tick 0 .zero,
    .load blankShader 320 240 (connectToWith faultless (fun _ => unlinkedScript) ⟨true, true⟩ .default)]

theorem onWindowWith_unlinkedPreview : ∀ op ∈ unlinkedPreview, OnWindowWith op := by
  simp only [unlinkedPreview, List.forall_mem_cons]
  exact ⟨⟨_, _, _, _, rfl⟩, trivial, trivial, ⟨_, _, _, _, rfl⟩, List.forall_mem_nil _⟩

/-- The two shaders take four buffers, and each of them is destroyed once. -/
theorem everything_returned_unlinkedPreview :
    (∃ cs, (run freshSession (unlinkedPreview ++ [.dispose]) windowHost).2.graphics.calls = cs ∧
        (createdBuffers cs).map Buffer.label = ["frame uniforms", "frame timer resolve",
          "frame timer readback", "frame uniforms"] ∧
        ∀ b ∈ createdBuffers cs, (destroyedBuffers cs).count b = 1) ∧
      ∃ cs, (validateWith faultless .default blankShader .zero headlessWorld).2.calls = cs ∧
        (createdBuffers cs).map Buffer.label = ["frame uniforms"] ∧
        ValidationBalanced .default headlessWorld cs := by
  have hrun : (createdBuffers (run freshSession (unlinkedPreview ++ [.dispose])
        windowHost).2.graphics.calls).map Buffer.label =
      ["frame uniforms", "frame timer resolve", "frame timer readback", "frame uniforms"] := by
    decide +kernel
  have hvalidation : (createdBuffers (validateWith faultless .default blankShader .zero
      headlessWorld).2.calls).map Buffer.label = ["frame uniforms"] := by decide +kernel
  obtain ⟨⟨cs, hcs, hbuffers, -⟩, -, hchecks⟩ :=
    everything_returned create?_default onWindowWith_unlinkedPreview windowHost
  obtain ⟨-, -, hvalidate⟩ := hchecks faultless
  obtain ⟨ds, hds, hbalanced⟩ := hvalidate .default blankShader .zero headlessWorld
  have hcalls : (run freshSession (unlinkedPreview ++ [.dispose]) windowHost).2.graphics.calls = cs :=
    hcs
  have hcalls' : (validateWith faultless .default blankShader .zero headlessWorld).2.calls = ds := hds
  rw [hcalls] at hrun
  rw [hcalls'] at hvalidation
  exact ⟨⟨cs, hcalls, hrun, hbuffers.destroyed⟩, ds, hcalls', hvalidation, hbalanced⟩

end Gpu

end ShaderPreview
