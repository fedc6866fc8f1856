import Mathlib.Tactic.Tauto
import ShaderPreview.Proofs.Preview.Run

/-!
# What an operation does to a session

For the parts of an operation, the session behind each in terms of the one before.  Where a renderer
or the tick queue answers, a *frame* lemma says which fields the answer can reach: all others are
those of the session before.
-/

namespace ShaderPreview

namespace Session

variable {ρ β G : Type}

/-! ## New sessions -/

theorem create?_frame [Seconds ρ] {options : PreviewOptions} {s : Session ρ β}
    (hs : create? options = some s) :
    s.phase = .uninitialized ∧ s.renderer = none ∧ s.used = none ∧ s.pendingTick = none := by
  simp only [create?, Option.bind_eq_bind, Option.bind_eq_some_iff, Option.pure_def,
    Option.some.injEq] at hs
  obtain ⟨telemetry, -, rfl⟩ := hs
  exact ⟨rfl, rfl, rfl, rfl⟩

/-! ## Asking for ticks, and the end of a shader -/

section Ticks

variable (s : Session ρ β) (h : Host G)

theorem schedule_of_eq_none (hp : s.pendingTick = none) :
    schedule s h = ({ s with pendingTick := some h.ticks.request.1 },
      { h with ticks := h.ticks.request.2 }) := by
  unfold schedule
  rw [if_neg (by simp [hp])]
  rfl

theorem cancelPending_fst : (cancelPending s h).1 = { s with pendingTick := none } := by
  unfold cancelPending
  rcases hp : s.pendingTick with _ | token
  · exact congrArg (fun p => { s with pendingTick := p }) hp
  · rfl

theorem cancelPending_graphics : (cancelPending s h).2.graphics = h.graphics := by
  unfold cancelPending
  rcases s.pendingTick with _ | token <;> rfl

theorem cancelPending_published : (cancelPending s h).2.published = h.published := by
  unfold cancelPending
  rcases s.pendingTick with _ | token <;> rfl

theorem schedule_renderer : (schedule s h).1.renderer = s.renderer := by
  unfold schedule
  split <;> rfl

theorem schedule_graphics : (schedule s h).2.graphics = h.graphics := by
  unfold schedule
  split <;> rfl

theorem schedule_published : (schedule s h).2.published = h.published := by
  unfold schedule
  split <;> rfl

end Ticks

/-- A session that has given up its shader and its pending tick. -/
def unloaded (s : Session ρ β) : Session ρ β :=
  { s with
    pendingTick := none
    renderer := none
    used := none
    phase := if s.phase = .disposed then .disposed else .uninitialized }

section Teardown

variable [Renderer G β] (s : Session ρ β) (h : Host G)

theorem releaseRenderer_fst : (releaseRenderer s h).1 = { s with renderer := none } := by
  unfold releaseRenderer
  rcases hr : s.renderer with _ | r
  · exact congrArg (fun r => { s with renderer := r }) hr
  · rfl

theorem teardown_fst : (teardown s h).1 = s.unloaded := by
  simp only [teardown, bind_apply, pure_apply, releaseRenderer_fst, cancelPending_fst, unloaded]

variable [Journal G]

theorem dispose_of_disposed (hs : s.phase = .disposed) :
    dispose s = (pure s : StateM (Host G) _) := by
  unfold dispose
  rw [if_pos hs]

theorem dispose_of_ne_disposed (hs : s.phase ≠ .disposed) :
    (dispose s h).1 = { s.unloaded with phase := .disposed } := by
  unfold dispose
  rw [if_neg hs]
  simp only [bind_apply, pure_apply, teardown_fst]

theorem dispose_phase : (dispose s h).1.phase = .disposed := by
  by_cases hs : s.phase = .disposed
  · rw [dispose_of_disposed s hs]
    exact hs
  · rw [dispose_of_ne_disposed s h hs]

end Teardown

/-! ## Loading -/

section Load

variable [Seconds ρ] [Renderer G β] [Journal G] (s : Session ρ β) (h : Host G)
variable (source : List Char) (width height : Nat)
variable (connect : Shader.Assembly → Nat → Nat → StateM G (Except ConnectError β))

theorem load_of_disposed (hs : s.phase = .disposed) :
    load s source width height connect = pure (.error .disposed, s) := by
  unfold load
  rw [if_pos hs]

/-- A load that does not fail leaves a shader behind; one that fails leaves none. -/
theorem load_frame (hs : s.phase ≠ .disposed) :
    (∃ a r, (load s source width height connect h).1 =
        (.ok (), s.unloaded.withShader a (max width 1) (max height 1) r)) ∨
      ∃ e, (load s source width height connect h).1 = (.error e, s.unloaded) := by
  unfold load
  rw [if_neg hs]
  simp only [bind_apply, teardown_fst]
  rcases Shader.Assembly.read source with e | ⟨a, remarks⟩
  · exact Or.inr ⟨_, rfl⟩
  · simp only [bind_apply, Host.onGraphics_apply]
    rcases (connect a (max width 1) (max height 1) _).1 with e | r
    · exact Or.inr ⟨_, rfl⟩
    · exact Or.inl ⟨_, _, rfl⟩

end Load

/-! ## Starting, pausing, halting -/

section Phases

variable [Journal G] (s : Session ρ β)

theorem start_of_ne_ready (hs : s.phase ≠ .ready) :
    start s = (pure s : StateM (Host G) _) := by
  unfold start
  rw [if_pos hs]

theorem halt_of_not_isTicking (hs : s.phase.isTicking = false) :
    halt s = (pure s : StateM (Host G) _) := by
  unfold halt
  rw [hs]
  rfl

end Phases

theorem setPaused_of_disposed [Seconds ρ] [Journal G] (s : Session ρ β) (paused : Bool) (time : ρ)
    (hs : s.phase = .disposed) : setPaused s paused time = (pure s : StateM (Host G) _) := by
  unfold setPaused
  rw [if_pos hs]

theorem setPaused_fst [Seconds ρ] [Journal G] (s : Session ρ β) (h : Host G) (paused : Bool)
    (time : ρ) (hs : s.phase ≠ .disposed) : (setPaused s paused time h).1 =
      { s with clock := s.clock.setPaused paused time, phase := s.phase.afterPause paused } := by
  unfold setPaused
  rw [if_neg hs]
  simp only
  split <;> rfl

/-! ## Pointer and size -/

theorem pointerMoved_of_not_isLive (s : Session ρ β) (x y : Float32)
    (hs : s.phase.isLive = false) : s.pointerMoved x y = s := by
  unfold pointerMoved
  rw [hs]
  rfl

theorem pointerPressed_of_not_isLive (s : Session ρ β) (x y : Float32)
    (hs : s.phase.isLive = false) : s.pointerPressed x y = s := by
  unfold pointerPressed
  rw [hs]
  rfl

section Size

variable [Renderer G β] [Journal G] (s : Session ρ β) (h : Host G)

/-- A size can be applied: neither side is zero, and it is another one. -/
def Resizes (s : Session ρ β) (width height : Nat) : Prop :=
  width ≠ 0 ∧ height ≠ 0 ∧ (s.width, s.height) ≠ (width, height)

theorem resize_eq_pure {width height : Nat}
    (hr : ¬ (s.phase.isLive ∧ s.Resizes width height ∧ s.renderer.isSome)) :
    resize s width height = (pure s : StateM (Host G) _) := by
  unfold resize
  split
  · rfl
  · rename_i hc
    rcases hs : s.renderer with _ | r
    · rfl
    · exfalso
      apply hr
      rw [hs]
      simp only [Resizes, ne_eq, Prod.mk.injEq, Bool.or_eq_true, Bool.and_eq_true,
        decide_eq_true_eq, Bool.not_eq_true', Option.isSome_some] at hc ⊢
      simp only [← Bool.not_eq_true] at hc
      tauto

theorem resize_of_resizes {width height : Nat} {r : β} (hl : s.phase.isLive)
    (hr : s.Resizes width height) (hs : s.renderer = some r) :
    resize s width height h =
      ({ s.withSize width height with
          renderer := some (Renderer.configure r width height h.graphics).1 },
        { h with
          graphics := (Journal.note .surfaceResized
            (Renderer.configure r width height h.graphics).2).2 }) := by
  obtain ⟨hw, hh, hne⟩ := hr
  unfold resize
  rw [if_neg, hs]
  · rfl
  · simpa [hl, hw, hh] using hne

theorem resize_frame (width height : Nat) : ∃ width' height' block renderer,
    (resize s width height h).1 =
        { s with width := width', height := height', block := block, renderer := renderer } ∧
      renderer.isSome = s.renderer.isSome := by
  by_cases hr : s.phase.isLive ∧ s.Resizes width height ∧ s.renderer.isSome
  · obtain ⟨r, hs⟩ := Option.isSome_iff_exists.1 hr.2.2
    rw [resize_of_resizes s h hr.1 hr.2.1 hs, hs]
    exact ⟨_, _, _, _, rfl, rfl⟩
  · rw [resize_eq_pure s hr]
    exact ⟨_, _, _, _, rfl, rfl⟩

theorem applyRequestedSize_frame : ∃ width height block renderer,
    (applyRequestedSize s h).1 =
        { s with
          requestedSize := none, width := width, height := height, block := block,
          renderer := renderer } ∧
      renderer.isSome = s.renderer.isSome := by
  unfold applyRequestedSize
  rcases hq : s.requestedSize with _ | ⟨width, height⟩
  · exact ⟨_, _, _, _, congrArg (fun q => { s with requestedSize := q }) hq, rfl⟩
  · exact resize_frame { s with requestedSize := none } h width height

end Size

/-! ## Ticking -/

section Tick

variable [Journal G] (s : Session ρ β) (h : Host G) (now : Nat)

theorem recordInterval_frame : ∃ telemetry,
    recordInterval s now = { s with telemetry := telemetry } := by
  unfold recordInterval
  rcases s.clock.previousTick with _ | previous
  · exact ⟨s.telemetry, rfl⟩
  · exact ⟨_, rfl⟩

theorem probeRate_fst : (probeRate s now h).1 = { s with probe := (s.probe.record now).2 } := by
  unfold probeRate
  rcases s.probe.record now with ⟨finding, probe⟩
  cases finding <;> rfl

theorem recordGpu_frame (ms : Float) : ∃ telemetry lastGpuTime,
    (recordGpu s ms h).1 = { s with telemetry := telemetry, lastGpuTime := lastGpuTime } := by
  unfold recordGpu
  split
  · exact ⟨_, _, rfl⟩
  · exact ⟨s.telemetry, s.lastGpuTime, rfl⟩

theorem publishIfDue_ticks : (publishIfDue s h).2.ticks = h.ticks := by
  unfold publishIfDue
  split <;> rfl

omit [Journal G] in
theorem finishTick_of_eq_none (hp : s.pendingTick = none) :
    finishTick s now h =
      ({ s with
          clock := { s.clock with previousTick := some now },
          pendingTick := some h.ticks.request.1 },
        { h with ticks := h.ticks.request.2 }) :=
  schedule_of_eq_none _ h hp

variable [Renderer G β]

theorem pollTimer_frame (r : β) : ∃ telemetry lastGpuTime,
    (pollTimer s r h).1.2.2 = { s with telemetry := telemetry, lastGpuTime := lastGpuTime } := by
  unfold pollTimer
  split
  · exact ⟨s.telemetry, s.lastGpuTime, rfl⟩
  · simp only [bind_apply, Host.onGraphics_apply]
    rcases (Renderer.pollTimer r h.graphics).1 with ⟨_ | _ | ms, r⟩
    · exact ⟨s.telemetry, s.lastGpuTime, rfl⟩
    · exact ⟨s.telemetry, s.lastGpuTime, rfl⟩
    · exact recordGpu_frame s _ ms

variable [Seconds ρ]

variable (today : Date)

theorem tick_eq_pure (ht : ¬ (s.phase.isTicking ∧ s.pendingTick.isSome)) :
    tick s now today = (pure s : StateM (Host G) _) := by
  unfold tick
  rw [if_pos]
  simpa [imp_iff_not_or] using ht

theorem tick_eq_runTick (ht : s.phase.isTicking) (hp : s.pendingTick.isSome) :
    tick s now today = (s.runTick now today : StateM (Host G) _) := by
  unfold tick
  rw [if_neg]
  simpa [← Option.isSome_iff_ne_none] using ⟨ht, hp⟩

/-- The part of a tick that follows its beginning, where that leaves uniforms and a renderer. -/
theorem runTick_of_eq_some {elapsed delta : ρ} {t : Session ρ β} {h' : Host G}
    {used : Shader.UniformSet} {r : β} (hb : beginTick s now h = ((elapsed, delta, t), h'))
    (hu : t.used = some used) (hr : t.renderer = some r) :
    runTick s now today h =
      let block := t.block.writeFrame used (t.frameInputs elapsed delta today)
      drawFrame { t with block } now (Renderer.writeUniforms r block h'.graphics).1
        { h' with graphics := (Renderer.writeUniforms r block h'.graphics).2 } := by
  unfold runTick
  simp only [bind_apply]
  rw [hb]
  simp only
  rw [hu, hr]
  rfl

end Tick

end Session

end ShaderPreview
