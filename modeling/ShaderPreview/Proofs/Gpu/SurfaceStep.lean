import ShaderPreview.Proofs.Gpu.SurfaceMarks
import ShaderPreview.Proofs.Preview.Effect

/-!
# What an operation does to a surface

A session on a window draws into the surface that its renderer holds.  `SurfaceStep` lists what each
operation can do to that surface, with the marks of its calls, and `surfaceStep_operate` says that
nothing else happens to a coherent session: a surface is created by a load, and given another size by
a resize or by a tick, which may set it up once more and then draw nothing.
-/

namespace ShaderPreview

namespace Gpu

open Session

variable {ρ β : Type}

/-- Connects to a window, whose adapter and surface may be other ones than before. -/
def connectToWith (check : StageCheck) (change : Script → Script) (handles : WindowHandles)
    (options : GpuOptions) (a : Shader.Assembly) (width height : Nat) :
    StateM World (Except ConnectError SurfaceRenderer) :=
  fun w => SurfaceRenderer.connectWith check handles options a width height
    { w with script := change w.script }

/-- What is loaded is connected to a window, with any check of its stages. -/
def OnWindowWith : Operation ρ SurfaceRenderer World → Prop
  | .load _ _ _ connect =>
    ∃ check change handles options, connect = connectToWith check change handles options
  | _ => True

/-- A load on a window is a load of this kind; only the log may tell them apart. -/
theorem loadOnWindowWith_eq_load [Seconds ρ] (check : StageCheck) (s : Session ρ SurfaceRenderer)
    (handles : WindowHandles) (source : List Char) (width height : Nat) (h : Host World) :
    ∃ log, loadOnWindowWith check s handles source width height h =
      let p := s.load source width height (connectToWith check id handles s.options.gpu) h
      (p.1, { p.2 with graphics := { p.2.graphics with log := log } }) := by
  unfold loadOnWindowWith
  simp only [bind_apply]
  have hconnect : connectToWith check id handles s.options.gpu =
      SurfaceRenderer.connectWith check handles s.options.gpu := rfl
  rw [hconnect]
  rcases load s source width height (SurfaceRenderer.connectWith check handles s.options.gpu) h with
    ⟨⟨e | u, t⟩, h'⟩
  · exact ⟨h'.graphics.log ++ [.connectFailed], rfl⟩
  · exact ⟨h'.graphics.log, rfl⟩

/-- The set-up of the surface of a session, if it has one. -/
def surface? (s : Session ρ SurfaceRenderer) : Option SurfaceSetup :=
  s.renderer.map SurfaceRenderer.setup

theorem surface?_eq_none {s : Session ρ SurfaceRenderer} (hr : s.renderer = none) :
    surface? s = none := congrArg (Option.map _) hr

theorem surface?_eq_some {s : Session ρ SurfaceRenderer} {r : SurfaceRenderer}
    (hr : s.renderer = some r) : surface? s = some r.setup := congrArg (Option.map _) hr

/-- A surface as the next tick of a session sets it up. -/
def nextSetup (s : Session ρ β) (setup : SurfaceSetup) : SurfaceSetup :=
  s.sizeToApply.elim setup fun (width, height) => setup.withSize width height

/-- What a tick does to a surface before it writes the uniforms. -/
def sizingMarks (s : Session ρ β) (setup : SurfaceSetup) : List SurfaceMark :=
  s.sizeToApply.toList.map fun (width, height) => .configured (setup.withSize width height)

/-- An operation gives the surface of a session another size. -/
def Takes (s : Session ρ β) (size : Nat × Nat) : Operation ρ SurfaceRenderer World → Prop
  | .resize width height => s.phase.isLive ∧ s.Resizes width height ∧ size = (width, height)
  | .tick .. => s.phase.isTicking ∧ s.pendingTick.isSome ∧ s.sizeToApply = some size
  | _ => False

/-- How a load can end that leaves the session `t`, with the marks of its calls. -/
inductive LoadMarks (σ : Script) (options : GpuOptions) (width height : Nat)
    (t : Session ρ SurfaceRenderer) : List SurfaceMark → Prop where
  | unread (ht : surface? t = none) : LoadMarks σ options width height t []
  | connected {result : Except ConnectError SurfaceRenderer} {ms : List SurfaceMark}
      (hms : ConnectMarks σ options (max width 1) (max height 1) result ms)
      (ht : surface? t = result.toOption.map SurfaceRenderer.setup)
      (hsize : result.toOption.isSome → (t.width, t.height) = (max width 1, max height 1)) :
      LoadMarks σ options width height t ms

/-- What an operation can do to the surface of a session in a world with a script: the marks of its
calls, and the session behind it. -/
inductive SurfaceStep [Seconds ρ] (σ : Script) (s : Session ρ SurfaceRenderer) :
    Operation ρ SurfaceRenderer World → List SurfaceMark → Session ρ SurfaceRenderer → Prop where
  | kept {op : Operation ρ SurfaceRenderer World} {t : Session ρ SurfaceRenderer}
      (hop : ∀ size, ¬ Takes s size op) (ht : surface? t = surface? s)
      (hsize : (t.width, t.height) = (s.width, s.height)) : SurfaceStep σ s op [] t
  | loaded {source : List Char} {width height : Nat} {check : StageCheck} {change : Script → Script}
      {handles : WindowHandles} {options : GpuOptions} {ms : List SurfaceMark}
      {t : Session ρ SurfaceRenderer} (hms : LoadMarks (change σ) options width height t ms) :
      SurfaceStep σ s (.load source width height (connectToWith check change handles options)) ms t
  | resized {width height : Nat} {setup : SurfaceSetup} {t : Session ρ SurfaceRenderer}
      (hl : s.phase.isLive) (hz : s.Resizes width height) (hs : surface? s = some setup)
      (ht : surface? t = some (setup.withSize width height))
      (hsize : (t.width, t.height) = (width, height)) :
      SurfaceStep σ s (.resize width height) [.configured (setup.withSize width height)] t
  | ticked {now : Nat} {today : Date} {setup : SurfaceSetup} {used : Shader.UniformSet}
      {outcome : DrawOutcome} {ms : List SurfaceMark} {t : Session ρ SurfaceRenderer}
      (hticking : s.phase.isTicking) (hpending : s.pendingTick.isSome)
      (hs : surface? s = some setup) (hu : s.used = some used)
      (hms : SurfaceRenderer.DrawMarks (nextSetup s setup) outcome ms)
      (ht : ∀ setup' ∈ surface? t, setup' = nextSetup s setup)
      (hsize : (t.width, t.height) = s.nextSize) :
      SurfaceStep σ s (.tick now today)
        (sizingMarks s setup ++ .written (s.frameBlock now today used) :: ms) t
  | disposed {t : Session ρ SurfaceRenderer} (ht : surface? t = none) :
      SurfaceStep σ s .dispose [] t

/-! ## Parts without marks -/

section Parts

variable (s : Session ρ SurfaceRenderer) (h : Host World)

theorem marked_releaseRenderer :
    Marked h.graphics [] (s.releaseRenderer h).2.graphics ∧
      (s.releaseRenderer h).2.graphics.script = h.graphics.script := by
  unfold releaseRenderer
  rcases s.renderer with _ | r
  · exact ⟨.refl _, rfl⟩
  · refine ⟨r.release_marks h.graphics, ?_⟩
    show (r.release h.graphics).2.script = _
    unfold SurfaceRenderer.release
    rcases r.timer with _ | t <;> rfl

theorem marked_teardown :
    Marked h.graphics [] (s.teardown h).2.graphics ∧
      (s.teardown h).2.graphics.script = h.graphics.script := by
  have hrelease := marked_releaseRenderer (s.cancelPending h).1 (s.cancelPending h).2
  rw [cancelPending_graphics] at hrelease
  exact hrelease

theorem marked_dispose : Marked h.graphics [] (s.dispose h).2.graphics := by
  unfold dispose
  split
  · exact .refl _
  · exact (marked_teardown s h).1

theorem marked_probeRate (now : Nat) : Marked h.graphics [] (s.probeRate now h).2.graphics := by
  unfold probeRate
  rcases s.probe.record now with ⟨finding, probe⟩
  cases finding <;> exact .of_calls_eq rfl

theorem marked_pollTimer (r : SurfaceRenderer) :
    (s.pollTimer r h).1.2.1.setup = r.setup ∧
      Marked h.graphics [] (s.pollTimer r h).2.graphics := by
  unfold pollTimer
  split
  · exact ⟨rfl, .refl _⟩
  · obtain ⟨hsetup, hpoll⟩ := r.pollTimer_marks h.graphics
    simp only [bind_apply, Host.onGraphics_apply]
    rcases hp : Renderer.pollTimer r h.graphics with ⟨⟨poll, r'⟩, w⟩
    rw [hp] at hsetup hpoll
    cases poll with
    | ready ms =>
      refine ⟨hsetup, ?_⟩
      simp only [recordGpu]
      split <;> exact hpoll
    | _ => exact ⟨hsetup, hpoll⟩

theorem marked_publishIfDue : Marked h.graphics [] (s.publishIfDue h).2.graphics := by
  unfold publishIfDue
  split <;> exact .of_calls_eq rfl

theorem marked_afterDraw (now : Nat) (outcome : DrawOutcome) :
    Marked h.graphics [] (s.afterDraw now outcome h).2.graphics := by
  cases outcome with
  | presented =>
    simp only [afterDraw, finishTick, bind_apply]
    rw [schedule_graphics]
    exact marked_publishIfDue s.countFrame h
  | skipped =>
    simp only [afterDraw, finishTick, bind_apply]
    rw [schedule_graphics]
    exact .of_calls_eq rfl
  | failed reason => exact marked_dispose s _

end Parts

/-! ## Sizes -/

section Size

variable {s : Session ρ SurfaceRenderer} (h : Host World) {r : SurfaceRenderer}

theorem marked_resize {width height : Nat} (hl : s.phase.isLive) (hz : s.Resizes width height)
    (hr : s.renderer = some r) :
    surface? (s.resize width height h).1 = some (r.setup.withSize width height) ∧
      Marked h.graphics [.configured (r.setup.withSize width height)]
        (s.resize width height h).2.graphics := by
  obtain ⟨hsetup, hmarks⟩ := r.configure_marks h.graphics hz.1 hz.2.1
  rw [resize_of_resizes s h hl hz hr]
  exact ⟨congrArg some hsetup, hmarks⟩

theorem marked_applyRequestedSize (hl : s.phase.isLive) (hr : s.renderer = some r) :
    surface? (s.applyRequestedSize h).1 = some (nextSetup s r.setup) ∧
      Marked h.graphics (sizingMarks s r.setup) (s.applyRequestedSize h).2.graphics := by
  unfold applyRequestedSize nextSetup sizingMarks
  rcases hq : s.requestedSize with _ | ⟨width, height⟩
  · rw [sizeToApply, hq]
    exact ⟨surface?_eq_some hr, .refl _⟩
  · by_cases hz : s.Resizes width height
    · rw [sizeToApply_eq_some_iff.2 ⟨hq, hz⟩]
      exact marked_resize (s := { s with requestedSize := none }) h hl hz hr
    · dsimp only
      rw [sizeToApply_eq_none hq hz,
        resize_eq_pure { s with requestedSize := none } fun hc => hz hc.2.1]
      exact ⟨surface?_eq_some hr, .refl _⟩

theorem marked_beginTick [Seconds ρ] (now : Nat) (hl : s.phase.isLive) (hr : s.renderer = some r) :
    surface? (s.beginTick now h).1.2.2 = some (nextSetup s r.setup) ∧
      Marked h.graphics (sizingMarks s r.setup) (s.beginTick now h).2.graphics := by
  obtain ⟨hsetup, hmarks⟩ :=
    marked_applyRequestedSize (s := { s with pendingTick := none }) h hl hr
  unfold beginTick
  simp only [bind_apply, pure_apply]
  generalize applyRequestedSize { s with pendingTick := none } h = p at hsetup hmarks
  constructor
  · rw [probeRate_fst]
    obtain ⟨_, hi⟩ := recordInterval_frame { p.1 with clock := (p.1.clock.advance now).2.2 } now
    rw [hi]
    exact hsetup
  · exact hmarks.trans_nil (marked_probeRate
      (recordInterval { p.1 with clock := (p.1.clock.advance now).2.2 } now) p.2 now)

end Size

/-! ## Frames -/

section Frame

variable {s : Session ρ SurfaceRenderer} (h : Host World) (now : Nat)

theorem marked_drawFrame {setup : SurfaceSetup} {r : SurfaceRenderer} (hr : r.setup = setup)
    (hd : s.phase ≠ .disposed) (hp : s.pendingTick = none) :
    ∃ outcome ms, Marked h.graphics ms (s.drawFrame now r h).2.graphics ∧
      SurfaceRenderer.DrawMarks setup outcome ms ∧
      (∀ setup' ∈ surface? (s.drawFrame now r h).1, setup' = setup) ∧
      (s.drawFrame now r h).1.width = s.width ∧ (s.drawFrame now r h).1.height = s.height := by
  obtain ⟨hpolled, hpoll⟩ := marked_pollTimer s h r
  obtain ⟨telemetry, lastGpuTime, hframe⟩ := pollTimer_frame s h r
  unfold drawFrame
  simp only [bind_apply, Host.onGraphics_apply]
  rw [hframe]
  generalize pollTimer s r h = p at hpolled hpoll
  obtain ⟨⟨timed, polled, t⟩, h₁⟩ := p
  obtain ⟨hdrawn, ms, hdraw, hms⟩ := polled.draw_marks h₁.graphics timed
  rw [hpolled, hr] at hdrawn hms
  rcases hq : Renderer.draw polled timed h₁.graphics with ⟨⟨outcome, drawn⟩, w⟩
  rw [hq] at hdrawn hdraw hms
  refine ⟨outcome, ms, (hpoll.trans hdraw).trans_nil (marked_afterDraw _ _ now outcome), hms, ?_⟩
  dsimp only
  rw [afterDraw_fst _ now outcome (by exact hd) (by exact hp)]
  cases outcome with
  | failed reason => exact ⟨nofun, rfl, rfl⟩
  | _ =>
    refine ⟨?_, rfl, rfl⟩
    rintro _ ⟨⟩
    exact hdrawn

theorem surfaceStep_tick [Seconds ρ] (today : Date) (hs : Coherent s) (ht : s.phase.isTicking) :
    ∃ ms, Marked h.graphics ms (s.tick now today h).2.graphics ∧
      SurfaceStep h.graphics.script s (.tick now today) ms (s.tick now today h).1 := by
  have hp : s.pendingTick.isSome := hs.pendingTick_iff_isTicking.2 ht
  have hl := isLive_of_isTicking ht
  have hd := ne_disposed_of_isTicking ht
  obtain ⟨used, hu⟩ := hs.exists_used hl
  obtain ⟨r, hr⟩ := hs.exists_renderer hl
  -- the beginning
  obtain ⟨hsetup, hbegin⟩ := marked_beginTick h now hl hr
  obtain ⟨r', hb⟩ := beginTick_fst (s := s) h now hl (hs.isSome_renderer hl)
  rw [hb] at hsetup
  rcases he : beginTick s now h with ⟨begun, h₁⟩
  rw [he] at hb hbegin
  rw [tick_eq_runTick s now today ht hp, runTick_of_begun h now today hu (he.trans (Prod.ext hb rfl))]
  -- the uniforms and the frame
  obtain ⟨hwritten, hwrite⟩ := r'.writeUniforms_marks h₁.graphics (s.frameBlock now today used)
  rw [hwritten]
  obtain ⟨outcome, ms, hdraw, hms, hkept, hwidth, hheight⟩ := marked_drawFrame
    (s := { s.begun now with renderer := some r', block := s.frameBlock now today used })
    { h₁ with
      graphics := (Renderer.writeUniforms r' (s.frameBlock now today used) h₁.graphics).2 } now
    (Option.some.inj hsetup) hd rfl
  refine ⟨_, (hbegin.trans hwrite).trans hdraw, ?_⟩
  rw [List.append_assoc]
  exact .ticked ht hp (surface?_eq_some hr) hu hms hkept (Prod.ext hwidth hheight)

end Frame

/-! ## Operations -/

section Operations

variable [Seconds ρ] {s t : Session ρ SurfaceRenderer} (h : Host World)

/-- A load of a session that is not over. -/
theorem marked_load (hd : s.phase ≠ .disposed) (source : List Char) (width height : Nat)
    (check : StageCheck) (change : Script → Script) (handles : WindowHandles)
    (options : GpuOptions) :
    ∃ ms, Marked h.graphics ms
        (s.load source width height (connectToWith check change handles options) h).2.graphics ∧
      LoadMarks (change h.graphics.script) options width height
        (s.load source width height (connectToWith check change handles options) h).1.2 ms := by
  obtain ⟨hgiven, hscript⟩ := marked_teardown s h
  unfold load
  rw [if_neg hd]
  simp only [bind_apply, teardown_fst]
  generalize (s.teardown h).2 = h₁ at hgiven hscript
  rcases Shader.Assembly.read source with e | ⟨a, remarks⟩
  · exact ⟨[], hgiven, .unread rfl⟩
  · simp only [bind_apply, Host.onGraphics_apply]
    have hnoted : Marked h.graphics [] (noteAssembled remarks h₁).2.graphics ∧
        (noteAssembled remarks h₁).2.graphics.script = h.graphics.script := by
      unfold noteAssembled
      split <;> exact ⟨hgiven, hscript⟩
    obtain ⟨hmarked, hscript'⟩ := hnoted
    rw [← hscript']
    generalize (noteAssembled remarks h₁).2 = h₂ at hmarked
    unfold connectToWith
    obtain ⟨cs, hcs, hconnects⟩ := connects_connectWith check handles options a (max width 1)
      (max height 1) { h₂.graphics with script := change h₂.graphics.script }
    have hmarks := hmarked.trans (Marked.of_calls hcs.calls rfl)
    have hms := hconnects.connectMarks
    generalize SurfaceRenderer.connectWith check handles options a (max width 1) (max height 1)
      { h₂.graphics with script := change h₂.graphics.script } = p at hmarks hms
    rcases p with ⟨e | r, w⟩
    · exact ⟨_, hmarks, .connected hms rfl nofun⟩
    · exact ⟨_, hmarks, .connected hms rfl fun _ => rfl⟩

/-- What has nothing to do with the surface of a session. -/
def IsAside : Operation ρ SurfaceRenderer World → Prop
  | .load .. | .resize .. | .tick .. | .dispose => False
  | _ => True

theorem marked_operate_of_isAside {op : Operation ρ SurfaceRenderer World} (hop : IsAside op) :
    Marked h.graphics [] (s.operate op h).2.graphics := by
  cases op with
  | start =>
    simp only [operate, start]
    split
    · exact .refl _
    · simp only [bind_apply, schedule_graphics]
      exact .of_calls_eq rfl
  | setPaused paused time =>
    simp only [operate, setPaused]
    split
    · exact .refl _
    · split <;> exact .of_calls_eq rfl
  | halt =>
    simp only [operate, halt]
    split
    · exact .refl _
    · simp only [bind_apply, Host.note_apply, cancelPending_graphics]
      exact .of_calls_eq rfl
  | load | resize | tick | dispose => exact hop.elim
  | _ => exact .refl _

theorem surfaceStep_of_stepsTo {σ : Script} {op : Operation ρ SurfaceRenderer World}
    (hstep : StepsTo s op t) (hop : IsAside op) : SurfaceStep σ s op [] t := by
  have hsize : ∀ size, ¬ Takes s size op := by
    intro size htakes
    cases op with
    | resize | tick => exact hop
    | _ => exact htakes
  cases hstep with
  | loaded | unloaded | resized | ticked | disposed => exact hop.elim
  | _ => exact .kept hsize rfl rfl

/-- All that an operation on a window can do to the surface of a session. -/
theorem surfaceStep_operate {op : Operation ρ SurfaceRenderer World} (hop : OnWindowWith op)
    (hs : Coherent s) : ∃ ms, Marked h.graphics ms (s.operate op h).2.graphics ∧
      SurfaceStep h.graphics.script s op ms (s.operate op h).1 := by
  have hstep := stepsTo_operate h op hs
  cases op with
  | load source width height connect =>
    obtain ⟨check, change, handles, options, rfl⟩ := hop
    by_cases hd : s.phase = .disposed
    · simp only [operate, load_of_disposed s source width height _ hd]
      exact ⟨[], .refl _, .kept (fun _ => id) rfl rfl⟩
    · obtain ⟨ms, hmarks, hms⟩ := marked_load h hd source width height check change handles
        options
      exact ⟨ms, hmarks, .loaded hms⟩
  | resize width height =>
    by_cases hr : s.phase.isLive ∧ s.Resizes width height
    · obtain ⟨r, hr'⟩ := hs.exists_renderer hr.1
      obtain ⟨hsetup, hmarks⟩ := marked_resize h hr.1 hr.2 hr'
      refine ⟨_, hmarks, .resized hr.1 hr.2 (surface?_eq_some hr') hsetup ?_⟩
      simp only [operate, resize_of_resizes s h hr.1 hr.2 hr', withSize]
    · simp only [operate, resize_eq_pure s fun hc => hr ⟨hc.1, hc.2.1⟩]
      exact ⟨[], .refl _, .kept (fun _ htakes => hr ⟨htakes.1, htakes.2.1⟩) rfl rfl⟩
  | tick now today =>
    by_cases ht : s.phase.isTicking
    · exact surfaceStep_tick h now today hs ht
    · simp only [operate, tick_eq_pure s now today fun hc => ht hc.1]
      exact ⟨[], .refl _, .kept (fun _ htakes => ht htakes.1) rfl rfl⟩
  | dispose =>
    refine ⟨[], marked_dispose s h, ?_⟩
    generalize (s.operate .dispose h).1 = t at hstep
    cases hstep with
    | ignored => exact .kept (fun _ => id) rfl rfl
    | disposed => exact .disposed rfl
  | _ => exact ⟨[], marked_operate_of_isAside h trivial, surfaceStep_of_stepsTo hstep trivial⟩

end Operations

end Gpu

end ShaderPreview
