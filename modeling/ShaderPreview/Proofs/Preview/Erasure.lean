import ShaderPreview.Proofs.Preview.Logbook

/-!
# Logging changes nothing

Erasing the log from a session and its host commutes with every operation: what a logged session
does is what the session below does, with entries.  `Erases` is this property of a computation and
the one below it; it has a rule for each way of building computations, and each part of a session
follows them.
-/

namespace ShaderPreview

variable {ρ G β α γ α' γ' : Type}

/-- The host without its log. -/
def Host.erase (h : Host (Logbook G β)) : Host G := ⟨h.graphics.graphics, h.ticks, h.published⟩

/-- The session with the renderer below its own. -/
def Session.erase (s : Session ρ (Logged β)) : Session ρ β :=
  { s with renderer := s.renderer.map Logged.renderer }

variable (G β) in
/-- The second computation is the first one without the log; `f` erases the answer. -/
def Erases (f : α → α') (m : StateM (Host (Logbook G β)) α) (m' : StateM (Host G) α') : Prop :=
  ∀ h, m' h.erase = (f (m h).1, (m h).2.erase)

/-! ## Rules -/

namespace Erases

variable {f : α → α'} {f' : γ → γ'} {m : StateM (Host (Logbook G β)) α} {m' : StateM (Host G) α'}
variable {k : α → StateM (Host (Logbook G β)) γ} {k' : α' → StateM (Host G) γ'}

theorem bind (hm : Erases G β f m m') (hk : ∀ a, Erases G β f' (k a) (k' (f a))) :
    Erases G β f' (m >>= k) (m' >>= k') := by
  intro h
  rw [bind_apply, bind_apply, hm h]
  exact hk (m h).1 (m h).2

theorem ite {c c' : Prop} [Decidable c] [Decidable c'] (hc : c ↔ c')
    {n : StateM (Host (Logbook G β)) α} {n' : StateM (Host G) α'}
    (hm : Erases G β f m m') (hn : Erases G β f n n') :
    Erases G β f (if c then m else n) (if c' then m' else n') := by
  by_cases h : c
  · rw [if_pos h, if_pos (hc.1 h)]
    exact hm
  · rw [if_neg h, if_neg fun h' => h (hc.2 h')]
    exact hn

theorem onGraphics {act : StateM (Logbook G β) α} {act' : StateM G α'}
    (ha : ∀ g, act' g.graphics = (f (act g).1, (act g).2.graphics)) :
    Erases G β f (Host.onGraphics act) (Host.onGraphics act') := by
  intro h
  have hg := ha h.graphics
  rw [Host.onGraphics_apply, Host.onGraphics_apply]
  exact congrArg (fun p => (p.1, { h.erase with graphics := p.2 })) hg

theorem note [Journal G] (e : Event) :
    Erases G β id (Host.note e) (Host.note e) := fun _ => rfl

theorem requestTick : Erases G β id Host.requestTick Host.requestTick := fun _ => rfl

theorem cancelTick (token : Nat) :
    Erases G β id (Host.cancelTick token) (Host.cancelTick token) := fun _ => rfl

theorem publish (s : Snapshot) :
    Erases G β id (Host.publish s) (Host.publish s) := fun _ => rfl

end Erases

namespace Session

variable (s : Session ρ (Logged β))

/-! ## Asking for ticks, and the end of a shader -/

theorem erases_schedule :
    Erases G β erase (schedule s) (schedule s.erase) := by
  unfold schedule
  exact .ite Iff.rfl (fun _ => rfl) (Erases.requestTick.bind fun _ _ => rfl)

theorem erases_cancelPending :
    Erases G β erase (cancelPending s) (cancelPending s.erase) := by
  unfold cancelPending
  have hp : s.erase.pendingTick = s.pendingTick := rfl
  rw [hp]
  rcases s.pendingTick with _ | token
  · exact fun _ => rfl
  · exact (Erases.cancelTick token).bind fun _ _ => rfl

theorem erases_releaseRenderer [Renderer G β] :
    Erases G β erase (releaseRenderer s) (releaseRenderer s.erase) := by
  unfold releaseRenderer
  have hr : s.erase.renderer = s.renderer.map Logged.renderer := rfl
  rw [hr]
  rcases s.renderer with _ | r
  · exact fun _ => rfl
  · have hrelease : Erases G β id (Host.onGraphics (Renderer.release r))
        (Host.onGraphics (Renderer.release r.renderer)) := .onGraphics fun _ => rfl
    exact hrelease.bind fun _ _ => rfl

theorem erases_teardown [Renderer G β] :
    Erases G β erase (teardown s) (teardown s.erase) := by
  unfold teardown
  exact (erases_cancelPending s).bind fun s => (erases_releaseRenderer s).bind fun _ _ => rfl

theorem erases_dispose [Renderer G β] [Journal G] :
    Erases G β erase (dispose s) (dispose s.erase) := by
  unfold dispose
  refine .ite Iff.rfl (fun _ => rfl) ?_
  exact (erases_teardown s).bind fun s => (Erases.note .previewDisposed).bind fun _ _ => rfl

/-! ## Loading -/

theorem erases_noteAssembled [Journal G] (remarks : Shader.Remarks) :
    Erases G β id (noteAssembled remarks) (noteAssembled remarks) := by
  unfold noteAssembled
  split
  · exact (Erases.note .entryPointRepeated).bind fun _ => .note .sourceAssembled
  · exact .note .sourceAssembled

theorem erases_connect (make : Shader.Assembly → Nat → Nat → StateM G (Except ConnectError β))
    (a : Shader.Assembly) (width height : Nat) :
    Erases G β (Except.map Logged.renderer)
      (Host.onGraphics (Logbook.connect make a width height))
      (Host.onGraphics (make a width height)) := by
  apply Erases.onGraphics
  intro g
  unfold Logbook.connect
  rcases make a width height g.graphics with ⟨e | r, world⟩ <;> rfl

theorem erases_load [Seconds ρ] [Renderer G β] [Journal G] (source : List Char)
    (width height : Nat) (make : Shader.Assembly → Nat → Nat → StateM G (Except ConnectError β)) :
    Erases G β (Prod.map id erase) (load s source width height (Logbook.connect make))
      (load s.erase source width height make) := by
  unfold load
  refine .ite Iff.rfl (fun _ => rfl) ((erases_teardown s).bind fun s => ?_)
  rcases Shader.Assembly.read source with e | ⟨a, remarks⟩
  · exact fun _ => rfl
  · refine (erases_noteAssembled remarks).bind fun _ =>
      (erases_connect make a (max width 1) (max height 1)).bind fun answer => ?_
    rcases answer with e | r
    · exact fun _ => rfl
    · exact (Erases.note .previewReady).bind fun _ _ => rfl

/-! ## Starting, pausing, halting -/

section Phases

variable [Journal G]

theorem erases_start : Erases G β erase (start s) (start s.erase) := by
  unfold start
  refine .ite Iff.rfl (fun _ => rfl) ((Erases.note .previewStarted).bind fun _ => ?_)
  exact erases_schedule { s with phase := if s.clock.paused then .paused else .running }

theorem erases_setPaused [Seconds ρ] (paused : Bool) (time : ρ) :
    Erases G β erase (setPaused s paused time) (setPaused s.erase paused time) := by
  unfold setPaused
  refine .ite Iff.rfl (fun _ => rfl) ?_
  exact .ite Iff.rfl ((Erases.note .phaseChanged).bind fun _ _ => rfl) fun _ => rfl

theorem erases_halt : Erases G β erase (halt s) (halt s.erase) := by
  unfold halt
  refine .ite Iff.rfl (fun _ => rfl) ?_
  exact (erases_cancelPending s).bind fun s => (Erases.note .previewHalted).bind fun _ _ => rfl

end Phases

/-! ## Pointer and size -/

theorem erase_pointerMoved (x y : Float32) :
    (s.pointerMoved x y).erase = s.erase.pointerMoved x y := by
  unfold pointerMoved
  rcases hl : s.phase.isLive <;> simp [erase, hl]

theorem erase_pointerPressed (x y : Float32) :
    (s.pointerPressed x y).erase = s.erase.pointerPressed x y := by
  unfold pointerPressed
  rcases hl : s.phase.isLive <;> simp [erase, hl]

section Calls

variable [Renderer G β] [Journal G]

theorem erases_resize (width height : Nat) :
    Erases G β erase (resize s width height) (resize s.erase width height) := by
  unfold resize
  refine .ite Iff.rfl (fun _ => rfl) ?_
  have hr : s.erase.renderer = s.renderer.map Logged.renderer := rfl
  rw [hr]
  rcases s.renderer with _ | r
  · exact fun _ => rfl
  · have hconfigure : Erases G β Logged.renderer
        (Host.onGraphics (Renderer.configure r width height))
        (Host.onGraphics (Renderer.configure r.renderer width height)) :=
      .onGraphics fun _ => rfl
    exact hconfigure.bind fun _ => (Erases.note .surfaceResized).bind fun _ _ => rfl

theorem erases_applyRequestedSize :
    Erases G β erase (applyRequestedSize s) (applyRequestedSize s.erase) := by
  unfold applyRequestedSize
  have hq : s.erase.requestedSize = s.requestedSize := rfl
  rw [hq]
  rcases s.requestedSize with _ | ⟨width, height⟩
  · exact fun _ => rfl
  · exact erases_resize { s with requestedSize := none } width height

/-! ## Ticking -/

omit [Renderer G β] [Journal G] in
theorem erase_recordInterval (now : Nat) :
    (recordInterval s now).erase = recordInterval s.erase now := by
  unfold recordInterval
  have hc : s.erase.clock = s.clock := rfl
  rw [hc]
  rcases s.clock.previousTick <;> rfl

omit [Renderer G β] in
theorem erases_probeRate (now : Nat) :
    Erases G β erase (probeRate s now) (probeRate s.erase now) := by
  unfold probeRate
  have hp : s.erase.probe = s.probe := rfl
  rw [hp]
  rcases s.probe.record now with ⟨_ | _ | hz, probe⟩
  · exact fun _ => rfl
  · exact (Erases.note .probeGaveUp).bind fun _ _ => rfl
  · exact (Erases.note .rateProbed).bind fun _ =>
      (Erases.note .displayRateProbed).bind fun _ _ => rfl

omit [Renderer G β] in
theorem erases_recordGpu (ms : Float) :
    Erases G β erase (recordGpu s ms) (recordGpu s.erase ms) := by
  unfold recordGpu
  exact .ite Iff.rfl (fun _ => rfl) ((Erases.note .gpuSampleDiscarded).bind fun _ _ => rfl)

theorem erases_pollTimer (r : Logged β) :
    Erases G β (fun answer => (answer.1, answer.2.1.renderer, answer.2.2.erase)) (pollTimer s r)
      (pollTimer s.erase r.renderer) := by
  have hpoll : Erases G β (Prod.map id Logged.renderer) (Host.onGraphics (Renderer.pollTimer r))
      (Host.onGraphics (Renderer.pollTimer r.renderer)) := .onGraphics fun _ => rfl
  unfold pollTimer
  refine .ite Iff.rfl (fun _ => rfl) (hpoll.bind fun answer => ?_)
  rcases answer with ⟨_ | _ | ms, r⟩
  · exact fun _ => rfl
  · exact fun _ => rfl
  · exact (erases_recordGpu s ms).bind fun _ _ => rfl

omit [Renderer G β] in
theorem erases_publishIfDue :
    Erases G β id (publishIfDue s) (publishIfDue s.erase) := by
  unfold publishIfDue
  refine .ite Iff.rfl ((Erases.note .statsPublished).bind fun _ => ?_) fun _ => rfl
  exact .publish (s.telemetry.snapshot s.width s.height)

theorem erases_afterDraw (now : Nat) (outcome : DrawOutcome) :
    Erases G β erase (afterDraw s now outcome) (afterDraw s.erase now outcome) := by
  cases outcome with
  | presented =>
    exact (erases_publishIfDue s.countFrame).bind fun _ => erases_schedule
      { s.countFrame with clock := { s.countFrame.clock with previousTick := some now } }
  | skipped =>
    exact (Erases.note .frameSkipped).bind fun _ => erases_schedule
      { s with clock := { s.clock with previousTick := some now } }
  | failed reason => exact (Erases.note .drawFailed).bind fun _ => erases_dispose s

theorem erases_drawFrame (now : Nat) (r : Logged β) :
    Erases G β erase (drawFrame s now r) (drawFrame s.erase now r.renderer) := by
  unfold drawFrame
  refine (erases_pollTimer s r).bind fun ⟨timed, r, s⟩ => ?_
  have hdraw : Erases G β (Prod.map id Logged.renderer) (Host.onGraphics (Renderer.draw r timed))
      (Host.onGraphics (Renderer.draw r.renderer timed)) := .onGraphics fun _ => rfl
  exact hdraw.bind fun ⟨outcome, r⟩ => erases_afterDraw { s with renderer := some r } now outcome

variable [Seconds ρ]

theorem erases_beginTick (now : Nat) :
    Erases G β (fun answer => (answer.1, answer.2.1, answer.2.2.erase)) (beginTick s now)
      (beginTick s.erase now) := by
  unfold beginTick
  refine (erases_applyRequestedSize { s with pendingTick := none }).bind fun s => ?_
  have hprobe := erases_probeRate (G := G)
    (recordInterval { s with clock := (s.clock.advance now).2.2 } now) now
  rw [erase_recordInterval] at hprobe
  exact hprobe.bind fun _ _ => rfl

theorem erases_runTick (now : Nat) (today : Date) :
    Erases G β erase (runTick s now today) (runTick s.erase now today) := by
  unfold runTick
  refine (erases_beginTick s now).bind fun ⟨elapsed, delta, s⟩ => ?_
  have hu : s.erase.used = s.used := rfl
  have hr : s.erase.renderer = s.renderer.map Logged.renderer := rfl
  simp only
  rw [hu, hr]
  rcases s.used with _ | used
  · exact fun _ => rfl
  · rcases s.renderer with _ | r
    · exact fun _ => rfl
    · have hb : s.erase.block.writeFrame used (s.erase.frameInputs elapsed delta today) =
          s.block.writeFrame used (s.frameInputs elapsed delta today) := rfl
      simp only [Option.map_some]
      rw [hb]
      generalize s.block.writeFrame used (s.frameInputs elapsed delta today) = block
      have hwrite : Erases G β Logged.renderer (Host.onGraphics (Renderer.writeUniforms r block))
          (Host.onGraphics (Renderer.writeUniforms r.renderer block)) := .onGraphics fun _ => rfl
      exact hwrite.bind fun r' =>
        erases_drawFrame { s with used := some used, renderer := some r, block } now r'

theorem erases_tick (now : Nat) (today : Date) :
    Erases G β erase (tick s now today) (tick s.erase now today) := by
  unfold tick
  exact .ite Iff.rfl (fun _ => rfl) (erases_runTick s now today)

/-! ## Runs -/

theorem erases_operate (op : Operation ρ β G) :
    Erases G β erase (operate s op.logged) (operate s.erase op) := by
  cases op with
  | load source width height connect =>
    exact (erases_load s source width height connect).bind fun _ _ => rfl
  | start => exact erases_start s
  | setPaused paused time => exact erases_setPaused s paused time
  | halt => exact erases_halt s
  | resize width height => exact erases_resize s width height
  | requestSize width height => exact fun _ => rfl
  | pointerMoved x y =>
    intro h
    exact congrArg (fun s => (s, h.erase)) (erase_pointerMoved s x y).symm
  | pointerPressed x y =>
    intro h
    exact congrArg (fun s => (s, h.erase)) (erase_pointerPressed s x y).symm
  | tick now today => exact erases_tick s now today
  | dispose => exact erases_dispose s

/-- A run with a log is the run without it. -/
theorem erases_run (ops : List (Operation ρ β G)) :
    Erases G β erase (run s (ops.map .logged)) (run s.erase ops) := by
  induction ops generalizing s with
  | nil => exact fun _ => rfl
  | cons op ops ih =>
    intro h
    rw [List.map_cons, run_cons_apply, run_cons_apply, erases_operate s op h]
    exact ih _ _

omit [Renderer G β] [Journal G] in
theorem erase_of_create? {options : PreviewOptions} {s : Session ρ β}
    (hs : create? options = some s) :
    ∃ t : Session ρ (Logged β), create? options = some t ∧ t.erase = s := by
  simp only [create?, Option.bind_eq_bind, Option.bind_eq_some_iff, Option.pure_def,
    Option.some.injEq] at hs ⊢
  obtain ⟨telemetry, ht, rfl⟩ := hs
  exact ⟨_, ⟨telemetry, ht, rfl⟩, rfl⟩

/-- Every reachable session is a reachable logged one without its log. -/
theorem Reachable.exists_logged {s : Session ρ β} (hs : Reachable G s) :
    ∃ t : Session ρ (Logged β), Reachable (Logbook G β) t ∧ t.erase = s := by
  obtain ⟨options, s₀, ops, h, hs₀, rfl⟩ := hs
  obtain ⟨t₀, ht₀, rfl⟩ := erase_of_create? hs₀
  let h₀ : Host (Logbook G β) := ⟨⟨h.graphics, []⟩, h.ticks, h.published⟩
  have hrun := erases_run t₀ ops h₀
  refine ⟨_, ⟨options, t₀, ops.map .logged, h₀, ht₀, rfl⟩, ?_⟩
  exact (congrArg Prod.fst hrun).symm

end Calls

end Session

end ShaderPreview
