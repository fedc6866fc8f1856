import ShaderPreview.Preview.Scripted
import ShaderPreview.Proofs.Preview.Step

/-!
# The life of a session

Five fields of a session tell where it is in its life: its phase, its renderer, the uniforms of its
shader, its pending tick, and the pause of its clock.  In a `Coherent` session they agree.  A new
session is coherent and every operation keeps it so, whatever the host and its renderers answer.

Inside a tick the pending tick is gone while the phase still says that ticks go on; what holds
there is `Loaded`, which leaves the pending tick out.
-/

namespace ShaderPreview

namespace Session

variable {ρ β G : Type}

/-- The phase of a session, its renderer, its uniforms and its pause agree. -/
structure Loaded (s : Session ρ β) : Prop where
  renderer_iff_used : s.renderer.isSome ↔ s.used.isSome
  used_iff_isLive : s.used.isSome ↔ s.phase.isLive
  not_paused_of_running : s.phase = .running → s.clock.paused = false
  paused_of_paused : s.phase = .paused → s.clock.paused = true

/-- Besides, a tick is pending exactly while ticks go on. -/
structure Coherent (s : Session ρ β) : Prop extends Loaded s where
  pendingTick_iff_isTicking : s.pendingTick.isSome ↔ s.phase.isTicking

/-- The five fields that tell where a session is in its life are the same. -/
structure SameStanding (s t : Session ρ β) : Prop where
  phase : t.phase = s.phase
  renderer : t.renderer.isSome = s.renderer.isSome
  used : t.used = s.used
  paused : t.clock.paused = s.clock.paused
  pendingTick : t.pendingTick = s.pendingTick

namespace SameStanding

variable {s t u : Session ρ β}

theorem trans (h₁ : SameStanding s t) (h₂ : SameStanding t u) : SameStanding s u :=
  ⟨h₂.phase.trans h₁.phase, h₂.renderer.trans h₁.renderer, h₂.used.trans h₁.used,
    h₂.paused.trans h₁.paused, h₂.pendingTick.trans h₁.pendingTick⟩

theorem loaded (h : SameStanding s t) (hs : Loaded s) : Loaded t where
  renderer_iff_used := by rw [h.renderer, h.used]; exact hs.renderer_iff_used
  used_iff_isLive := by rw [h.used, h.phase]; exact hs.used_iff_isLive
  not_paused_of_running := by rw [h.phase, h.paused]; exact hs.not_paused_of_running
  paused_of_paused := by rw [h.phase, h.paused]; exact hs.paused_of_paused

theorem coherent (h : SameStanding s t) (hs : Coherent s) : Coherent t where
  toLoaded := h.loaded hs.toLoaded
  pendingTick_iff_isTicking := by
    rw [h.pendingTick, h.phase]; exact hs.pendingTick_iff_isTicking

end SameStanding

theorem isLive_of_isTicking {p : Phase} (h : p.isTicking) : p.isLive := by
  cases p <;> first | rfl | exact h

theorem ne_disposed_of_isTicking {p : Phase} (h : p.isTicking) : p ≠ .disposed := by
  rintro rfl
  exact absurd h (by decide)

theorem isLive_afterPause (p : Phase) (paused : Bool) :
    (p.afterPause paused).isLive = p.isLive := by
  cases p <;> cases paused <;> rfl

theorem isTicking_afterPause (p : Phase) (paused : Bool) :
    (p.afterPause paused).isTicking = p.isTicking := by
  cases p <;> cases paused <;> rfl

theorem paused_setPaused [Seconds ρ] (c : Clock ρ) (paused : Bool) (time : ρ) :
    (c.setPaused paused time).paused = paused := by
  cases paused <;> rfl

section Live

variable {s : Session ρ β}

theorem Loaded.exists_used (hs : Loaded s) (hl : s.phase.isLive) : ∃ used, s.used = some used :=
  Option.isSome_iff_exists.1 (hs.used_iff_isLive.2 hl)

theorem Loaded.isSome_renderer (hs : Loaded s) (hl : s.phase.isLive) : s.renderer.isSome :=
  hs.renderer_iff_used.2 (hs.used_iff_isLive.2 hl)

theorem Loaded.exists_renderer (hs : Loaded s) (hl : s.phase.isLive) : ∃ r, s.renderer = some r :=
  Option.isSome_iff_exists.1 (hs.isSome_renderer hl)

end Live

theorem Coherent.renderer_eq_none {s : Session ρ β} (hs : Coherent s)
    (hd : s.phase = .disposed) : s.renderer = none := by
  rw [← Option.not_isSome_iff_eq_none, hs.renderer_iff_used, hs.used_iff_isLive, hd]
  decide

/-! ## New and ended sessions -/

theorem coherent_of_not_isLive {s : Session ρ β} (hl : s.phase.isLive = false)
    (hr : s.renderer = none) (hu : s.used = none) (hp : s.pendingTick = none) : Coherent s where
  renderer_iff_used := by simp [hr, hu]
  used_iff_isLive := by simp [hu, hl]
  not_paused_of_running h := by simp [h, Phase.isLive] at hl
  paused_of_paused h := by simp [h, Phase.isLive] at hl
  pendingTick_iff_isTicking := by
    have ht : s.phase.isTicking = false := by
      rw [← Bool.not_eq_true] at hl ⊢
      exact fun h => hl (isLive_of_isTicking h)
    simp [hp, ht]

theorem coherent_of_create? [Seconds ρ] {options : PreviewOptions} {s : Session ρ β}
    (hs : create? options = some s) : Coherent s := by
  obtain ⟨hphase, hr, hu, hp⟩ := create?_frame hs
  exact coherent_of_not_isLive (by rw [hphase]; rfl) hr hu hp

theorem coherent_unloaded (s : Session ρ β) : Coherent s.unloaded := by
  apply coherent_of_not_isLive _ rfl rfl rfl
  unfold unloaded
  split <;> rfl

theorem coherent_of_phase_eq_ite {s : Session ρ β} (hr : s.renderer.isSome) (hu : s.used.isSome)
    (hp : s.pendingTick.isSome) (hs : s.phase = if s.clock.paused then .paused else .running) :
    Coherent s := by
  rcases hc : s.clock.paused <;> rw [hc] at hs
  · exact ⟨⟨by simp [hr, hu], by simp [hu, hs, Phase.isLive], fun _ => hc, by simp [hs]⟩,
      by simp [hp, hs, Phase.isTicking]⟩
  · exact ⟨⟨by simp [hr, hu], by simp [hu, hs, Phase.isLive], by simp [hs], fun _ => hc⟩,
      by simp [hp, hs, Phase.isTicking]⟩

theorem coherent_of_ready {s : Session ρ β} (hr : s.renderer.isSome) (hu : s.used.isSome)
    (hp : s.pendingTick = none) (hs : s.phase = .ready) : Coherent s :=
  ⟨⟨by simp [hr, hu], by simp [hu, hs, Phase.isLive], by simp [hs], by simp [hs]⟩,
    by simp [hp, hs, Phase.isTicking]⟩

section Operations

variable [Renderer G β] [Journal G] {s : Session ρ β} (h : Host G)

theorem coherent_dispose_of_ne_disposed (hd : s.phase ≠ .disposed) :
    Coherent (dispose s h).1 := by
  rw [dispose_of_ne_disposed s h hd]
  exact coherent_of_not_isLive rfl rfl rfl rfl

theorem coherent_dispose (hs : Coherent s) : Coherent (dispose s h).1 := by
  by_cases hd : s.phase = .disposed
  · rw [dispose_of_disposed s hd]
    exact hs
  · exact coherent_dispose_of_ne_disposed h hd

theorem coherent_load [Seconds ρ] (source : List Char) (width height : Nat)
    (connect : Shader.Assembly → Nat → Nat → StateM G (Except ConnectError β))
    (hs : Coherent s) : Coherent (load s source width height connect h).1.2 := by
  by_cases hd : s.phase = .disposed
  · rw [load_of_disposed s source width height connect hd]
    exact hs
  · rcases load_frame s h source width height connect hd with ⟨a, r, hl⟩ | ⟨e, hl⟩
    · rw [hl]
      exact coherent_of_ready rfl rfl rfl rfl
    · rw [hl]
      exact coherent_unloaded s

/-! ## Starting, pausing, halting -/

omit [Renderer G β] in
theorem coherent_start (hs : Coherent s) : Coherent (start s h).1 := by
  unfold start
  split
  · exact hs
  · rename_i hr
    simp only [ne_eq, Decidable.not_not] at hr
    have hp : s.pendingTick = none := by
      simpa [hr, Phase.isTicking] using hs.pendingTick_iff_isTicking
    have hu : s.used.isSome := by
      rw [hs.used_iff_isLive, hr]
      rfl
    simp only [bind_apply]
    rw [schedule_of_eq_none _ _ (by exact hp)]
    exact coherent_of_phase_eq_ite (hs.renderer_iff_used.2 hu) hu rfl rfl

omit [Renderer G β] in
theorem coherent_setPaused [Seconds ρ] (paused : Bool) (time : ρ) (hs : Coherent s) :
    Coherent (setPaused s paused time h).1 := by
  by_cases hd : s.phase = .disposed
  · rw [setPaused_of_disposed s paused time hd]
    exact hs
  · rw [setPaused_fst s h paused time hd]
    refine ⟨⟨hs.renderer_iff_used, ?_, ?_, ?_⟩, ?_⟩
    · rw [isLive_afterPause]
      exact hs.used_iff_isLive
    -- the phase moves with the pause, so in each of the two phases the pause is the new one
    · rw [paused_setPaused]
      rcases hp : s.phase <;> cases paused <;> simp [Phase.afterPause]
    · rw [paused_setPaused]
      rcases hp : s.phase <;> cases paused <;> simp [Phase.afterPause]
    · rw [isTicking_afterPause]
      exact hs.pendingTick_iff_isTicking

omit [Renderer G β] in
theorem coherent_halt (hs : Coherent s) : Coherent (halt s h).1 := by
  unfold halt
  split
  · exact hs
  · rename_i ht
    have hu : s.used.isSome := by
      rw [hs.used_iff_isLive]
      exact isLive_of_isTicking (by simpa using ht)
    simp only [bind_apply, pure_apply, cancelPending_fst]
    exact coherent_of_ready (hs.renderer_iff_used.2 hu) hu rfl rfl

/-! ## Pointer and size -/

omit [Renderer G β] [Journal G] in
theorem sameStanding_pointerMoved (x y : Float32) : SameStanding s (s.pointerMoved x y) := by
  unfold pointerMoved
  split <;> exact ⟨rfl, rfl, rfl, rfl, rfl⟩

omit [Renderer G β] [Journal G] in
theorem sameStanding_pointerPressed (x y : Float32) : SameStanding s (s.pointerPressed x y) := by
  unfold pointerPressed
  split <;> exact ⟨rfl, rfl, rfl, rfl, rfl⟩

omit [Renderer G β] [Journal G] in
theorem sameStanding_requestSize (width height : Nat) :
    SameStanding s (s.requestSize width height) := ⟨rfl, rfl, rfl, rfl, rfl⟩

theorem sameStanding_resize (width height : Nat) :
    SameStanding s (resize s width height h).1 := by
  obtain ⟨_, _, _, _, hq, hr⟩ := resize_frame s h width height
  rw [hq]
  exact ⟨rfl, hr, rfl, rfl, rfl⟩

theorem sameStanding_applyRequestedSize : SameStanding s (applyRequestedSize s h).1 := by
  obtain ⟨_, _, _, _, hq, hr⟩ := applyRequestedSize_frame s h
  rw [hq]
  exact ⟨rfl, hr, rfl, rfl, rfl⟩

/-! ## Ticking -/

omit [Renderer G β] [Journal G] in
theorem sameStanding_recordInterval (now : Nat) : SameStanding s (recordInterval s now) := by
  obtain ⟨_, hq⟩ := recordInterval_frame s now
  rw [hq]
  exact ⟨rfl, rfl, rfl, rfl, rfl⟩

omit [Renderer G β] in
theorem sameStanding_probeRate (now : Nat) : SameStanding s (probeRate s now h).1 := by
  rw [probeRate_fst]
  exact ⟨rfl, rfl, rfl, rfl, rfl⟩

theorem sameStanding_pollTimer (r : β) : SameStanding s (pollTimer s r h).1.2.2 := by
  obtain ⟨_, _, hq⟩ := pollTimer_frame s h r
  rw [hq]
  exact ⟨rfl, rfl, rfl, rfl, rfl⟩

theorem paused_advance [Seconds ρ] (c : Clock ρ) (now : Nat) :
    (c.advance now).2.2.paused = c.paused := by
  unfold Clock.advance
  split
  · rfl
  · simp only [Clock.started, Clock.applyResume]
    split <;> rfl

theorem sameStanding_beginTick [Seconds ρ] (now : Nat) :
    SameStanding { s with pendingTick := none } (beginTick s now h).1.2.2 := by
  unfold beginTick
  simp only [bind_apply, pure_apply]
  generalize hs₁ : applyRequestedSize { s with pendingTick := none } h = p
  have h₁ : SameStanding { s with pendingTick := none } p.1 := by
    rw [← hs₁]
    exact sameStanding_applyRequestedSize h
  have h₂ : SameStanding p.1 { p.1 with clock := (p.1.clock.advance now).2.2 } :=
    ⟨rfl, rfl, rfl, paused_advance _ _, rfl⟩
  exact ((h₁.trans h₂).trans (sameStanding_recordInterval now)).trans (sameStanding_probeRate _ now)

omit [Renderer G β] [Journal G] in
theorem coherent_finishTick (now : Nat) (hs : Loaded s) (ht : s.phase.isTicking)
    (hp : s.pendingTick = none) : Coherent (finishTick s now h).1 := by
  rw [finishTick_of_eq_none s h now hp]
  refine ⟨⟨hs.renderer_iff_used, hs.used_iff_isLive, hs.not_paused_of_running,
    hs.paused_of_paused⟩, ?_⟩
  simp [ht]

theorem coherent_afterDraw (now : Nat) (outcome : DrawOutcome) (hs : Loaded s)
    (ht : s.phase.isTicking) (hp : s.pendingTick = none) :
    Coherent (afterDraw s now outcome h).1 := by
  have hd : s.phase ≠ .disposed := ne_disposed_of_isTicking ht
  cases outcome with
  | presented =>
    have hc : Loaded s.countFrame :=
      ⟨hs.renderer_iff_used, hs.used_iff_isLive, hs.not_paused_of_running, hs.paused_of_paused⟩
    exact coherent_finishTick _ now hc ht hp
  | skipped => exact coherent_finishTick _ now hs ht hp
  | failed reason => exact coherent_dispose_of_ne_disposed _ hd

theorem coherent_drawFrame (now : Nat) (r : β) (hs : Loaded s) (ht : s.phase.isTicking)
    (hp : s.pendingTick = none) (hr : s.renderer.isSome) :
    Coherent (drawFrame s now r h).1 := by
  have hpoll := sameStanding_pollTimer (s := s) h r
  unfold drawFrame
  simp only [bind_apply, Host.onGraphics_apply]
  generalize (pollTimer s r h).1.2.2 = t at hpoll
  have hdrawn (r' : β) : SameStanding s { t with renderer := some r' } :=
    ⟨hpoll.phase, hr.symm, hpoll.used, hpoll.paused, hpoll.pendingTick⟩
  apply coherent_afterDraw
  · exact (hdrawn _).loaded hs
  · exact hpoll.phase ▸ ht
  · exact hpoll.pendingTick.trans hp

/-- Where a tick looks for the uniforms and the renderer, it finds both. -/
theorem isSome_beginTick [Seconds ρ] (now : Nat) (hs : Loaded s) (ht : s.phase.isTicking) :
    (beginTick s now h).1.2.2.used.isSome ∧ (beginTick s now h).1.2.2.renderer.isSome := by
  have hb := sameStanding_beginTick (s := s) h now
  have hu : s.used.isSome := hs.used_iff_isLive.2 (isLive_of_isTicking ht)
  rw [hb.used, hb.renderer]
  exact ⟨hu, hs.renderer_iff_used.2 hu⟩

theorem coherent_tick [Seconds ρ] (now : Nat) (today : Date) (hs : Coherent s) :
    Coherent (tick s now today h).1 := by
  by_cases ht : s.phase.isTicking ∧ s.pendingTick.isSome
  · have hl : Loaded { s with pendingTick := none } :=
      ⟨hs.renderer_iff_used, hs.used_iff_isLive, hs.not_paused_of_running, hs.paused_of_paused⟩
    have hb := sameStanding_beginTick (s := s) h now
    obtain ⟨hu, hr⟩ := isSome_beginTick h now hs.toLoaded ht.1
    rw [tick_eq_runTick s now today ht.1 ht.2]
    rcases he : beginTick s now h with ⟨⟨elapsed, delta, t⟩, h'⟩
    rw [he] at hb hu hr
    obtain ⟨used, hu'⟩ := Option.isSome_iff_exists.1 hu
    obtain ⟨r, hr'⟩ := Option.isSome_iff_exists.1 hr
    rw [runTick_of_eq_some s h now today he hu' hr']
    apply coherent_drawFrame
    · have hblock (block : UniformBlock) : SameStanding t { t with block } :=
        ⟨rfl, rfl, rfl, rfl, rfl⟩
      exact (hb.trans (hblock _)).loaded hl
    · exact hb.phase ▸ ht.1
    · exact hb.pendingTick
    · exact hr
  · rw [tick_eq_pure s now today ht]
    exact hs

/-! ## Runs -/

theorem coherent_operate [Seconds ρ] (op : Operation ρ β G) (hs : Coherent s) :
    Coherent (operate s op h).1 := by
  cases op with
  | load source width height connect => exact coherent_load h source width height connect hs
  | start => exact coherent_start h hs
  | setPaused paused time => exact coherent_setPaused h paused time hs
  | halt => exact coherent_halt h hs
  | resize width height => exact (sameStanding_resize h width height).coherent hs
  | requestSize width height => exact (sameStanding_requestSize width height).coherent hs
  | pointerMoved x y => exact (sameStanding_pointerMoved x y).coherent hs
  | pointerPressed x y => exact (sameStanding_pointerPressed x y).coherent hs
  | tick now today => exact coherent_tick h now today hs
  | dispose => exact coherent_dispose h hs

theorem coherent_run [Seconds ρ] (ops : List (Operation ρ β G)) (hs : Coherent s) :
    Coherent (run s ops h).1 :=
  run_induction (P := fun s _ => Coherent s) ops (fun op _ _ h => coherent_operate h op) hs

end Operations

theorem Reachable.coherent [Seconds ρ] [Renderer G β] [Journal G] {s : Session ρ β}
    (hs : Reachable G s) : Coherent s := by
  obtain ⟨options, s₀, ops, h, hs₀, rfl⟩ := hs
  exact coherent_run h ops (coherent_of_create? hs₀)

/-- In every reachable session the fields that tell where it is in its life agree, and no tick finds
the uniforms or the renderer missing when it comes to draw. -/
theorem Reachable.fields_agree [Seconds ρ] [Renderer G β] [Journal G] {s : Session ρ β}
    (hs : Reachable G s) :
    (s.renderer.isSome ↔ s.used.isSome) ∧
      (s.used.isSome ↔ s.phase = .ready ∨ s.phase = .running ∨ s.phase = .paused) ∧
      (s.pendingTick.isSome ↔ s.phase = .running ∨ s.phase = .paused) ∧
      (s.phase = .running → s.clock.paused = false) ∧
      (s.phase = .paused → s.clock.paused = true) ∧
      ∀ (now : Nat) (h : Host G), s.phase.isTicking → s.pendingTick.isSome →
        (s.beginTick now h).1.2.2.used.isSome ∧ (s.beginTick now h).1.2.2.renderer.isSome := by
  have hc := hs.coherent
  refine ⟨hc.renderer_iff_used, ?_, ?_, hc.not_paused_of_running, hc.paused_of_paused, ?_⟩
  · rw [hc.used_iff_isLive]
    simp [Phase.isLive, or_assoc]
  · rw [hc.pendingTick_iff_isTicking]
    simp [Phase.isTicking]
  · exact fun now h ht _ => isSome_beginTick h now hc.toLoaded ht

/-- A new session with the options that hold unless others are given. -/
def freshSession : Session Float β :=
  (create? .default).get rfl

theorem create?_default :
    create? PreviewOptions.default = some (freshSession : Session Float β) := rfl

/-- A shader that draws nothing. -/
def blankShader : List Char := "void mainImage(out vec4 color, in vec2 coord) \x7b \x7d".toList

/-- A renderer without a timer whose draws all succeed. -/
def steadyRenderer : ScriptedRenderer := ⟨0, none, [], 0⟩

/-- A shader is loaded and started paused; time goes on behind the first tick. -/
def shortPreview : List (Operation Float ScriptedRenderer Recording) :=
  [.load blankShader 320 240 (ScriptedRenderer.connect (.ok steadyRenderer)), .setPaused true 1.5,
    .start, .tick 0 .zero, .setPaused false 1.5, .tick 16000000 .zero]

theorem Reachable.fields_agree_shortPreview :
    ∃ s, (run freshSession shortPreview (Host.ofGraphics Recording.empty)).1 = s ∧
      s.phase = .running ∧ s.renderer.isSome ∧ s.used.isSome ∧ s.pendingTick.isSome ∧
      s.clock.paused = false ∧ ∀ (now : Nat) (h : Host Recording),
        (s.beginTick now h).1.2.2.used.isSome ∧ (s.beginTick now h).1.2.2.renderer.isSome := by
  have hs : Reachable Recording
      (run freshSession shortPreview (Host.ofGraphics Recording.empty)).1 :=
    ⟨_, _, _, _, create?_default, rfl⟩
  have hphase : (run freshSession shortPreview (Host.ofGraphics Recording.empty)).1.phase =
      .running := by decide +kernel
  -- from here on the run is not to be evaluated
  generalize (run freshSession shortPreview (Host.ofGraphics Recording.empty)).1 = s at hs hphase
  obtain ⟨hr, hu, hp, hrun, -, htick⟩ := Reachable.fields_agree hs
  have hused := hu.2 (Or.inr (Or.inl hphase))
  have hpending := hp.2 (Or.inl hphase)
  refine ⟨s, rfl, hphase, hr.2 hused, hused, hpending, hrun hphase, fun now h => ?_⟩
  exact htick now h (by rw [hphase]; rfl) hpending

end Session

end ShaderPreview
