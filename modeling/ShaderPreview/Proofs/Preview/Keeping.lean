import ShaderPreview.Proofs.Preview.Lifecycle

/-!
# What a session keeps of the graphics world

A condition may relate the graphics world to the renderer that a session holds, if it holds one.  If
the calls of renderers keep the condition (`KeptByCalls`), and loads connect so that they do
(`Operation.Connects`), then the session keeps it in every operation (`meets_operate`) and so in every
run: what is known of the calls of a renderer becomes known of sessions, whatever else they do.
-/

namespace ShaderPreview

variable {ρ β G : Type}

/-- The calls of renderers keep a condition, and so do notes; a release leaves no renderer. -/
structure KeptByCalls [Renderer G β] [Journal G] (P : Option β → G → Prop) : Prop where
  note : ∀ held e g, P held g → P held (Journal.note e g).2
  configure : ∀ r width height g, P (some r) g →
    P (some (Renderer.configure r width height g).1) (Renderer.configure r width height g).2
  writeUniforms : ∀ r block g, P (some r) g →
    P (some (Renderer.writeUniforms r block g).1) (Renderer.writeUniforms r block g).2
  pollTimer : ∀ r g, P (some r) g →
    P (some (Renderer.pollTimer r g).1.2) (Renderer.pollTimer r g).2
  draw : ∀ r timed g, P (some r) g →
    P (some (Renderer.draw r timed g).1.2) (Renderer.draw r timed g).2
  release : ∀ r g, P (some r) g → P none (Renderer.release r g).2

/-- If the operation connects, then to a renderer of which the condition holds, or to none. -/
def Operation.Connects (P : Option β → G → Prop) : Operation ρ β G → Prop
  | .load _ _ _ connect => ∀ a width height g, P none g →
      P (connect a width height g).1.toOption (connect a width height g).2
  | _ => True

namespace Session

/-- The condition holds of the renderer of the session. -/
def Meets (P : Option β → G → Prop) (s : Session ρ β) (h : Host G) : Prop :=
  P s.renderer h.graphics

variable [Renderer G β] [Journal G] {P : Option β → G → Prop} (hk : KeptByCalls P)
  {s : Session ρ β} (h : Host G)

include hk

/-! ## The parts of an operation -/

theorem meets_start (hm : Meets P s h) : Meets P (start s h).1 (start s h).2 := by
  unfold start
  split
  · exact hm
  · simp only [bind_apply, Host.note_apply]
    unfold Meets
    rw [schedule_renderer, schedule_graphics]
    exact hk.note _ _ _ hm

theorem meets_setPaused [Seconds ρ] (paused : Bool) (time : ρ) (hm : Meets P s h) :
    Meets P (setPaused s paused time h).1 (setPaused s paused time h).2 := by
  unfold setPaused
  split
  · exact hm
  · simp only
    split
    · exact hk.note _ _ _ hm
    · exact hm

theorem meets_halt (hm : Meets P s h) : Meets P (halt s h).1 (halt s h).2 := by
  unfold halt
  split
  · exact hm
  · simp only [bind_apply, pure_apply, cancelPending_fst, Host.note_apply]
    apply hk.note
    rw [cancelPending_graphics]
    exact hm

theorem meets_releaseRenderer (hm : Meets P s h) : P none (releaseRenderer s h).2.graphics := by
  unfold releaseRenderer
  unfold Meets at hm
  rcases hr : s.renderer with _ | r
  · rw [hr] at hm
    exact hm
  · rw [hr] at hm
    exact hk.release r _ hm

theorem meets_teardown (hm : Meets P s h) : P none (teardown s h).2.graphics := by
  unfold teardown
  simp only [bind_apply, pure_apply, cancelPending_fst]
  apply meets_releaseRenderer hk
  unfold Meets
  rw [cancelPending_graphics]
  exact hm

theorem meets_dispose (hm : Meets P s h) : Meets P (dispose s h).1 (dispose s h).2 := by
  by_cases hd : s.phase = .disposed
  · rw [dispose_of_disposed s hd]
    exact hm
  · unfold dispose
    rw [if_neg hd]
    simp only [bind_apply, pure_apply, teardown_fst, Host.note_apply]
    exact hk.note _ _ _ (meets_teardown hk h hm)

theorem meets_noteAssembled (held : Option β) (remarks : Shader.Remarks)
    (hm : P held h.graphics) : P held (noteAssembled remarks h).2.graphics := by
  unfold noteAssembled
  simp only
  split
  · exact hk.note _ _ _ (hk.note _ _ _ hm)
  · exact hk.note _ _ _ hm

theorem meets_load [Seconds ρ] (source : List Char) (width height : Nat)
    {connect : Shader.Assembly → Nat → Nat → StateM G (Except ConnectError β)}
    (hc : ∀ a width height g, P none g →
      P (connect a width height g).1.toOption (connect a width height g).2)
    (hm : Meets P s h) :
    Meets P (load s source width height connect h).1.2
      (load s source width height connect h).2 := by
  by_cases hd : s.phase = .disposed
  · rw [load_of_disposed s source width height _ hd]
    exact hm
  · have hnone := meets_teardown hk h hm
    unfold load
    rw [if_neg hd]
    simp only [bind_apply, teardown_fst]
    rcases Shader.Assembly.read source with e | ⟨a, remarks⟩
    · exact hnone
    · have hconnect := hc a (max width 1) (max height 1) _
        (meets_noteAssembled hk (teardown s h).2 none remarks hnone)
      simp only [bind_apply, Host.onGraphics_apply]
      generalize connect a (max width 1) (max height 1) _ = answer at hconnect ⊢
      obtain ⟨e | r, g⟩ := answer
      · exact hconnect
      · exact hk.note _ _ _ hconnect

theorem meets_resize (width height : Nat) (hm : Meets P s h) :
    Meets P (resize s width height h).1 (resize s width height h).2 := by
  by_cases hr : s.phase.isLive ∧ s.Resizes width height ∧ s.renderer.isSome
  · obtain ⟨r, hs⟩ := Option.isSome_iff_exists.1 hr.2.2
    rw [resize_of_resizes s h hr.1 hr.2.1 hs]
    unfold Meets at hm
    rw [hs] at hm
    exact hk.note _ _ _ (hk.configure r width height _ hm)
  · rw [resize_eq_pure s hr]
    exact hm

/-! ## The parts of a tick -/

theorem meets_applyRequestedSize (hm : Meets P s h) :
    Meets P (applyRequestedSize s h).1 (applyRequestedSize s h).2 := by
  unfold applyRequestedSize
  rcases s.requestedSize with _ | ⟨width, height⟩
  · exact hm
  · exact meets_resize hk (s := { s with requestedSize := none }) h width height hm

theorem meets_probeRate (now : Nat) (hm : Meets P s h) :
    Meets P (probeRate s now h).1 (probeRate s now h).2 := by
  unfold probeRate
  rcases s.probe.record now with ⟨finding, probe⟩
  cases finding with
  | nothing => exact hm
  | noInterval => exact hk.note _ _ _ hm
  | rate hz => exact hk.note _ _ _ (hk.note _ _ _ hm)

theorem meets_beginTick [Seconds ρ] (now : Nat) (hm : Meets P s h) :
    Meets P (beginTick s now h).1.2.2 (beginTick s now h).2 := by
  have happlied := meets_applyRequestedSize hk (s := { s with pendingTick := none }) h hm
  unfold beginTick
  simp only [bind_apply, pure_apply]
  apply meets_probeRate hk
  unfold Meets
  obtain ⟨telemetry, hrecord⟩ := recordInterval_frame
    { (applyRequestedSize { s with pendingTick := none } h).1 with
      clock := ((applyRequestedSize { s with pendingTick := none } h).1.clock.advance now).2.2 } now
  rw [hrecord]
  exact happlied

theorem meets_recordGpu (held : Option β) (ms : Float) (hm : P held h.graphics) :
    P held (recordGpu s ms h).2.graphics := by
  unfold recordGpu
  split
  · exact hm
  · exact hk.note _ _ _ hm

theorem meets_pollTimer (r : β) (hm : P (some r) h.graphics) :
    P (some (pollTimer s r h).1.2.1) (pollTimer s r h).2.graphics := by
  unfold pollTimer
  split
  · exact hm
  · have hpoll := hk.pollTimer r h.graphics hm
    simp only [bind_apply, Host.onGraphics_apply]
    generalize Renderer.pollTimer r h.graphics = answer at hpoll ⊢
    obtain ⟨⟨_ | _ | ms, r⟩, g⟩ := answer
    · exact hpoll
    · exact hpoll
    · exact meets_recordGpu hk { h with graphics := g } (some r) ms hpoll

theorem meets_publishIfDue (held : Option β) (hm : P held h.graphics) :
    P held (publishIfDue s h).2.graphics := by
  unfold publishIfDue
  split
  · exact hk.note _ _ _ hm
  · exact hm

theorem meets_afterDraw (now : Nat) (outcome : DrawOutcome) (hm : Meets P s h) :
    Meets P (afterDraw s now outcome h).1 (afterDraw s now outcome h).2 := by
  have hfinish (s : Session ρ β) (h : Host G) (hm : Meets P s h) :
      Meets P (finishTick s now h).1 (finishTick s now h).2 := by
    unfold finishTick Meets
    rw [schedule_renderer, schedule_graphics]
    exact hm
  cases outcome with
  | presented =>
    exact hfinish s.countFrame _ (meets_publishIfDue hk (s := s.countFrame) h s.renderer hm)
  | skipped => exact hfinish s _ (hk.note _ _ _ hm)
  | failed reason => exact meets_dispose hk _ (hk.note _ _ _ hm)

theorem meets_drawFrame (now : Nat) (r : β) (hm : P (some r) h.graphics) :
    Meets P (drawFrame s now r h).1 (drawFrame s now r h).2 := by
  have hpoll := meets_pollTimer hk (s := s) h r hm
  unfold drawFrame
  simp only [bind_apply]
  generalize pollTimer s r h = answer at hpoll ⊢
  obtain ⟨⟨timed, r', t⟩, h'⟩ := answer
  exact meets_afterDraw hk _ now _ (hk.draw r' timed h'.graphics hpoll)

theorem meets_tick [Seconds ρ] (now : Nat) (today : Date) (hm : Meets P s h) :
    Meets P (tick s now today h).1 (tick s now today h).2 := by
  unfold tick
  split
  · exact hm
  · have hbegin := meets_beginTick hk h now hm
    rcases hb : beginTick s now h with ⟨⟨elapsed, delta, t⟩, h'⟩
    rw [hb] at hbegin
    unfold Meets at hbegin
    -- a tick without uniforms or without a renderer ends here
    rcases hr : t.renderer with _ | r
    · simp only [runTick, bind_apply, hb, hr]
      unfold Meets
      rcases t.used <;> exact hbegin
    rcases hu : t.used with _ | used
    · simp only [runTick, bind_apply, hb, hu]
      exact hbegin
    · rw [runTick_of_eq_some s h now today hb hu hr]
      rw [hr] at hbegin
      exact meets_drawFrame hk _ now _ (hk.writeUniforms r _ _ hbegin)

/-! ## Operations and runs -/

variable [Seconds ρ]

theorem meets_operate {op : Operation ρ β G} (hop : op.Connects P) (hm : Meets P s h) :
    Meets P (operate s op h).1 (operate s op h).2 := by
  cases op with
  | load source width height connect => exact meets_load hk h source width height hop hm
  | start => exact meets_start hk h hm
  | setPaused paused time => exact meets_setPaused hk h paused time hm
  | halt => exact meets_halt hk h hm
  | resize width height => exact meets_resize hk h width height hm
  | requestSize width height => exact hm
  | pointerMoved x y =>
    show P (s.pointerMoved x y).renderer h.graphics
    unfold pointerMoved
    split <;> exact hm
  | pointerPressed x y =>
    show P (s.pointerPressed x y).renderer h.graphics
    unfold pointerPressed
    split <;> exact hm
  | tick now today => exact meets_tick hk h now today hm
  | dispose => exact meets_dispose hk h hm

theorem meets_run {ops : List (Operation ρ β G)} (hops : ∀ op ∈ ops, op.Connects P)
    (hm : Meets P s h) : Meets P (run s ops h).1 (run s ops h).2 :=
  run_induction ops (fun op hop _ h' => meets_operate hk h' (hops op hop)) hm

/-- At the end of a session no renderer is held. -/
theorem meets_run_dispose {ops : List (Operation ρ β G)} (hops : ∀ op ∈ ops, op.Connects P)
    (hs : Coherent s) (hm : Meets P s h) :
    P none (run s (ops ++ [.dispose]) h).2.graphics := by
  have hend := meets_dispose hk _ (meets_run hk h hops hm)
  have hcoherent := coherent_dispose (run s ops h).2 (coherent_run h ops hs)
  unfold Meets at hend
  rw [hcoherent.renderer_eq_none (dispose_phase _ _)] at hend
  rw [run_append_apply]
  exact hend

end Session

end ShaderPreview
