import ShaderPreview.Proofs.Preview.Lifecycle

/-!
# All that an operation can do

The session behind an operation hangs on the one before it and on a few answers: of the connection,
of the tick queue, and of the renderer.  `ticked` is the session behind a tick as a function of these.
`StepsTo` lists what each operation can lead to, and `stepsTo_operate` says that nothing else happens
to a coherent session; what later modules say about runs they read off that list.
-/

namespace ShaderPreview

namespace Session

variable {ρ β G : Type}

/-! ## The parts of a tick -/

/-- The size that the next tick applies: the one asked for, if neither of its sides is zero and it
is another one than that of the session. -/
def sizeToApply (s : Session ρ β) : Option (Nat × Nat) :=
  s.requestedSize.filter fun (width, height) =>
    width ≠ 0 ∧ height ≠ 0 ∧ (s.width, s.height) ≠ (width, height)

theorem sizeToApply_eq_some_iff {s : Session ρ β} {width height : Nat} :
    s.sizeToApply = some (width, height) ↔
      s.requestedSize = some (width, height) ∧ s.Resizes width height := by
  simp only [sizeToApply, Resizes, Option.filter_eq_some_iff, decide_eq_true_eq]

/-- The size at which the next tick draws. -/
def nextSize (s : Session ρ β) : Nat × Nat := s.sizeToApply.getD (s.width, s.height)

/-- The session with the size asked for, if that is to be applied. -/
def withRequestedSize (s : Session ρ β) : Session ρ β :=
  { s with
    requestedSize := none
    width := s.nextSize.1
    height := s.nextSize.2
    block :=
      if s.sizeToApply.isSome then (s.withSize s.nextSize.1 s.nextSize.2).block else s.block }

/-- The session in which a tick writes the uniforms. -/
def begun [Seconds ρ] (s : Session ρ β) (now : Nat) : Session ρ β :=
  { s.withRequestedSize with
    pendingTick := none
    clock := (s.clock.advance now).2.2
    telemetry := (s.recordInterval now).telemetry
    probe := (s.probe.record now).2 }

/-- The uniform block that a tick writes for a shader that reads the given uniforms. -/
def frameBlock [Seconds ρ] (s : Session ρ β) (now : Nat) (today : Date)
    (used : Shader.UniformSet) : UniformBlock :=
  (s.begun now).block.writeFrame used
    ((s.begun now).frameInputs (s.clock.advance now).1 (s.clock.advance now).2.1 today)

/-- The time that an answer of the timer makes known, if it is kept. -/
def keptTime? : Option TimerPoll → Option Float
  | some (.ready ms) => if Telemetry.acceptsGpu ms then some ms else none
  | _ => none

/-- The session behind an answer of the timer, if there is a timer to ask. -/
def withPoll (s : Session ρ β) (poll : Option TimerPoll) : Session ρ β :=
  { s with
    telemetry := ((keptTime? poll).map s.telemetry.recordGpu).getD s.telemetry
    lastGpuTime := (keptTime? poll).or s.lastGpuTime }

/-- The session behind a draw; the token is that of the next tick. -/
def drawn (s : Session ρ β) (now token : Nat) : DrawOutcome → Session ρ β
  | .presented =>
    { s.countFrame with
      clock := { s.clock with previousTick := some now }, pendingTick := some token }
  | .skipped =>
    { s with clock := { s.clock with previousTick := some now }, pendingTick := some token }
  | .failed _ => { s.unloaded with phase := .disposed }

/-- The session that draws in a tick, with the renderer that did. -/
def drawing [Seconds ρ] (s : Session ρ β) (now : Nat) (today : Date) (used : Shader.UniformSet)
    (poll : Option TimerPoll) (r : β) : Session ρ β :=
  { ({ s.begun now with block := s.frameBlock now today used }).withPoll poll with
    renderer := some r }

/-! ## Parts as functions of the answers -/

section Size

variable {s : Session ρ β} {width height : Nat}

theorem withRequestedSize_of_eq_some (hn : s.sizeToApply = some (width, height)) :
    s.withRequestedSize = { s.withSize width height with requestedSize := none } := by
  simp only [withRequestedSize, nextSize, hn, Option.getD_some, Option.isSome_some, if_true]
  rfl

theorem withRequestedSize_of_eq_none (hn : s.sizeToApply = none) :
    s.withRequestedSize = { s with requestedSize := none } := by
  simp only [withRequestedSize, nextSize, hn, Option.getD_none, Option.isSome_none, if_false,
    Bool.false_eq_true]

theorem sizeToApply_eq_none (hq : s.requestedSize = some (width, height))
    (hz : ¬ s.Resizes width height) : s.sizeToApply = none := by
  simp only [sizeToApply, hq, Option.filter_eq_none_iff, Option.some.injEq, forall_eq']
  simpa [Resizes] using hz

end Size

theorem previousTick_advance [Seconds ρ] (c : Clock ρ) (now : Nat) :
    (c.advance now).2.2.previousTick = c.previousTick := by
  unfold Clock.advance
  split
  · rfl
  · simp only [Clock.started, Clock.applyResume]
    split <;> rfl

section Parts

variable [Journal G] {s : Session ρ β} (h : Host G)

theorem recordGpu_fst (ms : Float) :
    (recordGpu s ms h).1 = s.withPoll (some (.ready ms)) := by
  unfold recordGpu withPoll keptTime?
  simp only
  split <;> rfl

variable [Renderer G β]

theorem applyRequestedSize_fst (hl : s.phase.isLive) (hr : s.renderer.isSome) :
    ∃ r, (applyRequestedSize s h).1 = { s.withRequestedSize with renderer := some r } := by
  obtain ⟨r, hs⟩ := Option.isSome_iff_exists.1 hr
  unfold applyRequestedSize
  rcases hq : s.requestedSize with _ | ⟨width, height⟩
  · have hn : s.sizeToApply = none := by simp [sizeToApply, hq]
    refine ⟨r, ?_⟩
    rw [withRequestedSize_of_eq_none hn]
    exact congr (congrArg (fun r q => { s with renderer := r, requestedSize := q }) hs) hq
  · simp only
    by_cases hz : s.Resizes width height
    · have hn : s.sizeToApply = some (width, height) := sizeToApply_eq_some_iff.2 ⟨hq, hz⟩
      rw [resize_of_resizes { s with requestedSize := none } h hl hz hs,
        withRequestedSize_of_eq_some hn]
      exact ⟨_, rfl⟩
    · rw [resize_eq_pure { s with requestedSize := none } fun hc => hz hc.2.1,
        withRequestedSize_of_eq_none (sizeToApply_eq_none hq hz)]
      exact ⟨r, congrArg (fun r => { s with renderer := r, requestedSize := none }) hs⟩

variable (now : Nat)

theorem beginTick_fst [Seconds ρ] (hl : s.phase.isLive) (hr : s.renderer.isSome) :
    ∃ r, (beginTick s now h).1 =
      ((s.clock.advance now).1, (s.clock.advance now).2.1,
        { s.begun now with renderer := some r }) := by
  obtain ⟨r, ha⟩ := applyRequestedSize_fst (s := { s with pendingTick := none }) h hl hr
  refine ⟨r, ?_⟩
  unfold beginTick
  simp only [bind_apply, pure_apply, probeRate_fst]
  rw [ha]
  have hc : ({ s with pendingTick := none } : Session ρ β).withRequestedSize.clock = s.clock := rfl
  unfold begun recordInterval
  simp only [hc, previousTick_advance]
  rcases s.clock.previousTick <;> rfl

theorem pollTimer_fst (r : β) : ∃ poll, (pollTimer s r h).1.2.2 = s.withPoll poll := by
  unfold pollTimer
  split
  · exact ⟨none, rfl⟩
  · simp only [bind_apply, Host.onGraphics_apply]
    rcases (Renderer.pollTimer r h.graphics).1 with ⟨_ | _ | ms, r⟩
    · exact ⟨none, rfl⟩
    · exact ⟨none, rfl⟩
    · exact ⟨some (.ready ms), recordGpu_fst _ ms⟩

theorem afterDraw_fst (outcome : DrawOutcome) (hd : s.phase ≠ .disposed)
    (hp : s.pendingTick = none) :
    (afterDraw s now outcome h).1 = s.drawn now h.ticks.request.1 outcome := by
  cases outcome with
  | presented =>
    simp only [afterDraw, bind_apply]
    rw [finishTick_of_eq_none _ _ now (by exact hp), publishIfDue_ticks]
    rfl
  | skipped =>
    simp only [afterDraw, bind_apply]
    rw [finishTick_of_eq_none _ _ now (by exact hp)]
    rfl
  | failed reason =>
    simp only [afterDraw, bind_apply]
    exact dispose_of_ne_disposed s _ hd

theorem drawFrame_fst (r : β) (hd : s.phase ≠ .disposed) (hp : s.pendingTick = none) :
    ∃ poll outcome r' token, (drawFrame s now r h).1 =
      ({ s.withPoll poll with renderer := some r' }).drawn now token outcome := by
  obtain ⟨poll, hpoll⟩ := pollTimer_fst (s := s) h r
  unfold drawFrame
  simp only [bind_apply, Host.onGraphics_apply]
  rw [hpoll]
  exact ⟨poll, _, _, _, afterDraw_fst _ now _ hd hp⟩

/-- The part of a tick that follows its beginning. -/
theorem runTick_of_begun [Seconds ρ] (today : Date) {used : Shader.UniformSet} {r : β} {h' : Host G}
    (hu : s.used = some used)
    (hb : beginTick s now h = (((s.clock.advance now).1, (s.clock.advance now).2.1,
      { s.begun now with renderer := some r }), h')) :
    runTick s now today h =
      drawFrame
        { s.begun now with renderer := some r, block := s.frameBlock now today used } now
        (Renderer.writeUniforms r (s.frameBlock now today used) h'.graphics).1
        { h' with
          graphics := (Renderer.writeUniforms r (s.frameBlock now today used) h'.graphics).2 } :=
  runTick_of_eq_some s h now today hb hu rfl

/-- The session behind a tick that somebody waits for. -/
theorem runTick_fst [Seconds ρ] (today : Date) (hs : Loaded s) (ht : s.phase.isTicking) :
    ∃ used poll outcome r token, s.used = some used ∧
      (runTick s now today h).1 = (s.drawing now today used poll r).drawn now token outcome := by
  have hl := isLive_of_isTicking ht
  have hd := ne_disposed_of_isTicking ht
  obtain ⟨used, hu⟩ := hs.exists_used hl
  obtain ⟨r, hb⟩ := beginTick_fst (s := s) h now hl (hs.isSome_renderer hl)
  obtain ⟨poll, outcome, r', token, hdraw⟩ := drawFrame_fst
    (s := { s.begun now with renderer := some r, block := s.frameBlock now today used })
    { (beginTick s now h).2 with graphics := (Renderer.writeUniforms r
      (s.frameBlock now today used) (beginTick s now h).2.graphics).2 } now
    (Renderer.writeUniforms r (s.frameBlock now today used) (beginTick s now h).2.graphics).1 hd rfl
  refine ⟨used, poll, outcome, r', token, hu, ?_⟩
  rw [runTick_of_begun h now today hu (Prod.ext hb rfl)]
  exact hdraw

end Parts

/-! ## Operations -/

/-- The session has no use for the operation. -/
def Ignores (s : Session ρ β) : Operation ρ β G → Prop
  | .load .. => s.phase = .disposed
  | .start => s.phase ≠ .ready
  | .setPaused .. => s.phase = .disposed
  | .halt => ¬ s.phase.isTicking
  | .resize width height => ¬ (s.phase.isLive ∧ s.Resizes width height)
  | .requestSize .. => False
  | .pointerMoved .. => ¬ s.phase.isLive
  | .pointerPressed .. => ¬ s.phase.isLive
  | .tick .. => ¬ (s.phase.isTicking ∧ s.pendingTick.isSome)
  | .dispose => s.phase = .disposed

/-- What an operation can lead to. -/
inductive StepsTo [Seconds ρ] (s : Session ρ β) : Operation ρ β G → Session ρ β → Prop where
  | ignored {op : Operation ρ β G} (hi : s.Ignores op) : StepsTo s op s
  | loaded {source : List Char} {width height : Nat}
      {connect : Shader.Assembly → Nat → Nat → StateM G (Except ConnectError β)}
      (hd : s.phase ≠ .disposed) (a : Shader.Assembly) (r : β) :
      StepsTo s (.load source width height connect)
        (s.unloaded.withShader a (max width 1) (max height 1) r)
  | unloaded {source : List Char} {width height : Nat}
      {connect : Shader.Assembly → Nat → Nat → StateM G (Except ConnectError β)}
      (hd : s.phase ≠ .disposed) : StepsTo s (.load source width height connect) s.unloaded
  | started (hr : s.phase = .ready) (token : Nat) :
      StepsTo s .start
        { s with
          phase := if s.clock.paused then .paused else .running, pendingTick := some token }
  | paused {paused : Bool} {time : ρ} (hd : s.phase ≠ .disposed) :
      StepsTo s (.setPaused paused time)
        { s with clock := s.clock.setPaused paused time, phase := s.phase.afterPause paused }
  | halted (ht : s.phase.isTicking) : StepsTo s .halt { s with pendingTick := none, phase := .ready }
  | resized {width height : Nat} (hl : s.phase.isLive) (hz : s.Resizes width height) (r : β) :
      StepsTo s (.resize width height) { s.withSize width height with renderer := some r }
  | sizeRequested {width height : Nat} :
      StepsTo s (.requestSize width height) (s.requestSize width height)
  | pointerMoved {x y : Float32} (hl : s.phase.isLive) :
      StepsTo s (.pointerMoved x y) { s with pointer := s.pointer.moved x y s.height }
  | pointerPressed {x y : Float32} (hl : s.phase.isLive) :
      StepsTo s (.pointerPressed x y) { s with pointer := s.pointer.pressed x y s.height }
  | ticked {now : Nat} {today : Date} (ht : s.phase.isTicking) (hp : s.pendingTick.isSome)
      {used : Shader.UniformSet} (hu : s.used = some used) (poll : Option TimerPoll) (r : β)
      (outcome : DrawOutcome) (token : Nat) :
      StepsTo s (.tick now today) ((s.drawing now today used poll r).drawn now token outcome)
  | disposed (hd : s.phase ≠ .disposed) :
      StepsTo s .dispose { s.unloaded with phase := .disposed }

theorem stepsTo_operate [Seconds ρ] [Renderer G β] [Journal G] {s : Session ρ β} (h : Host G)
    (op : Operation ρ β G) (hs : Coherent s) : StepsTo s op (operate s op h).1 := by
  cases op with
  | load source width height connect =>
    by_cases hd : s.phase = .disposed
    · simp only [operate]
      rw [load_of_disposed s source width height connect hd]
      exact .ignored hd
    · simp only [operate, bind_apply, pure_apply]
      rcases load_frame s h source width height connect hd with ⟨a, r, hl⟩ | ⟨e, hl⟩
      · rw [hl]
        exact .loaded hd a r
      · rw [hl]
        exact .unloaded hd
  | start =>
    by_cases hr : s.phase = .ready
    · have hp : s.pendingTick = none := by
        simpa [hr, Phase.isTicking] using hs.pendingTick_iff_isTicking
      simp only [operate, start, hr, ne_eq, not_true_eq_false, if_false, bind_apply]
      rw [schedule_of_eq_none _ _ (by exact hp)]
      exact .started hr _
    · simp only [operate]
      rw [start_of_ne_ready s hr]
      exact .ignored hr
  | setPaused paused time =>
    by_cases hd : s.phase = .disposed
    · simp only [operate]
      rw [setPaused_of_disposed s paused time hd]
      exact .ignored hd
    · simp only [operate]
      rw [setPaused_fst s h paused time hd]
      exact .paused hd
  | halt =>
    by_cases ht : s.phase.isTicking
    · simp only [operate, halt, ht, Bool.not_true, Bool.false_eq_true, if_false, bind_apply,
        pure_apply, cancelPending_fst]
      exact .halted ht
    · simp only [operate]
      rw [halt_of_not_isTicking s (by simpa using ht)]
      exact .ignored ht
  | resize width height =>
    simp only [operate]
    by_cases hr : s.phase.isLive ∧ s.Resizes width height
    · obtain ⟨r, hr'⟩ := hs.exists_renderer hr.1
      rw [resize_of_resizes s h hr.1 hr.2 hr']
      exact .resized hr.1 hr.2 _
    · rw [resize_eq_pure s fun hc => hr ⟨hc.1, hc.2.1⟩]
      exact .ignored hr
  | requestSize width height => exact .sizeRequested
  | pointerMoved x y =>
    simp only [operate, pure_apply]
    by_cases hl : s.phase.isLive
    · rw [pointerMoved, if_pos hl]
      exact .pointerMoved hl
    · rw [pointerMoved_of_not_isLive s x y (by simpa using hl)]
      exact .ignored hl
  | pointerPressed x y =>
    simp only [operate, pure_apply]
    by_cases hl : s.phase.isLive
    · rw [pointerPressed, if_pos hl]
      exact .pointerPressed hl
    · rw [pointerPressed_of_not_isLive s x y (by simpa using hl)]
      exact .ignored hl
  | tick now today =>
    simp only [operate]
    by_cases ht : s.phase.isTicking ∧ s.pendingTick.isSome
    · obtain ⟨used, poll, outcome, r, token, hu, hrun⟩ :=
        runTick_fst h now today hs.toLoaded ht.1
      rw [tick_eq_runTick s now today ht.1 ht.2, hrun]
      exact .ticked ht.1 ht.2 hu poll r outcome token
    · rw [tick_eq_pure s now today ht]
      exact .ignored ht
  | dispose =>
    simp only [operate]
    by_cases hd : s.phase = .disposed
    · rw [dispose_of_disposed s hd]
      exact .ignored hd
    · rw [dispose_of_ne_disposed s h hd]
      exact .disposed hd

end Session

end ShaderPreview
