import ShaderPreview.Proofs.Preview.Lifecycle
import ShaderPreview.Proofs.Preview.Logbook

/-!
# The calls of a tick

A tick that nobody waits for does nothing.  Any other applies the size asked for, writes the
uniforms, asks for the last measurement, and draws; only a draw that failed is followed by another
call, the release.  Each of these parts made its entries in `Logbook`; here they are put in order.
-/

namespace ShaderPreview

/-- The draw failed. -/
def DrawOutcome.fails : DrawOutcome → Bool
  | failed _ => true
  | _ => false

/-- What a tick asked of its renderer and which renderers it left behind. -/
structure TickCalls (β : Type) where
  size : Option (Nat × Nat)
  resized : β
  block : UniformBlock
  written : β
  poll : Option (TimerPoll × β)
  timed : Bool
  outcome : DrawOutcome
  drawn : β

namespace TickCalls

variable {β : Type}

/-- The calls up to the draw, in their order. -/
def drawing (c : TickCalls β) : List (RendererCall β) :=
  (c.size.toList.map fun (width, height) => .configure width height c.resized) ++
    ([.writeUniforms c.block c.written] ++
      ((c.poll.toList.map fun (answer, behind) => .pollTimer answer behind) ++
        [.draw c.timed c.outcome c.drawn]))

/-- All calls, in their order. -/
def calls (c : TickCalls β) : List (RendererCall β) :=
  c.drawing ++ if c.outcome.fails then [.release] else []

end TickCalls

namespace Session

variable {ρ β G : Type} [Renderer G β] [Journal G]

/-! ## The parts of a tick -/

variable {s : Session ρ (Logged β)} (h : Host (Logbook G β)) {r : Logged β} (now : Nat)

theorem entered_beginTick [Seconds ρ] (hl : s.phase.isLive) (hr : s.renderer = some r) :
    ∃ resized : β, (beginTick s now h).1.2.2.renderer = some ⟨r.number, resized⟩ ∧
      Entered h (s.sizeToApply.toList.map fun (width, height) =>
          .called r.number (.configure width height resized)) (beginTick s now h).2 := by
  obtain ⟨resized, hres, hent⟩ :=
    entered_applyRequestedSize (s := { s with pendingTick := none }) h hl hr
  unfold beginTick
  simp only [bind_apply, pure_apply]
  generalize applyRequestedSize { s with pendingTick := none } h = p at hres hent
  refine ⟨resized, ?_, ?_⟩
  · rw [probeRate_fst]
    obtain ⟨_, hi⟩ := recordInterval_frame
      { p.1 with clock := (p.1.clock.advance now).2.2 } now
    rw [hi]
    exact hres
  · have hall := hent.trans (entered_probeRate (s := recordInterval
      { p.1 with clock := (p.1.clock.advance now).2.2 } now) p.2 now)
    rw [List.append_nil] at hall
    exact hall

theorem afterDraw_of_not_fails {outcome : DrawOutcome} (ho : ¬ outcome.fails)
    (hp : s.pendingTick = none) :
    (afterDraw s now outcome h).1.renderer = s.renderer ∧
      (afterDraw s now outcome h).1.pendingTick = some h.ticks.request.1 ∧
      (afterDraw s now outcome h).2.graphics.entries = h.graphics.entries ∧
      (afterDraw s now outcome h).2.ticks = h.ticks.request.2 := by
  cases outcome with
  | presented =>
    simp only [afterDraw, bind_apply]
    rw [finishTick_of_eq_none _ _ now (by exact hp), publishIfDue_ticks]
    exact ⟨rfl, rfl, publishIfDue_entries h, rfl⟩
  | skipped =>
    simp only [afterDraw, bind_apply]
    rw [finishTick_of_eq_none _ _ now (by exact hp)]
    exact ⟨rfl, rfl, rfl, rfl⟩
  | failed reason => exact absurd rfl ho

theorem afterDraw_of_fails {outcome : DrawOutcome} (ho : outcome.fails) (hd : s.phase ≠ .disposed)
    (hp : s.pendingTick = none) (hr : s.renderer = some r) :
    (afterDraw s now outcome h).1 = { s.unloaded with phase := .disposed } ∧
      Entered h [.called r.number .release] (afterDraw s now outcome h).2 := by
  cases outcome with
  | failed reason =>
    simp only [afterDraw, bind_apply]
    refine ⟨dispose_of_ne_disposed s _ hd, ?_⟩
    exact (Entered.note h .drawFailed).trans (entered_dispose _ hd hp hr)
  | presented => exact absurd ho (by decide)
  | skipped => exact absurd ho (by decide)

theorem entries_afterDraw (outcome : DrawOutcome) (hd : s.phase ≠ .disposed)
    (hp : s.pendingTick = none) (hr : s.renderer = some r) :
    (afterDraw s now outcome h).2.graphics.entries =
      h.graphics.entries ++ if outcome.fails then [.called r.number .release] else [] := by
  split
  · rename_i ho
    exact (afterDraw_of_fails h now ho hd hp hr).2.entries
  · rename_i ho
    rw [(afterDraw_of_not_fails h now ho hp).2.2.1, List.append_nil]

/-- The draw of a frame up to its end, which is `afterDraw`. -/
theorem entered_drawFrame (r : Logged β) :
    ∃ (poll : Option (TimerPoll × β)) (timed : Bool) (outcome : DrawOutcome) (drawn : β)
      (h' : Host (Logbook G β)),
      (poll.isSome ↔ Renderer.hasTimer G r.renderer) ∧
      (timed ↔ Renderer.hasTimer G r.renderer ∧ ∀ behind, poll ≠ some (.pending, behind)) ∧
      Entered h ((poll.toList.map fun (answer, behind) =>
          .called r.number (.pollTimer answer behind)) ++
        [.called r.number (.draw timed outcome drawn)]) h' ∧
      drawFrame s now r h =
        afterDraw { s.withPoll (poll.map Prod.fst) with renderer := some ⟨r.number, drawn⟩ } now
          outcome h' := by
  obtain ⟨poll, polled, hq, hs, hpoll, htimed, hent⟩ := entered_pollTimer (s := s) h r
  unfold drawFrame
  simp only [bind_apply, Host.onGraphics_apply]
  rw [hq, hs]
  generalize pollTimer s r h = p at htimed hent
  obtain ⟨⟨timed, polled', t⟩, h₁⟩ := p
  rw [Logbook.draw_apply]
  rcases Renderer.draw polled timed h₁.graphics.graphics with ⟨⟨outcome, drawn⟩, world⟩
  refine ⟨poll, timed, outcome, drawn, _, hpoll, htimed, ?_, rfl⟩
  exact hent.trans ⟨rfl, rfl, rfl⟩

/-- A tick up to the end of its draw, which is `afterDraw`. -/
theorem entered_runTick [Seconds ρ] (today : Date) (hs : Loaded s) (ht : s.phase.isTicking) :
    ∃ (r : Logged β) (c : TickCalls β) (used : Shader.UniformSet) (h' : Host (Logbook G β)),
      s.renderer = some r ∧ s.used = some used ∧ c.size = s.sizeToApply ∧
      c.block = s.frameBlock now today used ∧
      (c.poll.isSome ↔ Renderer.hasTimer G c.written) ∧
      (c.timed ↔ Renderer.hasTimer G c.written ∧ ∀ behind, c.poll ≠ some (.pending, behind)) ∧
      Entered h (c.drawing.map (.called r.number)) h' ∧
      runTick s now today h =
        afterDraw (s.drawing now today used (c.poll.map Prod.fst) ⟨r.number, c.drawn⟩) now
          c.outcome h' := by
  obtain ⟨used, hu⟩ := hs.exists_used (isLive_of_isTicking ht)
  obtain ⟨r, hr⟩ := hs.exists_renderer (isLive_of_isTicking ht)
  -- the beginning
  obtain ⟨resized, hres, hbegin⟩ := entered_beginTick h now (isLive_of_isTicking ht) hr
  obtain ⟨r', hb⟩ := beginTick_fst (s := s) h now (isLive_of_isTicking ht)
    (Option.isSome_of_eq_some hr)
  rw [hb] at hres
  obtain rfl := Option.some.inj hres
  rcases he : beginTick s now h with ⟨begun, h₁⟩
  rw [he] at hb hbegin
  rw [runTick_of_begun h now today hu (he.trans (Prod.ext hb rfl))]
  -- the uniforms
  rw [Logbook.writeUniforms_apply]
  rcases Renderer.writeUniforms resized (s.frameBlock now today used) h₁.graphics.graphics with
    ⟨written, world⟩
  have hwrite : Entered h₁ [.called r.number (.writeUniforms (s.frameBlock now today used) written)]
    { h₁ with graphics := ⟨world, h₁.graphics.entries ++
      [.called r.number (.writeUniforms (s.frameBlock now today used) written)]⟩ } := ⟨rfl, rfl, rfl⟩
  -- the measurement and the draw
  obtain ⟨poll, timed, outcome, drawn, h₂, hpoll, htimed, hdraw, heq⟩ :=
    entered_drawFrame
      (s := { s.begun now with
        renderer := some ⟨r.number, resized⟩, block := s.frameBlock now today used })
      { h₁ with graphics := ⟨world, h₁.graphics.entries ++
        [.called r.number (.writeUniforms (s.frameBlock now today used) written)]⟩ } now
      (⟨r.number, written⟩ : Logged β)
  refine ⟨r, ⟨s.sizeToApply, resized, s.frameBlock now today used, written, poll, timed, outcome,
    drawn⟩, used, h₂, hr, hu, rfl, rfl, hpoll, htimed, ?_, heq⟩
  have hall := hbegin.trans (hwrite.trans hdraw)
  simpa [TickCalls.drawing, Function.comp_def] using hall

/-! ## The whole tick -/

/-- A tick that somebody waits for makes its calls in their order. -/
theorem runTick_calls [Seconds ρ] (today : Date) (hs : Loaded s) (ht : s.phase.isTicking) :
    ∃ (r : Logged β) (c : TickCalls β), s.renderer = some r ∧ c.size = s.sizeToApply ∧
      (c.poll.isSome ↔ Renderer.hasTimer G c.written) ∧
      (c.timed ↔ Renderer.hasTimer G c.written ∧ ∀ behind, c.poll ≠ some (.pending, behind)) ∧
      (runTick s now today h).2.graphics.entries =
        h.graphics.entries ++ c.calls.map (.called r.number) ∧
      (c.outcome.fails →
        (runTick s now today h).2.ticks = h.ticks ∧
          (runTick s now today h).2.published = h.published ∧
          (runTick s now today h).1.phase = .disposed ∧
          (runTick s now today h).1.renderer = none ∧
          (runTick s now today h).1.frameCount = s.frameCount) ∧
      (¬ c.outcome.fails →
        (runTick s now today h).2.ticks = h.ticks.request.2 ∧
          (runTick s now today h).1.pendingTick = some h.ticks.request.1 ∧
          (runTick s now today h).1.renderer = some ⟨r.number, c.drawn⟩) := by
  obtain ⟨r, c, used, h', hr, -, hsize, -, hpoll, htimed, hdrawing, hq⟩ :=
    entered_runTick h now today hs ht
  have hd : (s.drawing now today used (c.poll.map Prod.fst) ⟨r.number, c.drawn⟩).phase ≠
      .disposed := ne_disposed_of_isTicking ht
  have htr : (s.drawing now today used (c.poll.map Prod.fst) ⟨r.number, c.drawn⟩).renderer =
      some ⟨r.number, c.drawn⟩ := rfl
  have hpend : (s.drawing now today used (c.poll.map Prod.fst)
      ⟨r.number, c.drawn⟩).pendingTick = none := rfl
  have hcount : (s.drawing now today used (c.poll.map Prod.fst)
      ⟨r.number, c.drawn⟩).frameCount = s.frameCount := rfl
  -- from here on the session that draws is known by these fields
  generalize s.drawing now today used (c.poll.map Prod.fst) ⟨r.number, c.drawn⟩ = t
    at hq hd htr hpend hcount
  rw [hq]
  refine ⟨r, c, hr, hsize, hpoll, htimed, ?_⟩
  by_cases ho : c.outcome.fails
  · obtain ⟨hend, hrelease⟩ := afterDraw_of_fails h' now ho hd hpend htr
    have hall := hdrawing.trans hrelease
    rw [hend]
    refine ⟨?_, fun _ => ⟨hall.ticks, hall.published, rfl, rfl, hcount⟩, fun hn => absurd ho hn⟩
    rw [hall.entries, TickCalls.calls, if_pos ho, List.map_append]
    rfl
  · obtain ⟨hend, hnext, hentries, hticks⟩ := afterDraw_of_not_fails h' now ho hpend
    refine ⟨?_, fun hf => absurd hf ho, fun _ => ⟨?_, ?_, hend.trans htr⟩⟩
    · rw [hentries, hdrawing.entries, TickCalls.calls, if_neg ho, List.append_nil]
    · rw [hticks, hdrawing.ticks]
    · rw [hnext, hdrawing.ticks]

/-- In a reachable session a tick that nobody waits for does nothing.  Any other makes one call to
apply the size asked for, if it is to be applied, one to write the uniforms, one to ask for the last
measurement, if there is a timer, and one to draw, in this order.  If the draw fails the renderer
is released and the session over; otherwise one more tick is asked for. -/
theorem tick_calls [Seconds ρ] (hs : Reachable (Logbook G β) s) (today : Date) :
    (¬ (s.phase.isTicking ∧ s.pendingTick.isSome) →
      tick s now today = (pure s : StateM (Host (Logbook G β)) (Session ρ (Logged β)))) ∧
    (s.phase.isTicking → s.pendingTick.isSome →
      ∀ (h h' : Host (Logbook G β)) (s' : Session ρ (Logged β)), tick s now today h = (s', h') →
        ∃ (r : Logged β) (c : TickCalls β), s.renderer = some r ∧
          h'.graphics.entries = h.graphics.entries ++ c.calls.map (.called r.number) ∧
          c.size = s.sizeToApply ∧
          (c.poll.isSome ↔ Renderer.hasTimer G c.written) ∧
          (c.timed ↔
            Renderer.hasTimer G c.written ∧ ∀ behind, c.poll ≠ some (.pending, behind)) ∧
          (¬ c.outcome.fails →
            h'.ticks = h.ticks.request.2 ∧ s'.pendingTick = some h.ticks.request.1) ∧
          (c.outcome.fails →
            h'.ticks = h.ticks ∧ h'.published = h.published ∧ s'.phase = .disposed ∧
              s'.renderer = none ∧ s'.frameCount = s.frameCount)) := by
  refine ⟨tick_eq_pure s now today, fun ht hp h h' s' hq => ?_⟩
  obtain ⟨r, c, hr, hsize, hpoll, htimed, hentries, hfailed, hdrawn⟩ :=
    runTick_calls h now today hs.coherent.toLoaded ht
  rw [tick_eq_runTick s now today ht hp] at hq
  rw [hq] at hentries hfailed hdrawn
  exact ⟨r, c, hr, hentries, hsize, hpoll, htimed,
    fun ho => ⟨(hdrawn ho).1, (hdrawn ho).2.1⟩, hfailed⟩

/-- A host with an empty logbook. -/
def blankHost : Host (Logbook Recording ScriptedRenderer) := Host.ofGraphics ⟨Recording.empty, []⟩

/-- A shader is loaded and started, and another size is asked for; its renderer has a timer. -/
def resizingPreview : List (Operation Float ScriptedRenderer Recording) :=
  [.load blankShader 320 240 (ScriptedRenderer.connect (.ok ⟨0, some [.pending], [], 0⟩)), .start,
    .requestSize 640 480]

theorem tick_calls_resizingPreview :
    ∃ s : Session Float (Logged ScriptedRenderer),
      (run freshSession (resizingPreview.map .logged) blankHost).1 = s ∧
      ∃ (r : Logged ScriptedRenderer) (c : TickCalls ScriptedRenderer), s.renderer = some r ∧
        (tick s 0 .zero blankHost).2.graphics.entries = c.calls.map (.called r.number) ∧
        c.size = some (640, 480) := by
  have hs : Reachable (Logbook Recording ScriptedRenderer)
      (run freshSession (resizingPreview.map .logged) blankHost).1 :=
    ⟨_, _, _, _, create?_default, rfl⟩
  have hwaited : (run freshSession (resizingPreview.map .logged) blankHost).1.phase.isTicking ∧
      (run freshSession (resizingPreview.map .logged) blankHost).1.pendingTick.isSome ∧
      (run freshSession (resizingPreview.map .logged) blankHost).1.sizeToApply =
        some (640, 480) := by decide +kernel
  -- from here on the run is not to be evaluated
  generalize (run freshSession (resizingPreview.map .logged) blankHost).1 = s at hs hwaited
  obtain ⟨hticking, hpending, happlied⟩ := hwaited
  obtain ⟨r, c, hr, hentries, hsize, -⟩ :=
    (tick_calls 0 hs .zero).2 hticking hpending blankHost _ _ rfl
  exact ⟨s, rfl, r, c, hr, hentries, hsize.trans happlied⟩

end Session

end ShaderPreview
