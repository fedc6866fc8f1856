import ShaderPreview.Proofs.Preview.Effect

/-!
# Loading erases the past

Through all operations a session keeps how it measures and reports (`SameSetup`): its options, and
its telemetry up to what was measured.  A load that succeeds sets everything else anew, except the
pause with the time shown in it, the refresh rate probe, and a size asked for; so it leaves the
session that the same load makes of a new one.
-/

namespace ShaderPreview

theorem Window.clear_push {α : Type} (w : Window α) (x : α) : (w.push x).clear = w.clear := by
  unfold push
  split <;> rfl

namespace Telemetry

variable (t : Telemetry)

theorem reset_recordFrame (ms : Float) : (t.recordFrame ms).reset = t.reset := by
  simp only [reset, recordFrame, Window.clear_push]

theorem reset_recordGpu (ms : Float) : (t.recordGpu ms).reset = t.reset := by
  unfold recordGpu
  split
  · simp only [reset, Window.clear_push]
  · rfl

end Telemetry

namespace Session

variable {ρ β G : Type}

/-! ## What stays -/

/-- Both sessions measure and report in the same way. -/
structure SameSetup (s t : Session ρ β) : Prop where
  options : t.options = s.options
  telemetry : t.telemetry.reset = s.telemetry.reset

theorem reset_telemetry_recordInterval (s : Session ρ β) (now : Nat) :
    (s.recordInterval now).telemetry.reset = s.telemetry.reset := by
  unfold recordInterval
  split
  · exact Telemetry.reset_recordFrame _ _
  · rfl

theorem reset_telemetry_withPoll (s : Session ρ β) (poll : Option TimerPoll) :
    (s.withPoll poll).telemetry.reset = s.telemetry.reset := by
  unfold withPoll
  rcases keptTime? poll with _ | ms
  · rfl
  · exact Telemetry.reset_recordGpu _ _

variable [Seconds ρ]

theorem sameSetup_drawing (s : Session ρ β) (now : Nat) (today : Date) (used : Shader.UniformSet)
    (poll : Option TimerPoll) (r : β) : SameSetup s (s.drawing now today used poll r) :=
  ⟨rfl, (reset_telemetry_withPoll _ poll).trans (reset_telemetry_recordInterval s now)⟩

omit [Seconds ρ] in
theorem sameSetup_drawn (s : Session ρ β) (now token : Nat) (outcome : DrawOutcome) :
    SameSetup s (s.drawn now token outcome) := by
  cases outcome <;> exact ⟨rfl, rfl⟩

theorem StepsTo.sameSetup {s t : Session ρ β} {op : Operation ρ β G} (h : StepsTo s op t) :
    SameSetup s t := by
  cases h with
  | @ticked now today _ _ used _ poll r outcome token =>
    have hdrawing := sameSetup_drawing s now today used poll r
    have hdrawn := sameSetup_drawn (s.drawing now today used poll r) now token outcome
    exact ⟨hdrawn.options.trans hdrawing.options, hdrawn.telemetry.trans hdrawing.telemetry⟩
  | _ => exact ⟨rfl, rfl⟩

theorem sameSetup_run [Renderer G β] [Journal G] {s : Session ρ β} (h : Host G)
    (ops : List (Operation ρ β G)) (hs : Coherent s) : SameSetup s (run s ops h).1 := by
  have step : ∀ op ∈ ops, ∀ (t : Session ρ β) (h : Host G), Coherent t ∧ SameSetup s t →
      Coherent (operate t op h).1 ∧ SameSetup s (operate t op h).1 := by
    rintro op - t h ⟨ht, hst⟩
    have hop := (stepsTo_operate h op ht).sameSetup
    exact ⟨coherent_operate h op ht, hop.options.trans hst.options,
      hop.telemetry.trans hst.telemetry⟩
  exact (run_induction (P := fun t _ => Coherent t ∧ SameSetup s t) ops step ⟨hs, rfl, rfl⟩).2

/-! ## What is set anew -/

section Load

variable [Renderer G β] [Journal G] {s : Session ρ β} {h : Host G}
variable {source : List Char} {width height : Nat}
variable {connect : Shader.Assembly → Nat → Nat → StateM G (Except ConnectError β)}

theorem load_eq_ok {s' : Session ρ β} {h' : Host G}
    (hl : load s source width height connect h = ((.ok (), s'), h')) :
    s.phase ≠ .disposed ∧ ∃ a remarks r, Shader.Assembly.read source = .ok (a, remarks) ∧
      s' = s.unloaded.withShader a (max width 1) (max height 1) r := by
  have hd : s.phase ≠ .disposed := by
    intro hd
    rw [load_of_disposed s source width height connect hd] at hl
    cases hl
  refine ⟨hd, ?_⟩
  unfold load at hl
  rw [if_neg hd] at hl
  simp only [bind_apply, teardown_fst] at hl
  rcases ha : Shader.Assembly.read source with e | ⟨a, remarks⟩
  · rw [ha] at hl
    cases hl
  · rw [ha] at hl
    simp only [bind_apply, Host.onGraphics_apply] at hl
    rcases hc : (connect a (max width 1) (max height 1) _).1 with e | r
    · rw [hc] at hl
      cases hl
    · rw [hc] at hl
      cases hl
      exact ⟨a, remarks, r, rfl, rfl⟩

theorem load_of_connects {a : Shader.Assembly} {remarks : Shader.Remarks} {r : β}
    (hd : s.phase ≠ .disposed) (ha : Shader.Assembly.read source = .ok (a, remarks))
    (hc : ∀ g, (connect a (max width 1) (max height 1) g).1 = .ok r) :
    (load s source width height connect h).1 =
      (.ok (), s.unloaded.withShader a (max width 1) (max height 1) r) := by
  unfold load
  rw [if_neg hd]
  simp only [bind_apply, teardown_fst, ha, Host.onGraphics_apply]
  rw [hc]
  rfl

/-- Whatever was asked of a session, a load that succeeds leaves the session that the same load,
with the same renderer for an answer of the connection, leaves of a new one with these options.  Only
the pause and the time shown in it, the refresh rate probe and the size asked for are those of the
session before. -/
theorem load_erases_history {options : PreviewOptions} {s₀ s' : Session ρ β} {h₀ h' : Host G}
    (hs₀ : create? options = some s₀) (ops : List (Operation ρ β G))
    (hrun : run s₀ ops h₀ = (s, h))
    (hl : load s source width height connect h = ((.ok (), s'), h')) :
    ∃ r, s'.renderer = some r ∧
      ∀ (connect₁ : Shader.Assembly → Nat → Nat → StateM G (Except ConnectError β)) (h₁ : Host G),
        (∀ a g, (connect₁ a (max width 1) (max height 1) g).1 = .ok r) →
        ∃ t h₁', load s₀ source width height connect₁ h₁ = ((.ok (), t), h₁') ∧
          s' = { t with
            clock := { t.clock with paused := s.clock.paused, frozen := s.clock.frozen }
            probe := s.probe
            requestedSize := s.requestedSize } := by
  obtain ⟨-, a, remarks, r, ha, rfl⟩ := load_eq_ok hl
  refine ⟨r, rfl, fun connect₁ h₁ hc => ?_⟩
  have hsetup : SameSetup s₀ s := by
    have hall := sameSetup_run h₀ ops (coherent_of_create? hs₀)
    rwa [hrun] at hall
  have hd : s₀.phase ≠ .disposed := by
    rw [(create?_frame hs₀).1]
    decide
  refine ⟨_, _, Prod.ext (load_of_connects hd ha fun g => hc a g) rfl, ?_⟩
  simp only [withShader, unloaded, Clock.restarted, hsetup.options, hsetup.telemetry]

end Load

theorem exists_read_blankShader :
    ∃ a remarks, Shader.Assembly.read blankShader = .ok (a, remarks) := by
  have hok : (Shader.Assembly.read blankShader).toBool := by decide +kernel
  rcases h : Shader.Assembly.read blankShader with e | ⟨a, remarks⟩
  · rw [h] at hok
    cases hok
  · exact ⟨a, remarks, rfl⟩

theorem load_erases_history_shortPreview :
    ∃ (s s' t : Session Float ScriptedRenderer) (h : Host Recording),
      run freshSession shortPreview (Host.ofGraphics Recording.empty) = (s, h) ∧
      s.frameCount = 2 ∧
      (load s blankShader 640 480 (ScriptedRenderer.connect (.ok steadyRenderer)) h).1 =
        (.ok (), s') ∧
      (load freshSession blankShader 640 480 (ScriptedRenderer.connect (.ok steadyRenderer))
        (Host.ofGraphics Recording.empty)).1 = (.ok (), t) ∧
      s' = { t with
        clock := { t.clock with paused := s.clock.paused, frozen := s.clock.frozen }
        probe := s.probe
        requestedSize := s.requestedSize } := by
  obtain ⟨a, remarks, ha⟩ := exists_read_blankShader
  have hplayed : (run freshSession shortPreview (Host.ofGraphics Recording.empty)).1.phase =
        .running ∧
      (run freshSession shortPreview (Host.ofGraphics Recording.empty)).1.frameCount = 2 := by
    decide +kernel
  rcases hrun : run freshSession shortPreview (Host.ofGraphics Recording.empty) with ⟨s, h⟩
  rw [hrun] at hplayed
  have hl : (load s blankShader 640 480 (ScriptedRenderer.connect (.ok steadyRenderer)) h).1 =
      (.ok (), s.unloaded.withShader a 640 480 steadyRenderer) :=
    load_of_connects (by rw [hplayed.1]; decide) ha fun _ => rfl
  obtain ⟨r, hr, hnew⟩ := load_erases_history create?_default shortPreview hrun (Prod.ext hl rfl)
  obtain rfl := Option.some.inj hr
  obtain ⟨t, h', ht, hs'⟩ := hnew (ScriptedRenderer.connect (.ok steadyRenderer))
    (Host.ofGraphics Recording.empty) fun _ _ => rfl
  exact ⟨s, _, t, h, rfl, hplayed.2, hl, congrArg Prod.fst ht, hs'⟩

end Session

end ShaderPreview
